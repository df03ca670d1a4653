import Netherwick.HigherBrain.AcquisitionDiscipline
import Netherwick.Lib.Grace

/-! # The grace interval before a takeover

The forebrain remembers since when it has seen nobody in control. Several branches of its tick
return without looking at that memory. -/

namespace Netherwick.HigherBrain

open Netherwick.Lib

namespace HostFailover

variable {m m' : HostFailover} {o : ConnectivityObservation}

section Reading

variable (m o)

/-- The branches that return without touching the grace timer: own control, a direct path that has
not been there long enough, ordinary Wi-Fi, searching and joining. -/
def leavesTimer : Bool :=
  !m.config.enabled || m.selfControls o ||
    if o.directPeerReachable && m.peerObservationFresh o then !m.directPathStable o
    else (o.ordinaryWifiPeerReachable && m.peerObservationFresh o) ||
      o.nowMs - m.outageSinceMs.getD o.nowMs < m.config.ordinarySearchMs ||
      !o.brainstemNetworkAssociated

/-- The tick sees an owner, or nothing fresh, and the running timer does not hear of it. -/
def overlooks : Bool :=
  m.uncontrolledSinceMs.isSome && (m.freshUncontrolled o).isNone && m.leavesTimer o

def startsGrace : Bool :=
  m.uncontrolledSinceMs.isNone && (m.freshUncontrolled o).isSome && m.pathsExhausted o

end Reading

/-- What a forebrain tick can do with the grace timer. -/
inductive GraceStep (m : HostFailover) (o : ConnectivityObservation) (m' : HostFailover)
    (d : FailoverDecision) : Prop
  | kept (hleaves : m.leavesTimer o = true)
      (hsince : m'.uncontrolledSinceMs = m.uncontrolledSinceMs)
      (hactions : ∀ generation, .attemptAtomicAcquisition generation ∉ d.actions)
  | cleared (hsince : m'.uncontrolledSinceMs = none)
      (hactions : ∀ generation, .attemptAtomicAcquisition generation ∉ d.actions)
  | running (hpaths : m.pathsExhausted o = true) (hfresh : (m.freshUncontrolled o).isSome = true)
      (hsince : m'.uncontrolledSinceMs = some (m.uncontrolledSinceMs.getD o.nowMs))
      (hactions : ∀ generation, .attemptAtomicAcquisition generation ∈ d.actions →
        m.config.takeoverGraceMs ≤ o.nowMs - m.uncontrolledSinceMs.getD o.nowMs)

theorem tickEligibleForebrain_uncontrolledSinceMs (m : HostFailover) (o : ConnectivityObservation)
    (generation : Nat) :
    (m.tickEligibleForebrain o generation).1.uncontrolledSinceMs = m.uncontrolledSinceMs := by
  unfold tickEligibleForebrain
  repeat' split
  all_goals simp

theorem tickOrphanedForebrain_graceStep {m₁ : HostFailover} (hconfig : m₁.config = m.config)
    (hsince : m₁.uncontrolledSinceMs = m.uncontrolledSinceMs) (hpaths : m.pathsExhausted o = true) :
    m.GraceStep o (m₁.tickOrphanedForebrain o).1 (m₁.tickOrphanedForebrain o).2 := by
  have hstatus : m₁.freshUncontrolled o = m.freshUncontrolled o := by
    simp [freshUncontrolled, hconfig]
  unfold tickOrphanedForebrain
  rw [hstatus]
  split
  · apply GraceStep.cleared <;> simp
  · rename_i generation hfresh
    have hfresh : (m.freshUncontrolled o).isSome = true := by simp [hfresh]
    extract_lets uncontrolledSince m₂
    split
    · apply GraceStep.running hpaths hfresh
      · simp [m₂, uncontrolledSince, hsince]
      · simp
    · rename_i hgrace
      apply GraceStep.running hpaths hfresh
      · rw [tickEligibleForebrain_uncontrolledSinceMs]
        simp [m₂, uncontrolledSince, hsince]
      · intro _ _
        have helapsed : m₁.graceElapsed o uncontrolledSince = true := by
          rwa [Bool.not_eq_true', Bool.not_eq_false] at hgrace
        simp only [graceElapsed, Bool.and_eq_true, decide_eq_true_eq] at helapsed
        rw [← hconfig, ← hsince]
        exact helapsed.2

theorem tickForebrain_graceStep (m : HostFailover) (o : ConnectivityObservation) :
    m.GraceStep o (m.tickForebrain o).1 (m.tickForebrain o).2 := by
  unfold tickForebrain
  split
  · rename_i hself
    have hleaves : m.leavesTimer o = true := by simp [leavesTimer, hself]
    unfold tickControllingForebrain
    extract_lets m₁
    split
    · apply GraceStep.kept hleaves
      · simp [m₁]
      · rw [transitionDecision_actions]
        split <;> simp
    · apply GraceStep.kept hleaves <;> simp [m₁]
  · split
    · rename_i hdirect
      unfold tickDirectForebrain
      extract_lets m₁
      split
      · apply GraceStep.cleared <;> simp
      · rename_i hstable
        have hstable : ¬m.directPathStable o = true := hstable
        apply GraceStep.kept
        · simp [leavesTimer, hdirect, hstable]
        · simp [m₁]
        · cases m₁.activePath <;> simp
    · rename_i hdirect
      unfold tickSearchingForebrain
      extract_lets outageSince m₁
      split
      · rename_i hwifi
        have hwifi : (o.ordinaryWifiPeerReachable && m.peerObservationFresh o) = true := hwifi
        apply GraceStep.kept
        · simp [leavesTimer, hdirect, hwifi]
        · simp [m₁]
        · simp
      · rename_i hwifi
        have hwifi : ¬(o.ordinaryWifiPeerReachable && m.peerObservationFresh o) = true := hwifi
        split
        · rename_i hsearch
          have hsearch : o.nowMs - m.outageSinceMs.getD o.nowMs < m.config.ordinarySearchMs :=
            hsearch
          apply GraceStep.kept
          · simp [leavesTimer, hdirect, hsearch]
          · simp [m₁]
          · simp
        · rename_i hsearch
          have hsearch : m.config.ordinarySearchMs ≤ o.nowMs - m.outageSinceMs.getD o.nowMs :=
            Nat.not_lt.mp hsearch
          split
          · rename_i hassociated
            apply GraceStep.kept
            · simp [leavesTimer, hdirect, hassociated]
            · simp [m₁]
            · simp
          · rename_i hassociated
            rw [Bool.not_eq_true', Bool.not_eq_false] at hassociated
            split
            · apply GraceStep.cleared <;> simp
            · rename_i htransit
              have htransit : ¬(o.peerReachableViaBrainstem && m.peerObservationFresh o) = true :=
                htransit
              split
              · apply GraceStep.cleared <;> simp
              · refine tickOrphanedForebrain_graceStep rfl rfl ?_
                simp only [pathsExhausted, Bool.and_eq_true, Bool.not_eq_true',
                  decide_eq_true_eq]
                exact ⟨⟨⟨⟨by simpa using hdirect, by simpa using hwifi⟩, hsearch⟩, hassociated⟩,
                  by simpa using htransit⟩

theorem tick_graceStep (hkind : m.identity.kind = .forebrain) (o : ConnectivityObservation) :
    m.GraceStep o (m.tick o).1 (m.tick o).2 := by
  unfold tick
  split
  · rename_i hdisabled
    have hleaves : m.leavesTimer o = true := by simp [leavesTimer, hdisabled]
    apply GraceStep.kept hleaves rfl
    simp [decision]
  · split
    · rename_i hmotherbrain
      cases hkind.symm.trans hmotherbrain
    · exact tickForebrain_graceStep m o

end HostFailover

section Takeover

variable (config : FailoverConfig)

/-- The tick saw a fresh status that names no controller. -/
def TickRecord.Uncontrolled (e : TickRecord) : Prop :=
  (e.observation.controller.freshUncontrolled e.nowMs config.controllerFreshnessMs).isSome = true

/-- An attempt of this tick has the whole grace interval behind it. -/
def Takeover (e : TickRecord) (past : List TickRecord) : Prop :=
  ∀ generation, .attemptAtomicAcquisition generation ∈ e.decision.actions →
    Covered TickRecord.nowMs (TickRecord.Uncontrolled config) config.takeoverGraceMs e past

/-- The grace timer hears of contrary evidence, and does not start in a millisecond that had
some. -/
def Attended (e : TickRecord) (past : List TickRecord) : Prop :=
  e.before.overlooks e.observation = false ∧
    (e.before.startsGrace e.observation = true →
      ∀ r ∈ past, r.nowMs = e.nowMs → r.Uncontrolled config)

instance (e : TickRecord) : Decidable (e.Uncontrolled config) :=
  inferInstanceAs (Decidable (_ = true))

instance (e : TickRecord) (past : List TickRecord) : Decidable (Attended config e past) :=
  inferInstanceAs (Decidable (_ ∧ _))

variable {config} {identity : HostIdentity} {w : Watch} {o : ConnectivityObservation}

/-- A running timer was started by the first of an unbroken run of ticks. -/
structure GraceInv (identity : HostIdentity) (config : FailoverConfig) (w : Watch) : Prop where
  host : w.machine.identity = identity
  settings : w.machine.config = config
  timer : ∀ since, w.machine.uncontrolledSinceMs = some since →
    Sustained TickRecord.nowMs (TickRecord.Uncontrolled config) since w.history
  takeover : Annals (Takeover config) w.history

theorem graceInv_tick (hkind : identity.kind = .forebrain) (hgrace : 0 < config.takeoverGraceMs)
    (hattended : Attended config (w.record o) w.history)
    (hordered : (w.record o :: w.history).Pairwise fun newer older => older.nowMs ≤ newer.nowMs)
    (h : GraceInv identity config w) : GraceInv identity config (w.tick o) := by
  have hhost := HostFailover.tick_sameHost w.machine o
  have hevidence : (w.machine.freshUncontrolled o).isSome = true →
      (w.record o).Uncontrolled config := by
    intro hfresh
    rw [TickRecord.Uncontrolled, ← h.settings]
    exact hfresh
  have hquiet : (∀ generation,
      .attemptAtomicAcquisition generation ∉ (w.machine.tick o).2.actions) →
      Takeover config (w.record o) w.history := by
    intro hactions generation hmem
    exact absurd hmem (hactions generation)
  cases HostFailover.tick_graceStep (h.host ▸ hkind) o with
  | kept hleaves hsince hactions =>
    refine ⟨hhost.1.trans h.host, hhost.2.trans h.settings, ?_, hquiet hactions, h.takeover⟩
    intro since hrunning
    have hrunning : w.machine.uncontrolledSinceMs = some since := hsince ▸ hrunning
    apply (h.timer since hrunning).extend
    apply hevidence
    have hheard : w.machine.overlooks o = false := hattended.1
    simpa [HostFailover.overlooks, hrunning, hleaves] using hheard
  | cleared hsince hactions =>
    refine ⟨hhost.1.trans h.host, hhost.2.trans h.settings, ?_, hquiet hactions, h.takeover⟩
    intro since hrunning
    cases hsince.symm.trans hrunning
  | running hpaths hfresh hsince hactions =>
    have htimer : Sustained TickRecord.nowMs (TickRecord.Uncontrolled config)
        (w.machine.uncontrolledSinceMs.getD o.nowMs) (w.record o :: w.history) := by
      cases hbefore : w.machine.uncontrolledSinceMs with
      | some since => exact (h.timer since hbefore).extend (hevidence hfresh)
      | none =>
        apply Sustained.start (hevidence hfresh)
        apply hattended.2
        simp [Watch.record, HostFailover.startsGrace, hbefore, hfresh, hpaths]
    refine ⟨hhost.1.trans h.host, hhost.2.trans h.settings, ?_, ?_, h.takeover⟩
    · intro since hrunning
      cases hsince.symm.trans hrunning
      exact htimer
    · intro generation hmem
      have helapsed := hactions generation hmem
      rw [h.settings] at helapsed
      apply htimer.covered hordered
      show _ ≤ o.nowMs
      omega

theorem run_observations (m : HostFailover) (observations : List ConnectivityObservation) :
    (Watch.run m observations).history.map TickRecord.observation = observations.reverse := by
  have hrun : ∀ w : Watch, (observations.foldl Watch.tick w).history.map TickRecord.observation =
      observations.reverse ++ w.history.map TickRecord.observation := by
    induction observations with
    | nil =>
      intro w
      rfl
    | cons o observations ih =>
      intro w
      rw [List.foldl_cons, ih, List.reverse_cons, List.append_assoc]
      rfl
  rw [Watch.run, hrun, List.map_nil, List.append_nil]

/-- What every tick preserves, in a run that is in order and whose records satisfy `p`, a run
preserves. -/
theorem run_inv {p : TickRecord → List TickRecord → Prop} {inv : Watch → Prop} {m : HostFailover}
    {observations : List ConnectivityObservation}
    (hordered : observations.Pairwise fun earlier later => earlier.nowMs ≤ later.nowMs)
    (hp : Annals p (Watch.run m observations).history) (hstart : inv ⟨m, []⟩)
    (hstep : ∀ (w : Watch) (o : ConnectivityObservation), p (w.record o) w.history →
      ((w.record o :: w.history).Pairwise fun newer older => older.nowMs ≤ newer.nowMs) →
      inv w → inv (w.tick o)) : inv (Watch.run m observations) := by
  have hhistory : (Watch.run m observations).history.Pairwise
      fun newer older => older.nowMs ≤ newer.nowMs := by
    have hreverse : (observations.reverse).Pairwise fun newer older => older.nowMs ≤ newer.nowMs :=
      List.pairwise_reverse.mpr hordered
    rw [← run_observations m observations, List.pairwise_map] at hreverse
    exact hreverse
  have hgrow : ∀ (w : Watch) (o : ConnectivityObservation), w.history <:+ (w.tick o).history :=
    fun _ _ => List.suffix_cons _ _
  have hgood : ∀ old new : List TickRecord, old <:+ new →
      (Annals p new ∧ new.Pairwise fun newer older => older.nowMs ≤ newer.nowMs) →
      Annals p old ∧ old.Pairwise fun newer older => older.nowMs ≤ newer.nowMs :=
    fun _ _ hsuffix hnew => ⟨hnew.1.of_suffix hsuffix, hnew.2.sublist hsuffix.sublist⟩
  apply run_preserves hgrow hgood _ observations ⟨hp, hhistory⟩ hstart
  intro w o hlast hinv
  exact hstep w o hlast.1.1 hlast.2 hinv

namespace HostFailover

variable {nowMs : Nat} {m : HostFailover}

/-- **Takeover grace**: a forebrain whose timer hears of all contrary evidence attempts a takeover
only after the whole grace interval. -/
theorem run_takeover (h : new identity config nowMs = .ok m) (hkind : identity.kind = .forebrain)
    {observations : List ConnectivityObservation}
    (hordered : observations.Pairwise fun earlier later => earlier.nowMs ≤ later.nowMs)
    (hattended : Annals (Attended config) (Watch.run m observations).history) :
    Annals (Takeover config) (Watch.run m observations).history := by
  obtain ⟨hvalid, hidentity, hconfig, hsince, _⟩ := new_eq_ok h
  have hgrace := (FailoverConfig.timing_pos_of_validate hvalid).1
  have hstart : GraceInv identity config ⟨m, []⟩ := by
    refine ⟨hidentity, hconfig, ?_, trivial⟩
    intro since hrunning
    cases hsince.symm.trans hrunning
  have hrun : GraceInv identity config (Watch.run m observations) :=
    run_inv hordered hattended hstart fun w o => graceInv_tick hkind hgrace
  exact hrun.takeover

section Forebrain

/-- A forebrain that may take over, as it starts. -/
def forebrain : HostFailover where
  identity := ⟨"forebrain", "fore-boot", .forebrain⟩
  config := { takeoverEnabled := true }
  state := .preferredPath
  stateSinceMs := 0
  outageSinceMs := none
  uncontrolledSinceMs := none
  preferredSeenSinceMs := none
  lastAcquisitionAttemptMs := none
  lastAcquisitionGeneration := none
  activePath := none

theorem new_forebrain :
    new forebrain.identity { takeoverEnabled := true } 0 = .ok forebrain := rfl

/-- The status stays uncontrolled while the forebrain searches and waits. -/
def lonely : List ConnectivityObservation :=
  [{ nowMs := 0, controller := .uncontrolled 0 12 },
    { nowMs := 3000, brainstemNetworkAssociated := true, controller := .uncontrolled 3000 12 },
    { nowMs := 8000, brainstemNetworkAssociated := true, controller := .uncontrolled 8000 12 }]

/-- The same, but for one tick that sees the motherbrain in control over ordinary Wi-Fi. -/
def visited : List ConnectivityObservation :=
  [{ nowMs := 0, controller := .uncontrolled 0 12 },
    { nowMs := 3000, brainstemNetworkAssociated := true, controller := .uncontrolled 3000 12 },
    { nowMs := 4000, ordinaryWifiPeerReachable := true, peerObservedAtMs := some 4000,
      controller := .active "motherbrain" "mother-boot" 4000 6000 12 },
    { nowMs := 8000, brainstemNetworkAssociated := true, controller := .uncontrolled 8000 12 }]

theorem run_takeover_lonely :
    Annals (Takeover { takeoverEnabled := true }) (Watch.run forebrain lonely).history := by
  apply run_takeover new_forebrain rfl
  · simp [lonely]
  · decide

/-- The tick on ordinary Wi-Fi leaves the timer running through the motherbrain's control. -/
theorem grace_overlooks_controller :
    ¬∀ (identity : HostIdentity) (config : FailoverConfig) (nowMs : Nat) (m : HostFailover)
      (observations : List ConnectivityObservation), new identity config nowMs = .ok m →
      identity.kind = .forebrain →
      (observations.Pairwise fun earlier later => earlier.nowMs ≤ later.nowMs) →
      Annals (Takeover config) (Watch.run m observations).history := by
  intro h
  have hlast := (h forebrain.identity { takeoverEnabled := true } 0 forebrain visited new_forebrain
    rfl (by simp [visited])).1 12
  have hwindow := (hlast (by decide)).1
  exact absurd hwindow (by decide)

end Forebrain

end HostFailover

end Takeover

end Netherwick.HigherBrain
