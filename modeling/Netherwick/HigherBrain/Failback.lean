import Netherwick.HigherBrain.TakeoverGrace

/-! # The hysteresis of the preferred path

The forebrain remembers since when it has seen its peer on direct Ethernet. A tick that finds this
host in control returns without looking at the link. -/

namespace Netherwick.HigherBrain

open Netherwick.Lib

namespace HostFailover

variable {m : HostFailover} {o : ConnectivityObservation}

section Reading

variable (m o)

def seesDirectPeer : Bool := o.directPeerReachable && m.peerObservationFresh o

/-- The link is gone, and the dwell goes on. -/
def overlooksLoss : Bool :=
  m.preferredSeenSinceMs.isSome && !m.seesDirectPeer o && (!m.config.enabled || m.selfControls o)

def startsDwell : Bool :=
  m.preferredSeenSinceMs.isNone && m.seesDirectPeer o && !m.selfControls o

end Reading

/-- What a forebrain tick can do with the dwell. -/
inductive DwellStep (m : HostFailover) (o : ConnectivityObservation) (m' : HostFailover)
    (d : FailoverDecision) : Prop
  | kept (hblind : (!m.config.enabled || m.selfControls o) = true)
      (hsince : m'.preferredSeenSinceMs = m.preferredSeenSinceMs)
      (hstate : d.state = .preferredPath → m.state = .preferredPath)
  | seen (hself : m.selfControls o = false) (hseen : m.seesDirectPeer o = true)
      (hsince : m'.preferredSeenSinceMs = some (m.preferredSeenSinceMs.getD o.nowMs))
      (hstate : d.state = .preferredPath → m.state = .preferredPath ∨
        m.config.pathHysteresisMs ≤ o.nowMs - m.preferredSeenSinceMs.getD o.nowMs)
  | lost (hsince : m'.preferredSeenSinceMs = none) (hstate : d.state ≠ .preferredPath)

theorem transitionDecision_lost {next : ConnectivityState} {role : AdvertisedRole}
    {actions : List FailoverAction} {reason : String} (h : m.preferredSeenSinceMs = none)
    (hnext : next ≠ .preferredPath) :
    (m.transitionDecision o next role actions reason).1.preferredSeenSinceMs = none ∧
      (m.transitionDecision o next role actions reason).2.state ≠ .preferredPath := by
  rw [transitionDecision_preferredSeenSinceMs, transitionDecision_state]
  exact ⟨h, hnext⟩

theorem tickOrphanedForebrain_lost (h : m.preferredSeenSinceMs = none) :
    (m.tickOrphanedForebrain o).1.preferredSeenSinceMs = none ∧
      (m.tickOrphanedForebrain o).2.state ≠ .preferredPath := by
  unfold tickOrphanedForebrain
  split
  · exact transitionDecision_lost h (by decide)
  · extract_lets uncontrolledSince m₁
    split
    · exact transitionDecision_lost h (by decide)
    · unfold tickEligibleForebrain
      repeat' split
      all_goals exact transitionDecision_lost h (by decide)

theorem tickSearchingForebrain_lost (m : HostFailover) (o : ConnectivityObservation) :
    (m.tickSearchingForebrain o).1.preferredSeenSinceMs = none ∧
      (m.tickSearchingForebrain o).2.state ≠ .preferredPath := by
  unfold tickSearchingForebrain
  extract_lets outageSince m₁
  have horphaned : (m₁.tickOrphanedForebrain o).1.preferredSeenSinceMs = none ∧
      (m₁.tickOrphanedForebrain o).2.state ≠ .preferredPath := tickOrphanedForebrain_lost rfl
  repeat' split
  all_goals first | exact horphaned | exact transitionDecision_lost rfl (by decide)

theorem tickDirectForebrain_dwellStep (hself : m.selfControls o = false)
    (hseen : m.seesDirectPeer o = true) :
    m.DwellStep o (m.tickDirectForebrain o).1 (m.tickDirectForebrain o).2 := by
  unfold tickDirectForebrain
  extract_lets m₁
  split
  · rename_i hstable
    apply DwellStep.seen hself hseen
    · simp [m₁]
    · intro _
      simpa [directPathStable, m₁] using hstable
  · apply DwellStep.seen hself hseen
    · simp [m₁]
    · simp

theorem tick_dwellStep (hkind : m.identity.kind = .forebrain) (o : ConnectivityObservation) :
    m.DwellStep o (m.tick o).1 (m.tick o).2 := by
  unfold tick
  split
  · rename_i hdisabled
    exact .kept (by rw [hdisabled, Bool.true_or]) rfl id
  · rw [hkind]
    simp only
    unfold tickForebrain
    split
    · rename_i hself
      unfold tickControllingForebrain
      extract_lets m₁
      split
      · apply DwellStep.kept (by rw [hself, Bool.or_true]) <;> simp [m₁]
      · apply DwellStep.kept (by rw [hself, Bool.or_true]) <;> simp [m₁]
    · rename_i hself
      have hself : m.selfControls o = false := Bool.eq_false_iff.mpr hself
      split
      · rename_i hseen
        exact tickDirectForebrain_dwellStep hself hseen
      · have hlost := tickSearchingForebrain_lost m o
        exact .lost hlost.1 hlost.2

end HostFailover

section Failback

/-- The tick saw the peer on the preferred path. -/
def TickRecord.DirectPeer (e : TickRecord) : Prop := e.before.seesDirectPeer e.observation = true

/-- A return to the preferred path has the whole hysteresis interval behind it. -/
def Failback (config : FailoverConfig) (e : TickRecord) (past : List TickRecord) : Prop :=
  e.before.state ≠ .preferredPath → e.decision.state = .preferredPath →
    Covered TickRecord.nowMs TickRecord.DirectPeer config.pathHysteresisMs e past

/-- The dwell hears of a lost link, and does not start in a millisecond that lacked it. -/
def Dwelling (e : TickRecord) (past : List TickRecord) : Prop :=
  e.before.overlooksLoss e.observation = false ∧
    (e.before.startsDwell e.observation = true → ∀ r ∈ past, r.nowMs = e.nowMs → r.DirectPeer)

instance (e : TickRecord) : Decidable e.DirectPeer := inferInstanceAs (Decidable (_ = true))

instance (e : TickRecord) (past : List TickRecord) : Decidable (Dwelling e past) :=
  inferInstanceAs (Decidable (_ ∧ _))

variable {identity : HostIdentity} {config : FailoverConfig} {w : Watch}
  {o : ConnectivityObservation}

/-- A dwell was started by the first of an unbroken run of ticks. -/
structure DwellInv (identity : HostIdentity) (config : FailoverConfig) (w : Watch) : Prop where
  host : w.machine.identity = identity
  settings : w.machine.config = config
  dwell : ∀ since, w.machine.preferredSeenSinceMs = some since →
    Sustained TickRecord.nowMs TickRecord.DirectPeer since w.history
  failback : Annals (Failback config) w.history

theorem dwellInv_tick (hkind : identity.kind = .forebrain) (hpos : 0 < config.pathHysteresisMs)
    (hdwelling : Dwelling (w.record o) w.history)
    (hordered : (w.record o :: w.history).Pairwise fun newer older => older.nowMs ≤ newer.nowMs)
    (h : DwellInv identity config w) : DwellInv identity config (w.tick o) := by
  have hhost := HostFailover.tick_sameHost w.machine o
  cases HostFailover.tick_dwellStep (h.host ▸ hkind) o with
  | kept hblind hsince hstate =>
    refine ⟨hhost.1.trans h.host, hhost.2.trans h.settings, ?_,
      fun hleft hback => absurd (hstate hback) hleft, h.failback⟩
    intro since hrunning
    have hrunning : w.machine.preferredSeenSinceMs = some since := hsince ▸ hrunning
    apply (h.dwell since hrunning).extend
    have hheard : w.machine.overlooksLoss o = false := hdwelling.1
    have hseen : w.machine.seesDirectPeer o = true := by
      simpa [HostFailover.overlooksLoss, hrunning, hblind] using hheard
    exact hseen
  | seen hself hseen hsince hstate =>
    have hdwell : Sustained TickRecord.nowMs TickRecord.DirectPeer
        (w.machine.preferredSeenSinceMs.getD o.nowMs) (w.record o :: w.history) := by
      cases hbefore : w.machine.preferredSeenSinceMs with
      | some since => exact (h.dwell since hbefore).extend hseen
      | none =>
        apply Sustained.start (show (w.record o).DirectPeer from hseen)
        apply hdwelling.2
        simp [Watch.record, HostFailover.startsDwell, hbefore, hseen, hself]
    refine ⟨hhost.1.trans h.host, hhost.2.trans h.settings, ?_, ?_, h.failback⟩
    · intro since hrunning
      cases hsince.symm.trans hrunning
      exact hdwell
    · intro hleft hback
      have hlong := (hstate hback).resolve_left hleft
      rw [h.settings] at hlong
      apply hdwell.covered hordered
      show _ ≤ o.nowMs
      omega
  | lost hsince hstate =>
    refine ⟨hhost.1.trans h.host, hhost.2.trans h.settings, ?_,
      fun _ hback => absurd hback hstate, h.failback⟩
    intro since hrunning
    cases hsince.symm.trans hrunning

namespace HostFailover

variable {nowMs : Nat} {m : HostFailover}

/-- **Failback hysteresis**: a forebrain whose dwell hears of every loss of the link returns to the
preferred path only after the whole interval. -/
theorem run_failback (h : new identity config nowMs = .ok m) (hkind : identity.kind = .forebrain)
    {observations : List ConnectivityObservation}
    (hordered : observations.Pairwise fun earlier later => earlier.nowMs ≤ later.nowMs)
    (hdwelling : Annals Dwelling (Watch.run m observations).history) :
    Annals (Failback config) (Watch.run m observations).history := by
  obtain ⟨hvalid, hidentity, hconfig, _, _, _, hsince⟩ := new_eq_ok h
  have hpos := (FailoverConfig.timing_pos_of_validate hvalid).2.2
  have hstart : DwellInv identity config ⟨m, []⟩ := by
    refine ⟨hidentity, hconfig, ?_, trivial⟩
    intro since hrunning
    cases hsince.symm.trans hrunning
  have hrun : DwellInv identity config (Watch.run m observations) :=
    run_inv hordered hdwelling hstart fun w o => dwellInv_tick hkind hpos
  exact hrun.failback

/-- The link comes back and stays. -/
def replugged : List ConnectivityObservation :=
  [{ nowMs := 0 }, { nowMs := 100, directPeerReachable := true, peerObservedAtMs := some 100 },
    { nowMs := 2100, directPeerReachable := true, peerObservedAtMs := some 2100 }]

/-- The link is lost while this host is in control. -/
def unheard : List ConnectivityObservation :=
  [{ nowMs := 0, directPeerReachable := true, peerObservedAtMs := some 0 },
    { nowMs := 1000, controller := .active "forebrain" "fore-boot" 1000 3000 1 },
    { nowMs := 2500, directPeerReachable := true, peerObservedAtMs := some 2500 }]

theorem run_failback_replugged :
    Annals (Failback { takeoverEnabled := true }) (Watch.run forebrain replugged).history := by
  apply run_failback new_forebrain rfl
  · simp [replugged]
  · decide

theorem failback_overlooks_loss :
    ¬∀ (identity : HostIdentity) (config : FailoverConfig) (nowMs : Nat) (m : HostFailover)
      (observations : List ConnectivityObservation), new identity config nowMs = .ok m →
      identity.kind = .forebrain →
      (observations.Pairwise fun earlier later => earlier.nowMs ≤ later.nowMs) →
      Annals (Failback config) (Watch.run m observations).history := by
  intro h
  have hlast := (h forebrain.identity { takeoverEnabled := true } 0 forebrain unheard new_forebrain
    rfl (by simp [unheard])).1
  have hwindow := (hlast (by decide) (by decide)).1
  exact absurd hwindow (by decide)

end HostFailover

end Failback

end Netherwick.HigherBrain
