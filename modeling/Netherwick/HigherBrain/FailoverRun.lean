import Netherwick.HigherBrain.Failover
import Netherwick.Lib.History

/-! # Runs of the failover machine

What one tick can do to the outstanding acquisition, and the history that a run of ticks
leaves. -/

namespace Netherwick.HigherBrain

open Netherwick.Lib

namespace HostFailover

variable {m m' : HostFailover} {o : ConnectivityObservation} {next : ConnectivityState}
  {role : AdvertisedRole} {actions : List FailoverAction} {reason : String}

section Transition

theorem transitionDecision_machine :
    (m.transitionDecision o next role actions reason).1 =
      { m with
        state := next
        stateSinceMs := if next ≠ m.state then o.nowMs else m.stateSinceMs } := by
  unfold transitionDecision
  split
  · rfl
  · rename_i hstays
    rw [not_not.mp hstays]

theorem transitionDecision_decision :
    (m.transitionDecision o next role actions reason).2.state = next ∧
      (m.transitionDecision o next role actions reason).2.role = role ∧
      (m.transitionDecision o next role actions reason).2.actions = actions := by
  unfold transitionDecision
  split
  · exact ⟨rfl, rfl, rfl⟩
  · rename_i hstays
    exact ⟨(not_not.mp hstays).symm, rfl, rfl⟩

@[simp] theorem transitionDecision_state :
    (m.transitionDecision o next role actions reason).2.state = next :=
  transitionDecision_decision.1

@[simp] theorem transitionDecision_role :
    (m.transitionDecision o next role actions reason).2.role = role :=
  transitionDecision_decision.2.1

@[simp] theorem transitionDecision_actions :
    (m.transitionDecision o next role actions reason).2.actions = actions :=
  transitionDecision_decision.2.2

@[simp] theorem transitionDecision_identity :
    (m.transitionDecision o next role actions reason).1.identity = m.identity := by
  rw [transitionDecision_machine]

@[simp] theorem transitionDecision_config :
    (m.transitionDecision o next role actions reason).1.config = m.config := by
  rw [transitionDecision_machine]

@[simp] theorem transitionDecision_uncontrolledSinceMs :
    (m.transitionDecision o next role actions reason).1.uncontrolledSinceMs =
      m.uncontrolledSinceMs := by
  rw [transitionDecision_machine]

@[simp] theorem transitionDecision_lastAcquisitionAttemptMs :
    (m.transitionDecision o next role actions reason).1.lastAcquisitionAttemptMs =
      m.lastAcquisitionAttemptMs := by
  rw [transitionDecision_machine]

@[simp] theorem transitionDecision_lastAcquisitionGeneration :
    (m.transitionDecision o next role actions reason).1.lastAcquisitionGeneration =
      m.lastAcquisitionGeneration := by
  rw [transitionDecision_machine]

@[simp] theorem transitionDecision_preferredSeenSinceMs :
    (m.transitionDecision o next role actions reason).1.preferredSeenSinceMs =
      m.preferredSeenSinceMs := by
  rw [transitionDecision_machine]

end Transition

section Reading

variable (m o)

def pathsExhausted : Bool :=
  !(o.directPeerReachable && m.peerObservationFresh o) &&
    !(o.ordinaryWifiPeerReachable && m.peerObservationFresh o) &&
    m.config.ordinarySearchMs ≤ o.nowMs - m.outageSinceMs.getD o.nowMs &&
    o.brainstemNetworkAssociated && !(o.peerReachableViaBrainstem && m.peerObservationFresh o)

/-- Does the tick get as far as looking at the result of an acquisition? -/
def readsResult : Bool :=
  m.config.enabled && !m.selfControls o && !m.otherControls o &&
    match m.identity.kind with
    | .motherbrain => o.brainstemUsbHealthy || o.brainstemWifiHealthy
    | .forebrain =>
      m.pathsExhausted o && (m.freshUncontrolled o).isSome &&
        m.graceElapsed o (m.uncontrolledSinceMs.getD o.nowMs)

/-- Does the tick find this host in control, with a link to use it over? -/
def holdsRole : Bool :=
  m.config.enabled && m.selfControls o &&
    match m.identity.kind with
    | .motherbrain => o.brainstemUsbHealthy || o.brainstemWifiHealthy
    | .forebrain => true

end Reading

theorem otherControls_of_selfControls (h : m.selfControls o = true) : m.otherControls o = false := by
  unfold selfControls at h
  unfold otherControls
  cases howner : m.activeOwner o with
  | none => rfl
  | some owner =>
    rw [howner] at h
    simp_all

end HostFailover

section Actions

def FailoverAction.expectedGeneration? : FailoverAction → Option Nat
  | .attemptAtomicAcquisition generation => some generation
  | _ => none

/-- No action moves the body or tries to win it. -/
def Passive (actions : List FailoverAction) : Prop :=
  .startBodyFacingRole ∉ actions ∧ .continueBodyFacingRole ∉ actions ∧
    ∀ generation, .attemptAtomicAcquisition generation ∉ actions

theorem findSome?_expectedGeneration?_eq_none_iff {actions : List FailoverAction} :
    actions.findSome? FailoverAction.expectedGeneration? = none ↔
      ∀ generation, .attemptAtomicAcquisition generation ∉ actions := by
  rw [List.findSome?_eq_none_iff]
  constructor
  · intro h generation hmem
    cases h _ hmem
  · intro h action hmem
    cases action <;> first | rfl | exact absurd hmem (h _)

theorem passive_iff {actions : List FailoverAction} :
    Passive actions ↔
      .startBodyFacingRole ∉ actions ∧ .continueBodyFacingRole ∉ actions ∧
        actions.findSome? FailoverAction.expectedGeneration? = none := by
  rw [Passive, findSome?_expectedGeneration?_eq_none_iff]

theorem passive_nil : Passive [] := by simp [Passive]

theorem passive_usePath (path : PathKind) : Passive [.usePath path] := by simp [Passive]

end Actions

namespace HostFailover

variable (m : HostFailover) (o : ConnectivityObservation)

/-- What a tick can do with the role and with the acquisition it has outstanding. -/
inductive Acquisition (m' : HostFailover) (d : FailoverDecision) : Prop
  | idle (hattempt : m'.lastAcquisitionAttemptMs = m.lastAcquisitionAttemptMs)
      (hgeneration : m'.lastAcquisitionGeneration = m.lastAcquisitionGeneration)
      (hactions : Passive d.actions) (hrole : d.role = .controlling → m.selfControls o = true)
      (hunheld : m.holdsRole o = false)
      (hread : m.readsResult o = true → m.resultMatchesAttempt o = true →
        o.acquisitionResult = none)
  | held (hheld : m.holdsRole o = true) (hattempt : m'.lastAcquisitionAttemptMs = none)
      (hgeneration : m'.lastAcquisitionGeneration = none) (hrole : d.role = .controlling)
      (hstart : .startBodyFacingRole ∉ d.actions)
      (hactions : ∀ generation, .attemptAtomicAcquisition generation ∉ d.actions)
  | granted (hread : m.readsResult o = true) (hresult : o.acquisitionResult = some .granted)
      (hmatch : m.resultMatchesAttempt o = true) (hattempt : m'.lastAcquisitionAttemptMs = none)
      (hgeneration : m'.lastAcquisitionGeneration = none) (hrole : d.role = .controlling)
      (links : List FailoverAction) (hlinks : Passive links)
      (hactions : d.actions = links ++ [.startBodyFacingRole])
  | refused (hread : m.readsResult o = true) (hresult : o.acquisitionResult = some .refused)
      (hmatch : m.resultMatchesAttempt o = true)
      (hattempt : m'.lastAcquisitionAttemptMs = some o.nowMs)
      (hgeneration : m'.lastAcquisitionGeneration = none) (hrole : d.role = .subordinate)
      (hactions : Passive d.actions)
  | attempted (generation : Nat) (hread : m.readsResult o = true)
      (hfresh : m.freshUncontrolled o = some generation) (hpaced : m.withinBackoff o = false)
      (hattempt : m'.lastAcquisitionAttemptMs = some o.nowMs)
      (hgeneration : m'.lastAcquisitionGeneration = some generation) (hrole : d.role = .candidate)
      (links : List FailoverAction) (hlinks : Passive links)
      (hactions : d.actions = links ++ [.attemptAtomicAcquisition generation])

variable {m o}

theorem Acquisition.of_quiet {next : ConnectivityState} {role : AdvertisedRole}
    {actions : List FailoverAction} {reason : String} {m₁ : HostFailover}
    (hattempt : m₁.lastAcquisitionAttemptMs = m.lastAcquisitionAttemptMs)
    (hgeneration : m₁.lastAcquisitionGeneration = m.lastAcquisitionGeneration)
    (hactions : Passive actions) (hrole : role ≠ .controlling) (hunheld : m.holdsRole o = false)
    (hread : m.readsResult o = false) :
    m.Acquisition o (m₁.transitionDecision o next role actions reason).1
      (m₁.transitionDecision o next role actions reason).2 := by
  apply Acquisition.idle
  · simpa using hattempt
  · simpa using hgeneration
  · simpa using hactions
  · simp [hrole]
  · exact hunheld
  · simp [hread]

theorem unanswered (hgranted : ¬(o.acquisitionResult = some .granted ∧ m.resultMatchesAttempt o))
    (hrefused : ¬(o.acquisitionResult = some .refused ∧ m.resultMatchesAttempt o))
    (hmatch : m.resultMatchesAttempt o = true) : o.acquisitionResult = none := by
  cases hresult : o.acquisitionResult with
  | none => rfl
  | some result =>
    cases result with
    | granted => exact absurd ⟨hresult, hmatch⟩ hgranted
    | refused => exact absurd ⟨hresult, hmatch⟩ hrefused

theorem tickMotherbrainPath_acquisition {path : PathKind} {state : ConnectivityState}
    {reason : String} (hread : m.readsResult o = !m.selfControls o)
    (hheld : m.holdsRole o = m.selfControls o) :
    m.Acquisition o (m.tickMotherbrainPath o path state (m.selfControls o) reason).1
      (m.tickMotherbrainPath o path state (m.selfControls o) reason).2 := by
  unfold tickMotherbrainPath
  cases hself : m.selfControls o with
  | true =>
    rw [hself] at hheld
    apply Acquisition.held hheld <;> simp
  | false =>
    rw [hself] at hread hheld
    simp only [Bool.false_eq_true, if_false]
    split
    · rename_i hgranted
      apply Acquisition.granted hread hgranted.1 hgranted.2 _ _ _ _ (passive_usePath path) <;> simp
    · rename_i hgranted
      split
      · rename_i hrefused
        apply Acquisition.refused hread hrefused.1 hrefused.2 <;> simp [Passive]
      · rename_i hrefused
        have hnone : m.resultMatchesAttempt o = true → o.acquisitionResult = none :=
          unanswered hgranted hrefused
        split
        · apply Acquisition.idle _ _ _ _ hheld fun _ => hnone
          all_goals simp [Passive]
        · rename_i generation hfresh
          split
          · apply Acquisition.idle _ _ _ _ hheld fun _ => hnone
            all_goals simp [Passive]
          · rename_i hpaced
            have hpaced : m.withinBackoff o = false := Bool.eq_false_iff.mpr hpaced
            apply Acquisition.attempted generation hread hfresh hpaced _ _ _ _
              (passive_usePath path)
            all_goals simp

theorem tickEligibleForebrain_acquisition {m₁ : HostFailover} {generation : Nat}
    (hlast : m₁.lastAcquisitionAttemptMs = m.lastAcquisitionAttemptMs)
    (hoffer : m₁.lastAcquisitionGeneration = m.lastAcquisitionGeneration)
    (hconfig : m₁.config = m.config) (hread : m.readsResult o = true)
    (hheld : m.holdsRole o = false) (hfresh : m.freshUncontrolled o = some generation) :
    m.Acquisition o (m₁.tickEligibleForebrain o generation).1
      (m₁.tickEligibleForebrain o generation).2 := by
  have hmatches : m₁.resultMatchesAttempt o = m.resultMatchesAttempt o := by
    simp [resultMatchesAttempt, hoffer]
  have hbackoff : m₁.withinBackoff o = m.withinBackoff o := by
    simp [withinBackoff, hlast, hconfig]
  unfold tickEligibleForebrain
  rw [hmatches, hbackoff]
  split
  · rename_i hgranted
    apply Acquisition.granted hread hgranted.1 hgranted.2 _ _ _ _ passive_nil <;> simp
  · rename_i hgranted
    split
    · rename_i hrefused
      apply Acquisition.refused hread hrefused.1 hrefused.2 <;> simp [Passive]
    · rename_i hrefused
      split
      · apply Acquisition.idle _ _ _ _ hheld fun _ => unanswered hgranted hrefused
        all_goals simp [Passive, hlast, hoffer]
      · rename_i hpaced
        have hpaced : m.withinBackoff o = false := Bool.eq_false_iff.mpr hpaced
        apply Acquisition.attempted generation hread hfresh hpaced _ _ _ _ passive_nil
        all_goals simp

theorem tickMotherbrain_acquisition (henabled : m.config.enabled = true)
    (hkind : m.identity.kind = .motherbrain) :
    m.Acquisition o (m.tickMotherbrain o).1 (m.tickMotherbrain o).2 := by
  unfold tickMotherbrain
  split
  · rename_i hother
    have hself : m.selfControls o = false := by
      by_contra h
      rw [otherControls_of_selfControls (by simpa using h)] at hother
      cases hother
    have hread : m.readsResult o = false := by simp [readsResult, hother]
    have hheld : m.holdsRole o = false := by simp [holdsRole, hself]
    split
    · apply Acquisition.of_quiet rfl rfl _ _ hheld hread
      · split <;> simp [Passive]
      · simp
    · apply Acquisition.of_quiet rfl rfl _ _ hheld hread
      · simp [Passive]
      · simp
  · rename_i hother
    have hlinked : o.brainstemUsbHealthy = true ∨ o.brainstemWifiHealthy = true →
        m.readsResult o = !m.selfControls o ∧ m.holdsRole o = m.selfControls o := by
      intro hlink
      simp [readsResult, holdsRole, henabled, hkind, hother, hlink]
    split
    · rename_i hlink
      exact tickMotherbrainPath_acquisition (hlinked (.inl hlink)).1 (hlinked (.inl hlink)).2
    · rename_i husb
      split
      · rename_i hlink
        exact tickMotherbrainPath_acquisition (hlinked (.inr hlink)).1 (hlinked (.inr hlink)).2
      · rename_i hwifi
        apply Acquisition.idle
        · simp
        · simp
        · simp [Passive]
        · simp
        · simp [holdsRole, hkind, husb, hwifi]
        · simp [readsResult, hkind, husb, hwifi]

theorem tickOrphanedForebrain_acquisition {m₁ : HostFailover}
    (hlast : m₁.lastAcquisitionAttemptMs = m.lastAcquisitionAttemptMs)
    (hoffer : m₁.lastAcquisitionGeneration = m.lastAcquisitionGeneration)
    (hconfig : m₁.config = m.config) (hsince : m₁.uncontrolledSinceMs = m.uncontrolledSinceMs)
    (hread : m.readsResult o = ((m.freshUncontrolled o).isSome &&
      m.graceElapsed o (m.uncontrolledSinceMs.getD o.nowMs)))
    (hheld : m.holdsRole o = false) :
    m.Acquisition o (m₁.tickOrphanedForebrain o).1 (m₁.tickOrphanedForebrain o).2 := by
  have hstatus : m₁.freshUncontrolled o = m.freshUncontrolled o := by
    simp [freshUncontrolled, hconfig]
  unfold tickOrphanedForebrain
  rw [hstatus]
  split
  · rename_i hfresh
    rw [hfresh] at hread
    refine Acquisition.of_quiet hlast hoffer ?_ ?_ hheld hread
    · simp [Passive]
    · simp
  · rename_i generation hfresh
    extract_lets uncontrolledSince m₂
    have helapsed : m₂.graceElapsed o uncontrolledSince =
        m.graceElapsed o (m.uncontrolledSinceMs.getD o.nowMs) := by
      simp [graceElapsed, m₂, uncontrolledSince, hconfig, hsince]
    rw [hfresh, ← helapsed] at hread
    split
    · rename_i hgrace
      refine Acquisition.of_quiet hlast hoffer ?_ ?_ hheld ?_
      · simp [Passive]
      · simp
      · simpa [hread] using hgrace
    · rename_i hgrace
      refine tickEligibleForebrain_acquisition hlast hoffer hconfig ?_ hheld hfresh
      simpa [hread] using hgrace

theorem tickSearchingForebrain_acquisition (henabled : m.config.enabled = true)
    (hkind : m.identity.kind = .forebrain) (hself : m.selfControls o = false)
    (hdirect : (o.directPeerReachable && m.peerObservationFresh o) = false)
    (hheld : m.holdsRole o = false) :
    m.Acquisition o (m.tickSearchingForebrain o).1 (m.tickSearchingForebrain o).2 := by
  have hpaths : m.pathsExhausted o = (!(o.ordinaryWifiPeerReachable && m.peerObservationFresh o) &&
      m.config.ordinarySearchMs ≤ o.nowMs - m.outageSinceMs.getD o.nowMs &&
      o.brainstemNetworkAssociated && !(o.peerReachableViaBrainstem && m.peerObservationFresh o)) := by
    unfold pathsExhausted
    rw [hdirect]
    rfl
  have hreads : m.readsResult o = (!m.otherControls o && (m.pathsExhausted o &&
      (m.freshUncontrolled o).isSome && m.graceElapsed o (m.uncontrolledSinceMs.getD o.nowMs))) := by
    simp [readsResult, henabled, hkind, hself]
  -- a branch that returns before the end reads no result and leaves the acquisition alone
  have hearly : m.pathsExhausted o = false ∨ m.otherControls o = true → m.readsResult o = false := by
    intro h
    rcases h with h | h <;> simp [hreads, h]
  unfold tickSearchingForebrain
  extract_lets outageSince m₁
  split
  · rename_i hwifi
    have hwifi : (o.ordinaryWifiPeerReachable && m.peerObservationFresh o) = true := hwifi
    refine Acquisition.of_quiet rfl rfl ?_ ?_ hheld (hearly (.inl ?_))
    · simp [Passive]
    · simp
    · simp [hpaths, hwifi]
  · rename_i hwifi
    have hwifi : (o.ordinaryWifiPeerReachable && m.peerObservationFresh o) = false :=
      Bool.eq_false_iff.mpr hwifi
    split
    · rename_i hsearch
      have hsearch : o.nowMs - m.outageSinceMs.getD o.nowMs < m.config.ordinarySearchMs := hsearch
      refine Acquisition.of_quiet rfl rfl ?_ ?_ hheld (hearly (.inl ?_))
      · simp [Passive]
      · simp
      · simp [hpaths, Nat.not_le.mpr hsearch]
    · rename_i hsearch
      have hsearch : m.config.ordinarySearchMs ≤ o.nowMs - m.outageSinceMs.getD o.nowMs :=
        Nat.not_lt.mp hsearch
      split
      · rename_i hassociated
        refine Acquisition.of_quiet rfl rfl ?_ ?_ hheld (hearly (.inl ?_))
        · simp [Passive]
        · simp
        · rw [Bool.not_eq_true'] at hassociated
          simp [hpaths, hassociated]
      · rename_i hassociated
        rw [Bool.not_eq_true', Bool.not_eq_false] at hassociated
        split
        · rename_i htransit
          have htransit : (o.peerReachableViaBrainstem && m.peerObservationFresh o) = true :=
            htransit
          refine Acquisition.of_quiet rfl rfl ?_ ?_ hheld (hearly (.inl ?_))
          · simp [Passive]
          · simp
          · simp [hpaths, htransit]
        · rename_i htransit
          have htransit : (o.peerReachableViaBrainstem && m.peerObservationFresh o) = false :=
            Bool.eq_false_iff.mpr htransit
          split
          · rename_i hother
            refine Acquisition.of_quiet rfl rfl ?_ ?_ hheld (hearly (.inr hother))
            · simp [Passive]
            · simp
          · rename_i hother
            have hother : m.otherControls o = false := Bool.eq_false_iff.mpr hother
            refine tickOrphanedForebrain_acquisition rfl rfl rfl rfl ?_ hheld
            simp [hreads, hpaths, hwifi, hsearch, hassociated, htransit, hother]

theorem tickForebrain_acquisition (henabled : m.config.enabled = true)
    (hkind : m.identity.kind = .forebrain) :
    m.Acquisition o (m.tickForebrain o).1 (m.tickForebrain o).2 := by
  unfold tickForebrain
  split
  · rename_i hself
    have hheld : m.holdsRole o = true := by simp [holdsRole, henabled, hself, hkind]
    unfold tickControllingForebrain
    extract_lets m₁
    split
    · apply Acquisition.held hheld
      · simp [m₁]
      · simp [m₁]
      · simp
      · rw [transitionDecision_actions]
        split <;> simp
      · rw [transitionDecision_actions]
        split <;> simp
    · apply Acquisition.held hheld <;> simp [m₁]
  · rename_i hself
    have hheld : m.holdsRole o = false := by simp [holdsRole, hself]
    split
    · rename_i hdirect
      have hread : m.readsResult o = false := by
        simp [readsResult, hkind, pathsExhausted, hdirect]
      unfold tickDirectForebrain
      extract_lets m₁
      split
      · refine Acquisition.of_quiet rfl rfl ?_ ?_ hheld hread
        · simp [Passive]
        · simp
      · refine Acquisition.of_quiet rfl rfl ?_ ?_ hheld hread
        · cases m₁.activePath <;> simp [Passive]
        · simp
    · rename_i hdirect
      have hself : m.selfControls o = false := Bool.eq_false_iff.mpr hself
      have hdirect : (o.directPeerReachable && m.peerObservationFresh o) = false :=
        Bool.eq_false_iff.mpr hdirect
      exact tickSearchingForebrain_acquisition henabled hkind hself hdirect hheld

theorem tick_acquisition (m : HostFailover) (o : ConnectivityObservation) :
    m.Acquisition o (m.tick o).1 (m.tick o).2 := by
  unfold tick
  split
  · rename_i hdisabled
    rw [Bool.not_eq_true'] at hdisabled
    apply Acquisition.idle rfl rfl
    · simp [decision, Passive]
    · simp [decision]
    · simp [holdsRole, hdisabled]
    · simp [readsResult, hdisabled]
  · rename_i henabled
    rw [Bool.not_eq_true', Bool.not_eq_false] at henabled
    split
    · rename_i hkind
      exact tickMotherbrain_acquisition henabled hkind
    · rename_i hkind
      exact tickForebrain_acquisition henabled hkind

/-- The settings of a machine are for life. -/
def SameHost (m m' : HostFailover) : Prop := m'.identity = m.identity ∧ m'.config = m.config

theorem transitionDecision_sameHost {m₁ : HostFailover} (hidentity : m₁.identity = m.identity)
    (hconfig : m₁.config = m.config) :
    m.SameHost (m₁.transitionDecision o next role actions reason).1 := by
  rw [SameHost, transitionDecision_identity, transitionDecision_config]
  exact ⟨hidentity, hconfig⟩

theorem tickMotherbrain_sameHost (m : HostFailover) (o : ConnectivityObservation) :
    m.SameHost (m.tickMotherbrain o).1 := by
  have hpath : ∀ path state controls reason,
      m.SameHost (m.tickMotherbrainPath o path state controls reason).1 := by
    intro path state controls reason
    unfold tickMotherbrainPath
    extract_lets m₁
    repeat' split
    all_goals exact transitionDecision_sameHost rfl rfl
  unfold tickMotherbrain
  repeat' split
  all_goals first | exact hpath _ _ _ _ | exact transitionDecision_sameHost rfl rfl

theorem tickOrphanedForebrain_sameHost (m : HostFailover) (o : ConnectivityObservation) :
    m.SameHost (m.tickOrphanedForebrain o).1 := by
  unfold tickOrphanedForebrain
  split
  · exact transitionDecision_sameHost rfl rfl
  · extract_lets uncontrolledSince m₁
    split
    · exact transitionDecision_sameHost rfl rfl
    · unfold tickEligibleForebrain
      repeat' split
      all_goals exact transitionDecision_sameHost rfl rfl

theorem tickForebrain_sameHost (m : HostFailover) (o : ConnectivityObservation) :
    m.SameHost (m.tickForebrain o).1 := by
  unfold tickForebrain
  split
  · unfold tickControllingForebrain
    extract_lets m₁
    split
    · exact transitionDecision_sameHost rfl rfl
    · exact transitionDecision_sameHost rfl rfl
  · split
    · unfold tickDirectForebrain
      extract_lets m₁
      split
      · exact transitionDecision_sameHost rfl rfl
      · exact transitionDecision_sameHost rfl rfl
    · unfold tickSearchingForebrain
      extract_lets outageSince m₁
      have hlast : m.SameHost (m₁.tickOrphanedForebrain o).1 :=
        tickOrphanedForebrain_sameHost m₁ o
      repeat' split
      all_goals first | exact hlast | exact transitionDecision_sameHost rfl rfl

theorem tick_sameHost (m : HostFailover) (o : ConnectivityObservation) :
    m.SameHost (m.tick o).1 := by
  unfold tick
  split
  · exact ⟨rfl, rfl⟩
  · split
    · exact tickMotherbrain_sameHost m o
    · exact tickForebrain_sameHost m o

end HostFailover

/-- One tick of a machine, with what it saw and what it decided. -/
structure TickRecord where
  before : HostFailover
  observation : ConnectivityObservation
  decision : FailoverDecision

/-- A machine with the records of its ticks, the newest first. -/
structure Watch where
  machine : HostFailover
  history : List TickRecord

namespace Watch

/-- The record that the next tick will leave. -/
def record (w : Watch) (o : ConnectivityObservation) : TickRecord :=
  ⟨w.machine, o, (w.machine.tick o).2⟩

def tick (w : Watch) (o : ConnectivityObservation) : Watch where
  machine := (w.machine.tick o).1
  history := w.record o :: w.history

def run (m : HostFailover) (observations : List ConnectivityObservation) : Watch :=
  observations.foldl tick ⟨m, []⟩

end Watch

end Netherwick.HigherBrain
