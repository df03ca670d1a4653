import Netherwick.Navigation.Conductor

/-! # Escapes are bounded

Every attempt of an escape has so many ticks for each of its phases, and there are three attempts. A
journey keeps a log of the calls of the conductor, newest first; the calls of the escape under way are
its episode. -/

namespace Netherwick.Navigation

open Netherwick.Actions

namespace RecoveryState

variable {recovery recovery' : RecoveryState} {input : ConductorInput} {rounds : Nat}
  {outcome : RecoveryState × Option RecoveryDecision}

/-- The transitions that the loop may still make. -/
def pending (recovery : RecoveryState) : Nat :=
  (3 - recovery.attempt) * 3 + match recovery.step with
    | .reverse => 3
    | .turn => 2
    | .probe => 1
    | .inspect | .stuck | .idle => 0

/-- The motions that the escape may still make. -/
def budget (recovery : RecoveryState) : Nat :=
  (3 - recovery.attempt) * 110 + match recovery.step with
    | .reverse => recovery.remainingTicks + 65
    | .turn => recovery.remainingTicks + 20
    | .probe => recovery.remainingTicks
    | .inspect | .stuck | .idle => 0

def Active (recovery : RecoveryState) : Prop :=
  recovery.step = .reverse ∨ recovery.step = .turn ∨ recovery.step = .probe

def Over (recovery : RecoveryState) : Prop := recovery.step = .idle ∨ recovery.step = .stuck

/-- A transition of the escape: there is less to do, and it is not forgotten. -/
structure Proceeds (recovery recovery' : RecoveryState) : Prop where
  active : recovery.Active
  pending_lt : recovery'.pending < recovery.pending
  budget_le : recovery'.budget ≤ recovery.budget
  started : recovery'.step ≠ .idle

theorem proceeds_escalateOrStick (hactive : recovery.step = .turn ∨ recovery.step = .probe) :
    recovery.Proceeds (recovery.escalateOrStick input) := by
  have hmoving : recovery.Active := .inr hactive
  rw [escalateOrStick, beginEscalatedRecoveryAttempt]
  by_cases hlast : recoveryMaxAttempts ≤ recovery.attempt
  · rw [if_pos hlast]
    rcases hactive with hturn | hprobe
    · exact ⟨hmoving, by simp [pending, beginRecoveryPhase, hturn],
        by simp [budget, beginRecoveryPhase, hturn], by simp [beginRecoveryPhase]⟩
    · exact ⟨hmoving, by simp [pending, beginRecoveryPhase, hprobe],
        by simp [budget, beginRecoveryPhase, hprobe], by simp [beginRecoveryPhase]⟩
  · rw [if_neg hlast]
    rw [recoveryMaxAttempts] at hlast
    refine ⟨hmoving, ?_, ?_, by simp [beginRecoveryPhase]⟩
    · rcases hactive with hturn | hprobe
      · simp [pending, beginRecoveryPhase, hturn]
        omega
      · simp [pending, beginRecoveryPhase, hprobe]
        omega
    · rcases hactive with hturn | hprobe
      · simp [budget, beginRecoveryPhase, hturn, recoveryReverseMaxTicks]
        omega
      · simp [budget, beginRecoveryPhase, hprobe, recoveryReverseMaxTicks]
        omega

theorem Proceeds.stalled (h : recovery.stalled.Proceeds recovery') : recovery.Proceeds recovery' :=
  ⟨h.active, h.pending_lt, h.budget_le, h.started⟩

/-- The three motion primitives of an escape. -/
def Moves (decision : RecoveryDecision) : Prop :=
  decision.action = .go (-0.05) 500 ∨ (∃ direction, decision.action = .turn direction 0.5 500) ∨
    decision.action = .go 0.05 500

def Yields (decision : RecoveryDecision) : Prop :=
  decision.action = .inspect .novelty ∨ decision.action = .stop

/-- What a round of an escape returns: a motion, at the cost of a tick, or the end of the escape. -/
def Issues (recovery recovery' : RecoveryState) (decision : RecoveryDecision) : Prop :=
  Moves decision ∧ recovery.Active ∧ recovery'.Active ∧ recovery'.budget < recovery.budget ∨
    Yields decision ∧ recovery'.Over

theorem Proceeds.issues {next : RecoveryState} {decision : RecoveryDecision}
    (h : recovery.Proceeds next) (hissues : next.Issues recovery' decision) :
    recovery.Issues recovery' decision := by
  rcases hissues with ⟨hmoves, -, hactive, hbudget⟩ | hyields
  · exact .inl ⟨hmoves, h.active, hactive, hbudget.trans_le h.budget_le⟩
  · exact .inr hyields

theorem proceeds_turn (hstep : recovery.step = .reverse) :
    recovery.Proceeds (recovery.beginRecoveryPhase input .turn) :=
  ⟨.inl hstep, by simp [pending, beginRecoveryPhase, hstep],
    by simp [budget, beginRecoveryPhase, hstep, recoveryTurnMaxTicks], by simp [beginRecoveryPhase]⟩

theorem proceeds_probe (hstep : recovery.step = .turn) :
    recovery.Proceeds (recovery.beginRecoveryPhase input .probe) :=
  ⟨.inr (.inl hstep), by simp [pending, beginRecoveryPhase, hstep],
    by simp [budget, beginRecoveryPhase, hstep, recoveryProbeMaxTicks], by simp [beginRecoveryPhase]⟩

theorem proceeds_inspect (hstep : recovery.step = .probe) :
    recovery.Proceeds (recovery.beginRecoveryPhase input .inspect) :=
  ⟨.inr (.inr hstep), by simp [pending, beginRecoveryPhase, hstep],
    by simp [budget, beginRecoveryPhase, hstep], by simp [beginRecoveryPhase]⟩

theorem reverseRound_cases (hstep : recovery.step = .reverse) :
    (∃ recovery', recovery.reverseRound input = .goOn recovery' ∧ recovery.Proceeds recovery') ∨
      ∃ recovery' decision, recovery.reverseRound input = .done recovery' (some decision) ∧
        recovery.Issues recovery' decision := by
  rw [reverseRound]
  by_cases hdone : recovery.reverseTargetM ≤ recovery.reverseProgress input ∨
      recovery.remainingTicks = 0
  · rw [if_pos hdone]
    refine .inl ⟨_, rfl, ?_⟩
    by_cases hstalled : recovery.reverseProgress input < 0.01
    · rw [if_pos hstalled]
      exact Proceeds.stalled (proceeds_turn hstep)
    · rw [if_neg hstalled]
      exact proceeds_turn hstep
  · rw [if_neg hdone]
    refine .inr ⟨_, _, rfl, .inl ⟨.inl rfl, .inl hstep, .inl hstep, ?_⟩⟩
    simp only [budget, ticked, hstep]
    omega

theorem turnRound_cases (hstep : recovery.step = .turn) :
    (∃ recovery', recovery.turnRound input = .goOn recovery' ∧ recovery.Proceeds recovery') ∨
      ∃ recovery' decision, recovery.turnRound input = .done recovery' (some decision) ∧
        recovery.Issues recovery' decision := by
  rw [turnRound]
  by_cases hdone : recoveryTurnTargetRad ≤ recovery.turnProgress input ∨
      recovery.remainingTicks = 0
  · rw [if_pos hdone]
    by_cases huseless : recovery.turnProgress input < recoveryTurnMinUsefulRad
    · rw [if_pos huseless]
      exact .inl ⟨_, rfl, Proceeds.stalled (proceeds_escalateOrStick (.inl hstep))⟩
    · rw [if_neg huseless]
      exact .inl ⟨_, rfl, proceeds_probe hstep⟩
  · rw [if_neg hdone]
    refine .inr ⟨_, _, rfl, .inl ⟨.inr (.inl ⟨_, rfl⟩), .inr (.inl hstep), .inr (.inl hstep), ?_⟩⟩
    simp only [budget, ticked, hstep]
    omega

theorem probeRound_cases (hstep : recovery.step = .probe) :
    (∃ recovery', recovery.probeRound input = .goOn recovery' ∧ recovery.Proceeds recovery') ∨
      ∃ recovery' decision, recovery.probeRound input = .done recovery' (some decision) ∧
        recovery.Issues recovery' decision := by
  rw [probeRound]
  by_cases hclear : recoveryProbeTargetM ≤ recovery.forwardProgress input ∧
      ¬decide (input.centerClearance < 0.30)
  · rw [if_pos hclear]
    exact .inl ⟨_, rfl, proceeds_inspect hstep⟩
  · rw [if_neg hclear]
    by_cases hdone : decide (input.centerClearance < 0.30) = true ∨ recovery.remainingTicks = 0
    · rw [if_pos hdone]
      refine .inl ⟨_, rfl, ?_⟩
      by_cases hstalled : recovery.forwardProgress input < 0.01
      · rw [if_pos hstalled]
        exact Proceeds.stalled (proceeds_escalateOrStick (.inr hstep))
      · rw [if_neg hstalled]
        exact proceeds_escalateOrStick (.inr hstep)
    · rw [if_neg hdone]
      refine .inr ⟨_, _, rfl, .inl ⟨.inr (.inr rfl), .inr (.inr hstep), .inr (.inr hstep), ?_⟩⟩
      simp only [budget, ticked, hstep]
      omega

theorem round_cases (input : ConductorInput) (hstep : recovery.step ≠ .idle) :
    (∃ recovery', recovery.round input = .goOn recovery' ∧ recovery.Proceeds recovery') ∨
      ∃ recovery' decision, recovery.round input = .done recovery' (some decision) ∧
        recovery.Issues recovery' decision := by
  cases hnow : recovery.step with
  | idle => exact absurd hnow hstep
  | reverse => simpa only [round, hnow] using reverseRound_cases hnow
  | turn => simpa only [round, hnow] using turnRound_cases hnow
  | probe => simpa only [round, hnow] using probeRound_cases hnow
  | inspect =>
    simp only [round, hnow]
    exact .inr ⟨_, _, rfl, .inr ⟨.inl rfl, .inl rfl⟩⟩
  | stuck =>
    simp only [round, hnow]
    exact .inr ⟨_, _, rfl, .inr ⟨.inr rfl, .inr hnow⟩⟩

theorem nextRecoveryAction_of_idle (hidle : recovery.step = .idle) :
    nextRecoveryAction input (rounds + 1) recovery = some (recovery, none) := by
  simp [nextRecoveryAction, round, hidle]

theorem nextRecoveryAction_of_started (input : ConductorInput) (hstep : recovery.step ≠ .idle)
    (hrounds : recovery.pending < rounds) :
    ∃ recovery' decision, nextRecoveryAction input rounds recovery =
        some (recovery', some decision) ∧ recovery.Issues recovery' decision := by
  induction rounds generalizing recovery with
  | zero => exact absurd hrounds (Nat.not_lt_zero _)
  | succ rounds ih =>
    rw [nextRecoveryAction]
    rcases round_cases input hstep with ⟨next, hround, hproceeds⟩ |
      ⟨recovery', decision, hround, hissues⟩
    · obtain ⟨recovery', decision, hrun, hissues⟩ :=
        ih hproceeds.started (by have := hproceeds.pending_lt; omega)
      rw [hround]
      exact ⟨recovery', decision, hrun, hproceeds.issues hissues⟩
    · rw [hround]
      exact ⟨recovery', decision, rfl, hissues⟩

theorem pending_le (recovery : RecoveryState) : recovery.pending ≤ 12 := by
  rw [pending]
  cases recovery.step <;> simp <;> omega

theorem nextRecoveryAction_add (more : Nat)
    (h : nextRecoveryAction input rounds recovery = some outcome) :
    nextRecoveryAction input (rounds + more) recovery = some outcome := by
  induction rounds generalizing recovery with
  | zero => simp [nextRecoveryAction] at h
  | succ rounds ih =>
    rw [Nat.add_right_comm, nextRecoveryAction]
    rw [nextRecoveryAction] at h
    cases hround : recovery.round input with
    | done recovery' decision => simpa [hround] using h
    | goOn next =>
      rw [hround] at h
      exact ih h

theorem nextRecoveryAction_returns (input : ConductorInput) (recovery : RecoveryState) :
    ∃ outcome, ∀ rounds, 13 ≤ rounds → recovery.nextRecoveryAction input rounds = some outcome := by
  have hends : ∃ outcome, recovery.nextRecoveryAction input 13 = some outcome := by
    by_cases hidle : recovery.step = .idle
    · exact ⟨_, nextRecoveryAction_of_idle hidle⟩
    · obtain ⟨recovery', decision, hrun, -⟩ := nextRecoveryAction_of_started input hidle
        (Nat.lt_succ_of_le recovery.pending_le)
      exact ⟨_, hrun⟩
  obtain ⟨outcome, hrun⟩ := hends
  refine ⟨outcome, fun rounds hrounds => ?_⟩
  obtain ⟨more, rfl⟩ := Nat.exists_eq_add_of_le hrounds
  exact nextRecoveryAction_add more hrun

end RecoveryState

/-- What the log keeps of a call. -/
structure Call where
  overridden : Bool
  /-- The call found the recovery idle and started an escape. -/
  entered : Bool
  decision : NavigationGoalDecision

namespace Call

/-- A motion primitive issued by the recovery. -/
def moves (call : Call) : Bool :=
  call.decision.intent = .recoverFromContact && match call.decision.action with
    | .go _ _ | .turn _ _ _ => true
    | _ => false

def yields (call : Call) : Bool :=
  call.decision.intent = .recoverFromContact && match call.decision.action with
    | .inspect _ | .stop => true
    | _ => false

end Call

/-- The calls since the escape under way was entered, when it was not overridden since. -/
def episode : List Call → Option (List Call)
  | [] => none
  | call :: past =>
    if call.overridden then none
    else if call.entered then some [call]
    else (episode past).map (call :: ·)

/-- The motions of an episode come first, and are no more than three attempts have. -/
structure Bounded (calls : List Call) : Prop where
  motions : (calls.filter Call.moves).length ≤ 3 * (45 + 45 + 20)
  finished : calls.Pairwise fun later earlier => earlier.yields → ¬later.moves
  ends : 3 * (45 + 45 + 20) < calls.length → ∃ call ∈ calls, call.yields

section Bounded

variable {call : Call} {calls : List Call} {decision : RecoveryDecision}

theorem Call.not_moves_of_yields (h : call.yields = true) : call.moves = false := by
  rw [Call.yields, Bool.and_eq_true] at h
  rw [Call.moves]
  cases haction : call.decision.action <;> simp [haction] at h ⊢

theorem Bounded.cons (h : Bounded calls) (hyields : ∃ call ∈ calls, call.yields)
    (hmoves : call.moves = false) : Bounded (call :: calls) where
  motions := by
    rw [List.filter_cons_of_neg (by simp [hmoves])]
    exact h.motions
  finished := List.pairwise_cons.mpr ⟨fun _ _ _ => by simp [hmoves], h.finished⟩
  ends _ := by
    obtain ⟨last, hlast, hends⟩ := hyields
    exact ⟨last, List.mem_cons_of_mem _ hlast, hends⟩

theorem bounded_of_moves (hmoves : ∀ call ∈ calls, call.moves)
    (hlength : calls.length ≤ 3 * (45 + 45 + 20)) (hyields : call.yields = true) :
    Bounded (call :: calls) where
  motions := by
    rw [List.filter_cons_of_neg (by simp [Call.not_moves_of_yields hyields])]
    exact (List.length_filter_le _ _).trans hlength
  finished := by
    have hcalls : calls.Pairwise fun later earlier => earlier.yields → ¬later.moves :=
      List.pairwise_of_forall_mem_list fun _ _ earlier hearlier hends => by
        have hmoving := hmoves earlier hearlier
        simp [Call.not_moves_of_yields hends] at hmoving
    exact List.pairwise_cons.mpr ⟨fun _ _ _ => by simp [Call.not_moves_of_yields hyields], hcalls⟩
  ends _ := ⟨call, List.mem_cons_self, hyields⟩

end Bounded

structure Journey where
  recovery : RecoveryState := {}
  log : List Call := []

namespace Journey

variable (rounds : Nat) (config : ConductorConfig)

def choose (journey : Journey) (input : ConductorInput) : Option Journey :=
  (chooseWithNavigationGoal rounds config journey.recovery input).map fun outcome =>
    ⟨outcome.1,
      { overridden := (overriding config input).isSome
        entered := journey.recovery.step = .idle && (triggered input journey.recovery).step ≠ .idle
        decision := outcome.2 } :: journey.log⟩

/-- A journey from the start: nothing when some call did not return. -/
def run (inputs : List ConductorInput) : Option Journey := inputs.foldlM (choose rounds config) {}

/-- The recovery is in the state that the episode has brought it to. -/
structure Kept (journey : Journey) : Prop where
  none : episode journey.log = none → journey.recovery.step = .idle
  some : ∀ calls, episode journey.log = some calls →
    journey.recovery.Active ∧ (∀ call ∈ calls, call.moves) ∧
        calls.length + journey.recovery.budget ≤ 3 * (45 + 45 + 20) ∨
      journey.recovery.Over ∧ Bounded calls ∧ ∃ call ∈ calls, call.yields

variable {config} {journey : Journey} {input : ConductorInput} {recovery : RecoveryState}
  {decision : RecoveryDecision}

/-- What the recovery decided, as the conductor passes it on. -/
def recovered (entered : Bool) (decision : RecoveryDecision) : Call where
  overridden := false
  entered := entered
  decision := navigationGoal .recoverFromContact decision.action 0.9 decision.reason

theorem moves_recovered {entered : Bool} (h : RecoveryState.Moves decision) :
    (recovered entered decision).moves = true := by
  rcases h with h | ⟨direction, h⟩ | h <;> simp [recovered, Call.moves, navigationGoal, h]

theorem yields_recovered {entered : Bool} (h : RecoveryState.Yields decision) :
    (recovered entered decision).yields = true := by
  rcases h with h | h <;> simp [recovered, Call.yields, navigationGoal, h]

theorem triggered_cases (hidle : recovery.step = .idle) :
    triggered input recovery = recovery ∨ (triggered input recovery).step ≠ .idle ∧
      (triggered input recovery).budget ≤ 3 * (45 + 45 + 20) := by
  rw [triggered, if_pos hidle]
  by_cases hcontact : input.contactRecoveryTriggered = true
  · rw [if_pos hcontact]
    exact .inr ⟨by simp [startContactRecovery], by simp [startContactRecovery, RecoveryState.budget,
      recoveryReverseMaxTicks]⟩
  · rw [if_neg hcontact]
    by_cases hcramped : input.crampedAndNotAdvancing = true
    · rw [if_pos hcramped]
      by_cases hgap : input.sideEscapeGap = true
      · rw [if_pos hgap]
        exact .inr ⟨by simp [startContactRecovery], by simp [startContactRecovery,
          RecoveryState.budget, recoveryReverseMaxTicks]⟩
      · rw [if_neg hgap]
        exact .inr ⟨by simp [startRangeRecovery], by simp [startRangeRecovery,
          RecoveryState.budget, recoveryTurnMaxTicks]⟩
    · rw [if_neg hcramped]
      exact .inl rfl

theorem triggered_of_started (hstarted : recovery.step ≠ .idle) :
    triggered input recovery = recovery := by
  rw [triggered, if_neg hstarted]

def Other (goal : Option NavigationGoalDecision) : Prop :=
  ∀ decision ∈ goal, decision.intent ≠ .recoverFromContact

theorem Other.or {first second : Option NavigationGoalDecision} (hfirst : Other first)
    (hsecond : Other second) : Other (first.or second) := by
  cases first with
  | none => simpa using hsecond
  | some decision => simpa using hfirst

theorem Other.getD {goal : Option NavigationGoalDecision} {decision : NavigationGoalDecision}
    (h : Other goal) (hdecision : decision.intent ≠ .recoverFromContact) :
    (goal.getD decision).intent ≠ .recoverFromContact := by
  cases goal with
  | none => exact hdecision
  | some first => exact h first rfl

section Others

variable (config) (input)

theorem other_trapGoal : Other (trapGoal input) := by
  rw [trapGoal]
  by_cases htrapped : 0.6 ≤ input.recentTrapConfidence
  · cases input.nearbyBestSafeDirectionRad <;> simp [Other, htrapped, navigationGoal]
  · simp [Other, htrapped]

theorem other_dangerGoal : Other (dangerGoal config input) := by
  rw [dangerGoal]
  by_cases hdanger : config.dangerThreshold ≤ input.placeDanger ∨
      config.dangerThreshold ≤ input.dangerAvoidance
  · cases input.nearbyBestSafeDirectionRad <;> simp [Other, hdanger, navigationGoal]
  · simp [Other, hdanger]

theorem other_lowBatteryGoal : Other (lowBatteryGoal config input) := by
  rw [lowBatteryGoal]
  by_cases hcharged : config.lowBattery < input.batteryLevel
  · simp [Other, hcharged]
  · by_cases hdock : (chargeContext input).dockPlausible = true
    · simp [Other, hcharged, hdock, navigationGoal]
    · by_cases happroach : (chargeContext input).shouldApproach = true
      · cases input.nearbyBestChargeDirectionRad.bind chargeAlignmentTurn <;>
          simp [Other, hcharged, hdock, happroach, navigationGoal]
      · by_cases hsearch : (chargeContext input).shouldSearch = true
        · cases input.nearbyBestChargeDirectionRad <;>
            simp [Other, hcharged, hdock, happroach, hsearch, navigationGoal]
        · simp [Other, hcharged, hdock, happroach, hsearch]

theorem other_proposalGoal : Other (proposalGoal input) := by
  rw [proposalGoal]
  cases input.proposals.getLast? <;> simp [Other, navigationGoal]

theorem other_noveltyGoal : Other (noveltyGoal config input) := by
  rw [noveltyGoal]
  by_cases hnovel : config.noveltyThreshold ≤ input.curiosity ∨
      config.noveltyThreshold ≤ input.placeNovelty ∧ input.placeDanger < config.dangerThreshold
  · cases input.nearbyFrontierDirectionRad <;> simp [Other, hnovel, navigationGoal]
  · simp [Other, hnovel]

theorem intent_undisturbedGoal : (undisturbedGoal config input).intent ≠ .recoverFromContact := by
  have hfirst := ((other_trapGoal input).or (other_dangerGoal config input)).or
    (other_lowBatteryGoal config input)
  have hlast := (other_proposalGoal input).or (other_noveltyGoal config input)
  exact (hfirst.or hlast).getD (by simp [navigationGoal])

end Others

theorem moves_undisturbed {call : Call} (h : call.decision = undisturbedGoal config input) :
    call.moves = false := by
  simp [Call.moves, h, intent_undisturbedGoal]

theorem Kept.idle (h : journey.Kept) (hidle : journey.recovery.step = .idle) {call : Call}
    (hmoves : call.moves = false) (hoverridden : call.overridden = false)
    (hentered : call.entered = false) : (⟨journey.recovery, call :: journey.log⟩ : Journey).Kept where
  none _ := hidle
  some calls hcalls := by
    simp only [episode, hoverridden, hentered, Bool.false_eq_true, if_false] at hcalls
    obtain ⟨before, hbefore, rfl⟩ := Option.map_eq_some_iff.mp hcalls
    rcases h.some before hbefore with ⟨hactive, -, -⟩ | ⟨hover, hbounded, hyields⟩
    · simp [RecoveryState.Active, hidle] at hactive
    · obtain ⟨last, hlast, hends⟩ := hyields
      exact .inr ⟨hover, hbounded.cons ⟨last, hlast, hends⟩ hmoves, last,
        List.mem_cons_of_mem _ hlast, hends⟩

theorem kept_entered {started : RecoveryState}
    (hbudget : started.budget ≤ 3 * (45 + 45 + 20)) (hissues : started.Issues recovery decision)
    (past : List Call) : (⟨recovery, recovered true decision :: past⟩ : Journey).Kept where
  none hnone := by simp [episode, recovered] at hnone
  some calls hcalls := by
    obtain rfl : [recovered true decision] = calls := by simpa [episode, recovered] using hcalls
    rcases hissues with ⟨hmoves, -, hactive, hless⟩ | ⟨hyields, hover⟩
    · refine .inl ⟨hactive, by simp [moves_recovered hmoves], ?_⟩
      simp only [List.length_singleton]
      omega
    · exact .inr ⟨hover, bounded_of_moves (by simp) (Nat.zero_le _) (yields_recovered hyields), _,
        List.mem_cons_self, yields_recovered hyields⟩

theorem Kept.further (h : journey.Kept) (hstarted : journey.recovery.step ≠ .idle)
    (hissues : journey.recovery.Issues recovery decision) :
    (⟨recovery, recovered false decision :: journey.log⟩ : Journey).Kept where
  none hnone := by
    have hbefore : episode journey.log = Option.none := by simpa [episode, recovered] using hnone
    exact absurd (h.none hbefore) hstarted
  some calls hcalls := by
    have hmap : (episode journey.log).map (recovered false decision :: ·) = Option.some calls := by
      simpa [episode, recovered] using hcalls
    obtain ⟨before, hbefore, rfl⟩ := Option.map_eq_some_iff.mp hmap
    rcases h.some before hbefore with ⟨-, hmoving, hlength⟩ | ⟨hover, hbounded, last, hlast, hends⟩
    · rcases hissues with ⟨hmoves, -, hactive, hless⟩ | ⟨hyields, hover⟩
      · refine .inl ⟨hactive, List.forall_mem_cons.mpr ⟨moves_recovered hmoves, hmoving⟩, ?_⟩
        have hspent : before.length + 1 + recovery.budget ≤ 3 * (45 + 45 + 20) := by omega
        simpa using hspent
      · exact .inr ⟨hover, bounded_of_moves hmoving (by omega) (yields_recovered hyields), _,
          List.mem_cons_self, yields_recovered hyields⟩
    · have hstuck : journey.recovery.step = .stuck := hover.resolve_left hstarted
      rcases hissues with ⟨-, hactive, -, -⟩ | ⟨hyields, hover'⟩
      · simp [RecoveryState.Active, hstuck] at hactive
      · exact .inr ⟨hover', hbounded.cons ⟨last, hlast, hends⟩
          (Call.not_moves_of_yields (yields_recovered hyields)), last,
          List.mem_cons_of_mem _ hlast, hends⟩

theorem kept_fresh : ({} : Journey).Kept where
  none _ := rfl
  some calls hcalls := by simp [episode] at hcalls

variable {rounds : Nat}

theorem choose_of_overridden (rounds : Nat) (journey : Journey) {goal : NavigationGoalDecision}
    (hgoal : overriding config input = Option.some goal) :
    ∃ call, call.overridden = true ∧
      choose rounds config journey input = Option.some ⟨{}, call :: journey.log⟩ := by
  simp [choose, chooseWithNavigationGoal, hgoal]

theorem choose_of_run {outcome : RecoveryState × Option RecoveryDecision}
    (hgoal : overriding config input = Option.none)
    (hrun : (triggered input journey.recovery).nextRecoveryAction input rounds =
      Option.some outcome) :
    ∃ decision, choose rounds config journey input = Option.some ⟨outcome.1,
        { overridden := false
          entered := journey.recovery.step = .idle &&
            (triggered input journey.recovery).step ≠ .idle
          decision } :: journey.log⟩ ∧
      (outcome.2 = Option.none → decision = undisturbedGoal config input) ∧
      ∀ escape, outcome.2 = Option.some escape →
        decision = navigationGoal .recoverFromContact escape.action 0.9 escape.reason := by
  obtain ⟨recovery, _ | escape⟩ := outcome <;>
    simp [choose, chooseWithNavigationGoal, hgoal, hrun]

theorem Kept.choose_quiet (h : journey.Kept) (hrounds : 13 ≤ rounds)
    (hgoal : overriding config input = Option.none)
    (hquiet : (triggered input journey.recovery).step = .idle) :
    ∃ next, choose rounds config journey input = Option.some next ∧ next.Kept := by
  obtain ⟨more, rfl⟩ := Nat.exists_eq_add_one_of_ne_zero (by omega : rounds ≠ 0)
  have hidle : journey.recovery.step = .idle := by
    by_contra hstarted
    exact hstarted (triggered_of_started hstarted ▸ hquiet)
  have hsame : triggered input journey.recovery = journey.recovery :=
    (triggered_cases hidle).resolve_right fun hstarted => hstarted.1 hquiet
  obtain ⟨decision, hchoose, hdecision, -⟩ :=
    choose_of_run hgoal (RecoveryState.nextRecoveryAction_of_idle hquiet)
  refine ⟨_, hchoose, ?_⟩
  rw [hsame]
  exact h.idle hidle (moves_undisturbed (hdecision rfl)) rfl (by simp [hidle])

theorem Kept.choose_started (h : journey.Kept) (hrounds : 13 ≤ rounds)
    (hgoal : overriding config input = Option.none)
    (hstarted : (triggered input journey.recovery).step ≠ .idle) :
    ∃ next, choose rounds config journey input = Option.some next ∧ next.Kept := by
  obtain ⟨recovery', decision, hrun, hissues⟩ := RecoveryState.nextRecoveryAction_of_started
    input hstarted ((RecoveryState.pending_le _).trans_lt hrounds)
  obtain ⟨goal, hchoose, -, hescape⟩ := choose_of_run hgoal hrun
  obtain rfl := hescape decision rfl
  refine ⟨_, hchoose, ?_⟩
  by_cases hidle : journey.recovery.step = .idle
  · have hbudget := ((triggered_cases hidle).resolve_left fun hsame => hstarted (by rw [hsame]; exact hidle)).2
    have hentered := kept_entered hbudget hissues journey.log
    simpa [recovered, hidle, hstarted] using hentered
  · rw [triggered_of_started hidle] at hissues
    have hfurther := h.further hidle hissues
    simpa [recovered, hidle] using hfurther

theorem Kept.choose (h : journey.Kept) (config : ConductorConfig) (input : ConductorInput) (hrounds : 13 ≤ rounds) :
    ∃ next, choose rounds config journey input = Option.some next ∧ next.Kept := by
  cases hgoal : overriding config input with
  | some goal =>
    obtain ⟨call, hoverridden, hchoose⟩ := choose_of_overridden rounds journey hgoal
    exact ⟨_, hchoose, fun _ => rfl, fun calls hcalls => by
      simp [episode, hoverridden] at hcalls⟩
  | none =>
    by_cases hquiet : (triggered input journey.recovery).step = .idle
    · exact h.choose_quiet hrounds hgoal hquiet
    · exact h.choose_started hrounds hgoal hquiet

theorem Kept.bounded (h : journey.Kept) {calls : List Call}
    (hcalls : episode journey.log = Option.some calls) : Bounded calls := by
  rcases h.some calls hcalls with ⟨-, hmoving, hlength⟩ | ⟨-, hbounded, -⟩
  · have hshort : calls.length ≤ 3 * (45 + 45 + 20) := by omega
    exact {
      motions := (List.length_filter_le _ _).trans hshort
      finished := List.pairwise_of_forall_mem_list fun _ _ earlier hearlier hends => by
        have hmoves := hmoving earlier hearlier
        simp [Call.not_moves_of_yields hends] at hmoves
      ends := fun hlong => absurd hshort (Nat.not_le.mpr hlong) }
  · exact hbounded

theorem run_kept (config : ConductorConfig) (inputs : List ConductorInput)
    (hrounds : 13 ≤ rounds) :
    ∃ journey, run rounds config inputs = Option.some journey ∧ journey.Kept := by
  induction inputs using List.reverseRecOn with
  | nil => exact ⟨{}, rfl, kept_fresh⟩
  | append_singleton inputs input ih =>
    obtain ⟨journey, hrun, hkept⟩ := ih
    obtain ⟨next, hchoose, hnext⟩ := hkept.choose config input hrounds
    refine ⟨next, ?_, hnext⟩
    rw [run, List.foldlM_append, ← run, hrun]
    simpa using hchoose

/-- Every call of the recovery returns, and no escape makes more motions than three attempts have
before it inspects or stops, nor any after that. -/
theorem escape_bounded (config : ConductorConfig) :
    (∀ input recovery, ∃ outcome, ∀ more,
      RecoveryState.nextRecoveryAction input (13 + more) recovery = Option.some outcome) ∧
    ∀ more inputs, ∃ journey, run (13 + more) config inputs = Option.some journey ∧
      ∀ calls ∈ episode journey.log, Bounded calls := by
  constructor
  · intro input recovery
    obtain ⟨outcome, hreturns⟩ := RecoveryState.nextRecoveryAction_returns input recovery
    exact ⟨outcome, fun more => hreturns _ (Nat.le_add_right 13 more)⟩
  · intro more inputs
    obtain ⟨journey, hrun, hkept⟩ := run_kept config inputs (Nat.le_add_right 13 more)
    exact ⟨journey, hrun, fun calls hcalls => hkept.bounded hcalls⟩

end Journey

end Netherwick.Navigation
