import Netherwick.HigherBrain.Coordinator

/-! # Refused calls, the order of phases and the approval of activations

A call that is refused leaves the cycle as it was, unless the state file could not be written: the
cycle in memory has changed by then. -/

namespace Netherwick.HigherBrain

open Netherwick.Lib

/-- A call of the coordinator, with what the backend and the state file answer, or the opening of
a new coordinator on the same file. -/
inductive CoordinatorEvent
  | start (now : Nat) (cycleId : List Char) (dock : DockReadiness) (power : PowerReadiness)
      (principal : Principal) (write : WriteResult)
  | startWithPowerAssessment (now later : Nat) (cycleId : List Char)
      (assessment : ConsolidationPowerAssessment) (principal : Principal)
      (write rewrite : WriteResult)
  | tick (now : Nat) (backend : ConsolidationBackend) (write : WriteResult)
  | tickWithPowerAssessment (now later : Nat) (assessment : ConsolidationPowerAssessment)
      (backend : ConsolidationBackend) (write rewrite : WriteResult)
  | approveActivation (principal : Principal) (write : WriteResult)
  | open_

namespace CoordinatorEvent

def perform : CoordinatorEvent → CoordinatorCall Unit
  | start now cycleId dock power principal write =>
    Coordinator.start now cycleId dock power principal write
  | startWithPowerAssessment now later cycleId assessment principal write rewrite =>
    Coordinator.startWithPowerAssessment now later cycleId assessment principal write rewrite
  | tick now backend write => do
      let _ ← Coordinator.tick now backend write
      return ()
  | tickWithPowerAssessment now later assessment backend write rewrite => do
      let _ ← Coordinator.tickWithPowerAssessment now later assessment backend write rewrite
      return ()
  | approveActivation principal write => Coordinator.approveActivation principal write
  | open_ => Prog.act Coordinator.reopened

def isTick : CoordinatorEvent → Bool
  | tick .. | tickWithPowerAssessment .. => true
  | _ => false

/-- The call passes its checks and would change the cycle, but a write of the state file fails. -/
def Leaks (event : CoordinatorEvent) (coordinator : Coordinator) : Prop :=
  match event with
  | start _ _ dock power principal write =>
    (Coordinator.startChecks dock power principal coordinator.cycle).isOk ∧
      ¬ write.answer.isOk
  | startWithPowerAssessment _ _ _ assessment principal write rewrite =>
    assessment.consolidationReady ∧
      (Coordinator.startChecks (Coordinator.assessedDock assessment)
        (Coordinator.assessedPower assessment) principal coordinator.cycle).isOk ∧
      ¬ (write.answer.isOk ∧ rewrite.answer.isOk)
  | approveActivation principal write =>
    .activateCandidate ∈ principal.scopes ∧
      (∃ cycle, coordinator.cycle = some cycle ∧ cycle.phase = .awaitActivation ∧
        cycle.activationRequested = false) ∧
      ¬ write.answer.isOk
  | tick .. | tickWithPowerAssessment .. | open_ => False

end CoordinatorEvent

namespace Coordinator

def initial : Coordinator := ⟨none, none, []⟩

def run (events : List CoordinatorEvent) : Coordinator :=
  events.foldl (fun coordinator event => event.perform.exec coordinator) initial

theorem run_append (before : List CoordinatorEvent) (event : CoordinatorEvent) :
    run (before ++ [event]) = event.perform.exec (run before) := by
  unfold run
  rw [List.foldl_append]
  rfl

end Coordinator

/-- A call leaves the cycle at its phase, moves it on by one, or begins a new one where none is
pending. -/
inductive PhaseStep : Option ConsolidationCycle → Option ConsolidationCycle → Prop
  | none : PhaseStep none none
  | stays {cycle next : ConsolidationCycle} (id : next.cycleId = cycle.cycleId)
      (phase : next.phase = cycle.phase) : PhaseStep (some cycle) (some next)
  | advances {cycle next : ConsolidationCycle} (id : next.cycleId = cycle.cycleId)
      (phase : cycle.phase.next? = some next.phase) : PhaseStep (some cycle) (some next)
  | begins {former : Option ConsolidationCycle} {cycle : ConsolidationCycle}
      (finished : ∀ pending, former = some pending → pending.phase = .complete)
      (phase : cycle.phase = .checkpointExperience) : PhaseStep former (some cycle)

def Staged (events : List CoordinatorEvent) (id : List Char) : Prop :=
  ∃ earlier event cycle next, earlier ++ [event] <+: events ∧
    (Coordinator.run earlier).cycle = some cycle ∧ cycle.cycleId = id ∧
    cycle.phase = .stageCandidates ∧
    (Coordinator.run (earlier ++ [event])).cycle = some next ∧ next.cycleId = id ∧
    next.phase = .awaitActivation

/-- A principal who may do so approved the activation of the cycle after it was staged. -/
def Approved (events : List CoordinatorEvent) (id : List Char) : Prop :=
  ∃ earlier principal write cycle, earlier ++ [.approveActivation principal write] <+: events ∧
    .activateCandidate ∈ principal.scopes ∧
    (CoordinatorEvent.approveActivation principal write).perform.succeeds
      (Coordinator.run earlier) ∧
    (Coordinator.run earlier).cycle = some cycle ∧ cycle.cycleId = id ∧ Staged earlier id

structure SoundRun (events : List CoordinatorEvent) : Prop where
  atomic : ∀ before event, before ++ [event] <+: events → event.isTick = false →
    event.perform.succeeds (Coordinator.run before) = false →
    (Coordinator.run (before ++ [event])).cycle = (Coordinator.run before).cycle
  ordered : ∀ before event, before ++ [event] <+: events → event ≠ .open_ →
    PhaseStep (Coordinator.run before).cycle (Coordinator.run (before ++ [event])).cycle
  approved : ∀ before event ids, before ++ [event] <+: events →
    (Coordinator.run (before ++ [event])).calls =
      (Coordinator.run before).calls ++ [.activateCandidates ids] →
    ∃ cycle, (Coordinator.run before).cycle = some cycle ∧ Approved before cycle.cycleId

def NeverLeaks (events : List CoordinatorEvent) : Prop :=
  ∀ before event, before ++ [event] <+: events → ¬ event.Leaks (Coordinator.run before)

namespace Coordinator

variable {coordinator : Coordinator} {cycle : ConsolidationCycle} {write rewrite : WriteResult}
  {now later : Nat} {cycleId : List Char} {dock : DockReadiness} {power : PowerReadiness}
  {principal : Principal} {assessment : ConsolidationPowerAssessment}
  {backend : ConsolidationBackend}

def stored (coordinator : Coordinator) (cycle : ConsolidationCycle) (write : WriteResult) :
    Coordinator :=
  { coordinator with
    cycle := some cycle
    saved := (write.record cycle).orElse fun _ => coordinator.saved }

theorem persist_apply (h : coordinator.cycle = some cycle) :
    persist write coordinator = (write.answer, coordinator.stored cycle write) := by
  obtain ⟨held, saved, calls⟩ := coordinator
  cases h
  rfl

theorem setCycle_persist :
    (setCycle cycle >>= fun _ => persist write) coordinator =
      (write.answer, coordinator.stored cycle write) := by
  unfold setCycle
  rw [Prog.act_bind]
  exact persist_apply rfl

theorem start_refused {error : String}
    (h : startChecks dock power principal coordinator.cycle = .error error) :
    start now cycleId dock power principal write coordinator = (.error error, coordinator) := by
  unfold start
  rw [Prog.get_bind, h, Prog.check_error_bind]

theorem start_accepted (h : startChecks dock power principal coordinator.cycle = .ok ()) :
    start now cycleId dock power principal write coordinator =
      (write.answer, coordinator.stored (newCycle now cycleId) write) := by
  unfold start
  rw [Prog.get_bind, h, Prog.check_ok_bind]
  exact setCycle_persist

theorem startChecks_ok (h : startChecks dock power principal coordinator.cycle = .ok ())
    {pending : ConsolidationCycle} (hpending : coordinator.cycle = some pending) :
    pending.phase = .complete := by
  by_contra hphase
  unfold startChecks at h
  rw [hpending, Option.any_some, decide_eq_true hphase] at h
  have hlast : ∀ {a : Except String Unit} {k : Unit → Except String Unit},
      (a >>= k) = .ok () → k () = .ok () := by
    intro a k hbind
    cases a with
    | error e => cases hbind
    | ok _ => exact hbind
  have hrest := hlast (hlast (hlast (hlast h)))
  revert hrest
  repeat' split
  all_goals simp_all

def assessedCycle (now later : Nat) (cycleId : List Char)
    (assessment : ConsolidationPowerAssessment) : ConsolidationCycle :=
  { newCycle now cycleId with
    powerAssessment := some assessment
    events := (newCycle now cycleId).events ++ [⟨later, .checkpointExperience,
      "fresh independent X1202/Create evidence accepted"⟩] }

variable (coordinator write rewrite now later cycleId principal) in
theorem startAssessed_unready (h : assessment.consolidationReady = false) :
    ∃ error, startWithPowerAssessment now later cycleId assessment principal write rewrite
      coordinator = (.error error, coordinator) := by
  unfold startWithPowerAssessment
  rw [if_pos (by simp [h])]
  exact ⟨_, rfl⟩

section Assessed

variable (hready : assessment.consolidationReady = true)
include hready

theorem startAssessed_start : startWithPowerAssessment now later cycleId assessment principal
    write rewrite =
      (start now cycleId (assessedDock assessment) (assessedPower assessment) principal write
        >>= fun _ => (Prog.act fun coordinator =>
          { coordinator with
            cycle := coordinator.cycle.map fun cycle =>
              { cycle with
                powerAssessment := some assessment
                events := cycle.events ++ [⟨later, cycle.phase,
                  "fresh independent X1202/Create evidence accepted"⟩] } }) >>= fun _ =>
        persist rewrite) := by
  unfold startWithPowerAssessment
  rw [if_neg (by simp [hready])]

theorem startAssessed_refused {error : String}
    (h : startChecks (assessedDock assessment) (assessedPower assessment) principal
      coordinator.cycle = .error error) :
    startWithPowerAssessment now later cycleId assessment principal write rewrite coordinator =
      (.error error, coordinator) := by
  rw [startAssessed_start hready]
  exact Prog.bind_error (start_refused h)

theorem startAssessed_unwritten {error : String} {written : Bool}
    (h : startChecks (assessedDock assessment) (assessedPower assessment) principal
      coordinator.cycle = .ok ()) :
    startWithPowerAssessment now later cycleId assessment principal (.failed written error)
      rewrite coordinator =
      (.error error, coordinator.stored (newCycle now cycleId) (.failed written error)) := by
  rw [startAssessed_start hready]
  exact Prog.bind_error (start_accepted h)

theorem startAssessed_accepted
    (h : startChecks (assessedDock assessment) (assessedPower assessment) principal
      coordinator.cycle = .ok ()) :
    startWithPowerAssessment now later cycleId assessment principal .ok rewrite coordinator =
      (rewrite.answer, (coordinator.stored (newCycle now cycleId) .ok).stored
        (assessedCycle now later cycleId assessment) rewrite) := by
  rw [startAssessed_start hready]
  refine (Prog.bind_ok (start_accepted h)).trans ?_
  rw [Prog.act_bind]
  exact persist_apply rfl

end Assessed

def called (coordinator : Coordinator) (call : Option BackendCall) : Coordinator :=
  { coordinator with calls := coordinator.calls ++ call.toList }

theorem tick_none (h : coordinator.cycle = none) :
    (tick now backend write).exec coordinator = coordinator := by
  unfold tick Prog.exec
  rw [Prog.get_bind, h]
  rfl

theorem tick_some (h : coordinator.cycle = some cycle) :
    (tick now backend write).exec coordinator =
      (coordinator.called (attempt backend cycle).1).stored
        (concluded now (attempt backend cycle).2.1 (attempt backend cycle).2.2) write := by
  unfold tick
  rw [Prog.exec, Prog.get_bind, h]
  cases write with
  | ok => rfl
  | failed written error => rfl

theorem tickAssessed_none (h : coordinator.cycle = none) :
    (tickWithPowerAssessment now later assessment backend write rewrite).exec coordinator =
      coordinator := by
  unfold tickWithPowerAssessment Prog.exec
  rw [Prog.get_bind, h]
  rfl

theorem tickAssessed_paused (h : coordinator.cycle = some cycle)
    (hready : assessment.consolidationReady = false) :
    (tickWithPowerAssessment now later assessment backend write rewrite).exec coordinator =
      coordinator.stored (paused now assessment cycle) write := by
  unfold tickWithPowerAssessment
  rw [Prog.exec, Prog.get_bind, h]
  simp only
  rw [if_pos (by simp [hready])]
  cases write with
  | ok => rfl
  | failed written error => rfl

theorem tickAssessed_unwritten {error : String} {written : Bool}
    (h : coordinator.cycle = some cycle) (hready : assessment.consolidationReady = true) :
    (tickWithPowerAssessment now later assessment backend (.failed written error) rewrite).exec
        coordinator =
      coordinator.stored { cycle with powerAssessment := some assessment }
        (.failed written error) := by
  unfold tickWithPowerAssessment
  rw [Prog.exec, Prog.get_bind, h]
  simp only
  rw [if_neg (by simp [hready])]
  rfl

theorem tickAssessed_ready (h : coordinator.cycle = some cycle)
    (hready : assessment.consolidationReady = true) :
    (tickWithPowerAssessment now later assessment backend .ok rewrite).exec coordinator =
      (tick later backend rewrite).exec
        (coordinator.stored { cycle with powerAssessment := some assessment } .ok) := by
  unfold tickWithPowerAssessment
  rw [Prog.exec, Prog.get_bind, h]
  simp only
  rw [if_neg (by simp [hready])]
  rfl

variable (coordinator write) in
theorem approve_unauthorized (h : .activateCandidate ∉ principal.scopes) :
    ∃ error, approveActivation principal write coordinator = (.error error, coordinator) := by
  unfold approveActivation
  cases hrequire : principal.require .activateCandidate with
  | ok _ => exact absurd hrequire (Principal.require_refused h ())
  | error error => exact ⟨error, rfl⟩

variable (write principal) in
theorem approve_elsewhere (h : ∀ cycle, coordinator.cycle = some cycle →
      cycle.phase ≠ .awaitActivation) :
    ∃ error, approveActivation principal write coordinator = (.error error, coordinator) := by
  unfold approveActivation
  cases principal.require .activateCandidate with
  | error error => exact ⟨error, rfl⟩
  | ok _ =>
    rw [Prog.check_ok_bind, Prog.get_bind]
    cases hcycle : coordinator.cycle with
    | none => exact ⟨_, rfl⟩
    | some cycle =>
      simp only
      rw [if_pos (h cycle hcycle)]
      exact ⟨_, rfl⟩

theorem approve_awaiting (hscope : .activateCandidate ∈ principal.scopes)
    (h : coordinator.cycle = some cycle) (hphase : cycle.phase = .awaitActivation) :
    approveActivation principal write coordinator =
      (write.answer, coordinator.stored { cycle with activationRequested := true } write) := by
  unfold approveActivation
  rw [Principal.require_ok hscope, Prog.check_ok_bind, Prog.get_bind, h]
  simp only
  rw [if_neg (by simp [hphase])]
  exact setCycle_persist

structure SamePhase (cycle next : ConsolidationCycle) : Prop where
  id : next.cycleId = cycle.cycleId
  phase : next.phase = cycle.phase
  requested : next.activationRequested = cycle.activationRequested

theorem attempt_same (backend : ConsolidationBackend) (cycle : ConsolidationCycle) :
    SamePhase cycle (attempt backend cycle).2.1 := by
  unfold attempt
  split
  all_goals repeat' split
  all_goals exact ⟨rfl, rfl, rfl⟩

theorem attempt_next {next : ConsolidationPhase}
    (h : (attempt backend cycle).2.2 = .ok (some next)) :
    cycle.phase.next? = some next ∧ (next = .activate → cycle.activationRequested = true) := by
  unfold attempt at h
  cases hphase : cycle.phase with
  | awaitActivation =>
    rw [hphase] at h
    cases hrequested : cycle.activationRequested with
    | false => simp [hrequested] at h
    | true =>
      simp [hrequested] at h
      rw [← h]
      exact ⟨rfl, fun _ => rfl⟩
  | complete => simp [hphase] at h
  | _ =>
    rw [hphase] at h
    simp only [Except.map] at h
    repeat' split at h
    all_goals simp at h
    all_goals rw [← h]
    all_goals exact ⟨rfl, fun heq => nomatch heq⟩

theorem attempt_call {ids : List (List Char)}
    (h : (attempt backend cycle).1 = some (.activateCandidates ids)) :
    cycle.phase = .activate := by
  unfold attempt at h
  cases hphase : cycle.phase with
  | activate => rfl
  | _ =>
    rw [hphase] at h
    simp only at h
    repeat' split at h
    all_goals cases h

structure Attempted (cycle next : ConsolidationCycle) : Prop where
  id : next.cycleId = cycle.cycleId
  requested : next.activationRequested = cycle.activationRequested
  phase : next.phase = cycle.phase ∨ cycle.phase.next? = some next.phase ∧
    (next.phase = .activate → cycle.activationRequested = true)

theorem attempted (backend : ConsolidationBackend) (now : Nat) (cycle : ConsolidationCycle) :
    Attempted cycle (concluded now (attempt backend cycle).2.1 (attempt backend cycle).2.2) := by
  have hsame := attempt_same backend cycle
  cases hresult : (attempt backend cycle).2.2 with
  | error error => exact ⟨hsame.id, hsame.requested, .inl hsame.phase⟩
  | ok next =>
    cases next with
    | none => exact ⟨hsame.id, hsame.requested, .inl hsame.phase⟩
    | some next => exact ⟨hsame.id, hsame.requested, .inr (attempt_next hresult)⟩

inductive TickEffect (coordinator : Coordinator) : Coordinator → Prop
  | nothing : TickEffect coordinator coordinator
  | waits {cycle next : ConsolidationCycle} {write : WriteResult}
      (held : coordinator.cycle = some cycle) (same : SamePhase cycle next) :
      TickEffect coordinator (coordinator.stored next write)
  | attempts {cycle next : ConsolidationCycle} {call : Option BackendCall} {write : WriteResult}
      (held : coordinator.cycle = some cycle) (moved : Attempted cycle next)
      (activates : ∀ ids, call = some (.activateCandidates ids) → cycle.phase = .activate) :
      TickEffect coordinator ((coordinator.called call).stored next write)
  | assessed {cycle assessed next : ConsolidationCycle} {call : Option BackendCall}
      {write : WriteResult} (held : coordinator.cycle = some cycle)
      (same : SamePhase cycle assessed) (moved : Attempted assessed next)
      (activates : ∀ ids, call = some (.activateCandidates ids) → assessed.phase = .activate) :
      TickEffect coordinator (((coordinator.stored assessed .ok).called call).stored next write)

theorem tick_effect (now : Nat) (backend : ConsolidationBackend) (write : WriteResult)
    (coordinator : Coordinator) :
    TickEffect coordinator ((tick now backend write).exec coordinator) := by
  cases hcycle : coordinator.cycle with
  | none =>
    rw [tick_none hcycle]
    exact .nothing
  | some cycle =>
    rw [tick_some hcycle]
    exact .attempts hcycle (attempted backend now cycle) fun _ => attempt_call

theorem tickAssessed_effect (now later : Nat) (assessment : ConsolidationPowerAssessment)
    (backend : ConsolidationBackend) (write rewrite : WriteResult) (coordinator : Coordinator) :
    TickEffect coordinator
      ((tickWithPowerAssessment now later assessment backend write rewrite).exec coordinator) := by
  cases hcycle : coordinator.cycle with
  | none =>
    rw [tickAssessed_none hcycle]
    exact .nothing
  | some cycle =>
    have hassessed : SamePhase cycle { cycle with powerAssessment := some assessment } :=
      ⟨rfl, rfl, rfl⟩
    cases hready : assessment.consolidationReady with
    | false =>
      rw [tickAssessed_paused hcycle hready]
      exact .waits hcycle ⟨rfl, rfl, rfl⟩
    | true =>
      cases write with
      | failed written error =>
        rw [tickAssessed_unwritten hcycle hready]
        exact .waits hcycle hassessed
      | ok =>
        rw [tickAssessed_ready hcycle hready, tick_some rfl]
        exact .assessed hcycle hassessed (attempted backend later _) fun _ => attempt_call

structure Begun (cycle : ConsolidationCycle) : Prop where
  phase : cycle.phase = .checkpointExperience
  requested : cycle.activationRequested = false

/-- What a call of `start` or `start_with_power_assessment` does. -/
inductive StartEffect (event : CoordinatorEvent) (coordinator : Coordinator) :
    Except String Unit × Coordinator → Prop
  | refused {error : String} (sound : ¬ event.Leaks coordinator) :
      StartEffect event coordinator (.error error, coordinator)
  | begins {cycle : ConsolidationCycle} {answer : Except String Unit} {after : Coordinator}
      (leaks : event.Leaks coordinator ↔ ¬ answer.isOk)
      (finished : ∀ pending, coordinator.cycle = some pending → pending.phase = .complete)
      (held : after.cycle = some cycle) (begun : Begun cycle)
      (saved : ∀ known, after.saved = some known → coordinator.saved = some known ∨ Begun known)
      (calls : after.calls = coordinator.calls) : StartEffect event coordinator (answer, after)

theorem stored_saved {known : ConsolidationCycle}
    (h : (coordinator.stored cycle write).saved = some known) :
    known = cycle ∨ coordinator.saved = some known := by
  cases write with
  | ok => exact .inl (Option.some.inj h).symm
  | failed written error =>
    cases written with
    | true => exact .inl (Option.some.inj h).symm
    | false => exact .inr h

theorem start_effect (now : Nat) (cycleId : List Char) (dock : DockReadiness)
    (power : PowerReadiness) (principal : Principal) (write : WriteResult)
    (coordinator : Coordinator) :
    StartEffect (.start now cycleId dock power principal write) coordinator
      (start now cycleId dock power principal write coordinator) := by
  cases hchecks : startChecks dock power principal coordinator.cycle with
  | error error =>
    rw [start_refused hchecks]
    apply StartEffect.refused
    intro hleaks
    have hok := hleaks.1
    rw [hchecks] at hok
    cases hok
  | ok _ =>
    rw [start_accepted hchecks]
    refine .begins ?_ (fun pending => startChecks_ok hchecks) rfl ⟨rfl, rfl⟩ ?_ rfl
    · simp [CoordinatorEvent.Leaks, hchecks, Except.isOk, Except.toBool]
    · intro known hknown
      obtain rfl | hsaved := stored_saved hknown
      · exact .inr ⟨rfl, rfl⟩
      · exact .inl hsaved

theorem startAssessed_effect (now later : Nat) (cycleId : List Char)
    (assessment : ConsolidationPowerAssessment) (principal : Principal)
    (write rewrite : WriteResult) (coordinator : Coordinator) :
    StartEffect (.startWithPowerAssessment now later cycleId assessment principal write rewrite)
      coordinator (startWithPowerAssessment now later cycleId assessment principal write rewrite
        coordinator) := by
  cases hready : assessment.consolidationReady with
  | false =>
    obtain ⟨error, hrefused⟩ := startAssessed_unready coordinator write rewrite now later
      cycleId principal hready
    rw [hrefused]
    apply StartEffect.refused
    intro hleaks
    cases hready.symm.trans hleaks.1
  | true =>
    cases hchecks : startChecks (assessedDock assessment) (assessedPower assessment) principal
        coordinator.cycle with
    | error error =>
      rw [startAssessed_refused hready hchecks]
      apply StartEffect.refused
      intro hleaks
      have hok := hleaks.2.1
      rw [hchecks] at hok
      cases hok
    | ok _ =>
      have hfinished : ∀ pending, coordinator.cycle = some pending →
          pending.phase = .complete := fun _ => startChecks_ok hchecks
      cases write with
      | failed written error =>
        rw [startAssessed_unwritten hready hchecks]
        refine .begins ?_ hfinished rfl ⟨rfl, rfl⟩ ?_ rfl
        · simp [CoordinatorEvent.Leaks, hready, hchecks, Except.isOk, Except.toBool,
            WriteResult.answer]
        · intro known hknown
          obtain rfl | hsaved := stored_saved hknown
          · exact .inr ⟨rfl, rfl⟩
          · exact .inl hsaved
      | ok =>
        rw [startAssessed_accepted hready hchecks]
        refine .begins ?_ hfinished rfl ⟨rfl, rfl⟩ ?_ rfl
        · simp [CoordinatorEvent.Leaks, hready, hchecks, Except.isOk, Except.toBool,
            WriteResult.answer]
        · intro known hknown
          obtain rfl | hsaved := stored_saved hknown
          · exact .inr ⟨rfl, rfl⟩
          · obtain rfl | hsaved := stored_saved hsaved
            · exact .inr ⟨rfl, rfl⟩
            · exact .inl hsaved

/-- What a call of `approve_activation` does. -/
inductive ApproveEffect (event : CoordinatorEvent) (principal : Principal)
    (coordinator : Coordinator) : Except String Unit × Coordinator → Prop
  | refused {error : String} (sound : ¬ event.Leaks coordinator) :
      ApproveEffect event principal coordinator (.error error, coordinator)
  | approves {cycle : ConsolidationCycle} {write : WriteResult}
      (leaks : event.Leaks coordinator ↔
        cycle.activationRequested = false ∧ ¬ write.answer.isOk)
      (scope : .activateCandidate ∈ principal.scopes) (held : coordinator.cycle = some cycle)
      (phase : cycle.phase = .awaitActivation) :
      ApproveEffect event principal coordinator
        (write.answer, coordinator.stored { cycle with activationRequested := true } write)

theorem approve_effect (principal : Principal) (write : WriteResult) (coordinator : Coordinator) :
    ApproveEffect (.approveActivation principal write) principal coordinator
      (approveActivation principal write coordinator) := by
  by_cases hscope : .activateCandidate ∈ principal.scopes
  · by_cases hawaits : ∃ cycle, coordinator.cycle = some cycle ∧ cycle.phase = .awaitActivation
    · obtain ⟨cycle, hcycle, hphase⟩ := hawaits
      rw [approve_awaiting hscope hcycle hphase]
      refine .approves ?_ hscope hcycle hphase
      simp [CoordinatorEvent.Leaks, hscope, hcycle, hphase]
    · have helse : ∀ cycle, coordinator.cycle = some cycle → cycle.phase ≠ .awaitActivation :=
        fun cycle hcycle hphase => hawaits ⟨cycle, hcycle, hphase⟩
      obtain ⟨error, hrefused⟩ := approve_elsewhere write principal helse
      rw [hrefused]
      apply ApproveEffect.refused
      rintro ⟨-, ⟨cycle, hcycle, hphase, -⟩, -⟩
      exact helse cycle hcycle hphase
  · obtain ⟨error, hrefused⟩ := approve_unauthorized coordinator write hscope
    rw [hrefused]
    exact .refused fun hleaks => hscope hleaks.1

end Coordinator

section Steps

variable {event : CoordinatorEvent} {coordinator : Coordinator}

/-- The kinds of calls and what each does. -/
inductive CallEffect (event : CoordinatorEvent) (coordinator : Coordinator) : Prop
  | starts (effect : Coordinator.StartEffect event coordinator (event.perform coordinator))
      (kind : event.isTick = false)
  | ticks (effect : Coordinator.TickEffect coordinator (event.perform.exec coordinator))
      (kind : event.isTick = true) (sound : ¬ event.Leaks coordinator)
  | approves {principal : Principal} {write : WriteResult}
      (effect : Coordinator.ApproveEffect event principal coordinator (event.perform coordinator))
      (same : event = .approveActivation principal write)
  | opens (same : event = .open_)

theorem call_effect (event : CoordinatorEvent) (coordinator : Coordinator) :
    CallEffect event coordinator := by
  cases event with
  | start now cycleId dock power principal write =>
    exact .starts (Coordinator.start_effect now cycleId dock power principal write coordinator)
      rfl
  | startWithPowerAssessment now later cycleId assessment principal write rewrite =>
    exact .starts (Coordinator.startAssessed_effect now later cycleId assessment principal write
      rewrite coordinator) rfl
  | tick now backend write =>
    refine .ticks ?_ rfl fun hleaks => hleaks
    have heffect := Coordinator.tick_effect now backend write coordinator
    rw [← Prog.exec_then_pure (b := ())] at heffect
    exact heffect
  | tickWithPowerAssessment now later assessment backend write rewrite =>
    refine .ticks ?_ rfl fun hleaks => hleaks
    have heffect := Coordinator.tickAssessed_effect now later assessment backend write rewrite
      coordinator
    rw [← Prog.exec_then_pure (b := ())] at heffect
    exact heffect
  | approveActivation principal write =>
    exact .approves (Coordinator.approve_effect principal write coordinator) rfl
  | open_ => exact .opens rfl

theorem atomic_step (hkind : event.isTick = false) (hsound : ¬ event.Leaks coordinator)
    (hfails : event.perform.succeeds coordinator = false) :
    (event.perform.exec coordinator).cycle = coordinator.cycle := by
  unfold Prog.succeeds at hfails
  unfold Prog.exec
  cases call_effect event coordinator with
  | starts effect =>
    generalize event.perform coordinator = result at *
    cases effect with
    | refused => rfl
    | begins leaks => exact absurd (leaks.mpr (by simp [hfails])) hsound
  | ticks _ kind => cases hkind.symm.trans kind
  | approves effect =>
    generalize event.perform coordinator = result at *
    cases effect with
    | refused => rfl
    | @approves cycle write leaks _ held =>
      have hrequested : cycle.activationRequested = true := by
        by_contra hnot
        exact hsound (leaks.mpr ⟨by simpa using hnot, by simp [hfails]⟩)
      rw [held]
      exact congrArg some (by rw [← hrequested])
  | opens same =>
    rw [same] at hfails
    cases hfails

theorem leaks_changes (h : event.Leaks coordinator) : event.isTick = false ∧
    event.perform.succeeds coordinator = false ∧
    (event.perform.exec coordinator).cycle ≠ coordinator.cycle := by
  unfold Prog.succeeds Prog.exec
  cases call_effect event coordinator with
  | starts effect kind =>
    refine ⟨kind, ?_⟩
    generalize event.perform coordinator = result at *
    cases effect with
    | refused sound => exact absurd h sound
    | begins leaks finished held begun =>
      refine ⟨by simpa using leaks.mp h, ?_⟩
      intro heq
      have hphase := finished _ (heq.symm.trans held)
      rw [begun.phase] at hphase
      cases hphase
  | ticks _ _ sound => exact absurd h sound
  | approves effect same =>
    refine ⟨by rw [same]; rfl, ?_⟩
    generalize event.perform coordinator = result at *
    cases effect with
    | refused sound => exact absurd h sound
    | approves leaks _ held =>
      obtain ⟨hrequested, hfails⟩ := leaks.mp h
      refine ⟨by simpa using hfails, ?_⟩
      intro heq
      have hcycle := Option.some.inj (heq.trans held)
      have htrue := congrArg ConsolidationCycle.activationRequested hcycle
      rw [hrequested] at htrue
      cases htrue
  | opens same =>
    rw [same] at h
    cases h

theorem PhaseStep.refl (cycle : Option ConsolidationCycle) : PhaseStep cycle cycle := by
  cases cycle with
  | none => exact .none
  | some cycle => exact .stays rfl rfl

theorem phase_step (hopen : event ≠ .open_) :
    PhaseStep coordinator.cycle (event.perform.exec coordinator).cycle := by
  cases call_effect event coordinator with
  | starts effect =>
    unfold Prog.exec
    generalize event.perform coordinator = result at *
    cases effect with
    | refused => exact .refl _
    | begins _ finished held begun =>
      rw [held]
      exact .begins finished begun.phase
  | ticks effect =>
    generalize event.perform.exec coordinator = after at *
    cases effect with
    | nothing => exact .refl _
    | waits held same =>
      rw [held]
      exact .stays same.id same.phase
    | attempts held moved =>
      rw [held]
      obtain hstays | ⟨hnext, -⟩ := moved.phase
      · exact .stays moved.id hstays
      · exact .advances moved.id hnext
    | assessed held same moved =>
      rw [held]
      have hmoved := moved.phase
      rw [same.phase] at hmoved
      obtain hstays | ⟨hnext, -⟩ := hmoved
      · exact .stays (moved.id.trans same.id) hstays
      · exact .advances (moved.id.trans same.id) hnext
  | approves effect =>
    unfold Prog.exec
    generalize event.perform coordinator = result at *
    cases effect with
    | refused => exact .refl _
    | approves _ _ held =>
      rw [held]
      exact .stays rfl rfl
  | opens same => exact absurd same hopen

theorem tick_calls {ids : List (List Char)}
    (h : (event.perform.exec coordinator).calls =
      coordinator.calls ++ [.activateCandidates ids]) :
    ∃ cycle, coordinator.cycle = some cycle ∧ cycle.phase = .activate := by
  have hnew : ∀ {calls : List BackendCall}, calls ≠ calls ++ [BackendCall.activateCandidates ids] := by
    intro calls heq
    simpa using congrArg List.length heq
  cases call_effect event coordinator with
  | starts effect =>
    unfold Prog.exec at h
    generalize event.perform coordinator = result at *
    cases effect with
    | refused => exact absurd h hnew
    | begins _ _ _ _ _ calls => exact absurd (calls.symm.trans h) hnew
  | ticks effect =>
    have hcall : ∀ {call : Option BackendCall},
        coordinator.calls ++ call.toList = coordinator.calls ++ [BackendCall.activateCandidates ids] →
        call = some (.activateCandidates ids) := by
      intro call heq
      cases call with
      | none => simp at heq
      | some call => simpa using heq
    generalize event.perform.exec coordinator = after at *
    cases effect with
    | nothing => exact absurd h hnew
    | waits => exact absurd h hnew
    | attempts held _ activates => exact ⟨_, held, activates ids (hcall h)⟩
    | assessed held same _ activates =>
      exact ⟨_, held, same.phase.symm.trans (activates ids (hcall h))⟩
  | approves effect =>
    unfold Prog.exec at h
    generalize event.perform coordinator = result at *
    cases effect with
    | refused => exact absurd h hnew
    | approves => exact absurd h hnew
  | opens same =>
    rw [same] at h
    exact absurd h hnew

end Steps

section Accounts

variable {events later : List CoordinatorEvent} {event : CoordinatorEvent}
  {cycle next : ConsolidationCycle} {coordinator : Coordinator}

theorem Staged.mono {id : List Char} (h : Staged events id) (hle : events <+: later) :
    Staged later id := by
  obtain ⟨earlier, event, cycle, next, hpart, hrest⟩ := h
  exact ⟨earlier, event, cycle, next, hpart.trans hle, hrest⟩

theorem Approved.mono {id : List Char} (h : Approved events id) (hle : events <+: later) :
    Approved later id := by
  obtain ⟨earlier, principal, write, cycle, hpart, hrest⟩ := h
  exact ⟨earlier, principal, write, cycle, hpart.trans hle, hrest⟩

/-- What the phase and the request of a cycle say about the calls made for it. -/
structure Accounted (events : List CoordinatorEvent) (cycle : ConsolidationCycle) : Prop where
  staged : cycle.phase = .awaitActivation → Staged events cycle.cycleId
  approved : cycle.activationRequested = true → Approved events cycle.cycleId
  requested : cycle.phase = .activate → cycle.activationRequested = true

theorem Accounted.mono (h : Accounted events cycle) (hle : events <+: later) :
    Accounted later cycle :=
  ⟨fun hphase => (h.staged hphase).mono hle, fun hrequested => (h.approved hrequested).mono hle,
    h.requested⟩

theorem Accounted.same (h : Accounted events cycle) (hsame : Coordinator.SamePhase cycle next) :
    Accounted events next := by
  refine ⟨?_, ?_, ?_⟩
  · intro hphase
    rw [hsame.id]
    exact h.staged (hsame.phase.symm.trans hphase)
  · intro hrequested
    rw [hsame.id]
    exact h.approved (hsame.requested.symm.trans hrequested)
  · intro hphase
    rw [hsame.requested]
    exact h.requested (hsame.phase.symm.trans hphase)

theorem accounted_begun (h : Coordinator.Begun cycle) : Accounted events cycle := by
  refine ⟨?_, ?_, ?_⟩
  · intro hphase
    cases h.phase.symm.trans hphase
  · intro hrequested
    cases h.requested.symm.trans hrequested
  · intro hphase
    cases h.phase.symm.trans hphase

theorem Accounted.moved (h : Accounted events cycle) (hmoved : Coordinator.Attempted cycle next)
    (hstaged : cycle.phase = .stageCandidates → next.phase = .awaitActivation →
      Staged events next.cycleId) : Accounted events next := by
  refine ⟨?_, ?_, ?_⟩
  · intro hphase
    obtain hstays | ⟨hnext, -⟩ := hmoved.phase
    · rw [hmoved.id]
      exact h.staged (hstays.symm.trans hphase)
    · apply hstaged _ hphase
      rw [hphase] at hnext
      revert hnext
      cases cycle.phase <;> simp [ConsolidationPhase.next?]
  · intro hrequested
    rw [hmoved.id]
    exact h.approved (hmoved.requested.symm.trans hrequested)
  · intro hphase
    rw [hmoved.requested]
    obtain hstays | ⟨-, hasked⟩ := hmoved.phase
    · exact h.requested (hstays.symm.trans hphase)
    · exact hasked hphase

/-- Both the cycle in memory and the one in the state file are accounted for. -/
def Known (events : List CoordinatorEvent) (coordinator : Coordinator) : Prop :=
  ∀ cycle, coordinator.cycle = some cycle ∨ coordinator.saved = some cycle →
    Accounted events cycle

theorem Known.mono (h : Known events coordinator) (hle : events <+: later) :
    Known later coordinator := fun cycle hcycle => (h cycle hcycle).mono hle

theorem Known.stored {write : WriteResult} (h : Known events coordinator)
    (hcycle : Accounted events cycle) : Known events (coordinator.stored cycle write) := by
  intro known hknown
  obtain hheld | hsaved := hknown
  · cases hheld
    exact hcycle
  · obtain rfl | hsaved := Coordinator.stored_saved hsaved
    · exact hcycle
    · exact h known (.inr hsaved)

theorem Known.called (h : Known events coordinator) (call : Option BackendCall) :
    Known events (coordinator.called call) := h

theorem known_step (h : Known events (Coordinator.run events))
    (hsound : ¬ event.Leaks (Coordinator.run events)) :
    Known (events ++ [event]) (Coordinator.run (events ++ [event])) := by
  have hkept : Known (events ++ [event]) (Coordinator.run events) :=
    h.mono (List.prefix_append _ _)
  have hstaged : ∀ {cycle next : ConsolidationCycle},
      (Coordinator.run events).cycle = some cycle → next.cycleId = cycle.cycleId →
      (Coordinator.run (events ++ [event])).cycle = some next →
      cycle.phase = .stageCandidates → next.phase = .awaitActivation →
      Staged (events ++ [event]) next.cycleId := by
    intro cycle next hcycle hid hnext hphase hawaits
    exact ⟨events, event, cycle, next, List.prefix_refl _, hcycle, hid.symm, hphase, hnext, rfl,
      hawaits⟩
  have happroved : ∀ {principal : Principal} {write : WriteResult} {cycle : ConsolidationCycle},
      event = .approveActivation principal write → .activateCandidate ∈ principal.scopes →
      event.perform.succeeds (Coordinator.run events) = true →
      (Coordinator.run events).cycle = some cycle → cycle.phase = .awaitActivation →
      Approved (events ++ [event]) cycle.cycleId := by
    intro principal write cycle heq hscope hsucceeds hcycle hphase
    subst heq
    exact ⟨events, principal, write, cycle, List.prefix_refl _, hscope, hsucceeds, hcycle, rfl,
      (h cycle (.inl hcycle)).staged hphase⟩
  rw [Coordinator.run_append] at hstaged ⊢
  unfold Prog.succeeds at happroved
  generalize Coordinator.run events = coordinator at *
  cases call_effect event coordinator with
  | starts effect =>
    unfold Prog.exec
    generalize event.perform coordinator = result at *
    cases effect with
    | refused => exact hkept
    | begins _ _ held begun saved =>
      intro cycle hcycle
      obtain hheld | hsaved := hcycle
      · cases held.symm.trans hheld
        exact accounted_begun begun
      · obtain hformer | hbegun := saved cycle hsaved
        · exact hkept cycle (.inr hformer)
        · exact accounted_begun hbegun
  | ticks effect =>
    generalize event.perform.exec coordinator = after at *
    cases effect with
    | nothing => exact hkept
    | waits held same => exact hkept.stored ((hkept _ (.inl held)).same same)
    | attempts held moved =>
      exact (hkept.called _).stored ((hkept _ (.inl held)).moved moved
        (hstaged held moved.id rfl))
    | assessed held same moved =>
      have hsame := (hkept _ (.inl held)).same same
      apply ((hkept.stored hsame).called _).stored (hsame.moved moved _)
      intro hphase
      exact hstaged held (moved.id.trans same.id) rfl (same.phase.symm.trans hphase)
  | approves effect same =>
    unfold Prog.exec
    generalize event.perform coordinator = result at *
    cases effect with
    | refused => exact hkept
    | @approves cycle write leaks scope held phase =>
      apply hkept.stored
      have hcycle := hkept _ (.inl held)
      refine ⟨hcycle.staged, ?_, fun _ => rfl⟩
      intro _
      -- Either the call went through, or the approval had been given before.
      cases hrequested : cycle.activationRequested with
      | true => exact hcycle.approved hrequested
      | false =>
        apply happroved same scope _ held phase
        by_contra hfails
        exact hsound (leaks.mpr ⟨hrequested, hfails⟩)
  | opens same =>
    subst same
    intro cycle hcycle
    exact hkept cycle (.inr (hcycle.elim id id))

theorem known_run (events : List CoordinatorEvent) (h : NeverLeaks events) :
    Known events (Coordinator.run events) := by
  induction events using List.reverseRecOn with
  | nil =>
    intro cycle hcycle
    obtain hnone | hnone := hcycle
    · cases hnone
    · cases hnone
  | append_singleton before event ih =>
    apply known_step
    · exact ih fun earlier event' hearlier =>
        h earlier event' (hearlier.trans (List.prefix_append _ _))
    · exact h before event (List.prefix_refl _)

end Accounts

/-- The coordinator keeps its discipline exactly as long as no accepted call that would change the
cycle fails to write the state file. -/
theorem sound_run_iff_never_leaks (events : List CoordinatorEvent) :
    SoundRun events ↔ NeverLeaks events := by
  constructor
  · intro h before event hevent hleaks
    obtain ⟨hkind, hfails, hchanged⟩ := leaks_changes hleaks
    apply hchanged
    rw [← Coordinator.run_append]
    exact h.atomic before event hevent hkind hfails
  · intro h
    refine ⟨?_, ?_, ?_⟩
    · intro before event hevent hkind hfails
      rw [Coordinator.run_append]
      exact atomic_step hkind (h before event hevent) hfails
    · intro before event _ hopen
      rw [Coordinator.run_append]
      exact phase_step hopen
    · intro before event ids hevent hcalls
      rw [Coordinator.run_append] at hcalls
      obtain ⟨cycle, hcycle, hphase⟩ := tick_calls hcalls
      have hbefore : NeverLeaks before := fun earlier event' hearlier =>
        h earlier event' (hearlier.trans ((List.prefix_append _ _).trans hevent))
      have haccount := known_run before hbefore cycle (.inl hcycle)
      exact ⟨cycle, hcycle, haccount.approved (haccount.requested hphase)⟩

section Fixture

private def docked : DockReadiness := ⟨true, true, true, false⟩

private def powered : PowerReadiness := ⟨true, true⟩

private def sleeper : Principal where
  id := ['p']
  scopes := [.discover, .transferExperience, .submitJob, .stageCandidate, .activateCandidate]

/-- A backend on which everything goes well. -/
private def willing : ConsolidationBackend where
  checkpointEpoch := .ok [['e']]
  discoverAuthorizedForebrain := .ok ['f']
  transferBundles := fun _ _ => .ok ()
  submitJobs := fun _ _ => .ok [['j']]
  jobsComplete := fun _ _ => .ok true
  returnCandidates := fun _ _ => .ok [['c']]
  stageCandidates := fun _ => .ok ()
  activateCandidates := fun _ => .ok ()

/-- A cycle that is staged and waits for its approval. -/
private def awaiting : List CoordinatorEvent :=
  .start 0 ['x'] docked powered sleeper .ok :: List.replicate 7 (.tick 1 willing .ok)

private def unwritten : CoordinatorEvent :=
  .approveActivation sleeper (.failed false "No space left on device (os error 28)")

theorem approval_kept_after_error :
    unwritten.perform.succeeds (Coordinator.run awaiting) = false ∧
      (Coordinator.run (awaiting ++ [unwritten])).cycle ≠ (Coordinator.run awaiting).cycle ∧
      (Coordinator.run (awaiting ++ [unwritten, .tick 2 willing .ok, .tick 3 willing .ok])).calls =
        (Coordinator.run awaiting).calls ++ [.activateCandidates [['c']]] := by
  decide

theorem refused_approval_activates : ¬ ∀ events, SoundRun events := by
  intro h
  obtain ⟨hfails, hchanged, -⟩ := approval_kept_after_error
  exact hchanged ((h (awaiting ++ [unwritten])).atomic awaiting unwritten (List.prefix_refl _) rfl
    hfails)

end Fixture

end Netherwick.HigherBrain
