import Netherwick.Sleep.Steps

/-! # The lifecycle of a session

An uninterrupted session goes through its phases in their order and works only where nothing wakes
it. An interrupted one is closed two ticks later, as long as what has woken it does not go on: a
reason that is still there at either of these ticks interrupts the session again. -/

namespace Netherwick.Sleep

open Netherwick.Lib

theorem nodup_deterministicWorkPlan (sessionId : String) (input : SleepTickInput)
    (consumedInputs : List SleepInputConsumption) :
    ((deterministicWorkPlan sessionId input consumedInputs).map SleepWorkItem.id).Nodup := by
  simp [deterministicWorkPlan, plannedItem, String.append_right_inj]

/-- The results are of items of the plan, one each, and none is completed before its dependencies. -/
structure SleepSession.Accounted (session : SleepSession) : Prop where
  plan : ∃ input consumedInputs,
    session.workPlan = deterministicWorkPlan session.id input consumedInputs
  nodup : (session.completed.map fun result => result.workItemId).Nodup
  planned : ∀ result ∈ session.completed, ∃ item ∈ session.workPlan,
    result.workItemId = item.id ∧ result.kind = item.kind
  ordered : ∀ earlier result later, session.completed = earlier ++ result :: later →
    result.status = .completed → ∀ item ∈ session.workPlan, item.id = result.workItemId →
      dependenciesComplete earlier item = true

namespace SleepSession

theorem Accounted.item_eq {session : SleepSession} (h : session.Accounted)
    {item other : SleepWorkItem} (hitem : item ∈ session.workPlan)
    (hother : other ∈ session.workPlan) (hid : item.id = other.id) : item = other := by
  obtain ⟨input, consumedInputs, hplan⟩ := h.plan
  have hnodup := nodup_deterministicWorkPlan session.id input consumedInputs
  rw [← hplan] at hnodup
  exact List.inj_on_of_nodup_map hnodup hitem hother hid

theorem Accounted.executeItem {session : SleepSession} (h : session.Accounted)
    {item : SleepWorkItem} (hitem : item ∈ session.workPlan) (input : SleepTickInput) :
    (session.executeItem input item).Accounted := by
  obtain ⟨_, hkept⟩ | ⟨hnone, budget, result, _, hof, hrun⟩ := session.executeItem_cases input item
  · rwa [hkept]
  · rw [hrun]
    constructor
    · exact h.plan
    · simp only [List.map_append, List.map_cons, List.map_nil]
      apply List.Nodup.append h.nodup (List.nodup_singleton _)
      simp only [List.disjoint_singleton, List.mem_map, not_exists, not_and, hof.workItemId]
      exact hnone
    · intro other hother
      obtain hold | rfl := by simpa using hother
      · exact h.planned other hold
      · exact ⟨item, hitem, hof.workItemId, hof.kind⟩
    · intro earlier other later hsplit hstatus planned hplanned hid
      obtain rfl | ⟨rest, last, rfl⟩ := List.eq_nil_or_concat' later
      · obtain ⟨rfl, hlast⟩ := List.append_inj' hsplit rfl
        obtain rfl : result = other := by simpa using hlast
        have hsame : planned = item := h.item_eq hplanned hitem (hid.trans hof.workItemId)
        exact hsame ▸ hof.dependencies hstatus
      · have hshort : session.completed ++ [result] = (earlier ++ other :: rest) ++ [last] := by
          simpa using hsplit
        obtain ⟨hold, _⟩ := List.append_inj' hshort rfl
        exact h.ordered earlier other rest hold hstatus planned hplanned hid

theorem Accounted.executePhase {session : SleepSession} (h : session.Accounted)
    (input : SleepTickInput) (kinds : List SleepWorkKind) :
    (session.executePhase input kinds).Accounted :=
  executePhase_preserves h fun _ _ hitem _ hcurrent => hcurrent.executeItem hitem input

/-- What holds of a session from its opening to its end. -/
structure Sound (session : SleepSession) : Prop where
  awake : session.phase ≠ .awake
  leaving : session.interruptedBy.isSome = true →
    session.phase = .interrupted ∨ session.phase = .waking
  reason : session.phase = .interrupted → session.interruptedBy.isSome = true
  thermal : session.resourceBudget.maxThermalFraction =
    ({} : SleepResourceBudget).maxThermalFraction
  accounted : session.Accounted

theorem OpenedOn.sound {session : SleepSession} {pending : SleepTickInput}
    {consumedInputs : List SleepInputConsumption} (h : session.OpenedOn pending consumedInputs) :
    session.Sound where
  awake := by simp [h.phase]
  leaving := by simp [h.interruptedBy]
  reason := by simp [h.phase]
  thermal := by rw [h.resourceBudget]
  accounted :=
    { plan := ⟨pending, consumedInputs, h.workPlan⟩
      nodup := by simp [h.completed]
      planned := by simp [h.completed]
      ordered := by simp [h.completed] }

theorem Sound.interrupt {session : SleepSession} (h : session.Sound) (reason : WakeReason) :
    { session with interruptedBy := some reason, phase := .interrupted }.Sound where
  awake := by simp
  leaving := by simp
  reason := by simp
  thermal := h.thermal
  accounted := { plan := h.accounted.plan, nodup := h.accounted.nodup,
                 planned := h.accounted.planned, ordered := h.accounted.ordered }

theorem Sound.workOff {session : SleepSession} (h : session.Sound) (hwaking : session.phase ≠ .waking)
    (input : SleepTickInput) : (session.workOff input).Sound := by
  obtain ⟨budget, results, hthermal, hrun⟩ :=
    session.executePhase_eq input session.phase.workKinds
  have haccounted := h.accounted.executePhase input session.phase.workKinds
  have hawake := h.awake
  constructor
  · cases hphase : session.phase <;> simp_all [SleepSession.workOff, SleepPhase.next]
  · intro hreason
    have hleaving := h.leaving (by simpa [SleepSession.workOff, hrun] using hreason)
    right
    obtain hphase | hphase := hleaving
    · simp [SleepSession.workOff, SleepPhase.next, hphase]
    · exact absurd hphase hwaking
  · cases hphase : session.phase <;> simp [SleepSession.workOff, SleepPhase.next, hphase]
  · simp [SleepSession.workOff, hrun, hthermal, h.thermal]
  · exact { plan := haccounted.plan, nodup := haccounted.nodup,
            planned := haccounted.planned, ordered := haccounted.ordered }

end SleepSession

def ticked (inputs : List SleepTickInput) : SleepController :=
  after (fun controller input => (controller.tick input).1) {} inputs

theorem ticked_concat (inputs : List SleepTickInput) (input : SleepTickInput) :
    ticked (inputs ++ [input]) = ((ticked inputs).tick input).1 := by
  simp [ticked]

theorem tick_cases_ticked (inputs : List SleepTickInput) (input : SleepTickInput) :
    SleepController.TickCase (ticked inputs) input (ticked (inputs ++ [input])) := by
  rw [ticked_concat]
  exact (ticked inputs).tick_cases input

def SleepController.Sound (controller : SleepController) : Prop :=
  ∀ session, controller.session = some session → session.Sound

theorem SleepController.Sound.tick {controller : SleepController} (h : controller.Sound)
    (input : SleepTickInput) : (controller.tick input).1.Sound := by
  intro session hsession
  cases controller.tick_cases input with
  | idle _ hafter => simp [hafter] at hsession
  | opened opened _ hafter hopened =>
    obtain rfl := Option.some.inj (hafter.symm.trans hsession)
    exact hopened.sound
  | interrupted before reason hbefore _ hafter =>
    obtain rfl := Option.some.inj (hafter.symm.trans hsession)
    exact (h before hbefore).interrupt reason
  | worked before hbefore _ hwaking _ hafter =>
    obtain rfl := Option.some.inj (hafter.symm.trans hsession)
    exact (h before hbefore).workOff hwaking input
  | closed _ _ _ _ _ hafter => simp [hafter] at hsession
  | dropped _ _ _ hafter => simp [hafter] at hsession

theorem sound_ticked (inputs : List SleepTickInput) : (ticked inputs).Sound :=
  after_invariant (by simp [SleepController.Sound]) (fun _ input h => h.tick input) inputs

/-- An input that wakes a session, whichever session it is. -/
def carriesWakeReason (input : SleepTickInput) : Bool :=
  (wakeReason input ({} : SleepResourceBudget).maxThermalFraction).isSome

namespace SleepController

variable {controller : SleepController} {session : SleepSession} {input : SleepTickInput}

theorem Sound.carriesWakeReason_eq (h : controller.Sound)
    (hsession : controller.session = some session) :
    carriesWakeReason input =
      (wakeReason input session.resourceBudget.maxThermalFraction).isSome := by
  rw [carriesWakeReason, (h session hsession).thermal]

theorem Sound.tick_of_carries (h : controller.Sound) (hsession : controller.session = some session)
    (hcarries : carriesWakeReason input = true) :
    ∃ reason, (controller.tick input).1.session =
      some { session with interruptedBy := some reason, phase := .interrupted } := by
  rw [h.carriesWakeReason_eq hsession] at hcarries
  cases controller.tick_cases input with
  | idle hbefore => simp [hsession] at hbefore
  | opened _ hbefore => simp [hsession] at hbefore
  | interrupted before reason hbefore _ hafter =>
    obtain rfl := Option.some.inj (hsession.symm.trans hbefore)
    exact ⟨reason, hafter⟩
  | worked before hbefore hreason =>
    obtain rfl := Option.some.inj (hsession.symm.trans hbefore)
    simp [hreason] at hcarries
  | closed before _ hbefore hreason =>
    obtain rfl := Option.some.inj (hsession.symm.trans hbefore)
    simp [hreason] at hcarries
  | dropped before hbefore hawake =>
    obtain rfl := Option.some.inj (hsession.symm.trans hbefore)
    exact absurd hawake (h session hsession).awake

theorem Sound.tick_of_quiet (h : controller.Sound) (hsession : controller.session = some session)
    (hcarries : carriesWakeReason input = false) :
    session.phase = .waking ∧ (controller.tick input).1.session = none ∨
      session.phase ≠ .waking ∧
        (controller.tick input).1.session = some (session.workOff input) := by
  rw [h.carriesWakeReason_eq hsession] at hcarries
  cases controller.tick_cases input with
  | idle hbefore => simp [hsession] at hbefore
  | opened _ hbefore => simp [hsession] at hbefore
  | interrupted before reason hbefore hreason =>
    obtain rfl := Option.some.inj (hsession.symm.trans hbefore)
    simp [hreason] at hcarries
  | worked before hbefore _ hwaking _ hafter =>
    obtain rfl := Option.some.inj (hsession.symm.trans hbefore)
    exact .inr ⟨hwaking, hafter⟩
  | closed before _ hbefore _ hwaking hafter =>
    obtain rfl := Option.some.inj (hsession.symm.trans hbefore)
    exact .inl ⟨hwaking, hafter⟩
  | dropped before hbefore hawake =>
    obtain rfl := Option.some.inj (hsession.symm.trans hbefore)
    exact absurd hawake (h session hsession).awake

theorem phase_of_session (h : controller.session = some session) :
    controller.phase = session.phase := by
  simp [phase, h]

theorem phase_of_none (h : controller.session = none) : controller.phase = .awake := by
  simp [phase, h]

theorem session_of_interrupted (h : controller.phase = .interrupted) :
    ∃ session, controller.session = some session ∧ session.phase = .interrupted := by
  cases hsession : controller.session with
  | none => simp [phase, hsession] at h
  | some session => exact ⟨session, rfl, by simpa [phase, hsession] using h⟩

end SleepController

def SleepController.executed (controller : SleepController) : List SleepWorkResult :=
  (controller.session.map fun session => session.completed).getD []

def declaredPhases : List SleepPhase :=
  [.preparing, .quiescent, .consolidating, .training, .evaluating, .finalizing, .waking]

structure Lifecycle (inputs : List SleepTickInput) : Prop where
  wakes : ∀ past next, past ++ [next] <+: inputs → (ticked past).phase = .interrupted →
    (ticked (past ++ [next])).phase = .waking
  closes : ∀ past next last, past ++ [next, last] <+: inputs → (ticked past).phase = .interrupted →
    (ticked (past ++ [next, last])).phase = .awake ∧
      (ticked (past ++ [next, last])).session = none
  /-- As long as a session that a tick has opened is there and has not been interrupted. -/
  phases : ∀ past first more, past ++ first :: more <+: inputs → (ticked past).session = none →
    (∀ part, part <+: more → ∃ session, (ticked (past ++ first :: part)).session = some session ∧
      session.interruptedBy = none) →
    (more.inits.map fun part => (ticked (past ++ first :: part)).phase) =
      declaredPhases.take (more.length + 1)
  rests : ∀ past next, past ++ [next] <+: inputs → carriesWakeReason next = true →
    (ticked (past ++ [next])).executed = (ticked past).executed
  single : ∀ past session, past <+: inputs → (ticked past).session = some session →
    ∀ item ∈ session.workPlan,
      session.completed.countP (fun result => result.workItemId == item.id) ≤ 1
  dependent : ∀ past session, past <+: inputs → (ticked past).session = some session →
    ∀ earlier result later, session.completed = earlier ++ result :: later →
      result.status = .completed → ∀ item ∈ session.workPlan, item.id = result.workItemId →
        ∀ dependency ∈ item.dependencies, ∃ other ∈ earlier,
          other.workItemId = dependency ∧ other.status = .completed

/-- Nothing wakes a session that is interrupted already. -/
def LeftAlone (controller : SleepController) (input : SleepTickInput) : Prop :=
  ∀ session, controller.session = some session → session.interruptedBy.isSome = true →
    carriesWakeReason input = false

def InterruptionsEnd (inputs : List SleepTickInput) : Prop :=
  EachStep (fun controller input => (controller.tick input).1) {} LeftAlone inputs

@[simp] theorem SleepSession.workOff_interruptedBy (session : SleepSession)
    (input : SleepTickInput) : (session.workOff input).interruptedBy = session.interruptedBy := by
  obtain ⟨_, _, _, hrun⟩ := session.executePhase_eq input session.phase.workKinds
  simp [SleepSession.workOff, hrun]

@[simp] theorem SleepSession.workOff_phase (session : SleepSession) (input : SleepTickInput) :
    (session.workOff input).phase = session.phase.next := rfl

section Leaving

variable {inputs past : List SleepTickInput} {next last : SleepTickInput} {session : SleepSession}

theorem waking_of_leftAlone (hsession : (ticked past).session = some session)
    (hphase : session.phase = .interrupted) (halone : LeftAlone (ticked past) next) :
    ∃ woken, (ticked (past ++ [next])).session = some woken ∧ woken.phase = .waking ∧
      woken.interruptedBy.isSome = true := by
  have hsound := sound_ticked past
  have hreason := (hsound session hsession).reason hphase
  have hquiet := halone session hsession hreason
  obtain ⟨hwaking, _⟩ | ⟨_, hafter⟩ := hsound.tick_of_quiet hsession hquiet
  · simp [hphase] at hwaking
  · rw [ticked_concat, hafter]
    exact ⟨_, rfl, by simp [hphase, SleepPhase.next], by simpa using hreason⟩

theorem closed_of_leftAlone (hsession : (ticked past).session = some session)
    (hphase : session.phase = .waking) (hreason : session.interruptedBy.isSome = true)
    (halone : LeftAlone (ticked past) next) : (ticked (past ++ [next])).session = none := by
  have hquiet := halone session hsession hreason
  obtain ⟨_, hafter⟩ | ⟨hwaking, _⟩ := (sound_ticked past).tick_of_quiet hsession hquiet
  · rw [ticked_concat, hafter]
  · exact absurd hphase hwaking

theorem interrupted_before (hsession : (ticked past).session = some session)
    (hphase : session.phase = .waking) (hreason : session.interruptedBy.isSome = true) :
    ∃ earlier previous, past = earlier ++ [previous] ∧ (ticked earlier).phase = .interrupted := by
  obtain rfl | ⟨earlier, previous, rfl⟩ := List.eq_nil_or_concat' past
  · simp [ticked] at hsession
  · refine ⟨earlier, previous, rfl, ?_⟩
    cases tick_cases_ticked earlier previous with
    | idle _ hafter => simp [hafter] at hsession
    | opened opened _ hafter hopened =>
      obtain rfl := Option.some.inj (hafter.symm.trans hsession)
      simp [hopened.interruptedBy] at hreason
    | interrupted before reason _ _ hafter =>
      obtain rfl := Option.some.inj (hafter.symm.trans hsession)
      simp at hphase
    | worked before hbefore _ hwaking _ hafter =>
      obtain rfl := Option.some.inj (hafter.symm.trans hsession)
      rw [SleepController.phase_of_session hbefore]
      have hleaving := (sound_ticked earlier before hbefore).leaving (by simpa using hreason)
      exact hleaving.resolve_right hwaking
    | closed _ _ _ _ _ hafter => simp [hafter] at hsession
    | dropped _ _ _ hafter => simp [hafter] at hsession

end Leaving

/-- Where a session is that many ticks after the one that has opened it. -/
def phaseAt (ticks : Nat) : SleepPhase := SleepPhase.next^[ticks] .preparing

theorem phaseAt_succ (ticks : Nat) : phaseAt (ticks + 1) = (phaseAt ticks).next :=
  Function.iterate_succ_apply' _ _ _

theorem phaseAt_of_long (ticks : Nat) : phaseAt (7 + ticks) = .awake := by
  induction ticks with
  | zero => rfl
  | succ ticks ih => rw [← Nat.add_assoc, phaseAt_succ, ih, SleepPhase.next]

theorem phase_of_uninterrupted {past more : List SleepTickInput} {first : SleepTickInput}
    (hnone : (ticked past).session = none)
    (hthere : ∀ part, part <+: more → ∃ session,
      (ticked (past ++ first :: part)).session = some session ∧ session.interruptedBy = none) :
    (ticked (past ++ first :: more)).phase = phaseAt more.length := by
  induction more using List.reverseRecOn with
  | nil =>
    obtain ⟨session, hsession, _⟩ := hthere [] List.nil_prefix
    rw [SleepController.phase_of_session hsession]
    cases tick_cases_ticked past first with
    | opened opened _ hafter hopened =>
      obtain rfl := Option.some.inj (hafter.symm.trans hsession)
      exact hopened.phase
    | idle _ hafter => simp [hafter] at hsession
    | interrupted before _ hbefore => simp [hnone] at hbefore
    | worked before hbefore => simp [hnone] at hbefore
    | closed before _ hbefore => simp [hnone] at hbefore
    | dropped before hbefore => simp [hnone] at hbefore
  | append_singleton more input ih =>
    have hearlier := ih fun part hpart => hthere part (hpart.trans (List.prefix_append _ _))
    obtain ⟨before, hbefore, _⟩ := hthere more (List.prefix_append _ _)
    obtain ⟨session, hsession, hreason⟩ := hthere (more ++ [input]) (List.prefix_refl _)
    rw [SleepController.phase_of_session hbefore] at hearlier
    rw [SleepController.phase_of_session hsession, List.length_append, List.length_singleton,
      phaseAt_succ, ← hearlier]
    have hcases := tick_cases_ticked (past ++ first :: more) input
    rw [List.append_assoc, List.cons_append] at hcases
    cases hcases with
    | idle hnone' => simp [hbefore] at hnone'
    | opened _ hnone' => simp [hbefore] at hnone'
    | interrupted _ reason _ _ hafter =>
      obtain rfl := Option.some.inj (hafter.symm.trans hsession)
      simp at hreason
    | worked same hsame _ _ _ hafter =>
      obtain rfl := Option.some.inj (hafter.symm.trans hsession)
      obtain rfl := Option.some.inj (hbefore.symm.trans hsame)
      rfl
    | closed _ _ _ _ _ hafter => simp [hafter] at hsession
    | dropped _ _ _ hafter => simp [hafter] at hsession

theorem declaredPhases_getElem :
    ∀ ticks : Fin declaredPhases.length, declaredPhases[ticks] = phaseAt ticks := by decide

theorem executed_of_carries {past : List SleepTickInput} {next : SleepTickInput}
    (hcarries : carriesWakeReason next = true) :
    (ticked (past ++ [next])).executed = (ticked past).executed := by
  cases hsession : (ticked past).session with
  | some session =>
    obtain ⟨reason, hafter⟩ := (sound_ticked past).tick_of_carries hsession hcarries
    simp [ticked_concat, SleepController.executed, hafter, hsession]
  | none =>
    cases tick_cases_ticked past next with
    | idle _ hafter => simp [SleepController.executed, hafter, hsession]
    | opened opened _ hafter hopened =>
      simp [SleepController.executed, hafter, hsession, hopened.completed]
    | interrupted before _ hbefore => simp [hsession] at hbefore
    | worked before hbefore => simp [hsession] at hbefore
    | closed before _ hbefore => simp [hsession] at hbefore
    | dropped before hbefore => simp [hsession] at hbefore

theorem SleepSession.Accounted.single {session : SleepSession} (h : session.Accounted)
    (item : SleepWorkItem) :
    session.completed.countP (fun result => result.workItemId == item.id) ≤ 1 := by
  have hcount := List.nodup_iff_count_le_one.mp h.nodup item.id
  simpa [List.count, List.countP_map, Function.comp_def] using hcount

theorem visited_phases {past more : List SleepTickInput} {first : SleepTickInput}
    (hnone : (ticked past).session = none)
    (hthere : ∀ part, part <+: more → ∃ session,
      (ticked (past ++ first :: part)).session = some session ∧ session.interruptedBy = none) :
    (more.inits.map fun part => (ticked (past ++ first :: part)).phase) =
      declaredPhases.take (more.length + 1) := by
  have hat : ∀ part, part <+: more →
      (ticked (past ++ first :: part)).phase = phaseAt part.length := fun part hpart =>
    phase_of_uninterrupted hnone fun shorter hshorter => hthere shorter (hshorter.trans hpart)
  -- a session is never awake, so that it has not outlived its last phase
  have hlength : more.length < declaredPhases.length := by
    by_contra hlong
    obtain ⟨session, hsession, _⟩ := hthere more (List.prefix_refl _)
    have hphase := hat more (List.prefix_refl _)
    obtain ⟨extra, hextra⟩ := Nat.exists_eq_add_of_le (Nat.le_of_not_lt hlong)
    rw [hextra, SleepController.phase_of_session hsession] at hphase
    exact (sound_ticked _ session hsession).awake (hphase.trans (phaseAt_of_long extra))
  apply List.ext_getElem
  · rw [List.length_map, List.length_inits, List.length_take]
    omega
  · intro place hplace hdeclared
    have hshort : place ≤ more.length := by
      rw [List.length_map, List.length_inits] at hplace
      omega
    rw [List.getElem_map, List.getElem_inits, List.getElem_take, hat _ (List.take_prefix _ _),
      List.length_take, Nat.min_eq_left hshort]
    exact (declaredPhases_getElem ⟨place, by omega⟩).symm

theorem lifecycle_of_interruptionsEnd {inputs : List SleepTickInput}
    (h : InterruptionsEnd inputs) : Lifecycle inputs where
  wakes := by
    intro past next hpast hphase
    obtain ⟨session, hsession, hinterrupted⟩ := SleepController.session_of_interrupted hphase
    obtain ⟨woken, hwoken, hwaking, _⟩ :=
      waking_of_leftAlone hsession hinterrupted (h past next hpast)
    rw [SleepController.phase_of_session hwoken, hwaking]
  closes := by
    intro past next last hpast hphase
    have hsplit : past ++ [next, last] = (past ++ [next]) ++ [last] := by simp
    rw [hsplit] at hpast ⊢
    obtain ⟨session, hsession, hinterrupted⟩ := SleepController.session_of_interrupted hphase
    obtain ⟨woken, hwoken, hwaking, hreason⟩ := waking_of_leftAlone hsession hinterrupted
      (h past next ((List.prefix_append _ _).trans hpast))
    have hclosed := closed_of_leftAlone hwoken hwaking hreason (h (past ++ [next]) last hpast)
    exact ⟨SleepController.phase_of_none hclosed, hclosed⟩
  phases := fun _ _ _ _ hnone hthere => visited_phases hnone hthere
  rests := fun _ _ _ hcarries => executed_of_carries hcarries
  single := fun past session _ hsession item _ =>
    (sound_ticked past session hsession).accounted.single item
  dependent := by
    intro past session _ hsession earlier result later hsplit hstatus item hitem hid
    have hordered := (sound_ticked past session hsession).accounted.ordered earlier result later
      hsplit hstatus item hitem hid
    simpa [dependenciesComplete] using hordered

theorem interruptionsEnd_of_lifecycle {inputs : List SleepTickInput} (h : Lifecycle inputs) :
    InterruptionsEnd inputs := by
  intro past next hpast session hsession hreason
  by_contra hcarries
  obtain ⟨reason, hafter⟩ := (sound_ticked past).tick_of_carries hsession
    (Bool.eq_true_of_not_eq_false hcarries)
  obtain hphase | hphase := (sound_ticked past session hsession).leaving hreason
  · have hwaking := h.wakes past next hpast
      ((SleepController.phase_of_session hsession).trans hphase)
    rw [ticked_concat, SleepController.phase_of_session hafter] at hwaking
    cases hwaking
  · obtain ⟨earlier, previous, rfl, hinterrupted⟩ := interrupted_before hsession hphase hreason
    rw [List.append_assoc, List.singleton_append] at hpast
    have hclosed := (h.closes earlier previous next hpast hinterrupted).2
    have hsplit : earlier ++ [previous, next] = (earlier ++ [previous]) ++ [next] := by simp
    rw [hsplit, ticked_concat, hafter] at hclosed
    cases hclosed

/-- The lifecycle is kept by exactly the runs that leave interrupted sessions alone. -/
theorem lifecycle_iff (inputs : List SleepTickInput) :
    Lifecycle inputs ↔ InterruptionsEnd inputs :=
  ⟨interruptionsEnd_of_lifecycle, lifecycle_of_interruptionsEnd⟩

def tiredOnDock (nowMs : Nat) : SleepTickInput :=
  { nowMs
    fatigueActivation := 0.9
    charging := true
    docked := true
    stopped := true
    bodyCommunicationStable := true
    activeSkillInterruptible := true }

def takenOffDock (nowMs : Nat) : SleepTickInput :=
  { tiredOnDock nowMs with charging := false, docked := false, externalPowerLost := true }

/-- A session that is interrupted because the power is gone is not left while the power is gone. -/
theorem missing_power_keeps_interrupted :
    ¬ Lifecycle [tiredOnDock 100, takenOffDock 200, takenOffDock 300] := by
  intro h
  have hwakes := h.wakes [tiredOnDock 100, takenOffDock 200] (takenOffDock 300)
    (List.prefix_refl _) (by decide +kernel)
  revert hwakes
  decide +kernel

end Netherwick.Sleep
