import Netherwick.Sleep.Lifecycle

/-! # What sleep consumes

The plan of a session fixes the references each item is planned on, and a completed item consumes
them. The consolidation and the replay, though, are done on what the input holds when they run, so
that a reference can be consumed that no artifact refers to. -/

namespace Netherwick.Sleep

open Netherwick.Lib

theorem mem_sleepInputRequirements {input : SleepTickInput} {consumption : SleepInputConsumption} :
    consumption ∈ sleepInputRequirements input ↔
      inputRefIsUsedBy input consumption.inputRef consumption.workKind = true := by
  cases consumption with
  | mk inputRef workKind =>
    cases workKind <;> simp [sleepInputRequirements, inputRefIsUsedBy]
    all_goals tauto

theorem inputRefIsUsedBy_of_pending {controller : SleepController} {input : SleepTickInput}
    {inputRef : String} {kind : SleepWorkKind}
    (h : inputRefIsUsedBy (controller.pendingInput input) inputRef kind = true) :
    inputRefIsUsedBy input inputRef kind = true := by
  cases kind <;> simp [inputRefIsUsedBy, SleepController.pendingInput] at h ⊢
  all_goals tauto

theorem inputRefIsUsedBy_pending {controller : SleepController} {input : SleepTickInput}
    {inputRef : String} {kind : SleepWorkKind}
    (h : inputRefIsUsedBy input inputRef kind = true)
    (hconsumed : { inputRef, workKind := kind } ∉ controller.consumedInputs) :
    inputRefIsUsedBy (controller.pendingInput input) inputRef kind = true := by
  cases kind <;> simp [inputRefIsUsedBy, SleepController.pendingInput,
    SleepController.hasPendingWork, SleepController.isConsumed] at h ⊢
  all_goals tauto

theorem mem_plan_refs {sessionId : String} {input : SleepTickInput}
    {consumedInputs : List SleepInputConsumption} {item : SleepWorkItem} {inputRef : String}
    (hitem : item ∈ deterministicWorkPlan sessionId input consumedInputs) :
    inputRef ∈ item.inputArtifactRefs ↔ inputRefIsUsedBy input inputRef item.kind = true ∧
      { inputRef, workKind := item.kind } ∉ consumedInputs := by
  have hused : ∀ kind, inputRefIsUsedBy input inputRef kind = true →
      inputRef ∈ sleepInputRefs input := by
    intro kind h
    cases kind <;> simp [inputRefIsUsedBy] at h ⊢
    all_goals tauto
  have hrefs : item.inputArtifactRefs = (sleepInputRefs input).filter fun inputRef =>
      inputRefIsUsedBy input inputRef item.kind && !consumedInputs.contains ⟨inputRef, item.kind⟩ := by
    simp only [deterministicWorkPlan, List.mem_cons, List.not_mem_nil, or_false] at hitem
    rcases hitem with rfl | rfl | rfl | rfl | rfl <;> rfl
  rw [hrefs]
  simp only [List.mem_filter, Bool.and_eq_true, Bool.not_eq_true', List.contains_eq_mem,
    decide_eq_false_iff_not]
  constructor
  · exact fun h => h.2
  · exact fun h => ⟨hused _ h.1, h⟩

theorem exists_planned (sessionId : String) (consumedInputs : List SleepInputConsumption)
    {input : SleepTickInput} {inputRef : String} {kind : SleepWorkKind}
    (h : inputRefIsUsedBy input inputRef kind = true) :
    ∃ item ∈ deterministicWorkPlan sessionId input consumedInputs, item.kind = kind := by
  cases kind <;> simp [inputRefIsUsedBy, deterministicWorkPlan, plannedItem] at h ⊢

theorem plan_kinds_nodup (sessionId : String) (input : SleepTickInput)
    (consumedInputs : List SleepInputConsumption) :
    ((deterministicWorkPlan sessionId input consumedInputs).map SleepWorkItem.kind).Nodup := by
  simp [deterministicWorkPlan, plannedItem]

namespace SleepSession

variable {session : SleepSession} {consumption : SleepInputConsumption}

theorem Accounted.item_eq_of_kind (h : session.Accounted) {item other : SleepWorkItem}
    (hitem : item ∈ session.workPlan) (hother : other ∈ session.workPlan)
    (hkind : item.kind = other.kind) : item = other := by
  obtain ⟨input, consumedInputs, hplan⟩ := h.plan
  have hnodup := plan_kinds_nodup session.id input consumedInputs
  rw [← hplan] at hnodup
  exact List.inj_on_of_nodup_map hnodup hitem hother hkind

theorem Accounted.mem_consumedByCompleted (h : session.Accounted)
    (hmem : consumption ∈ session.consumedByCompleted) :
    ∃ item ∈ session.workPlan, ∃ result ∈ session.completed, result.workItemId = item.id ∧
      result.status = .completed ∧ result.kind = item.kind ∧
      item.kind = consumption.workKind ∧ consumption.inputRef ∈ item.inputArtifactRefs := by
  simp only [consumedByCompleted, List.mem_flatMap, List.mem_filter, decide_eq_true_eq,
    Option.mem_toList, List.mem_map] at hmem
  obtain ⟨result, ⟨hresult, hstatus⟩, item, hfound, inputRef, href, rfl⟩ := hmem
  have hitem := List.mem_of_find?_eq_some hfound
  have hid : item.id = result.workItemId := by simpa using List.find?_some hfound
  obtain ⟨planned, hplanned, hname, hkind⟩ := h.planned result hresult
  obtain rfl : planned = item := h.item_eq hplanned hitem (hname.symm.trans hid.symm)
  exact ⟨planned, hitem, result, hresult, hname, hstatus, hkind, hkind.symm, href⟩

@[simp] theorem workOff_workPlan (session : SleepSession) (input : SleepTickInput) :
    (session.workOff input).workPlan = session.workPlan := by
  obtain ⟨_, _, _, hrun⟩ := session.executePhase_eq input session.phase.workKinds
  simp [workOff, hrun]

end SleepSession

/-- The pairs of reference and kind that the inputs of a run can have worked on. -/
def claimable (inputs : List SleepTickInput) : List SleepInputConsumption :=
  inputs.flatMap sleepInputRequirements

structure SleepController.Kept (known : List SleepInputConsumption)
    (controller : SleepController) : Prop where
  sound : controller.Sound
  log : DistinctWithin known controller.consumedInputs
  planned : ∀ session, controller.session = some session → ∀ item ∈ session.workPlan,
    ∀ inputRef ∈ item.inputArtifactRefs, { inputRef, workKind := item.kind } ∈ known ∧
      { inputRef, workKind := item.kind } ∉ controller.consumedInputs

namespace SleepController

variable {controller : SleepController} {input : SleepTickInput}
  {known : List SleepInputConsumption}

theorem Kept.consumed_known (h : controller.Kept known) {session : SleepSession}
    (hsession : controller.session = some session) : session.consumedByCompleted ⊆ known := by
  intro consumption hmem
  have haccounted := (h.sound session hsession).accounted
  obtain ⟨item, hitem, _, _, _, _, _, hkind, href⟩ := haccounted.mem_consumedByCompleted hmem
  have hplanned := (h.planned session hsession item hitem _ href).1
  rwa [hkind] at hplanned

theorem Kept.tick (hfew : known.dedup.length < maxConsumedSleepInputRefs)
    (h : controller.Kept known) (hinput : sleepInputRequirements input ⊆ known) :
    (controller.tick input).1.Kept known where
  sound := h.sound.tick input
  log := by
    cases controller.tick_cases input with
    | idle _ _ hconsumed => exact hconsumed ▸ h.log
    | opened _ _ _ _ hconsumed => exact hconsumed ▸ h.log
    | interrupted _ _ _ _ _ hconsumed => exact hconsumed ▸ h.log
    | worked _ _ _ _ _ _ hconsumed => exact hconsumed ▸ h.log
    | closed session _ hbefore _ _ _ hconsumed =>
      exact hconsumed ▸ h.log.recordAll hfew (h.consumed_known hbefore)
    | dropped _ _ _ _ hconsumed => exact hconsumed ▸ h.log
  planned := by
    intro session hsession item hitem inputRef href
    cases controller.tick_cases input with
    | idle _ hafter => exact absurd (hafter.symm.trans hsession) (by simp)
    | opened opened _ hafter hopened hconsumed =>
      obtain rfl := Option.some.inj (hafter.symm.trans hsession)
      rw [hopened.workPlan] at hitem
      obtain ⟨hused, hnew⟩ := (mem_plan_refs hitem).mp href
      refine ⟨hinput ?_, by rwa [hconsumed]⟩
      exact mem_sleepInputRequirements.mpr (inputRefIsUsedBy_of_pending hused)
    | interrupted before _ hbefore _ hafter hconsumed =>
      obtain rfl := Option.some.inj (hafter.symm.trans hsession)
      rw [hconsumed]
      exact h.planned before hbefore item hitem inputRef href
    | worked before hbefore _ _ _ hafter hconsumed =>
      obtain rfl := Option.some.inj (hafter.symm.trans hsession)
      rw [hconsumed]
      exact h.planned before hbefore item (by simpa using hitem) inputRef href
    | closed _ _ _ _ _ hafter => exact absurd (hafter.symm.trans hsession) (by simp)
    | dropped _ _ _ hafter => exact absurd (hafter.symm.trans hsession) (by simp)

theorem Kept.consumed_subset (hfew : known.dedup.length < maxConsumedSleepInputRefs)
    (h : controller.Kept known) :
    controller.consumedInputs ⊆ (controller.tick input).1.consumedInputs := by
  cases controller.tick_cases input with
  | idle _ _ hconsumed => exact hconsumed ▸ List.Subset.refl _
  | opened _ _ _ _ hconsumed => exact hconsumed ▸ List.Subset.refl _
  | interrupted _ _ _ _ _ hconsumed => exact hconsumed ▸ List.Subset.refl _
  | worked _ _ _ _ _ _ hconsumed => exact hconsumed ▸ List.Subset.refl _
  | closed session _ hbefore _ _ _ hconsumed =>
    intro consumption hmem
    rw [hconsumed, mem_recordAll hfew h.log (h.consumed_known hbefore)]
    exact .inl hmem
  | dropped _ _ _ _ hconsumed => exact hconsumed ▸ List.Subset.refl _

end SleepController

section Runs

variable {inputs past more : List SleepTickInput}

theorem kept_ticked (hfew : (claimable inputs).dedup.length < maxConsumedSleepInputRefs)
    (hpast : past <+: inputs) : (ticked past).Kept (claimable inputs) := by
  have hknown : EachStep (fun controller input => (controller.tick input).1)
      ({} : SleepController)
      (fun _ input => sleepInputRequirements input ⊆ claimable inputs) past := by
    intro earlier input hearlier consumption hmem
    have hinput : input ∈ inputs := (hearlier.trans hpast).mem (by simp)
    exact List.mem_flatMap.mpr ⟨input, hinput, hmem⟩
  apply hknown.invariant
  · exact ⟨by simp [SleepController.Sound], distinctWithin_nil, by simp⟩
  · exact fun _ _ hcontroller hinput => hcontroller.tick hfew hinput

theorem consumed_subset_ticked
    (hfew : (claimable inputs).dedup.length < maxConsumedSleepInputRefs)
    (hpast : past ++ more <+: inputs) :
    (ticked past).consumedInputs ⊆ (ticked (past ++ more)).consumedInputs := by
  induction more using List.reverseRecOn with
  | nil => simp
  | append_singleton more input ih =>
    rw [← List.append_assoc] at hpast ⊢
    have hshort := (List.prefix_append _ _).trans hpast
    rw [ticked_concat]
    exact List.Subset.trans (ih hshort) ((kept_ticked hfew hshort).consumed_subset hfew)

end Runs

def SleepController.Recorded (before after : SleepController)
    (consumption : SleepInputConsumption) : Prop :=
  consumption ∈ after.consumedInputs ∧ consumption ∉ before.consumedInputs ∨
    ∃ report, after.lastReport = some report ∧ consumption ∈ report.consumedInputs

structure ConsumesProcessed (inputs : List SleepTickInput) : Prop where
  processed : ∀ past next session, past ++ [next] <+: inputs →
    (ticked past).session = some session → (ticked (past ++ [next])).session = none →
    ∀ consumption, (ticked past).Recorded (ticked (past ++ [next])) consumption →
      ∃ item ∈ session.workPlan, ∃ result ∈ session.completed, result.workItemId = item.id ∧
        result.status = .completed ∧ result.kind = consumption.workKind ∧
        item.kind = consumption.workKind ∧ consumption.inputRef ∈ item.inputArtifactRefs ∧
        consumption.inputRef ∈ result.artifactInputRefs
  fresh : ∀ past more next session, past ++ more ++ [next] <+: inputs →
    ∀ consumption ∈ (ticked past).consumedInputs, (ticked (past ++ more)).session = none →
      (ticked (past ++ more ++ [next])).session = some session →
        ∀ item ∈ session.workPlan, item.kind = consumption.workKind →
          consumption.inputRef ∉ item.inputArtifactRefs
  /-- The next session is planned on what an uncompleted item had claimed, if its input has it. -/
  available : ∀ past next session, past ++ [next] <+: inputs →
    (ticked past).session = some session → (ticked (past ++ [next])).session = none →
    ∀ item ∈ session.workPlan,
      (∀ result ∈ session.completed, result.workItemId = item.id → result.status ≠ .completed) →
      ∀ inputRef ∈ item.inputArtifactRefs, ∀ idle start opened,
        past ++ [next] ++ idle ++ [start] <+: inputs →
        (∀ part, part <+: idle → (ticked (past ++ [next] ++ part)).session = none) →
        (ticked (past ++ [next] ++ idle ++ [start])).session = some opened →
        inputRefIsUsedBy start inputRef item.kind = true →
          ∃ planned ∈ opened.workPlan, planned.kind = item.kind ∧
            inputRef ∈ planned.inputArtifactRefs

/-- An input still holds what the consolidation or the replay was planned on. -/
def SleepTickInput.Holds (input : SleepTickInput) (item : SleepWorkItem) : Prop :=
  (item.kind = .consolidateEpisodes → ∀ inputRef ∈ item.inputArtifactRefs,
    inputRef ∈ input.completedEpisodeRefs ∨ inputRef ∈ input.semanticRelationRefs) ∧
  (item.kind = .replayRecentFailures → ∀ inputRef ∈ item.inputArtifactRefs,
    inputRef ∈ input.completedEpisodeRefs)

instance (input : SleepTickInput) (item : SleepWorkItem) : Decidable (input.Holds item) :=
  instDecidableAnd

def HoldsPlanned (controller : SleepController) (input : SleepTickInput) : Prop :=
  ∀ session ∈ controller.session, session.phase = .consolidating →
    carriesWakeReason input = false → ∀ item ∈ session.workPlan, input.Holds item

instance (controller : SleepController) (input : SleepTickInput) :
    Decidable (HoldsPlanned controller input) :=
  Option.decidableForallMem controller.session

/-- Every consolidation and replay of the run finds what it was planned on. -/
def PlannedHeld (inputs : List SleepTickInput) : Prop :=
  EachStep (fun controller input => (controller.tick input).1) {} HoldsPlanned inputs

instance (inputs : List SleepTickInput) : Decidable (PlannedHeld inputs) :=
  inferInstanceAs (Decidable (EachStep (fun controller input => (controller.tick input).1)
    ({} : SleepController) HoldsPlanned inputs))

def SleepSession.Referred (session : SleepSession) : Prop :=
  ∀ result ∈ session.completed, result.status = .completed → ∀ item ∈ session.workPlan,
    item.id = result.workItemId → ∀ inputRef ∈ item.inputArtifactRefs,
      inputRef ∈ result.artifactInputRefs

theorem SleepSession.Referred.executeItem {session : SleepSession} (h : session.Referred)
    (haccounted : session.Accounted) {item : SleepWorkItem} (hitem : item ∈ session.workPlan)
    {input : SleepTickInput} (hworked : item.inputArtifactRefs ⊆ workedRefs input item) :
    (session.executeItem input item).Referred := by
  obtain ⟨_, hkept⟩ | ⟨_, budget, result, _, hof, hrun⟩ := session.executeItem_cases input item
  · rwa [hkept]
  · rw [hrun]
    intro other hother hstatus planned hplanned hid inputRef href
    obtain hold | hnew := List.mem_append.mp hother
    · exact h other hold hstatus planned hplanned hid inputRef href
    · obtain rfl := List.mem_singleton.mp hnew
      obtain rfl : planned = item :=
        haccounted.item_eq hplanned hitem (hid.trans hof.workItemId)
      exact hof.artifact hstatus inputRef (hworked href)

theorem SleepSession.Referred.executePhase {session : SleepSession} (h : session.Referred)
    (haccounted : session.Accounted) {input : SleepTickInput} {kinds : List SleepWorkKind}
    (hworked : ∀ item ∈ session.workPlan, item.kind ∈ kinds →
      item.inputArtifactRefs ⊆ workedRefs input item) :
    (session.executePhase input kinds).Referred := by
  have hall : (session.executePhase input kinds).workPlan = session.workPlan ∧
      (session.executePhase input kinds).Accounted ∧
        (session.executePhase input kinds).Referred := by
    apply SleepSession.executePhase_preserves (P := fun current =>
      current.workPlan = session.workPlan ∧ current.Accounted ∧ current.Referred)
    · exact ⟨rfl, haccounted, h⟩
    · rintro current item hitem hkind ⟨hplan, hcurrent, hreferred⟩
      have hsame := hworked item (hplan ▸ hitem) hkind
      exact ⟨by simpa using hplan, hcurrent.executeItem hitem input,
        hreferred.executeItem hcurrent hitem hsame⟩
  exact hall.2.2

theorem SleepSession.Accounted.refs_used {session : SleepSession} (h : session.Accounted)
    {item : SleepWorkItem} (hitem : item ∈ session.workPlan) {inputRef : String}
    (href : inputRef ∈ item.inputArtifactRefs) : item.kind = .consolidateEpisodes ∨
      item.kind = .replayRecentFailures ∨ item.kind = .trainCandidate := by
  obtain ⟨input, consumedInputs, hplan⟩ := h.plan
  rw [hplan] at hitem
  have hused := ((mem_plan_refs hitem).mp href).1
  cases hkind : item.kind <;> simp [inputRefIsUsedBy, hkind] at hused ⊢

theorem worked_of_holdsPlanned {controller : SleepController} {session : SleepSession}
    {input : SleepTickInput} (h : controller.Sound) (hsession : controller.session = some session)
    (hholds : HoldsPlanned controller input) (hcarries : carriesWakeReason input = false)
    {item : SleepWorkItem} (hitem : item ∈ session.workPlan)
    (hkind : item.kind ∈ session.phase.workKinds) :
    item.inputArtifactRefs ⊆ workedRefs input item := by
  intro inputRef href
  have hphase : item.kind = .consolidateEpisodes ∨ item.kind = .replayRecentFailures →
      session.phase = .consolidating := by
    cases hphase : session.phase <;> simp_all [SleepPhase.workKinds]
  obtain hconsolidate | hreplay | htrain := (h session hsession).accounted.refs_used hitem href
  · have hplanned := (hholds session hsession (hphase (.inl hconsolidate)) hcarries item hitem).1
    simpa [workedRefs, hconsolidate] using hplanned hconsolidate inputRef href
  · have hplanned := (hholds session hsession (hphase (.inr hreplay)) hcarries item hitem).2
    simpa [workedRefs, hreplay] using hplanned hreplay inputRef href
  · simpa [workedRefs, htrain] using href

def SleepController.Referred (controller : SleepController) : Prop :=
  ∀ session, controller.session = some session → session.Referred

theorem SleepController.Referred.tick {controller : SleepController} {input : SleepTickInput}
    (h : controller.Referred) (hsound : controller.Sound)
    (hholds : HoldsPlanned controller input) : (controller.tick input).1.Referred := by
  intro session hsession
  cases controller.tick_cases input with
  | idle _ hafter => exact absurd (hafter.symm.trans hsession) (by simp)
  | opened opened _ hafter hopened =>
    obtain rfl := Option.some.inj (hafter.symm.trans hsession)
    simp [SleepSession.Referred, hopened.completed]
  | interrupted before _ hbefore _ hafter =>
    obtain rfl := Option.some.inj (hafter.symm.trans hsession)
    exact h before hbefore
  | worked before hbefore hreason _ _ hafter =>
    obtain rfl := Option.some.inj (hafter.symm.trans hsession)
    have hcarries : carriesWakeReason input = false := by
      rw [hsound.carriesWakeReason_eq hbefore, hreason, Option.isSome_none]
    exact (h before hbefore).executePhase (hsound before hbefore).accounted
      fun item hitem hkind => worked_of_holdsPlanned hsound hbefore hholds hcarries hitem hkind
  | closed _ _ _ _ _ hafter => exact absurd (hafter.symm.trans hsession) (by simp)
  | dropped _ _ _ hafter => exact absurd (hafter.symm.trans hsession) (by simp)

section Closing

variable {inputs past : List SleepTickInput} {next : SleepTickInput} {session : SleepSession}

theorem closed_ticked (hbefore : (ticked past).session = some session)
    (hafter : (ticked (past ++ [next])).session = none) :
    (ticked (past ++ [next])).consumedInputs = recordAll maxConsumedSleepInputRefs
        (ticked past).consumedInputs session.consumedByCompleted ∧
      ∃ report, (ticked (past ++ [next])).lastReport = some report ∧
        report.consumedInputs = session.consumedByCompleted := by
  cases tick_cases_ticked past next with
  | idle hnone => exact absurd (hnone.symm.trans hbefore) (by simp)
  | opened _ hnone => exact absurd (hnone.symm.trans hbefore) (by simp)
  | interrupted _ _ _ _ hopen => exact absurd (hopen.symm.trans hafter) (by simp)
  | worked _ _ _ _ _ hopen => exact absurd (hopen.symm.trans hafter) (by simp)
  | closed same report hsame _ _ _ hconsumed hreport _ hinputs =>
    obtain rfl := Option.some.inj (hbefore.symm.trans hsame)
    exact ⟨hconsumed, report, hreport, hinputs⟩
  | dropped same hsame hawake =>
    exact absurd hawake (sound_ticked past same hsame).awake

theorem opened_ticked (hbefore : (ticked past).session = none)
    (hafter : (ticked (past ++ [next])).session = some session) :
    session.OpenedOn ((ticked past).pendingInput next) (ticked past).consumedInputs := by
  cases tick_cases_ticked past next with
  | idle _ hnone => exact absurd (hnone.symm.trans hafter) (by simp)
  | opened same _ hsame hopened =>
    obtain rfl := Option.some.inj (hsame.symm.trans hafter)
    exact hopened
  | interrupted _ _ hsome => exact absurd (hsome.symm.trans hbefore) (by simp)
  | worked _ hsome => exact absurd (hsome.symm.trans hbefore) (by simp)
  | closed _ _ hsome => exact absurd (hsome.symm.trans hbefore) (by simp)
  | dropped _ hsome => exact absurd (hsome.symm.trans hbefore) (by simp)

theorem consumed_of_idle {idle : List SleepTickInput}
    (hidle : ∀ part, part <+: idle → (ticked (past ++ part)).session = none) :
    (ticked (past ++ idle)).consumedInputs = (ticked past).consumedInputs := by
  induction idle using List.reverseRecOn with
  | nil => simp
  | append_singleton idle input ih =>
    rw [← ih fun part hpart => hidle part (hpart.trans (List.prefix_append _ _))]
    have hbefore := hidle idle (List.prefix_append _ _)
    have hafter := hidle (idle ++ [input]) (List.prefix_refl _)
    rw [← List.append_assoc] at hafter ⊢
    cases tick_cases_ticked (past ++ idle) input with
    | idle _ _ hconsumed => exact hconsumed
    | opened _ _ hopen => exact absurd (hopen.symm.trans hafter) (by simp)
    | interrupted _ _ hsome => exact absurd (hsome.symm.trans hbefore) (by simp)
    | worked _ hsome => exact absurd (hsome.symm.trans hbefore) (by simp)
    | closed _ _ hsome => exact absurd (hsome.symm.trans hbefore) (by simp)
    | dropped _ hsome => exact absurd (hsome.symm.trans hbefore) (by simp)

theorem consumed_of_recorded
    (hfew : (claimable inputs).dedup.length < maxConsumedSleepInputRefs) (hpast : past <+: inputs)
    (hbefore : (ticked past).session = some session)
    (hafter : (ticked (past ++ [next])).session = none) {consumption : SleepInputConsumption}
    (hrecorded : (ticked past).Recorded (ticked (past ++ [next])) consumption) :
    consumption ∈ session.consumedByCompleted := by
  have hkept := kept_ticked hfew hpast
  obtain ⟨hconsumed, report, hreport, hinputs⟩ := closed_ticked hbefore hafter
  obtain ⟨hmem, hnew⟩ | ⟨same, hsame, hmem⟩ := hrecorded
  · rw [hconsumed, mem_recordAll hfew hkept.log (hkept.consumed_known hbefore)] at hmem
    exact hmem.resolve_left hnew
  · obtain rfl := Option.some.inj (hreport.symm.trans hsame)
    rwa [hinputs] at hmem

theorem not_consumed_of_uncompleted
    (hfew : (claimable inputs).dedup.length < maxConsumedSleepInputRefs) (hpast : past <+: inputs)
    (hbefore : (ticked past).session = some session)
    (hafter : (ticked (past ++ [next])).session = none) {item : SleepWorkItem}
    (hitem : item ∈ session.workPlan)
    (huncompleted : ∀ result ∈ session.completed, result.workItemId = item.id →
      result.status ≠ .completed) {inputRef : String} (href : inputRef ∈ item.inputArtifactRefs) :
    { inputRef, workKind := item.kind } ∉ (ticked (past ++ [next])).consumedInputs := by
  have hkept := kept_ticked hfew hpast
  have haccounted := (hkept.sound session hbefore).accounted
  rw [(closed_ticked hbefore hafter).1,
    mem_recordAll hfew hkept.log (hkept.consumed_known hbefore)]
  rintro (hold | hconsumed)
  · exact (hkept.planned session hbefore item hitem inputRef href).2 hold
  · obtain ⟨other, hother, result, hresult, hid, hstatus, _, hkind, _⟩ :=
      haccounted.mem_consumedByCompleted hconsumed
    obtain rfl : other = item := haccounted.item_eq_of_kind hother hitem hkind
    exact huncompleted result hresult hid hstatus

end Closing

theorem referred_ticked {inputs past : List SleepTickInput} (hheld : PlannedHeld inputs)
    (hpast : past <+: inputs) : (ticked past).Referred := by
  have hboth : (ticked past).Sound ∧ (ticked past).Referred := by
    apply (hheld.of_isPrefix hpast).invariant
      (P := fun controller : SleepController => controller.Sound ∧ controller.Referred)
    · exact ⟨by simp [SleepController.Sound], by simp [SleepController.Referred]⟩
    · rintro controller input ⟨hsound, hreferred⟩ hholds
      exact ⟨hsound.tick input, hreferred.tick hsound hholds⟩
  exact hboth.2

/-- As long as each consolidation and replay finds what it was planned on. -/
theorem consumes_processed (inputs : List SleepTickInput)
    (hfew : (claimable inputs).dedup.length < maxConsumedSleepInputRefs)
    (hheld : PlannedHeld inputs) : ConsumesProcessed inputs where
  processed := by
    intro past next session hpast hbefore hafter consumption hrecorded
    have hshort := (List.prefix_append _ _).trans hpast
    have hmem := consumed_of_recorded hfew hshort hbefore hafter hrecorded
    have haccounted := (sound_ticked past session hbefore).accounted
    obtain ⟨item, hitem, result, hresult, hid, hstatus, hkind, hsame, href⟩ :=
      haccounted.mem_consumedByCompleted hmem
    have hreferred := referred_ticked hheld hshort session hbefore
    exact ⟨item, hitem, result, hresult, hid, hstatus, hkind.trans hsame, hsame, href,
      hreferred result hresult hstatus item hitem hid.symm _ href⟩
  fresh := by
    intro past more next session hpast consumption hmem hbefore hafter item hitem hkind href
    have hshort := (List.prefix_append _ _).trans hpast
    rw [(opened_ticked hbefore hafter).workPlan] at hitem
    have hnew := ((mem_plan_refs hitem).mp href).2
    rw [hkind] at hnew
    exact hnew (consumed_subset_ticked hfew hshort hmem)
  available := by
    intro past next session hpast hbefore hafter item hitem huncompleted inputRef href idle start
      opened hlong hidle hopen hused
    have hshort := (List.prefix_append _ _).trans hpast
    have hnew := not_consumed_of_uncompleted hfew hshort hbefore hafter hitem huncompleted href
    rw [← consumed_of_idle hidle] at hnew
    have hplan := (opened_ticked (hidle idle (List.prefix_refl _)) hopen).workPlan
    have hpending := inputRefIsUsedBy_pending hused hnew
    obtain ⟨planned, hplanned, hkind⟩ := exists_planned opened.id
      (ticked (past ++ [next] ++ idle)).consumedInputs hpending
    rw [hplan]
    exact ⟨planned, hplanned, hkind,
      (mem_plan_refs hplanned).mpr ⟨by rwa [hkind], by rwa [hkind]⟩⟩

def nightTick (episodes failures : List String) (tick : Nat) : SleepTickInput :=
  { tiredOnDock (100 + tick) with
    acceleratorAvailable := true
    completedEpisodeRefs := episodes
    failedBehaviorRefs := failures }

/-- A session on the dock from its opening to its end. -/
def nightOnDock (episodes failures : List String) : List SleepTickInput :=
  (List.range 8).map (nightTick episodes failures)

theorem consumes_processed_night :
    ((claimable (nightOnDock ["episode:1"] [])).dedup.length < maxConsumedSleepInputRefs ∧
      PlannedHeld (nightOnDock ["episode:1"] [])) ∧
      ConsumesProcessed (nightOnDock ["episode:1"] []) := by
  have hfew : (claimable (nightOnDock ["episode:1"] [])).dedup.length <
      maxConsumedSleepInputRefs := by decide +kernel
  have hheld : PlannedHeld (nightOnDock ["episode:1"] []) := by decide +kernel
  exact ⟨⟨hfew, hheld⟩, consumes_processed _ hfew hheld⟩

/-- The replay consumes a failure that its artifact does not mention. -/
theorem failure_consumed_without_replay : ¬ ConsumesProcessed (nightOnDock [] ["failure:1"]) := by
  intro h
  let past := (List.range 7).map (nightTick [] ["failure:1"])
  have hopen : (ticked past).session.isSome = true := by decide +kernel
  have hclosed : (ticked (past ++ [nightTick [] ["failure:1"] 7])).session.isNone = true := by
    decide +kernel
  have hrecorded : ({ inputRef := "failure:1", workKind := .replayRecentFailures } ∈
      (ticked (past ++ [nightTick [] ["failure:1"] 7])).consumedInputs) ∧
      (ticked past).consumedInputs = [] := by decide +kernel
  have hmissing : ∀ session ∈ (ticked past).session, ∀ result ∈ session.completed,
      result.kind = .replayRecentFailures → "failure:1" ∉ result.artifactInputRefs := by
    decide +kernel
  obtain ⟨session, hsession⟩ := Option.isSome_iff_exists.mp hopen
  obtain ⟨_, _, result, hresult, _, _, hkind, _, _, href⟩ := h.processed past
    (nightTick [] ["failure:1"] 7) session ⟨[], rfl⟩ hsession (Option.isNone_iff_eq_none.mp hclosed)
    _ (.inl ⟨hrecorded.1, by simp [hrecorded.2]⟩)
  exact hmissing session hsession result hresult hkind href

end Netherwick.Sleep
