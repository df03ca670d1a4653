import Netherwick.Lib.DistinctLog
import Netherwick.Lib.Run
import Netherwick.Sleep.Controller

/-! # What a tick can do

The results of a session are those of items of its plan, one each, and the controller keeps, opens,
interrupts, works on or closes its session. -/

namespace Netherwick.Sleep

open Netherwick.Lib

namespace SleepWorkResult

def artifactInputRefs (result : SleepWorkResult) : List String :=
  (result.consolidation.toList.flatMap fun artifact =>
    artifact.sourceEpisodeRefs ++ artifact.semanticRelationRefs) ++
  (result.replay.toList.flatMap fun artifact => artifact.sourceEpisodeRefs) ++
  (result.candidate.toList.flatMap fun artifact => artifact.trainingDataRefs)

end SleepWorkResult

/-- What the work of a kind is done on: the training alone works on what was planned. -/
def workedRefs (input : SleepTickInput) (item : SleepWorkItem) : List String :=
  match item.kind with
  | .consolidateEpisodes => input.completedEpisodeRefs ++ input.semanticRelationRefs
  | .replayRecentFailures => input.completedEpisodeRefs
  | .trainCandidate => item.inputArtifactRefs
  | _ => []

/-- What there is to say of the result of an item, the results before it being known. -/
structure ResultOf (completed : List SleepWorkResult) (item : SleepWorkItem)
    (input : SleepTickInput) (result : SleepWorkResult) : Prop where
  workItemId : result.workItemId = item.id
  kind : result.kind = item.kind
  dependencies : result.status = .completed → dependenciesComplete completed item = true
  artifact : result.status = .completed → ∀ inputRef ∈ workedRefs input item,
    inputRef ∈ result.artifactInputRefs

theorem finishWorkItem_resultOf {session : SleepSession} {item : SleepWorkItem}
    {input : SleepTickInput} {result : SleepWorkResult} {completed : List SleepWorkResult}
    (hid : result.workItemId = item.id) (hkind : result.kind = item.kind)
    (hdependencies : dependenciesComplete completed item = true) :
    ResultOf completed item input (finishWorkItem session item input result) := by
  constructor
  · cases h : item.kind <;> simp [finishWorkItem, h, hid]
  · cases h : item.kind <;> simp [finishWorkItem, h, hkind]
  · intro _
    exact hdependencies
  · intro _ inputRef hmem
    cases h : item.kind <;> simp only [workedRefs, h, List.not_mem_nil] at hmem
    case consolidateEpisodes =>
      simp [finishWorkItem, SleepWorkResult.artifactInputRefs, h, List.mem_append.mp hmem,
        ← or_assoc]
    case replayRecentFailures =>
      simp [finishWorkItem, SleepWorkResult.artifactInputRefs, h, hmem]
    case trainCandidate =>
      simp [finishWorkItem, SleepWorkResult.artifactInputRefs, h, hmem]

theorem resultOf_of_not_completed {completed : List SleepWorkResult} {item : SleepWorkItem}
    {input : SleepTickInput} {result : SleepWorkResult} (hid : result.workItemId = item.id)
    (hkind : result.kind = item.kind) (hstatus : result.status ≠ .completed) :
    ResultOf completed item input result where
  workItemId := hid
  kind := hkind
  dependencies := fun h => absurd h hstatus
  artifact := fun h => absurd h hstatus

theorem executeWorkItem_spec (session : SleepSession) (item : SleepWorkItem)
    (input : SleepTickInput) :
    ∃ budget : SleepResourceBudget,
      budget.maxThermalFraction = session.resourceBudget.maxThermalFraction ∧
      (executeWorkItem session item input).1 = { session with resourceBudget := budget } ∧
      ResultOf session.completed item input (executeWorkItem session item input).2 := by
  simp only [executeWorkItem]
  split
  · exact ⟨_, rfl, rfl, resultOf_of_not_completed rfl rfl (by simp)⟩
  · rename_i hdependencies
    split
    · exact ⟨_, rfl, rfl, resultOf_of_not_completed rfl rfl (by simp)⟩
    · split
      · exact ⟨_, rfl, rfl, resultOf_of_not_completed rfl rfl (by simp)⟩
      · split
        · exact ⟨_, rfl, rfl, resultOf_of_not_completed rfl rfl (by simp)⟩
        · have hcomplete : dependenciesComplete session.completed item = true := by
            simpa using hdependencies
          exact ⟨_, SleepResourceBudget.reserve_maxThermalFraction _ _, rfl,
            finishWorkItem_resultOf rfl rfl hcomplete⟩

namespace SleepSession

theorem executeItem_cases (input : SleepTickInput) (session : SleepSession)
    (item : SleepWorkItem) :
    (∃ result ∈ session.completed, result.workItemId = item.id) ∧
      session.executeItem input item = session ∨
    (∀ result ∈ session.completed, result.workItemId ≠ item.id) ∧
      ∃ (budget : SleepResourceBudget) (result : SleepWorkResult),
        budget.maxThermalFraction = session.resourceBudget.maxThermalFraction ∧
        ResultOf session.completed item input result ∧
        session.executeItem input item =
          { session with
            resourceBudget := budget
            completed := session.completed ++ [result] } := by
  by_cases hresult : ∃ result ∈ session.completed, result.workItemId = item.id
  · left
    exact ⟨hresult, by simpa [executeItem] using fun h => absurd hresult (by simpa using h)⟩
  · right
    obtain ⟨budget, hthermal, hsession, hof⟩ := executeWorkItem_spec session item input
    have hnone : ∀ result ∈ session.completed, result.workItemId ≠ item.id :=
      fun result hmem heq => hresult ⟨result, hmem, heq⟩
    have hany : (session.completed.any fun result => result.workItemId == item.id) = false := by
      simpa using hnone
    refine ⟨hnone, budget, _, hthermal, hof, ?_⟩
    simp [executeItem, hany, hsession]

@[simp] theorem executeItem_workPlan (input : SleepTickInput) (session : SleepSession)
    (item : SleepWorkItem) : (session.executeItem input item).workPlan = session.workPlan := by
  obtain ⟨_, h⟩ | ⟨_, _, _, _, _, h⟩ := session.executeItem_cases input item <;> rw [h]

theorem executePhase_preserves {P : SleepSession → Prop} {session : SleepSession}
    {input : SleepTickInput} {kinds : List SleepWorkKind} (h : P session)
    (hitem : ∀ (current : SleepSession), ∀ item ∈ current.workPlan, item.kind ∈ kinds → P current →
      P (current.executeItem input item)) :
    P (session.executePhase input kinds) := by
  have hfold : ∀ (items : List SleepWorkItem) (current : SleepSession),
      (∀ item ∈ items, item ∈ current.workPlan ∧ item.kind ∈ kinds) → P current →
      P (items.foldl (executeItem input) current) := by
    intro items
    induction items with
    | nil => exact fun current _ hcurrent => hcurrent
    | cons item rest ih =>
      intro current hitems hcurrent
      obtain ⟨hmem, hkind⟩ := hitems item List.mem_cons_self
      apply ih (current.executeItem input item)
      · simpa using fun other hother => hitems other (List.mem_cons_of_mem _ hother)
      · exact hitem current item hmem hkind hcurrent
  apply hfold _ session _ h
  intro item hmem
  simpa using List.mem_filter.mp hmem

theorem executePhase_eq (session : SleepSession) (input : SleepTickInput)
    (kinds : List SleepWorkKind) :
    ∃ (budget : SleepResourceBudget) (results : List SleepWorkResult),
      budget.maxThermalFraction = session.resourceBudget.maxThermalFraction ∧
      session.executePhase input kinds =
        { session with
          resourceBudget := budget
          completed := session.completed ++ results } := by
  apply executePhase_preserves (P := fun current => ∃ (budget : SleepResourceBudget)
    (results : List SleepWorkResult),
      budget.maxThermalFraction = session.resourceBudget.maxThermalFraction ∧
      current = { session with
        resourceBudget := budget
        completed := session.completed ++ results })
  · exact ⟨session.resourceBudget, [], rfl, by simp⟩
  · rintro current item _ _ ⟨budget, results, hthermal, rfl⟩
    obtain ⟨_, h⟩ | ⟨_, budget', result, hthermal', _, h⟩ := executeItem_cases input
      { session with resourceBudget := budget, completed := session.completed ++ results } item
    · exact ⟨budget, results, hthermal, h⟩
    · exact ⟨budget', results ++ [result], hthermal'.trans hthermal, by simpa using h⟩

end SleepSession

/-- The order in which phases are declared. -/
def SleepPhase.next : SleepPhase → SleepPhase
  | .preparing => .quiescent
  | .quiescent => .consolidating
  | .consolidating => .training
  | .training => .evaluating
  | .evaluating => .finalizing
  | .finalizing | .interrupted => .waking
  | .waking | .awake => .awake

def SleepPhase.workKinds : SleepPhase → List SleepWorkKind
  | .consolidating => [.flushDurableState, .consolidateEpisodes, .replayRecentFailures]
  | .training => [.trainCandidate]
  | .evaluating => [.evaluateCandidate]
  | _ => []

def SleepSession.workOff (session : SleepSession) (input : SleepTickInput) : SleepSession :=
  { session.executePhase input session.phase.workKinds with phase := session.phase.next }

structure SleepSession.OpenedOn (session : SleepSession) (pending : SleepTickInput)
    (consumedInputs : List SleepInputConsumption) : Prop where
  phase : session.phase = .preparing
  interruptedBy : session.interruptedBy = none
  completed : session.completed = []
  resourceBudget : session.resourceBudget = {}
  workPlan : session.workPlan = deterministicWorkPlan session.id pending consumedInputs

namespace SleepController

theorem markConsumed_eq (controller : SleepController) (consumption : SleepInputConsumption) :
    controller.markConsumed consumption =
      { controller with
        consumedInputs :=
          record maxConsumedSleepInputRefs controller.consumedInputs consumption } := by
  by_cases h : consumption ∈ controller.consumedInputs
  · simp [markConsumed, record, isConsumed, h]
  · simp [markConsumed, record, isConsumed, h]

theorem foldl_markConsumed (consumptions : List SleepInputConsumption)
    (controller : SleepController) :
    consumptions.foldl markConsumed controller =
      { controller with
        consumedInputs :=
          recordAll maxConsumedSleepInputRefs controller.consumedInputs consumptions } := by
  induction consumptions generalizing controller with
  | nil => rfl
  | cons consumption rest ih => simp [ih, markConsumed_eq, recordAll]

/-- What a tick can do to the session and to what is kept beyond it. -/
inductive TickCase (before : SleepController) (input : SleepTickInput) (after : SleepController) :
    Prop
  | idle (hbefore : before.session = none) (hafter : after.session = none)
      (hconsumed : after.consumedInputs = before.consumedInputs)
      (hreport : after.lastReport = before.lastReport)
  | opened (session : SleepSession) (hbefore : before.session = none)
      (hafter : after.session = some session)
      (hopened : session.OpenedOn (before.pendingInput input) before.consumedInputs)
      (hconsumed : after.consumedInputs = before.consumedInputs)
      (hreport : after.lastReport = before.lastReport)
  | interrupted (session : SleepSession) (reason : WakeReason)
      (hbefore : before.session = some session)
      (hreason : wakeReason input session.resourceBudget.maxThermalFraction = some reason)
      (hafter : after.session =
        some { session with interruptedBy := some reason, phase := .interrupted })
      (hconsumed : after.consumedInputs = before.consumedInputs)
      (hreport : after.lastReport = before.lastReport)
  | worked (session : SleepSession) (hbefore : before.session = some session)
      (hreason : wakeReason input session.resourceBudget.maxThermalFraction = none)
      (hwaking : session.phase ≠ .waking) (hawake : session.phase ≠ .awake)
      (hafter : after.session = some (session.workOff input))
      (hconsumed : after.consumedInputs = before.consumedInputs)
      (hreport : after.lastReport = before.lastReport)
  | closed (session : SleepSession) (report : SleepReport) (hbefore : before.session = some session)
      (hreason : wakeReason input session.resourceBudget.maxThermalFraction = none)
      (hwaking : session.phase = .waking) (hafter : after.session = none)
      (hconsumed : after.consumedInputs =
        recordAll maxConsumedSleepInputRefs before.consumedInputs session.consumedByCompleted)
      (hreport : after.lastReport = some report) (hcompleted : report.completed = session.completed)
      (hinputs : report.consumedInputs = session.consumedByCompleted)
  | dropped (session : SleepSession) (hbefore : before.session = some session)
      (hawake : session.phase = .awake) (hafter : after.session = none)
      (hconsumed : after.consumedInputs = before.consumedInputs)
      (hreport : after.lastReport = before.lastReport)

theorem advance_of_working {controller : SleepController} {session : SleepSession}
    {input : SleepTickInput} (hwaking : session.phase ≠ .waking) (hawake : session.phase ≠ .awake) :
    controller.advance session input =
      { controller with session := some (session.workOff input) } := by
  cases h : session.phase <;>
    simp_all [advance, SleepSession.workOff, SleepPhase.next, SleepPhase.workKinds,
      SleepSession.executePhase]

theorem tick_cases (controller : SleepController) (input : SleepTickInput) :
    TickCase controller input (controller.tick input).1 := by
  cases hsession : controller.session with
  | none =>
    simp only [tick, armedBy_session, hsession]
    split
    · exact .opened _ hsession rfl ⟨rfl, rfl, rfl, rfl, rfl⟩ rfl rfl
    · exact .idle hsession hsession rfl rfl
  | some session =>
    cases hreason : wakeReason input session.resourceBudget.maxThermalFraction with
    | some reason =>
      simp only [tick, armedBy_session, hsession, hreason]
      exact .interrupted session reason hsession hreason rfl rfl rfl
    | none =>
      simp only [tick, armedBy_session, hsession, hreason]
      by_cases hwaking : session.phase = .waking
      · simp only [advance, hwaking, finishSession, foldl_markConsumed]
        exact .closed session _ hsession hreason hwaking rfl rfl rfl rfl rfl
      · by_cases hawake : session.phase = .awake
        · simp only [advance, hawake]
          exact .dropped session hsession hawake rfl rfl rfl
        · rw [advance_of_working hwaking hawake]
          exact .worked session hsession hreason hwaking hawake rfl rfl rfl

end SleepController

end Netherwick.Sleep
