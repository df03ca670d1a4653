import Netherwick.Sleep.Session

/-! # The sleep controller

One tick opens a session, interrupts it, or takes it one phase further. A phase that has work runs
the items of its kinds in the order of the plan; closing the session marks as consumed what the
completed items were planned on. -/

namespace Netherwick.Sleep

/-- `insert` of a `BTreeMap`, the map being its entries in the order of their keys. -/
def insertKey (key : String) (value : Float32) :
    List (String × Float32) → List (String × Float32)
  | [] => [(key, value)]
  | (other, old) :: rest =>
    if key = other then (key, value) :: rest
    else if key < other then (key, value) :: (other, old) :: rest
    else (other, old) :: insertKey key value rest

def dependenciesComplete (completed : List SleepWorkResult) (item : SleepWorkItem) : Bool :=
  item.dependencies.all fun dependency =>
    completed.any fun result => result.workItemId == dependency && result.status == .completed

def finishWorkItem (session : SleepSession) (item : SleepWorkItem) (input : SleepTickInput)
    (result : SleepWorkResult) : SleepWorkResult :=
  let artifactId := ("artifact:" ++ session.id ++ ":" ++ item.kind.debug).toLower
  let result :=
    { result with
      status := .completed
      completedAtMs := some input.nowMs
      outputArtifactRefs := result.outputArtifactRefs ++ [artifactId] }
  match item.kind with
  | .flushDurableState => { result with summary := "verified pending durable state" }
  | .consolidateEpisodes =>
    { result with
      consolidation := some
        { artifactId
          sourceEpisodeRefs := input.completedEpisodeRefs
          semanticRelationRefs := input.semanticRelationRefs
          sourceHistoryPreserved := true
          deterministicIndexEntries :=
            input.completedEpisodeRefs.length + input.semanticRelationRefs.length }
      summary := "indexed " ++ toString input.completedEpisodeRefs.length ++
        " episode refs and " ++ toString input.semanticRelationRefs.length ++
        " semantic refs without replacing source history" }
  | .replayRecentFailures =>
    { result with
      replay := some
        { artifactId
          sourceEpisodeRefs := input.completedEpisodeRefs
          historicalTimeDomain := .event
          replayComputedAt := ⟨.replay, input.nowMs⟩
          injectedIntoLiveNow := false }
      summary :=
        "replayed historical evidence without injecting it as current observation" }
  | .trainCandidate =>
    { result with
      candidate := some
        { artifactId
          role := "goal_progress_predictor"
          interfaceVersion := 1
          trainingDataRefs := item.inputArtifactRefs
          configuration := "deterministic_mock_teacher_v1"
          seed := 7
          metrics := [("training_loss", 0.25)]
          warnings := ["mock candidate requires offline evaluation"]
          baselineComparison := "not evaluated"
          knownFailureSlices := ["held_out_physical_contact"]
          fallbackArtifactRef := some "teacher:goal_progress:v1"
          promotionPolicy := .evaluateOnly
          promotionRecommended := false
          automaticallyPromoted := false }
      summary := "produced a versioned candidate without promotion authority" }
  | .evaluateCandidate =>
    let trained := session.completed.findSome? fun completed =>
      if completed.kind = .trainCandidate then completed.candidate else none
    { result with
      candidate := trained.map fun candidate =>
        { candidate with
          metrics := insertKey "fixed_seed_score" 0.72 candidate.metrics
          baselineComparison := "candidate 0.72 vs teacher 0.75"
          promotionRecommended := false
          automaticallyPromoted := false }
      summary := "evaluated candidate; current promoted implementation is unchanged" }
  | .rebuildIndexes | .dryRunPruning | .summarizeChanges =>
    { result with summary := "completed bounded maintenance" }

def pendingResult (item : SleepWorkItem) (input : SleepTickInput) : SleepWorkResult :=
  { workItemId := item.id
    kind := item.kind
    startedAtMs := input.nowMs
    executor :=
      if item.locality = .local then "organism.local"
      else if input.acceleratorAvailable then "cognitive_provider.mock"
      else "deferred.no_accelerator" }

def executeWorkItem (session : SleepSession) (item : SleepWorkItem) (input : SleepTickInput) :
    SleepSession × SleepWorkResult :=
  let result := pendingResult item input
  let expensiveWorkAllowed := (sleepEligibility input).expensiveWorkAllowed &&
    decide (input.thermalFraction ≤ session.resourceBudget.maxThermalFraction)
  if !dependenciesComplete session.completed item then
    (session, { result with status := .deferred, summary := "dependency did not complete" })
  else if item.requiresExternalPower && !expensiveWorkAllowed then
    (session,
      { result with
        status := .deferred
        summary :=
          if !input.charging || !input.docked then
            "external power and a stable dock are required for expensive work"
          else "thermal state exceeds the expensive-work budget" })
  else if item.locality ≠ .local && !input.acceleratorAvailable then
    (session,
      { result with
        status := .deferred
        summary := "accelerator unavailable; useful local work remains complete" })
  else if !session.resourceBudget.canReserve item.estimate then
    (session,
      { result with
        status := .cancelled
        summary := "deterministic resource budget gate rejected work" })
  else
    let session :=
      { session with resourceBudget := session.resourceBudget.reserve item.estimate }
    (session, finishWorkItem session item input result)

namespace SleepSession

def executeItem (input : SleepTickInput) (session : SleepSession) (item : SleepWorkItem) :
    SleepSession :=
  if session.completed.any fun result => result.workItemId == item.id then session
  else
    let executed := executeWorkItem session item input
    { executed.1 with completed := executed.1.completed ++ [executed.2] }

def executePhase (session : SleepSession) (input : SleepTickInput) (kinds : List SleepWorkKind) :
    SleepSession :=
  (session.workPlan.filter fun item => kinds.contains item.kind).foldl (executeItem input) session

/-- What the completed items were planned on. -/
def consumedByCompleted (session : SleepSession) : List SleepInputConsumption :=
  (session.completed.filter fun result => result.status = .completed).flatMap fun result =>
    (session.workPlan.find? fun item => item.id = result.workItemId).toList.flatMap fun item =>
      item.inputArtifactRefs.map fun inputRef => { inputRef, workKind := result.kind }

end SleepSession

structure SleepController where
  sequence : Nat := 0
  session : Option SleepSession := none
  lastReport : Option SleepReport := none
  consumedInputs : List SleepInputConsumption := []
  fatigueEntryArmed : Bool := true
  operatorSleepRequestActive : Bool := false

namespace SleepController

def phase (controller : SleepController) : SleepPhase :=
  (controller.session.map fun session => session.phase).getD .awake

def snapshot (controller : SleepController) (nowMs : Nat) (eligibility : SleepEligibility) :
    SleepSnapshot :=
  { schemaVersion := 1
    tMs := nowMs
    phase := controller.phase
    eligibility
    session := controller.session
    lastReport := controller.lastReport }

def requiresQuiescence (controller : SleepController) : Bool :=
  controller.session.any fun session => session.phase.isAsleep

def expectsExternalPower (controller : SleepController) : Bool :=
  controller.session.any fun session => session.startedOnExternalPower

def isConsumed (controller : SleepController) (consumption : SleepInputConsumption) : Bool :=
  controller.consumedInputs.contains consumption

def markConsumed (controller : SleepController) (consumption : SleepInputConsumption) :
    SleepController :=
  if controller.isConsumed consumption then controller
  else
    let consumedInputs := controller.consumedInputs ++ [consumption]
    { controller with
      consumedInputs := consumedInputs.drop (consumedInputs.length - maxConsumedSleepInputRefs) }

def hasPendingWork (controller : SleepController) (kinds : List SleepWorkKind)
    (inputRef : String) : Bool :=
  kinds.any fun workKind => !controller.isConsumed { inputRef, workKind }

def pendingInput (controller : SleepController) (input : SleepTickInput) : SleepTickInput :=
  { input with
    completedEpisodeRefs := input.completedEpisodeRefs.filter <| controller.hasPendingWork
      [.consolidateEpisodes, .replayRecentFailures, .trainCandidate]
    failedBehaviorRefs := input.failedBehaviorRefs.filter <| controller.hasPendingWork
      [.replayRecentFailures, .trainCandidate]
    semanticRelationRefs := input.semanticRelationRefs.filter <| controller.hasPendingWork
      [.consolidateEpisodes, .trainCandidate] }

def startSession (controller : SleepController) (input : SleepTickInput)
    (eligibility : SleepEligibility) : SleepController :=
  let sequence := saturate64 (controller.sequence + 1)
  let trigger := eligibility.trigger.getD .operatorRequest
  let id := "sleep:" ++ toString input.nowMs ++ ":" ++ toString sequence
  { controller with
    sequence
    fatigueEntryArmed :=
      if input.fatigueActivation ≥ fatigueEntryThreshold then false
      else controller.fatigueEntryArmed
    session := some
      { id
        startedAtMs := input.nowMs
        phase := .preparing
        trigger
        startedOnExternalPower := input.charging
        resourceBudget := {}
        workPlan := deterministicWorkPlan id input controller.consumedInputs
        completed := []
        interruptedBy := none
        provenance :=
          [{ id := ("sleep:trigger:" ++ trigger.debug ++ ":" ++ toString input.nowMs).toLower
             source :=
               if input.operatorSleepRequest then "operator.sleep_request"
               else "self.homeostasis"
             key := "sleep.trigger"
             observedAtMs := input.nowMs
             transformationLineage := ["pete_runtime::SleepController"]
             implementationVersion := some "1" }]
        claimedInputRefs := sleepInputRefs input
        claimedInputs := sleepInputRequirements input } }

def finishSession (controller : SleepController) (session : SleepSession) (nowMs : Nat) :
    SleepController :=
  let consumedInputs := session.consumedByCompleted
  let controller := consumedInputs.foldl markConsumed { controller with session := none }
  { controller with
    lastReport := some
      { schemaVersion := 1
        sessionId := session.id
        startedAtMs := session.startedAtMs
        endedAtMs := nowMs
        trigger := session.trigger
        wakeReason := session.interruptedBy.getD .workPlanComplete
        completed := session.completed
        failed := (session.completed.filter fun result => result.status = .failed).map
          fun result => result.workItemId
        deferred := (session.completed.filter fun result => result.status = .deferred).map
          fun result => result.workItemId
        producedArtifacts := session.completed.flatMap fun result => result.outputArtifactRefs
        promotedArtifact := none
        freshWorldModelRequired := true
        staleSkillResumed := false
        consumedInputRefs := session.claimedInputRefs.filter fun inputRef =>
          (session.claimedInputs.filter fun requirement => requirement.inputRef = inputRef).all
            controller.isConsumed
        consumedInputs } }

def advance (controller : SleepController) (session : SleepSession) (input : SleepTickInput) :
    SleepController :=
  match session.phase with
  | .preparing => { controller with session := some { session with phase := .quiescent } }
  | .quiescent => { controller with session := some { session with phase := .consolidating } }
  | .consolidating =>
    let worked := session.executePhase input
      [.flushDurableState, .consolidateEpisodes, .replayRecentFailures]
    { controller with session := some { worked with phase := .training } }
  | .training =>
    let worked := session.executePhase input [.trainCandidate]
    { controller with session := some { worked with phase := .evaluating } }
  | .evaluating =>
    let worked := session.executePhase input [.evaluateCandidate]
    { controller with session := some { worked with phase := .finalizing } }
  | .finalizing => { controller with session := some { session with phase := .waking } }
  | .interrupted => { controller with session := some { session with phase := .waking } }
  | .waking => controller.finishSession session input.nowMs
  | .awake => { controller with session := none }

/-- What arms the next session: how tired the body is, and what the operator asked last. -/
def armedBy (controller : SleepController) (input : SleepTickInput) : SleepController :=
  { controller with
    fatigueEntryArmed :=
      if input.fatigueActivation ≤ fatigueRearmThreshold then true
      else controller.fatigueEntryArmed
    operatorSleepRequestActive := input.operatorSleepRequest }

@[simp] theorem armedBy_session (controller : SleepController) (input : SleepTickInput) :
    (controller.armedBy input).session = controller.session := rfl

def tick (controller : SleepController) (input : SleepTickInput) :
    SleepController × SleepSnapshot :=
  let operatorRequestEdge :=
    input.operatorSleepRequest && !controller.operatorSleepRequestActive
  let controller := controller.armedBy input
  let pendingInput := controller.pendingInput input
  let eligibility :=
    sleepEligibilityWithArms pendingInput operatorRequestEdge controller.fatigueEntryArmed
  match controller.session with
  | none =>
    let controller :=
      if eligibility.eligible then controller.startSession pendingInput eligibility
      else controller
    (controller, controller.snapshot input.nowMs eligibility)
  | some session =>
    match wakeReason input session.resourceBudget.maxThermalFraction with
    | some reason =>
      let controller :=
        { controller with
          session :=
            some { session with interruptedBy := some reason, phase := .interrupted } }
      (controller, controller.snapshot input.nowMs eligibility)
    | none =>
      let controller := controller.advance session input
      let eligibility :=
        if controller.session.isNone then
          sleepEligibilityWithArms (controller.pendingInput input) false
            controller.fatigueEntryArmed
        else eligibility
      (controller, controller.snapshot input.nowMs eligibility)

end SleepController

end Netherwick.Sleep
