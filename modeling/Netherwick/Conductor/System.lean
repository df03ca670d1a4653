import Netherwick.Conductor.Arbiter

/-! # The goal system

At every tick the goals perceive and evaluate the world, the arbiter selects one, and the selected
one executes. The attempt it begins stays pending until its time is over, and what the possessor
reports of its skills is set down in the goal that asked for them. -/

namespace Netherwick.Conductor

open Netherwick.Skills (SkillOutcome SkillPhase)

variable {K : Domain}

structure PendingOutcome where
  goalId : GoalId
  behaviorId : String
  startedAtMs : Nat
  expectedProgress : Float32
  expectedDurationMs : Nat
  metric : String
  baseline : Option Float32
  tolerance : Float32
  startX : Float32
  startY : Float32
  startTargetDistanceM : Option Float32
  target : Option EntityId
  epistemicQuestionId : Option QuestionId
  startUncertainty : Option Float32

/-- What the system reads of a status. -/
structure SkillStatus where
  request : SkillRequest
  executionId : Nat
  phase : SkillPhase
  outcome : Option SkillOutcome
  progress : Option Float32
  attempts : Nat
  updatedAtMs : Nat

structure GoalSystem (K : Domain) where
  drives : K.Drives
  goals : List (GoalModule K)
  arbiter : GoalArbiter := {}
  pending : Option PendingOutcome := none
  lastTickMs : Option Nat := none
  processedTerminalSkillExecutions : GoalId → Option Nat := fun _ => none

structure GoalCycle (K : Domain) where
  drives : K.DriveSnapshot
  interpretations : List K.Interpretation
  evaluations : List (GoalEvaluation K.Action)
  selection : GoalSelection
  behavior : Option (BehaviorDecision K.Action)

def updateGoal (goals : List (GoalModule K)) (id : GoalId) (change : GoalModule K → GoalModule K) :
    List (GoalModule K) :=
  match goals with
  | [] => []
  | goal :: rest => if goal.id = id then change goal :: rest else goal :: updateGoal rest id change

def findGoal (goals : List (GoalModule K)) (id : GoalId) : Option (GoalModule K) :=
  goals.find? fun goal => goal.id = id

def WorldModelSnapshot.distanceTo {Details : Type} (world : WorldModelSnapshot Details)
    (target : Option EntityId) : Option Float32 :=
  target.bind fun id => (world.entities id).bind WorldEntity.distanceM

def WorldEntity.measured (entity : WorldEntity) : Bool :=
  match entity.distanceMeta with
  | some .current | some .aging => true
  | _ => false

namespace PendingOutcome

variable {Details : Type} (pending : PendingOutcome) (world : WorldModelSnapshot Details)

def movementProgress : Float32 :=
  let dx := world.xM - pending.startX
  let dy := world.yM - pending.startY
  clamp32 ((dx * dx + dy * dy).sqrt / 0.5) 0 1

def targetProgress : Option Float32 :=
  let entity := (pending.target.bind world.entities).filter WorldEntity.measured
  match entity.bind WorldEntity.distanceM, pending.startTargetDistanceM with
  | some current, some start => some (clamp32 ((start - current) / max32 start 0.1) 0 1)
  | _, _ => none

def currentUncertainty (questionId : QuestionId) : Float32 :=
  let asked := world.activeQuestions.find? fun question => question.questionId = questionId
  let answered := world.recentOutcomes.reverse.find? fun outcome => outcome.questionId = questionId
  ((asked.map EpistemicQuestion.currentUncertainty).or
    (answered.map EpistemicOutcome.uncertaintyAfter)).getD 0

def epistemicProgress : Option Float32 :=
  match pending.epistemicQuestionId, pending.startUncertainty with
  | some questionId, some start =>
    some (clamp32 ((start - currentUncertainty world questionId) / max32 start 0.01) 0 1)
  | _, _ => none

def docked : Bool := pending.behaviorId = "dock" && world.charging

def observed : Option Float32 :=
  if pending.docked world then some 1
  else if pending.epistemicQuestionId.isSome then pending.epistemicProgress world
  else if pending.target.isSome then pending.targetProgress world
  else some (pending.movementProgress world)

def attemptFinished : Bool :=
  decide (pending.expectedDurationMs ≤ world.tMs - pending.startedAtMs) || pending.docked world

def fallenShort : Bool :=
  match pending.observed world with
  | some observed =>
    pending.attemptFinished world &&
      decide (observed + pending.tolerance < pending.expectedProgress)
  | none => false

end PendingOutcome

def epsilon32 : Float32 := Float32.ofBits 0x34000000

namespace GoalRuntimeState

variable (runtime : GoalRuntimeState)

def previousProgress : Option Float32 :=
  runtime.lastProgressObservation.bind ProgressObservation.progress

/-- An observation of progress moves the trend and the recent progress. -/
def noteProgress (observation : ProgressObservation) (tolerance : Float32) : GoalRuntimeState :=
  match observation.progress with
  | none => { runtime with lastProgressObservation := some observation }
  | some progress =>
    let delta := match runtime.previousProgress with
      | some previous => progress - previous
      | none => progress
    { runtime with
      lastProgressObservation := some observation
      progressTrend := clamp32 (0.8 * runtime.progressTrend + 0.2 * delta) (-1) 1
      recentProgress := clamp32 (0.7 * runtime.recentProgress + 0.3 * progress) 0 1
      lastProgressAtMs :=
        if epsilon32 < delta ∧ max32 tolerance 0.01 ≤ progress then some observation.observedAtMs
        else runtime.lastProgressAtMs }

def noteConfidence (confidence : Option Float32) : GoalRuntimeState :=
  match confidence with
  | none => runtime
  | some confidence =>
    let trend := confidence - runtime.lastConfidence.getD confidence
    { runtime with
      confidenceTrend := clamp32 (0.8 * runtime.confidenceTrend + 0.2 * trend) (-1) 1
      lastConfidence := some confidence }

def countFailure : GoalRuntimeState :=
  { runtime with failedAttempts := saturate32 (runtime.failedAttempts + 1) }

def noteFrustration (expectedProgress observed : Float32) : GoalRuntimeState :=
  let deficit := max32 (expectedProgress - observed) 0
  let failed := clamp32 (runtime.failedAttempts.toFloat32 / 5) 0 1
  let falling := max32 (-runtime.confidenceTrend) 0
  let target := clamp32 (0.5 * deficit + 0.3 * failed + 0.2 * falling) 0 1
  let alpha : Float32 := if runtime.frustration < target then 0.20 else 0.07
  { runtime with frustration := runtime.frustration + (target - runtime.frustration) * alpha }

end GoalRuntimeState

def GoalModule.observeOutcome (goal : GoalModule K) (pending : PendingOutcome)
    (world : WorldModelSnapshot K.Details) : GoalModule K :=
  goal.withRuntime fun runtime =>
    let observation : ProgressObservation := {
      observedAtMs := world.tMs
      progress := pending.observed world
      source :=
        if (pending.observed world).isSome then "canonical_world_model"
        else "canonical_world_model_unmeasurable"
      outcome := none }
    let confident := runtime.noteConfidence (goal.lastEvaluation.map fun evaluation =>
      evaluation.competence.confidence)
    let progressed := confident.noteProgress observation pending.tolerance
    let counted := if pending.fallenShort world then progressed.countFailure else progressed
    match pending.observed world with
    | some observed => counted.noteFrustration pending.expectedProgress observed
    | none => counted

namespace GoalSystem

/-- `with_goals`. -/
def withGoals (drives : K.Drives) (goals : List (GoalComponents K)) : GoalSystem K :=
  { drives, goals := goals.map GoalModule.fromComponents }

variable (system : GoalSystem K)

def registerGoal (components : GoalComponents K) : Except String Unit × GoalSystem K :=
  if system.goals.any fun registered => registered.id = components.id then
    (.error s!"goal {components.id.name} is already registered", system)
  else
    (.ok (), { system with goals := system.goals ++ [GoalModule.fromComponents components] })

def observePendingOutcome (world : WorldModelSnapshot K.Details) : GoalSystem K :=
  match system.pending with
  | none => system
  | some pending =>
    { system with
      goals := updateGoal system.goals pending.goalId fun goal => goal.observeOutcome pending world
      pending := if pending.attemptFinished world then none else some pending }

def isFailure : SkillOutcome → Bool
  | .failed | .timedOut | .cancelled | .authorityLost | .transportLost | .capabilityUnavailable
  | .resourcePreempted | .postconditionFailed | .scriptError | .budgetExceeded | .targetStale
  | .unavailable => true
  | .completed | .safetyPreempted => false

def alreadyProcessed (goalId : GoalId) (status : SkillStatus) : Bool :=
  status.phase = .terminal && status.executionId ≠ 0 &&
    system.processedTerminalSkillExecutions goalId = some status.executionId

end GoalSystem

def SkillStatus.failed (status : SkillStatus) : Bool :=
  status.phase = .terminal && status.outcome.any GoalSystem.isFailure

def GoalModule.observeSkillStatus (goal : GoalModule K) (status : SkillStatus) : GoalModule K :=
  goal.withRuntime fun runtime =>
    let preempted := status.outcome = some SkillOutcome.safetyPreempted
    let observation : ProgressObservation := {
      observedAtMs := status.updatedAtMs
      progress := if preempted then none else status.progress
      source := if preempted then "autonomic_safety_preemption" else "possessor_skill"
      outcome := status.outcome }
    let progressed := runtime.noteProgress observation status.request.progressTolerance
    let reported := { progressed with attempts := max progressed.attempts status.attempts }
    let closed :=
      if status.phase = .terminal then { reported with lastSkillOutcome := status.outcome }
      else reported
    if status.failed then
      { closed.countFailure with frustration := clamp32 (closed.frustration + 0.2) 0 1 }
    else closed

namespace GoalSystem

variable (system : GoalSystem K)

def observeSkillStatus (status : SkillStatus) : GoalSystem K :=
  match status.request.goalId with
  | none => system
  | some goalId =>
    if system.alreadyProcessed goalId status then system
    else
      match findGoal system.goals goalId with
      | none => system
      | some _ =>
        { system with
          goals := updateGoal system.goals goalId fun goal => goal.observeSkillStatus status
          processedTerminalSkillExecutions :=
            if status.phase = .terminal ∧ status.executionId ≠ 0 then
              Function.update system.processedTerminalSkillExecutions goalId
                (some status.executionId)
            else system.processedTerminalSkillExecutions }

/-- What the goals made of the world. -/
structure Perceived (K : Domain) where
  drives : K.DriveSnapshot
  interpretations : List K.Interpretation
  evaluations : List (GoalEvaluation K.Action)

/-- The goals perceive and evaluate in turn, up to the first that fails. -/
def perceiveGoals (world : WorldModelSnapshot K.Details) (drives : K.DriveSnapshot)
    (proposals : List K.Action) :
    List (GoalModule K) → Except String (Perceived K) × List (GoalModule K)
  | [] => (.ok { drives, interpretations := [], evaluations := [] }, [])
  | goal :: rest =>
    let runtime := goal.runtime
    match goal.interpret { world, drives, runtime, suggestions := proposals } with
    | (.error error, goal) => (.error error, goal :: rest)
    | (.ok interpretation, goal) =>
      match goal.evaluate interpretation { world, drives, runtime } with
      | (.error error, goal) => (.error error, goal :: rest)
      | (.ok evaluation, goal) =>
        match perceiveGoals world drives proposals rest with
        | (.error error, rest) => (.error error, goal :: rest)
        | (.ok perceived, rest) =>
          (.ok { perceived with
            interpretations := interpretation :: perceived.interpretations
            evaluations := evaluation :: perceived.evaluations }, goal :: rest)

/-- A tick, as far as the evaluations. -/
def perceive (world : WorldModelSnapshot K.Details) (proposals : List K.Action) :
    Except String (Perceived K) × GoalSystem K :=
  let observed := system.observePendingOutcome world
  let updated := K.update observed.drives world
  let result := perceiveGoals world updated.1 proposals observed.goals
  (result.1, { observed with drives := updated.2, goals := result.2 })

end GoalSystem

inductive Transition
  | entered (goalId : GoalId)
  | exited (goalId : GoalId) (reason : GoalExitReason)
  deriving DecidableEq, Repr

namespace Transition

def goalId : Transition → GoalId
  | .entered goalId => goalId
  | .exited goalId _ => goalId

def apply (goals : List (GoalModule K)) : Transition → List (GoalModule K)
  | .entered goalId => updateGoal goals goalId GoalModule.enter
  | .exited goalId reason => updateGoal goals goalId fun goal => goal.exit reason

end Transition

namespace GoalSystem

variable (system : GoalSystem K)

/-- What a selection does to the goals that are registered: the previous goal is left, and the
selected one is entered. -/
def changeOver (selection : GoalSelection) : List Transition :=
  if selection.switched then
    ((system.arbiter.currentGoal.map fun previous =>
        Transition.exited previous (selection.exitReason.getD .superseded)).toList ++
      (selection.selectedGoal.map Transition.entered).toList).filter fun transition =>
        (findGoal system.goals transition.goalId).isSome
  else []

def select (world : WorldModelSnapshot K.Details) (perceived : Perceived K) :
    GoalSelection × GoalSystem K :=
  let selected := system.arbiter.select world.tMs perceived.evaluations
  (selected.1, { system with
    arbiter := selected.2
    goals := (system.changeOver selected.1).foldl Transition.apply system.goals })

def beginsNewAttempt (decision : BehaviorDecision K.Action) : Bool :=
  match system.pending with
  | some pending =>
    decide (pending.goalId ≠ decision.goalId) || decide (pending.behaviorId ≠ decision.behaviorId)
  | none => true

/-- The metric of an attempt, its baseline and its tolerance. -/
def progressPlan (world : WorldModelSnapshot K.Details) (affordance : Affordance K.Action)
    (startUncertainty : Option Float32) : String × Option Float32 × Float32 :=
  if affordance.epistemicQuestionId.isSome then ("uncertainty_reduction", startUncertainty, 0.1)
  else
    match affordance.skillRequest with
    | some request =>
      (if request.progressMetric.isEmpty then skillProgressMetric request.skillId
        else request.progressMetric,
      request.progressBaseline.or (world.distanceTo affordance.target),
      request.progressTolerance)
    | none => ("world_displacement", some 0, 0.1)

def startUncertainty (world : WorldModelSnapshot K.Details) (affordance : Affordance K.Action) :
    Option Float32 :=
  affordance.epistemicQuestionId.bind fun questionId =>
    (world.activeQuestions.find? fun question => question.questionId = questionId).map
      EpistemicQuestion.currentUncertainty

/-- A new attempt is counted in the selected goal, and becomes the pending one. -/
def beginAttempt (world : WorldModelSnapshot K.Details) (goalId : GoalId)
    (decision : BehaviorDecision K.Action) : GoalSystem K :=
  let affordance := decision.affordance
  let uncertainty := startUncertainty world affordance
  let plan := progressPlan world affordance uncertainty
  { system with
    goals := updateGoal system.goals goalId fun goal => goal.withRuntime fun runtime =>
      { runtime with
        attempts := saturate32 (runtime.attempts + 1)
        progressExpectation := some {
          behaviorId := decision.behaviorId
          baseline := plan.2.1
          expectedProgress := affordance.expectedProgress
          horizonMs := affordance.expectedDurationMs
          tolerance := plan.2.2
          deadlineMs := world.tMs + affordance.expectedDurationMs
          metric := plan.1 } }
    pending := some {
      goalId := decision.goalId
      behaviorId := decision.behaviorId
      startedAtMs := world.tMs
      expectedProgress := affordance.expectedProgress
      expectedDurationMs := affordance.expectedDurationMs
      metric := plan.1
      baseline := plan.2.1
      tolerance := plan.2.2
      startX := world.xM
      startY := world.yM
      startTargetDistanceM := world.distanceTo affordance.target
      target := affordance.target
      epistemicQuestionId := affordance.epistemicQuestionId
      startUncertainty := uncertainty } }

/-- The selected goal goes on for another tick. -/
def elapse (world : WorldModelSnapshot K.Details) (goalId : GoalId) : GoalSystem K :=
  let dtMs := match system.lastTickMs with
    | some last => world.tMs - last
    | none => 0
  { system with
    lastTickMs := some world.tMs
    goals := updateGoal system.goals goalId fun goal => goal.withRuntime fun runtime =>
      { runtime with elapsedTimeMs := runtime.elapsedTimeMs + dtMs } }

def execute (world : WorldModelSnapshot K.Details) (goalId : GoalId)
    (evaluations : List (GoalEvaluation K.Action)) :
    Except String (BehaviorDecision K.Action) × GoalSystem K :=
  match findGoal system.goals goalId,
      evaluations.find? fun evaluation => evaluation.goalId = goalId with
  | none, _ => (.error "selected goal is not registered", system)
  | some _, none => (.error "selected goal has no immutable evaluation", system)
  | some goal, some evaluation =>
    let result := goal.execute evaluation { world, runtime := goal.runtime }
    let executed := { system with goals := updateGoal system.goals goalId fun _ => result.2 }
    match result.1 with
    | .error error => (.error error, executed)
    | .ok decision =>
      (.ok decision,
        if executed.beginsNewAttempt decision then executed.beginAttempt world goalId decision
        else executed)

def act (world : WorldModelSnapshot K.Details) (perceived : Perceived K) :
    Except String (GoalCycle K) × GoalSystem K :=
  let selected := system.select world perceived
  let cycle (behavior : Option (BehaviorDecision K.Action)) : GoalCycle K := {
    drives := perceived.drives
    interpretations := perceived.interpretations
    evaluations := perceived.evaluations
    selection := selected.1
    behavior }
  match selected.1.selectedGoal with
  | none => (.ok (cycle none), { selected.2 with lastTickMs := some world.tMs })
  | some goalId =>
    let executed := (selected.2.elapse world goalId).execute world goalId perceived.evaluations
    (executed.1.map fun decision => cycle (some decision), executed.2)

def tick (world : WorldModelSnapshot K.Details) (proposals : List K.Action) :
    Except String (GoalCycle K) × GoalSystem K :=
  match system.perceive world proposals with
  | (.error error, observed) => (.error error, observed)
  | (.ok perceived, observed) => observed.act world perceived

/-- The goals that a tick leaves and enters. -/
def tickTransitions (world : WorldModelSnapshot K.Details) (proposals : List K.Action) :
    List Transition :=
  match system.perceive world proposals with
  | (.error _, _) => []
  | (.ok perceived, observed) =>
    observed.changeOver (observed.arbiter.select world.tMs perceived.evaluations).1

def sleepTransitions : List Transition :=
  (system.arbiter.currentGoal.map fun goalId => Transition.exited goalId .sleep).toList.filter
    fun transition => (findGoal system.goals transition.goalId).isSome

def suspendForSleep (world : WorldModelSnapshot K.Details) : GoalCycle K × GoalSystem K :=
  let updated := K.update system.drives world
  ({ drives := updated.1
     interpretations := []
     evaluations := []
     selection := { reason := "deliberative goals quiesced for sleep" }
     behavior := none },
  { system with
    arbiter := system.arbiter.release
    goals := system.sleepTransitions.foldl Transition.apply system.goals
    pending := none
    lastTickMs := some world.tMs
    drives := updated.2 })

end GoalSystem

inductive GoalCall (K : Domain)
  | tick (world : WorldModelSnapshot K.Details) (proposals : List K.Action)
  | registerGoal (components : GoalComponents K)
  | observeSkillStatus (status : SkillStatus)
  | suspendForSleep (world : WorldModelSnapshot K.Details)

namespace GoalSystem

variable (system : GoalSystem K)

def step : GoalCall K → GoalSystem K
  | .tick world proposals => (system.tick world proposals).2
  | .registerGoal components => (system.registerGoal components).2
  | .observeSkillStatus status => system.observeSkillStatus status
  | .suspendForSleep world => (system.suspendForSleep world).2

def transitions : GoalCall K → List Transition
  | .tick world proposals => system.tickTransitions world proposals
  | .registerGoal _ => []
  | .observeSkillStatus _ => []
  | .suspendForSleep _ => system.sleepTransitions

def run (calls : List (GoalCall K)) : GoalSystem K := calls.foldl step system

end GoalSystem

end Netherwick.Conductor
