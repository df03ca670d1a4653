import Netherwick.Skills.Runtime

/-! # Goals

A goal perceives the world, evaluates how much it matters and what could be done about it, and, when
it is selected, decides what is done. Its three parts may come from outside; its runtime state is
kept by the goal system. -/

namespace Netherwick.Conductor

open Netherwick.Skills (SkillOutcome SkillPhase)

structure GoalId where
  name : String
  deriving DecidableEq, Repr

abbrev EntityId : Type := String
abbrev QuestionId : Type := String

/-- `clamp`: what is not a number stays so. -/
def clamp32 (value low high : Float32) : Float32 :=
  if value < low then low else if high < value then high else value

/-- `max`: of a number and what is not a number, the number. -/
def max32 (a b : Float32) : Float32 := if a.isNaN then b else if b.isNaN then a else if a < b then b else a

/-- The bits as `total_cmp` takes them. -/
def totalKey (value : Float32) : Int :=
  let bits := value.toBits.toNat
  if bits < 0x80000000 then bits else (0x7FFFFFFF : Int) - bits

/-- Saturating arithmetic on `u32`. -/
def saturate32 (value : Nat) : Nat := min value 0xFFFFFFFF

inductive Freshness
  | current | aging | stale | invalidated | missing
  deriving DecidableEq, Repr

structure WorldEntity where
  distanceM : Option Float32
  distanceMeta : Option Freshness

structure EpistemicQuestion where
  questionId : QuestionId
  currentUncertainty : Float32

structure EpistemicOutcome where
  questionId : QuestionId
  uncertaintyAfter : Float32

/-- The snapshot of the world. The details are what only the parts of goals look at. -/
structure WorldModelSnapshot (Details : Type) where
  tMs : Nat
  xM : Float32
  yM : Float32
  charging : Bool
  entities : EntityId → Option WorldEntity
  activeQuestions : List EpistemicQuestion
  recentOutcomes : List EpistemicOutcome
  details : Details

inductive SkillId
  | stopAndStabilize | turnTowardTarget | followBearing | approachTarget | backAway | inspectTarget
  | wallFollow | alignWithDock | systematicSearch | holdHeading | retreatFromCliff
  | releasePersistentBumper | turnBy | driveDistance | undock | searchForDock | returnToDock
  | runtimeLoaded
  deriving DecidableEq, Repr

def skillProgressMetric : SkillId → String
  | .turnTowardTarget | .followBearing | .holdHeading | .turnBy => "bearing_error"
  | .approachTarget | .alignWithDock | .searchForDock | .returnToDock => "target_distance"
  | .backAway => "reverse_displacement"
  | .retreatFromCliff | .releasePersistentBumper | .driveDistance | .undock =>
    "reverse_displacement"
  | .inspectTarget => "uncertainty_reduction"
  | .wallFollow => "path_progress"
  | .systematicSearch => "frontier_coverage"
  | .stopAndStabilize => "motion_stability"
  | .runtimeLoaded => "goal_progress"

structure SkillRequest where
  skillId : SkillId
  goalId : Option GoalId
  behaviorId : Option String
  progressMetric : String
  progressBaseline : Option Float32
  progressTolerance : Float32

structure Affordance (Action : Type) where
  behaviorId : String
  available : Bool
  expectedProgress : Float32
  expectedDurationMs : Nat
  epistemicQuestionId : Option QuestionId
  target : Option EntityId
  skillRequest : Option SkillRequest
  action : Option Action

inductive GoalDisposition
  | active | satisfied | completed | failed
  deriving DecidableEq, Repr

inductive GoalExitReason
  | superseded | sleep | satisfied | completed | failed | lostSafeAffordances
  deriving DecidableEq, Repr

structure Motivation where
  activation : Float32
  urgency : Float32
  satisfaction : Float32

structure Competence (Action : Type) where
  confidence : Float32
  affordances : List (Affordance Action)

structure GoalEvaluation (Action : Type) where
  goalId : GoalId
  disposition : GoalDisposition
  motivation : Motivation
  competence : Competence Action

structure BehaviorDecision (Action : Type) where
  goalId : GoalId
  behaviorId : String
  action : Action
  affordance : Affordance Action

structure ProgressExpectation where
  behaviorId : String
  baseline : Option Float32
  expectedProgress : Float32
  horizonMs : Nat
  tolerance : Float32
  deadlineMs : Nat
  metric : String

structure ProgressObservation where
  observedAtMs : Nat
  progress : Option Float32
  source : String
  outcome : Option SkillOutcome

structure GoalRuntimeState where
  active : Bool := false
  elapsedTimeMs : Nat := 0
  attempts : Nat := 0
  failedAttempts : Nat := 0
  recentProgress : Float32 := 0
  progressTrend : Float32 := 0
  lastProgressAtMs : Option Nat := none
  confidenceTrend : Float32 := 0
  frustration : Float32 := 0
  lastConfidence : Option Float32 := none
  lastExitReason : Option GoalExitReason := none
  progressExpectation : Option ProgressExpectation := none
  lastProgressObservation : Option ProgressObservation := none
  lastSkillOutcome : Option SkillOutcome := none

structure InterpreterState where
  lastWorldRevision : Nat := 0
  updates : Nat := 0

structure EvaluatorState where
  evaluations : Nat := 0
  lastActivation : Float32 := 0

inductive TurnDir
  | left | right
  deriving DecidableEq, Repr

structure ExecutorState where
  executions : Nat := 0
  lastBehaviorId : Option String := none
  committedTurnDirection : Option TurnDir := none

/-- What the goals and their parts speak of: the details of the world, the drives and how they
follow the world, what a goal perceives, and actions. -/
structure Domain where
  Details : Type
  Drives : Type
  DriveSnapshot : Type
  update : Drives → WorldModelSnapshot Details → DriveSnapshot × Drives
  Interpretation : Type
  Action : Type

variable {K : Domain}

structure GoalInterpretationContext (K : Domain) where
  world : WorldModelSnapshot K.Details
  drives : K.DriveSnapshot
  runtime : GoalRuntimeState
  suggestions : List K.Action

structure GoalEvaluationContext (K : Domain) where
  world : WorldModelSnapshot K.Details
  drives : K.DriveSnapshot
  runtime : GoalRuntimeState

structure GoalExecutionContext (K : Domain) where
  world : WorldModelSnapshot K.Details
  runtime : GoalRuntimeState

/-- The parts of a goal. Each may fail at any call. An evaluation is of the goal itself. -/
structure GoalComponents (K : Domain) where
  id : GoalId
  interpret : InterpreterState → GoalInterpretationContext K →
    Except String (K.Interpretation × InterpreterState)
  evaluate : EvaluatorState → K.Interpretation → GoalEvaluationContext K →
    Except String (GoalEvaluation K.Action × EvaluatorState)
  execute : ExecutorState → GoalEvaluation K.Action → GoalExecutionContext K →
    Except String (BehaviorDecision K.Action × ExecutorState)
  own : ∀ state interpretation context evaluation next,
    evaluate state interpretation context = .ok (evaluation, next) → evaluation.goalId = id

structure GoalModule (K : Domain) where
  components : GoalComponents K
  interpreterState : InterpreterState := {}
  evaluatorState : EvaluatorState := {}
  executorState : ExecutorState := {}
  runtime : GoalRuntimeState := {}
  lastInterpretation : Option K.Interpretation := none
  lastEvaluation : Option (GoalEvaluation K.Action) := none

namespace GoalModule

def fromComponents (components : GoalComponents K) : GoalModule K := { components }

def id (goal : GoalModule K) : GoalId := goal.components.id

/-- `runtime_mut`. -/
def withRuntime (goal : GoalModule K) (change : GoalRuntimeState → GoalRuntimeState) :
    GoalModule K :=
  { goal with runtime := change goal.runtime }

def interpret (goal : GoalModule K) (context : GoalInterpretationContext K) :
    Except String K.Interpretation × GoalModule K :=
  match goal.components.interpret goal.interpreterState context with
  | .ok (interpretation, next) =>
    (.ok interpretation,
      { goal with interpreterState := next, lastInterpretation := some interpretation })
  | .error error => (.error error, goal)

def evaluate (goal : GoalModule K) (interpretation : K.Interpretation)
    (context : GoalEvaluationContext K) : Except String (GoalEvaluation K.Action) × GoalModule K :=
  match goal.components.evaluate goal.evaluatorState interpretation context with
  | .ok (evaluation, next) =>
    (.ok evaluation, { goal with evaluatorState := next, lastEvaluation := some evaluation })
  | .error error => (.error error, goal)

def execute (goal : GoalModule K) (evaluation : GoalEvaluation K.Action)
    (context : GoalExecutionContext K) :
    Except String (BehaviorDecision K.Action) × GoalModule K :=
  match goal.components.execute goal.executorState evaluation context with
  | .ok (decision, next) => (.ok decision, { goal with executorState := next })
  | .error error => (.error error, goal)

def enter (goal : GoalModule K) : GoalModule K :=
  { goal with
    runtime := { goal.runtime with
      active := true
      elapsedTimeMs := 0
      recentProgress := 0
      lastExitReason := none }
    executorState := { lastBehaviorId := none, executions := 0, committedTurnDirection := none } }

/-- A goal that is satisfied or completed forgets its attempts. -/
def exit (goal : GoalModule K) (reason : GoalExitReason) : GoalModule K :=
  let left := { goal.runtime with
    active := false
    elapsedTimeMs := 0
    lastExitReason := some reason }
  { goal with
    runtime :=
      if reason = .satisfied ∨ reason = .completed then
        { left with
          attempts := 0
          failedAttempts := 0
          recentProgress := 0
          progressTrend := 0
          lastProgressAtMs := none
          frustration := 0 }
      else left }

end GoalModule

end Netherwick.Conductor
