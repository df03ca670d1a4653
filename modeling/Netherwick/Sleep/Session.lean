import Mathlib.Data.List.Dedup
import Mathlib.Data.List.Sort
import Mathlib.Data.String.Basic

/-! # Sleep

A sleep session plans its maintenance when it starts, works the plan off phase by phase, one phase a
tick, and records what its completed work has consumed when it is closed. -/

namespace Netherwick.Sleep

def fatigueEntryThreshold : Float32 := 0.80
def fatigueRearmThreshold : Float32 := 0.65
def maxConsumedSleepInputRefs : Nat := 4096

/-- Saturating arithmetic on `u64`. -/
def saturate64 (value : Nat) : Nat := min value 0xFFFFFFFFFFFFFFFF

inductive SleepPhase
  | awake | preparing | quiescent | consolidating | training | evaluating | finalizing | waking
  | interrupted
  deriving DecidableEq, Repr

def SleepPhase.isAsleep : SleepPhase → Bool
  | .awake | .waking | .interrupted => false
  | _ => true

inductive SleepTrigger
  | highFatigue | sustainedCharging | stableDocked | idleWindow | deferredWork | episodeEnded
  | operatorRequest
  deriving DecidableEq, Repr

def SleepTrigger.debug : SleepTrigger → String
  | .highFatigue => "HighFatigue"
  | .sustainedCharging => "SustainedCharging"
  | .stableDocked => "StableDocked"
  | .idleWindow => "IdleWindow"
  | .deferredWork => "DeferredWork"
  | .episodeEnded => "EpisodeEnded"
  | .operatorRequest => "OperatorRequest"

inductive WakePriority
  | routine | social | operator | homeostasis | communication | safety
  deriving DecidableEq, Repr

/-- The place of a priority in their order. -/
def WakePriority.rank : WakePriority → Nat
  | .routine => 0
  | .social => 1
  | .operator => 2
  | .homeostasis => 3
  | .communication => 4
  | .safety => 5

inductive WakeReason
  | workPlanComplete | resourceBudgetExhausted | directOperatorCommand | importantSocialCue
  | criticalBattery | externalPowerLost | thermalLimitExceeded | bodyCommunicationLost
  | safetyEvent (event : String) | scheduledDeadline | explicitWake
  deriving DecidableEq, Repr

def WakeReason.priority : WakeReason → WakePriority
  | .safetyEvent _ | .thermalLimitExceeded => .safety
  | .bodyCommunicationLost => .communication
  | .criticalBattery | .externalPowerLost => .homeostasis
  | .directOperatorCommand | .explicitWake => .operator
  | .importantSocialCue => .social
  | .workPlanComplete | .resourceBudgetExhausted | .scheduledDeadline => .routine

inductive SleepWorkKind
  | flushDurableState | consolidateEpisodes | replayRecentFailures | trainCandidate
  | evaluateCandidate | rebuildIndexes | dryRunPruning | summarizeChanges
  deriving DecidableEq, Repr

def SleepWorkKind.debug : SleepWorkKind → String
  | .flushDurableState => "FlushDurableState"
  | .consolidateEpisodes => "ConsolidateEpisodes"
  | .replayRecentFailures => "ReplayRecentFailures"
  | .trainCandidate => "TrainCandidate"
  | .evaluateCandidate => "EvaluateCandidate"
  | .rebuildIndexes => "RebuildIndexes"
  | .dryRunPruning => "DryRunPruning"
  | .summarizeChanges => "SummarizeChanges"

inductive WorkLocality
  | «local» | acceleratorPreferred | acceleratorRequired
  deriving DecidableEq, Repr

inductive WorkCancellationPolicy
  | restartable | resumable | atomic
  deriving DecidableEq, Repr

inductive CandidatePromotionPolicy
  | evaluateOnly | recommendForShadow | requiresAttendedValidation
  deriving DecidableEq, Repr

structure SleepResourceEstimate where
  wallTimeMs : Nat := 0
  cpuTimeMs : Nat := 0
  memoryMb : Nat := 0
  diskGrowthMb : Nat := 0
  energyWh : Float32 := 0
  networkMb : Nat := 0

structure SleepResourceBudget where
  wallTimeMs : Nat := 30 * 60 * 1000
  cpuTimeMs : Nat := 10 * 60 * 1000
  memoryMb : Nat := 1024
  diskGrowthMb : Nat := 512
  energyWh : Float32 := 5
  networkMb : Nat := 256
  maxThermalFraction : Float32 := 0.80
  used : SleepResourceEstimate := {}

namespace SleepResourceBudget

def canReserve (budget : SleepResourceBudget) (estimate : SleepResourceEstimate) : Bool :=
  saturate64 (budget.used.wallTimeMs + estimate.wallTimeMs) ≤ budget.wallTimeMs &&
  saturate64 (budget.used.cpuTimeMs + estimate.cpuTimeMs) ≤ budget.cpuTimeMs &&
  Nat.max budget.used.memoryMb estimate.memoryMb ≤ budget.memoryMb &&
  saturate64 (budget.used.diskGrowthMb + estimate.diskGrowthMb) ≤ budget.diskGrowthMb &&
  budget.used.energyWh + estimate.energyWh ≤ budget.energyWh &&
  saturate64 (budget.used.networkMb + estimate.networkMb) ≤ budget.networkMb

def reserve (budget : SleepResourceBudget) (estimate : SleepResourceEstimate) :
    SleepResourceBudget :=
  { budget with
    used :=
      { wallTimeMs := saturate64 (budget.used.wallTimeMs + estimate.wallTimeMs)
        cpuTimeMs := saturate64 (budget.used.cpuTimeMs + estimate.cpuTimeMs)
        memoryMb := Nat.max budget.used.memoryMb estimate.memoryMb
        diskGrowthMb := saturate64 (budget.used.diskGrowthMb + estimate.diskGrowthMb)
        energyWh := budget.used.energyWh + estimate.energyWh
        networkMb := saturate64 (budget.used.networkMb + estimate.networkMb) } }

@[simp] theorem reserve_maxThermalFraction (budget : SleepResourceBudget)
    (estimate : SleepResourceEstimate) :
    (budget.reserve estimate).maxThermalFraction = budget.maxThermalFraction := rfl

end SleepResourceBudget

structure SleepWorkItem where
  id : String
  kind : SleepWorkKind
  inputArtifactRefs : List String
  inputSchemaVersions : List (String × Nat)
  dependencies : List String
  estimate : SleepResourceEstimate
  locality : WorkLocality
  requiresExternalPower : Bool
  cancellation : WorkCancellationPolicy
  outputContract : String
  verification : String
  promotionPolicy : CandidatePromotionPolicy

inductive SleepWorkStatus
  | pending | completed | failed | deferred | cancelled
  deriving DecidableEq, Repr

inductive ClockDomain
  | monotonic | wallClock | event | observation | recall | replay | predicted
  deriving DecidableEq, Repr

structure TypedTimestamp where
  domain : ClockDomain
  ms : Nat

structure ReplayArtifact where
  artifactId : String
  sourceEpisodeRefs : List String
  historicalTimeDomain : ClockDomain
  replayComputedAt : TypedTimestamp
  injectedIntoLiveNow : Bool

structure ConsolidationArtifact where
  artifactId : String
  sourceEpisodeRefs : List String
  semanticRelationRefs : List String
  sourceHistoryPreserved : Bool
  deterministicIndexEntries : Nat

structure CandidateArtifact where
  artifactId : String
  role : String
  interfaceVersion : Nat
  trainingDataRefs : List String
  configuration : String
  seed : Nat
  metrics : List (String × Float32)
  warnings : List String
  baselineComparison : String
  knownFailureSlices : List String
  fallbackArtifactRef : Option String
  promotionPolicy : CandidatePromotionPolicy
  promotionRecommended : Bool
  automaticallyPromoted : Bool

structure SleepWorkResult where
  workItemId : String
  kind : SleepWorkKind
  status : SleepWorkStatus := .pending
  startedAtMs : Nat
  completedAtMs : Option Nat := none
  executor : String
  outputArtifactRefs : List String := []
  summary : String := ""
  replay : Option ReplayArtifact := none
  consolidation : Option ConsolidationArtifact := none
  candidate : Option CandidateArtifact := none

structure SleepInputConsumption where
  inputRef : String
  workKind : SleepWorkKind
  deriving DecidableEq, Repr

structure EvidenceRef where
  id : String
  source : String
  key : String
  observedAtMs : Nat
  transformationLineage : List String
  implementationVersion : Option String

structure SleepSession where
  id : String
  startedAtMs : Nat
  phase : SleepPhase
  trigger : SleepTrigger
  startedOnExternalPower : Bool
  resourceBudget : SleepResourceBudget
  workPlan : List SleepWorkItem
  completed : List SleepWorkResult
  interruptedBy : Option WakeReason
  provenance : List EvidenceRef
  claimedInputRefs : List String
  claimedInputs : List SleepInputConsumption

structure SleepEligibility where
  eligible : Bool
  trigger : Option SleepTrigger
  blockingReasons : List String
  expensiveWorkAllowed : Bool

structure SleepReport where
  schemaVersion : Nat
  sessionId : String
  startedAtMs : Nat
  endedAtMs : Nat
  trigger : SleepTrigger
  wakeReason : WakeReason
  completed : List SleepWorkResult
  failed : List String
  deferred : List String
  producedArtifacts : List String
  promotedArtifact : Option String
  freshWorldModelRequired : Bool
  staleSkillResumed : Bool
  consumedInputRefs : List String
  consumedInputs : List SleepInputConsumption

structure SleepSnapshot where
  schemaVersion : Nat
  tMs : Nat
  phase : SleepPhase
  eligibility : SleepEligibility
  session : Option SleepSession
  lastReport : Option SleepReport

structure SleepTickInput where
  nowMs : Nat := 0
  fatigueActivation : Float32 := 0
  charging : Bool := false
  docked : Bool := false
  stopped : Bool := false
  directReignActive : Bool := false
  unresolvedUrgentNeed : Bool := false
  bodyCommunicationStable : Bool := false
  activeSkillInterruptible : Bool := false
  criticalBattery : Bool := false
  externalPowerLost : Bool := false
  safetyEvent : Option String := none
  importantSocialCue : Bool := false
  operatorSleepRequest : Bool := false
  operatorWakeRequest : Bool := false
  acceleratorAvailable : Bool := false
  thermalFraction : Float32 := 0
  completedEpisodeRefs : List String := []
  failedBehaviorRefs : List String := []
  semanticRelationRefs : List String := []

def hasDeferredWork (input : SleepTickInput) : Bool :=
  !input.completedEpisodeRefs.isEmpty || !input.failedBehaviorRefs.isEmpty ||
    !input.semanticRelationRefs.isEmpty

/-- Of each pair the second, where the first holds. -/
def raised {α : Type} (conditions : List (Bool × α)) : List α :=
  (conditions.filter fun condition => condition.1).map fun condition => condition.2

def sleepEligibilityWithArms (input : SleepTickInput) (operatorRequestEdge fatigueEntryArmed : Bool) :
    SleepEligibility :=
  let trigger : Option SleepTrigger :=
    if operatorRequestEdge then some .operatorRequest
    else if fatigueEntryArmed ∧ input.fatigueActivation ≥ fatigueEntryThreshold then
      some .highFatigue
    else if hasDeferredWork input ∧ input.charging then some .deferredWork
    else none
  let blockingReasons := raised
    [(!input.stopped, "body is moving"),
      (input.directReignActive, "Direct Reign is active"),
      (input.unresolvedUrgentNeed, "an urgent safety or homeostatic need is unresolved"),
      (!input.bodyCommunicationStable, "body communication is not stable"),
      (!input.activeSkillInterruptible, "the active skill cannot be safely interrupted"),
      (input.safetyEvent.isSome, "a safety event is active"),
      (decide (input.thermalFraction > 0.80), "thermal state exceeds the sleep work budget")]
  { eligible := trigger.isSome && blockingReasons.isEmpty
    trigger
    blockingReasons
    expensiveWorkAllowed :=
      input.charging && input.docked && decide (input.thermalFraction ≤ 0.80) }

def sleepEligibility (input : SleepTickInput) : SleepEligibility :=
  sleepEligibilityWithArms input input.operatorSleepRequest true

/-- `max_by_key` on the priority: of equals the last. -/
def latestOfHighest (reasons : List WakeReason) : Option WakeReason :=
  reasons.foldl
    (fun best reason => some <| best.elim reason fun best =>
      if best.priority.rank ≤ reason.priority.rank then reason else best) none

def wakeReason (input : SleepTickInput) (maxThermalFraction : Float32) : Option WakeReason :=
  latestOfHighest <|
    (input.safetyEvent.map WakeReason.safetyEvent).toList ++ raised
      [(!input.bodyCommunicationStable, .bodyCommunicationLost),
        (input.criticalBattery, .criticalBattery),
        (input.externalPowerLost, .externalPowerLost),
        (decide (input.thermalFraction > maxThermalFraction), .thermalLimitExceeded),
        (input.directReignActive || input.operatorWakeRequest, .directOperatorCommand),
        (input.importantSocialCue, .importantSocialCue)]

/-- The references of an input as the set of texts they are. -/
def sleepInputRefs (input : SleepTickInput) : List String :=
  (input.completedEpisodeRefs ++ input.failedBehaviorRefs ++
    input.semanticRelationRefs).dedup.insertionSort (· ≤ ·)

@[simp] theorem mem_sleepInputRefs {input : SleepTickInput} {inputRef : String} :
    inputRef ∈ sleepInputRefs input ↔ inputRef ∈ input.completedEpisodeRefs ∨
      inputRef ∈ input.failedBehaviorRefs ∨ inputRef ∈ input.semanticRelationRefs := by
  simp [sleepInputRefs]

def inputRefIsUsedBy (input : SleepTickInput) (inputRef : String) : SleepWorkKind → Bool
  | .consolidateEpisodes =>
    input.completedEpisodeRefs.contains inputRef || input.semanticRelationRefs.contains inputRef
  | .replayRecentFailures =>
    input.completedEpisodeRefs.contains inputRef || input.failedBehaviorRefs.contains inputRef
  | .trainCandidate => (sleepInputRefs input).contains inputRef
  | .flushDurableState | .evaluateCandidate | .rebuildIndexes | .dryRunPruning
  | .summarizeChanges => false

def sleepInputRequirements (input : SleepTickInput) : List SleepInputConsumption :=
  (sleepInputRefs input).flatMap fun inputRef =>
    ([SleepWorkKind.consolidateEpisodes, .replayRecentFailures, .trainCandidate].filter
      fun workKind => inputRefIsUsedBy input inputRef workKind).map fun workKind =>
        { inputRef, workKind }

/-- What the plan makes of each item's own values. -/
def plannedItem (sessionId : String) (input : SleepTickInput)
    (consumedInputs : List SleepInputConsumption) (part : String) (kind : SleepWorkKind)
    (dependencies : List String) (estimate : SleepResourceEstimate) (locality : WorkLocality)
    (requiresExternalPower : Bool) (outputContract : String)
    (promotionPolicy : CandidatePromotionPolicy) : SleepWorkItem :=
  { id := sessionId ++ ":" ++ part
    kind
    inputArtifactRefs := (sleepInputRefs input).filter fun inputRef =>
      inputRefIsUsedBy input inputRef kind && !consumedInputs.contains ⟨inputRef, kind⟩
    inputSchemaVersions := [("experience_frame", 1), ("world_model", 3)]
    dependencies
    estimate
    locality
    requiresExternalPower
    cancellation := .restartable
    outputContract
    verification := "stable artifact id and deterministic source refs"
    promotionPolicy }

def deterministicWorkPlan (sessionId : String) (input : SleepTickInput)
    (consumedInputs : List SleepInputConsumption) : List SleepWorkItem :=
  let item := plannedItem sessionId input consumedInputs
  let flushId := sessionId ++ ":" ++ "flush"
  let consolidateId := sessionId ++ ":" ++ "consolidate"
  let trainId := sessionId ++ ":" ++ "train"
  [item "flush" .flushDurableState []
      { wallTimeMs := 50, cpuTimeMs := 10, memoryMb := 8, diskGrowthMb := 1 }
      .local false "durability verification report" .evaluateOnly,
    item "consolidate" .consolidateEpisodes [flushId]
      { wallTimeMs := 100, cpuTimeMs := 50, memoryMb := 32, diskGrowthMb := 2 }
      .local false "provenance-carrying episode index" .evaluateOnly,
    item "replay" .replayRecentFailures [consolidateId]
      { wallTimeMs := 100, cpuTimeMs := 75, memoryMb := 32, diskGrowthMb := 1 }
      .local false "replay artifact preserving historical event time" .evaluateOnly,
    item "train" .trainCandidate [consolidateId]
      { wallTimeMs := 2000, cpuTimeMs := 1000, memoryMb := 256, diskGrowthMb := 16,
        energyWh := 0.1, networkMb := 1 }
      .acceleratorPreferred true "versioned candidate artifact" .evaluateOnly,
    item "evaluate" .evaluateCandidate [trainId]
      { wallTimeMs := 500, cpuTimeMs := 250, memoryMb := 64, diskGrowthMb := 2 }
      .local true "fixed-seed evaluation and promotion recommendation" .recommendForShadow]

end Netherwick.Sleep
