import Netherwick.HigherBrain.Common
import Netherwick.Lib.Prog

/-! # The consolidation coordinator

A docked robot hands its experience to a forebrain and takes candidates back, one phase at a
time. The cycle is kept in memory and in one file; every call changes the cycle in memory first
and writes the file afterwards. -/

namespace Netherwick.HigherBrain

open Netherwick.Lib

structure DockReadiness where
  createStopped : Bool
  docked : Bool
  charging : Bool
  motionAuthorityActive : Bool
  deriving DecidableEq, Repr

structure PowerReadiness where
  externalPowerPresent : Bool
  suitableForTraining : Bool
  deriving DecidableEq, Repr

structure ConsolidationPowerAssessment where
  externalPowerPresent : Option Bool
  createStopped : Option Bool
  createDocked : Option Bool
  createCharging : Option Bool
  motionAuthorityActive : Option Bool
  consolidationReady : Bool
  action : String
  reasons : List String
  deriving DecidableEq, Repr

inductive ConsolidationPhase
  | checkpointExperience | discoverForebrain | transferBundles | submitJobs | awaitJobs
  | returnCandidates | stageCandidates | awaitActivation | activate | complete
  deriving DecidableEq, Repr

/-- The phases in the order in which they are declared. -/
def ConsolidationPhase.next? : ConsolidationPhase → Option ConsolidationPhase
  | checkpointExperience => some discoverForebrain
  | discoverForebrain => some transferBundles
  | transferBundles => some submitJobs
  | submitJobs => some awaitJobs
  | awaitJobs => some returnCandidates
  | returnCandidates => some stageCandidates
  | stageCandidates => some awaitActivation
  | awaitActivation => some activate
  | activate => some complete
  | complete => none

structure ConsolidationEvent where
  atTime : Nat
  phase : ConsolidationPhase
  detail : String
  deriving DecidableEq, Repr

structure ConsolidationCycle where
  schemaVersion : Nat
  cycleId : List Char
  phase : ConsolidationPhase
  selectedForebrainId : Option (List Char)
  bundleIds : List (List Char)
  jobIds : List (List Char)
  candidateIds : List (List Char)
  retryCount : Nat
  lastError : Option String
  activationRequested : Bool
  powerAssessment : Option ConsolidationPowerAssessment
  events : List ConsolidationEvent
  deriving DecidableEq, Repr

/-- An error, alone and with its causes. -/
structure Failure where
  message : String
  chain : String

def Failure.plain (message : String) : Failure := ⟨message, message⟩

/-- What the backend answers during one call. -/
structure ConsolidationBackend where
  checkpointEpoch : Except Failure (List (List Char))
  discoverAuthorizedForebrain : Except Failure (List Char)
  transferBundles : List Char → List (List Char) → Except Failure Unit
  submitJobs : List Char → List (List Char) → Except Failure (List (List Char))
  jobsComplete : List Char → List (List Char) → Except Failure Bool
  returnCandidates : List Char → List (List Char) → Except Failure (List (List Char))
  stageCandidates : List (List Char) → Except Failure Unit
  activateCandidates : List (List Char) → Except Failure Unit

inductive BackendCall
  | checkpointEpoch
  | discoverAuthorizedForebrain
  | transferBundles (forebrainId : List Char) (bundleIds : List (List Char))
  | submitJobs (forebrainId : List Char) (bundleIds : List (List Char))
  | jobsComplete (forebrainId : List Char) (jobIds : List (List Char))
  | returnCandidates (forebrainId : List Char) (jobIds : List (List Char))
  | stageCandidates (candidateIds : List (List Char))
  | activateCandidates (candidateIds : List (List Char))
  deriving DecidableEq, Repr

/-- The coordinator, its state file and the calls it made of the backend. -/
structure Coordinator where
  cycle : Option ConsolidationCycle
  saved : Option ConsolidationCycle
  calls : List BackendCall

abbrev CoordinatorCall (α : Type) : Type := Prog Coordinator String α

namespace Coordinator

def setCycle (cycle : ConsolidationCycle) : CoordinatorCall Unit :=
  Prog.act fun coordinator => { coordinator with cycle := some cycle }

/-- The cycle in memory replaces the one in the state file. -/
def persist (write : WriteResult) : CoordinatorCall Unit := do
  let coordinator ← Prog.get
  match coordinator.cycle with
  | none => Prog.fail "no cycle state"
  | some cycle =>
    Prog.act fun coordinator =>
      { coordinator with saved := (write.record cycle).orElse fun _ => coordinator.saved }
    Prog.check write.answer

/-- What `start` asks for before it begins a cycle. -/
def startChecks (dock : DockReadiness) (power : PowerReadiness) (principal : Principal)
    (cycle : Option ConsolidationCycle) : Except String Unit := do
  principal.require .discover
  principal.require .transferExperience
  principal.require .submitJob
  principal.require .stageCandidate
  if ¬ dock.createStopped then .error "consolidation refused: Create is moving"
  else if ¬ dock.docked then .error "consolidation refused: Create is not docked"
  else if ¬ dock.charging then .error "consolidation refused: Create is not charging"
  else if dock.motionAuthorityActive then
    .error "consolidation refused: motion authority is active"
  else if ¬ power.externalPowerPresent ∨ ¬ power.suitableForTraining then
    .error "consolidation refused: external/UPS power is unsuitable"
  else if cycle.any fun cycle => cycle.phase ≠ .complete then
    .error "a consolidation cycle is already pending"
  else .ok ()

def newCycle (now : Nat) (cycleId : List Char) : ConsolidationCycle where
  schemaVersion := 1
  cycleId
  phase := .checkpointExperience
  selectedForebrainId := none
  bundleIds := []
  jobIds := []
  candidateIds := []
  retryCount := 0
  lastError := none
  activationRequested := false
  powerAssessment := none
  events := [⟨now, .checkpointExperience, "docked charging preconditions accepted"⟩]

def start (now : Nat) (cycleId : List Char) (dock : DockReadiness) (power : PowerReadiness)
    (principal : Principal) (write : WriteResult) : CoordinatorCall Unit := do
  let coordinator ← Prog.get
  Prog.check (startChecks dock power principal coordinator.cycle)
  setCycle (newCycle now cycleId)
  persist write

def assessedDock (assessment : ConsolidationPowerAssessment) : DockReadiness where
  createStopped := assessment.createStopped = some true
  docked := assessment.createDocked = some true
  charging := assessment.createCharging = some true
  motionAuthorityActive := assessment.motionAuthorityActive ≠ some false

def assessedPower (assessment : ConsolidationPowerAssessment) : PowerReadiness where
  externalPowerPresent := assessment.externalPowerPresent = some true
  suitableForTraining := assessment.consolidationReady

def startWithPowerAssessment (now later : Nat) (cycleId : List Char)
    (assessment : ConsolidationPowerAssessment) (principal : Principal)
    (write rewrite : WriteResult) : CoordinatorCall Unit := do
  if ¬ assessment.consolidationReady then
    Prog.fail ("consolidation refused by power evidence: " ++
      String.intercalate "; " assessment.reasons)
  else
    start now cycleId (assessedDock assessment) (assessedPower assessment) principal write
    Prog.act fun coordinator =>
      { coordinator with
        cycle := coordinator.cycle.map fun cycle =>
          { cycle with
            powerAssessment := some assessment
            events := cycle.events ++
              [⟨later, cycle.phase, "fresh independent X1202/Create evidence accepted"⟩] } }
    persist rewrite

def forebrain (cycle : ConsolidationCycle) : Except Failure (List Char) :=
  match cycle.selectedForebrainId with
  | some id => .ok id
  | none => .error (.plain "no forebrain selected")

/-- One attempt at the current phase: the backend call that is made, if any, the cycle after it
and the phase that follows. -/
def attempt (backend : ConsolidationBackend) (cycle : ConsolidationCycle) :
    Option BackendCall × ConsolidationCycle × Except Failure (Option ConsolidationPhase) :=
  match cycle.phase with
  | .checkpointExperience =>
    (some .checkpointEpoch, match backend.checkpointEpoch with
      | .error error => (cycle, .error error)
      | .ok bundleIds =>
        ({ cycle with bundleIds }, if bundleIds = [] then
          .error (.plain "checkpoint produced no complete bundles")
        else .ok (some .discoverForebrain)))
  | .discoverForebrain =>
    (some .discoverAuthorizedForebrain, match backend.discoverAuthorizedForebrain with
      | .error error => (cycle, .error error)
      | .ok id => ({ cycle with selectedForebrainId := some id }, .ok (some .transferBundles)))
  | .transferBundles =>
    match forebrain cycle with
    | .error error => (none, cycle, .error error)
    | .ok id =>
      (some (.transferBundles id cycle.bundleIds), cycle,
        (backend.transferBundles id cycle.bundleIds).map fun _ => some .submitJobs)
  | .submitJobs =>
    match forebrain cycle with
    | .error error => (none, cycle, .error error)
    | .ok id =>
      (some (.submitJobs id cycle.bundleIds), match backend.submitJobs id cycle.bundleIds with
        | .error error => (cycle, .error error)
        | .ok jobIds => ({ cycle with jobIds }, .ok (some .awaitJobs)))
  | .awaitJobs =>
    match forebrain cycle with
    | .error error => (none, cycle, .error error)
    | .ok id =>
      (some (.jobsComplete id cycle.jobIds), cycle,
        (backend.jobsComplete id cycle.jobIds).map fun done =>
          if done then some .returnCandidates else none)
  | .returnCandidates =>
    match forebrain cycle with
    | .error error => (none, cycle, .error error)
    | .ok id =>
      (some (.returnCandidates id cycle.jobIds),
        match backend.returnCandidates id cycle.jobIds with
        | .error error => (cycle, .error error)
        | .ok candidateIds => ({ cycle with candidateIds }, .ok (some .stageCandidates)))
  | .stageCandidates =>
    (some (.stageCandidates cycle.candidateIds), cycle,
      (backend.stageCandidates cycle.candidateIds).map fun _ => some .awaitActivation)
  | .awaitActivation =>
    (none, cycle, .ok (if cycle.activationRequested then some .activate else none))
  | .activate =>
    (some (.activateCandidates cycle.candidateIds), cycle,
      (backend.activateCandidates cycle.candidateIds).map fun _ => some .complete)
  | .complete => (none, cycle, .ok none)

/-- `retry_count` is a `u32`. -/
def maxRetryCount : Nat := 4294967295

def concluded (now : Nat) (cycle : ConsolidationCycle) :
    Except Failure (Option ConsolidationPhase) → ConsolidationCycle
  | .ok none => { cycle with lastError := none }
  | .ok (some next) =>
    { cycle with
      lastError := none
      phase := next
      events := cycle.events ++ [⟨now, next, "phase completed"⟩] }
  | .error error =>
    { cycle with
      retryCount := min (cycle.retryCount + 1) maxRetryCount
      lastError := some error.message
      events := cycle.events ++ [⟨now, cycle.phase, "retryable failure: " ++ error.chain⟩] }

def tick (now : Nat) (backend : ConsolidationBackend) (write : WriteResult) :
    CoordinatorCall ConsolidationPhase := do
  let coordinator ← Prog.get
  match coordinator.cycle with
  | none => Prog.fail "no consolidation cycle"
  | some cycle =>
    let (call, cycle, result) := attempt backend cycle
    Prog.act fun coordinator =>
      { coordinator with calls := coordinator.calls ++ call.toList }
    setCycle (concluded now cycle result)
    persist write
    return (concluded now cycle result).phase

/-- A cycle that waits for power says so once. -/
def paused (now : Nat) (assessment : ConsolidationPowerAssessment) (cycle : ConsolidationCycle) :
    ConsolidationCycle :=
  let detail := "consolidation paused: " ++ assessment.action ++ " (" ++
    String.intercalate "; " assessment.reasons ++ ")"
  { cycle with
    powerAssessment := some assessment
    lastError := some detail
    events :=
      if cycle.events.getLast?.all fun event => event.detail ≠ detail then
        cycle.events ++ [⟨now, cycle.phase, detail⟩]
      else cycle.events }

def tickWithPowerAssessment (now later : Nat) (assessment : ConsolidationPowerAssessment)
    (backend : ConsolidationBackend) (write rewrite : WriteResult) :
    CoordinatorCall ConsolidationPhase := do
  let coordinator ← Prog.get
  match coordinator.cycle with
  | none => Prog.fail "no consolidation cycle"
  | some cycle =>
    if ¬ assessment.consolidationReady then
      setCycle (paused now assessment cycle)
      persist write
      return cycle.phase
    else
      setCycle { cycle with powerAssessment := some assessment }
      persist write
      tick later backend rewrite

def approveActivation (principal : Principal) (write : WriteResult) : CoordinatorCall Unit := do
  Prog.check (principal.require .activateCandidate)
  let coordinator ← Prog.get
  match coordinator.cycle with
  | none => Prog.fail "no consolidation cycle"
  | some cycle =>
    if cycle.phase ≠ .awaitActivation then
      Prog.fail "cycle is not awaiting activation approval"
    else
      setCycle { cycle with activationRequested := true }
      persist write

/-- `open`: a new coordinator goes on with the cycle of the state file. -/
def reopened (coordinator : Coordinator) : Coordinator :=
  { coordinator with cycle := coordinator.saved }

end Coordinator

end Netherwick.HigherBrain
