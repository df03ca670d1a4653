import Netherwick.Skills.Operations

/-! # The runtime of Lua skills

A script asks for operations through the bridge; the runtime gives organs to operations, polls
the driver of the organs and tells the slots of operations how they ended. A poll of the script
is whatever it does to the bridge and how the poll ends. -/

namespace Netherwick.Skills

structure OperationRequest where
  id : Nat
  childId : Nat
  operation : HostOperation
  requestedAtMs : Nat
  timeoutMs : Nat
  deriving DecidableEq, Repr

/-- What happens to operations, in order. A stop of an organ is written with the operation that
held it, the end of an operation with the result in its slot. -/
inductive Happening
  | enqueued (id : Nat)
  | granted (id : Nat) (resource : BodyResource)
  | polled (id : Nat) (operation : HostOperation)
  | stopped (id : Nat) (resource : BodyResource)
  | finished (id : Nat) (failure : Option SkillFailure)
  deriving DecidableEq, Repr

structure Bridge where
  nextOperation : Nat
  requests : List OperationRequest
  cancelledChildren : List (List Nat × SkillFailure)
  nextChild : Nat
  childParent : Nat → Option (Nat × Nat)
  childHazard : Nat → Option HazardKind
  snapshot : Option Now
  log : List Happening

/-- `PRIMITIVE_TTL_MS`. -/
def primitiveTtlMs : Nat := 250

namespace Bridge

/-- `Bridge::default`. -/
def initial : Bridge where
  nextOperation := 1
  requests := []
  cancelledChildren := []
  nextChild := 1
  childParent := fun _ => none
  childHazard := fun _ => none
  snapshot := none
  log := []

/-- The child is the one whose thread runs. -/
def enqueue (bridge : Bridge) (child : Nat) (operation : HostOperation)
    (maximumOperationMs : Nat) : Bridge :=
  let id := bridge.nextOperation
  match validateOperationContext (bridge.childHazard child) bridge.snapshot operation with
  | .error failure =>
    { bridge with
      nextOperation := id + 1
      log := bridge.log ++ [.enqueued id, .finished id (some (failure.forOperation operation))] }
  | .ok _ =>
    { bridge with
      nextOperation := id + 1
      requests := bridge.requests ++ [{
        id
        childId := child
        operation
        requestedAtMs := (bridge.snapshot.map (·.tMs)).getD 0
        timeoutMs := min operation.defaultTimeoutMs (max maximumOperationMs primitiveTtlMs) }]
      log := bridge.log ++ [.enqueued id] }

/-- The identities that `allocate_children` gives out. -/
def childIds (bridge : Bridge) (count : Nat) : List Nat :=
  List.range' bridge.nextChild count

def allocateChildren (bridge : Bridge) (parent count : Nat) : Bridge :=
  { bridge with
    nextChild := bridge.nextChild + count
    childParent := fun child =>
      if bridge.nextChild ≤ child ∧ child < bridge.nextChild + count then
        some (parent, child - bridge.nextChild)
      else bridge.childParent child }

def cancelChildren (bridge : Bridge) (children : List Nat) (failure : SkillFailure) : Bridge :=
  { bridge with cancelledChildren := bridge.cancelledChildren ++ [(children, failure)] }

def finishChildren (bridge : Bridge) (children : List Nat) : Bridge :=
  { bridge with
    childParent := fun child => if child ∈ children then none else bridge.childParent child
    childHazard := fun child => if child ∈ children then none else bridge.childHazard child }

/-- A careful scope is entered for the child, or left. -/
def setHazard (bridge : Bridge) (child : Nat) (hazard : Option HazardKind) : Bridge :=
  { bridge with
    childHazard := fun other => if other = child then hazard else bridge.childHazard other }

end Bridge

inductive BridgeAction
  | enqueue (child : Nat) (operation : HostOperation)
  | allocateChildren (parent count : Nat)
  | cancelChildren (children : List Nat) (failure : SkillFailure)
  | finishChildren (children : List Nat)
  | setHazard (child : Nat) (hazard : Option HazardKind)

def Bridge.perform (maximumOperationMs : Nat) (bridge : Bridge) : BridgeAction → Bridge
  | .enqueue child operation => bridge.enqueue child operation maximumOperationMs
  | .allocateChildren parent count => bridge.allocateChildren parent count
  | .cancelChildren children failure => bridge.cancelChildren children failure
  | .finishChildren children => bridge.finishChildren children
  | .setHazard child hazard => bridge.setHazard child hazard

structure ActiveOperation where
  request : OperationRequest
  grantedAtMs : Nat
  deriving DecidableEq, Repr

inductive SkillPhase
  | requested | running | terminal
  deriving DecidableEq, Repr

structure SkillStatus where
  phase : SkillPhase
  outcome : Option SkillOutcome
  reason : Option String
  updatedAtMs : Nat
  deriving DecidableEq, Repr

structure Invocation where
  bridge : Bridge
  startedAtMs : Nat
  maximumDurationMs : Nat
  active : List ActiveOperation
  owners : BodyResource → Option Nat
  waiters : BodyResource → List OperationRequest
  result : Option (Except SkillFailure Unit)
  status : SkillStatus

/-- An answer of the organ driver. A driver that panics is taken to have failed. -/
inductive OrganPoll
  | pending | completed
  | failed (failure : SkillFailure)
  | panicked

namespace Invocation

/-- `start`: a new invocation that has not been stepped. -/
def start (now : Now) (maximumDurationMs : Nat) : Invocation where
  bridge := { Bridge.initial with snapshot := some now }
  startedAtMs := now.tMs
  maximumDurationMs
  active := []
  owners := fun _ => none
  waiters := fun _ => []
  result := none
  status := ⟨.requested, none, none, now.tMs⟩

def requests (invocation : Invocation) : List OperationRequest := invocation.bridge.requests

def log (invocation : Invocation) : List Happening := invocation.bridge.log

/-- What happened is written down. -/
def note (invocation : Invocation) (happenings : List Happening) : Invocation :=
  { invocation with bridge := { invocation.bridge with log := invocation.log ++ happenings } }

def setOwner (invocation : Invocation) (resource : BodyResource) (owner : Option Nat) :
    Invocation :=
  { invocation with
    owners := fun other => if other = resource then owner else invocation.owners other }

def setWaiters (invocation : Invocation) (resource : BodyResource)
    (waiters : List OperationRequest) : Invocation :=
  { invocation with
    waiters := fun other => if other = resource then waiters else invocation.waiters other }

def removeActive (invocation : Invocation) (id : Nat) : Invocation :=
  { invocation with active := invocation.active.filter fun active => active.request.id ≠ id }

/-- `None` stands for a completed operation. -/
def finishOperation (invocation : Invocation) (id : Nat) (failure : Option SkillFailure) :
    Invocation :=
  match invocation.active.find? fun active => active.request.id = id with
  | none => invocation
  | some active =>
    let invocation := invocation.removeActive id
    match active.request.operation.resource with
    | some resource =>
      (invocation.setOwner resource none).note
        (if failure.isSome then [.stopped id resource, .finished id failure]
        else [.finished id failure])
    | none => invocation.note [.finished id failure]

def keepWaiting (invocation : Invocation) (keeps : OperationRequest → Bool) : Invocation :=
  { invocation with waiters := fun resource => (invocation.waiters resource).filter keeps }

def dropWaiting (invocation : Invocation) (drops : OperationRequest → Bool)
    (failure : OperationRequest → SkillFailure) : Invocation :=
  let dropped : List OperationRequest := BodyResource.all.flatMap fun resource =>
    (invocation.waiters resource).filter drops
  (invocation.keepWaiting fun request => !drops request).note (dropped.map fun request => .finished request.id (some (failure request)))

def dropRequests (invocation : Invocation) (failure : SkillFailure) : Invocation :=
  let emptied : Invocation :=
    { invocation with bridge := { invocation.bridge with requests := [] } }
  emptied.note (invocation.requests.map fun request => .finished request.id (some failure))

def cancelInvocation (invocation : Invocation) (failure : SkillFailure) : Invocation :=
  if invocation.result.isSome then invocation
  else
    let ids := invocation.active.map fun active => active.request.id
    let invocation := ids.foldl (fun invocation id => invocation.finishOperation id (some failure))
      invocation
    let invocation := (invocation.dropWaiting (fun _ => true) fun _ => failure).dropRequests failure
    { invocation with result := some (.error failure) }

def serviceCancellation (invocation : Invocation) (children : List Nat) (failure : SkillFailure) :
    Invocation :=
  let cancelled := invocation.active.filter fun active => active.request.childId ∈ children
  let invocation := (cancelled.map fun active => active.request.id).foldl
    (fun invocation id => invocation.finishOperation id (some failure)) invocation
  invocation.dropWaiting (fun request => request.childId ∈ children) fun _ => failure

def serviceChildCancellations (invocation : Invocation) : Invocation :=
  invocation.bridge.cancelledChildren.foldl
    (fun invocation cancellation => invocation.serviceCancellation cancellation.1 cancellation.2)
    { invocation with bridge := { invocation.bridge with cancelledChildren := [] } }

def expireResourceWaits (invocation : Invocation) (nowMs : Nat) : Invocation :=
  invocation.dropWaiting
    (fun request => request.timeoutMs ≤ nowMs - request.requestedAtMs)
    fun request => SkillFailure.forOperation {
      outcome := .timedOut
      kind := "resource_wait_timed_out"
      message := "timed out waiting for " ++
        (request.operation.resource.getD .locomotion).debug } request.operation

/-- How one active operation comes out of a step, if it ends there, and whether the driver was
polled for it. -/
def serviced (nowMs maximumOperationMs : Nat) (driver : Nat → OrganPoll)
    (active : ActiveOperation) : Bool × Option (Option SkillFailure) :=
  let timeoutMs := min active.request.timeoutMs maximumOperationMs
  if timeoutMs ≤ nowMs - active.grantedAtMs then
    (false, some (some (SkillFailure.forOperation {
      outcome := .timedOut
      kind := "operation_timed_out"
      message := active.request.operation.name ++ " exceeded " ++ toString timeoutMs ++ " ms" }
      active.request.operation)))
  else (true, match driver active.request.id with
    | .pending => none
    | .completed => some none
    | .failed failure => some (some failure)
    | .panicked => some (some (SkillFailure.forOperation {
        outcome := .scriptError
        kind := "organ_driver_panic"
        message := "bodily operation driver panicked" } active.request.operation)))

def serviceActiveOperations (invocation : Invocation) (nowMs maximumOperationMs : Nat)
    (driver : Nat → OrganPoll) : Invocation :=
  let polled := invocation.active.filter fun active =>
    (serviced nowMs maximumOperationMs driver active).1
  let finished := invocation.active.filterMap fun active =>
    (serviced nowMs maximumOperationMs driver active).2.map fun failure =>
      (active.request.id, failure)
  finished.foldl (fun invocation ended => invocation.finishOperation ended.1 ended.2)
    (invocation.note (polled.map fun active => .polled active.request.id active.request.operation))

def acquire (invocation : Invocation) (request : OperationRequest) (resource : BodyResource)
    (nowMs : Nat) : Invocation :=
  let owned := invocation.setOwner resource (some request.id)
  let active : List ActiveOperation := owned.active ++ [⟨request, nowMs⟩]
  { owned with active }.note [.granted request.id resource]

def grantWaitingOperation (nowMs : Nat) (invocation : Invocation) (resource : BodyResource) :
    Invocation :=
  match invocation.owners resource, invocation.waiters resource with
  | none, request :: rest => (invocation.setWaiters resource rest).acquire request resource nowMs
  | _, _ => invocation

def grantWaitingOperations (invocation : Invocation) (nowMs : Nat) : Invocation :=
  BodyResource.all.foldl (grantWaitingOperation nowMs) invocation

/-- Does an operation of the child hold something or wait for an organ? -/
def awaits (invocation : Invocation) (child : Nat) : Bool :=
  invocation.active.any (fun active => active.request.childId = child) ||
    BodyResource.all.any fun resource =>
      (invocation.waiters resource).any fun request => request.childId = child

def drainRequest (nowMs : Nat) (invocation : Invocation) (request : OperationRequest) :
    Invocation :=
  match request.operation.resource with
  | some resource =>
    if invocation.awaits request.childId then
      invocation.note [.finished request.id (some (SkillFailure.forOperation {
        outcome := .failed
        kind := "multiple_exclusive_resources"
        message := "a child cannot await a second exclusive organ" } request.operation))]
    else if (invocation.owners resource).isSome then
      invocation.setWaiters resource (invocation.waiters resource ++ [request])
    else invocation.acquire request resource nowMs
  | none => { invocation with active := invocation.active ++ [⟨request, nowMs⟩] }

def drainNewRequests (invocation : Invocation) (nowMs : Nat) : Invocation :=
  invocation.requests.foldl (drainRequest nowMs)
    { invocation with bridge := { invocation.bridge with requests := [] } }

def finishStatus (invocation : Invocation) (nowMs : Nat) : Invocation :=
  if invocation.status.phase = .terminal then invocation
  else
    match invocation.result with
    | none => invocation
    | some (.ok _) => { invocation with status := ⟨.terminal, some .completed, none, nowMs⟩ }
    | some (.error failure) =>
      { invocation with
        status := ⟨.terminal, some failure.outcome, some failure.message, nowMs⟩ }

end Invocation

def externalPreemption : List Cockpit.CockpitEventKind → Option SkillFailure
  | [] => none
  | .contactWithdrawalStarted :: _ => some {
      outcome := .safetyPreempted
      kind := "contact_withdrawal"
      message := "Brainstem contact-withdrawal reflex preempted the operation" }
  | .safetyTripped :: _ | .eStopLatched :: _ => some {
      outcome := .safetyPreempted
      kind := "brainstem_safety"
      message := "Brainstem safety preempted the operation" }
  | .sessionReplaced :: _ | .authorityChanged :: _ => some {
      outcome := .authorityLost
      kind := "authority_lost"
      message := "possession authority changed while the skill was active" }
  | .sessionClosed :: _ | .peerRebootDetected :: _ | .heartbeatExpired :: _ => some {
      outcome := .transportLost
      kind := "transport_lost"
      message := "body transport or supervised heartbeat was lost" }
  | _ :: rest => externalPreemption rest

/-- How a poll of the script ends. A result that the script returns may not be convertible. -/
inductive PollEnding
  | panicked
  | overBudget
  | returned (conversion : Except String Unit)
  | failed (failure : SkillFailure)
  | pending

structure ScriptPoll where
  actions : List BridgeAction
  ending : PollEnding

structure LuaSkillConfig where
  maximumOperationMs : Nat
  activationBudgetMs : Nat

/-- What a step is given: the time and body, the events, the driver and the script. -/
structure StepInput where
  now : Now
  events : List Cockpit.CockpitEventKind
  driver : Nat → OrganPoll
  poll : ScriptPoll

namespace Invocation

/-- The step begins, and the skill may have run out of time or been preempted. -/
def preempted (invocation : Invocation) (input : StepInput) : Invocation :=
  let invocation :=
    { invocation with
      bridge := { invocation.bridge with snapshot := some input.now }
      status :=
        { invocation.status with phase := .running, updatedAtMs := input.now.tMs } }
  let invocation :=
    if 0 < invocation.maximumDurationMs ∧
        invocation.maximumDurationMs ≤ input.now.tMs - invocation.startedAtMs then
      invocation.cancelInvocation {
        outcome := .timedOut
        kind := "skill_timed_out"
        message := "foreground skill exceeded its bounded duration" }
    else invocation
  match externalPreemption input.events with
  | some failure => invocation.cancelInvocation failure
  | none => invocation

/-- What `step` does before it polls the script. -/
def prepared (invocation : Invocation) (config : LuaSkillConfig) (input : StepInput) :
    Invocation :=
  let invocation := (invocation.preempted input).serviceChildCancellations
  let invocation := invocation.expireResourceWaits input.now.tMs
  let invocation := invocation.serviceActiveOperations input.now.tMs config.maximumOperationMs
    input.driver
  invocation.grantWaitingOperations input.now.tMs

/-- The script has been resumed. -/
def scripted (invocation : Invocation) (config : LuaSkillConfig) (actions : List BridgeAction) :
    Invocation :=
  { invocation with
    bridge := actions.foldl (Bridge.perform config.maximumOperationMs) invocation.bridge }

def resultConversion (error : String) : SkillFailure where
  outcome := .scriptError
  kind := "result_conversion"
  message := error

def concluded (invocation : Invocation) (config : LuaSkillConfig) : PollEnding → Invocation
  | .panicked => invocation.cancelInvocation {
      outcome := .scriptError
      kind := "lua_vm_panic"
      message := "embedded Lua VM panicked during activation" }
  | .overBudget => invocation.cancelInvocation {
      outcome := .budgetExceeded
      kind := "wall_clock_budget_exceeded"
      message := "Lua activation exceeded " ++ toString config.activationBudgetMs ++ " ms" }
  | .returned conversion =>
    { invocation with
      result := some (conversion.mapError resultConversion) }
  | .failed failure => invocation.cancelInvocation failure
  | .pending => invocation

def polled (invocation : Invocation) (config : LuaSkillConfig) (poll : ScriptPoll) : Invocation :=
  if invocation.result.isSome then invocation
  else (invocation.scripted config poll.actions).concluded config poll.ending

def step (invocation : Invocation) (config : LuaSkillConfig) (input : StepInput) : Invocation :=
  let invocation := (invocation.prepared config input).polled config input.poll
  let invocation := (invocation.drainNewRequests input.now.tMs).grantWaitingOperations
    input.now.tMs
  invocation.finishStatus input.now.tMs

def cancel (invocation : Invocation) (failure : SkillFailure) (nowMs : Nat) : Invocation :=
  (invocation.cancelInvocation failure).finishStatus nowMs

end Invocation

end Netherwick.Skills
