import Netherwick.Brainstem.Runtime.Execution

/-! # From the mailbox to the command queue -/

namespace Netherwick.Brainstem

open Netherwick.Lib

namespace World

section Dispatch

variable (w : World)

/-- Is the velocity that would be taken next one that was recorded as a renewal? -/
def takesRenewal : Bool :=
  w.st.mailbox.commandKind = .none && w.st.mailbox.velocityIsRenewal

def takeControl : World :=
  if w.st.mailbox.isEmpty then w
  else
    let st := w.st.takeControlCommand.2
    { w with
      dev := { w.dev with st }
      rt := { w.rt with dispatching := some (st.dispatched.commandId, w.takesRenewal) } }

def releaseDispatched : World := w.onRuntime fun rt => { rt with dispatching := none }

/-- The id in hand, seen by the trace when it is given a life although it was a renewal, or when
it was already disposed of. -/
def traceDispatched (commandId : UInt32) : World :=
  match w.rt.dispatching with
  | some (_, false) => w
  | some (id, true) => w.observe (.revived id)
  | none => w.observe (.requeued commandId)

def queueDispatchedFront (queued : QueuedCommand) : World :=
  ((w.traceDispatched queued.commandId).pushFront queued).releaseDispatched

def queueDispatchedBack (queued : QueuedCommand) : World :=
  ((w.traceDispatched queued.commandId).pushBack queued).releaseDispatched

def interruptDispatched (commandId : UInt32) : World :=
  ((w.traceDispatched commandId).onStatus (·.markCommandInterrupted commandId)).releaseDispatched

/-- The id in hand is dropped; only a renewal has its record already. -/
def dropDispatched (trace : UInt32 → Obs) : World :=
  (match w.rt.dispatching with
    | some (id, false) => w.observe (trace id)
    | _ => w).releaseDispatched

end Dispatch

/-- A newer command takes the place of the queued ones like it, which are interrupted. -/
def purgeQueued (like : QueuedCommand → Bool) (spared : UInt32 → Bool) (w : World) : World :=
  let purged := w.rt.commands.items.filter like
  (w.onRuntime fun rt =>
      { rt with commands := rt.commands.rotate (fun q => !like q) rt.commands.length }).onStatus
    fun st => purged.foldl (fun st q =>
      if spared q.commandId then st.observe (.swallowed q.commandId)
      else st.markCommandInterrupted q.commandId) st

def isQueuedCmdVel (q : QueuedCommand) : Bool := q.command matches .cmdVel ..

def isQueuedEscapeMotion (q : QueuedCommand) : Bool := q.command matches .escapeMotion ..

/-- A drive with the same velocities goes on under a new deadline, with no motor write. -/
def renewDriving (durationMs : UInt32) (w : World) : World :=
  (w.observe (.driveRenewed w.nowMs (w.nowMs + durationMs) w.rt.safetyLatchKind)).setActive
    (.driving (w.nowMs + durationMs))

/-- `enqueue_latest_velocity`, for a velocity that has a duration. -/
def enqueueLatestVelocity (commandId : UInt32) (linear angular : Int16) (durationMs : UInt32)
    (w : World) : World :=
  let queued : QueuedCommand := ⟨commandId, .cmdVel linear angular (some durationMs), false⟩
  let w := w.purgeQueued isQueuedCmdVel (· = commandId)
  if w.rt.active.isDriving && w.rt.activeVelocity = some ⟨linear, angular⟩ then
    (w.renewDriving durationMs).dropDispatched .swallowed
  else if w.rt.active.isDriving then
    (w.interruptActiveCommand.setActive .none).queueDispatchedFront queued
  else w.queueDispatchedBack queued

/-- An idle or failed runtime runs again for a new command. -/
def resume (w : World) : World :=
  if w.rt.mode = .idle ∨ w.rt.mode = .error then
    (w.onRuntime fun rt => { rt with mode := .running }).onStatus fun st =>
      { st with runtimeState := .running }
  else w

def setRunning (w : World) : World := w.onRuntime fun rt => { rt with mode := .running }

def clearHeartbeat (w : World) : World := w.onRuntime fun rt => { rt with heartbeatStopAtMs := none }

section MotherbrainReset

def replayMotherbrainResetOutcome (record : MotherbrainResetRecord) (w : World) : World :=
  let identity := record.identity
  w.onStatus fun st => match record.outcome with
    | .refused reason =>
      st.recordPublicEvent .motherbrainResetRefused reason.code identity.sessionHash
        identity.leaseHash
    | .asserted =>
      st.recordPublicEvent .motherbrainResetAsserted identity.commandId identity.sessionHash
        identity.leaseHash
    | .completed =>
      st.recordPublicEvent .motherbrainResetCompleted identity.commandId identity.sessionHash
        identity.leaseHash

/-- Overwrite the record of the same identity, or else the oldest slot. -/
def rememberMotherbrainReset (record : MotherbrainResetRecord) (w : World) : World :=
  w.onRuntime fun rt =>
    match rt.motherbrainResetHistory.toList.findIdx?
        (·.any fun existing => existing.identity = record.identity) with
    | some index =>
      { rt with motherbrainResetHistory :=
          rt.motherbrainResetHistory.setIfInBounds index (some record) }
    | none =>
      { rt with
        motherbrainResetHistory :=
          rt.motherbrainResetHistory.setIfInBounds rt.motherbrainResetHistoryNext (some record)
        motherbrainResetHistoryNext := rt.motherbrainResetHistoryNext + 1 }

def motherbrainResetRefusal (identity : MotherbrainResetIdentity) (w : World) :
    Option MotherbrainResetRefusal :=
  if identity.commandId = 0 then some .invalidCommandId
  else if !w.rt.motherbrainResetHardwareEnabled then some .hardwareDisabled
  else if !w.st.activeServiceAuthorityMatches identity.sessionHash identity.leaseHash w.nowMs
      motherbrainResetServiceScope then some .invalidServiceAuthority
  else if w.rt.activeMotherbrainReset.isSome
      || !timeReached w.nowMs w.rt.motherbrainResetCooldownUntilMs then some .cooldown
  else
    let stopped := w.st.bodyState = .idle && w.rt.active = .none && w.rt.commands.isEmpty
      && w.rt.heartbeatStopAtMs.isNone
    if !stopped || w.st.create.oiMode != 1 then some .unsafeState else none

def requestMotherbrainReset (identity : MotherbrainResetIdentity) (w : World) : World :=
  let w := w.onStatus (·.recordPublicEvent .motherbrainResetRequested identity.commandId
    identity.sessionHash identity.leaseHash)
  match w.rt.motherbrainResetHistory.toList.reduceOption.find? (·.identity = identity) with
  | some record => w.replayMotherbrainResetOutcome record
  | none => match w.motherbrainResetRefusal identity with
    | some reason =>
      ((w.rememberMotherbrainReset ⟨identity, .refused reason⟩).replayMotherbrainResetOutcome
        ⟨identity, .refused reason⟩).requestAudio .serviceFailure
    | none =>
      let nowMs := w.nowMs
      { w with
        dev := { w.dev with hw := { w.dev.hw with motherbrainReset := true } }
        rt := { w.rt with
          activeMotherbrainReset := some ⟨identity, nowMs + motherbrainResetPulseMs⟩
          motherbrainResetCooldownUntilMs := nowMs + motherbrainResetCooldownMs } }
        |>.rememberMotherbrainReset ⟨identity, .asserted⟩
        |>.replayMotherbrainResetOutcome ⟨identity, .asserted⟩

def pollMotherbrainReset (w : World) : World :=
  match w.rt.activeMotherbrainReset with
  | none => w
  | some active =>
    if timeReached w.nowMs active.releaseAtMs then
      { w with
        dev := { w.dev with hw := { w.dev.hw with motherbrainReset := false } }
        rt := { w.rt with activeMotherbrainReset := none } }
        |>.rememberMotherbrainReset ⟨active.identity, .completed⟩
        |>.replayMotherbrainResetOutcome ⟨active.identity, .completed⟩
        |>.requestAudio .serviceComplete
    else w

end MotherbrainReset

/-- `Stop` and `EStop` cut everything short and go first. -/
def dispatchStop (commandId : UInt32) (command : RuntimeCommand) (w : World) : World :=
  (w.onRuntime fun rt => { rt with dockingActive := false })
    |>.interruptAndClear |>.setActive .none |>.clearHeartbeat
    |> (fun w => if command = .eStop then w.cancelCarefulMode else w)
    |>.queueDispatchedFront ⟨commandId, command, false⟩
    |>.setRunning

def dispatchScript (commandId : UInt32) (script : List RuntimeCommand) (w : World) : World :=
  script.reverse.foldl (fun w command => w.queueDispatchedFront ⟨commandId, command, false⟩)
    (w.interruptAndClear.setActive .none).clearHeartbeat.cancelCarefulMode
    |>.setRunning

/-- `queue_create_acquisition`. -/
def queueCreateAcquisition (commandId : UInt32) (w : World) : World :=
  (acquireCreateScript.foldl
    (fun w command => w.queueDispatchedBack ⟨commandId, command, false⟩) w).setRunning

def dispatchOrdinary (commandId : UInt32) (command : BrainstemCommand) (w : World) : World :=
  match runtimeCommandFromForebrain command with
  | some command => w.queueDispatchedBack ⟨commandId, command, false⟩
  | none => w.dropDispatched .undecoded

def dispatchCommand (commandId : UInt32) (command : BrainstemCommand) (w : World) : World :=
  match command with
  | .stop => w.dispatchStop commandId .stop
  | .eStop => w.dispatchStop commandId .eStop
  | .arm => (w.queueCreateAcquisition commandId).resume
  | .disarm => w.dispatchScript commandId disarmScript
  | .restartCreate =>
    (w.onRuntime fun rt => { rt with restartCreatePending := true })
      |>.dispatchScript commandId restartCreateScript
      |>.onStatus fun st => { st with runtimeState := .running }
  | .resetMotherbrain =>
    (w.requestMotherbrainReset
      ⟨w.st.dispatched.serviceSessionHash, w.st.dispatched.serviceLeaseHash, commandId⟩)
      |>.dropDispatched .swallowed
  | .cmdVel linear angular ttlMs _ =>
    (w.enqueueLatestVelocity commandId linear angular ttlMs).resume
  | .escapeMotion kind generation linear angular ttlMs _ =>
    (w.purgeQueued isQueuedEscapeMotion fun _ => false)
      |>.queueDispatchedBack
          ⟨commandId, .escapeMotion kind generation linear angular ttlMs, true⟩
      |>.resume
  | command => (w.dispatchOrdinary commandId command).resume

/-- A permitted command ends the automatic withdrawal before it runs. -/
def preemptWithdrawal (command : BrainstemCommand) (w : World) : World :=
  let stopped := stopDrive.succeeds w
  w.tryStopDrive.finishContactWithdrawal .safetyPreempted
    (if command = .eStop then some .eStop else none) stopped

/-- `poll_control_command`. -/
def pollControlCommand (w : World) : World :=
  let command := w.st.takeControlCommand.1
  let w := w.takeControl
  let commandId := w.st.dispatched.commandId
  match command with
  | none => w.dropDispatched .undecoded
  | some command =>
    if w.rt.activeContactWithdrawal.isSome then
      if commandPreemptsContactWithdrawal command then
        (w.preemptWithdrawal command).dispatchCommand commandId command
      else w.interruptDispatched commandId
    else w.dispatchCommand commandId command

end World

end Netherwick.Brainstem
