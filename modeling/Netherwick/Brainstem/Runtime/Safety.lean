import Netherwick.Brainstem.Runtime.Motion

/-! # Safety policy -/

namespace Netherwick.Brainstem

open Netherwick.Lib

def safetyAuditoryCue : SafetyEventKind → AuditoryCue
  | .eStop => .eStop
  | .bump => .bumpContact
  | .cliff => .cliff
  | .wheelDrop => .wheelDrop
  | .heartbeat => .heartbeatLost
  | .tilt => .tilt
  | .impact => .impact
  | .charging => .dockContact

namespace World

def setLatch (kind : Option SafetyEventKind) (w : World) : World :=
  (w.observe (.latch kind)).onRuntime fun rt =>
    { rt with safetyLatched := kind.isSome, safetyLatchKind := kind }

def markLatchCleared (kind : SafetyEventKind) (w : World) : World :=
  ((w.onStatus (·.markSafetyCleared kind)).requestAudio .safetyClear).onStatus
    fun st => if kind = .wheelDrop then st.markWheelDropCleared else st

/-- Lift a held latch; the trace keeps what for. -/
def liftLatch (kind : SafetyEventKind) (cause : LiftCause) (w : World) : World :=
  ((w.markLatchCleared kind).observe (.lifting cause)).setLatch none

def runningCommand (w : World) : Option RuntimeCommand := w.rt.executing.map (·.queued.command)

def latchSafety (kind : SafetyEventKind) (w : World) : World := w.setLatch (some kind)

/-- What a withdrawal's command is: straight back at a fixed speed for a fixed time. -/
def contactWithdrawalCommand : RuntimeCommand :=
  .cmdVel (-contactWithdrawalSpeedMmS) 0 (some contactWithdrawalDurationMs)

def pushFront (queued : QueuedCommand) (w : World) : World :=
  (if w.rt.commands.isFull then w.observe (.queueFull queued.commandId) else w).onRuntime
    fun rt => { rt with commands := rt.commands.pushFront queued }

def pushBack (queued : QueuedCommand) (w : World) : World :=
  (if w.rt.commands.isFull then w.observe (.queueFull queued.commandId) else w).onRuntime
    fun rt => { rt with commands := rt.commands.pushBack queued }

def respondStop (kind : SafetyEventKind) : M Unit := do
  .act fun w => (w.latchSafety kind).interruptAndClear
  stopDrive
  .act fun w =>
    (w.setActive .none).finishContactWithdrawal .safetyPreempted (some kind) true

/-- Latch, stop and queue the automatic withdrawal ahead of everything. -/
def respondContactWithdrawal (kind : SafetyEventKind) : M Unit := do
  let w ← .get
  let commandId := w.rt.activeCommandId.getD 0
  .act fun w => (w.latchSafety kind).interruptAndClear.setActive .none
  stopDrive
  .act fun w =>
    if kind = .bump then
      (w.startContactWithdrawal w.st.bumpFlags.toUInt8 commandId w.st.create.odometryDistanceMm)
        |>.onRuntime (fun rt => { rt with mode := .running })
        |>.onStatus (fun st => { st with runtimeState := .running })
    else w
  .act (pushFront ⟨0, contactWithdrawalCommand, true⟩)

def applySafetyResponse (kind : SafetyEventKind) : SafetyResponse → M Unit
  | .stop => respondStop kind
  | .contactWithdrawal => respondContactWithdrawal kind

def clearDockContactLatch (w : World) : World :=
  match w.rt.safetyLatchKind with
  | some .bump => w.liftLatch .bump .homeBase
  | some .cliff => w.liftLatch .cliff .homeBase
  | _ => w

/-- Is the condition behind a latch still observed? -/
def physicalConditionActive (st : Status) : SafetyEventKind → Bool
  | .bump => st.bump
  | .wheelDrop => st.wheelDrop
  | .cliff => st.cliff
  | .tilt => st.tiltObserved
  | .impact => st.impactObserved
  | .charging => st.chargingInterlockActive
  | .eStop | .heartbeat => false

def clearSafetyLatch (expected : Option SafetyEventKind) (w : World) : World :=
  if expected = some .charging ∧ w.rt.chargingInterlockLatched then
    w.onRuntime fun rt => { rt with chargingInterlockLatched := false }
  else match w.rt.safetyLatchKind with
    | none => w.onRuntime fun rt => { rt with safetyLatched := false }
    | some kind =>
      if expected.any (· ≠ kind) ∨ physicalConditionActive w.st kind then w
      else w.liftLatch kind (.cleared w.runningCommand (physicalConditionActive w.st kind))

def carefulModeActive (w : World) (nowMs : UInt32) : Bool :=
  w.rt.carefulModeUntilMs.any fun deadlineMs => !timeReached nowMs deadlineMs

def clearSensorGatesForCareful (w : World) : World :=
  (match w.rt.safetyLatchKind with
    | none => w.onRuntime fun rt => { rt with safetyLatched := false }
    | some kind => w.liftLatch kind (.careful w.runningCommand (w.carefulModeActive w.nowMs)))
    |>.onRuntime fun rt => { rt with
        chargingInterlockLatched := false, dockDeparturePending := false
        tiltObservedSinceMs := none }

def enterCarefulMode (requestedTtlMs : UInt32) : M Unit := do
  ensureCreateResponsive
  let w ← .get
  if w.rt.estopLatched then .fail .createNoResponse
  else
    let ttlMs := max carefulModeMinTtlMs (min carefulModeMaxTtlMs requestedTtlMs)
    .act fun w =>
      let deadline := some (w.nowMs + ttlMs)
      (w.clearSensorGatesForCareful.onRuntime fun rt => { rt with carefulModeUntilMs := deadline })
        |>.onStatus (·.setCarefulModeUntil deadline)

/-- The hazard that the sensors show when careful mode ends, strongest first. -/
def currentSensorGate (st : Status) : Option SafetyEventKind :=
  if st.wheelDrop then some .wheelDrop
  else if st.cliff then some .cliff
  else if st.tiltObserved then some .tilt
  else if st.impactObserved then some .impact
  else if st.bump then some .bump
  else none

def relatchCurrentSensorGate (w : World) : World :=
  match currentSensorGate w.st with
  | some kind =>
    (w.onStatus fun st =>
        let st := st.markSafetyTripped kind
        if kind = .wheelDrop then st.markWheelDropLatched else st).latchSafety kind
  | none =>
    if w.st.chargingInterlockActive then
      w.onRuntime fun rt => { rt with chargingInterlockLatched := true }
    else w

def enforceCarefulModeTimeout : M Unit := do
  let w ← .get
  match w.rt.carefulModeUntilMs with
  | none => pure ()
  | some deadlineMs =>
    if timeReached w.nowMs deadlineMs then do
      .act fun w => w.cancelCarefulMode.interruptAndClear.setActive .none
      stopDrive
      .act relatchCurrentSensorGate
    else pure ()

def unsafeForwardOutput (w : World) : Bool :=
  w.rt.activeVelocity.any fun velocity => 0 < velocity.linearMmS

/-- `clear_motion_queue`: every motion command leaves the queue, and a running one is cut. -/
def clearMotionQueue : M Unit := do
  .act fun w =>
    w.observe (.queueCleared ((w.rt.commands.items.filter fun q => isMotionCommand q.command).map
        QueuedCommand.commandId))
      |>.onRuntime fun rt => { rt with
          commands := rt.commands.rotate (fun q => !isMotionCommand q.command) rt.commands.length }
  let w ← .get
  if w.rt.active.isMotion then do
    .act interruptActiveCommand
    stopDrive
    .act (·.setActive .none)
  else pure ()

/-- The observations that the policy acts on. -/
structure Observation where
  bump : Bool
  cliff : Bool
  wheelDrop : Bool
  tilt : Bool
  impact : Bool
  charging : Bool
  homeBase : Bool
  freshBumpEdge : Bool

/-- The tilt threshold counts only when it has stayed crossed for the hold time. -/
def observeTilt (w : World) : Bool × World :=
  if w.st.tiltObserved then
    match w.rt.tiltObservedSinceMs with
    | some startedAtMs => (timeReached w.nowMs (startedAtMs + imuTiltLatchHoldMs), w)
    | none => (false, w.onRuntime fun rt => { rt with tiltObservedSinceMs := some w.nowMs })
  else (false, w.onRuntime fun rt => { rt with tiltObservedSinceMs := none })

def forgetDeparture (w : World) : World :=
  if !w.st.homeBase && w.rt.dockDeparturePending then
    w.onRuntime fun rt => { rt with dockDeparturePending := false }
  else w

/-- The first observation makes no edge. -/
def initSafetyObservation (w : World) : World :=
  if !w.rt.safetyObservationInitialized then
    w.onRuntime fun rt => { rt with
      lastBump := w.st.bump, lastCliff := w.st.cliff, lastWheelDrop := w.st.wheelDrop
      safetyObservationInitialized := true }
  else w

/-- Everything the policy reads and writes before it decides. -/
def observeSafety (w : World) : Observation × World :=
  let st := w.st
  let tilt := w.observeTilt.1
  let w := w.observeTilt.2.forgetDeparture.initSafetyObservation
  ({ bump := st.bump, cliff := st.cliff, wheelDrop := st.wheelDrop, tilt
     impact := st.impactObserved, charging := st.chargingInterlockActive, homeBase := st.homeBase
     freshBumpEdge := st.bump && !w.rt.lastBump }, w)

/-- The hazard that overrules a running escape, strongest first. -/
def dominatingHazard (o : Observation) (kind : SafetyLatchKind) : Option SafetyEventKind :=
  if o.wheelDrop then some .wheelDrop
  else if o.tilt then some .tilt
  else if o.impact then some .impact
  else if o.charging || o.homeBase then some .charging
  else match kind with
    | .bump => if o.cliff then some .cliff else none
    | .cliff => if o.bump then some .bump else none
    | _ => none

def superviseEscape (o : Observation) (escape : ActiveEscape) : M Unit := do
  match dominatingHazard o escape.kind with
  | some kind =>
    .act (·.onStatus (·.markSafetyTripped kind))
    applySafetyResponse kind .stop
    .act fun w =>
      (w.requestAudio (safetyAuditoryCue kind)).updateSafetyEdges o.bump o.cliff o.wheelDrop
  | none =>
    let w ← .get
    if (w.st.validateEscapeMotion escape.kind escape.hazardGeneration escape.linearMmS
        escape.angularMradS escape.ttlMs).isOk then
      .act (·.updateSafetyEdges o.bump o.cliff o.wheelDrop)
    else
      .act fun w => w.interruptAndClear.setActive .none
      stopDrive
      .act (·.updateSafetyEdges o.bump o.cliff o.wheelDrop)

def yieldToCharging : M Unit := do
  clearMotionQueue
  stopDrive
  .act (·.finishContactWithdrawal .safetyPreempted (some .charging) true)

def superviseHomeBase : M Unit := do
  .act clearDockContactLatch
  let w ← .get
  .when (!w.rt.active.isDockDeparture && !w.rt.dockDeparturePending) do
    yieldToCharging
    .act (·.onRuntime fun rt => { rt with dockDeparturePending := true })
  .act (·.onRuntime fun rt => { rt with chargingInterlockLatched := false })

def superviseCharging : M Unit := do
  let w ← .get
  if !w.rt.chargingInterlockLatched then
    yieldToCharging
    .act (·.onRuntime fun rt => { rt with chargingInterlockLatched := true })
  else pure ()

def superviseWheelDrop : M Unit := do
  let w ← .get
  if w.rt.safetyLatchKind = some .wheelDrop then pure ()
  else
    .act fun w =>
      (w.onStatus fun st => (st.markSafetyTripped .wheelDrop).markWheelDropLatched)
        |>.latchSafety .wheelDrop |>.interruptAndClear
    stopDrive
    .act fun w => (w.setActive .none).finishContactWithdrawal .safetyPreempted
      (some .wheelDrop) true
    .act (·.requestAudio .wheelDrop)

/-- Which hazard is answered, and how; a fresh contact on forward motion withdraws. -/
def chosenResponse (o : Observation) (w : World) : SafetyEventKind × SafetyResponse :=
  if o.tilt then (.tilt, .stop)
  else if o.impact then (.impact, .stop)
  else if o.cliff then (.cliff, .stop)
  else if o.bump && o.freshBumpEdge && w.unsafeForwardOutput then (.bump, .contactWithdrawal)
  else if o.bump then (.bump, .stop)
  else if o.wheelDrop then (.wheelDrop, .stop)
  else (.bump, .stop)

/-- Does the chosen hazard come with a trip record of its own? -/
def Observation.hazardous (o : Observation) : Bool :=
  o.tilt || o.impact || o.cliff || o.bump || o.wheelDrop

def answerHazard (o : Observation) (kind : SafetyEventKind) (response : SafetyResponse) :
    M Unit := do
  .act fun w => w.onStatus fun st => if o.hazardous then st.markSafetyTripped kind else st
  applySafetyResponse kind response
  .act (·.requestAudio (safetyAuditoryCue kind))

def superviseHazards (o : Observation) : M Unit := do
  let w ← .get
  if w.rt.safetyLatched && !(w.rt.activeContactWithdrawal.isSome
      && (o.tilt || o.impact || o.cliff)) then pure ()
  else answerHazard o (chosenResponse o w).1 (chosenResponse o w).2

/-- The policy when neither an escape nor careful mode is active. -/
def superviseObservation (o : Observation) : M Unit := do
  if o.homeBase && !o.wheelDrop && !o.tilt && !o.impact then superviseHomeBase
  else if o.charging && !o.wheelDrop && !o.tilt && !o.impact then superviseCharging
  else
    .act (·.updateSafetyEdges o.bump o.cliff o.wheelDrop)
    if !o.bump && !o.cliff && !o.wheelDrop && !o.tilt && !o.impact && !o.charging then pure ()
    else if o.wheelDrop then superviseWheelDrop
    else superviseHazards o

def enforceSafetyPolicy : M Unit := do
  let w ← .get
  let o := w.observeSafety.1
  .act fun w => w.observeSafety.2
  let w ← .get
  match w.rt.activeEscape with
  | some escape => superviseEscape o escape
  | none =>
    if w.carefulModeActive w.nowMs then
      .act fun w => (w.updateSafetyEdges o.bump o.cliff o.wheelDrop).clearSensorGatesForCareful
    else superviseObservation o

/-- `publish_safety_snapshot`. -/
def publishSafetySnapshot (w : World) : World :=
  w.onStatus (·.setSessionSafetySnapshot
    ⟨w.rt.estopLatched, w.rt.safetyLatched, w.rt.chargingInterlockLatched, w.rt.safetyLatchKind⟩)

end World

end Netherwick.Brainstem
