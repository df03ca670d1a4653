import Netherwick.Brainstem.Runtime.State

/-! # Starting, refusing and stopping motion -/

namespace Netherwick.Brainstem

open Netherwick.Lib

namespace World

/-- What a confirmed stop resets. -/
def markStopped (w : World) : World :=
  { w with rt := { w.rt with
      stopSent := true, activeVelocity := none, activeEscape := none
      heartbeatStopAtMs := none } }.onStatus (·.clearVelocityStream)

def stopDrive : M Unit := do
  drive Device.stop
  .act markStopped

/-- `let _ = self.stop_drive()`. -/
def tryStopDrive (w : World) : World := stopDrive.exec w

/-- A Create whose last packet is too old no longer counts as responsive. -/
def ensureCreateResponsive : M Unit := do
  .act fun w =>
    if w.rt.lastCreatePacketAtMs.any fun last => createLinkFreshnessTimeoutMs < w.nowMs - last then
      (w.onRuntime fun rt => { rt with createResponsive := false }).onStatus (·.setOiModeUnknown)
    else w
  let w ← .get
  if w.rt.createResponsive then pure () else .fail .createNoResponse

def safetyRecoveryLatchAllowsMotion (w : World) : Bool :=
  w.rt.safetyRecoveryMotion && recoverableSafetyLatch w.rt.safetyLatchKind

def motionRefused (w : World) : Bool :=
  w.rt.estopLatched || w.rt.dockDeparturePending || w.rt.chargingInterlockLatched
    || (w.rt.safetyLatched && !w.safetyRecoveryLatchAllowsMotion)

def ensureMotionAllowed : M Unit := do
  let w ← .get
  if w.motionRefused then
    stopDrive
    .fail .createNoResponse
  else ensureCreateResponsive

/-- The wheels are under a timed program from now on. -/
def startDriving (stopAtMs : UInt32) (w : World) : World :=
  (w.observe (.driveStarted w.rt.executing w.nowMs stopAtMs)).setActive (.driving stopAtMs)

def prepareDrive (w : World) : World :=
  (w.onStatus fun st => { st with bodyState := .moving }).onRuntime fun rt =>
    { rt with stopSent := false }

def startDriveDirect (left right : Int16) (durationMs : Option UInt32) (nowMs : UInt32) :
    M Unit :=
  match durationMs with
  | none => do
      stopDrive
      .fail .timeout
  | some durationMs =>
    if left = 0 ∧ right = 0 then do
      stopDrive
      .act (·.setActive .none)
    else do
      ensureMotionAllowed
      .act fun w => (w.onRuntime fun rt => { rt with activeVelocity := none }).prepareDrive
      drive (Device.driveDirect left right durationMs)
      .act (startDriving (nowMs + durationMs))

def startDriveArc (velocity radius : Int16) (durationMs : Option UInt32) (nowMs : UInt32) :
    M Unit :=
  match durationMs with
  | none => do
      stopDrive
      .fail .timeout
  | some durationMs =>
    if velocity = 0 then do
      stopDrive
      .act (·.setActive .none)
    else do
      ensureMotionAllowed
      .act prepareDrive
      drive (Device.driveArc velocity radius)
      .act (startDriving (nowMs + durationMs))

def wheelSpeeds (linear angular : Int16) : Int16 × Int16 :=
  let halfDelta := Int.tdiv (angular.toInt * createAxleTrackMm) 2000
  (clampI16 (linear.toInt - halfDelta), clampI16 (linear.toInt + halfDelta))

def startCmdVel (linear angular : Int16) (durationMs : Option UInt32) (nowMs : UInt32) :
    M Unit :=
  if linear = 0 ∧ angular = 0 then do
    stopDrive
    .act (·.setActive .none)
  else do
    startDriveDirect (wheelSpeeds linear angular).1 (wheelSpeeds linear angular).2 durationMs nowMs
    .act (·.onRuntime fun rt => { rt with activeVelocity := some ⟨linear, angular⟩ })

def cancelCarefulMode (w : World) : World :=
  (w.onRuntime fun rt => { rt with carefulModeUntilMs := none }).onStatus
    (·.setCarefulModeUntil none)

/-- The queue and the active program give way; the deadline of the heartbeat is not touched. -/
def interruptAndClear (w : World) : World := w.interruptActiveCommand.clearCommands

def enforceHeartbeatStop : M Unit := do
  let w ← .get
  match w.rt.heartbeatStopAtMs with
  | none => pure ()
  | some deadlineMs =>
    if timeReached w.nowMs deadlineMs then do
      .act fun w => (w.onRuntime fun rt => { rt with heartbeatStopAtMs := none })
        |>.cancelCarefulMode
        |>.onStatus (fun st =>
          st.revokeAuthority.markHeartbeatExpired.markSafetyTripped .heartbeat)
        |>.requestAudio .heartbeatLost
      let w ← .get
      if w.rt.activeContactWithdrawal.isNone then do
        .act fun w => w.interruptAndClear.setActive .none
        stopDrive
      else pure ()
    else pure ()

def setBodyAtRest (w : World) : World :=
  w.onStatus fun st => { st with runtimeState := .idle, bodyState := .idle }

def enterIdle (w : World) : World :=
  w.tryStopDrive.completeActiveCommand
    |>.onRuntime (fun rt => { rt with mode := .idle, active := .none })
    |>.setBodyAtRest

/-- `enter_error`. A power pulse that is active is not ended here. -/
def enterError (error : BrainstemError) (w : World) : World :=
  let w := w.observe (.errorEntered w.hw.powerToggle)
    |>.onStatus (fun st => { st with runtimeState := .error, bodyState := .error })
    |>.pushEvent (.error error)
    |>.failActiveCommand error
  let stopped := stopDrive.succeeds w
  let w := w.tryStopDrive.finishContactWithdrawal .failed none stopped
    |>.onRuntime fun rt => { rt with mode := .error, active := .none, executing := none }
  if w.rt.createResponsive then w.requestAudio .runtimeError else w

end World

end Netherwick.Brainstem
