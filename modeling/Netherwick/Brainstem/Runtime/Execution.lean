import Netherwick.Brainstem.Runtime.Safety

/-! # Executing queued commands and advancing the active one -/

namespace Netherwick.Brainstem

open Netherwick.Lib

/-- The code that `set_command` publishes for a running command. -/
def commandCode : RuntimeCommand → UInt32
  | .wakeCreate => 1
  | .sleepCreate => 2
  | .startOi => 4
  | .setMode .passive => 5
  | .setMode .safe => 6
  | .setMode .full => 7
  | .driveDirect .. | .cmdVel .. | .driveArc .. | .escapeMotion .. | .drive .. => 8
  | .stop | .eStop | .stopDrive => 9
  | .clearSafetyLatch _ | .carefulMode _ | .heartbeatStop _ => 10
  | _ => 0

namespace World

def startPowerPulse (cause : PulseCause) (event : BrainstemEvent) (wakeWait : Option UInt32)
    (powerOn : Bool) (w : World) : World :=
  ((w.pushEvent event).observe (.pulseBegun cause)).beginPowerTogglePulse
    |>.setActive (.powerPulse (w.nowMs + powerTogglePulseMs) (wakeWait.map (w.nowMs + ·)) powerOn)

def forgetCreateMode (w : World) : World :=
  (w.onRuntime fun rt => { rt with createResponsive := false }).onStatus (·.setOiModeUnknown)

def setBodyState (bodyState : BodyState) (w : World) : World :=
  w.onStatus fun st => { st with bodyState }

def wakeCreate (w : World) : World :=
  let w := w.forgetCreateMode.setBodyState .waitingForCreate
  match Status.knownCreatePowerState w.st.create.powerState with
  | some false =>
    w.startPowerPulse (.wake (some false)) .createPowerOnRequested (some createWakeWaitMs) true
  | knownState =>
    w.setActive (.waitForCreate (w.nowMs + createResponsiveTimeoutMs) w.nowMs 0 false
      knownState.isNone)

def sleepCreate : M Unit := do
  .act forgetCreateMode
  stopDrive
  .act fun w =>
    match Status.knownCreatePowerState w.st.create.powerState with
    | some false => (w.setBodyState .idle).setActive .none
    | some true =>
      (w.setBodyState .powerCycling).startPowerPulse (.sleep (some true))
        .createPowerOffRequested none false
    | none => ((w.setBodyState .idle).refuseActiveCommand).setActive .none

/-- The stop frame goes out first; without it the latch is not set. -/
def eStop : M Unit := fun w =>
  match stopDrive w with
  | (.error e, w) => (.error e, w.observe (.eStopRan false))
  | (.ok (), w) =>
    (.ok (), ((w.observe (.eStopRan true)).onRuntime fun rt => { rt with estopLatched := true })
      |>.onStatus (fun st => st.markEStopLatched.markSafetyTripped .eStop)
      |>.requestAudio .eStop
      |>.setActive .none)

def clearEStop (w : World) : World :=
  ((w.observe .clearEStopRan).onRuntime fun rt => { rt with estopLatched := false })
    |>.onStatus (fun st => st.markEStopCleared.markSafetyCleared .eStop)
    |>.requestAudio .safetyClear

/-- A failed write of something audible only counts as dropped. -/
def playOrDrop (d : Driver Unit) (onPlayed : World → World) (w : World) : World :=
  let played := (drive d).succeeds w
  let w := (drive d).exec w
  if played then onPlayed w else w.onStatus (·.incrementAudioDroppedOrReplaced 1)

def defineChirp (kind : FeedbackKind) (tones : SongTones) (toneCount : UInt8) (w : World) :
    World :=
  let count := clampToneCount toneCount
  let w := w.onRuntime fun rt => { rt with
    chirps := Function.update rt.chirps kind (tones, count)
    songDurationsMs := rt.songDurationsMs.setIfInBounds (feedbackSlot kind).toNat
      (toneDurationMs tones count) }
  if w.rt.createResponsive then
    w.playOrDrop (Device.defineSong (feedbackSlot kind) tones count) fun w => w
  else w

def feedbackTones (w : World) (kind : FeedbackKind) : SongTones × UInt8 :=
  if (w.rt.chirps kind).2 > 0 then w.rt.chirps kind else defaultFeedbackTones kind

def defineAndPlay (slot : UInt8) (tones : SongTones) (toneCount : UInt8) : Driver Unit := do
  Device.defineSong slot tones toneCount
  Device.playSong slot

def playFeedback (kind : FeedbackKind) (nowMs : UInt32) (w : World) : World :=
  if w.rt.audio.silent then (w.onStatus (·.incrementAudioSuppressedBySilent)).setActive .none
  else if !w.rt.createResponsive then w.setActive .none
  else
    let (tones, toneCount) := w.feedbackTones kind
    if !w.rt.audio.playbackAvailable nowMs then
      w.onStatus (·.incrementAudioDroppedOrReplaced 1)
    else
      w.playOrDrop (defineAndPlay (feedbackSlot kind) tones toneCount) (·.onRuntime fun rt =>
        { rt with audio := rt.audio.markManualPlayed nowMs (toneDurationMs tones toneCount) })

def songPlay (id : UInt8) (nowMs : UInt32) (w : World) : World :=
  if w.rt.audio.silent then w.onStatus (·.incrementAudioSuppressedBySilent)
  else if !w.rt.audio.playbackAvailable nowMs then
    w.onStatus (·.incrementAudioDroppedOrReplaced 1)
  else if w.rt.createResponsive then
    w.playOrDrop (Device.playSong id) (·.onRuntime fun rt => { rt with
      audio := rt.audio.markManualPlayed nowMs (max 1000 (rt.songDurationsMs[id.toNat]?.getD 0)) })
  else w

def songDefine (id : UInt8) (tones : SongTones) (toneCount : UInt8) (w : World) : World :=
  let w := w.onRuntime fun rt => { rt with
    songDurationsMs := rt.songDurationsMs.setIfInBounds id.toNat
      (toneDurationMs tones toneCount) }
  if w.rt.createResponsive then
    w.playOrDrop (Device.defineSong id tones toneCount) fun w => w
  else w

/-- `ensure_orientation_probe_allowed`, the part about the latches. -/
def orientationProbeRefused (w : World) : Bool :=
  w.rt.estopLatched || w.rt.dockDeparturePending || w.rt.chargingInterlockLatched
    || (w.rt.safetyLatched && w.rt.safetyLatchKind != some .tilt)

def elapsedSince (nowMs timestampMs : UInt32) : UInt32 :=
  if timestampMs = 0 then 0 else nowMs - timestampMs

/-- The part about what the sensors show. -/
def orientationProbeUnsafe (w : World) (nowMs : UInt32) : Bool :=
  let imu := w.st.imu
  let imuReady := w.st.imuOk && 0 < imu.sampleCount
    && elapsedSince nowMs imu.last.timestampMs ≤ orientationProbeImuMaxAgeMs
    && orientationProbeMinAccelMmS2 ≤ imu.accelMagnitudeMmS2
    && imu.accelMagnitudeMmS2 ≤ orientationProbeMaxAccelMmS2
  w.st.wheelDrop || w.st.cliff || w.st.chargingInterlockActive || !imuReady
    || Status.imuImpactStopMmS2 ≤ imu.impactScoreMmS2
    || (Status.tiltStops imu.tiltMagnitudeMrad && w.rt.safetyLatchKind != some .tilt)

def stopAndRefuse : M Unit := do
  stopDrive
  .fail .createNoResponse

def ensureOrientationProbeAllowed (nowMs : UInt32) : M Unit := do
  let w ← .get
  if w.orientationProbeRefused then stopAndRefuse
  else
    ensureCreateResponsive
    let w ← .get
    if w.orientationProbeUnsafe nowMs then stopAndRefuse else pure ()

def zeroImuOrientation (w : World) : World := w.onStatus fun st => st.zeroImuOrientationFromGravity.2

def startOrientationProbe (angular : Int16) (durationMs nowMs : UInt32) : M Unit :=
  if angular = 0 ∨ durationMs = 0 then do
    stopDrive
    .act (·.setActive .none)
  else do
    ensureOrientationProbeAllowed nowMs
    let w ← .get
    .act zeroImuOrientation
    if !w.st.zeroImuOrientationFromGravity.1 then stopAndRefuse
    else
      .act fun w =>
        if w.rt.safetyLatchKind = some .tilt then w.clearSafetyLatch (some .tilt) else w
      ensureOrientationProbeAllowed nowMs
      .act (·.onStatus (·.markOdometryReset))
      startCmdVel 0 (clampI16 (absI32 angular.toInt)) (some durationMs) nowMs

def executeZeroImuOrientation (w : World) : World :=
  let zeroed := w.zeroImuOrientation
  if w.st.zeroImuOrientationFromGravity.1 ∧ zeroed.rt.safetyLatchKind = some .tilt then
    zeroed.clearSafetyLatch (some .tilt)
  else zeroed

def setCreateBaud (nowMs : UInt32) : M Unit := do
  .act fun w => { w with dev := w.dev.flushRx }
  let w ← .get
  if w.hw.baudAccepted then
    .act fun w => w.forgetCreateMode.onRuntime fun rt => { rt with nextFullModeRefreshMs := nowMs }
  else .fail .uartFraming

/-- An escape is validated once more before it drives. -/
def startEscapeMotion (queued : QueuedCommand) (kind : SafetyLatchKind) (generation : UInt32)
    (linear angular : Int16) (ttlMs nowMs : UInt32) : M Unit := do
  let w ← .get
  if (w.st.validateEscapeMotion kind generation linear angular ttlMs).isOk then
    .act fun w => w.onRuntime fun rt =>
      { rt with activeEscape := some ⟨kind, generation, linear, angular, ttlMs⟩
                executing := some ⟨queued, some w.st.hazardGeneration⟩ }
    startCmdVel linear angular (some ttlMs) nowMs
  else .fail .createNoResponse

def startDock : M Unit := do
  ensureCreateResponsive
  drive Device.seekDock
  .act fun w => w.onRuntime fun rt =>
    { rt with dockingActive := true, lastDockIr := w.st.create.irByte }

/-- The branch of `start_next_command` for each command. An early return of the source for
silent feedback completes the command as the common ending does. -/
def executeCommand (queued : QueuedCommand) (nowMs : UInt32) : M Unit :=
  match queued.command with
  | .stop | .stopDrive => do
      stopDrive
      .act (·.setActive .none)
  | .eStop => eStop
  | .clearEStop => .act clearEStop
  | .wakeCreate => .act wakeCreate
  | .sleepCreate => sleepCreate
  | .startOi => do
      drive Device.startOi
      .act fun w => (w.setBodyState .oiStarted).setActive (.settle (nowMs + postStartSettleMs))
  | .setCreateBaud _ => setCreateBaud nowMs
  | .setMode mode => do
      drive (Device.setMode mode)
      .act fun w => (w.onRuntime fun rt =>
          { rt with nextFullModeRefreshMs :=
              if mode = .full then nowMs + fullModeRefreshPeriodMs
              else rt.nextFullModeRefreshMs }).setActive (.settle (nowMs + postModeSettleMs))
  | .drive left right durationMs => startDriveDirect left right (some durationMs) nowMs
  | .driveDirect left right durationMs => startDriveDirect left right durationMs nowMs
  | .cmdVel linear angular durationMs => do
      startCmdVel linear angular durationMs nowMs
      .act fun w =>
        if linear ≠ 0 ∨ angular ≠ 0 then
          w.onStatus (·.markVelocityStreamActive queued.commandId linear angular)
        else w
  | .clearSafetyLatch kind => .act (clearSafetyLatch (some (safetyLatchKindToEvent kind)))
  | .carefulMode ttlMs => enterCarefulMode ttlMs
  | .escapeMotion kind generation linear angular ttlMs =>
    startEscapeMotion queued kind generation linear angular ttlMs nowMs
  | .heartbeatStop timeoutMs =>
    .act (·.onRuntime fun rt => { rt with heartbeatStopAtMs := some (nowMs + timeoutMs) })
  | .driveArc velocity radius durationMs => startDriveArc velocity radius durationMs nowMs
  | .requestSensors packetId => drive (Device.requestSensorPacket packetId)
  | .streamSensors enabled packetId periodMs =>
    .act (·.onRuntime fun rt => { rt with
      sensorStream := if enabled then some ⟨packetId, max periodMs runtimeTickMs, nowMs⟩
        else none })
  | .clearMotionQueue => clearMotionQueue
  | .defineChirp kind tones toneCount => .act (defineChirp kind tones toneCount)
  | .playFeedback kind => .act (playFeedback kind nowMs)
  | .setAudioSilent silent => .act (·.setAudioSilent silent)
  | .calibrateTurn angular durationMs => startCmdVel 0 angular (some durationMs) nowMs
  | .orientationProbe angular durationMs => startOrientationProbe angular durationMs nowMs
  | .resetOdometry => .act (·.onStatus (·.markOdometryReset))
  | .zeroImuOrientation => .act executeZeroImuOrientation
  | .clearImuOrientation => .act (·.onStatus (·.clearImuOrientationCalibration))
  | .songPlay id => .act (songPlay id nowMs)
  | .songDefine id tones toneCount => .act (songDefine id tones toneCount)
  | .dock => startDock
  | .setLights ledBits color intensity => drive (Device.setLights ledBits color intensity)

/-- Back off the Home Base before the caller's motion. Neither the e-stop nor the safety latch is
consulted. -/
def startDockDeparture (nowMs : UInt32) : M Unit := do
  .act (·.observe .dockDepartureRan)
  ensureCreateResponsive
  .act fun w => (w.onRuntime fun rt =>
    { rt with dockDeparturePending := false, heartbeatStopAtMs := none
              activeVelocity := none }).prepareDrive
  drive (Device.driveDirect dockDepartureSpeedMmS dockDepartureSpeedMmS dockDepartureDurationMs)
  .act (·.setActive (.dockDeparture (nowMs + dockDepartureDurationMs)))

/-- Give a command its lifecycle identity. -/
def beginCommand (queued : QueuedCommand) (w : World) : World :=
  { w with rt := { w.rt with
      activeCommandId := some queued.commandId
      safetyRecoveryMotion := queued.safetyRecovery
      executing := some ⟨queued, none⟩ } }.onStatus fun st =>
    (st.markCommandStarted queued.commandId (commandCode queued.command)).observe
      (.ran queued.command)

def completeIfInactive (w : World) : World :=
  (if w.rt.active = .none then w.completeActiveCommand else w).onRuntime fun rt =>
    { rt with executing := none }

def startNextCommand : M Unit := do
  let w ← .get
  match w.rt.commands.popFront with
  | none => pure ()
  | some (queued, rest) =>
    .act (·.onRuntime fun rt => { rt with commands := rest })
    if w.rt.dockDeparturePending && requiresDockDeparture queued.command then
      .act (pushFront queued)
      if w.st.chargingInterlockActive then pure () else startDockDeparture w.nowMs
    else
      .act (beginCommand queued)
      executeCommand queued w.nowMs
      .act completeIfInactive

/-- The event loop of the waiting step: count packet bytes, and stop at the first error, leaving
the rest of the queue in place. -/
def drainWakeEvents : Nat → Deque BrainstemEvent eventQueueCapacity → UInt8 →
    Except BrainstemError UInt8 × Deque BrainstemEvent eventQueueCapacity
  | 0, events, responseBytes => (.ok responseBytes, events)
  | rounds + 1, events, responseBytes => match events.popFront with
    | none => (.ok responseBytes, events)
    | some (.createPacketReceived _ bytes, rest) =>
      drainWakeEvents rounds rest
        (UInt8.ofNat (min 255 (responseBytes.toNat + bytes.length)))
    | some (.error error, rest) => (.error error, rest)
    | some (_, rest) => drainWakeEvents rounds rest responseBytes

def wakeAnswered (w : World) : World :=
  (w.observe .wakeAnswered).onRuntime (fun rt =>
      { rt with createResponsive := true, active := .none })
    |>.onStatus (·.setCreatePowerOn true)
    |>.completeActiveCommand

/-- The wake is given up. -/
def wakeTimedOut (w : World) : World :=
  (w.observe .wakeTimedOut).onRuntime (fun rt =>
      { rt with createResponsive := false, active := .none })
    |>.onStatus (fun st => st.setCreatePowerUnknown.setOiModeUnknown)
    |>.failActiveCommand .timeout

/-- No answer yet: give up at the deadline, or ask again when that is due. -/
def keepWaiting (nowMs deadlineMs nextProbeMs : UInt32) (responseBytes : UInt8)
    (oiStarted allowPowerToggleOnTimeout : Bool) : M Unit :=
  if timeReached nowMs deadlineMs then
    if allowPowerToggleOnTimeout then
      .act (·.startPowerPulse (.timeout nowMs deadlineMs) .createPowerOnRequested
        (some createWakeWaitMs) true)
    else .act wakeTimedOut
  else if timeReached nowMs nextProbeMs then do
    .act fun w => { w with dev := w.dev.flushRx }
    if !oiStarted then
      drive Device.startOi
      .act (·.setActive (.waitForCreate deadlineMs (nowMs + postStartSettleMs) 0 true
        allowPowerToggleOnTimeout))
    else
      .act (·.observe .probeRequested)
      drive (Device.requestSensorPacket createSensorProbePacket)
      .act (·.setActive (.waitForCreate deadlineMs (nowMs + sensorProbePeriodMs) 0 oiStarted
        allowPowerToggleOnTimeout))
  else
    .act (·.setActive (.waitForCreate deadlineMs nextProbeMs responseBytes oiStarted
      allowPowerToggleOnTimeout))

def advanceWaitForCreate (deadlineMs nextProbeMs : UInt32) (responseBytes : UInt8)
    (oiStarted allowPowerToggleOnTimeout : Bool) : M Unit := do
  let w ← .get
  let nowMs := w.nowMs
  let (drained, events) := drainWakeEvents w.dev.events.length w.dev.events responseBytes
  .act fun w =>
    { w.observe (.wakeDrained (w.dev.events.items.any decisive)) with
      dev := { (w.observe (.wakeDrained (w.dev.events.items.any decisive))).dev with events } }
  match drained with
  | .error error => do
      .act (·.observe (.wakeFailed error))
      .fail error
  | .ok responseBytes =>
    if wakeProbeResponseBytesRequired ≤ responseBytes then .act wakeAnswered
    else
      keepWaiting nowMs deadlineMs nextProbeMs responseBytes oiStarted
        allowPowerToggleOnTimeout

def advancePowerPulse (wakeWaitUntilMs : Option UInt32) (powerOn : Bool) (w : World) : World :=
  let w := w.endPowerTogglePulse.pushEvent .createPowerToggled
  match wakeWaitUntilMs with
  | some untilMs => w.setActive (.wakeSettle untilMs)
  | none =>
    ((w.onStatus (·.setCreatePowerOn powerOn)).setActive .none).completeActiveCommand

def advanceActiveAction : M Unit := do
  let w ← .get
  let nowMs := w.nowMs
  match w.rt.active with
  | .none => pure ()
  | .powerPulse releaseAtMs wakeWaitUntilMs powerOn =>
    .when (timeReached nowMs releaseAtMs) (.act (advancePowerPulse wakeWaitUntilMs powerOn))
  | .settle untilMs =>
    .when (timeReached nowMs untilMs) (.act fun w => (w.setActive .none).completeActiveCommand)
  | .wakeSettle untilMs =>
    .when (timeReached nowMs untilMs) (.act (·.setActive
      (.waitForCreate (nowMs + createResponsiveTimeoutMs) nowMs 0 false false)))
  | .waitForCreate deadlineMs nextProbeMs responseBytes oiStarted allow =>
    advanceWaitForCreate deadlineMs nextProbeMs responseBytes oiStarted allow
  | .driving stopAtMs =>
    .when (timeReached nowMs stopAtMs) do
      stopDrive
      .act fun w => ((w.setActive .none).finishContactWithdrawal .completed none true)
        |>.completeActiveCommand
  | .dockDeparture stopAtMs =>
    .when (timeReached nowMs stopAtMs) do
      stopDrive
      .act fun w => (w.setActive .none).setBodyState .idle

end World

end Netherwick.Brainstem
