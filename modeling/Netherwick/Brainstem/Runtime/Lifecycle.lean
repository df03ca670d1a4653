import Netherwick.Brainstem.Runtime.CommandQueue

/-! # One tick of the runtime -/

namespace Netherwick.Brainstem

open Netherwick.Lib

namespace World

section Sensors

/-- `poll_sensor_stream`: the two fixed polls go before the requested stream. -/
def pollSensorStream : M Unit := do
  let w ← .get
  let nowMs := w.nowMs
  if !w.rt.createResponsive then pure ()
  else if timeReached nowMs w.rt.nextChargingSourcesPollMs then
    drive (Device.requestSensorPacket createChargingSourcesPacket)
    .act (·.onRuntime fun rt =>
      { rt with nextChargingSourcesPollMs := nowMs + createChargingSourcesPollPeriodMs })
  else if timeReached nowMs w.rt.nextCompleteSensorPollMs then
    drive (Device.requestSensorPacket createCompleteSensorPacket)
    .act (·.onRuntime fun rt =>
      { rt with nextCompleteSensorPollMs := nowMs + createCompleteSensorPollPeriodMs })
  else match w.rt.sensorStream with
    | none => pure ()
    | some stream =>
      if timeReached nowMs stream.nextRequestMs then
        drive (Device.requestSensorPacket stream.packetId)
        .act (·.onRuntime fun rt =>
          { rt with sensorStream := some { stream with nextRequestMs := nowMs + stream.periodMs } })
      else pure ()

def pollImu (w : World) : World :=
  if !timeReached w.nowMs w.rt.nextImuPollMs then w
  else
    let w := w.onRuntime fun rt => { rt with nextImuPollMs := w.nowMs + imuPollPeriodMs }
    match w.hw.imuPoll with
    | .ok (some sample) => w.onStatus (·.markImuSample sample)
    | .ok none => w
    | .error health => w.onStatus (·.markImuHealth health)

def pollChargingIndicator (w : World) : World :=
  w.onStatus (·.markCreateChargingIndicator w.hw.chargingIndicator)

/-- Ask for a cue when a condition holds. -/
def requestAudioIf (c : Bool) (cue : AuditoryCue) (w : World) : World :=
  if c then w.requestAudio cue else w

def lowBattery (w : World) : Bool :=
  let threshold := if w.rt.lowBatteryActive then lowBatteryAudioClearPercent else lowBatteryPercent
  0 < w.st.create.capacityMah
    && w.st.create.chargeMah.toNat * 100 ≤ w.st.create.capacityMah.toNat * threshold

def observeBattery (w : World) : World :=
  let lowBattery := w.lowBattery
  (w.requestAudioIf (lowBattery && !w.rt.lowBatteryActive) .lowBattery).onRuntime fun rt =>
    { rt with lowBatteryActive := lowBattery }

def observeCharging (w : World) : World :=
  let charging := w.st.chargingInterlockActive || w.st.homeBase
  (w.requestAudioIf (charging && !w.rt.chargingActive) .dockContact).onRuntime fun rt =>
    { rt with
      dockingActive := rt.dockingActive && !(charging && !w.rt.chargingActive)
      chargingActive := charging }

def observeImuFault (w : World) : World :=
  let imuFault : Bool := w.st.imu.health = .fault || w.st.imu.health = .absent
  if imuFault && !w.rt.imuFaultActive then
    (w.requestAudio .imuFault).onRuntime fun rt =>
      { rt with imuFaultActive := true, imuRecoverySinceMs := none }
  else if w.rt.imuFaultActive && w.st.imuOk then
    let recoverySince := w.rt.imuRecoverySinceMs.getD w.nowMs
    if imuRecoveryStableMs ≤ w.nowMs - recoverySince then
      (w.requestAudio .recovery).onRuntime fun rt =>
        { rt with imuFaultActive := false, imuRecoverySinceMs := none }
    else w.onRuntime fun rt => { rt with imuRecoverySinceMs := some recoverySince }
  else if w.rt.imuFaultActive then
    w.onRuntime fun rt => { rt with imuRecoverySinceMs := none }
  else w

def observeConsistency (w : World) : World :=
  let inconsistent : Bool := w.st.imu.motionConsistency = .inconsistent
  let asks := inconsistent && !w.rt.lastMotionInconsistent
    && timeReached w.nowMs w.rt.motionInconsistencyCooldownUntilMs
  (w.requestAudioIf asks .motionInconsistency).onRuntime fun rt =>
    { rt with
      motionInconsistencyCooldownUntilMs :=
        if asks then w.nowMs + motionInconsistencyCooldownMs
        else rt.motionInconsistencyCooldownUntilMs
      lastMotionInconsistent := inconsistent }

def observeDock (w : World) : World :=
  let irByte := w.st.create.irByte
  (w.requestAudioIf (w.rt.dockingActive && irByte != 0 && w.rt.lastDockIr = 0)
    .dockSeen).onRuntime fun rt => { rt with lastDockIr := irByte }

def observeFullReady (w : World) : World :=
  let fullReady := w.rt.createResponsive && w.st.create.oiMode = 3
  if fullReady && !w.rt.createFullReady then
    (w.requestAudio (if w.rt.restartCreatePending then .serviceComplete
        else if w.rt.everCreateFullReady then .recovery else .armed)).onRuntime fun rt =>
      { rt with restartCreatePending := false, everCreateFullReady := true
                createFullReady := fullReady }
  else w.onRuntime fun rt => { rt with createFullReady := fullReady }

def observeAudioTransitions (w : World) : World :=
  w.observeBattery.observeCharging.observeImuFault.observeConsistency.observeDock.observeFullReady

end Sensors

section Ownership

def yieldToOwner (w : World) : World :=
  if w.rt.activeContactWithdrawal.isNone then
    (w.interruptAndClear.setActive .none).tryStopDrive.setBodyAtRest
  else w

def pollSessionReplace (w : World) : World :=
  match w.st.pendingSessionReplace with
  | none => w
  | some generation =>
    let w := w.clearHeartbeat.cancelCarefulMode
      |>.onRuntime (fun rt => { rt with sensorStream := none })
      |>.yieldToOwner |>.publishSafetySnapshot
    w.onStatus fun st => st.acknowledgeSessionReplace generation st.session.pendingSessionHash

def pollAuthorityTransition (w : World) : World :=
  match w.st.pendingAuthorityTransition with
  | none => w
  | some generation =>
    if w.st.pendingAuthorityContinuesOwner w.nowMs then
      w.onStatus (·.acknowledgeAuthorityTransition generation)
    else
      let replacing := w.st.hasActiveAuthority w.nowMs
      (w.clearHeartbeat.cancelCarefulMode.yieldToOwner.onStatus
          (·.acknowledgeAuthorityTransition generation)).requestAudio
        (if replacing then .authorityReplaced else .authorityAcquired)

/-- An expired lease ends what its owner had in progress. -/
def expireAuthority (w : World) : World :=
  let expired := (w.st.takeExpiredAuthority w.nowMs).1
  let w := w.onStatus fun st => (st.takeExpiredAuthority w.nowMs).2
  if expired then
    let w := (w.requestAudio .authorityLost).clearHeartbeat.cancelCarefulMode
    if w.rt.activeContactWithdrawal.isNone then
      (w.interruptAndClear.setActive .none).tryStopDrive
    else w
  else w

end Ownership

section Link

/-- `Timers::poll`. -/
def pollTimers (w : World) : World :=
  if w.nowMs != w.rt.lastTickMs then
    { w with
      dev := { w.dev with events := w.dev.events.pushBack (.tickMs w.nowMs) }
      rt := { w.rt with lastTickMs := w.nowMs } }
  else w

def notePackets (w : World) : World :=
  if w.st.create.uartRxPackets != w.rt.lastObservedUartRxPackets then
    w.onRuntime fun rt => { rt with
      lastObservedUartRxPackets := w.st.create.uartRxPackets
      lastCreatePacketAtMs := some w.nowMs }
  else w

def judgeLink (w : World) : World :=
  let fresh := w.rt.lastCreatePacketAtMs.any fun last =>
    w.nowMs - last ≤ createLinkFreshnessTimeoutMs
  if 1 ≤ w.st.create.oiMode ∧ w.st.create.oiMode ≤ 3 ∧ fresh then
    (w.onRuntime fun rt => { rt with createResponsive := true }).onStatus (·.setCreatePowerOn true)
  else if w.rt.lastCreatePacketAtMs.isSome && !fresh then
    (w.onRuntime fun rt => { rt with createResponsive := false }).cancelCarefulMode.onStatus
      (·.setOiModeUnknown)
  else w

def pollLink (w : World) : World :=
  let wasCreateResponsive := w.rt.createResponsive
  let w := w.notePackets.judgeLink
  if wasCreateResponsive && !w.rt.createResponsive then
    (w.onRuntime fun rt => { rt with createFullReady := false }).requestAudio .createError
  else w

def poll (w : World) : World :=
  let w := w.pollSessionReplace.pollAuthorityTransition.pollTimers
  { w with dev := w.dev.poll }.pollLink.pollControlCommand

end Link

section Mode

def createChargingActive (st : Status) : Bool :=
  st.create.chargingIndicatorState = .on
    || (1 ≤ st.create.chargingState && st.create.chargingState ≤ 3)

def lowBatteryAndCharging (st : Status) : Bool :=
  createChargingActive st && 0 < st.create.capacityMah
    && st.create.chargeMah.toNat * 100 ≤ st.create.capacityMah.toNat * lowBatteryPercent

/-- A Create that reports Full mode already is only reminded of it. -/
def enterFullMode (oiMode : UInt8) : Driver Unit :=
  if oiMode = 3 then Device.refreshFullMode else Device.setMode .full

/-- Assert Full mode; what is sent depends on what the Create last reported. -/
def assertFullMode (createResponsive : Bool) (oiMode : UInt8) : Driver Unit := do
  .when (!createResponsive ∨ oiMode ≠ 3) Device.startOi
  enterFullMode oiMode
  .when (oiMode = 0) Device.startModeStream

def scheduleFullModeRefresh (w : World) : World :=
  w.onRuntime fun rt => { rt with nextFullModeRefreshMs := w.nowMs + fullModeRefreshPeriodMs }

def maintainFullMode : M Unit := do
  let w ← .get
  if !timeReached w.nowMs w.rt.nextFullModeRefreshMs then pure ()
  else if w.rt.active.isMotion then
    if w.st.create.oiMode ≠ 3 then
      stopDrive
      .act fun w => w.interruptActiveCommand.setActive .none
      .fail .createNoResponse
    else .act scheduleFullModeRefresh
  else if lowBatteryAndCharging w.st && w.st.create.oiMode = 3 then pure ()
  else
    drive (assertFullMode w.rt.createResponsive w.st.create.oiMode)
    .act scheduleFullModeRefresh

/-- The lights that show the runtime's state, and for how long. -/
def supervisionLights (w : World) : (UInt8 × UInt8 × UInt8) × UInt32 :=
  if w.rt.mode = .error then
    if w.rt.supervisionLightPhase &&& 1 = 0 then ((Device.createButtonLedMask, 255, 255), 300)
    else ((0, 255, 0), 300)
  else if w.rt.estopLatched || w.rt.safetyLatched || w.rt.chargingInterlockLatched then
    ((Device.createButtonLedMask, 255, 255), 500)
  else
    ((if (w.rt.supervisionLightPhase / 8) &&& 1 = 0 then Device.createLedPlay
      else Device.createLedAdvance, connectedPowerLedColor, connectedPowerLedIntensity),
      healthyLightStepMs)

def animateSupervisionLights : M Unit := do
  let w ← .get
  if !w.rt.createResponsive || w.st.create.oiMode != 3
      || !timeReached w.nowMs w.rt.nextSupervisionLightMs then pure ()
  else
    let ((ledBits, color, intensity), periodMs) := w.supervisionLights
    drive (Device.setSupervisionLights ledBits color intensity)
    .act (·.onRuntime fun rt => { rt with
      supervisionLightPhase := rt.supervisionLightPhase + 1
      nextSupervisionLightMs := w.nowMs + periodMs })

end Mode

/-- `poll_audio`: play the next cue in the slot kept for cues. -/
def pollAudio (w : World) : World :=
  if !w.rt.createResponsive then w
  else
    let nowMs := w.nowMs
    let (ready, audio) := w.rt.audio.takeReady nowMs
    let w := w.onRuntime fun rt => { rt with audio }
    match ready with
    | none => w
    | some cue =>
      w.playOrDrop (defineAndPlay automaticCueSlot (cueTones cue).1 (cueTones cue).2)
        (·.onRuntime fun rt => { rt with audio := rt.audio.markPlayed cue nowMs })

/-- Start the next command of a free runtime; with nothing left to do it falls idle. -/
def startOrIdle (w : World) : World :=
  if w.rt.active ≠ .none then w
  else match startNextCommand w with
    | (.error error, w) => w.enterError error
    | (.ok (), w) =>
      if w.rt.commands.isEmpty && w.rt.active = .none then w.enterIdle else w

def runMode : M Unit := do
  let w ← .get
  match w.rt.mode with
  | .running =>
    advanceActiveAction
    .act startOrIdle
  | .idle | .error => pure ()

/-- The part of a tick that an error cuts short. -/
def superviseAndRun : M Unit := do
  pollSensorStream
  enforceCarefulModeTimeout
  enforceSafetyPolicy
  enforceHeartbeatStop
  .act publishSafetySnapshot
  maintainFullMode
  animateSupervisionLights
  .act expireAuthority
  runMode
  .act pollAudio

/-- The part of a tick that cannot fail. -/
def observeInputs (w : World) : World :=
  w.poll.pollMotherbrainReset.pollChargingIndicator.pollImu.observeAudioTransitions

def tick (w : World) : World := superviseAndRun.handle enterError w.observeInputs

/-- `Runtime::new`. -/
def new (w : World) : World :=
  { dev := { w.dev with
      uart := {}
      events := Deque.empty.pushBack .boot
      st := ({ w.st.signalEvent .boot with
          runtimeState := .booting, bodyState := .notStarted
          carefulModeUntilMs := 0 }.setAudioSilent false) }
    rt := { lastObservedUartRxPackets := w.st.create.uartRxPackets } }

/-- `start`. -/
def start (w : World) : World :=
  (w.queueCreateAcquisition 0).onStatus fun st => { st with runtimeState := .running }

end World

end Netherwick.Brainstem
