import Netherwick.Brainstem.Events
import Netherwick.Brainstem.Imu

/-! # The shared status record

The statics that the ingress lane and the runtime lane share, grouped by the names they carry in
the source, and the telemetry updates on them. -/

namespace Netherwick.Brainstem

/-- Three-valued observations: nothing known, off, on. -/
inductive Tri
  | unknown | off | on
  deriving DecidableEq, Repr

namespace Tri

def code : Tri → UInt8
  | unknown => 0
  | off => 1
  | on => 2

def ofBool (b : Bool) : Tri := if b then on else off

end Tri

inductive RuntimeState
  | booting | running | idle | error
  deriving DecidableEq, Repr

inductive BodyState
  | notStarted | waitingForCreate | oiStarted | moving | powerCycling | idle | error
  deriving DecidableEq, Repr

inductive ControlCommandCode
  | none | ping | arm | disarm | eStop | clearEStop | cmdVel | stop | status | songPlay | dock
  | setLights | setMode | faceBearing | trackBearing | turnBy | driveFor | bumpEscape
  | heartbeatStop | holdHeading | turnToHeading | arcFor | creepUntil | scanArc | dockAlign
  | wallFollow | wiggleAlign | unstick | cliffGuard | songDefine | driveDirect | driveArc
  | requestSensors | streamSensors | setSafetyPolicy | clearMotionQueue | defineChirp
  | playFeedback | powerState | calibrateTurn | resetOdometry | getCapabilities | getEvents
  | zeroImuOrientation | clearImuOrientation | orientationProbe | restartCreate
  | resetMotherbrain | clearSafetyLatch | carefulMode | escapeMotion | setAudioSilent
  deriving DecidableEq, Repr

/-- The code stored in the mailbox's kind slot. -/
def ControlCommandCode.code (kind : ControlCommandCode) : UInt8 := UInt8.ofNat kind.ctorIdx

/-- `PENDING_COMMAND_*`, `PENDING_VELOCITY_*` and `PENDING_SONG_TONES`. -/
structure Mailbox where
  commandKind : ControlCommandCode := .none
  commandId : UInt32 := 0
  commandA : UInt32 := 0
  commandB : UInt32 := 0
  commandC : UInt32 := 0
  commandD : UInt32 := 0
  commandDurationMs : UInt32 := 0
  commandSeq : UInt32 := 0
  commandServiceSessionHash : UInt32 := 0
  commandServiceLeaseHash : UInt32 := 0
  velocityKind : ControlCommandCode := .none
  velocityId : UInt32 := 0
  velocityA : UInt32 := 0
  velocityB : UInt32 := 0
  velocityTtlMs : UInt32 := 0
  velocitySeq : UInt32 := 0
  velocityIsRenewal : Bool := false
  songTones : Vector UInt32 maxSongTones := Vector.replicate maxSongTones 0
  deriving DecidableEq

/-- Neither slot holds a command. -/
def Mailbox.isEmpty (mb : Mailbox) : Bool := mb.commandKind = .none && mb.velocityKind ≠ .cmdVel

/-- `ACTIVE_VELOCITY_STREAM*`. -/
structure VelocityStream where
  on : Bool := false
  id : UInt32 := 0
  a : UInt32 := 0
  b : UInt32 := 0
  deriving DecidableEq

/-- The `LAST_DISPATCHED_*` identities. -/
structure Dispatched where
  commandId : UInt32 := 0
  serviceSessionHash : UInt32 := 0
  serviceLeaseHash : UInt32 := 0
  deriving DecidableEq

structure Session where
  replaceRequest : UInt32 := 0
  replaceAck : UInt32 := 0
  pendingSessionHash : UInt32 := 0
  pendingPeerDeviceHash : UInt32 := 0
  pendingPeerBootHash : UInt32 := 0
  activePeerDeviceHash : UInt32 := 0
  activePeerBootHash : UInt32 := 0
  activeSessionHash : UInt32 := 0
  activeSessionGeneration : UInt32 := 0
  deriving DecidableEq

/-- Control and service leases. -/
structure Authority where
  request : UInt32 := 0
  ack : UInt32 := 0
  pendingLeaseHash : UInt32 := 0
  pendingLeaseSessionHash : UInt32 := 0
  activeLeaseHash : UInt32 := 0
  activeLeaseSessionHash : UInt32 := 0
  activeLeaseExpiresMs : UInt32 := 0
  activeServiceLeaseHash : UInt32 := 0
  activeServiceSessionHash : UInt32 := 0
  activeServiceLeaseExpiresMs : UInt32 := 0
  activeServiceScope : UInt8 := 0
  deriving DecidableEq

/-- The latches as last published for the ingress lane, and the hazard generation. -/
structure SessionSafety where
  estopLatched : Bool := false
  safetyTripped : Bool := false
  motionInterlock : Bool := false
  latchKind : Option SafetyEventKind := none
  deriving DecidableEq

structure CreateStatus where
  powerState : Tri := .unknown
  oiMode : UInt8 := 0
  uartRxPackets : UInt32 := 0
  chargingIndicatorState : Tri := .unknown
  flags : UInt32 := 0
  irByte : UInt8 := 0
  buttons : UInt8 := 0
  chargingState : UInt8 := 0
  chargingSources : UInt8 := 0
  chargeMah : UInt16 := 0
  capacityMah : UInt16 := 0
  batteryLowLatched : Bool := false
  odometryDistanceMm : Int := 0
  deriving DecidableEq

structure GyroBias where
  sampleCount : UInt32 := 0
  sumX : Int := 0
  sumY : Int := 0
  sumZ : Int := 0
  biasX : Int16 := 0
  biasY : Int16 := 0
  biasZ : Int16 := 0
  deriving DecidableEq

inductive MotionConsistency
  | unknown | consistent | inconsistent
  deriving DecidableEq, Repr

structure ImuStatus where
  health : ImuHealth := .unknown
  sampleCount : UInt32 := 0
  last : ImuSample := {}
  yawMrad : Int := 0
  pitchMrad : Int16 := 0
  rollMrad : Int16 := 0
  accelMagnitudeMmS2 : UInt16 := 0
  tiltMagnitudeMrad : UInt16 := 0
  roughnessMmS2 : UInt16 := 0
  impactScoreMmS2 : UInt16 := 0
  motionConsistency : MotionConsistency := .unknown
  calibrationReady : Bool := false
  tiltActive : Bool := false
  gravity : Option ImuGravityCalibration := none
  bias : GyroBias := {}
  deriving DecidableEq

structure AudioStatus where
  silent : Bool := false
  suppressedBySilentCount : UInt32 := 0
  droppedOrReplacedCount : UInt32 := 0
  deriving DecidableEq

structure Status where
  mailbox : Mailbox := {}
  velocityStream : VelocityStream := {}
  dispatched : Dispatched := {}
  session : Session := {}
  authority : Authority := {}
  safety : SessionSafety := {}
  hazardGeneration : UInt32 := 0
  carefulModeUntilMs : UInt32 := 0
  create : CreateStatus := {}
  imu : ImuStatus := {}
  audio : AudioStatus := {}
  runtimeState : RuntimeState := .booting
  bodyState : BodyState := .notStarted
  eventNextSeq : UInt32 := 1
  log : List Obs := []

namespace Status

def observe (st : Status) (o : Obs) : Status := { st with log := o :: st.log }

/-- `record_public_event`; the sequence number skips zero when it wraps. -/
def recordPublicEvent (st : Status) (kind : PublicEventKind) (a b c : UInt32) : Status :=
  { st with
    eventNextSeq := max (st.eventNextSeq + 1) 1
    log := .event st.eventNextSeq kind a b c :: st.log }

/-- Saturating counter step. -/
def increment (counter : UInt32) : UInt32 := if counter = 0xFFFFFFFF then counter else counter + 1

def packI16Pair (left right : Int16) : UInt32 :=
  (left.toUInt16.toUInt32 <<< 16) ||| right.toUInt16.toUInt32

def encodeOiModePublic : CreateOiMode → UInt32
  | .passive => 1
  | .safe => 2
  | .full => 3

def encodeErrorPublic : BrainstemError → UInt32
  | .createNoResponse => 1
  | .uartFraming => 2
  | .timeout => 3
  | .invalidPacket => 4

/-- `signal_event`: the driver events that also have a public record. -/
def signalEvent (st : Status) : BrainstemEvent → Status
  | .boot => st.recordPublicEvent .boot 0 0 0
  | .createPowerOnRequested => st.recordPublicEvent .bodyPowerRequested 1 0 0
  | .createPowerOffRequested => st.recordPublicEvent .bodyPowerRequested 0 0 0
  | .createPowerToggled => st.recordPublicEvent .bodyPowerChanged 0 0 0
  | .createOiStartRequested => st.recordPublicEvent .bodyModeRequested 0 0 0
  | .createOiModeRequested mode =>
    st.recordPublicEvent .bodyModeRequested (encodeOiModePublic mode) 0 0
  | .createPacketReceived .. | .createSensorPacketDecoded .. | .tickMs _ => st
  | .driveRequested left right duration =>
    st.recordPublicEvent .motionRequested (packI16Pair left right) duration 0
  | .driveStopped => st.recordPublicEvent .motionStopped 0 0 0
  | .error error => st.recordPublicEvent .error (encodeErrorPublic error) 0 0

section Lifecycle

variable (st : Status) (id : UInt32)

def markCommandStarted (code : UInt32) : Status := st.recordPublicEvent .commandStarted id code 0

def markCommandCompleted : Status := st.recordPublicEvent .commandCompleted id 0 0

def markCommandInterrupted : Status := st.recordPublicEvent .commandInterrupted id 0 0

def markCommandTimedOut : Status := st.recordPublicEvent .commandTimedOut id 0 0

def markVelocityStreamActive (linear angular : Int16) : Status :=
  { st with velocityStream :=
      { on := true, id := id, a := linear.toUInt16.toUInt32, b := angular.toUInt16.toUInt32 } }

def clearVelocityStream : Status :=
  { st with velocityStream := { st.velocityStream with on := false, id := 0 } }

end Lifecycle

section Safety

variable (st : Status)

/-- The record's own sequence number becomes the hazard generation. -/
def markSafetyTripped (kind : SafetyEventKind) : Status :=
  { st.recordPublicEvent .safetyTripped kind.code 0 0 with hazardGeneration := st.eventNextSeq }

def markSafetyCleared (kind : SafetyEventKind) : Status :=
  { st.recordPublicEvent .safetyCleared kind.code 0 0 with hazardGeneration := 0 }

def markContactWithdrawalStarted (contactBits repeated : UInt8) (preemptedCommandId : UInt32)
    (speed duration : UInt16) : Status :=
  st.recordPublicEvent .contactWithdrawalStarted
    ((contactBits &&& 3).toUInt32 ||| (repeated.toUInt32 <<< 8)) preemptedCommandId
    (speed.toUInt32 ||| (duration.toUInt32 <<< 16))

def markContactWithdrawalCompleted (outcome : ContactWithdrawalOutcome)
    (dominating : Option SafetyEventKind) (finalStopped : Bool) (displacementMm : Int)
    (elapsedMs : UInt32) : Status :=
  st.recordPublicEvent .contactWithdrawalCompleted
    (outcome.code ||| (dominating.elim 0 SafetyEventKind.code <<< 8)
      ||| (if finalStopped then 0x10000 else 0))
    (UInt32.ofInt displacementMm) elapsedMs

def markBumpChanged (active : Bool) : Status :=
  st.recordPublicEvent .bumpChanged (if active then 1 else 0) 0 0

def markCliffChanged (active : Bool) : Status :=
  st.recordPublicEvent .cliffChanged (if active then 1 else 0) 0 0

def markWheelDropLatched : Status := st.recordPublicEvent .wheelDropLatched 1 0 0

def markWheelDropCleared : Status := st.recordPublicEvent .wheelDropCleared 0 0 0

def markHeartbeatExpired : Status := st.recordPublicEvent .heartbeatExpired 0 0 0

def markEStopLatched : Status := st.recordPublicEvent .eStopLatched 1 0 0

def markEStopCleared : Status := st.recordPublicEvent .eStopCleared 0 0 0

def setSessionSafetySnapshot (safety : SessionSafety) : Status := { st with safety }

def setCarefulModeUntil (deadline : Option UInt32) : Status :=
  { st with carefulModeUntilMs := deadline.getD 0 }

end Safety

section Create

variable (st : Status)

/-- What is forgotten when the Create is off or its power state unknown. -/
def clearCreateSensorSnapshot : Status :=
  { st with create := { st.create with
      flags := 0, irByte := 0, buttons := 0, chargingState := 0, chargingSources := 0,
      chargeMah := 0, capacityMah := 0 } }

def setCreatePowerOn (on : Bool) : Status :=
  let st := { st with create := { st.create with powerState := Tri.ofBool on } }
  if on then st else st.clearCreateSensorSnapshot

def setCreatePowerUnknown : Status :=
  { st with create := { st.create with powerState := .unknown } }.clearCreateSensorSnapshot

def setOiModeUnknown : Status := { st with create := { st.create with oiMode := 0 } }

def markCreateChargingIndicator (active : Option Bool) : Status :=
  { st with create := { st.create with
      chargingIndicatorState := active.elim .unknown Tri.ofBool } }

def markUartPacket : Status :=
  { st with create := { st.create with uartRxPackets := increment st.create.uartRxPackets } }

def chargingInterlockActive : Bool :=
  st.create.chargingIndicatorState = .on
    || (1 ≤ st.create.chargingState && st.create.chargingState ≤ 3)

end Create

def knownCreatePowerState : Tri → Option Bool
  | .off => some false
  | .on => some true
  | .unknown => none

def flagMask (position : UInt32) : UInt32 := 1 <<< position

/-- A Boolean as a single bit. -/
def bit (b : Bool) (position : UInt32) : UInt32 := if b then flagMask position else 0

/-- `create_sensor_flags_bits`: bit 0 is the left bumper, bit 1 the right one. -/
def createSensorFlagsBits (flags : CreateSensorFlags) : UInt32 :=
  bit flags.bumpLeft 0 ||| bit flags.bumpRight 1 ||| bit flags.wheelDrop 2 ||| bit flags.wall 3
    ||| bit flags.cliffLeft 4 ||| bit flags.cliffFrontLeft 5 ||| bit flags.cliffFrontRight 6
    ||| bit flags.cliffRight 7 ||| bit flags.virtualWall 8 ||| bit flags.overcurrent 9

def packetFlagsMask (packetId : UInt8) : UInt32 :=
  match packetId.toNat with
  | 0 => 0x3FF
  | 7 => 0x7
  | 8 => flagMask 3
  | 9 => flagMask 4
  | 10 => flagMask 5
  | 11 => flagMask 6
  | 12 => flagMask 7
  | 13 => flagMask 8
  | 14 => flagMask 9
  | _ => 0

def mergeCreateSensorFlags (packetId : UInt8) (oldFlags packetFlags : UInt32) : UInt32 :=
  (oldFlags &&& ~~~ packetFlagsMask packetId) ||| (packetFlags &&& packetFlagsMask packetId)

def changed (oldFlags newFlags mask : UInt32) : Bool := oldFlags &&& mask != newFlags &&& mask

def batteryPercent (chargeMah capacityMah : UInt16) : Option UInt8 :=
  if capacityMah = 0 then none
  else some (UInt8.ofNat (min (chargeMah.toNat * 100 / capacityMah.toNat) 100))

/-- Is this the complete packet or the one carrying just the given field? -/
def packetHas (packetId field : UInt8) : Bool := packetId = 0 || packetId = field

def recordIf (c : Bool) (kind : PublicEventKind) (a : UInt32) (st : Status) : Status :=
  if c then st.recordPublicEvent kind a 0 0 else st

/-- The low-battery record is made once for each descent below the threshold. -/
def recordBatteryLow (old : CreateStatus) (percent : Option UInt8) (st : Status) : Status :=
  match percent with
  | none => st
  | some percent =>
    let oldLow := (batteryPercent old.chargeMah old.capacityMah).any (· ≤ 20)
    if percent ≤ 20 && (!oldLow || !st.create.batteryLowLatched) then
      let st := st.recordPublicEvent .batteryLow percent.toUInt32 0 0
      { st with create := { st.create with batteryLowLatched := true } }
    else if !(percent ≤ 20) then
      { st with create := { st.create with batteryLowLatched := false } }
    else st

/-- `record_sensor_edge_events`: compare the record before a packet with what it brought. -/
def recordSensorEdgeEvents (packetId : UInt8) (old : CreateStatus) (sensors : CreateSensorPacket)
    (st : Status) : Status :=
  let newFlags := mergeCreateSensorFlags packetId old.flags (createSensorFlagsBits sensors.flags)
  let newCharge := if packetHas packetId 25 then sensors.chargeMah else old.chargeMah
  let newCapacity := if packetHas packetId 26 then sensors.capacityMah else old.capacityMah
  st
    |> recordIf (changed old.flags newFlags (flagMask 3)) .wallChanged
        (if newFlags &&& (flagMask 3) != 0 then 1 else 0)
    |> recordIf (changed old.flags newFlags (flagMask 8)) .virtualWallChanged
        (if newFlags &&& (flagMask 8) != 0 then 1 else 0)
    |> recordIf (packetHas packetId 21 && old.chargingState != sensors.chargingState)
        .chargingStateChanged sensors.chargingState.toUInt32
    |> recordIf (packetHas packetId 18 && old.buttons != sensors.buttons)
        .buttonsChanged sensors.buttons.toUInt32
    |> recordIf (packetHas packetId 17 && old.irByte != sensors.irByte)
        .irChanged sensors.irByte.toUInt32
    |> recordBatteryLow old (batteryPercent newCharge newCapacity)

/-- `mark_create_sensor_packet`: merge a decoded packet and report the edges. -/
def markCreateSensorPacket (packetId : UInt8) (sensors : CreateSensorPacket) (st : Status) :
    Status :=
  let old := st.create
  let create : CreateStatus := { old with
    oiMode := if packetId = 35 then sensors.oiMode else old.oiMode
    flags := mergeCreateSensorFlags packetId old.flags (createSensorFlagsBits sensors.flags)
    irByte := if packetHas packetId 17 then sensors.irByte else old.irByte
    buttons := if packetHas packetId 18 then sensors.buttons else old.buttons
    chargingState := if packetHas packetId 21 then sensors.chargingState else old.chargingState
    chargingSources := if packetId = 34 then sensors.chargingSources else old.chargingSources
    chargeMah := if packetHas packetId 25 then sensors.chargeMah else old.chargeMah
    capacityMah := if packetHas packetId 26 then sensors.capacityMah else old.capacityMah
    odometryDistanceMm :=
      if packetHas packetId 19 then satI32 (old.odometryDistanceMm + sensors.distanceMm.toInt)
      else old.odometryDistanceMm }
  recordSensorEdgeEvents packetId old sensors { st with create }

def markOdometryReset (st : Status) : Status :=
  { st with
    create := { st.create with odometryDistanceMm := 0 }
    imu := { st.imu with yawMrad := 0 } }

section Imu

def imuTiltStopMrad : Int16 := 650

def imuImpactStopMmS2 : UInt16 := 18000

def imuGyroBiasRequiredSamples : UInt32 := 50

/-- The stored tilt is compared as a signed 16-bit value. -/
def tiltStops (tiltMagnitudeMrad : UInt16) : Bool := imuTiltStopMrad ≤ tiltMagnitudeMrad.toInt16

def GyroBias.calibrated (bias : GyroBias) : Bool := imuGyroBiasRequiredSamples ≤ bias.sampleCount

def updateStationaryGyroBias (bias : GyroBias) (sample : ImuSample) : GyroBias :=
  let square (v : Int16) : Int := satI32 (v.toInt * v.toInt)
  let accelSquare := satI32 (satI32 (square sample.accelXMmS2 + square sample.accelYMmS2)
    + square sample.accelZMmS2)
  let plausibleGravity := 9200 * 9200 ≤ accelSquare ∧ accelSquare ≤ 10400 * 10400
  let quiet := sample.gyroXMradS.toInt.natAbs ≤ 80 ∧ sample.gyroYMradS.toInt.natAbs ≤ 80
    ∧ sample.gyroZMradS.toInt.natAbs ≤ 80
  if GyroBias.calibrated bias ∨ ¬ plausibleGravity ∨ ¬ quiet then bias
  else
    let sumX := satI32 (bias.sumX + sample.gyroXMradS.toInt)
    let sumY := satI32 (bias.sumY + sample.gyroYMradS.toInt)
    let sumZ := satI32 (bias.sumZ + sample.gyroZMradS.toInt)
    let count := increment bias.sampleCount
    if count = imuGyroBiasRequiredSamples then
      { sampleCount := count, sumX, sumY, sumZ
        biasX := Int16.ofInt (Int.tdiv sumX 50)
        biasY := Int16.ofInt (Int.tdiv sumY 50)
        biasZ := Int16.ofInt (Int.tdiv sumZ 50) }
    else { bias with sampleCount := count, sumX, sumY, sumZ }

private def withoutBias (value bias : Int16) : Int16 := clampI16 (value.toInt - bias.toInt)

/-- `mark_imu_sample`. -/
def markImuSample (sample : ImuSample) (st : Status) : Status :=
  let bias := updateStationaryGyroBias st.imu.bias sample
  let sample := if GyroBias.calibrated bias then
      { sample with
        gyroXMradS := withoutBias sample.gyroXMradS bias.biasX
        gyroYMradS := withoutBias sample.gyroYMradS bias.biasY
        gyroZMradS := withoutBias sample.gyroZMradS bias.biasZ }
    else sample
  let derived := deriveSampleInner st.imu.yawMrad st.imu.last.timestampMs
    st.imu.accelMagnitudeMmS2 sample st.imu.gravity
  let newTilt := tiltStops derived.tiltMagnitudeMrad
  let imu : ImuStatus :=
    { health := .ok
      sampleCount := increment st.imu.sampleCount
      last := sample
      yawMrad := derived.yawMrad
      pitchMrad := derived.pitchMrad
      rollMrad := derived.rollMrad
      accelMagnitudeMmS2 := derived.accelMagnitudeMmS2
      tiltMagnitudeMrad := derived.tiltMagnitudeMrad
      roughnessMmS2 := derived.roughnessMmS2
      impactScoreMmS2 := derived.impactScoreMmS2
      motionConsistency := .consistent
      calibrationReady := st.imu.gravity.isSome
      tiltActive := newTilt
      gravity := st.imu.gravity
      bias }
  { st with imu }
    |> recordIf (st.imu.health != .ok) .imuFault 1
    |> (fun s => if st.imu.tiltActive != newTilt then
        s.recordPublicEvent .tiltChanged (if newTilt then 1 else 0)
          derived.tiltMagnitudeMrad.toUInt32 0
      else s)
    |> (fun s => if imuImpactStopMmS2 ≤ derived.impactScoreMmS2 then
        s.recordPublicEvent .impactDetected derived.impactScoreMmS2.toUInt32
          derived.accelMagnitudeMmS2.toUInt32 0
      else s)

/-- `zero_imu_orientation_from_gravity`: false when no usable sample is at hand. -/
def zeroImuOrientationFromGravity (st : Status) : Bool × Status :=
  if st.imu.sampleCount = 0 then (false, st)
  else match ImuGravityCalibration.fromStationarySample st.imu.last with
    | none => (false, { st with imu := { st.imu with calibrationReady := false } })
    | some calibration =>
      let st' := { st with imu := { st.imu with
        gravity := some calibration, yawMrad := 0, pitchMrad := 0, rollMrad := 0
        tiltMagnitudeMrad := 0, tiltActive := false, calibrationReady := true } }
      (true, st'.recordPublicEvent .imuCalibrationChanged 3
        calibration.referenceMagnitudeMmS2.toUInt32 st.imu.sampleCount)

def clearImuOrientationCalibration (st : Status) : Status :=
  { st with imu := { st.imu with gravity := none, bias := {}, calibrationReady := false } }
    |>.recordPublicEvent .imuCalibrationChanged 0 0 st.imu.sampleCount

def imuHealthCode : ImuHealth → UInt32
  | .unknown => 0
  | .ok => 1
  | .fault => 2
  | .absent => 3

def markImuHealth (health : ImuHealth) (st : Status) : Status :=
  { st with imu := { st.imu with health } }
    |> recordIf (st.imu.health != health) .imuFault (imuHealthCode health)

/-- Is the inertial unit trusted, and does its reading call for a stop? -/
def imuOk (st : Status) : Bool := st.imu.health = .ok

def tiltObserved (st : Status) : Bool := st.imuOk && tiltStops st.imu.tiltMagnitudeMrad

def impactObserved (st : Status) : Bool :=
  st.imuOk && imuImpactStopMmS2 ≤ st.imu.impactScoreMmS2

end Imu

section Sensors

variable (st : Status)

def bumpFlags : UInt32 := st.create.flags &&& 0b11

def bump : Bool := st.create.flags &&& 0b11 != 0

def wheelDrop : Bool := st.create.flags &&& 0b100 != 0

def cliff : Bool := st.create.flags &&& 0b11110000 != 0

def homeBase : Bool := st.create.chargingSources &&& 0b10 != 0

end Sensors

section Audio

variable (st : Status)

def incrementAudioSuppressedBySilent : Status :=
  { st with audio := { st.audio with
      suppressedBySilentCount := increment st.audio.suppressedBySilentCount } }

def incrementAudioDroppedOrReplaced (count : UInt32) : Status :=
  { st with audio := { st.audio with
      droppedOrReplacedCount := st.audio.droppedOrReplacedCount + count } }

def setAudioSilent (silent : Bool) : Status :=
  { st with audio := { st.audio with silent } }
    |> recordIf (st.audio.silent != silent) .audioStateChanged (if silent then 1 else 0)

end Audio

end Status

end Netherwick.Brainstem
