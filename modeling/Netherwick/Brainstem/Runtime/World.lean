import Netherwick.Brainstem.Audio
import Netherwick.Brainstem.Authority
import Netherwick.Brainstem.CreateUart
import Netherwick.Brainstem.Mailbox

/-! # The runtime's own state

`World` is the runtime together with everything it can reach. One call of the runtime sees one
clock value. -/

namespace Netherwick.Brainstem

open Netherwick.Lib

section Config

def runtimeTickMs : UInt32 := 10
def sensorProbePeriodMs : UInt32 := 100
def fullModeRefreshPeriodMs : UInt32 := 1000
def healthyLightStepMs : UInt32 := 100
def lowBatteryPercent : Nat := 20
def lowBatteryAudioClearPercent : Nat := 25
def wakeProbeResponseBytesRequired : UInt8 := 1
def createAxleTrackMm : Int := 258
def motherbrainResetPulseMs : UInt32 := 100
def motherbrainResetCooldownMs : UInt32 := 30000
abbrev motherbrainResetHistoryCapacity : Nat := 16

instance : NeZero motherbrainResetHistoryCapacity := ⟨Nat.succ_ne_zero 15⟩

def motherbrainResetServiceScope : UInt8 := 4
def connectedPowerLedColor : UInt8 := 128
def connectedPowerLedIntensity : UInt8 := 255
def imuPollPeriodMs : UInt32 := 20
def orientationProbeImuMaxAgeMs : UInt32 := imuPollPeriodMs * 5
def orientationProbeMinAccelMmS2 : UInt16 := 7000
def orientationProbeMaxAccelMmS2 : UInt16 := 13000
def contactRepeatWindowMs : UInt32 := 2000
def contactWithdrawalSpeedMmS : Int16 := 80
def contactWithdrawalDurationMs : UInt32 := 300
def dockDepartureSpeedMmS : Int16 := -200
def dockDepartureDurationMs : UInt32 := 1500
def createChargingSourcesPacket : UInt8 := 34
def createChargingSourcesPollPeriodMs : UInt32 := 250
def createCompleteSensorPacket : UInt8 := 0
def createCompleteSensorPollPeriodMs : UInt32 := 750
def createSensorProbePacket : UInt8 := 35
def createLinkFreshnessTimeoutMs : UInt32 := 1000
def imuTiltLatchHoldMs : UInt32 := 100
def carefulModeMinTtlMs : UInt32 := 250
def carefulModeMaxTtlMs : UInt32 := 15000
def powerTogglePulseMs : UInt32 := 500
def createWakeWaitMs : UInt32 := 5000
def createResponsiveTimeoutMs : UInt32 := 6000
def postStartSettleMs : UInt32 := 250
def postModeSettleMs : UInt32 := 100
def imuRecoveryStableMs : UInt32 := 500
def motionInconsistencyCooldownMs : UInt32 := 5000
abbrev commandQueueCapacity : Nat := 16

end Config

inductive RuntimeMode
  | running | idle | error
  deriving DecidableEq, Repr

inductive SafetyResponse
  | stop | contactWithdrawal
  deriving DecidableEq, Repr

inductive ActiveAction
  | none
  | powerPulse (releaseAtMs : UInt32) (wakeWaitUntilMs : Option UInt32) (powerOn : Bool)
  | wakeSettle (untilMs : UInt32)
  | waitForCreate (deadlineMs nextProbeMs : UInt32) (responseBytes : UInt8) (oiStarted : Bool)
      (allowPowerToggleOnTimeout : Bool)
  | settle (untilMs : UInt32)
  | driving (stopAtMs : UInt32)
  | dockDeparture (stopAtMs : UInt32)
  deriving DecidableEq, Repr

namespace ActiveAction

def isPowerPulse : ActiveAction → Bool
  | powerPulse .. => true
  | _ => false

def isDriving : ActiveAction → Bool
  | driving _ => true
  | _ => false

def isDockDeparture : ActiveAction → Bool
  | dockDeparture _ => true
  | _ => false

/-- Are the wheels under a timed program? -/
def isMotion (a : ActiveAction) : Bool := a.isDriving || a.isDockDeparture

end ActiveAction

structure SensorStream where
  packetId : UInt8
  periodMs : UInt32
  nextRequestMs : UInt32
  deriving DecidableEq, Repr

structure MotherbrainResetIdentity where
  sessionHash : UInt32
  leaseHash : UInt32
  commandId : UInt32
  deriving DecidableEq, Repr

inductive MotherbrainResetOutcome
  | refused (reason : MotherbrainResetRefusal)
  | asserted
  | completed
  deriving DecidableEq, Repr

structure MotherbrainResetRecord where
  identity : MotherbrainResetIdentity
  outcome : MotherbrainResetOutcome
  deriving DecidableEq, Repr

structure ActiveMotherbrainReset where
  identity : MotherbrainResetIdentity
  releaseAtMs : UInt32
  deriving DecidableEq, Repr

structure ActiveContactWithdrawal where
  startedAtMs : UInt32
  baselineOdometryMm : Int
  deriving DecidableEq, Repr

structure ActiveVelocity where
  linearMmS : Int16
  angularMradS : Int16
  deriving DecidableEq, Repr

structure ActiveEscape where
  kind : SafetyLatchKind
  hazardGeneration : UInt32
  linearMmS : Int16
  angularMradS : Int16
  ttlMs : UInt32
  deriving DecidableEq, Repr

/-- The fields of `Runtime` but for its drivers and indicators. -/
structure Runtime where
  commands : Deque QueuedCommand commandQueueCapacity := .empty
  lastTickMs : UInt32 := 0
  mode : RuntimeMode := .running
  active : ActiveAction := .none
  activeCommandId : Option UInt32 := none
  activeVelocity : Option ActiveVelocity := none
  activeEscape : Option ActiveEscape := none
  stopSent : Bool := false
  heartbeatStopAtMs : Option UInt32 := none
  carefulModeUntilMs : Option UInt32 := none
  sensorStream : Option SensorStream := none
  nextChargingSourcesPollMs : UInt32 := 0
  nextCompleteSensorPollMs : UInt32 := 0
  nextImuPollMs : UInt32 := 0
  nextFullModeRefreshMs : UInt32 := 0
  nextSupervisionLightMs : UInt32 := 0
  supervisionLightPhase : UInt8 := 0
  safetyLatched : Bool := false
  safetyLatchKind : Option SafetyEventKind := none
  dockDeparturePending : Bool := false
  chargingInterlockLatched : Bool := false
  chirps : FeedbackKind → SongTones × UInt8 := fun _ => (Vector.replicate maxSongTones {}, 0)
  audio : AudioAnnunciator := {}
  songDurationsMs : Vector UInt32 16 := Vector.replicate 16 0
  createResponsive : Bool := false
  estopLatched : Bool := false
  lastBump : Bool := false
  lastCliff : Bool := false
  lastWheelDrop : Bool := false
  safetyObservationInitialized : Bool := false
  tiltObservedSinceMs : Option UInt32 := none
  activeMotherbrainReset : Option ActiveMotherbrainReset := none
  motherbrainResetCooldownUntilMs : UInt32 := 0
  motherbrainResetHardwareEnabled : Bool := false
  motherbrainResetHistory : Vector (Option MotherbrainResetRecord) motherbrainResetHistoryCapacity
    := Vector.replicate motherbrainResetHistoryCapacity none
  motherbrainResetHistoryNext : Fin motherbrainResetHistoryCapacity := 0
  safetyRecoveryMotion : Bool := false
  activeContactWithdrawal : Option ActiveContactWithdrawal := none
  lastContactWithdrawalAtMs : Option UInt32 := none
  repeatedContactCount : UInt8 := 0
  lastObservedUartRxPackets : UInt32 := 0
  lastCreatePacketAtMs : Option UInt32 := none
  lowBatteryActive : Bool := false
  chargingActive : Bool := false
  imuRecoverySinceMs : Option UInt32 := none
  motionInconsistencyCooldownUntilMs : UInt32 := 0
  dockingActive : Bool := false
  lastDockIr : UInt8 := 0
  restartCreatePending : Bool := false
  createFullReady : Bool := false
  everCreateFullReady : Bool := false
  imuFaultActive : Bool := false
  lastMotionInconsistent : Bool := false
  /-- The command id that `poll_control_command` holds in a local between taking a command and
  disposing of it, and whether it was submitted as a renewal. -/
  dispatching : Option (UInt32 × Bool) := none
  /-- What `start_next_command` holds in locals while a command is being executed. -/
  executing : Option Execution := none

structure World where
  dev : Device := {}
  rt : Runtime := {}

abbrev M (α : Type) : Type := Prog World BrainstemError α

namespace World

variable (w : World)

def onRuntime (f : Runtime → Runtime) : World := { w with rt := f w.rt }

def onStatus (f : Status → Status) : World := { w with dev := w.dev.onStatus f }

def observe (o : Obs) : World := { w with dev := w.dev.observe o }

def pushEvent (event : BrainstemEvent) : World := { w with dev := w.dev.pushEvent event }

abbrev st : Status := w.dev.st

abbrev hw : Hardware := w.dev.hw

abbrev log : List Obs := w.dev.st.log

/-- The runtime's millisecond clock is a quotient of the wrapping microsecond counter. -/
def nowMs : UInt32 := w.hw.nowUs / 1000

/-- Let the driver act. -/
def drive {α : Type} (d : Driver α) : M α := fun w => ((d w.dev).1, { w with dev := (d w.dev).2 })

def beginPowerTogglePulse : World :=
  { w with dev := { w.dev.observe (.powerToggle true) with
      hw := { w.dev.hw with powerToggle := true } } }

def endPowerTogglePulse : World :=
  { w with dev := { w.dev.observe (.powerToggle false) with
      hw := { w.dev.hw with powerToggle := false } } }

end World

end Netherwick.Brainstem
