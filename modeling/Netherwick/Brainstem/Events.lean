import Netherwick.Brainstem.Commands

/-! # Events, errors and what an observer can see

`BrainstemEvent` travels from the drivers to the runtime. `Obs` is the trace of a run: the public
event records, the frames handed to the Create, and the branches whose consequences are studied. -/

namespace Netherwick.Brainstem

inductive BrainstemError
  | createNoResponse | uartFraming | timeout | invalidPacket
  deriving DecidableEq, Repr

structure CreateSensorFlags where
  bumpLeft : Bool := false
  bumpRight : Bool := false
  wheelDrop : Bool := false
  wall : Bool := false
  cliffLeft : Bool := false
  cliffFrontLeft : Bool := false
  cliffFrontRight : Bool := false
  cliffRight : Bool := false
  virtualWall : Bool := false
  overcurrent : Bool := false
  deriving DecidableEq, Repr

structure CreateSensorPacket where
  flags : CreateSensorFlags := {}
  irByte : UInt8 := 0
  buttons : UInt8 := 0
  distanceMm : Int16 := 0
  angleMrad : Int16 := 0
  chargingState : UInt8 := 0
  chargingSources : UInt8 := 0
  oiMode : UInt8 := 0
  voltageMv : UInt16 := 0
  currentMa : Int16 := 0
  temperatureC : Int8 := 0
  chargeMah : UInt16 := 0
  capacityMah : UInt16 := 0
  cliffLeftSignal : UInt16 := 0
  cliffFrontLeftSignal : UInt16 := 0
  cliffFrontRightSignal : UInt16 := 0
  cliffRightSignal : UInt16 := 0
  deriving DecidableEq, Repr

inductive BrainstemEvent
  | boot
  | tickMs (nowMs : UInt32)
  | createPowerOnRequested
  | createPowerOffRequested
  | createPowerToggled
  | createOiStartRequested
  | createOiModeRequested (mode : CreateOiMode)
  | createPacketReceived (packetId : UInt8) (bytes : List UInt8)
  | createSensorPacketDecoded (packetId : UInt8) (sensors : CreateSensorPacket)
  | driveRequested (leftMmS rightMmS : Int16) (durationMs : UInt32)
  | driveStopped
  | error (error : BrainstemError)
  deriving DecidableEq

/-- Can this event decide a wake? -/
def decisive : BrainstemEvent → Bool
  | .createPacketReceived _ bytes => !bytes.isEmpty
  | .error _ => true
  | _ => false

inductive SafetyEventKind
  | bump | cliff | wheelDrop | eStop | heartbeat | tilt | impact | charging
  deriving DecidableEq, Repr

namespace SafetyEventKind

def code : SafetyEventKind → UInt32
  | bump => 1
  | cliff => 2
  | wheelDrop => 3
  | eStop => 4
  | heartbeat => 5
  | tilt => 6
  | impact => 7
  | charging => 8

end SafetyEventKind

def safetyLatchKindToEvent : SafetyLatchKind → SafetyEventKind
  | .bump => .bump
  | .cliff => .cliff
  | .wheelDrop => .wheelDrop
  | .heartbeat => .heartbeat
  | .tilt => .tilt
  | .impact => .impact
  | .charging => .charging

def recoverableSafetyLatch : Option SafetyEventKind → Bool
  | some .bump | some .cliff => true
  | _ => false

inductive ContactWithdrawalOutcome
  | completed | safetyPreempted | failed
  deriving DecidableEq, Repr

namespace ContactWithdrawalOutcome

def code : ContactWithdrawalOutcome → UInt32
  | completed => 1
  | safetyPreempted => 2
  | failed => 3

end ContactWithdrawalOutcome

inductive MotherbrainResetRefusal
  | hardwareDisabled | unsafeState | cooldown | duplicate | invalidServiceAuthority
  | invalidCommandId
  deriving DecidableEq, Repr

namespace MotherbrainResetRefusal

def code : MotherbrainResetRefusal → UInt32
  | hardwareDisabled => 1
  | unsafeState => 2
  | cooldown => 3
  | duplicate => 4
  | invalidServiceAuthority => 5
  | invalidCommandId => 6

end MotherbrainResetRefusal

inductive PublicEventKind
  | boot | commandAccepted | commandRejected | commandStarted | commandCompleted
  | commandInterrupted | commandTimedOut | bodyPowerRequested | bodyPowerChanged
  | bodyModeRequested | motionRequested | motionStopped | safetyTripped | safetyCleared
  | bumpChanged | cliffChanged | wheelDropLatched | wheelDropCleared | wallChanged
  | virtualWallChanged | batteryLow | chargingStateChanged | buttonsChanged | irChanged
  | heartbeatExpired | eStopLatched | eStopCleared | imuFault | tiltChanged | impactDetected
  | imuCalibrationChanged | error | sessionOpened | sessionReplaced | peerRebootDetected
  | authorityChanged | motherbrainResetRequested | motherbrainResetAsserted
  | motherbrainResetCompleted | motherbrainResetRefused | contactWithdrawalStarted
  | contactWithdrawalCompleted | commandRenewed | audioStateChanged
  deriving DecidableEq, Repr

namespace PublicEventKind

/-- The kinds that end the life of the command they name. -/
def terminal : PublicEventKind → Bool
  | commandCompleted | commandInterrupted | commandTimedOut | commandRenewed => true
  | _ => false

/-- The kinds that tell of a hazard, raised or lifted. -/
def hazard : PublicEventKind → Bool
  | safetyTripped | safetyCleared => true
  | _ => false

end PublicEventKind

/-- What lifts a safety latch, with the command that is being executed then. -/
inductive LiftCause
  /-- `clear_safety_latch`; was the condition behind the latch still observed? -/
  | cleared (command : Option RuntimeCommand) (present : Bool)
  /-- The gates open for careful mode; was it active before? -/
  | careful (command : Option RuntimeCommand) (active : Bool)
  | homeBase
  deriving DecidableEq

/-- Why a power pulse was begun, with what was then known of the Create. -/
inductive PulseCause
  | sleep (powerState : Option Bool)
  | wake (powerState : Option Bool)
  | timeout (nowMs deadlineMs : UInt32)
  deriving DecidableEq, Repr

/-- One entry of the trace of a run. -/
inductive Obs
  | event (seq : UInt32) (kind : PublicEventKind) (a b c : UInt32)
  /-- A frame offered to the UART, of which so many bytes went out. -/
  | sent (frame : List UInt8) (written : Nat)
  /-- The level of the Create power-toggle line was driven. -/
  | powerToggle (asserted : Bool)
  /-- The runtime's safety latch took this value. -/
  | latch (kind : Option SafetyEventKind)
  /-- The latch is about to be lifted. -/
  | lifting (cause : LiftCause)
  /-- `EStop` ran; `latched` is false when its stop frame could not be written. -/
  | eStopRan (latched : Bool)
  | clearEStopRan
  /-- A queued command left the queue to be executed. -/
  | ran (command : RuntimeCommand)
  | dockDepartureRan
  /-- A timed drive was handed to the wheels, to end at this deadline. -/
  | driveStarted (execution : Option Execution) (nowMs stopAtMs : UInt32)
  /-- An active drive had its deadline moved without a motor write. -/
  | driveRenewed (nowMs stopAtMs : UInt32) (latch : Option SafetyEventKind)
  /-- The error path ran, with the power-toggle line at this level. -/
  | errorEntered (lineAsserted : Bool)
  | packetReceived (packetId : UInt8)
  | packetInvalid
  | probeRequested
  /-- The waiting step drained the event queue; was there a packet or an error in it? -/
  | wakeDrained (decisive : Bool)
  | wakeAnswered
  | wakeFailed (error : BrainstemError)
  | wakeTimedOut
  | pulseBegun (cause : PulseCause)
  | mailed (id : UInt32)
  | queueCleared (ids : List UInt32)
  | queueFull (id : UInt32)
  /-- A command taken from the mailbox gave no runtime command. -/
  | undecoded (id : UInt32)
  /-- A script queued the same id once more. -/
  | requeued (id : UInt32)
  /-- A velocity left the mailbox without a record of its own. -/
  | swallowed (id : UInt32)
  /-- A velocity already recorded as a renewal was given a second life. -/
  | revived (id : UInt32)
  deriving DecidableEq

end Netherwick.Brainstem
