import Mathlib.Data.Int.Order.Basic
import Mathlib.Logic.Basic

/-! # Command vocabularies

`BrainstemCommand` is what a client may ask, `RuntimeCommand` what the runtime queues. -/

namespace Netherwick.Brainstem

abbrev maxSongTones : Nat := 16

structure SongTone where
  note : UInt8 := 0
  duration64ths : UInt8 := 0
  deriving DecidableEq, Repr

abbrev SongTones : Type := Vector SongTone maxSongTones

inductive CreateOiMode
  | passive | safe | full
  deriving DecidableEq, Repr

inductive SafetyLatchKind
  | bump | cliff | wheelDrop | tilt | impact | charging | heartbeat
  deriving DecidableEq, Repr

inductive FeedbackKind
  | ok | error | armed | lostTarget | dockSeen | danger
  deriving DecidableEq, Repr

inductive PowerStateRequest
  | wake | sleep | startOi | debugBaud19200 | debugBaud57600 | debugBaud115200
  deriving DecidableEq, Repr

inductive BrainstemCommand
  | ping
  | arm
  | disarm
  | eStop
  | clearEStop
  | cmdVel (linearMmS angularMradS : Int16) (ttlMs seq : UInt32)
  | driveDirect (leftMmS rightMmS : Int16) (ttlMs seq : UInt32)
  | driveArc (velocityMmS radiusMm : Int16) (ttlMs seq : UInt32)
  /-- A recognised verb of an older wire format; it is never run. -/
  | unsupported (seq : UInt32)
  | clearSafetyLatch (kind : SafetyLatchKind) (seq : UInt32)
  | carefulMode (ttlMs seq : UInt32)
  | escapeMotion (kind : SafetyLatchKind) (hazardGeneration : UInt32)
      (linearMmS angularMradS : Int16) (ttlMs seq : UInt32)
  | heartbeatStop (timeoutMs seq : UInt32)
  | requestSensors (packetId : UInt8) (seq : UInt32)
  | streamSensors (enabled : Bool) (packetId : UInt8) (periodMs seq : UInt32)
  | clearMotionQueue (seq : UInt32)
  | defineChirp (kind : FeedbackKind) (tones : SongTones) (toneCount : UInt8) (seq : UInt32)
  | playFeedback (kind : FeedbackKind) (seq : UInt32)
  | setAudioSilent (silent : Bool) (seq : UInt32)
  | powerState (request : PowerStateRequest) (seq : UInt32)
  | calibrateTurn (angularMradS : Int16) (durationMs seq : UInt32)
  | orientationProbe (angularMradS : Int16) (durationMs seq : UInt32)
  | resetOdometry (seq : UInt32)
  | zeroImuOrientation (seq : UInt32)
  | clearImuOrientation (seq : UInt32)
  | restartCreate
  | resetMotherbrain
  | getCapabilities
  | getEvents (sinceSeq : UInt32)
  | stop
  | status
  | bootsel
  | setMode (mode : CreateOiMode)
  | songDefine (id : UInt8) (tones : SongTones) (toneCount : UInt8) (seq : UInt32)
  | songPlay (id : UInt8)
  | dock
  | setLights (ledBits color intensity : UInt8)
  deriving DecidableEq

inductive RuntimeCommand
  | wakeCreate
  | sleepCreate
  | stop
  | eStop
  | clearEStop
  | driveDirect (leftMmS rightMmS : Int16) (durationMs : Option UInt32)
  | cmdVel (linearMmS angularMradS : Int16) (durationMs : Option UInt32)
  | clearSafetyLatch (kind : SafetyLatchKind)
  | carefulMode (ttlMs : UInt32)
  | escapeMotion (kind : SafetyLatchKind) (hazardGeneration : UInt32)
      (linearMmS angularMradS : Int16) (ttlMs : UInt32)
  | heartbeatStop (timeoutMs : UInt32)
  | driveArc (velocityMmS radiusMm : Int16) (durationMs : Option UInt32)
  | requestSensors (packetId : UInt8)
  | streamSensors (enabled : Bool) (packetId : UInt8) (periodMs : UInt32)
  | clearMotionQueue
  | defineChirp (kind : FeedbackKind) (tones : SongTones) (toneCount : UInt8)
  | playFeedback (kind : FeedbackKind)
  | setAudioSilent (silent : Bool)
  | calibrateTurn (angularMradS : Int16) (durationMs : UInt32)
  | orientationProbe (angularMradS : Int16) (durationMs : UInt32)
  | resetOdometry
  | zeroImuOrientation
  | clearImuOrientation
  | startOi
  | setCreateBaud (baud : UInt32)
  | setMode (mode : CreateOiMode)
  | drive (leftMmS rightMmS : Int16) (durationMs : UInt32)
  | stopDrive
  | songDefine (id : UInt8) (tones : SongTones) (toneCount : UInt8)
  | songPlay (id : UInt8)
  | dock
  | setLights (ledBits color intensity : UInt8)
  deriving DecidableEq

structure QueuedCommand where
  commandId : UInt32
  command : RuntimeCommand
  safetyRecovery : Bool := false
  deriving DecidableEq

/-- The local variables of `start_next_command`: the entry it is executing and, for an escape, the
hazard generation it was admitted for. -/
structure Execution where
  queued : QueuedCommand
  admittedFor : Option UInt32 := none
  deriving DecidableEq

def acquireCreateScript : List RuntimeCommand := [.wakeCreate, .startOi, .setMode .full]

def disarmScript : List RuntimeCommand := [.stop]

def restartCreateScript : List RuntimeCommand :=
  [.stop, .sleepCreate, .wakeCreate, .startOi, .setMode .full]

/-- `runtime_command_from_forebrain`: the verbs the runtime handles itself give nothing. -/
def runtimeCommandFromForebrain : BrainstemCommand → Option RuntimeCommand
  | .ping | .status | .bootsel | .arm | .disarm | .restartCreate | .resetMotherbrain => none
  | .stop => some .stop
  | .eStop => some .eStop
  | .clearEStop => some .clearEStop
  | .setMode mode => some (.setMode mode)
  | .cmdVel linear angular ttl _ => some (.cmdVel linear angular (some ttl))
  | .driveDirect left right ttl _ => some (.driveDirect left right (some ttl))
  | .driveArc velocity radius ttl _ => some (.driveArc velocity radius (some ttl))
  | .unsupported _ => none
  | .clearSafetyLatch kind _ => some (.clearSafetyLatch kind)
  | .carefulMode ttl _ => some (.carefulMode ttl)
  | .escapeMotion kind generation linear angular ttl _ =>
    some (.escapeMotion kind generation linear angular ttl)
  | .heartbeatStop timeout _ => some (.heartbeatStop timeout)
  | .requestSensors packetId _ => some (.requestSensors packetId)
  | .streamSensors enabled packetId period _ => some (.streamSensors enabled packetId period)
  | .clearMotionQueue _ => some .clearMotionQueue
  | .defineChirp kind tones count _ => some (.defineChirp kind tones count)
  | .playFeedback kind _ => some (.playFeedback kind)
  | .setAudioSilent silent _ => some (.setAudioSilent silent)
  | .powerState request _ => match request with
      | .wake => some .wakeCreate
      | .sleep => some .sleepCreate
      | .startOi => some .startOi
      | .debugBaud19200 => some (.setCreateBaud 19200)
      | .debugBaud57600 => some (.setCreateBaud 57600)
      | .debugBaud115200 => some (.setCreateBaud 115200)
  | .calibrateTurn angular duration _ => some (.calibrateTurn angular duration)
  | .orientationProbe angular duration _ => some (.orientationProbe angular duration)
  | .resetOdometry _ => some .resetOdometry
  | .zeroImuOrientation _ => some .zeroImuOrientation
  | .clearImuOrientation _ => some .clearImuOrientation
  | .songPlay id => some (.songPlay id)
  | .songDefine id tones count _ => some (.songDefine id tones count)
  | .dock => some .dock
  | .setLights ledBits color intensity => some (.setLights ledBits color intensity)
  | .getCapabilities | .getEvents _ => none

def isMotionCommand : RuntimeCommand → Bool
  | .driveDirect .. | .cmdVel .. | .escapeMotion .. | .driveArc .. | .drive .. | .stopDrive
  | .calibrateTurn .. | .orientationProbe .. | .dock => true
  | _ => false

def requiresDockDeparture : RuntimeCommand → Bool
  | .cmdVel linear angular _ => linear != 0 || angular != 0
  | .escapeMotion _ _ linear angular _ => linear != 0 || angular != 0
  | .drive left right _ | .driveDirect left right _ => left != 0 || right != 0
  | .driveArc velocity _ _ => velocity != 0
  | .dock | .stopDrive => false
  | command => isMotionCommand command

/-- Only these commands may cut an automatic contact withdrawal short. -/
def commandPreemptsContactWithdrawal : BrainstemCommand → Bool
  | .stop | .eStop | .disarm => true
  | _ => false

def feedbackIndex : FeedbackKind → Nat
  | .ok => 0
  | .error => 1
  | .armed => 2
  | .lostTarget => 3
  | .dockSeen => 4
  | .danger => 5

def feedbackSlotBase : UInt8 := 10

def feedbackSlot (kind : FeedbackKind) : UInt8 := feedbackSlotBase + UInt8.ofNat (feedbackIndex kind)

/-- Lay the notes out over an otherwise silent song. -/
def songOfNotes (notes : List (UInt8 × UInt8)) : SongTones :=
  Vector.ofFn fun i => match notes[i.val]? with
    | some (note, duration) => ⟨note, duration⟩
    | none => {}

def defaultFeedbackTones (kind : FeedbackKind) : SongTones × UInt8 :=
  let notes : List (UInt8 × UInt8) := match kind with
    | .ok => [(60, 8), (64, 8), (67, 12)]
    | .error => [(64, 8), (62, 8), (60, 12)]
    | .armed => [(65, 8), (67, 8), (71, 12)]
    | .lostTarget => [(55, 8), (52, 8), (48, 12)]
    | .dockSeen => [(67, 8), (71, 8), (74, 12)]
    | .danger => [(48, 6), (48, 6), (48, 12)]
  (songOfNotes notes, UInt8.ofNat notes.length)

/-- Rust's `clamp` to the 16-bit range. -/
def clampI16 (value : Int) : Int16 := Int16.ofInt (max (-32768) (min 32767 value))

theorem clampI16_toInt (value : Int) :
    (clampI16 value).toInt = max (-32768) (min 32767 value) := by
  unfold clampI16
  rw [Int16.toInt_ofInt_of_le] <;> omega

end Netherwick.Brainstem
