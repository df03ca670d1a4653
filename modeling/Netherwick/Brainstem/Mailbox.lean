import Netherwick.Lib.Clock
import Netherwick.Brainstem.Status

/-! # The control mailbox

One command slot, one velocity slot and a song buffer stand between the ingress lane, which
submits, and the runtime lane, which takes. -/

namespace Netherwick.Brainstem

open Netherwick.Lib

inductive CommandRejectReason
  | busy | charging | staleSequence | unsupported | hazardMismatch | escapeEnvelope
  | absoluteHazard
  deriving DecidableEq, Repr

def CommandRejectReason.code : CommandRejectReason → UInt32
  | busy => 1
  | charging => 2
  | staleSequence => 3
  | unsupported => 4
  | hazardMismatch => 5
  | escapeEnvelope => 6
  | absoluteHazard => 7

section Codec

def encodeI16 (value : Int16) : UInt32 := value.toUInt16.toUInt32

def decodeI16 (value : UInt32) : Int16 := value.toUInt16.toInt16

def encodeSafetyLatchKind : SafetyLatchKind → UInt8
  | .bump => 1
  | .cliff => 2
  | .wheelDrop => 3
  | .heartbeat => 5
  | .tilt => 6
  | .impact => 7
  | .charging => 8

def decodeSafetyLatchKind (value : UInt8) : Option SafetyLatchKind :=
  match value.toNat with
  | 1 => some .bump
  | 2 => some .cliff
  | 3 => some .wheelDrop
  | 5 => some .heartbeat
  | 6 => some .tilt
  | 7 => some .impact
  | 8 => some .charging
  | _ => none

def encodeFeedbackKind (kind : FeedbackKind) : UInt8 := UInt8.ofNat (feedbackIndex kind)

def decodeFeedbackKind (value : UInt8) : Option FeedbackKind :=
  match value.toNat with
  | 0 => some .ok
  | 1 => some .error
  | 2 => some .armed
  | 3 => some .lostTarget
  | 4 => some .dockSeen
  | 5 => some .danger
  | _ => none

def encodePowerRequest : PowerStateRequest → UInt8
  | .wake => 1
  | .sleep => 2
  | .startOi => 4
  | .debugBaud19200 => 5
  | .debugBaud57600 => 6
  | .debugBaud115200 => 7

def decodePowerRequest (value : UInt8) : Option PowerStateRequest :=
  match value.toNat with
  | 1 => some .wake
  | 2 => some .sleep
  | 4 => some .startOi
  | 5 => some .debugBaud19200
  | 6 => some .debugBaud57600
  | 7 => some .debugBaud115200
  | _ => none

def encodeOiMode : CreateOiMode → UInt32
  | .passive => 1
  | .safe => 2
  | .full => 3

def decodeOiMode (value : UInt32) : Option CreateOiMode :=
  match value.toNat with
  | 1 => some .passive
  | 2 => some .safe
  | 3 => some .full
  | _ => none

def packSongTone (tone : SongTone) : UInt32 :=
  (tone.note.toUInt32 <<< 8) ||| tone.duration64ths.toUInt32

def unpackSongTone (value : UInt32) : SongTone := ⟨(value >>> 8).toUInt8, value.toUInt8⟩

/-- `store_pending_song_tones`: what lies beyond the count is stored as zero. -/
def storePendingSongTones (tones : SongTones) (toneCount : UInt8) : Vector UInt32 maxSongTones :=
  Vector.ofFn fun i => if i.val < toneCount.toNat then packSongTone tones[i] else 0

def loadPendingSongTones (stored : Vector UInt32 maxSongTones) (toneCount : UInt8) : SongTones :=
  Vector.ofFn fun i => if i.val < toneCount.toNat then unpackSongTone stored[i] else {}

/-- The contents of the six slots a command is packed into. -/
structure Encoded where
  kind : ControlCommandCode
  a : UInt32 := 0
  b : UInt32 := 0
  c : UInt32 := 0
  d : UInt32 := 0
  durationMs : Option UInt32 := none
  deriving DecidableEq, Repr

def clampToneCount (count : UInt8) : UInt8 := min count 16

/-- The tones a command leaves in the shared buffer while it is being encoded. -/
def songTonesStored : BrainstemCommand → Option (Vector UInt32 maxSongTones)
  | .songDefine _ tones count _ => some (storePendingSongTones tones (clampToneCount count))
  | .defineChirp _ tones count _ => some (storePendingSongTones tones (clampToneCount count))
  | _ => none

/-- `encode_control_command`, its effect on the song buffer apart. -/
def encodeControlCommand : BrainstemCommand → Option Encoded
  | .ping => some { kind := .ping }
  | .arm => some { kind := .arm }
  | .disarm => some { kind := .disarm }
  | .eStop => some { kind := .eStop }
  | .clearEStop => some { kind := .clearEStop }
  | .stop => some { kind := .stop }
  | .status => some { kind := .status }
  | .bootsel => none
  | .setMode mode => some { kind := .setMode, a := encodeOiMode mode }
  | .cmdVel linear angular ttl _ =>
    some { kind := .cmdVel, a := encodeI16 linear, b := encodeI16 angular, durationMs := ttl }
  | .driveDirect left right ttl _ =>
    some { kind := .driveDirect, a := encodeI16 left, b := encodeI16 right, durationMs := ttl }
  | .driveArc velocity radius ttl _ =>
    some { kind := .driveArc, a := encodeI16 velocity, b := encodeI16 radius, durationMs := ttl }
  | .songPlay id => some { kind := .songPlay, a := id.toUInt32 }
  | .songDefine id _ count _ =>
    some { kind := .songDefine, a := id.toUInt32, b := (clampToneCount count).toUInt32 }
  | .dock => some { kind := .dock }
  | .setLights ledBits color intensity =>
    some { kind := .setLights, a := ledBits.toUInt32, b := color.toUInt32,
           c := intensity.toUInt32 }
  | .unsupported _ => none
  | .heartbeatStop timeout _ => some { kind := .heartbeatStop, durationMs := timeout }
  | .clearSafetyLatch kind _ =>
    some { kind := .clearSafetyLatch, a := (encodeSafetyLatchKind kind).toUInt32 }
  | .carefulMode ttl _ => some { kind := .carefulMode, durationMs := ttl }
  | .escapeMotion kind generation linear angular ttl _ =>
    some { kind := .escapeMotion, a := (encodeSafetyLatchKind kind).toUInt32, b := generation,
           c := encodeI16 linear, d := encodeI16 angular, durationMs := ttl }
  | .requestSensors packetId _ => some { kind := .requestSensors, a := packetId.toUInt32 }
  | .streamSensors enabled packetId period _ =>
    some { kind := .streamSensors, a := if enabled then 1 else 0, b := packetId.toUInt32,
           durationMs := period }
  | .clearMotionQueue _ => some { kind := .clearMotionQueue }
  | .defineChirp kind _ count _ =>
    some { kind := .defineChirp, a := (encodeFeedbackKind kind).toUInt32,
           b := (clampToneCount count).toUInt32 }
  | .playFeedback kind _ =>
    some { kind := .playFeedback, a := (encodeFeedbackKind kind).toUInt32 }
  | .setAudioSilent silent _ => some { kind := .setAudioSilent, a := if silent then 1 else 0 }
  | .powerState request _ =>
    some { kind := .powerState, a := (encodePowerRequest request).toUInt32 }
  | .calibrateTurn angular duration _ =>
    some { kind := .calibrateTurn, a := encodeI16 angular, durationMs := duration }
  | .orientationProbe angular duration _ =>
    some { kind := .orientationProbe, a := encodeI16 angular, durationMs := duration }
  | .resetOdometry _ => some { kind := .resetOdometry }
  | .zeroImuOrientation _ => some { kind := .zeroImuOrientation }
  | .clearImuOrientation _ => some { kind := .clearImuOrientation }
  | .restartCreate => some { kind := .restartCreate }
  | .resetMotherbrain => some { kind := .resetMotherbrain }
  | .getCapabilities => some { kind := .getCapabilities }
  | .getEvents sinceSeq => some { kind := .getEvents, a := sinceSeq }

theorem encodeControlCommand_kind_ne_none {command : BrainstemCommand} {e : Encoded}
    (he : encodeControlCommand command = some e) : e.kind ≠ .none := by
  cases command <;> cases he <;> simp

/-- `decode_control_command`. There is no arm for `resetMotherbrain`. -/
def decodeControlCommand (songTones : Vector UInt32 maxSongTones) (kind : ControlCommandCode)
    (a b c d : UInt32) (durationMs : Option UInt32) (seq : UInt32) : Option BrainstemCommand :=
  match kind with
  | .faceBearing | .trackBearing | .turnBy | .driveFor | .bumpEscape | .holdHeading
  | .turnToHeading | .arcFor | .creepUntil | .scanArc | .dockAlign | .wallFollow | .wiggleAlign
  | .unstick | .cliffGuard | .setSafetyPolicy => some (.unsupported seq)
  | .ping => some .ping
  | .arm => some .arm
  | .disarm => some .disarm
  | .stop => some .stop
  | .eStop => some .eStop
  | .clearEStop => some .clearEStop
  | .status => some .status
  | .setMode => (decodeOiMode a).map .setMode
  | .cmdVel => durationMs.map fun ttl => .cmdVel (decodeI16 a) (decodeI16 b) ttl seq
  | .driveDirect => durationMs.map fun ttl => .driveDirect (decodeI16 a) (decodeI16 b) ttl seq
  | .driveArc => durationMs.map fun ttl => .driveArc (decodeI16 a) (decodeI16 b) ttl seq
  | .songPlay => some (.songPlay a.toUInt8)
  | .songDefine =>
    let toneCount := clampToneCount b.toUInt8
    some (.songDefine a.toUInt8 (loadPendingSongTones songTones toneCount) toneCount seq)
  | .dock => some .dock
  | .setLights => some (.setLights a.toUInt8 b.toUInt8 c.toUInt8)
  | .heartbeatStop => durationMs.map fun timeout => .heartbeatStop timeout seq
  | .clearSafetyLatch =>
    (decodeSafetyLatchKind a.toUInt8).map fun kind => .clearSafetyLatch kind seq
  | .carefulMode => durationMs.map fun ttl => .carefulMode ttl seq
  | .escapeMotion =>
    (decodeSafetyLatchKind a.toUInt8).bind fun kind =>
      durationMs.map fun ttl => .escapeMotion kind b (decodeI16 c) (decodeI16 d) ttl seq
  | .requestSensors => some (.requestSensors a.toUInt8 seq)
  | .streamSensors =>
    durationMs.map fun period => .streamSensors (a != 0) b.toUInt8 period seq
  | .clearMotionQueue => some (.clearMotionQueue seq)
  | .defineChirp =>
    let toneCount := clampToneCount b.toUInt8
    (decodeFeedbackKind a.toUInt8).map fun kind =>
      .defineChirp kind (loadPendingSongTones songTones toneCount) toneCount seq
  | .playFeedback => (decodeFeedbackKind a.toUInt8).map fun kind => .playFeedback kind seq
  | .setAudioSilent => some (.setAudioSilent (a != 0) seq)
  | .powerState => (decodePowerRequest a.toUInt8).map fun request => .powerState request seq
  | .calibrateTurn => durationMs.map fun duration => .calibrateTurn (decodeI16 a) duration seq
  | .orientationProbe =>
    durationMs.map fun duration => .orientationProbe (decodeI16 a) duration seq
  | .resetOdometry => some (.resetOdometry seq)
  | .zeroImuOrientation => some (.zeroImuOrientation seq)
  | .clearImuOrientation => some (.clearImuOrientation seq)
  | .restartCreate => some .restartCreate
  | .getCapabilities => some .getCapabilities
  | .getEvents => some (.getEvents a)
  | .none | .resetMotherbrain => none

def commandSeq : BrainstemCommand → UInt32
  | .cmdVel _ _ _ seq | .driveDirect _ _ _ seq | .driveArc _ _ _ seq | .unsupported seq
  | .clearSafetyLatch _ seq | .carefulMode _ seq | .escapeMotion _ _ _ _ _ seq
  | .songDefine _ _ _ seq | .requestSensors _ seq | .streamSensors _ _ _ seq
  | .clearMotionQueue seq | .defineChirp _ _ _ seq | .playFeedback _ seq | .setAudioSilent _ seq
  | .powerState _ seq | .calibrateTurn _ _ seq | .orientationProbe _ _ seq | .resetOdometry seq
  | .zeroImuOrientation seq | .clearImuOrientation seq | .heartbeatStop _ seq => seq
  | _ => 0

def seqIsCurrentOrNewer (seq latestSeq : UInt32) : Bool :=
  seq = latestSeq || seq - latestSeq < 0xFFFFFFFF / 2

end Codec

namespace Status

def escapeTtlMs : UInt32 := 250

def maxEscapeLinearMmS : Int16 := 120

def maxEscapeAngularMradS : UInt16 := 500

/-- `turns_toward_contact`, where bit 0 of the flags is read as the right bumper. -/
def turnsTowardContact (flags : UInt32) (angular : Int16) : Bool :=
  let bumpRight := flags &&& 0b01 != 0
  let bumpLeft := flags &&& 0b10 != 0
  (bumpLeft && !bumpRight && 0 < angular) || (bumpRight && !bumpLeft && angular < 0)
    || (bumpLeft && bumpRight && angular != 0)

/-- `unsigned_abs`. -/
def unsignedAbs (value : Int16) : UInt16 := UInt16.ofNat value.toInt.natAbs

/-- The part of the escape admission that looks at the latch only. -/
def escapeHazardRefused (st : Status) (kind : SafetyLatchKind) (hazardGeneration : UInt32) :
    Bool :=
  !st.safety.safetyTripped || st.safety.latchKind != some (safetyLatchKindToEvent kind)
    || hazardGeneration = 0 || hazardGeneration != st.hazardGeneration

/-- The part that looks at the requested envelope only. -/
def escapeEnvelopeRefused (linear angular : Int16) (ttlMs : UInt32) : Bool :=
  ttlMs != escapeTtlMs || 0 < linear || linear < -maxEscapeLinearMmS
    || maxEscapeAngularMradS < unsignedAbs angular || (linear = 0 && angular = 0)

/-- `validate_escape_motion`: why an escape is refused, if it is. -/
def validateEscapeMotion (st : Status) (kind : SafetyLatchKind) (hazardGeneration : UInt32)
    (linear angular : Int16) (ttlMs : UInt32) : Except CommandRejectReason Unit :=
  if st.escapeHazardRefused kind hazardGeneration then .error .hazardMismatch
  else if st.safety.estopLatched || st.safety.motionInterlock then .error .absoluteHazard
  else if escapeEnvelopeRefused linear angular ttlMs then .error .escapeEnvelope
  else if st.wheelDrop || st.tiltObserved || st.impactObserved || st.chargingInterlockActive then
    .error .absoluteHazard
  else match kind with
    | .bump =>
      if !st.bump then .error .hazardMismatch
      else if st.cliff then .error .absoluteHazard
      else if turnsTowardContact st.create.flags angular then .error .escapeEnvelope
      else .ok ()
    | .cliff =>
      if !st.cliff then .error .hazardMismatch
      else if st.bump then .error .absoluteHazard
      else if 0 ≤ linear || angular != 0 then .error .escapeEnvelope
      else .ok ()
    | _ => .error .hazardMismatch

/-- `matching_velocity_stream`: the id of the running stream that has these very velocities. -/
def matchingVelocityStream (st : Status) (a b : UInt32) : Option UInt32 :=
  if st.velocityStream.on && st.velocityStream.a = a && st.velocityStream.b = b
      && st.velocityStream.id != 0 then some st.velocityStream.id
  else none

def rejectControlCommand (st : Status) (commandId seq : UInt32) (kind : ControlCommandCode)
    (reason : CommandRejectReason) : Except CommandRejectReason Unit × Status :=
  (.error reason,
    st.recordPublicEvent .commandRejected commandId seq
      ((kind.code.toUInt32 <<< 8) ||| reason.code))

def interruptIfSome (id : Option UInt32) (st : Status) : Status :=
  match id with
  | some id => st.markCommandInterrupted id
  | none => st

/-- Accept a velocity into its own slot; the newest sequence wins. -/
def submitVelocity (st : Status) (commandId : UInt32) (e : Encoded) (seq : UInt32) :
    Except CommandRejectReason Unit × Status :=
  let mb := st.mailbox
  let renewedStreamId := st.matchingVelocityStream e.a e.b
  let velocityPending := mb.velocityKind = .cmdVel
  if velocityPending ∧ !seqIsCurrentOrNewer seq mb.velocitySeq then
    st.rejectControlCommand commandId seq e.kind .staleSequence
  else
    let replacedCommandId :=
      if velocityPending ∧ mb.velocityId ≠ commandId ∧ !mb.velocityIsRenewal then
        some mb.velocityId
      else none
    let st := { st with mailbox := { mb with
      velocityId := commandId, velocityA := e.a, velocityB := e.b
      velocityTtlMs := e.durationMs.getD 0, velocitySeq := seq
      velocityIsRenewal := renewedStreamId.isSome, velocityKind := .cmdVel } }.observe
        (.mailed commandId)
    let st := match renewedStreamId with
      | some streamId => st.recordPublicEvent .commandRenewed commandId streamId seq
      | none => st.recordPublicEvent .commandAccepted commandId seq 0
    (.ok (), interruptIfSome replacedCommandId st)

/-- `preempt_pending_commands_for_safety`: the ids that lose their slots, and the emptied
velocity slot. -/
def preemptPendingCommandsForSafety (st : Status) (commandId : UInt32) :
    (Option UInt32 × Option UInt32) × Status :=
  let mb := st.mailbox
  let replacedVelocityId :=
    if mb.velocityKind = .cmdVel ∧ !mb.velocityIsRenewal ∧ mb.velocityId ≠ commandId then
      some mb.velocityId
    else none
  let replacedCommandId :=
    if mb.commandKind ≠ .none ∧ mb.commandId ≠ commandId then some mb.commandId else none
  ((replacedCommandId, replacedVelocityId),
    { st with mailbox := { mb with velocityKind := .none, velocityIsRenewal := false } })

/-- Fill the command slot and report what that displaced. -/
def storeCommand (st : Status) (commandId : UInt32) (e : Encoded) (seq : UInt32)
    (serviceSessionHash serviceLeaseHash : UInt32)
    (replacedCommandId replacedVelocityId : Option UInt32) : Status :=
  { st with mailbox := { st.mailbox with
      commandId, commandA := e.a, commandB := e.b, commandC := e.c, commandD := e.d
      commandDurationMs := e.durationMs.getD 0, commandSeq := seq
      commandServiceSessionHash := serviceSessionHash
      commandServiceLeaseHash := serviceLeaseHash, commandKind := e.kind } }
    |>.observe (.mailed commandId)
    |>.recordPublicEvent .commandAccepted commandId seq e.kind.code.toUInt32
    |> interruptIfSome replacedCommandId
    |> interruptIfSome (if replacedVelocityId = replacedCommandId then none else replacedVelocityId)

/-- Accept a command into the command slot, which only a safety stop or a fresh heartbeat may
take over while it is full. -/
def submitCommand (st : Status) (commandId : UInt32) (e : Encoded) (seq : UInt32)
    (serviceSessionHash serviceLeaseHash : UInt32) : Except CommandRejectReason Unit × Status :=
  if e.kind = .stop ∨ e.kind = .eStop then
    let ((replacedCommandId, replacedVelocityId), st) :=
      st.preemptPendingCommandsForSafety commandId
    (.ok (), st.storeCommand commandId e seq serviceSessionHash serviceLeaseHash
      replacedCommandId replacedVelocityId)
  else
    let pendingKind := st.mailbox.commandKind
    let replacesPendingHeartbeat := e.kind = .heartbeatStop ∧ pendingKind = .heartbeatStop
    if pendingKind ≠ .none ∧ ¬ replacesPendingHeartbeat then
      st.rejectControlCommand commandId seq e.kind .busy
    else
      let replacedCommandId :=
        if replacesPendingHeartbeat ∧ st.mailbox.commandId ≠ commandId then
          some st.mailbox.commandId
        else none
      (.ok (), st.storeCommand commandId e seq serviceSessionHash serviceLeaseHash
        replacedCommandId none)

/-- Encode a command, which may overwrite the song buffer, and accept or reject it. -/
def submitEncoded (st : Status) (commandId : UInt32) (command : BrainstemCommand)
    (serviceSessionHash serviceLeaseHash : UInt32) : Except CommandRejectReason Unit × Status :=
  let seq := commandSeq command
  let st := match songTonesStored command with
    | some songTones => { st with mailbox := { st.mailbox with songTones } }
    | none => st
  match encodeControlCommand command with
  | none => st.rejectControlCommand commandId seq .none .unsupported
  | some e =>
    if e.kind = .cmdVel then st.submitVelocity commandId e seq
    else st.submitCommand commandId e seq serviceSessionHash serviceLeaseHash

/-- Queries are answered by the ingress lane and never enter the mailbox. -/
def isReadOnlyQuery : BrainstemCommand → Bool
  | .status | .ping | .getEvents _ | .getCapabilities => true
  | _ => false

/-- `submit_control_command_with_service_identity`. -/
def submitControlCommand (st : Status) (commandId : UInt32) (command : BrainstemCommand)
    (serviceSessionHash serviceLeaseHash : UInt32) : Except CommandRejectReason Unit × Status :=
  match command with
  | .unsupported seq => st.rejectControlCommand commandId seq .none .unsupported
  | .status | .ping | .getEvents _ | .getCapabilities =>
    (.ok (), st.recordPublicEvent .commandAccepted commandId 0 0)
  | .escapeMotion kind generation linear angular ttl _ =>
    match st.validateEscapeMotion kind generation linear angular ttl with
    | .error reason => (.error reason, st)
    | .ok () => st.submitEncoded commandId command serviceSessionHash serviceLeaseHash
  | _ => st.submitEncoded commandId command serviceSessionHash serviceLeaseHash

theorem submitControlCommand_escapeMotion (st : Status) (commandId : UInt32) (kind : SafetyLatchKind)
    (generation : UInt32) (linear angular : Int16) (ttlMs seq sessionHash leaseHash : UInt32) :
    st.submitControlCommand commandId (.escapeMotion kind generation linear angular ttlMs seq)
        sessionHash leaseHash =
      match st.validateEscapeMotion kind generation linear angular ttlMs with
      | .error reason => (.error reason, st)
      | .ok () => st.submitEncoded commandId
          (.escapeMotion kind generation linear angular ttlMs seq) sessionHash leaseHash := rfl

/-- `take_control_command`: the command slot goes first, then the velocity slot. -/
def takeControlCommand (st : Status) : Option BrainstemCommand × Status :=
  let mb := st.mailbox
  if mb.commandKind ≠ .none then
    let durationMs := if mb.commandDurationMs = 0 then none else some mb.commandDurationMs
    (decodeControlCommand mb.songTones mb.commandKind mb.commandA mb.commandB mb.commandC
        mb.commandD durationMs mb.commandSeq,
      { st with
        mailbox := { mb with commandKind := .none }
        dispatched := ⟨mb.commandId, mb.commandServiceSessionHash, mb.commandServiceLeaseHash⟩ })
  else if mb.velocityKind = .cmdVel then
    (some (.cmdVel (decodeI16 mb.velocityA) (decodeI16 mb.velocityB) mb.velocityTtlMs
        mb.velocitySeq),
      { st with
        mailbox := { mb with velocityKind := .none, velocityIsRenewal := false }
        dispatched := ⟨mb.velocityId, 0, 0⟩ })
  else (none, st)

theorem takeControlCommand_command (st : Status) (h : st.mailbox.commandKind ≠ .none) :
    st.takeControlCommand.2 = { st with
      mailbox := { st.mailbox with commandKind := .none }
      dispatched := ⟨st.mailbox.commandId, st.mailbox.commandServiceSessionHash,
        st.mailbox.commandServiceLeaseHash⟩ } := by
  simp only [takeControlCommand, if_pos h]

theorem takeControlCommand_velocity (st : Status) (hcommand : st.mailbox.commandKind = .none)
    (h : st.mailbox.velocityKind = .cmdVel) :
    st.takeControlCommand.2 = { st with
      mailbox := { st.mailbox with velocityKind := .none, velocityIsRenewal := false }
      dispatched := ⟨st.mailbox.velocityId, 0, 0⟩ } := by
  simp only [takeControlCommand, hcommand, ne_eq, not_true_eq_false, if_false, if_pos h]

end Status

end Netherwick.Brainstem
