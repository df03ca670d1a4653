import Netherwick.Cockpit.Wire
import Netherwick.Lib.Text

/-! # The envelope of compact lines

A compact line names its session and lease after the command, and both boards cut them off again
from the end. -/

namespace Netherwick.Cockpit

open Netherwick.Lib

section Names

def CreateOiMode.asStr : CreateOiMode → String
  | passive => "passive"
  | safe => "safe"
  | full => "full"

def EscapeDirection.asStr : EscapeDirection → String
  | left => "left"
  | right => "right"
  | either => "either"

def SafetyAction.asStr : SafetyAction → String
  | none => "none"
  | stop => "stop"
  | backoff => "backoff"
  | bumpEscape => "bump_escape"

def SafetyLatchKind.asStr : SafetyLatchKind → String
  | bump => "bump"
  | cliff => "cliff"
  | wheelDrop => "wheel_drop"
  | heartbeat => "heartbeat"
  | tilt => "tilt"
  | impact => "impact"
  | charging => "charging"

def FeedbackKind.asStr : FeedbackKind → String
  | ok => "ok"
  | error => "error"
  | armed => "armed"
  | lostTarget => "lost_target"
  | dockSeen => "dock_seen"
  | danger => "danger"

def PowerStateRequest.asStr : PowerStateRequest → String
  | wake => "wake"
  | sleep => "sleep"
  | startOi => "start_oi"
  | debugBaud19200 => "debug_baud_19200"
  | debugBaud57600 => "debug_baud_57600"
  | debugBaud115200 => "debug_baud_115200"

def LightPattern.asStr : LightPattern → String
  | off => "off"
  | status => "status"
  | clean => "clean"
  | dock => "dock"
  | spot => "spot"
  | max => "max"

def ControlAuthority.compactName : ControlAuthority → String
  | motherbrain => "motherbrain"
  | forebrainRecovery => "forebrain_recovery"
  | operatorDebug => "operator_debug"

def ServiceScope.compactName : ServiceScope → String
  | bootsel => "bootsel"
  | restartCreate => "restart_create"
  | resetMotherbrain => "reset_motherbrain"

end Names

section Lines

def unsigned (value : UInt32) : List Char := Text.decimal value.toNat

def signed (value : Int16) : List Char :=
  if value.toInt < 0 then '-' :: Text.decimal value.toInt.natAbs
  else Text.decimal value.toInt.natAbs

def flag (value : Bool) : List Char := if value then "true".toList else "false".toList

def compactTones (tones : List SongTone) : List (List Char) :=
  tones.flatMap fun tone => [unsigned tone.note.toUInt32, unsigned tone.duration64ths.toUInt32]

/-- The verb of a compact line, and what follows the sequence number. -/
def CockpitRequest.compactFields : CockpitRequest → String × List (List Char)
  | ping => ("PING", [])
  | bootsel => ("BOOTSEL", [])
  | restartCreate => ("RESTART_CREATE", [])
  | resetMotherbrain => ("RESET_MOTHERBRAIN", [])
  | getStatus => ("STATUS", [])
  | getCapabilities => ("GET_CAPABILITIES", [])
  | getEvents sinceSeq => ("GET_EVENTS", [unsigned sinceSeq])
  | registerNetworkEndpoint r =>
    ("REGISTER_NETWORK_ENDPOINT", [r.interfaceId.toList, r.address.toList, r.hostname.toList,
      r.leaseIdentity.toList, unsigned r.ttlSeconds])
  | acquireControlLease authority ttlMs =>
    ("ACQUIRE_CONTROL_LEASE", [authority.compactName.toList, unsigned ttlMs])
  | acquireServiceLease scope ttlMs =>
    ("ACQUIRE_SERVICE_LEASE", [scope.compactName.toList, unsigned ttlMs])
  | arm => ("ARM", [])
  | disarm => ("DISARM", [])
  | stop => ("STOP", [])
  | eStop => ("ESTOP", [])
  | clearEStop => ("CLEAR_ESTOP", [])
  | clearSafetyLatch latch => ("CLEAR_SAFETY_LATCH", [latch.asStr.toList])
  | carefulMode ttlMs => ("CAREFUL_MODE", [unsigned ttlMs])
  | escapeMotion hazard generation linear angular ttlMs =>
    ("ESCAPE_MOTION", [hazard.asStr.toList, unsigned generation, signed linear, signed angular,
      unsigned ttlMs])
  | cmdVel linear angular ttlMs => ("CMD_VEL", [signed linear, signed angular, unsigned ttlMs])
  | driveDirect left right ttlMs => ("DRIVE_DIRECT", [signed left, signed right, unsigned ttlMs])
  | driveArc velocity radius ttlMs =>
    ("DRIVE_ARC", [signed velocity, signed radius, unsigned ttlMs])
  | faceBearing bearing maxAngular tolerance ttlMs =>
    ("FACE_BEARING", [signed bearing, signed maxAngular, signed tolerance, unsigned ttlMs])
  | trackBearing bearing range maxLinear maxAngular stopRange ttlMs =>
    ("TRACK_BEARING", [signed bearing, unsigned range.toUInt32, signed maxLinear,
      signed maxAngular, unsigned stopRange.toUInt32, unsigned ttlMs])
  | turnBy angle angular timeoutMs => ("TURN_BY", [signed angle, signed angular, unsigned timeoutMs])
  | driveFor distance velocity timeoutMs =>
    ("DRIVE_FOR", [signed distance, signed velocity, unsigned timeoutMs])
  | bumpEscape direction backoff turn =>
    ("BUMP_ESCAPE", [direction.asStr.toList, signed backoff, signed turn])
  | holdHeading headingError velocity maxAngular ttlMs =>
    ("HOLD_HEADING", [signed headingError, signed velocity, signed maxAngular, unsigned ttlMs])
  | turnToHeading headingError angular tolerance timeoutMs =>
    ("TURN_TO_HEADING", [signed headingError, signed angular, signed tolerance,
      unsigned timeoutMs])
  | arcFor velocity radius durationMs =>
    ("ARC_FOR", [signed velocity, signed radius, unsigned durationMs])
  | creepUntil velocity angular timeoutMs =>
    ("CREEP_UNTIL", [signed velocity, signed angular, unsigned timeoutMs])
  | scanArc angle angular timeoutMs =>
    ("SCAN_ARC", [signed angle, signed angular, unsigned timeoutMs])
  | dockAlign bearing range maxLinear maxAngular stopRange ttlMs =>
    ("DOCK_ALIGN", [signed bearing, unsigned range.toUInt32, signed maxLinear, signed maxAngular,
      unsigned stopRange.toUInt32, unsigned ttlMs])
  | wallFollow distanceError velocity maxAngular ttlMs =>
    ("WALL_FOLLOW", [signed distanceError, signed velocity, signed maxAngular, unsigned ttlMs])
  | wiggleAlign amplitude angular cycles =>
    ("WIGGLE_ALIGN", [signed amplitude, signed angular, unsigned cycles.toUInt32])
  | unstick direction backoff turn =>
    ("UNSTICK", [direction.asStr.toList, signed backoff, signed turn])
  | cliffGuard clear => ("CLIFF_GUARD", [flag clear])
  | heartbeatStop timeoutMs => ("HEARTBEAT_STOP", [unsigned timeoutMs])
  | requestSensors packetId => ("REQUEST_SENSORS", [unsigned packetId.toUInt32])
  | streamSensors enabled packetId periodMs =>
    ("STREAM_SENSORS", [flag enabled, unsigned packetId.toUInt32, unsigned periodMs])
  | setSafetyPolicy policy =>
    ("SET_SAFETY_POLICY", [policy.bump.asStr.toList, policy.cliff.asStr.toList,
      flag policy.wheelDropLatch])
  | clearMotionQueue => ("CLEAR_MOTION_QUEUE", [])
  | defineChirp feedback tones => ("DEFINE_CHIRP", feedback.asStr.toList :: compactTones tones)
  | playFeedback feedback => ("PLAY_FEEDBACK", [feedback.asStr.toList])
  | setAudioSilent silent => ("SET_SILENT", [flag silent])
  | powerState request => ("POWER_STATE", [request.asStr.toList])
  | createPowerOn => ("CREATE_POWER_ON", [])
  | createPowerOff => ("CREATE_POWER_OFF", [])
  | calibrateTurn angular durationMs => ("CALIBRATE_TURN", [signed angular, unsigned durationMs])
  | orientationProbe angular durationMs =>
    ("ORIENTATION_PROBE", [signed angular, unsigned durationMs])
  | resetOdometry => ("RESET_ODOMETRY", [])
  | zeroImuOrientation => ("ZERO_IMU_ORIENTATION", [])
  | clearImuOrientation => ("CLEAR_IMU_ORIENTATION", [])
  | setMode mode => ("SET_MODE", [mode.asStr.toList])
  | songDefine id tones => ("SONG_DEFINE", unsigned id.toUInt32 :: compactTones tones)
  | songPlay id => ("SONG_PLAY", [unsigned id.toUInt32])
  | dock => ("DOCK", [])
  | setLights pattern => ("SET_LIGHTS", [pattern.asStr.toList])

/-- `pop`, which takes off the end of the line. -/
def pop (line : List Char) : List Char := line.dropLast

variable (request : CockpitRequest) (seq : UInt32) (sessionId leaseId : List Char)

def CockpitRequest.toCompactLine : List Char :=
  request.compactFields.1.toList ++
    (unsigned seq :: request.compactFields.2).flatMap (' ' :: ·) ++ ['\n']

def CockpitRequest.toCompactLineWithSession : List Char :=
  pop (request.toCompactLine seq) ++ " session_id=".toList ++ sessionId ++ ['\n']

def CockpitRequest.toCompactLineWithAuthority : List Char :=
  pop (request.toCompactLineWithSession seq sessionId) ++ " lease_id=".toList ++ leaseId ++ ['\n']

def CockpitRequest.toCompactLineWithServiceAuthority : List Char :=
  pop (request.toCompactLineWithSession seq sessionId) ++ " service_lease_id=".toList ++ leaseId ++
    ['\n']

end Lines

section Envelopes

/-- What a board cuts off the end of a line: a marker and a value without spaces. -/
def cutOff (marker : String) (line : List Char) : List Char × Option (List Char) :=
  match Text.rsplitOnce marker.toList line with
  | some (command, value) => if value.contains ' ' then (line, none) else (command, some value)
  | none => (line, none)

structure Envelope where
  command : List Char
  sessionId : Option (List Char) := none
  leaseId : Option (List Char) := none
  serviceLeaseId : Option (List Char) := none
  deriving DecidableEq, Repr

def splitEnvelope (line : List Char) : Envelope :=
  let (withoutService, serviceLeaseId) := cutOff " service_lease_id=" line
  let (withoutLease, leaseId) := cutOff " lease_id=" withoutService
  let (command, sessionId) := cutOff " session_id=" withoutLease
  { command, sessionId, leaseId, serviceLeaseId }

def PicoW.compactEnvelope : List Char → Envelope := splitEnvelope

def Rpi5.compactEnvelope : List Char → Envelope := splitEnvelope

end Envelopes

section Cuts

variable {line head last value name : List Char} {marker : String} {request : CockpitRequest}
  {seq : UInt32}

theorem cutOff_append (hmarker : marker.toList = ' ' :: name) (hname : ' ' ∉ name)
    (hvalue : ' ' ∉ value) : cutOff marker (line ++ marker.toList ++ value) = (line, some value) := by
  rw [cutOff, hmarker, Text.rsplitOnce_append hname hvalue]
  simp [hvalue]

theorem cutOff_none (hmarker : marker.toList = ' ' :: name) (hname : ' ' ∉ name)
    (hlast : ' ' ∉ last) (hother : ¬name <+: last) :
    cutOff marker (head ++ ' ' :: last) = (head ++ ' ' :: last, none) := by
  rw [cutOff, hmarker]
  cases hfound : Text.rsplitOnce (' ' :: name) (head ++ ' ' :: last) with
  | none => rfl
  | some pair =>
    obtain ⟨command, value⟩ := pair
    by_cases hvalue : ' ' ∈ value
    · simp [hvalue]
    · exact absurd (Text.rsplitOnce_last hlast hname hvalue hfound) hother

/-- A word of a line that neither ends a word nor looks like a field. -/
def Plain (word : List Char) : Prop := ' ' ∉ word ∧ '=' ∉ word

theorem plain_decimal (value : Nat) : Plain (Text.decimal value) :=
  ⟨Text.not_mem_decimal rfl, Text.not_mem_decimal rfl⟩

theorem plain_unsigned (value : UInt32) : Plain (unsigned value) := plain_decimal _

theorem plain_signed (value : Int16) : Plain (signed value) := by
  have hdigits := plain_decimal value.toInt.natAbs
  rw [signed]
  split
  · simpa [Plain] using hdigits
  · exact hdigits

theorem plain_flag (value : Bool) : Plain (flag value) := by
  cases value <;> exact ⟨by decide, by decide⟩

theorem plain_compactTones (tones : List SongTone) : ∀ word ∈ compactTones tones, Plain word := by
  intro word hmem
  obtain ⟨tone, _, hword⟩ := List.mem_flatMap.mp hmem
  rcases List.mem_pair.mp hword with rfl | rfl <;> exact plain_unsigned _

/-- The texts of a registration are its own, but a number comes after them. -/
theorem plain_last (request : CockpitRequest) :
    ∀ word ∈ request.compactFields.2.getLast?, Plain word := by
  intro word hlast
  cases request
  case defineChirp feedback tones =>
    rcases List.mem_cons.mp (List.mem_of_getLast? hlast) with rfl | hmem
    · cases feedback <;> exact ⟨by decide, by decide⟩
    · exact plain_compactTones tones word hmem
  case songDefine id tones =>
    rcases List.mem_cons.mp (List.mem_of_getLast? hlast) with rfl | hmem
    · exact plain_unsigned _
    · exact plain_compactTones tones word hmem
  case setSafetyPolicy policy =>
    cases hlast
    exact plain_flag _
  case clearSafetyLatch latch =>
    cases hlast
    cases latch <;> exact ⟨by decide, by decide⟩
  case playFeedback feedback =>
    cases hlast
    cases feedback <;> exact ⟨by decide, by decide⟩
  case powerState power =>
    cases hlast
    cases power <;> exact ⟨by decide, by decide⟩
  case setMode mode =>
    cases hlast
    cases mode <;> exact ⟨by decide, by decide⟩
  case setLights pattern =>
    cases hlast
    cases pattern <;> exact ⟨by decide, by decide⟩
  all_goals
    cases hlast <;> first | exact plain_unsigned _ | exact plain_signed _ | exact plain_flag _

/-- The command text of a line ends in a plain word. -/
theorem toCompactLine_last (request : CockpitRequest) (seq : UInt32) :
    ∃ head last, pop (request.toCompactLine seq) = head ++ ' ' :: last ∧ Plain last := by
  have hpop : pop (request.toCompactLine seq) = request.compactFields.1.toList ++
      (unsigned seq :: request.compactFields.2).flatMap (' ' :: ·) := by
    rw [pop, CockpitRequest.toCompactLine, List.dropLast_concat]
  rcases List.eq_nil_or_concat request.compactFields.2 with hnil | ⟨fields, last, hfields⟩
  · exact ⟨request.compactFields.1.toList, unsigned seq, by simp [hpop, hnil], plain_unsigned seq⟩
  · refine ⟨request.compactFields.1.toList ++ (unsigned seq :: fields).flatMap (' ' :: ·), last,
      by simp [hpop, hfields], plain_last request last ?_⟩
    simp [hfields]

/-- A field of the envelope is not cut off in the place of another. -/
theorem cutOff_plain (hmarker : marker.toList = ' ' :: name) (hname : ' ' ∉ name)
    (hfield : '=' ∈ name) :
    cutOff marker (pop (request.toCompactLine seq)) = (pop (request.toCompactLine seq), none) := by
  obtain ⟨head, last, hline, hspace, hequals⟩ := toCompactLine_last request seq
  rw [hline]
  exact cutOff_none hmarker hname hspace fun hstarts => hequals (hstarts.subset hfield)

end Cuts

section Markers

variable {line value : List Char}

theorem cutOff_sessionId (hvalue : ' ' ∉ value) :
    cutOff " session_id=" (line ++ " session_id=".toList ++ value) = (line, some value) :=
  @cutOff_append line value "session_id=".toList " session_id=" rfl (by decide) hvalue

theorem cutOff_leaseId (hvalue : ' ' ∉ value) :
    cutOff " lease_id=" (line ++ " lease_id=".toList ++ value) = (line, some value) :=
  @cutOff_append line value "lease_id=".toList " lease_id=" rfl (by decide) hvalue

theorem cutOff_serviceLeaseId (hvalue : ' ' ∉ value) :
    cutOff " service_lease_id=" (line ++ " service_lease_id=".toList ++ value) =
      (line, some value) :=
  @cutOff_append line value "service_lease_id=".toList " service_lease_id=" rfl (by decide) hvalue

theorem cutOff_lease_session (hvalue : ' ' ∉ value) :
    cutOff " lease_id=" (line ++ " session_id=".toList ++ value) =
      (line ++ " session_id=".toList ++ value, none) := by
  rw [List.append_assoc]
  refine @cutOff_none line ("session_id=".toList ++ value) "lease_id=".toList " lease_id=" rfl
    (by decide) ?_ ?_
  · exact fun hmem => (List.mem_append.mp hmem).elim (by decide) hvalue
  · rintro ⟨tail, htail⟩
    exact absurd (List.cons.inj htail).1 (by decide)

theorem cutOff_service_session (hvalue : ' ' ∉ value) :
    cutOff " service_lease_id=" (line ++ " session_id=".toList ++ value) =
      (line ++ " session_id=".toList ++ value, none) := by
  rw [List.append_assoc]
  refine @cutOff_none line ("session_id=".toList ++ value) "service_lease_id=".toList
    " service_lease_id=" rfl (by decide) ?_ ?_
  · exact fun hmem => (List.mem_append.mp hmem).elim (by decide) hvalue
  · rintro ⟨tail, htail⟩
    have hsecond := (List.cons.inj (List.cons.inj htail).2).2
    exact absurd (List.cons.inj hsecond).1 (by decide)

theorem cutOff_service_lease (hvalue : ' ' ∉ value) :
    cutOff " service_lease_id=" (line ++ " lease_id=".toList ++ value) =
      (line ++ " lease_id=".toList ++ value, none) := by
  rw [List.append_assoc]
  refine @cutOff_none line ("lease_id=".toList ++ value) "service_lease_id=".toList
    " service_lease_id=" rfl (by decide) ?_ ?_
  · exact fun hmem => (List.mem_append.mp hmem).elim (by decide) hvalue
  · rintro ⟨tail, htail⟩
    exact absurd (List.cons.inj htail).1 (by decide)

theorem cutOff_unmarked {marker : String} (h : ¬marker.toList <:+: line) :
    cutOff marker line = (line, none) := by
  rw [cutOff]
  cases hfound : Text.rsplitOnce marker.toList line with
  | none => rfl
  | some pair => exact absurd ⟨pair.1, pair.2, (Text.eq_of_rsplitOnce hfound).symm⟩ h

end Markers

/-- What a board reads from a line is what was written into it; a line's end is taken off before
that. -/
structure RoundTrips (compactEnvelope : List Char → Envelope) : Prop where
  authority : ∀ (request : CockpitRequest) seq sessionId leaseId, ' ' ∉ sessionId → ' ' ∉ leaseId →
    compactEnvelope (pop (request.toCompactLineWithAuthority seq sessionId leaseId)) =
      ⟨pop (request.toCompactLine seq), some sessionId, some leaseId, none⟩
  serviceAuthority : ∀ (request : CockpitRequest) seq sessionId leaseId,
    ' ' ∉ sessionId → ' ' ∉ leaseId →
    compactEnvelope (pop (request.toCompactLineWithServiceAuthority seq sessionId leaseId)) =
      ⟨pop (request.toCompactLine seq), some sessionId, none, some leaseId⟩
  session : ∀ (request : CockpitRequest) seq sessionId, ' ' ∉ sessionId →
    compactEnvelope (pop (request.toCompactLineWithSession seq sessionId)) =
      ⟨pop (request.toCompactLine seq), some sessionId, none, none⟩
  /-- A line without an envelope has no authority, whatever its registration's texts are. -/
  bare : ∀ (request : CockpitRequest) seq,
    compactEnvelope (pop (request.toCompactLine seq)) = { command := pop (request.toCompactLine seq) }
  unmarked : ∀ line, ¬" session_id=".toList <:+: line → ¬" lease_id=".toList <:+: line →
    ¬" service_lease_id=".toList <:+: line → compactEnvelope line = { command := line }

theorem splitEnvelope_roundTrips : RoundTrips splitEnvelope where
  authority := by
    intro request seq sessionId leaseId hsession hlease
    rw [pop, CockpitRequest.toCompactLineWithAuthority, List.dropLast_concat, splitEnvelope,
      cutOff_service_lease hlease]
    dsimp only
    rw [cutOff_leaseId hlease]
    dsimp only
    rw [pop, CockpitRequest.toCompactLineWithSession, List.dropLast_concat,
      cutOff_sessionId hsession]
  serviceAuthority := by
    intro request seq sessionId leaseId hsession hlease
    rw [pop, CockpitRequest.toCompactLineWithServiceAuthority, List.dropLast_concat, splitEnvelope,
      cutOff_serviceLeaseId hlease]
    dsimp only
    rw [pop, CockpitRequest.toCompactLineWithSession, List.dropLast_concat,
      cutOff_lease_session hsession]
    dsimp only
    rw [cutOff_sessionId hsession]
  session := by
    intro request seq sessionId hsession
    rw [pop, CockpitRequest.toCompactLineWithSession, List.dropLast_concat, splitEnvelope,
      cutOff_service_session hsession]
    dsimp only
    rw [cutOff_lease_session hsession]
    dsimp only
    rw [cutOff_sessionId hsession]
  bare := by
    intro request seq
    rw [splitEnvelope, @cutOff_plain "service_lease_id=".toList _ request seq rfl (by decide)
      (by decide)]
    dsimp only
    rw [@cutOff_plain "lease_id=".toList _ request seq rfl (by decide) (by decide)]
    dsimp only
    rw [@cutOff_plain "session_id=".toList _ request seq rfl (by decide) (by decide)]
  unmarked := by
    intro line hsession hlease hservice
    rw [splitEnvelope, cutOff_unmarked hservice]
    dsimp only
    rw [cutOff_unmarked hlease]
    dsimp only
    rw [cutOff_unmarked hsession]

/-- Both boards read every line back. -/
theorem compactEnvelope_roundTrips :
    RoundTrips PicoW.compactEnvelope ∧ RoundTrips Rpi5.compactEnvelope :=
  ⟨splitEnvelope_roundTrips, splitEnvelope_roundTrips⟩

example : PicoW.compactEnvelope "CMD_VEL 7 50 0 250 session_id=sess-1 lease_id=lease-1".toList =
    ⟨"CMD_VEL 7 50 0 250".toList, some "sess-1".toList, some "lease-1".toList, none⟩ := by
  decide +kernel

end Netherwick.Cockpit
