import Netherwick.Brainstem.Runtime.Execution
import Netherwick.Brainstem.Trace

/-! # The direction of an escape

A bumper goes through four encodings on its way to the wheels: a bit of the packet, a bit of the
published flags, the side that the admission of an escape reads from that bit, and the sign of the
difference between the wheel speeds. -/

namespace Netherwick.Brainstem

open Netherwick.Lib

namespace Status

section Flags

theorem or_and_distrib (a b c : UInt32) : (a ||| b) &&& c = (a &&& c) ||| (b &&& c) :=
  UInt32.toBitVec_inj.mp BitVec.and_or_distrib_right

theorem bit_and_of_clear {position mask : UInt32} (b : Bool) (h : flagMask position &&& mask = 0) :
    bit b position &&& mask = 0 := by
  cases b <;> simp [bit, h]

theorem bit_and_of_set {position mask : UInt32} (b : Bool)
    (h : flagMask position &&& mask = flagMask position) :
    bit b position &&& mask = bit b position := by
  cases b <;> simp [bit, h]

theorem createSensorFlagsBits_bumpers (flags : CreateSensorFlags) :
    createSensorFlagsBits flags &&& 0b11 = bit flags.bumpLeft 0 ||| bit flags.bumpRight 1 := by
  simp (disch := decide) only [createSensorFlagsBits, or_and_distrib, bit_and_of_set,
    bit_and_of_clear, UInt32.or_zero]

theorem mergeCreateSensorFlags_bumpers {packetId : UInt8}
    (hcarries : packetId.toNat = 0 ∨ packetId.toNat = 7) (oldFlags packetFlags : UInt32) :
    mergeCreateSensorFlags packetId oldFlags packetFlags &&& 0b11 = packetFlags &&& 0b11 := by
  have hmask : packetFlagsMask packetId &&& 0b11 = 0b11 ∧
      ~~~ packetFlagsMask packetId &&& 0b11 = 0 := by
    rcases hcarries with h | h <;> rw [packetFlagsMask, h] <;> decide
  rw [mergeCreateSensorFlags, or_and_distrib, UInt32.and_assoc, UInt32.and_assoc, hmask.1,
    hmask.2, UInt32.and_zero, UInt32.zero_or]

theorem recordSensorEdgeEvents_flags (packetId : UInt8) (old : CreateStatus)
    (sensors : CreateSensorPacket) (st : Status) :
    (recordSensorEdgeEvents packetId old sensors st).create.flags = st.create.flags := by
  have hif : ∀ c kind a st, (recordIf c kind a st).create = st.create := by
    intro c kind a st
    unfold recordIf
    split <;> rfl
  have hbattery : ∀ percent st, (recordBatteryLow old percent st).create.flags = st.create.flags := by
    intro percent st
    unfold recordBatteryLow
    split
    · rfl
    · dsimp only
      split
      · rfl
      · split <;> rfl
  simp only [recordSensorEdgeEvents, hbattery, hif]

end Flags

end Status

namespace Escape

inductive Side
  | left | right
  deriving DecidableEq

/-- The one bumper that the bytes of a packet report as pressed, by the Create's own numbering:
bit 0 of the first byte is the right bumper, bit 1 the left one. -/
def pressed (packetId : UInt8) (bytes : List UInt8) : Option Side :=
  if packetId.toNat = 0 ∨ packetId.toNat = 7 then
    if bytes.getD 0 0 &&& 0b11 = 0b10 then some .left
    else if bytes.getD 0 0 &&& 0b11 = 0b01 then some .right
    else none
  else none

/-- How much faster than the left wheel a frame drives the right one. -/
def wheelLead : List UInt8 → Int
  | [opcode, rightHi, rightLo, leftHi, leftLo] =>
    if opcode = oiDriveDirect then
      (i16FromBe rightHi rightLo).toInt - (i16FromBe leftHi leftLo).toInt
    else 0
  | _ => 0

def turnsToward (side : Side) (frame : List UInt8) : Prop :=
  match side with
  | .left => 0 < wheelLead frame
  | .right => wheelLead frame < 0

def turnsAway (side : Side) (frame : List UInt8) : Prop :=
  match side with
  | .left => wheelLead frame < 0
  | .right => 0 < wheelLead frame

/-- The frame that asks the wheels for this body velocity. -/
def driveBytes (linear angular : Int16) : List UInt8 :=
  Device.driveDirectFrame (World.wheelSpeeds linear angular).1 (World.wheelSpeeds linear angular).2

/-- Every frame sent between the two states is of this kind. -/
def Sends (allowed : List UInt8 → Prop) (st st' : Status) : Prop :=
  ∃ recent, st'.log = recent ++ st.log ∧
    ∀ frame written, Obs.sent frame written ∈ recent → allowed frame

section Request

variable (st : Status) (generation : UInt32) (linear angular : Int16) (ttlMs : UInt32)

/-- The request passes every check but the one of its direction. -/
def OtherwiseValid : Prop :=
  st.escapeHazardRefused .bump generation = false ∧
    (st.safety.estopLatched || st.safety.motionInterlock) = false ∧
    Status.escapeEnvelopeRefused linear angular ttlMs = false ∧
    (st.wheelDrop || st.tiltObserved || st.impactObserved || st.chargingInterlockActive) = false ∧
    st.bump = true ∧ st.cliff = false

/-- An accepted escape does not turn the body toward the pressed side, whatever the state of the
runtime that executes it, and every otherwise valid request to turn away from it is accepted. -/
def TurnsAwayFrom (side : Side) : Prop :=
  (st.validateEscapeMotion .bump generation linear angular ttlMs = .ok () →
    ∀ (w : World) queued nowMs, w.st = st →
      Sends (fun frame => ¬ turnsToward side frame) st
        ((World.startEscapeMotion queued .bump generation linear angular ttlMs nowMs).exec w).st) ∧
  (OtherwiseValid st generation linear angular ttlMs → turnsAway side (driveBytes linear angular) →
    st.validateEscapeMotion .bump generation linear angular ttlMs = .ok ())

end Request

/-- The published flags for a single bumper: the left one is in bit 0. -/
def Side.published : Side → UInt32
  | .left => 0b01
  | .right => 0b10

section Packet

variable {dev : Device} {side : Side} {packetId : UInt8} {bytes : List UInt8}

theorem decoded_bumpers {sensors : CreateSensorPacket}
    (hdecoded : decodeSensorPacket packetId bytes = some sensors)
    (hpressed : pressed packetId bytes = some side) :
    (packetId.toNat = 0 ∨ packetId.toNat = 7) ∧
      Status.bit sensors.flags.bumpLeft 0 ||| Status.bit sensors.flags.bumpRight 1 =
        side.published := by
  rw [pressed] at hpressed
  split at hpressed
  · rename_i hcarries
    obtain ⟨hleft, hright⟩ := decodeSensorPacket_bumpers hcarries hdecoded
    refine ⟨hcarries, ?_⟩
    have hlow : ∀ byte mask : UInt8, 0b11 &&& mask = mask → byte &&& mask = byte &&& 0b11 &&& mask :=
      fun byte mask hmask => by rw [UInt8.and_assoc, hmask]
    rw [hleft, hright, hlow _ 0b10 rfl, hlow _ 0b01 rfl]
    split at hpressed
    · rename_i hbyte
      cases hpressed
      rw [hbyte]
      decide
    · split at hpressed
      · rename_i hbyte
        cases hpressed
        rw [hbyte]
        decide
      · cases hpressed
  · cases hpressed

theorem pushPacket_bumpers {sensors : CreateSensorPacket}
    (hdecoded : decodeSensorPacket (dev.uart.pendingSensorPacket.getD 0) dev.uart.sensorBytes =
      some sensors)
    (hpressed : pressed (dev.uart.pendingSensorPacket.getD 0) dev.uart.sensorBytes = some side) :
    dev.pushPacket.st.create.flags &&& 0b11 = side.published := by
  obtain ⟨hcarries, hside⟩ := decoded_bumpers hdecoded hpressed
  have hbytes : dev.uart.sensorBytes.isEmpty = false := by
    cases hempty : dev.uart.sensorBytes with
    | nil => rw [pressed, hempty] at hpressed; simp at hpressed
    | cons _ _ => rfl
  have hflags : dev.pushPacket.st.create.flags =
      Status.mergeCreateSensorFlags (dev.uart.pendingSensorPacket.getD 0) dev.st.create.flags
        (Status.createSensorFlagsBits sensors.flags) := by
    rw [Device.pushPacket, if_neg (by simp [hbytes])]
    dsimp only
    rw [hdecoded]
    exact Status.recordSensorEdgeEvents_flags _ _ _ _
  rw [hflags, Status.mergeCreateSensorFlags_bumpers hcarries,
    Status.createSensorFlagsBits_bumpers, hside]

end Packet

section Admission

variable {st : Status} {generation : UInt32} {linear angular : Int16} {ttlMs : UInt32} {side : Side}

theorem validateEscapeMotion_ok_iff :
    st.validateEscapeMotion .bump generation linear angular ttlMs = .ok () ↔
      OtherwiseValid st generation linear angular ttlMs ∧
        Status.turnsTowardContact st.create.flags angular = false := by
  unfold Status.validateEscapeMotion OtherwiseValid
  cases st.escapeHazardRefused .bump generation <;>
  cases st.safety.estopLatched || st.safety.motionInterlock <;>
  cases Status.escapeEnvelopeRefused linear angular ttlMs <;>
  cases st.wheelDrop || st.tiltObserved || st.impactObserved || st.chargingInterlockActive <;>
  cases st.bump <;> cases st.cliff <;>
  cases Status.turnsTowardContact st.create.flags angular <;> simp

theorem turnsTowardContact_published (angular : Int16)
    (hflags : st.create.flags &&& 0b11 = side.published) :
    Status.turnsTowardContact st.create.flags angular =
      match side with
      | .left => decide (angular < 0)
      | .right => decide (0 < angular) := by
  have hlow : ∀ mask : UInt32, 0b11 &&& mask = mask →
      st.create.flags &&& mask = side.published &&& mask := fun mask hmask => by
    rw [← hflags, UInt32.and_assoc, hmask]
  have hcross : ((1 : UInt32) &&& 2 != 0) = false ∧ ((2 : UInt32) &&& 1 != 0) = false := by decide
  rw [Status.turnsTowardContact, hlow 0b01 rfl, hlow 0b10 rfl]
  cases side <;> simp [Side.published, hcross]

theorem envelope_bounds (h : Status.escapeEnvelopeRefused linear angular ttlMs = false) :
    -120 ≤ linear.toInt ∧ linear.toInt ≤ 0 ∧ angular.toInt.natAbs ≤ 500 := by
  simp only [Status.escapeEnvelopeRefused, Bool.or_eq_false_iff, decide_eq_false_iff_not,
    Int16.lt_iff_toInt_lt, UInt16.lt_iff_toNat_lt] at h
  obtain ⟨⟨⟨⟨-, hhi⟩, hlo⟩, hang⟩, -⟩ := h
  have hmin : (-Status.maxEscapeLinearMmS).toInt = -120 := by decide
  have hmax : Status.maxEscapeAngularMradS.toNat = 500 := by decide
  have hzero : (0 : Int16).toInt = 0 := rfl
  have hwide := angular.toInt_lt
  have hwide' := angular.le_toInt
  have habs : (Status.unsignedAbs angular).toNat = angular.toInt.natAbs := by
    rw [Status.unsignedAbs, UInt16.toNat_ofNat']
    omega
  omega

theorem wheelLead_driveDirectFrame (left right : Int16) :
    wheelLead (Device.driveDirectFrame left right) = right.toInt - left.toInt := by
  simp only [wheelLead, Device.driveDirectFrame, Device.toBeBytes, List.cons_append,
    List.nil_append, if_pos, Device.i16FromBe_toBeBytes]

theorem wheelLead_driveBytes (linear : Int16) (h : Status.escapeEnvelopeRefused linear angular ttlMs = false) :
    (0 < wheelLead (driveBytes linear angular) ↔ 8 ≤ angular.toInt) ∧
      (wheelLead (driveBytes linear angular) < 0 ↔ angular.toInt ≤ -8) := by
  obtain ⟨hlo, hhi, hang⟩ := envelope_bounds h
  rw [driveBytes, wheelLead_driveDirectFrame, World.wheelSpeeds]
  dsimp only
  rw [clampI16_toInt, clampI16_toInt]
  have htrack : createAxleTrackMm = 258 := rfl
  have hdelta : Int.tdiv (angular.toInt * 258) 2000 =
      if 0 ≤ angular.toInt then angular.toInt * 258 / 2000
      else -((-angular.toInt) * 258 / 2000) := by
    split
    · exact Int.tdiv_eq_ediv_of_nonneg (by omega)
    · rw [show angular.toInt * 258 = -((-angular.toInt) * 258) by omega, Int.neg_tdiv,
        Int.tdiv_eq_ediv_of_nonneg (by omega)]
  rw [htrack, hdelta]
  omega

end Admission

section Frames

variable {allowed : List UInt8 → Prop}

theorem Sends.refl (st : Status) : Sends allowed st st := ⟨[], rfl, by simp⟩

theorem Sends.same {st st' : Status} (h : st'.log = st.log) : Sends allowed st st' :=
  ⟨[], h, by simp⟩

theorem Sends.one {st st' : Status} {o : Obs} (h : st'.log = o :: st.log)
    (ho : ∀ frame written, o = .sent frame written → allowed frame) : Sends allowed st st' :=
  ⟨[o], h, fun frame written hmem => ho frame written (List.mem_singleton.mp hmem).symm⟩

theorem Sends.trans {st st' st'' : Status} (h : Sends allowed st st') (h' : Sends allowed st' st'') :
    Sends allowed st st'' := by
  obtain ⟨recent, hlog, hsent⟩ := h
  obtain ⟨recent', hlog', hsent'⟩ := h'
  refine ⟨recent' ++ recent, by rw [hlog', hlog, List.append_assoc], ?_⟩
  intro frame written hmem
  rcases List.mem_append.mp hmem with hnew | hold
  · exact hsent' frame written hnew
  · exact hsent frame written hold

/-- A driver that sends such frames only. -/
abbrev Transmits (allowed : List UInt8 → Prop) {α : Type} (d : Driver α) : Prop :=
  Prog.Stays (fun dev dev' : Device => Sends allowed dev.st dev'.st) d

theorem Transmits.bind {α β : Type} {d : Driver α} {k : α → Driver β} (hd : Transmits allowed d)
    (hk : ∀ a, Transmits allowed (k a)) : Transmits allowed (d >>= k) :=
  Prog.Stays.bind (fun _ _ _ h h' => h.trans h') hd hk

theorem sendBytes_transmits {frame : List UInt8} (h : allowed frame) :
    Transmits allowed (Device.sendBytes frame) := fun _ =>
  .one rfl fun _ _ heq => by
    cases heq
    exact h

theorem pushEvent_transmits (event : BrainstemEvent) :
    Transmits allowed (.act (Device.pushEvent event)) := fun dev => by
  show Sends allowed dev.st (dev.st.signalEvent event)
  cases event <;> first
    | exact .refl dev.st
    | exact .one rfl (fun _ _ h => nomatch h)

/-- A program of the runtime that sends such frames only. -/
abbrev Sending (allowed : List UInt8 → Prop) {α : Type} (m : M α) : Prop :=
  Prog.Stays (fun w w' : World => Sends allowed w.st w'.st) m

theorem Sending.bind {α β : Type} {m : M α} {k : α → M β} (hm : Sending allowed m)
    (hk : ∀ a, Sending allowed (k a)) : Sending allowed (m >>= k) :=
  Prog.Stays.bind (fun _ _ _ h h' => h.trans h') hm hk

theorem Sending.act {f : World → World} (h : ∀ w, (f w).log = w.log) :
    Sending allowed (Prog.act f) :=
  Prog.Stays.act fun w => .same (h w)

theorem Sending.get : Sending allowed Prog.get := Prog.Stays.get fun w => .refl w.st

theorem Sending.fail {α : Type} (e : BrainstemError) : Sending allowed (Prog.fail e : M α) :=
  Prog.Stays.fail (fun w => .refl w.st) e

theorem Sending.drive {α : Type} {d : Driver α} (h : Transmits allowed d) :
    Sending allowed (World.drive d) := fun w => h w.dev

theorem stopDrive_sending (hstop : allowed stopFrame) : Sending allowed World.stopDrive :=
  (Sending.drive ((sendBytes_transmits hstop).bind fun _ => pushEvent_transmits _)).bind fun _ =>
    .act fun _ => rfl

theorem ensureCreateResponsive_sending : Sending allowed World.ensureCreateResponsive := by
  have hjudge : Sending allowed (.act fun w : World =>
      if w.rt.lastCreatePacketAtMs.any fun last => createLinkFreshnessTimeoutMs < w.nowMs - last then
        (w.onRuntime fun rt => { rt with createResponsive := false }).onStatus (·.setOiModeUnknown)
      else w) := .act fun w => by split <;> rfl
  have hanswer : ∀ w : World, Sending allowed
      (if w.rt.createResponsive then pure () else Prog.fail .createNoResponse : M Unit) := fun w =>
    .ite (.pure (fun w => .refl w.st) ()) (Sending.fail _)
  exact hjudge.bind fun _ => Sending.get.bind hanswer

theorem startEscapeMotion_sending (hstop : allowed stopFrame) (queued : QueuedCommand)
    (kind : SafetyLatchKind) (generation : UInt32) {linear angular : Int16} (ttlMs nowMs : UInt32)
    (hdrive : allowed (driveBytes linear angular)) :
    Sending allowed (World.startEscapeMotion queued kind generation linear angular ttlMs nowMs) := by
  have hhalt : Sending allowed (World.stopDrive >>= fun _ => .act (·.setActive .none)) :=
    (stopDrive_sending hstop).bind fun _ => .act fun _ => rfl
  have hallowed : Sending allowed World.ensureMotionAllowed := by
    unfold World.ensureMotionAllowed
    exact Sending.get.bind fun _ => .ite ((stopDrive_sending hstop).bind fun _ => Sending.fail _)
      ensureCreateResponsive_sending
  have hstart : Sending allowed (.act (World.startDriving (nowMs + ttlMs))) := fun _ =>
    .one rfl fun _ _ h => by cases h
  have hdirect : Sending allowed (World.startDriveDirect (World.wheelSpeeds linear angular).1
      (World.wheelSpeeds linear angular).2 (some ttlMs) nowMs) := by
    unfold World.startDriveDirect
    refine hhalt.ite (hallowed.bind fun _ => Sending.bind ?_ fun _ => ?_)
    · exact Sending.act fun _ => rfl
    · exact (Sending.drive ((pushEvent_transmits _).bind fun _ =>
        sendBytes_transmits hdrive)).bind fun _ => hstart
  unfold World.startEscapeMotion World.startCmdVel
  refine Sending.get.bind fun w => .ite (Sending.bind ?_ fun _ => hhalt.ite
    (hdirect.bind fun _ => ?_)) (Sending.fail _)
  · exact Sending.act fun _ => rfl
  · exact Sending.act fun _ => rfl

end Frames

section Direction

variable {st : Status} {generation : UInt32} {linear angular : Int16} {ttlMs : UInt32} {side : Side}

/-- A runtime that withholds nothing from an escape. -/
def readyWorld (st : Status) : World where
  dev := { st }
  rt := { safetyLatched := true, safetyLatchKind := some .bump, safetyRecoveryMotion := true,
          createResponsive := true }

theorem startEscapeMotion_sends
    (haccepted : st.validateEscapeMotion .bump generation linear angular ttlMs = .ok ())
    (hlead : wheelLead (driveBytes linear angular) ≠ 0) (queued : QueuedCommand) (nowMs : UInt32) :
    ∃ after before written, ((World.startEscapeMotion queued .bump generation linear angular ttlMs
      nowMs).exec (readyWorld st)).log =
        after :: Obs.sent (driveBytes linear angular) written :: before :: st.log := by
  have hmoving : ¬ (linear = 0 ∧ angular = 0) := by
    rintro ⟨rfl, rfl⟩
    exact hlead (by decide)
  have hwheels : ¬ ((World.wheelSpeeds linear angular).1 = 0 ∧
      (World.wheelSpeeds linear angular).2 = 0) := by
    rintro ⟨hleft, hright⟩
    rw [driveBytes, hleft, hright] at hlead
    exact hlead (by decide)
  have hok : ((readyWorld st).st.validateEscapeMotion .bump generation linear angular ttlMs).isOk =
      true := by
    rw [show (readyWorld st).st = st from rfl, haccepted]
    rfl
  unfold World.startEscapeMotion World.startCmdVel World.startDriveDirect
  rw [Prog.exec, Prog.get_bind, if_pos hok, Prog.act_bind, if_neg hmoving]
  dsimp only
  rw [if_neg hwheels]
  exact ⟨_, _, _, rfl⟩

theorem turnsAwayFrom_of_slow (hslow : ¬ OtherwiseValid st generation linear angular ttlMs ∨
    angular.toInt.natAbs ≤ 7) : TurnsAwayFrom st generation linear angular ttlMs side := by
  constructor
  · intro haccepted w queued nowMs hw
    have hvalid := (validateEscapeMotion_ok_iff.mp haccepted).1
    have hangular := hslow.resolve_left (not_not_intro hvalid)
    have hlead := wheelLead_driveBytes linear hvalid.2.2.1
    rw [← hw]
    refine startEscapeMotion_sending ?_ queued .bump generation ttlMs nowMs ?_ w
    · have hstop : wheelLead stopFrame = 0 := by decide
      cases side <;> simp [turnsToward, hstop]
    · cases side <;> simp only [turnsToward] <;> omega
  · intro hvalid haway
    have hangular := hslow.resolve_left (not_not_intro hvalid)
    have hlead := wheelLead_driveBytes linear hvalid.2.2.1
    cases side <;> simp only [turnsAway] at haway <;> omega

/-- An escape under a bump latch turns away from the pressed side only where it does not turn at
all: the side that is refused is the wrong one. -/
theorem turnsAwayFrom_iff {dev : Device} {sensors : CreateSensorPacket}
    (hdecoded : decodeSensorPacket (dev.uart.pendingSensorPacket.getD 0) dev.uart.sensorBytes =
      some sensors)
    (hpressed : pressed (dev.uart.pendingSensorPacket.getD 0) dev.uart.sensorBytes = some side)
    (hflags : st.create.flags = dev.pushPacket.st.create.flags) :
    TurnsAwayFrom st generation linear angular ttlMs side ↔
      ¬ OtherwiseValid st generation linear angular ttlMs ∨ angular.toInt.natAbs ≤ 7 := by
  have hbumpers : st.create.flags &&& 0b11 = side.published := by
    rw [hflags, pushPacket_bumpers hdecoded hpressed]
  refine ⟨?_, turnsAwayFrom_of_slow⟩
  rintro ⟨hsafe, hserved⟩
  by_contra hout
  push Not at hout
  obtain ⟨hvalid, hfast⟩ := hout
  have hlead := wheelLead_driveBytes linear hvalid.2.2.1
  have hrefused := turnsTowardContact_published angular hbumpers
  have hzero : (0 : Int16).toInt = 0 := rfl
  by_cases htoward : turnsToward side (driveBytes linear angular)
  · -- The request goes through, and its drive frame with it.
    have haccepted : st.validateEscapeMotion .bump generation linear angular ttlMs = .ok () := by
      refine validateEscapeMotion_ok_iff.mpr ⟨hvalid, ?_⟩
      rw [hrefused]
      cases side <;> simp only [turnsToward, decide_eq_false_iff_not, Int16.lt_iff_toInt_lt]
        at htoward ⊢ <;> omega
    have hmoves : wheelLead (driveBytes linear angular) ≠ 0 := by
      cases side <;> simp only [turnsToward] at htoward <;> omega
    obtain ⟨after, before, written, hlog⟩ :=
      startEscapeMotion_sends haccepted hmoves ⟨0, .stop, false⟩ 0
    obtain ⟨recent, hrecent, hallowed⟩ :=
      hsafe haccepted (readyWorld st) ⟨0, .stop, false⟩ 0 rfl
    rw [World.log] at hlog
    rw [hlog] at hrecent
    have hsplit : [after, .sent (driveBytes linear angular) written, before] ++ st.log =
        recent ++ st.log := hrecent
    have hsame : recent = [after, .sent (driveBytes linear angular) written, before] :=
      (List.append_cancel_right hsplit).symm
    exact hallowed _ written (by simp [hsame]) htoward
  · have haway : turnsAway side (driveBytes linear angular) := by
      cases side <;> simp only [turnsToward, turnsAway] at htoward ⊢ <;> omega
    have haccepted := (validateEscapeMotion_ok_iff.mp (hserved hvalid haway)).2
    rw [hrefused] at haccepted
    cases side <;> simp only [turnsAway, decide_eq_false_iff_not, Int16.lt_iff_toInt_lt]
      at haway haccepted <;> omega

/-- A driver that has just received a complete bumper packet. -/
def bumperDevice (byte : UInt8) : Device where
  uart := { pendingSensorPacket := some 7, sensorBytes := [byte] }
  st := { hazardGeneration := 1, safety := { safetyTripped := true, latchKind := some .bump } }

/-- The left bumper is pressed, and the body is to back straight off. -/
theorem turnsAwayFrom_straight :
    decodeSensorPacket 7 [0b10] = some { flags := { bumpLeft := true } } ∧
      pressed 7 [0b10] = some .left ∧
      (TurnsAwayFrom (bumperDevice 0b10).pushPacket.st 1 (-60) 0 250 .left ↔
        ¬ OtherwiseValid (bumperDevice 0b10).pushPacket.st 1 (-60) 0 250 ∨
          (0 : Int16).toInt.natAbs ≤ 7) :=
  ⟨rfl, rfl, @turnsAwayFrom_iff _ _ _ _ _ _ (bumperDevice 0b10) _ rfl rfl rfl⟩

/-- With the left bumper pressed an escape that turns left is accepted, and one that turns right is
refused. -/
theorem left_bumper_mistaken :
    (bumperDevice 0b10).pushPacket.st.validateEscapeMotion .bump 1 (-60) 200 250 = .ok () ∧
      turnsToward .left (driveBytes (-60) 200) ∧
      ¬ TurnsAwayFrom (bumperDevice 0b10).pushPacket.st 1 (-60) (-200) 250 .left := by
  refine ⟨by decide +kernel, show 0 < wheelLead _ by decide +kernel, ?_⟩
  rintro ⟨-, hserved⟩
  have hvalid : OtherwiseValid (bumperDevice 0b10).pushPacket.st 1 (-60) (-200) 250 := by
    unfold OtherwiseValid
    decide +kernel
  have haccepted := hserved hvalid (show wheelLead _ < 0 by decide +kernel)
  exact absurd haccepted (by decide +kernel)

end Direction

end Escape

end Netherwick.Brainstem
