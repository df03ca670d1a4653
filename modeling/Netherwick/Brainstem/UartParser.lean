import Mathlib.Data.List.Induction
import Mathlib.Logic.Function.Iterate
import Netherwick.Brainstem.CreateUart

/-! # The stream parser over runs

The parser's state is what is left of the bytes since the last header. A packet is published only
by the byte that completes a frame. -/

namespace Netherwick.Brainstem

open Netherwick.Lib

/-- What meets the driver: bytes and receive errors arrive, one of them is taken from the line, a
packet is requested, or the line is flushed. -/
inductive UartInput
  | arrive (reads : List SerialRead)
  | receive
  | request (packetId : UInt8)
  | flush

namespace Device

def withRx (rx : List SerialRead) (dev : Device) : Device := { dev with hw := { dev.hw with rx } }

/-- One round of the poll's loop. -/
def receive (dev : Device) : Device :=
  match dev.hw.rx with
  | [] => dev
  | .byte byte :: rx =>
    let dev := dev.withRx rx
    if dev.uart.pendingSensorPacket.isSome then dev.processStreamByte byte else dev
  | .error _ :: rx => (dev.withRx rx).onUart CreateUart.resetStreamParser

end Device

/-- The driver, with the bytes that were received since the parser was last reset from outside. -/
structure UartLine where
  dev : Device := {}
  heard : List UInt8 := []

namespace UartLine

def step (line : UartLine) : UartInput → UartLine
  | .arrive reads => { line with dev := line.dev.withRx (line.dev.hw.rx ++ reads) }
  | .receive =>
    { dev := line.dev.receive
      heard := match line.dev.hw.rx with
        | [] => line.heard
        | .byte byte :: _ => line.heard ++ [byte]
        | .error _ :: _ => [] }
  | .request packetId =>
    { dev := (Device.requestSensorPacket packetId).exec line.dev
      heard := if (sensorPacketLength packetId).isNone then line.heard else [] }
  | .flush => { dev := line.dev.flushRx, heard := [] }

def run (dev : Device) (inputs : List UartInput) : UartLine := inputs.foldl step { dev }

@[simp] theorem run_snoc (dev : Device) (inputs : List UartInput) (input : UartInput) :
    run dev (inputs ++ [input]) = (run dev inputs).step input :=
  List.foldl_append

end UartLine

section Frames

def byteSum (bytes : List UInt8) : UInt8 := bytes.foldl (· + ·) 0

def frameBody (packetId : UInt8) (data : List UInt8) : List UInt8 :=
  [oiStreamHeader, UInt8.ofNat (data.length + 1), packetId] ++ data

/-- A frame has the length of its packet, and its bytes sum up to zero. -/
structure StreamFrame (packetId : UInt8) (data : List UInt8) (checksum : UInt8) : Prop where
  length : sensorPacketLength packetId = some data.length
  sum : byteSum (frameBody packetId data ++ [checksum]) = 0

def Published (packetId : UInt8) (data : List UInt8) (dev after : Device) : Prop :=
  match decodeSensorPacket packetId data with
  | some sensors =>
    after.events = (dev.events.pushBack (.createSensorPacketDecoded packetId sensors)).pushBack
      (.createPacketReceived packetId data) ∧
    -- the frame that pauses the stream is logged in between
    ∃ st : Status, st.create = dev.st.create ∧
      after.st.create = (st.markUartPacket.markCreateSensorPacket packetId sensors).create
  | none =>
    if sensorPacketIsDecoded packetId then
      (after.events = dev.events ∨ after.events = dev.events.pushBack (.error .invalidPacket)) ∧
      after.st.create = dev.st.create
    else after.events = dev.events.pushBack (.createPacketReceived packetId data) ∧
      after.st.create = dev.st.create

/-- No event is queued and no sensor changes. -/
structure Unpublished (dev after : Device) : Prop where
  events : after.events = dev.events
  create : after.st.create = dev.st.create

structure SoundParser (dev : Device) (inputs : List UartInput) : Prop where
  /-- A packet is published only by the last byte of its frame. -/
  published : ∀ seen input, seen ++ [input] <+: inputs →
    Unpublished (UartLine.run dev seen).dev (UartLine.run dev (seen ++ [input])).dev ∨
    ∃ packetId data checksum before,
      (UartLine.run dev seen).dev.uart.pendingSensorPacket = some packetId ∧
      (UartLine.run dev (seen ++ [input])).heard =
        before ++ (frameBody packetId data ++ [checksum]) ∧
      StreamFrame packetId data checksum ∧
      Published packetId data (UartLine.run dev seen).dev
        (UartLine.run dev (seen ++ [input])).dev
  bounded : ∀ seen, seen <+: inputs → ∀ packetId,
    (UartLine.run dev seen).dev.uart.pendingSensorPacket = some packetId →
    ∃ length, sensorPacketLength packetId = some length ∧
      (UartLine.run dev seen).dev.uart.sensorBytes.length ≤ length
  /-- Past garbage without a header, a frame gives its packet. -/
  resynchronised : ∀ seen, seen <+: inputs → ∀ packetId garbage data checksum rest,
    (UartLine.run dev seen).dev.uart.pendingSensorPacket = some packetId →
    (UartLine.run dev seen).dev.uart.streamState = .header →
    (UartLine.run dev seen).dev.hw.rx =
      (garbage ++ (frameBody packetId data ++ [checksum])).map .byte ++ rest →
    oiStreamHeader ∉ garbage → StreamFrame packetId data checksum →
    Published packetId data (UartLine.run dev seen).dev
      (Device.receive^[garbage.length + data.length + 4] (UartLine.run dev seen).dev)

end Frames

section Reading

variable {dev : Device} {uart : CreateUart} {heard data : List UInt8} {packetId byte : UInt8}
  {length : Nat}

theorem byteSum_snoc (bytes : List UInt8) (byte : UInt8) :
    byteSum (bytes ++ [byte]) = byteSum bytes + byte := by
  rw [byteSum, List.foldl_append]
  rfl

def readSoFar (uart : CreateUart) (packetId : UInt8) (length : Nat) : List UInt8 :=
  match uart.streamState with
  | .header => []
  | .length => [oiStreamHeader]
  | .packetId => [oiStreamHeader, UInt8.ofNat (length + 1)]
  | .data | .checksum =>
    [oiStreamHeader, UInt8.ofNat (length + 1), packetId] ++ uart.sensorBytes

/-- How many data bytes are held, by the state. -/
def Holds (uart : CreateUart) (length : Nat) : Prop :=
  match uart.streamState with
  | .data => uart.sensorBytes.length < length
  | .checksum => uart.sensorBytes.length = length
  | _ => uart.sensorBytes = []

structure Reading (uart : CreateUart) (heard : List UInt8) (packetId : UInt8) (length : Nat) :
    Prop where
  awaited : uart.pendingSensorPacket = some packetId
  known : sensorPacketLength packetId = some length
  read : readSoFar uart packetId length <:+ heard
  sum : uart.streamSum = byteSum (readSoFar uart packetId length)
  holds : Holds uart length

/-- With no packet awaited the parser holds nothing. -/
inductive ParserInv (uart : CreateUart) (heard : List UInt8) : Prop
  | idle (unawaited : uart.pendingSensorPacket = none) (empty : uart.sensorBytes = [])
  | reading (packetId : UInt8) (length : Nat) (h : Reading uart heard packetId length)

theorem sensorPacketLength_le (h : sensorPacketLength packetId = some length) :
    0 < length ∧ length ≤ 26 := by
  simp only [sensorPacketLength] at h
  split at h
  · cases h; omega
  split at h
  · cases h; omega
  split at h
  · cases h; omega
  · cases h

theorem Reading.pos (h : Reading uart heard packetId length) : 0 < length :=
  (sensorPacketLength_le h.known).1

theorem Published.congr {dev dev' after after' : Device} (h : Published packetId data dev after)
    (hevents : dev'.events = dev.events) (hst : dev'.st.create = dev.st.create)
    (hafter : after'.events = after.events) (hcreate : after'.st.create = after.st.create) :
    Published packetId data dev' after' := by
  unfold Published at h ⊢
  rw [hafter, hcreate, hevents]
  split
  case h_1 sensors hdecoded =>
    rw [hdecoded] at h
    obtain ⟨hqueued, st, hbefore, hmarked⟩ := h
    exact ⟨hqueued, st, hbefore.trans hst.symm, hmarked⟩
  case h_2 hdecoded =>
    rw [hdecoded] at h
    rw [hst]
    exact h

theorem Holds.le (h : Holds uart length) : uart.sensorBytes.length ≤ length := by
  unfold Holds at h
  split at h
  · exact Nat.le_of_lt h
  · exact Nat.le_of_eq h
  · rw [h]
    exact Nat.zero_le _

theorem ParserInv.bounded (h : ParserInv uart heard)
    (hpending : uart.pendingSensorPacket = some packetId) :
    ∃ length, sensorPacketLength packetId = some length ∧ uart.sensorBytes.length ≤ length := by
  cases h with
  | idle unawaited empty => rw [unawaited] at hpending; cases hpending
  | reading packetId' length h =>
    cases h.awaited.symm.trans hpending
    exact ⟨length, h.known, h.holds.le⟩

/-- A request starts at a header. -/
theorem Reading.start (uart : CreateUart) (known : sensorPacketLength packetId = some length) :
    Reading { uart with pendingSensorPacket := some packetId }.resetStreamParser [] packetId
      length where
  awaited := rfl
  known := known
  read := List.nil_suffix
  sum := rfl
  holds := rfl

/-- So does a byte out of place, at itself or after it. -/
theorem Reading.restart (h : Reading uart heard packetId length) (byte : UInt8) :
    Reading (uart.restartStreamFrom byte) (heard ++ [byte]) packetId length := by
  rw [CreateUart.restartStreamFrom]
  split
  case isTrue hbyte =>
    subst hbyte
    exact ⟨h.awaited, h.known, List.suffix_append _ _, rfl, rfl⟩
  case isFalse =>
    exact ⟨h.awaited, h.known, List.nil_suffix, rfl, rfl⟩

theorem suffix_snoc {read heard : List UInt8} (h : read <:+ heard) (byte : UInt8) :
    read ++ [byte] <:+ heard ++ [byte] := by
  obtain ⟨before, rfl⟩ := h
  exact ⟨before, (List.append_assoc _ _ _).symm⟩

/-- A byte either moves the parser on, over the frame if it is the next byte of one, or completes
the frame. -/
theorem Reading.advance (h : Reading dev.uart heard packetId length) (byte : UInt8) :
    (∃ f, dev.processStreamByte byte = dev.onUart f ∧
      Reading (f dev.uart) (heard ++ [byte]) packetId length ∧
      ∀ data, data.length = length →
        readSoFar dev.uart packetId length ++ [byte] <+: frameBody packetId data →
        readSoFar (f dev.uart) packetId length = readSoFar dev.uart packetId length ++ [byte]) ∨
    (dev.uart.streamState = .checksum ∧ dev.uart.streamSum + byte = 0) := by
  have hread := suffix_snoc h.read byte
  have hsum : dev.uart.streamSum + byte =
      byteSum (readSoFar dev.uart packetId length ++ [byte]) := by
    rw [byteSum_snoc, ← h.sum]
  have hholds := h.holds
  have hle := (sensorPacketLength_le h.known).2
  unfold Device.processStreamByte
  rw [h.awaited]
  simp only [h.known]
  cases hstate : dev.uart.streamState with
  | header =>
    left
    simp only
    split
    case isTrue hbyte =>
      subst hbyte
      refine ⟨_, rfl, ⟨h.awaited, h.known, List.suffix_append _ _, rfl, ?_⟩, fun _ _ _ => ?_⟩
      · simpa only [Holds, hstate] using hholds
      · simp only [readSoFar, hstate, List.nil_append]
    case isFalse hbyte =>
      refine ⟨id, rfl, ⟨h.awaited, h.known, ?_, h.sum, hholds⟩, fun data _ hnext => ?_⟩
      · simp only [id, readSoFar, hstate, List.nil_suffix]
      · simp only [readSoFar, hstate, frameBody, List.nil_append, List.cons_append,
          List.cons_prefix_cons] at hnext
        exact absurd hnext.1 hbyte
  | length =>
    left
    simp only
    simp only [readSoFar, hstate] at hread hsum
    split
    case isTrue hbyte =>
      have hbyte : byte = UInt8.ofNat (length + 1) := by
        rw [← hbyte, UInt8.ofNat_toNat]
      refine ⟨_, rfl, ⟨h.awaited, h.known, ?_, ?_, ?_⟩, fun _ _ _ => ?_⟩
      · simp only [readSoFar, ← hbyte]
        exact hread
      · simp only [readSoFar, ← hbyte]
        exact hsum
      · simpa only [Holds, hstate] using hholds
      · simp only [readSoFar, hstate, ← hbyte]
        rfl
    case isFalse hbyte =>
      refine ⟨_, rfl, h.restart byte, fun data hdata hnext => absurd ?_ hbyte⟩
      simp only [readSoFar, hstate, frameBody, List.cons_append, List.nil_append,
        List.cons_prefix_cons] at hnext
      rw [hnext.2.1, hdata, UInt8.toNat_ofNat', Nat.mod_eq_of_lt (by omega)]
  | packetId =>
    left
    simp only
    simp only [readSoFar, hstate] at hread hsum
    split
    case isTrue hbyte =>
      subst hbyte
      refine ⟨_, rfl, ⟨h.awaited, h.known, hread, hsum, h.pos⟩, fun _ _ _ => ?_⟩
      simp only [readSoFar, hstate]
      rfl
    case isFalse hbyte =>
      refine ⟨_, rfl, h.restart byte, fun data _ hnext => absurd ?_ hbyte⟩
      simp only [readSoFar, hstate, frameBody, List.cons_append, List.nil_append,
        List.cons_prefix_cons] at hnext
      exact hnext.2.2.1
  | data =>
    left
    simp only [readSoFar, Holds, hstate] at hread hsum hholds
    have hroom : ¬ sensorBytesCapacity ≤ dev.uart.sensorBytes.length := by
      unfold sensorBytesCapacity
      omega
    simp only
    split
    case isTrue hfull => exact absurd hfull hroom
    case isFalse =>
      refine ⟨fun uart => { uart with
        streamSum := uart.streamSum + byte
        sensorBytes := uart.sensorBytes ++ [byte]
        streamState :=
          if (uart.sensorBytes ++ [byte]).length = length then .checksum else .data },
        rfl, ⟨h.awaited, h.known, ?_, ?_, ?_⟩, fun _ _ _ => ?_⟩
      all_goals
        by_cases hlast : (dev.uart.sensorBytes ++ [byte]).length = length <;>
          simp only [readSoFar, Holds, if_pos, if_neg, hlast, not_false_eq_true, hstate]
      · exact hread
      · exact hread
      · exact hsum
      · exact hsum
      · rw [List.length_append] at hlast ⊢
        simp only [List.length_singleton] at hlast ⊢
        omega
      · rfl
      · rfl
  | checksum =>
    simp only
    split
    case isTrue hzero => exact .inr ⟨trivial, hzero⟩
    case isFalse =>
      refine .inl ⟨_, rfl, h.restart byte, fun data hdata hnext => ?_⟩
      -- the frame has no byte left
      have hlength := hnext.length_le
      simp only [Holds, hstate] at hholds
      simp only [readSoFar, hstate, frameBody, List.length_append, List.length_cons,
        List.length_nil] at hlength
      omega

theorem receive_byte {rest : List SerialRead} (h : Reading dev.uart heard packetId length)
    (hrx : dev.hw.rx = .byte byte :: rest) :
    dev.receive = (dev.withRx rest).processStreamByte byte := by
  simp only [Device.receive, Device.withRx, hrx, h.awaited, Option.isSome_some, if_true]

/-- A complete frame is published. -/
theorem pushPacket_published (hpending : dev.uart.pendingSensorPacket = some packetId)
    (hbytes : dev.uart.sensorBytes ≠ []) :
    Published packetId dev.uart.sensorBytes dev dev.pushPacket ∧
      dev.pushPacket.uart.pendingSensorPacket = none := by
  obtain ⟨hw, ⟨pending, bytes, state, sum, reported⟩, events, st⟩ := dev
  simp only at hpending hbytes
  have hsome : bytes.isEmpty = false := List.isEmpty_eq_false_iff.mpr hbytes
  simp only [Published, Device.pushPacket, hsome, hpending, Option.getD_some, Device.onUart]
  cases hdecoded : decodeSensorPacket packetId bytes with
  | some sensors => exact ⟨⟨rfl, st, rfl, rfl⟩, rfl⟩
  | none =>
    cases hcode : sensorPacketIsDecoded packetId with
    | false => exact ⟨⟨rfl, rfl⟩, rfl⟩
    | true =>
      cases reported with
      | true => exact ⟨⟨.inl rfl, rfl⟩, rfl⟩
      | false => exact ⟨⟨.inr rfl, rfl⟩, rfl⟩

theorem Reading.complete (h : Reading dev.uart heard packetId length)
    (hstate : dev.uart.streamState = .checksum) (hzero : dev.uart.streamSum + byte = 0) :
    frameBody packetId dev.uart.sensorBytes ++ [byte] <:+ heard ++ [byte] ∧
    StreamFrame packetId dev.uart.sensorBytes byte ∧
    Published packetId dev.uart.sensorBytes dev (dev.processStreamByte byte) ∧
    (dev.processStreamByte byte).uart.pendingSensorPacket = none ∧
    (dev.processStreamByte byte).uart.sensorBytes = [] := by
  have hlength : dev.uart.sensorBytes.length = length := by
    simpa only [Holds, hstate] using h.holds
  have hread : readSoFar dev.uart packetId length = frameBody packetId dev.uart.sensorBytes := by
    simp only [readSoFar, hstate, frameBody, hlength]
  have hne : dev.uart.sensorBytes ≠ [] := by
    rw [← List.length_pos_iff, hlength]
    exact h.pos
  have hbyte : dev.processStreamByte byte =
      ((Device.sendBytes [oiPauseResumeStream, 0]).exec dev).pushPacket.onUart
        CreateUart.resetStreamParser := by
    unfold Device.processStreamByte
    simp only [h.awaited, h.known, hstate, hzero, if_true]
  obtain ⟨hpublished, hnone⟩ :=
    @pushPacket_published ((Device.sendBytes [oiPauseResumeStream, 0]).exec dev) packetId
      h.awaited hne
  rw [hbyte]
  refine ⟨?_, ⟨by rw [hlength]; exact h.known, ?_⟩, hpublished.congr rfl rfl rfl rfl, hnone, rfl⟩
  · rw [← hread]
    exact suffix_snoc h.read byte
  · rw [byteSum_snoc, ← hread, ← h.sum, hzero]

end Reading

section Runs

variable {dev : Device} {line : UartLine}

/-- What one input does to the line. -/
inductive LineStep (line after : UartLine) : Prop
  | quiet (unpublished : Unpublished line.dev after.dev)
      (inv : ParserInv after.dev.uart after.heard)
  | frame (packetId : UInt8) (data : List UInt8) (checksum : UInt8)
      (awaited : line.dev.uart.pendingSensorPacket = some packetId)
      (heard : frameBody packetId data ++ [checksum] <:+ after.heard)
      (valid : StreamFrame packetId data checksum)
      (published : Published packetId data line.dev after.dev)
      (inv : ParserInv after.dev.uart after.heard)

theorem ParserInv.flush (uart : CreateUart) :
    ParserInv uart.discardPendingResponse.resetStreamParser [] :=
  .idle rfl rfl

/-- A receive error drops what was read of a frame. -/
theorem ParserInv.reset {uart : CreateUart} {heard : List UInt8} (h : ParserInv uart heard) :
    ParserInv uart.resetStreamParser [] := by
  cases h with
  | idle unawaited => exact .idle unawaited rfl
  | reading packetId length h =>
    exact .reading packetId length
      ⟨h.awaited, h.known, List.nil_suffix, rfl, rfl⟩

theorem LineStep.byte (hinv : ParserInv line.dev.uart line.heard) (byte : UInt8)
    (rx : List SerialRead) (hrx : line.dev.hw.rx = .byte byte :: rx) :
    LineStep line (line.step .receive) := by
  have hstep : line.step .receive = ⟨line.dev.receive, line.heard ++ [byte]⟩ := by
    simp only [UartLine.step, hrx]
  rw [hstep]
  cases hinv with
  | idle unawaited empty =>
    have hidle : line.dev.receive = line.dev.withRx rx := by
      simp only [Device.receive, hrx, Device.withRx, unawaited, Option.isSome_none]
      rfl
    rw [hidle]
    exact .quiet ⟨rfl, rfl⟩ (.idle unawaited empty)
  | reading packetId length h =>
    have hrest : Reading (line.dev.withRx rx).uart line.heard packetId length := h
    rw [receive_byte h hrx]
    obtain ⟨f, hbyte, hreading, -⟩ | ⟨hstate, hzero⟩ := hrest.advance byte
    · rw [hbyte]
      exact .quiet ⟨rfl, rfl⟩ (.reading packetId length hreading)
    · obtain ⟨hheard, hframe, hpublished, hnone, hempty⟩ := hrest.complete hstate hzero
      exact .frame packetId _ byte h.awaited hheard hframe (hpublished.congr rfl rfl rfl rfl)
        (.idle hnone hempty)

theorem LineStep.request (hinv : ParserInv line.dev.uart line.heard) (packetId : UInt8) :
    LineStep line (line.step (.request packetId)) := by
  cases hlength : sensorPacketLength packetId with
  | none =>
    simp only [UartLine.step, Prog.exec, Device.requestSensorPacket, hlength, Option.isNone_none,
      if_true]
    exact .quiet ⟨rfl, rfl⟩ hinv
  | some length =>
    have hstart := Reading.start line.dev.uart hlength
    cases hfault : line.dev.hw.uartFaults.head?.join <;>
      simp only [UartLine.step, Prog.exec, Device.requestSensorPacket, Device.sendBytes, hlength,
        Option.isNone_some, hfault, Device.onUart]
    · exact .quiet ⟨rfl, rfl⟩ (.reading packetId length hstart)
    · exact .quiet ⟨rfl, rfl⟩ (.idle rfl rfl)

theorem LineStep.step (hinv : ParserInv line.dev.uart line.heard) (input : UartInput) :
    LineStep line (line.step input) := by
  cases input with
  | arrive reads => exact .quiet ⟨rfl, rfl⟩ hinv
  | request packetId => exact .request hinv packetId
  | flush => exact .quiet ⟨rfl, rfl⟩ (.flush _)
  | receive =>
    cases hrx : line.dev.hw.rx with
    | nil =>
      simp only [UartLine.step, Device.receive, hrx]
      exact .quiet ⟨rfl, rfl⟩ hinv
    | cons read rx =>
      cases read with
      | byte byte => exact .byte hinv byte rx hrx
      | error error =>
        simp only [UartLine.step, Device.receive, hrx]
        exact .quiet ⟨rfl, rfl⟩ hinv.reset

theorem LineStep.inv {after : UartLine} (h : LineStep line after) :
    ParserInv after.dev.uart after.heard := by
  cases h with
  | quiet _ inv => exact inv
  | frame _ _ _ _ _ _ _ inv => exact inv

theorem UartLine.run_inv (dev : Device) (inputs : List UartInput) :
    ParserInv (UartLine.run { dev with uart := {} } inputs).dev.uart
      (UartLine.run { dev with uart := {} } inputs).heard := by
  induction inputs using List.reverseRecOn with
  | nil => exact .idle rfl rfl
  | append_singleton inputs input ih =>
    rw [UartLine.run_snoc]
    exact (LineStep.step ih input).inv

end Runs

section Resync

variable {dev : Device} {heard data garbage : List UInt8} {packetId checksum : UInt8}
  {length : Nat} {rest : List SerialRead}

theorem receive_garbage (hstate : dev.uart.streamState = .header)
    (hgarbage : oiStreamHeader ∉ garbage) (h : Reading dev.uart heard packetId length)
    (hrx : dev.hw.rx = garbage.map .byte ++ rest) :
    Device.receive^[garbage.length] dev = dev.withRx rest := by
  induction garbage generalizing dev with
  | nil =>
    rw [List.map_nil, List.nil_append] at hrx
    rw [← hrx]
    rfl
  | cons byte garbage ih =>
    rw [List.mem_cons, not_or] at hgarbage
    rw [List.map_cons, List.cons_append] at hrx
    have hskip : dev.receive = dev.withRx (garbage.map .byte ++ rest) := by
      rw [receive_byte h hrx]
      unfold Device.processStreamByte
      simp only [Device.withRx, h.awaited, h.known, hstate, if_neg (Ne.symm hgarbage.1)]
    rw [List.length_cons, Function.iterate_succ_apply, hskip]
    exact @ih (dev.withRx (garbage.map .byte ++ rest)) hstate hgarbage.2 h rfl

theorem receive_frame (todo : List UInt8) (h : Reading dev.uart heard packetId data.length)
    (htodo : readSoFar dev.uart packetId data.length ++ todo = frameBody packetId data)
    (hrx : dev.hw.rx = todo.map .byte ++ rest) :
    ∃ uart heard, Device.receive^[todo.length] dev =
        { dev.withRx rest with uart } ∧
      Reading uart heard packetId data.length ∧
      readSoFar uart packetId data.length = frameBody packetId data := by
  induction todo generalizing dev heard with
  | nil =>
    rw [List.map_nil, List.nil_append] at hrx
    rw [List.append_nil] at htodo
    rw [← hrx]
    exact ⟨dev.uart, heard, rfl, h, htodo⟩
  | cons byte todo ih =>
    have hnext : readSoFar dev.uart packetId data.length ++ [byte] <+: frameBody packetId data :=
      ⟨todo, by rw [List.append_assoc]; exact htodo⟩
    have hmoved : Reading (dev.withRx (todo.map .byte ++ rest)).uart heard packetId data.length := h
    rw [List.map_cons, List.cons_append] at hrx
    rw [List.length_cons, Function.iterate_succ_apply, receive_byte h hrx]
    obtain ⟨f, hbyte, hreading, hgrown⟩ | ⟨hstate, -⟩ := hmoved.advance byte
    · have htodo : readSoFar (f dev.uart) packetId data.length ++ todo =
          frameBody packetId data := by
        rw [show readSoFar (f dev.uart) packetId data.length = _ from hgrown data rfl hnext,
          List.append_assoc]
        exact htodo
      rw [hbyte]
      exact @ih ((dev.withRx (todo.map .byte ++ rest)).onUart f) _ hreading htodo rfl
    · -- all of the frame but the checksum was read before
      have hstate : dev.uart.streamState = .checksum := hstate
      have hholds := h.holds
      have hlength := hnext.length_le
      simp only [Holds, hstate] at hholds
      simp only [readSoFar, hstate, frameBody, List.length_append, List.length_cons,
        List.length_nil] at hlength
      omega

theorem Reading.whole (h : Reading dev.uart heard packetId data.length)
    (hread : readSoFar dev.uart packetId data.length = frameBody packetId data) :
    dev.uart.streamState = .checksum ∧ dev.uart.sensorBytes = data := by
  have hholds := h.holds
  have hlength := congrArg List.length hread
  cases hstate : dev.uart.streamState <;>
    simp only [readSoFar, hstate, frameBody, List.length_append, List.length_cons,
      List.length_nil] at hlength <;>
    try omega
  case data =>
    simp only [Holds, hstate] at hholds
    omega
  case checksum =>
    simp only [readSoFar, hstate, frameBody] at hread
    exact ⟨rfl, List.append_cancel_left hread⟩

theorem receive_resynchronises (h : Reading dev.uart heard packetId length)
    (hstate : dev.uart.streamState = .header)
    (hrx : dev.hw.rx = (garbage ++ (frameBody packetId data ++ [checksum])).map .byte ++ rest)
    (hgarbage : oiStreamHeader ∉ garbage) (hframe : StreamFrame packetId data checksum) :
    Published packetId data dev
      (Device.receive^[garbage.length + data.length + 4] dev) := by
  obtain rfl : length = data.length := Option.some.inj (h.known.symm.trans hframe.length)
  have hrounds : garbage.length + data.length + 4 =
      1 + ((frameBody packetId data).length + garbage.length) := by
    simp only [frameBody, List.length_append, List.length_cons, List.length_nil]
    omega
  rw [List.map_append, List.map_append, List.append_assoc, List.append_assoc] at hrx
  rw [hrounds, Function.iterate_add_apply, Function.iterate_add_apply,
    receive_garbage hstate hgarbage h hrx]
  have hclean : readSoFar dev.uart packetId data.length ++ frameBody packetId data =
      frameBody packetId data := by
    simp only [readSoFar, hstate, List.nil_append]
  obtain ⟨uart, heard, hrun, hreading, hwhole⟩ :=
    @receive_frame
      (dev.withRx ((frameBody packetId data).map .byte ++ ([checksum].map .byte ++ rest)))
      heard data packetId ([checksum].map .byte ++ rest) (frameBody packetId data) h hclean rfl
  have hlast : Reading { dev.withRx rest with uart }.uart heard packetId data.length := hreading
  obtain ⟨hchecksum, hdata⟩ := hlast.whole hwhole
  have hzero : uart.streamSum + checksum = 0 := by
    rw [hreading.sum, ← byteSum_snoc, hwhole]
    exact hframe.sum
  obtain ⟨-, -, hpublished, -⟩ := hlast.complete hchecksum hzero
  rw [hrun, Function.iterate_one, @receive_byte _ _ _ checksum _ rest hreading rfl]
  rw [hdata] at hpublished
  exact hpublished.congr rfl rfl rfl rfl

end Resync

theorem pollRx_receives (drained : Nat) (dev : Device) :
    ∃ rounds ≤ drained, dev.pollRx drained = Device.receive^[rounds] dev := by
  induction drained generalizing dev with
  | zero => exact ⟨0, Nat.le_refl _, rfl⟩
  | succ drained ih =>
    obtain ⟨rounds, hrounds, hpoll⟩ := ih dev.receive
    cases hrx : dev.hw.rx with
    | nil =>
      refine ⟨0, Nat.zero_le _, ?_⟩
      simp only [Device.pollRx, hrx, Function.iterate_zero, id]
    | cons read rx =>
      have hone : dev.receive = Device.receive^[1] dev := rfl
      have hmore : dev.receive.pollRx drained = Device.receive^[rounds + 1] dev := by
        rw [hpoll, ← Function.iterate_succ_apply]
      cases read with
      | byte byte =>
        refine ⟨rounds + 1, Nat.succ_le_succ hrounds, hmore ▸ ?_⟩
        simp only [Device.pollRx, Device.receive, hrx, Device.withRx]
        rfl
      | error error =>
        cases error with
        | overrun =>
          refine ⟨rounds + 1, Nat.succ_le_succ hrounds, hmore ▸ ?_⟩
          simp only [Device.pollRx, Device.receive, hrx, Device.withRx]
        | «break» | parity | framing | other =>
          refine ⟨1, Nat.succ_le_succ (Nat.zero_le _), hone ▸ ?_⟩
          simp only [Device.pollRx, Device.receive, hrx, Device.withRx]

/-- Whatever arrives and is asked for, the parser is sound. -/
theorem soundParser (dev : Device) (inputs : List UartInput) :
    SoundParser { dev with uart := {} } inputs where
  published := fun seen input _ => by
    rw [UartLine.run_snoc]
    cases LineStep.step (UartLine.run_inv dev seen) input with
    | quiet unpublished => exact .inl unpublished
    | frame packetId data checksum awaited heard valid published =>
      obtain ⟨before, heard⟩ := heard
      exact .inr ⟨packetId, data, checksum, before, awaited, heard.symm, valid, published⟩
  bounded := fun seen _ packetId hpending => (UartLine.run_inv dev seen).bounded hpending
  resynchronised := fun seen _ packetId garbage data checksum rest hpending hstate hrx hgarbage
      hframe => by
    cases UartLine.run_inv dev seen with
    | idle unawaited => rw [unawaited] at hpending; cases hpending
    | reading packetId' length h =>
      cases h.awaited.symm.trans hpending
      exact receive_resynchronises h hstate hrx hgarbage hframe

end Netherwick.Brainstem
