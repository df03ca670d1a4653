import Netherwick.Lib.Deque
import Netherwick.Lib.Prog
import Netherwick.Brainstem.Status

/-! # The Create serial driver

Frames go out through `sendBytes`; received bytes run the stream parser, which accepts a packet
only under header, length, identity and checksum. -/

namespace Netherwick.Brainstem

open Netherwick.Lib

inductive UartReadError
  | overrun | break | parity | framing | other
  deriving DecidableEq, Repr

/-- What the receiver holds next; an exhausted list would block. -/
inductive SerialRead
  | byte (value : UInt8)
  | error (error : UartReadError)
  deriving DecidableEq, Repr

/-- The board: its clock, its lines, and what its peripherals will answer. -/
structure Hardware where
  nowUs : UInt32 := 0
  rx : List SerialRead := []
  /-- One entry for each frame to come: `some k` lets `k` bytes out and then fails. -/
  uartFaults : List (Option Nat) := []
  powerToggle : Bool := false
  motherbrainReset : Bool := false
  baudAccepted : Bool := true
  chargingIndicator : Option Bool := none
  imuPoll : Except ImuHealth (Option ImuSample) := .ok none

inductive StreamState
  | header | length | packetId | data | checksum
  deriving DecidableEq, Repr

structure CreateUart where
  pendingSensorPacket : Option UInt8 := none
  sensorBytes : List UInt8 := []
  streamState : StreamState := .header
  streamSum : UInt8 := 0
  invalidPacketReported : Bool := false
  deriving DecidableEq

abbrev eventQueueCapacity : Nat := 16

/-- What the serial driver can reach: the board, its own state, the runtime's event queue and the
shared status. -/
structure Device where
  hw : Hardware := {}
  uart : CreateUart := {}
  events : Deque BrainstemEvent eventQueueCapacity := .empty
  st : Status := {}

abbrev Driver (α : Type) : Type := Prog Device BrainstemError α

namespace Device

def onStatus (f : Status → Status) (dev : Device) : Device := { dev with st := f dev.st }

def onUart (f : CreateUart → CreateUart) (dev : Device) : Device := { dev with uart := f dev.uart }

def observe (o : Obs) (dev : Device) : Device := dev.onStatus (·.observe o)

/-- `push_event`: signal an event and queue it if there is room. -/
def pushEvent (event : BrainstemEvent) (dev : Device) : Device :=
  { dev.onStatus (·.signalEvent event) with events := dev.events.pushBack event }

/-- `send_bytes`: the frame, how much of it went out, and whether the write was confirmed. -/
def sendBytes (frame : List UInt8) : Driver Unit := fun dev =>
  let fault := dev.hw.uartFaults.head?.join
  let written := fault.elim frame.length (min frame.length)
  let dev := { dev.observe (.sent frame written) with
    hw := { dev.hw with uartFaults := dev.hw.uartFaults.tail } }
  (if fault.isSome then .error .uartFraming else .ok (), dev)

end Device

section Codes

def oiStart : UInt8 := 128
def oiSafe : UInt8 := 131
def oiFull : UInt8 := 132
def oiDrive : UInt8 := 137
def oiLeds : UInt8 := 139
def oiDefineSong : UInt8 := 140
def oiPlaySong : UInt8 := 141
def oiSeekDock : UInt8 := 143
def oiDriveDirect : UInt8 := 145
def oiStream : UInt8 := 148
def oiPauseResumeStream : UInt8 := 150
def oiStreamHeader : UInt8 := 19
def uartDrainLimit : Nat := 128
def sensorBytesCapacity : Nat := 32

end Codes

section Packets

def sensorPacketLength (packetId : UInt8) : Option Nat :=
  let p := packetId.toNat
  if p = 0 then some 26
  else if (7 ≤ p ∧ p ≤ 18) ∨ p = 21 ∨ p = 24 ∨ p = 32 ∨ (34 ≤ p ∧ p ≤ 38) then some 1
  else if p = 19 ∨ p = 20 ∨ p = 22 ∨ p = 23 ∨ (25 ≤ p ∧ p ≤ 31) then some 2
  else none

def sensorPacketIsDecoded (packetId : UInt8) : Bool :=
  let p := packetId.toNat
  p = 0 ∨ (7 ≤ p ∧ p ≤ 14) ∨ (17 ≤ p ∧ p ≤ 26) ∨ (28 ≤ p ∧ p ≤ 31) ∨ p = 34 ∨ p = 35

def validBumpsWheelDrops (byte : UInt8) : Bool := byte &&& ~~~0b00011111 = 0

def validBool (byte : UInt8) : Bool := byte ≤ 1

def validButtons (byte : UInt8) : Bool := byte &&& ~~~0b00001111 = 0

def validChargingState (byte : UInt8) : Bool := byte ≤ 5

def validChargingSources (byte : UInt8) : Bool := byte &&& ~~~0b11 = 0

def validGroupZero (bytes : List UInt8) : Bool :=
  validBumpsWheelDrops (bytes.getD 0 0) && ((bytes.drop 1).take 6).all validBool
    && validButtons (bytes.getD 11 0) && validChargingState (bytes.getD 16 0)

/-- The packet's bit 0 is the right bumper, bit 1 the left one. -/
def applyBumpsWheelDrops (flags : CreateSensorFlags) (byte : UInt8) : CreateSensorFlags :=
  { flags with
    bumpRight := byte &&& 0b00000001 != 0
    bumpLeft := byte &&& 0b00000010 != 0
    wheelDrop := byte &&& 0b00011100 != 0 }

def u16FromBe (hi lo : UInt8) : UInt16 := (hi.toUInt16 <<< 8) ||| lo.toUInt16

theorem u16FromBe_bytes (word : UInt16) : u16FromBe (word >>> 8).toUInt8 word.toUInt8 = word := by
  have hlt := word.toNat_lt
  rw [← UInt16.toNat_inj, u16FromBe, UInt16.toNat_or, UInt16.toNat_shiftLeft,
    UInt8.toNat_toUInt16, UInt8.toNat_toUInt16, UInt16.toNat_toUInt8, UInt16.toNat_toUInt8,
    UInt16.toNat_shiftRight]
  show ((word.toNat >>> 8) % 2 ^ 8) <<< 8 % 2 ^ 16 ||| word.toNat % 2 ^ 8 = word.toNat
  rw [Nat.shiftRight_eq_div_pow, Nat.shiftLeft_eq, Nat.mod_eq_of_lt (by omega),
    Nat.mod_eq_of_lt (by omega), ← Nat.shiftLeft_eq, ← Nat.shiftLeft_add_eq_or_of_lt (by omega),
    Nat.shiftLeft_eq]
  omega

def i16FromBe (hi lo : UInt8) : Int16 := (u16FromBe hi lo).toInt16

def degreesToMrad (degrees : Int16) : Int16 := clampI16 (Int.tdiv (degrees.toInt * 17453) 1000)

/-- The sixteen-bit field that starts at the given offset. -/
def fieldU16 (bytes : List UInt8) (offset : Nat) : UInt16 :=
  u16FromBe (bytes.getD offset 0) (bytes.getD (offset + 1) 0)

def fieldI16 (bytes : List UInt8) (offset : Nat) : Int16 := (fieldU16 bytes offset).toInt16

def applyGroupZero (bytes : List UInt8) : CreateSensorPacket :=
  let byte (i : Nat) : UInt8 := bytes.getD i 0
  { flags := { applyBumpsWheelDrops {} (byte 0) with
      wall := byte 1 != 0, cliffLeft := byte 2 != 0, cliffFrontLeft := byte 3 != 0
      cliffFrontRight := byte 4 != 0, cliffRight := byte 5 != 0, virtualWall := byte 6 != 0
      overcurrent := byte 7 != 0 }
    irByte := byte 10
    buttons := byte 11
    distanceMm := fieldI16 bytes 12
    angleMrad := degreesToMrad (fieldI16 bytes 14)
    chargingState := byte 16
    voltageMv := fieldU16 bytes 17
    currentMa := fieldI16 bytes 19
    temperatureC := (byte 21).toInt8
    chargeMah := fieldU16 bytes 22
    capacityMah := fieldU16 bytes 24 }

/-- A one-byte packet whose value passes its check. -/
private def byteField (valid : Bool) (packet : CreateSensorPacket) (bytes : List UInt8) :
    Option CreateSensorPacket :=
  if bytes.length = 1 ∧ valid then some packet else none

private def wordField (packet : CreateSensorPacket) (bytes : List UInt8) :
    Option CreateSensorPacket :=
  if bytes.length = 2 then some packet else none

def decodeSensorPacket (packetId : UInt8) (bytes : List UInt8) : Option CreateSensorPacket :=
  let byte := bytes.getD 0 0
  let flag (flags : CreateSensorFlags) := byteField (validBool byte) { flags } bytes
  match packetId.toNat with
  | 0 => if bytes.length = 26 ∧ validGroupZero bytes then some (applyGroupZero bytes) else none
  | 7 => byteField (validBumpsWheelDrops byte) { flags := applyBumpsWheelDrops {} byte } bytes
  | 8 => flag { wall := byte != 0 }
  | 9 => flag { cliffLeft := byte != 0 }
  | 10 => flag { cliffFrontLeft := byte != 0 }
  | 11 => flag { cliffFrontRight := byte != 0 }
  | 12 => flag { cliffRight := byte != 0 }
  | 13 => flag { virtualWall := byte != 0 }
  | 14 => byteField true { flags := { overcurrent := byte != 0 } } bytes
  | 17 => byteField true { irByte := byte } bytes
  | 18 => byteField (validButtons byte) { buttons := byte } bytes
  | 19 => wordField { distanceMm := fieldI16 bytes 0 } bytes
  | 20 => wordField { angleMrad := degreesToMrad (fieldI16 bytes 0) } bytes
  | 21 => byteField (validChargingState byte) { chargingState := byte } bytes
  | 22 => wordField { voltageMv := fieldU16 bytes 0 } bytes
  | 23 => wordField { currentMa := fieldI16 bytes 0 } bytes
  | 24 => byteField true { temperatureC := byte.toInt8 } bytes
  | 25 => wordField { chargeMah := fieldU16 bytes 0 } bytes
  | 26 => wordField { capacityMah := fieldU16 bytes 0 } bytes
  | 28 => wordField { cliffLeftSignal := fieldU16 bytes 0 } bytes
  | 29 => wordField { cliffFrontLeftSignal := fieldU16 bytes 0 } bytes
  | 30 => wordField { cliffFrontRightSignal := fieldU16 bytes 0 } bytes
  | 31 => wordField { cliffRightSignal := fieldU16 bytes 0 } bytes
  | 34 => byteField (validChargingSources byte) { chargingSources := byte } bytes
  | 35 => byteField (decide (byte ≤ 3)) { oiMode := byte } bytes
  | _ => none

theorem decodeSensorPacket_bumpers {packetId : UInt8} {bytes : List UInt8}
    {sensors : CreateSensorPacket} (hcarries : packetId.toNat = 0 ∨ packetId.toNat = 7)
    (hdecoded : decodeSensorPacket packetId bytes = some sensors) :
    sensors.flags.bumpLeft = (bytes.getD 0 0 &&& 0b10 != 0) ∧
      sensors.flags.bumpRight = (bytes.getD 0 0 &&& 0b01 != 0) := by
  rcases hcarries with h | h <;> rw [decodeSensorPacket, h] at hdecoded <;>
    obtain ⟨-, hsensors⟩ := Option.ite_none_right_eq_some.mp hdecoded <;>
    cases hsensors <;> exact ⟨rfl, rfl⟩

end Packets

namespace CreateUart

def discardPendingResponse (uart : CreateUart) : CreateUart :=
  { uart with pendingSensorPacket := none, sensorBytes := [] }

def resetStreamParser (uart : CreateUart) : CreateUart :=
  { uart with streamState := .header, streamSum := 0, sensorBytes := [] }

def restartStreamFrom (uart : CreateUart) (byte : UInt8) : CreateUart :=
  if byte = oiStreamHeader then
    { uart with sensorBytes := [], streamSum := byte, streamState := .length }
  else { uart with sensorBytes := [], streamSum := 0, streamState := .header }

end CreateUart

namespace Device

open CreateUart

/-- `push_packet`: publish a complete frame, or report it invalid once. -/
def pushPacket (dev : Device) : Device :=
  if dev.uart.sensorBytes.isEmpty then dev
  else
    let packetId := dev.uart.pendingSensorPacket.getD 0
    let rawBytes := dev.uart.sensorBytes
    let dev := dev.onUart fun uart => { uart with pendingSensorPacket := none, sensorBytes := [] }
    match decodeSensorPacket packetId rawBytes with
    | some sensors =>
      (dev.onUart fun uart => { uart with invalidPacketReported := false })
        |>.onStatus (fun st => (st.markUartPacket).markCreateSensorPacket packetId sensors)
        |>.pushEvent (.createSensorPacketDecoded packetId sensors)
        |>.observe (.packetReceived packetId)
        |>.pushEvent (.createPacketReceived packetId rawBytes)
    | none =>
      if sensorPacketIsDecoded packetId then
        if dev.uart.invalidPacketReported then dev
        else
          (dev.observe .packetInvalid).pushEvent (.error .invalidPacket)
            |>.onUart fun uart => { uart with invalidPacketReported := true }
      else
        (dev.observe (.packetReceived packetId)).pushEvent
          (.createPacketReceived packetId rawBytes)

/-- `process_stream_byte`. -/
def processStreamByte (byte : UInt8) (dev : Device) : Device :=
  match dev.uart.pendingSensorPacket with
  | none => dev
  | some packetId => match sensorPacketLength packetId with
    | none => dev.onUart discardPendingResponse
    | some expectedLen => match dev.uart.streamState with
      | .header =>
        if byte = oiStreamHeader then
          dev.onUart fun uart => { uart with streamSum := byte, streamState := .length }
        else dev
      | .length =>
        if byte.toNat = expectedLen + 1 then
          dev.onUart fun uart =>
            { uart with streamSum := uart.streamSum + byte, streamState := .packetId }
        else dev.onUart (restartStreamFrom · byte)
      | .packetId =>
        if byte = packetId then
          dev.onUart fun uart =>
            { uart with streamSum := uart.streamSum + byte, sensorBytes := []
                        streamState := .data }
        else dev.onUart (restartStreamFrom · byte)
      | .data =>
        let dev := dev.onUart fun uart => { uart with streamSum := uart.streamSum + byte }
        if sensorBytesCapacity ≤ dev.uart.sensorBytes.length then
          dev.onUart (restartStreamFrom · byte)
        else
          let sensorBytes := dev.uart.sensorBytes ++ [byte]
          dev.onUart fun uart => { uart with
            sensorBytes
            streamState := if sensorBytes.length = expectedLen then .checksum else .data }
      | .checksum =>
        if dev.uart.streamSum + byte = 0 then
          ((sendBytes [oiPauseResumeStream, 0]).exec dev).pushPacket.onUart resetStreamParser
        else dev.onUart (restartStreamFrom · byte)

/-- `poll`: at most `drained` more bytes or overruns; any other receive error ends the poll. -/
def pollRx : Nat → Device → Device
  | 0, dev => dev
  | drained + 1, dev => match dev.hw.rx with
    | [] => dev
    | .byte byte :: rx =>
      let dev := { dev with hw := { dev.hw with rx } }
      pollRx drained
        (if dev.uart.pendingSensorPacket.isSome then dev.processStreamByte byte else dev)
    | .error .overrun :: rx =>
      pollRx drained ({ dev with hw := { dev.hw with rx } }.onUart resetStreamParser)
    | .error _ :: rx => { dev with hw := { dev.hw with rx } }.onUart resetStreamParser

def poll (dev : Device) : Device := dev.pollRx uartDrainLimit

/-- `flush_rx`: drop up to 256 received items and the answer that was awaited. -/
def flushRx (dev : Device) : Device :=
  { dev with hw := { dev.hw with rx := dev.hw.rx.drop 256 } }
    |>.onUart fun uart => uart.discardPendingResponse.resetStreamParser

/-- `request_sensor_packet`: an unknown packet is refused before anything is written. -/
def requestSensorPacket (packetId : UInt8) : Driver Unit := fun dev =>
  if (sensorPacketLength packetId).isNone then (.error .invalidPacket, dev)
  else
    let dev := dev.onUart fun uart =>
      { uart with sensorBytes := [], pendingSensorPacket := some packetId }.resetStreamParser
    match sendBytes [oiStream, 1, packetId] dev with
    | (.ok (), dev) => (.ok (), dev)
    | (.error e, dev) => (.error e, dev.onUart discardPendingResponse)

def startModeStream : Driver Unit := requestSensorPacket 35

def startOi : Driver Unit := do
  .act (pushEvent .createOiStartRequested)
  sendBytes [oiStart]

def setMode (mode : CreateOiMode) : Driver Unit := do
  .act (pushEvent (.createOiModeRequested mode))
  match mode with
  | .passive => pure ()
  | .safe => sendBytes [oiSafe]
  | .full => sendBytes [oiFull]

def refreshFullMode : Driver Unit := sendBytes [oiFull]

def toBeBytes (value : Int16) : List UInt8 :=
  [(value.toUInt16 >>> 8).toUInt8, value.toUInt16.toUInt8]

theorem i16FromBe_toBeBytes (value : Int16) :
    i16FromBe (value.toUInt16 >>> 8).toUInt8 value.toUInt16.toUInt8 = value := by
  rw [i16FromBe, u16FromBe_bytes]
  rfl

/-- The wire frame has the right wheel first. -/
def driveDirectFrame (left right : Int16) : List UInt8 :=
  oiDriveDirect :: (toBeBytes right ++ toBeBytes left)

def driveFrame (velocity radius : Int16) : List UInt8 :=
  oiDrive :: (toBeBytes velocity ++ toBeBytes radius)

def driveDirect (left right : Int16) (durationMs : UInt32) : Driver Unit := do
  .act (pushEvent (.driveRequested left right durationMs))
  sendBytes (driveDirectFrame left right)

def driveArc (velocity radius : Int16) : Driver Unit := do
  .act (pushEvent (.driveRequested velocity radius 0))
  sendBytes (driveFrame velocity radius)

/-- `stop`: a drive at zero velocity; the event follows a confirmed write. -/
def stop : Driver Unit := do
  sendBytes (driveFrame 0 0)
  .act (pushEvent .driveStopped)

def playSong (id : UInt8) : Driver Unit := sendBytes [oiPlaySong, min id 15]

def defineSong (id : UInt8) (tones : SongTones) (toneCount : UInt8) : Driver Unit :=
  let toneCount := min toneCount 16
  if toneCount = 0 then pure ()
  else
    sendBytes ([oiDefineSong, min id 15, toneCount]
      ++ (tones.toList.take toneCount.toNat).flatMap fun tone =>
        [max 31 (min 127 tone.note), max 1 tone.duration64ths])

def seekDock : Driver Unit := sendBytes [oiSeekDock]

def setLights (ledBits color intensity : UInt8) : Driver Unit :=
  sendBytes [oiLeds, ledBits &&& 0x0F, color, intensity]

def createLedPlay : UInt8 := 0b10

def createLedAdvance : UInt8 := 0b1000

def createButtonLedMask : UInt8 := createLedPlay ||| createLedAdvance

def setSupervisionLights (ledBits color intensity : UInt8) : Driver Unit :=
  sendBytes [oiLeds, ledBits &&& createButtonLedMask, color, intensity]

end Device

end Netherwick.Brainstem
