import Netherwick.Brainstem.CreateUart
import Netherwick.Lib.History

/-! # Readings of a trace

What an observer can tell from the trace alone. The newest entry comes first. -/

namespace Netherwick.Brainstem

open Netherwick.Lib

def moves : List UInt8 → Bool
  | opcode :: payload =>
    if opcode = oiDrive then (payload.take 2).any (· != 0)
    else if opcode = oiDriveDirect then payload.any (· != 0)
    else opcode = oiSeekDock
  | [] => false

/-- The frame that stops the wheels. -/
def stopFrame : List UInt8 := Device.driveFrame 0 0

@[simp] theorem moves_stopFrame : moves stopFrame = false := by decide

namespace Obs

/-- Entries that concern neither the lifecycle of a command nor a hazard nor motion. -/
def plain : Obs → Bool
  | event _ kind _ _ _ => !(kind.terminal || kind.hazard)
  | sent frame _ => !moves frame
  | _ => false

/-- Does the entry end the life of this command? -/
def ends (id : UInt32) : Obs → Bool
  | event _ kind a _ _ => kind.terminal && a = id
  | _ => false

theorem of_plain {S : Obs → Prop} {o : Obs} (h : o.plain = true)
    (hevent : ∀ seq kind a b c, (kind.terminal || kind.hazard) = false → S (event seq kind a b c))
    (hsent : ∀ frame written, moves frame = false → S (sent frame written)) : S o := by
  cases o with
  | event seq kind a b c => exact hevent seq kind a b c (by simpa [plain] using h)
  | sent frame written => exact hsent frame written (by simpa [plain] using h)
  | _ => cases h

end Obs

section Gates

/-- `EStop` was executed and `ClearEStop` has not been since. -/
def estopHeld : List Obs → Bool
  | .eStopRan _ :: _ => true
  | .clearEStopRan :: _ => false
  | _ :: past => estopHeld past
  | [] => false

def heldLatch : List Obs → Option SafetyEventKind
  | .latch kind :: _ => kind
  | _ :: past => heldLatch past
  | [] => none

/-- The last recorded trip: its sequence number and the code of its hazard. -/
def lastTrip : List Obs → Option (UInt32 × UInt32)
  | .event seq .safetyTripped code _ _ :: _ => some (seq, code)
  | _ :: past => lastTrip past
  | [] => none

def raisedBy : List Obs → Option (UInt32 × UInt32)
  | .latch kind :: past => if kind.isSome then lastTrip past else none
  | _ :: past => raisedBy past
  | [] => none

/-- The latches that only a person or careful mode may lift. -/
def hardLatch : Option SafetyEventKind → Bool
  | some .wheelDrop | some .tilt | some .impact => true
  | _ => false

def commandLifts (command : RuntimeCommand) (kind : SafetyEventKind) : Bool :=
  match command with
  | .clearSafetyLatch named => safetyLatchKindToEvent named = kind
  | .zeroImuOrientation | .orientationProbe .. => kind = .tilt
  | _ => false

def liftAllowed (kind : SafetyEventKind) : LiftCause → Bool
  | .cleared command present => command.any (commandLifts · kind) && !present
  | .careful (some command) _ => (command matches .carefulMode ..)
  | .careful none active => active
  | .homeBase => kind = .bump || kind = .cliff

/-- Nothing may move the robot. -/
def motionBarred (log : List Obs) : Bool := estopHeld log || hardLatch (heldLatch log)

/-- A motion frame about to be written is the first consequence of a `Dock` or of a dock
departure. -/
def dockLicence : List Obs → Bool
  | .ran .dock :: _ => true
  | .event _ _ _ _ _ :: .dockDepartureRan :: _ => true
  | _ => false

end Gates

section Wake

/-- The entries since the last `WakeCreate` was executed. -/
def sinceWake : List Obs → List Obs
  | .ran .wakeCreate :: _ => []
  | o :: past => o :: sinceWake past
  | [] => []

/-- The entries since the probe of the last wake was first requested, if it was. -/
def sinceProbe : List Obs → Option (List Obs)
  | .ran .wakeCreate :: _ => none
  | o :: past => match sinceProbe past with
      | some recent => some (o :: recent)
      | none => if o = .probeRequested then some [] else none
  | [] => none

def isPacket : Obs → Bool
  | .packetReceived _ => true
  | _ => false

end Wake

end Netherwick.Brainstem
