import Mathlib.Data.Nat.Notation
import Netherwick.Lib.Text

/-! # Reign commands

What a remote operator may ask of the robot, the action each command becomes, the wheel intensities
of that action, and the queue in which accepted commands wait. -/

namespace Netherwick.Reign

open Netherwick.Lib

/-- Times are 64-bit numbers. -/
def saturate (value : Nat) : Nat := min value 0xFFFFFFFFFFFFFFFF

/-- `clamp` of integers. -/
def clampMs (value low high : Nat) : Nat := max low (min value high)

theorem clampMs_le {value low high : Nat} (h : low ≤ high) : clampMs value low high ≤ high := by
  simp only [clampMs]
  omega

/-- `f32::clamp`: what is not a number stays so. -/
def clamp (value low high : Float32) : Float32 :=
  if value < low then low else if high < value then high else value

/-- `f32::min` with a bound that is a number. -/
def atMost (value bound : Float32) : Float32 :=
  if value.isNaN then bound else if bound < value then bound else value

theorem bind_ok {ε α β : Type} {first : Except ε α} {next : α → Except ε β} {b : β} :
    (first >>= next) = .ok b ↔ ∃ a, first = .ok a ∧ next a = .ok b := by
  cases first with
  | error e => simp [bind, Except.bind]
  | ok a => simp [bind, Except.bind]

inductive TurnDir where
  | left
  | right
  deriving DecidableEq, Repr

inductive InspectTarget where
  | novelty
  | charger
  | person
  | sound
  deriving DecidableEq, Repr

inductive ApproachTarget where
  | charger
  | person
  | sound
  deriving DecidableEq, Repr

inductive ExploreStyle where
  | wander
  | randomWalk
  | wallFollow
  deriving DecidableEq, Repr

inductive ChirpPattern where
  | confirm
  | warning
  | hello
  | goodbye
  | curious
  | idea
  | goalAcquired
  | searching
  | sawSomething
  | surprise
  | learned
  | personRecognized
  | objectRecognized
  | placeRecognized
  | didntUnderstand
  | docking
  | chargingStarted
  | sleep
  | wake
  deriving DecidableEq, Repr

inductive ReignMode where
  | observeOnly
  | suggest
  | assist
  | direct
  deriving DecidableEq, Repr

inductive ReignSource where
  | webRemote
  | keyboard
  | gamepad
  | script
  | humanSupervisor
  deriving DecidableEq, Repr

inductive ActionPrimitive where
  | stop
  | go (intensity : Float32) (durationMs : Nat)
  | drive (forward turn : Float32) (durationMs : Nat)
  | turn (direction : TurnDir) (intensity : Float32) (durationMs : Nat)
  | inspect (target : InspectTarget)
  | approach (target : ApproachTarget)
  | dock
  | explore (style : ExploreStyle) (durationMs : Nat)
  | speak (text : String)
  | chirp (pattern : ChirpPattern)
  deriving DecidableEq

inductive ReignCommand where
  | stop
  | go (intensity : Float32) (durationMs : Nat)
  | reverse (intensity : Float32) (durationMs : Nat)
  | drive (forward turn : Float32) (durationMs : Nat)
  | turn (direction : TurnDir) (intensity : Float32) (durationMs : Nat)
  | inspect (target : InspectTarget)
  | approach (target : ApproachTarget)
  | dock
  | explore (durationMs : Nat)
  | speak (text : String)
  | chirp (pattern : ChirpPattern)
  | setMode (mode : ReignMode)
  deriving DecidableEq

namespace ReignCommand

def defaultTtlMs : ReignCommand → Nat
  | .stop => 2000
  | .go _ durationMs | .reverse _ durationMs | .drive _ _ durationMs | .turn _ _ durationMs =>
    saturate (durationMs + 500)
  | .dock | .explore _ | .approach _ => 5000
  | .inspect _ => 5000
  | .speak _ => 10000
  | .chirp _ => 2000
  | .setMode _ => 2000

def toAction : ReignCommand → Option ActionPrimitive
  | .stop => some .stop
  | .go intensity durationMs => some (.go intensity durationMs)
  | .reverse intensity durationMs => some (.go (-intensity) durationMs)
  | .drive forward rotation durationMs => some (.drive forward rotation durationMs)
  | .turn direction intensity durationMs => some (.turn direction intensity durationMs)
  | .inspect target => some (.inspect target)
  | .approach target => some (.approach target)
  | .dock => some .dock
  | .explore durationMs => some (.explore .wander durationMs)
  | .speak text => some (.speak text)
  | .chirp pattern => some (.chirp pattern)
  | .setMode _ => none

end ReignCommand

structure MotorCommand where
  forward : Float32
  turn : Float32
  deriving DecidableEq

def MotorCommand.stop : MotorCommand := ⟨0, 0⟩

def actionToMotorCommand : Option ActionPrimitive → MotorCommand
  | none => .stop
  | some .stop => .stop
  | some (.go intensity _) => ⟨intensity, 0⟩
  | some (.drive forward turn _) => ⟨forward, turn⟩
  | some (.turn .left intensity _) => ⟨0, intensity⟩
  | some (.turn .right intensity _) => ⟨0, -intensity⟩
  | some (.inspect .novelty) => ⟨0.05, 0.1⟩
  | some (.inspect .sound) | some (.inspect .person) => ⟨0, 0.3⟩
  | some (.inspect _) => .stop
  | some (.approach _) => ⟨0.2, 0⟩
  | some .dock => ⟨0.15, 0⟩
  | some (.explore .wallFollow _) => ⟨0.15, 0.2⟩
  | some (.explore _ _) => ⟨0.2, 0.1⟩
  | some (.speak _) | some (.chirp _) => .stop

namespace ReignCommand

def motor (command : ReignCommand) : MotorCommand := actionToMotorCommand command.toAction

/-- A drive command whatever its intensity, or one that becomes an action with a moving wheel. -/
def movesRobot : ReignCommand → Bool
  | .go _ _ | .reverse _ _ | .drive _ _ _ | .turn _ _ _ | .explore _ => true
  | command => command.motor != .stop

@[simp] theorem movesRobot_stop : movesRobot .stop = false := by decide +kernel

end ReignCommand

structure ReignInput where
  issuedAtMs : Nat
  expiresAtMs : Nat
  source : ReignSource
  mode : ReignMode
  command : ReignCommand
  priority : Float32
  note : Option String
  deriving DecidableEq

def ReignInput.ttlMs (input : ReignInput) : Nat := input.expiresAtMs - input.issuedAtMs

structure ReignQueue where
  pending : List ReignInput := []
  latest : Option ReignInput := none
  clearSequence : Nat := 0
  deriving DecidableEq

namespace ReignQueue

def push (queue : ReignQueue) (input : ReignInput) : ReignQueue :=
  { queue with latest := some input, pending := queue.pending ++ [input] }

def latestActive (queue : ReignQueue) (nowMs : Nat) : Option ReignInput :=
  queue.pending.reverse.find? fun input => nowMs < input.expiresAtMs

def drainExpired (queue : ReignQueue) (nowMs : Nat) : ReignQueue :=
  let pending := queue.pending.filter fun input => nowMs < input.expiresAtMs
  let kept : ReignQueue := { queue with pending := pending }
  if queue.latest.any fun input => input.expiresAtMs ≤ nowMs then
    { kept with latest := kept.latestActive nowMs }
  else kept

def clear (queue : ReignQueue) : ReignQueue :=
  { pending := [], latest := none, clearSequence := saturate (queue.clearSequence + 1) }

@[simp] theorem pending_push (queue : ReignQueue) (input : ReignInput) :
    (queue.push input).pending = queue.pending ++ [input] := rfl

@[simp] theorem pending_clear (queue : ReignQueue) : queue.clear.pending = [] := rfl

theorem pending_drainExpired (queue : ReignQueue) (nowMs : Nat) :
    (queue.drainExpired nowMs).pending
      = queue.pending.filter fun input => nowMs < input.expiresAtMs := by
  simp only [drainExpired]
  split <;> rfl

theorem push_injective {queue : ReignQueue} {input other : ReignInput}
    (h : queue.push input = queue.push other) : input = other := by
  have hlatest := congrArg ReignQueue.latest h
  simpa [push] using hlatest

theorem ne_push (queue : ReignQueue) (input : ReignInput) : queue ≠ queue.push input := by
  intro h
  have hlength := congrArg (fun queue => queue.pending.length) h
  simp at hlength

theorem clear_ne_push (queue : ReignQueue) (input : ReignInput) :
    queue.clear ≠ queue.push input := by
  intro h
  have hlength := congrArg (fun queue => queue.pending.length) h
  simp at hlength

theorem drainExpired_ne_push (queue : ReignQueue) (nowMs : Nat) (input : ReignInput) :
    queue.drainExpired nowMs ≠ queue.push input := by
  intro h
  have hlength := congrArg (fun queue => queue.pending.length) h
  have hfilter := List.length_filter_le (fun input => decide (nowMs < input.expiresAtMs))
    queue.pending
  simp only [pending_drainExpired, pending_push, List.length_append, List.length_singleton]
    at hlength
  omega

end ReignQueue

end Netherwick.Reign
