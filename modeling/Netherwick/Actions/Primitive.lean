import Mathlib.Data.Rat.Floor
import Netherwick.Reign.Command

/-! # Actions

What the policies of the robot propose, the wheel command each action becomes, and what they read of
the fan of range beams. Intensities and distances are exact rationals. -/

namespace Netherwick.Actions

open Reign (TurnDir InspectTarget ApproachTarget ExploreStyle ChirpPattern ReignMode)

inductive ActionPrimitive where
  | stop
  | go (intensity : ℚ) (durationMs : Nat)
  | drive (forward turn : ℚ) (durationMs : Nat)
  | turn (direction : TurnDir) (intensity : ℚ) (durationMs : Nat)
  | inspect (target : InspectTarget)
  | approach (target : ApproachTarget)
  | dock
  | explore (style : ExploreStyle) (durationMs : Nat)
  | speak (text : String)
  | chirp (pattern : ChirpPattern)
  deriving DecidableEq

inductive ReignCommand where
  | stop
  | go (intensity : ℚ) (durationMs : Nat)
  | reverse (intensity : ℚ) (durationMs : Nat)
  | drive (forward turn : ℚ) (durationMs : Nat)
  | turn (direction : TurnDir) (intensity : ℚ) (durationMs : Nat)
  | inspect (target : InspectTarget)
  | approach (target : ApproachTarget)
  | dock
  | explore (durationMs : Nat)
  | speak (text : String)
  | chirp (pattern : ChirpPattern)
  | setMode (mode : ReignMode)

def ReignCommand.toAction : ReignCommand → Option ActionPrimitive
  | .stop => some .stop
  | .go intensity durationMs => some (.go intensity durationMs)
  | .reverse intensity durationMs => some (.go (-intensity) durationMs)
  | .drive forward rotation durationMs => some (.drive forward rotation durationMs)
  | .turn direction intensity durationMs => some (.turn direction intensity durationMs)
  | .inspect target => some (.inspect target)
  | .approach target => some (.approach target)
  | .dock => some .dock
  | .explore durationMs => some (.explore .wander durationMs)
  | .speak text => some (.speak text)
  | .chirp pattern => some (.chirp pattern)
  | .setMode _ => none

structure MotorCommand where
  forward : ℚ
  turn : ℚ
  deriving DecidableEq

def MotorCommand.stop : MotorCommand := ⟨0, 0⟩

def actionToMotorCommand : ActionPrimitive → MotorCommand
  | .stop => .stop
  | .go intensity _ => ⟨intensity, 0⟩
  | .drive forward rotation _ => ⟨forward, rotation⟩
  | .turn .left intensity _ => ⟨0, intensity⟩
  | .turn .right intensity _ => ⟨0, -intensity⟩
  | .inspect .novelty => ⟨0.05, 0.1⟩
  | .inspect .sound | .inspect .person => ⟨0, 0.3⟩
  | .inspect .charger => .stop
  | .approach _ => ⟨0.2, 0⟩
  | .dock => ⟨0.15, 0⟩
  | .explore .wallFollow _ => ⟨0.15, 0.2⟩
  | .explore _ _ => ⟨0.2, 0.1⟩
  | .speak _ | .chirp _ => .stop

/-- The left third of the beams, and the right one: one beam at least, when there is one. -/
def third (beams : List ℚ) : Nat := max (beams.length / 3) 1

def leftBeams (beams : List ℚ) : List ℚ := beams.take (third beams)

def rightBeams (beams : List ℚ) : List ℚ := beams.drop (beams.length - third beams)

/-- From the last beam of the left third to the first of the right one. -/
def centerBeams (beams : List ℚ) : List ℚ :=
  let start := min (min (third beams) beams.length - 1) beams.length
  let stop := max (min (beams.length - third beams + 1) beams.length) (start + 1)
  (beams.take stop).drop start

/-- No clearance counts for more than a metre. -/
def clearance (beams : List ℚ) : ℚ := beams.foldl min 1

/-- The nearest whole number, and of two as near the even one. -/
def roundHalfEven (value : ℚ) : Nat :=
  let down := value.num.natAbs / value.den
  let rest := value - down
  if rest < 1 / 2 then down
  else if 1 / 2 < rest then down + 1
  else if down % 2 = 0 then down else down + 1

def minus (value : ℚ) : String := if value < 0 then "-" else ""

/-- `{:.0}` of a number. -/
def fixed0 (value : ℚ) : String := minus value ++ toString (roundHalfEven |value|)

/-- `{:.2}` of a number. -/
def fixed2 (value : ℚ) : String :=
  let hundredths := roundHalfEven (|value| * 100)
  minus value ++ toString (hundredths / 100) ++ "." ++
    (if hundredths % 100 < 10 then "0" else "") ++ toString (hundredths % 100)

/-- `{:.4}` of a number. -/
def fixed4 (value : ℚ) : String :=
  let parts := roundHalfEven (|value| * 10000)
  minus value ++ toString (parts / 10000) ++ "." ++
    (if parts % 10000 < 1000 then "0" else "") ++ (if parts % 10000 < 100 then "0" else "") ++
      (if parts % 10000 < 10 then "0" else "") ++ toString (parts % 10000)

example : fixed4 0.05 = "0.0500" := by decide +kernel

example : fixed2 0.35 = "0.35" := by decide +kernel

end Netherwick.Actions
