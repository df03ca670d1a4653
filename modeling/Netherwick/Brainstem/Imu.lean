import Mathlib.Algebra.Group.Nat.Defs
import Netherwick.Brainstem.Commands

/-! # Inertial sample derivation

Samples are triples of 16-bit readings; intermediate products saturate at 32 or 64 bits as the
driver's do. -/

namespace Netherwick.Brainstem

structure ImuSample where
  timestampMs : UInt32 := 0
  gyroXMradS : Int16 := 0
  gyroYMradS : Int16 := 0
  gyroZMradS : Int16 := 0
  accelXMmS2 : Int16 := 0
  accelYMmS2 : Int16 := 0
  accelZMmS2 : Int16 := 0
  deriving DecidableEq, Repr

inductive ImuHealth
  | unknown | ok | fault | absent
  deriving DecidableEq, Repr

structure ImuDerivedState where
  yawMrad : Int
  pitchMrad : Int16
  rollMrad : Int16
  yawRateMradS : Int16
  accelMagnitudeMmS2 : UInt16
  tiltMagnitudeMrad : UInt16
  roughnessMmS2 : UInt16
  impactScoreMmS2 : UInt16
  deriving DecidableEq, Repr

structure ImuVector where
  xMmS2 : Int16
  yMmS2 : Int16
  zMmS2 : Int16
  deriving DecidableEq, Repr

structure ImuGravityCalibration where
  reference : ImuVector
  referenceMagnitudeMmS2 : UInt16
  deriving DecidableEq, Repr

/-- Saturation at the 32-bit signed range. -/
def satI32 (value : Int) : Int := max (-2147483648) (min 2147483647 value)

/-- Saturation at the 64-bit signed range. -/
def satI64 (value : Int) : Int := max (-9223372036854775808) (min 9223372036854775807 value)

/-- `abs_i32`: the least value maps to the greatest. -/
def absI32 (value : Int) : Int := if value = -2147483648 then 2147483647 else value.natAbs

/-- The first loop of the integer square root: drop the probe bit below the value. -/
def intSqrtStart : Nat → Nat → Nat → Nat
  | 0, bit, _ => bit
  | fuel + 1, bit, value => if bit > value then intSqrtStart fuel (bit / 4) value else bit

/-- The second loop: one binary digit of the root for each probe bit. -/
def intSqrtLoop : Nat → Nat → Nat → Nat → Nat
  | 0, _, result, _ => result
  | fuel + 1, n, result, bit =>
    if bit = 0 then result
    else if n ≥ result + bit then
      intSqrtLoop fuel (n - (result + bit)) (result / 2 + bit) (bit / 4)
    else intSqrtLoop fuel n (result / 2) (bit / 4)

def intSqrt (value : Nat) : Nat := intSqrtLoop 16 value 0 (intSqrtStart 16 (2 ^ 30) value)

def intSqrtU64 (value : Nat) : Nat := intSqrtLoop 32 value 0 (intSqrtStart 32 (2 ^ 62) value)

def vectorMagnitude (x y z : Int) : UInt16 :=
  let squareSum := satI32 (satI32 (satI32 (x * x) + satI32 (y * y)) + satI32 (z * z))
  UInt16.ofNat (min (intSqrt squareSum.toNat) 65535)

def vectorMagnitudeI64 (x y z : Int) : Nat :=
  let squareSum := satI64 (satI64 (satI64 (x * x) + satI64 (y * y)) + satI64 (z * z))
  intSqrtU64 squareSum.toNat

def tiltAxisMrad (axis vertical : Int) : Int16 :=
  if vertical = 0 then
    if axis = 0 then 0 else if axis > 0 then 32767 else -32768
  else clampI16 (Int.tdiv (satI32 (axis * 1000)) (max (absI32 vertical) 1))

def gravityVector (sample : ImuSample) : ImuVector :=
  ⟨sample.accelXMmS2, sample.accelYMmS2, sample.accelZMmS2⟩

def ImuGravityCalibration.fromStationarySample (sample : ImuSample) :
    Option ImuGravityCalibration :=
  let reference := gravityVector sample
  let magnitude := vectorMagnitude reference.xMmS2.toInt reference.yMmS2.toInt
    reference.zMmS2.toInt
  if magnitude < 1000 then none else some ⟨reference, magnitude⟩

/-- Pitch, roll and tilt magnitude against a stored gravity reference. -/
def calibratedTilt (sample : ImuSample) (calibration : ImuGravityCalibration) :
    Int16 × Int16 × UInt16 :=
  let current := gravityVector sample
  let rx := calibration.reference.xMmS2.toInt
  let ry := calibration.reference.yMmS2.toInt
  let rz := calibration.reference.zMmS2.toInt
  let cx := current.xMmS2.toInt
  let cy := current.yMmS2.toInt
  let cz := current.zMmS2.toInt
  let crossX := satI32 (satI32 (ry * cz) - satI32 (rz * cy))
  let crossY := satI32 (satI32 (rz * cx) - satI32 (rx * cz))
  let crossZ := satI32 (satI32 (rx * cy) - satI32 (ry * cx))
  let dot := satI32 (satI32 (satI32 (rx * cx) + satI32 (ry * cy)) + satI32 (rz * cz))
  let denominator := max (absI32 dot) 1
  let pitch := clampI16 (Int.tdiv (satI32 (crossY * 1000)) denominator)
  let roll := clampI16 (Int.tdiv (satI32 (crossX * 1000)) denominator)
  let crossMagnitude := vectorMagnitudeI64 crossX crossY crossZ
  let tilt := min (min (crossMagnitude * 1000) (2 ^ 64 - 1) / denominator.toNat) 65535
  (pitch, roll, UInt16.ofNat tilt)

def deriveSampleInner (previousYawMrad : Int) (previousTimestampMs : UInt32)
    (previousAccelMagnitudeMmS2 : UInt16) (sample : ImuSample)
    (calibration : Option ImuGravityCalibration) : ImuDerivedState :=
  let elapsedMs : UInt32 :=
    if previousTimestampMs = 0 then 0 else sample.timestampMs - previousTimestampMs
  let yawDelta := Int.tdiv (satI32 (sample.gyroZMradS.toInt * elapsedMs.toInt32.toInt)) 1000
  let accelMagnitude := vectorMagnitude sample.accelXMmS2.toInt sample.accelYMmS2.toInt
    sample.accelZMmS2.toInt
  let (pitch, roll, tiltMagnitude) := match calibration with
    | some calibration => calibratedTilt sample calibration
    | none =>
      let pitch := tiltAxisMrad sample.accelXMmS2.toInt sample.accelZMmS2.toInt
      let roll := tiltAxisMrad sample.accelYMmS2.toInt sample.accelZMmS2.toInt
      (pitch, roll,
        UInt16.ofNat (min (max (absI32 pitch.toInt) (absI32 roll.toInt)) 65535).toNat)
  let roughness : Int :=
    if previousAccelMagnitudeMmS2 = 0 then 0
    else min (absI32 ((accelMagnitude.toNat : Int) - previousAccelMagnitudeMmS2.toNat)) 65535
  { yawMrad := satI32 (previousYawMrad + yawDelta)
    pitchMrad := pitch
    rollMrad := roll
    yawRateMradS := sample.gyroZMradS
    accelMagnitudeMmS2 := accelMagnitude
    tiltMagnitudeMrad := tiltMagnitude
    roughnessMmS2 := UInt16.ofNat roughness.toNat
    impactScoreMmS2 := UInt16.ofNat roughness.toNat }

end Netherwick.Brainstem
