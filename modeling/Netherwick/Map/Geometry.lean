import Mathlib.Data.Rat.Floor
import Mathlib.Data.Prod.Lex

/-! # Plane geometry

Poses, beams and the cells of the grid, as in `helpers.rs` and `observations.rs`. Coordinates are
exact rationals; what turns, measures or prints them is left open. -/

namespace Netherwick.Map

/-- Functions of real numbers that rationals are not closed under, and the text `{:.3}`. -/
structure Elementary where
  sin : ℚ → ℚ
  cos : ℚ → ℚ
  sqrt : ℚ → ℚ
  hypot : ℚ → ℚ → ℚ
  fixed3 : ℚ → String

/-- `f32::consts::PI`; `TAU` is twice that. -/
def pi32 : ℚ := 13176795 / 4194304

def tau32 : ℚ := 2 * pi32

def toRadians (degrees : ℚ) : ℚ := degrees * (pi32 / 180)

/-- `f32::EPSILON`. -/
def epsilon32 : ℚ := 1 / 2 ^ 23

def clamp (low high value : ℚ) : ℚ := max low (min high value)

/-- `as i32`, which saturates. -/
def toI32 (value : ℤ) : ℤ := max (-2 ^ 31) (min (2 ^ 31 - 1) value)

structure Pose2 where
  xM : ℚ := 0
  yM : ℚ := 0
  headingRad : ℚ := 0
  deriving DecidableEq

structure RangeBeam where
  angleRad : ℚ
  distanceM : ℚ
  hit : Bool
  confidence : ℚ
  deriving DecidableEq

/-- The loop that lowers an angle, as often as it may have to. -/
def lowerAngle : Nat → ℚ → ℚ
  | 0, angle => angle
  | turns + 1, angle => if pi32 < angle then lowerAngle turns (angle - tau32) else angle

/-- The loop that raises an angle, as often as it may have to. -/
def raiseAngle : Nat → ℚ → ℚ
  | 0, angle => angle
  | turns + 1, angle => if angle < -pi32 then raiseAngle turns (angle + tau32) else angle

/-- No angle is a whole turn away more often. -/
def turnsIn (angle : ℚ) : Nat := ⌈|angle| / tau32⌉₊

def normalizeAngle (angle : ℚ) : ℚ :=
  let lowered := lowerAngle (turnsIn angle) angle
  raiseAngle (turnsIn lowered) lowered

theorem tau32_pos : 0 < tau32 := by decide +kernel

theorem le_turnsIn (angle : ℚ) : |angle| ≤ turnsIn angle * tau32 := by
  have h := Nat.le_ceil (|angle| / tau32)
  rwa [div_le_iff₀ tau32_pos] at h

theorem lowerAngle_le {turns : Nat} {angle : ℚ} (h : angle ≤ turns * tau32) :
    lowerAngle turns angle ≤ pi32 := by
  induction turns generalizing angle with
  | zero =>
    have hpi : (0 : ℚ) ≤ pi32 := by decide +kernel
    simp only [Nat.cast_zero, zero_mul] at h
    exact h.trans hpi
  | succ turns ih =>
    rw [lowerAngle]
    split
    · apply ih
      push_cast at h
      linarith
    · linarith

theorem le_raiseAngle {turns : Nat} {angle : ℚ} (h : -angle ≤ turns * tau32) :
    -pi32 ≤ raiseAngle turns angle := by
  induction turns generalizing angle with
  | zero =>
    have hpi : (0 : ℚ) ≤ pi32 := by decide +kernel
    simp only [Nat.cast_zero, zero_mul] at h
    rw [raiseAngle]
    linarith
  | succ turns ih =>
    rw [raiseAngle]
    split
    · apply ih
      push_cast at h
      linarith
    · linarith

theorem raiseAngle_le {turns : Nat} {angle : ℚ} (h : angle ≤ pi32) :
    raiseAngle turns angle ≤ pi32 := by
  induction turns generalizing angle with
  | zero => exact h
  | succ turns ih =>
    rw [raiseAngle]
    split
    · apply ih
      have htau : tau32 = 2 * pi32 := rfl
      linarith
    · exact h

theorem normalizeAngle_mem (angle : ℚ) :
    -pi32 ≤ normalizeAngle angle ∧ normalizeAngle angle ≤ pi32 :=
  ⟨le_raiseAngle ((neg_le_abs _).trans (le_turnsIn _)),
    raiseAngle_le (lowerAngle_le ((le_abs_self _).trans (le_turnsIn _)))⟩

section Poses

variable (e : Elementary)

def poseDelta (start finish : Pose2) : Pose2 :=
  let worldX := finish.xM - start.xM
  let worldY := finish.yM - start.yM
  { xM := e.cos start.headingRad * worldX + e.sin start.headingRad * worldY
    yM := -e.sin start.headingRad * worldX + e.cos start.headingRad * worldY
    headingRad := normalizeAngle (finish.headingRad - start.headingRad) }

def applyPoseDelta (start delta : Pose2) : Pose2 where
  xM := start.xM + e.cos start.headingRad * delta.xM - e.sin start.headingRad * delta.yM
  yM := start.yM + e.sin start.headingRad * delta.xM + e.cos start.headingRad * delta.yM
  headingRad := normalizeAngle (start.headingRad + delta.headingRad)

def distanceM (left right : Pose2) : ℚ :=
  e.sqrt ((right.xM - left.xM) ^ 2 + (right.yM - left.yM) ^ 2)

def headingDeltaRad (left right : ℚ) : ℚ := |normalizeAngle (right - left)|

/-- A cell of the grid: its columns before its rows. -/
abbrev CellKey : Type := ℤ ×ₗ ℤ

def cellKey (xM yM resolutionM : ℚ) : CellKey :=
  toLex (toI32 ⌊xM / resolutionM⌋, toI32 ⌊yM / resolutionM⌋)

def projectBeamEndpoint (pose : Pose2) (beamAngleRad distanceM : ℚ) : Pose2 :=
  let heading := pose.headingRad + beamAngleRad
  { xM := pose.xM + e.cos heading * distanceM
    yM := pose.yM + e.sin heading * distanceM
    headingRad := heading }

def dropRepeats : Option CellKey → List CellKey → List CellKey
  | _, [] => []
  | last, key :: rest =>
    if last = some key then dropRepeats last rest else key :: dropRepeats (some key) rest

def traceCells (pose : Pose2) (beamAngleRad distanceM resolutionM : ℚ) : List CellKey :=
  if distanceM ≤ 0 then [] else
    let steps := (max 1 ⌈distanceM / (resolutionM * 0.5)⌉).toNat
    let heading := pose.headingRad + beamAngleRad
    dropRepeats none ((List.range steps).map fun step =>
      let d := ((step + 1 : Nat) : ℚ) / steps * distanceM
      cellKey (pose.xM + e.cos heading * d) (pose.yM + e.sin heading * d) resolutionM)

end Poses

end Netherwick.Map
