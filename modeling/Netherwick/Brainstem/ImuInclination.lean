import Mathlib.Analysis.InnerProductSpace.PiL2
import Mathlib.Analysis.Real.Pi.Bounds
import Mathlib.Geometry.Euclidean.Angle.Unoriented.Basic
import Netherwick.Brainstem.ImuTilt
import Netherwick.Brainstem.Runtime.Safety

/-! # Inclination and the tilt latch

The inclination is the angle between the calibrated vertical and the sample. The driver compares
a ratio instead, of the part across the vertical to the part along it, and the poll reads it as a
signed word. -/

namespace Netherwick.Brainstem

open Netherwick.Lib

section Inclination

variable (calibration : ImuGravityCalibration) (sample other : ImuSample)

/-- The part across the vertical is at least 0.65 of the part along it, and less than 32.768 of
it. -/
def Seen : Prop :=
  650 * along calibration.reference (gravityVector sample) ≤
      1000 * across calibration.reference (gravityVector sample) ∧
    1000 * across calibration.reference (gravityVector sample) <
      32768 * along calibration.reference (gravityVector sample)

/-- A level runtime polls while the sample is the last one, and polls again after the hold time. -/
structure Held (w later : World) : Prop where
  published : ∃ st : Status, st.imu.gravity = some calibration ∧
    w.st.imu = (st.markImuSample sample).imu
  level : w.rt.tiltObservedSinceMs = none
  kept : later.st.imu = w.st.imu
  tracked : later.rt.tiltObservedSinceMs = w.observeTilt.2.rt.tiltObservedSinceMs
  elapsed : timeReached later.nowMs (w.nowMs + imuTiltLatchHoldMs) = true

variable {calibration sample other}

end Inclination

end Netherwick.Brainstem
