import Netherwick.Brainstem.ImuRoots

/-! # Tilt against a stored calibration

The driver multiplies in 32 bits. The products and their differences fit; the sum of the three
products of the dot product is cut off at the range after each addition, and so is the numerator of
the pitch and of the roll. -/

namespace Netherwick.Brainstem

section Vectors

variable (reference current : ImuVector)

def dotProduct : Int :=
  reference.xMmS2.toInt * current.xMmS2.toInt + reference.yMmS2.toInt * current.yMmS2.toInt
    + reference.zMmS2.toInt * current.zMmS2.toInt

def crossX : Int :=
  reference.yMmS2.toInt * current.zMmS2.toInt - reference.zMmS2.toInt * current.yMmS2.toInt

def crossY : Int :=
  reference.zMmS2.toInt * current.xMmS2.toInt - reference.xMmS2.toInt * current.zMmS2.toInt

def crossZ : Int :=
  reference.xMmS2.toInt * current.yMmS2.toInt - reference.yMmS2.toInt * current.xMmS2.toInt

/-- The dot product as it adds up in 32 bits. -/
def dot32 : Int :=
  satI32 (satI32 (reference.xMmS2.toInt * current.xMmS2.toInt
    + reference.yMmS2.toInt * current.yMmS2.toInt) + reference.zMmS2.toInt * current.zMmS2.toInt)

/-- The part of the sample along the calibrated vertical, as the driver divides by it. -/
def along : Nat := (max (absI32 (dot32 reference current)) 1).toNat

/-- The part of the sample across the vertical, in whole units. -/
def across : Nat :=
  Nat.sqrt (min (crossX reference current * crossX reference current
    + crossY reference current * crossY reference current
    + crossZ reference current * crossZ reference current).toNat 9223372036854775807)

end Vectors

variable {reference current : ImuVector}

theorem mul_bounds (a b : Int16) :
    -1073709056 ≤ a.toInt * b.toInt ∧ a.toInt * b.toInt ≤ 1073741824 := by
  have ha := a.le_toInt
  have ha' := a.toInt_lt
  have hb := b.le_toInt
  have hb' := b.toInt_lt
  constructor <;> nlinarith

theorem satI32_mul (a b : Int16) : satI32 (a.toInt * b.toInt) = a.toInt * b.toInt := by
  have h := mul_bounds a b
  simp only [satI32]
  omega

theorem satI32_sub_mul (a b c d : Int16) :
    satI32 (a.toInt * b.toInt - c.toInt * d.toInt) = a.toInt * b.toInt - c.toInt * d.toInt := by
  have h := mul_bounds a b
  have h' := mul_bounds c d
  simp only [satI32]
  omega

theorem square_sub_mul (a b c d : Int16) :
    0 ≤ (a.toInt * b.toInt - c.toInt * d.toInt) * (a.toInt * b.toInt - c.toInt * d.toInt) ∧
      (a.toInt * b.toInt - c.toInt * d.toInt) * (a.toInt * b.toInt - c.toInt * d.toInt)
        ≤ 4611686018427387904 := by
  have h := mul_bounds a b
  have h' := mul_bounds c d
  constructor
  · exact mul_self_nonneg _
  · nlinarith

theorem vectorMagnitudeI64_cross : vectorMagnitudeI64 (crossX reference current)
    (crossY reference current) (crossZ reference current) = across reference current := by
  have hx := square_sub_mul reference.yMmS2 current.zMmS2 reference.zMmS2 current.yMmS2
  have hy := square_sub_mul reference.zMmS2 current.xMmS2 reference.xMmS2 current.zMmS2
  have hz := square_sub_mul reference.xMmS2 current.yMmS2 reference.yMmS2 current.xMmS2
  rw [vectorMagnitudeI64, across, ← crossX, ← crossY, ← crossZ] at *
  have hsum : (satI64 (satI64 (satI64 (crossX reference current * crossX reference current)
      + satI64 (crossY reference current * crossY reference current))
      + satI64 (crossZ reference current * crossZ reference current))).toNat =
      min (crossX reference current * crossX reference current
        + crossY reference current * crossY reference current
        + crossZ reference current * crossZ reference current).toNat 9223372036854775807 := by
    simp only [satI64]
    omega
  rw [hsum]
  exact intSqrtU64_eq (by omega)

variable {sample : ImuSample} {calibration : ImuGravityCalibration}

theorem calibratedTilt_eq : calibratedTilt sample calibration =
    (clampI16 (Int.tdiv (satI32 (crossY calibration.reference (gravityVector sample) * 1000))
        (along calibration.reference (gravityVector sample))),
      clampI16 (Int.tdiv (satI32 (crossX calibration.reference (gravityVector sample) * 1000))
        (along calibration.reference (gravityVector sample))),
      UInt16.ofNat (min (across calibration.reference (gravityVector sample) * 1000
        / along calibration.reference (gravityVector sample)) 65535)) := by
  have hacross : across calibration.reference (gravityVector sample) * 1000 ≤ 2 ^ 64 - 1 := by
    have hroot : across calibration.reference (gravityVector sample) < 3037000500 := by
      rw [across, Nat.sqrt_lt]
      omega
    omega
  have halong : ((along calibration.reference (gravityVector sample) : Nat) : Int) =
      max (absI32 (dot32 calibration.reference (gravityVector sample))) 1 := by
    rw [along]
    omega
  simp only [calibratedTilt, satI32_mul, satI32_sub_mul]
  rw [← crossX, ← crossY, ← crossZ, ← dot32, vectorMagnitudeI64_cross, Nat.min_eq_left hacross,
    ← halong, Int.toNat_natCast]

def exactRatio (product : Int) (length : Nat) : Int16 := clampI16 (Int.tdiv product length)

/-- The length of the part along the vertical, with one for none. -/
def exactAlong (reference current : ImuVector) : Nat := max (dotProduct reference current).natAbs 1

def rangeEnd (product : Int) : Nat := if product < 0 then 2147483648 else 2147483647

def resultEnd (product : Int) : Nat := if product < 0 then 32768 else 32767

/-- The product is in range, or the result is clamped all the same, or no multiple of the length
lies between. Where the length is cut off too, the quotient is as it would be. -/
def Unaltered (product : Int) (exact along : Nat) : Prop :=
  if along = exact then
    product.natAbs ≤ rangeEnd product ∨ resultEnd product * along ≤ rangeEnd product ∨
      product.natAbs / along = rangeEnd product / along
  else min product.natAbs (rangeEnd product) / along = product.natAbs / exact

theorem toInt_exactRatio (product : Int) (length : Nat) : (exactRatio product length).toInt =
    if product < 0 then -((min 32768 (product.natAbs / length) : Nat) : Int)
    else ((min 32767 (product.natAbs / length) : Nat) : Int) := by
  rw [exactRatio, clampI16_toInt]
  by_cases hneg : product < 0
  · obtain ⟨n, rfl⟩ : ∃ n : Nat, product = -n := ⟨product.natAbs, by omega⟩
    rw [if_pos hneg, Int.neg_tdiv, Int.natAbs_neg, Int.natAbs_natCast, ← Int.ofNat_tdiv]
    generalize n / length = quotient
    omega
  · obtain ⟨n, rfl⟩ : ∃ n : Nat, product = n := ⟨product.natAbs, by omega⟩
    rw [if_neg hneg, Int.natAbs_natCast, ← Int.ofNat_tdiv]
    generalize n / length = quotient
    omega

theorem satI32_neg_iff (product : Int) : satI32 product < 0 ↔ product < 0 := by
  simp only [satI32]
  omega

theorem natAbs_satI32 (product : Int) :
    (satI32 product).natAbs = min product.natAbs (rangeEnd product) := by
  simp only [satI32, rangeEnd]
  split <;> omega

/-- A saturated product gives the exact result exactly if nothing is altered. -/
theorem saturated_ratio_iff {product : Int} {exact along : Nat} (hexact : 0 < exact)
    (halong : 0 < along) (hcut : along ≠ exact → 1073741823 ≤ along ∧ 1073741823 ≤ exact)
    (hproduct : product.natAbs ≤ 2147483648000) :
    exactRatio (satI32 product) along = exactRatio product exact ↔
      Unaltered product exact along := by
  rw [← Int16.toInt_inj, toInt_exactRatio, toInt_exactRatio, natAbs_satI32]
  simp only [satI32_neg_iff]
  have hmin : (if product < 0 then
        -((min 32768 (min product.natAbs (rangeEnd product) / along) : Nat) : Int)
      else ((min 32767 (min product.natAbs (rangeEnd product) / along) : Nat) : Int)) =
      (if product < 0 then -((min 32768 (product.natAbs / exact) : Nat) : Int)
      else ((min 32767 (product.natAbs / exact) : Nat) : Int)) ↔
      min (resultEnd product) (min product.natAbs (rangeEnd product) / along) =
        min (resultEnd product) (product.natAbs / exact) := by
    rw [resultEnd]
    split <;> omega
  rw [hmin, Unaltered]
  have hresult : 32767 ≤ resultEnd product := by
    rw [resultEnd]
    split <;> omega
  by_cases hsame : along = exact
  · subst hsame
    rw [if_pos rfl]
    rcases Nat.le_total product.natAbs (rangeEnd product) with hfits | hlarge
    · rw [Nat.min_eq_left hfits]
      exact iff_of_true rfl (.inl hfits)
    · have hless := Nat.div_le_div_right (c := along) hlarge
      rw [Nat.min_eq_right hlarge, ← Nat.le_div_iff_mul_le halong]
      rcases Nat.eq_or_lt_of_le hlarge with heq | hlt
      · simp [heq]
      · omega
  · rw [if_neg hsame]
    obtain ⟨hlong, hlong'⟩ := hcut hsame
    have hsmall : min product.natAbs (rangeEnd product) / along ≤ 2001 :=
      Nat.le_of_lt_succ (Nat.div_lt_of_lt_mul (by omega))
    have hsmall' : product.natAbs / exact ≤ 2001 :=
      Nat.le_of_lt_succ (Nat.div_lt_of_lt_mul (by omega))
    omega

theorem along_pos : 0 < along reference current := by
  rw [along]
  omega

theorem sum_cut {x y z : Int} (hx : -1073709056 ≤ x ∧ x ≤ 1073741824)
    (hy : -1073709056 ≤ y ∧ y ≤ 1073741824) (hz : -1073709056 ≤ z ∧ z ≤ 1073741824)
    (h : (max (absI32 (satI32 (satI32 (x + y) + z))) 1).toNat ≠ max (x + y + z).natAbs 1) :
    1073741823 ≤ (max (absI32 (satI32 (satI32 (x + y) + z))) 1).toNat ∧
      1073741823 ≤ max (x + y + z).natAbs 1 := by
  have hcases : satI32 (satI32 (x + y) + z) = x + y + z ∨
      1073741824 ≤ (satI32 (satI32 (x + y) + z)).natAbs ∧ 1073741824 ≤ (x + y + z).natAbs := by
    simp only [satI32]
    omega
  rcases hcases with heq | hlarge
  · rw [heq] at h ⊢
    simp only [absI32] at h ⊢
    split at h <;> omega
  · simp only [absI32] at h ⊢
    split <;> omega

theorem along_cut (h : along reference current ≠ exactAlong reference current) :
    1073741823 ≤ along reference current ∧ 1073741823 ≤ exactAlong reference current :=
  sum_cut (mul_bounds ..) (mul_bounds ..) (mul_bounds ..) h

theorem natAbs_thousandfold (a b c d : Int16) :
    ((a.toInt * b.toInt - c.toInt * d.toInt) * 1000).natAbs ≤ 2147483648000 := by
  have h := mul_bounds a b
  have h' := mul_bounds c d
  omega

/-- Pitch and roll are the exact ratios exactly if the 32-bit range alters neither. -/
theorem calibratedTilt_exact_iff (sample : ImuSample) (calibration : ImuGravityCalibration) :
    ((calibratedTilt sample calibration).1 =
        exactRatio (crossY calibration.reference (gravityVector sample) * 1000)
          (exactAlong calibration.reference (gravityVector sample)) ∧
      (calibratedTilt sample calibration).2.1 =
        exactRatio (crossX calibration.reference (gravityVector sample) * 1000)
          (exactAlong calibration.reference (gravityVector sample))) ↔
      Unaltered (crossY calibration.reference (gravityVector sample) * 1000)
          (exactAlong calibration.reference (gravityVector sample))
          (along calibration.reference (gravityVector sample)) ∧
        Unaltered (crossX calibration.reference (gravityVector sample) * 1000)
          (exactAlong calibration.reference (gravityVector sample))
          (along calibration.reference (gravityVector sample)) := by
  have hexact : 0 < exactAlong calibration.reference (gravityVector sample) := by
    rw [exactAlong]
    omega
  rw [calibratedTilt_eq]
  exact and_congr
    (saturated_ratio_iff hexact along_pos along_cut (natAbs_thousandfold ..))
    (saturated_ratio_iff hexact along_pos along_cut (natAbs_thousandfold ..))

/-- A level body, and the same body pitched by some seventeen degrees. -/
def levelCalibration : ImuGravityCalibration := ⟨⟨0, 0, 9810⟩, 9810⟩

def pitchedSample : ImuSample := { accelXMmS2 := 3000, accelZMmS2 := 9340 }

/-- The driver reads 23 thousandths where the ratio is 321. -/
theorem pitched_altered :
    (calibratedTilt pitchedSample levelCalibration).1 = 23 ∧
      exactRatio (crossY levelCalibration.reference (gravityVector pitchedSample) * 1000)
        (exactAlong levelCalibration.reference (gravityVector pitchedSample)) = 321 := by
  decide +kernel

end Netherwick.Brainstem
