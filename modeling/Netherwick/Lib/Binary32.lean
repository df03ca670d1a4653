import Mathlib

/-! # Comparing binary32 numbers

`Float32` compares what its bits unpack to. Equality is symmetric and transitive, though not
reflexive. The numbers below infinity are ordered as `total_cmp` orders their bits, and are either at
most zero or above it. -/

namespace Netherwick.Lib

open Float.Model Float.Model.UnpackedFloat

section Equality

variable {a b c : Float32}

theorem unpacked_compare_eq (x y : UnpackedFloat) :
    x.compare y = some .eq ↔
      (x = y ∧ x ≠ .notANumber) ∨ ∃ s s', x = .zero s ∧ y = .zero s' := by
  cases x with
  | infinity s => cases y with
    | infinity s' => cases s <;> cases s' <;> simp [UnpackedFloat.compare] <;> decide
    | notANumber => simp [UnpackedFloat.compare]
    | zero s' => cases s <;> simp [UnpackedFloat.compare]
    | finite s' m' e' h' => cases s <;> simp [UnpackedFloat.compare]
  | notANumber => simp [UnpackedFloat.compare]
  | zero s => cases y with
    | infinity s' => cases s' <;> simp [UnpackedFloat.compare]
    | notANumber => simp [UnpackedFloat.compare]
    | zero s' => cases s <;> cases s' <;> simp [UnpackedFloat.compare]
    | finite s' m' e' h' => cases s' <;> simp [UnpackedFloat.compare]
  | finite s m e h => cases y with
    | infinity s' => cases s <;> cases s' <;> simp [UnpackedFloat.compare]
    | notANumber => simp [UnpackedFloat.compare]
    | zero s' => cases s <;> cases s' <;> simp [UnpackedFloat.compare]
    | finite s' m' e' h' =>
      cases s <;> cases s' <;>
        simp [UnpackedFloat.compare, Ordering.swap_eq_eq, Ordering.then_eq_eq, and_comm]

theorem float32_beq_iff : (a == b) = true ↔
    a.toModel.unpack.compare b.toModel.unpack = some .eq := by
  have hbeq : (a == b) = (a.toModel.unpack.compare b.toModel.unpack == some .eq) := rfl
  rw [hbeq, beq_iff_eq]

theorem float32_beq_symm (h : (a == b) = true) : (b == a) = true := by
  rw [float32_beq_iff, unpacked_compare_eq] at *
  obtain ⟨heq, hnumber⟩ | ⟨s, s', hs, hs'⟩ := h
  · exact .inl ⟨heq.symm, heq ▸ hnumber⟩
  · exact .inr ⟨s', s, hs', hs⟩

theorem float32_beq_trans (h : (a == b) = true) (h' : (b == c) = true) : (a == c) = true := by
  rw [float32_beq_iff, unpacked_compare_eq] at *
  obtain ⟨heq, -⟩ | ⟨s, s', hs, hs'⟩ := h
  · rw [heq]
    exact h'
  · obtain ⟨heq, -⟩ | ⟨t, t', -, ht'⟩ := h'
    · exact .inr ⟨s, s', hs, heq ▸ hs'⟩
    · exact .inr ⟨s, t', hs, ht'⟩

end Equality

section Bits

theorem unpackExponent_toNat (b : BitVec 32) :
    (@unpackExponent Format.binary32 b).toNat = b.toNat / 2 ^ 23 % 2 ^ 8 := by
  simp [unpackExponent, Nat.shiftRight_eq_div_pow]

theorem unpackMantissa_toNat (b : BitVec 32) :
    (@unpackMantissa Format.binary32 b).toNat = b.toNat % 2 ^ 23 := by
  simp [unpackMantissa]

theorem unpackSign_toNat (b : BitVec 32) :
    (@unpackSign Format.binary32 b).toNat = b.toNat / 2 ^ 31 := by
  have hbound : b.toNat < 2 ^ 32 := b.isLt
  have hbit : b.toNat / 2147483648 < 2 := by omega
  simpa [unpackSign, Nat.shiftRight_eq_div_pow] using hbit

def signOf (bits : Nat) : Sign := if bits < 2 ^ 31 then .positive else .negative

/-- Mantissa and exponent of a number of which only the sign bit is taken away. -/
def mantissaOf (magnitude : Nat) : Nat :=
  if magnitude < 2 ^ 23 then magnitude else magnitude % 2 ^ 23 + 2 ^ 23

def exponentOf (magnitude : Nat) : Int :=
  (if magnitude < 2 ^ 23 then 1 else (magnitude / 2 ^ 23 : Nat)) - 150

theorem ofBitVec_unpackSign (b : BitVec 32) :
    Sign.ofBitVec (@unpackSign Format.binary32 b) = signOf b.toNat := by
  have hsign := unpackSign_toNat b
  have hbound : b.toNat < 2 ^ 32 := b.isLt
  generalize (@unpackSign Format.binary32 b) = sign at hsign ⊢
  by_cases hlow : b.toNat < 2 ^ 31
  · have hzero : sign = 0#1 := by
      apply BitVec.eq_of_toNat_eq
      rw [hsign]
      simp
      omega
    rw [hzero, signOf, if_pos hlow]
    rfl
  · have hone : sign = 1#1 := by
      apply BitVec.eq_of_toNat_eq
      rw [hsign]
      simp
      omega
    rw [hone, signOf, if_neg hlow]
    rfl

theorem unpack_of_isFinite {b : BitVec 32} (h : (UnpackedFloat.unpack Format.binary32 b).isFinite = true) :
    b.toNat % 2 ^ 31 < 255 * 2 ^ 23 ∧
      ((b.toNat % 2 ^ 31 = 0 ∧ UnpackedFloat.unpack Format.binary32 b = .zero (signOf b.toNat)) ∨
        (0 < b.toNat % 2 ^ 31 ∧ ∃ hpos, UnpackedFloat.unpack Format.binary32 b =
          .finite (signOf b.toNat) (mantissaOf (b.toNat % 2 ^ 31)) (exponentOf (b.toNat % 2 ^ 31))
            hpos)) := by
  have hexponent := unpackExponent_toNat b
  have hmantissa := unpackMantissa_toNat b
  have hsign := ofBitVec_unpackSign b
  have hbound : b.toNat < 2 ^ 32 := b.isLt
  by_cases htop : @unpackExponent Format.binary32 b = -1#_
  · by_cases hzero : @unpackMantissa Format.binary32 b = 0#_
    · simp [UnpackedFloat.unpack, htop, hzero, UnpackedFloat.isFinite] at h
    · simp [UnpackedFloat.unpack, htop, hzero, UnpackedFloat.isFinite] at h
  · have hless : b.toNat / 2 ^ 23 % 2 ^ 8 ≠ 255 := by
      intro hall
      apply htop
      apply BitVec.eq_of_toNat_eq
      rw [hexponent, hall]
      rfl
    refine ⟨by omega, ?_⟩
    by_cases hlow : @unpackExponent Format.binary32 b = 0#_
    · have hsmall : b.toNat / 2 ^ 23 % 2 ^ 8 = 0 := by
        rw [← hexponent, hlow]
        rfl
      by_cases hzero : @unpackMantissa Format.binary32 b = 0#_
      · left
        have hnone : b.toNat % 2 ^ 23 = 0 := by
          rw [← hmantissa, hzero]
          rfl
        refine ⟨by omega, ?_⟩
        rw [UnpackedFloat.unpack]
        simp only [if_neg htop, if_pos hlow, dif_pos hzero, hsign]
      · right
        have hsome : b.toNat % 2 ^ 23 ≠ 0 := by
          intro hnone
          apply hzero
          apply BitVec.eq_of_toNat_eq
          rw [hmantissa, hnone]
          rfl
        have hsubnormal : b.toNat % 2 ^ 31 < 2 ^ 23 := by omega
        have hsame : b.toNat % 2 ^ 31 = b.toNat % 2 ^ 23 := by omega
        refine ⟨by omega, ?_, ?_⟩
        · rw [mantissaOf, if_pos hsubnormal]
          omega
        · rw [UnpackedFloat.unpack]
          simp only [if_neg htop, if_pos hlow, dif_neg hzero, UnpackedFloat.finite.injEq]
          refine ⟨hsign, ?_, ?_⟩
          · rw [mantissaOf, if_pos hsubnormal, hsame, hmantissa]
          · rw [exponentOf, if_pos hsubnormal, hexponent, hsmall]
            rfl
    · right
      have hsome : b.toNat / 2 ^ 23 % 2 ^ 8 ≠ 0 := by
        intro hnone
        apply hlow
        apply BitVec.eq_of_toNat_eq
        rw [hexponent, hnone]
        rfl
      have hnormal : ¬b.toNat % 2 ^ 31 < 2 ^ 23 := by omega
      have hmagnitude : b.toNat % 2 ^ 31 / 2 ^ 23 = b.toNat / 2 ^ 23 % 2 ^ 8 := by omega
      have hrest : b.toNat % 2 ^ 31 % 2 ^ 23 = b.toNat % 2 ^ 23 := by omega
      have hfull : (1#1 ++ @unpackMantissa Format.binary32 b).toNat = b.toNat % 2 ^ 23 + 2 ^ 23 := by
        have hbits : b.toNat % 2 ^ 23 < 2 ^ 23 := Nat.mod_lt _ (by decide)
        rw [BitVec.toNat_append, hmantissa, ← Nat.shiftLeft_add_eq_or_of_lt hbits, Nat.add_comm]
        rfl
      refine ⟨by omega, ?_, ?_⟩
      · rw [mantissaOf, if_neg hnormal]
        omega
      · rw [UnpackedFloat.unpack]
        simp only [if_neg htop, if_neg hlow, UnpackedFloat.finite.injEq]
        refine ⟨hsign, ?_, ?_⟩
        · rw [mantissaOf, if_neg hnormal, hrest, hfull]
        · rw [exponentOf, if_neg hnormal, hmagnitude, hexponent]
          rfl

theorem exponent_mantissa_le {m n : Nat} (h : m ≤ n) :
    exponentOf m < exponentOf n ∨ (exponentOf m = exponentOf n ∧ mantissaOf m ≤ mantissaOf n) := by
  by_cases hm : m < 2 ^ 23
  · by_cases hn : n < 2 ^ 23
    · right
      simp only [exponentOf, mantissaOf, if_pos hm, if_pos hn]
      exact ⟨trivial, h⟩
    · simp only [exponentOf, mantissaOf, if_pos hm, if_neg hn]
      omega
  · have hn : ¬n < 2 ^ 23 := by omega
    simp only [exponentOf, mantissaOf, if_neg hm, if_neg hn]
    omega

theorem compare_magnitudes {m n : Nat} (h : m ≤ n) :
    ((compare (exponentOf m) (exponentOf n)).then (compare (mantissaOf m) (mantissaOf n))).isLE =
      true := by
  obtain hless | ⟨hsame, hle⟩ := exponent_mantissa_le h
  · rw [Std.compare_eq_lt.mpr hless]
    rfl
  · rw [hsame, Std.compare_self]
    exact Std.isLE_compare.mpr hle

theorem compare_magnitudes_swap {m n : Nat} (h : m ≤ n) :
    ((compare (exponentOf n) (exponentOf m)).then
      (compare (mantissaOf n) (mantissaOf m))).swap.isLE = true := by
  rw [Ordering.swap_then, ← Std.OrientedOrd.eq_swap, ← Std.OrientedOrd.eq_swap]
  exact compare_magnitudes h

theorem isFinite_packComponents (sign : Sign) {exponent : BitVec 8} (mantissa : BitVec 23)
    (h : exponent ≠ -1#8) :
    (UnpackedFloat.unpack Format.binary32
      (packComponents Format.binary32 sign exponent mantissa)).isFinite = true := by
  rw [UnpackedFloat.unpack]
  simp only [unpackExponent_packComponents, unpackMantissa_packComponents, if_neg h]
  by_cases hlow : exponent = 0#8
  · by_cases hzero : mantissa = 0#23
    · simp only [if_pos hlow, dif_pos hzero]
      rfl
    · simp only [if_pos hlow, dif_neg hzero]
      rfl
  · simp only [if_neg hlow]
    rfl

theorem isFinite_pack {sign : Sign} {mantissa : Nat} {exponent : Int} {hpos : 0 < mantissa}
    (h : exponent < 105) :
    (UnpackedFloat.unpack Format.binary32 (UnpackedFloat.pack Format.binary32
      (.finite sign mantissa exponent hpos))).isFinite = true := by
  have hbias : (Format.binary32.exponentBias : Int) = 127 := rfl
  rw [UnpackedFloat.pack]
  simp only [hbias]
  have hroom : ¬2 ^ 8 ≤ (exponent + 127 + (23 : Nat)).toNat + 1 := by omega
  rw [if_neg hroom]
  by_cases hnormal : mantissa.log2 + 1 = Format.binary32.mantissaBits
  · rw [if_pos hnormal]
    apply isFinite_packComponents
    intro htop
    have hall := congrArg BitVec.toNat htop
    rw [BitVec.toNat_ofNat, Nat.mod_eq_of_lt (by omega)] at hall
    have htop255 : (-1#8).toNat = 255 := rfl
    omega
  · rw [if_neg hnormal]
    exact isFinite_packComponents _ _ (by decide)

end Bits

section Order

variable {a b : Float32}

/-- The bits as a total order takes them: below zero the other way round. -/
def bitsKey (value : Float32) : Int :=
  if value.toBits.toNat < 2 ^ 31 then value.toBits.toNat else (2 ^ 31 - 1 : Int) - value.toBits.toNat

theorem float32_le_iff : a ≤ b ↔
    (a.toModel.unpack.compare b.toModel.unpack).any (·.isLE) = true := by
  have hle : a ≤ b ↔ decide (a.toModel ≤ b.toModel) = true := Iff.rfl
  rw [hle, decide_eq_true_iff]
  rfl

theorem float32_lt_iff : a < b ↔
    a.toModel.unpack.compare b.toModel.unpack = some .lt := by
  have hlt : a < b ↔ decide (a.toModel < b.toModel) = true := Iff.rfl
  have hcompare : a.toModel < b.toModel ↔
      (a.toModel.unpack.compare b.toModel.unpack == some .lt) = true := Iff.rfl
  rw [hlt, decide_eq_true_iff, hcompare, beq_iff_eq]

theorem unpack_of_float32_isFinite (h : a.isFinite = true) :
    (a.toBits.toNat % 2 ^ 31 = 0 ∧ a.toModel.unpack = .zero (signOf a.toBits.toNat)) ∨
      (0 < a.toBits.toNat % 2 ^ 31 ∧ ∃ hpos, a.toModel.unpack =
        .finite (signOf a.toBits.toNat) (mantissaOf (a.toBits.toNat % 2 ^ 31))
          (exponentOf (a.toBits.toNat % 2 ^ 31)) hpos) :=
  (unpack_of_isFinite (b := a.toBits.toBitVec) h).2

theorem float32_le_of_bitsKey (ha : a.isFinite = true) (hb : b.isFinite = true)
    (h : bitsKey a ≤ bitsKey b) : a ≤ b := by
  rw [float32_le_iff]
  have haBound : a.toBits.toNat < 2 ^ 32 := a.toBits.toBitVec.isLt
  have hbBound : b.toBits.toNat < 2 ^ 32 := b.toBits.toBitVec.isLt
  have haBits := unpack_of_float32_isFinite ha
  have hbBits := unpack_of_float32_isFinite hb
  by_cases haSign : a.toBits.toNat < 2 ^ 31
  · have hbSign : b.toBits.toNat < 2 ^ 31 := by
      by_contra hneg
      rw [bitsKey, bitsKey, if_pos haSign, if_neg hneg] at h
      omega
    have hle : a.toBits.toNat % 2 ^ 31 ≤ b.toBits.toNat % 2 ^ 31 := by
      rw [bitsKey, bitsKey, if_pos haSign, if_pos hbSign] at h
      omega
    simp only [signOf, if_pos haSign, if_pos hbSign] at haBits hbBits
    obtain ⟨_, haUnpack⟩ | ⟨_, _, haUnpack⟩ := haBits
    · obtain ⟨_, hbUnpack⟩ | ⟨_, _, hbUnpack⟩ := hbBits
      · rw [haUnpack, hbUnpack]
        rfl
      · rw [haUnpack, hbUnpack]
        rfl
    · obtain ⟨_, hbUnpack⟩ | ⟨_, _, hbUnpack⟩ := hbBits
      · omega
      · rw [haUnpack, hbUnpack]
        exact compare_magnitudes hle
  · by_cases hbSign : b.toBits.toNat < 2 ^ 31
    · simp only [signOf, if_neg haSign, if_pos hbSign] at haBits hbBits
      obtain ⟨_, haUnpack⟩ | ⟨_, _, haUnpack⟩ := haBits
      · obtain ⟨_, hbUnpack⟩ | ⟨_, _, hbUnpack⟩ := hbBits
        · rw [haUnpack, hbUnpack]
          rfl
        · rw [haUnpack, hbUnpack]
          rfl
      · obtain ⟨_, hbUnpack⟩ | ⟨_, _, hbUnpack⟩ := hbBits
        · rw [haUnpack, hbUnpack]
          rfl
        · rw [haUnpack, hbUnpack]
          rfl
    · have hle : b.toBits.toNat % 2 ^ 31 ≤ a.toBits.toNat % 2 ^ 31 := by
        rw [bitsKey, bitsKey, if_neg haSign, if_neg hbSign] at h
        omega
      simp only [signOf, if_neg haSign, if_neg hbSign] at haBits hbBits
      obtain ⟨_, haUnpack⟩ | ⟨_, _, haUnpack⟩ := haBits
      · obtain ⟨_, hbUnpack⟩ | ⟨_, _, hbUnpack⟩ := hbBits
        · rw [haUnpack, hbUnpack]
          rfl
        · omega
      · obtain ⟨_, hbUnpack⟩ | ⟨_, _, hbUnpack⟩ := hbBits
        · rw [haUnpack, hbUnpack]
          rfl
        · rw [haUnpack, hbUnpack]
          exact compare_magnitudes_swap hle

theorem float32_pos_of_not_le (ha : a.isFinite = true) (h : ¬a ≤ 0) : 0 < a := by
  rw [float32_le_iff] at h
  rw [float32_lt_iff]
  have hzero : (0 : Float32).toModel.unpack = .zero .positive := by rfl
  rw [hzero] at h ⊢
  have hfinite : a.toModel.unpack.isFinite = true := ha
  cases hunpack : a.toModel.unpack with
  | infinity s => simp [hunpack, UnpackedFloat.isFinite] at hfinite
  | notANumber => simp [hunpack, UnpackedFloat.isFinite] at hfinite
  | zero s => cases s <;> simp [hunpack, UnpackedFloat.compare] at h
  | finite s m e hm =>
    cases s with
    | positive => rfl
    | negative => simp [hunpack, UnpackedFloat.compare] at h

theorem float32_sub_zero_isFinite (ha : a.isFinite = true) : (a - 0).isFinite = true := by
  have hzero : (0 : Float32).toModel.unpack = .zero .positive := by rfl
  have hpacked : (a - 0).isFinite = (UnpackedFloat.unpack Format.binary32
      (UnpackedFloat.pack Format.binary32
        (UnpackedFloat.sub Format.binary32 a.toModel.unpack (0 : Float32).toModel.unpack))).isFinite :=
    rfl
  have hbits := unpack_of_isFinite (b := a.toBits.toBitVec) ha
  rw [hpacked, hzero]
  obtain ⟨_, hunpack⟩ | ⟨hpos, _, hunpack⟩ := unpack_of_float32_isFinite ha
  · rw [hunpack]
    cases hsign : signOf a.toBits.toNat <;> rfl
  · have hexponent : exponentOf (a.toBits.toNat % 2 ^ 31) < 105 := by
      have hbound : a.toBits.toNat % 2 ^ 31 < 255 * 2 ^ 23 := hbits.1
      simp only [exponentOf]
      split <;> omega
    rw [hunpack]
    exact isFinite_pack hexponent

end Order

end Netherwick.Lib
