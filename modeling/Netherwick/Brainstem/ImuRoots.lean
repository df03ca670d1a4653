import Mathlib.Tactic.Linarith
import Mathlib.Tactic.Ring
import Netherwick.Brainstem.Imu

/-! # Integer square roots

Both roots find one binary digit after the other. Before the digit of weight `2 ^ k` is found, the
root `r` so far is kept as `r * 2 ^ (k + 1)`, and what is left of the value is less than what the
remaining digits can make of it. -/

namespace Netherwick.Brainstem

section Checked

variable (width : Nat)

/-- A sum of the machine's width; the build with checks stops at an overflow. -/
def checkedSum (a b : Nat) : Option Nat := if a + b < 2 ^ width then some (a + b) else none

/-- The first loop, or nothing if the steps do not suffice. -/
def startChecked : Nat → Nat → Nat → Option Nat
  | 0, _, _ => none
  | steps + 1, bit, value => if bit > value then startChecked steps (bit / 4) value else some bit

def rootChecked : Nat → Nat → Nat → Nat → Option Nat
  | 0, _, _, _ => none
  | steps + 1, n, result, bit =>
    if bit = 0 then some result
    else (checkedSum width result bit).bind fun sum =>
      if n ≥ sum then (checkedSum width (result / 2) bit).bind fun next =>
        rootChecked steps (n - sum) next (bit / 4)
      else rootChecked steps n (result / 2) (bit / 4)

end Checked

/-- `int_sqrt_u64`, in the same way. -/
def intSqrtU64Checked (value : Nat) : Option Nat :=
  (startChecked 33 (2 ^ 62) value).bind fun bit => rootChecked 64 33 value 0 bit

section Digits

variable {half steps k value n r : Nat}

/-- Before the digit of weight `2 ^ k`: the root so far, and what it leaves of the value. -/
structure Digits (half value n r k : Nat) : Prop where
  rest : r * r + n = value
  below : value < (r + 2 ^ k) * (r + 2 ^ k)
  fits : r + 2 ^ k ≤ 2 ^ half

theorem four_pow (k : Nat) : 4 ^ k = 2 ^ k * 2 ^ k := by
  rw [← Nat.mul_pow]

theorem four_pow_succ_div (k : Nat) : 4 ^ (k + 1) / 4 = 4 ^ k := by
  rw [pow_succ, Nat.mul_div_cancel _ (by decide)]

theorem mul_two_pow_succ (r k : Nat) : r * 2 ^ (k + 1) = 2 * (r * 2 ^ k) := by
  ring

theorem square_add (r k : Nat) :
    (r + 2 ^ k) * (r + 2 ^ k) = r * r + (r * 2 ^ (k + 1) + 4 ^ k) := by
  rw [four_pow]
  ring

theorem Digits.taken (h : Digits half value n r (k + 1)) (hn : r * 2 ^ (k + 1) + 4 ^ k ≤ n) :
    Digits half value (n - (r * 2 ^ (k + 1) + 4 ^ k)) (r + 2 ^ k) k := by
  have hrest := h.rest
  have hsame : r + 2 ^ k + 2 ^ k = r + 2 ^ (k + 1) := by ring
  refine ⟨?_, hsame ▸ h.below, hsame ▸ h.fits⟩
  rw [square_add]
  omega

theorem Digits.left (h : Digits half value n r (k + 1)) (hn : n < r * 2 ^ (k + 1) + 4 ^ k) :
    Digits half value n r k := by
  have hrest := h.rest
  have hfits := h.fits
  rw [pow_succ] at hfits
  refine ⟨hrest, ?_, by omega⟩
  rw [square_add]
  omega

theorem Digits.sqrt (h : Digits half value n r 0) : r = Nat.sqrt value := by
  have hrest := h.rest
  have hbelow := h.below
  rw [pow_zero] at hbelow
  exact Nat.eq_sqrt.mpr ⟨by omega, hbelow⟩

/-- No sum of the loop passes the width. -/
theorem Digits.sum_lt (h : Digits half value n r (k + 1)) :
    r * 2 ^ (k + 1) + 4 ^ k < 2 ^ (2 * half) := by
  have hscaled := Nat.mul_le_mul h.fits h.fits
  have hpos : 0 < 4 ^ k := by positivity
  have hwidth : 2 ^ (2 * half) = 2 ^ half * 2 ^ half := by rw [two_mul, pow_add]
  have hsquare : (r + 2 ^ (k + 1)) * (r + 2 ^ (k + 1)) =
      r * r + r * 2 ^ (k + 1) + r * 2 ^ (k + 1) + 4 * 4 ^ k := by
    rw [four_pow]
    ring
  rw [hwidth]
  omega

theorem rootChecked_eq (h : Digits half value n r k) (hsteps : k < steps) :
    rootChecked (2 * half) steps n (r * 2 ^ k) (4 ^ k / 4) = some (Nat.sqrt value) := by
  induction k generalizing steps n r with
  | zero =>
    obtain ⟨steps, rfl⟩ := Nat.exists_eq_add_of_lt hsteps
    simp [rootChecked, h.sqrt]
  | succ k ih =>
    obtain ⟨steps, rfl⟩ : ∃ more, steps = more + 1 := ⟨steps - 1, by omega⟩
    have hsum := h.sum_lt
    have hbit : 4 ^ k ≠ 0 := by positivity
    have hhalf : r * 2 ^ (k + 1) / 2 = r * 2 ^ k := by
      rw [mul_two_pow_succ]
      omega
    have hnext : r * 2 ^ k + 4 ^ k = (r + 2 ^ k) * 2 ^ k := by
      rw [four_pow]
      ring
    have hhalfSum : r * 2 ^ k + 4 ^ k < 2 ^ (2 * half) := by
      rw [mul_two_pow_succ] at hsum
      omega
    rw [four_pow_succ_div, rootChecked, if_neg hbit, checkedSum, if_pos hsum, Option.bind_some,
      hhalf]
    by_cases hn : r * 2 ^ (k + 1) + 4 ^ k ≤ n
    · rw [if_pos hn, checkedSum, if_pos hhalfSum, Option.bind_some, hnext]
      exact ih (h.taken hn) (by omega)
    · rw [if_neg hn]
      exact ih (h.left (by omega)) (by omega)

theorem startChecked_eq (hvalue : value < 4 ^ k) (hsteps : k < steps) :
    ∃ digit ≤ k, startChecked steps (4 ^ k / 4) value = some (4 ^ digit / 4) ∧
      value < 4 ^ digit := by
  induction k generalizing steps with
  | zero =>
    obtain ⟨steps, rfl⟩ := Nat.exists_eq_add_of_lt hsteps
    exact ⟨0, le_refl 0, by simp [startChecked], hvalue⟩
  | succ k ih =>
    obtain ⟨steps, rfl⟩ : ∃ more, steps = more + 1 := ⟨steps - 1, by omega⟩
    rw [four_pow_succ_div, startChecked]
    by_cases hbit : 4 ^ k > value
    · obtain ⟨digit, hdigit, hstart, hbelow⟩ := @ih steps hbit (by omega)
      rw [if_pos hbit]
      exact ⟨digit, by omega, hstart, hbelow⟩
    · rw [if_neg hbit]
      exact ⟨k + 1, le_refl _, by rw [four_pow_succ_div], hvalue⟩

/-- Both loops end in time, no sum overflows, and the root is found. -/
theorem checked_root (hvalue : value < 4 ^ half) (hsteps : half < steps) :
    ((startChecked steps (4 ^ half / 4) value).bind fun bit =>
      rootChecked (2 * half) steps value 0 bit) = some (Nat.sqrt value) := by
  obtain ⟨digit, hdigit, hstart, hbelow⟩ := startChecked_eq hvalue hsteps
  have hdigits : Digits half value value 0 digit := by
    refine ⟨by simp, ?_, ?_⟩
    · rwa [Nat.zero_add, ← four_pow]
    · rw [Nat.zero_add]
      exact Nat.pow_le_pow_right (by decide) hdigit
  rw [hstart, Option.bind_some]
  simpa using rootChecked_eq hdigits (by omega)

end Digits

theorem intSqrtU64Checked_eq {value : Nat} (h : value < 4 ^ 32) :
    intSqrtU64Checked value = some (Nat.sqrt value) :=
  @checked_root 32 33 value h (by decide)

theorem intSqrtStart_of_checked {steps bit value found : Nat}
    (h : startChecked (steps + 1) bit value = some found) :
    intSqrtStart steps bit value = found := by
  induction steps generalizing bit with
  | zero =>
    by_cases hbit : bit > value
    · simp [startChecked, hbit] at h
    · simpa [startChecked, hbit, intSqrtStart] using h
  | succ steps ih =>
    rw [startChecked] at h
    rw [intSqrtStart]
    by_cases hbit : bit > value
    · rw [if_pos hbit] at h ⊢
      exact ih h
    · rw [if_neg hbit] at h ⊢
      exact Option.some.inj h

theorem intSqrtLoop_of_checked {width steps n result bit found : Nat}
    (h : rootChecked width (steps + 1) n result bit = some found) :
    intSqrtLoop steps n result bit = found := by
  induction steps generalizing n result bit with
  | zero =>
    by_cases hbit : bit = 0
    · simpa [rootChecked, hbit, intSqrtLoop] using h
    · simp only [rootChecked, if_neg hbit, Option.bind_eq_some_iff] at h
      obtain ⟨sum, _, h⟩ := h
      split at h
      · simp at h
      · cases h
  | succ steps ih =>
    rw [rootChecked] at h
    rw [intSqrtLoop]
    by_cases hbit : bit = 0
    · rw [if_pos hbit] at h ⊢
      exact Option.some.inj h
    · rw [if_neg hbit] at h ⊢
      obtain ⟨sum, hsum, h⟩ := Option.bind_eq_some_iff.mp h
      obtain rfl : result + bit = sum := by
        rw [checkedSum] at hsum
        split at hsum
        · exact Option.some.inj hsum
        · cases hsum
      by_cases hn : n ≥ result + bit
      · rw [if_pos hn] at h ⊢
        obtain ⟨next, hnext, h⟩ := Option.bind_eq_some_iff.mp h
        obtain rfl : result / 2 + bit = next := by
          rw [checkedSum] at hnext
          split at hnext
          · exact Option.some.inj hnext
          · cases hnext
        exact ih h
      · rw [if_neg hn] at h ⊢
        exact ih h

theorem intSqrtU64_eq {value : Nat} (h : value < 4 ^ 32) : intSqrtU64 value = Nat.sqrt value := by
  obtain ⟨bit, hstart, hroot⟩ := Option.bind_eq_some_iff.mp (intSqrtU64Checked_eq h)
  rw [intSqrtU64, intSqrtStart_of_checked hstart]
  exact intSqrtLoop_of_checked hroot

end Netherwick.Brainstem
