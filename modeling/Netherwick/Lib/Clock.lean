import Mathlib.Data.Nat.ModEq
import Mathlib.Data.UInt

/-! # Wrapping deadlines

A 32-bit clock compares a deadline by the sign of a wrapping difference. When the clock itself
is a quotient of a wrapping counter it starts over long before the deadline arithmetic does. -/

namespace Netherwick.Lib

/-- Has the clock passed the deadline, by less than half the range? -/
def timeReached (nowMs deadlineMs : UInt32) : Bool := nowMs - deadlineMs < 0xFFFFFFFF / 2

theorem timeReached_iff (nowMs deadlineMs : UInt32) :
    timeReached nowMs deadlineMs = true ↔
      (deadlineMs.toNat ≤ nowMs.toNat ∧ nowMs.toNat < deadlineMs.toNat + 2147483647) ∨
        nowMs.toNat + 2147483649 < deadlineMs.toNat := by
  have hn := nowMs.toNat_lt
  have hd := deadlineMs.toNat_lt
  have hhalf : (0xFFFFFFFF / 2 : UInt32).toNat = 2147483647 := by decide
  rw [timeReached, decide_eq_true_eq, UInt32.lt_iff_toNat_lt, UInt32.toNat_sub, hhalf]
  omega

theorem timeReached_before {now deadline : Nat} (hlt : now < deadline)
    (hnear : deadline ≤ now + 2147483648) :
    timeReached (UInt32.ofNat now) (UInt32.ofNat deadline) = false := by
  rw [← Bool.not_eq_true, timeReached_iff, UInt32.toNat_ofNat', UInt32.toNat_ofNat']
  omega

/-- A millisecond clock divided out of the low word of a microsecond counter. -/
def microsecondClock (uptimeUs : Nat) : UInt32 := UInt32.ofNat uptimeUs / 1000

theorem microsecondClock_toNat (uptimeUs : Nat) :
    (microsecondClock uptimeUs).toNat = uptimeUs % 4294967296 / 1000 := by
  simp [microsecondClock]

theorem microsecondClock_le (uptimeUs : Nat) : (microsecondClock uptimeUs).toNat ≤ 4294967 := by
  rw [microsecondClock_toNat]
  omega

theorem timeReached_microsecondClock_iff (uptimeUs : Nat) (deadlineMs : UInt32) :
    timeReached (microsecondClock uptimeUs) deadlineMs = true ↔
      deadlineMs.toNat ≤ uptimeUs % 4294967296 / 1000 ∨
        uptimeUs % 4294967296 / 1000 + 2147483649 < deadlineMs.toNat := by
  have hle := microsecondClock_le uptimeUs
  rw [timeReached_iff, ← microsecondClock_toNat]
  omega

end Netherwick.Lib
