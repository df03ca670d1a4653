import Mathlib.Data.List.DropRight

/-! # Rings of the most recent items

A ring of a given capacity drops its oldest item to make room for a new one. It makes room when it
is exactly full, so a ring that something has grown past its capacity never shrinks again. -/

namespace Netherwick.Lib

variable {α : Type} {capacity : Nat} {items log : List α}

def ringPush (capacity : Nat) (items : List α) (x : α) : List α :=
  if items.length = capacity then items.tail ++ [x] else items ++ [x]

theorem length_rtake (log : List α) (capacity : Nat) :
    (log.rtake capacity).length = min capacity log.length := by
  rw [List.rtake, List.length_drop]
  omega

theorem rtake_of_length_le (h : log.length ≤ capacity) : log.rtake capacity = log := by
  rw [List.rtake, Nat.sub_eq_zero_of_le h, List.drop_zero]

theorem tail_rtake_succ (h : capacity < log.length) :
    (log.rtake (capacity + 1)).tail = log.rtake capacity := by
  rw [List.rtake, List.rtake, List.tail_drop]
  congr 1
  omega

theorem rtake_concat_rtake (log : List α) (x : α) (capacity : Nat) :
    (log.rtake capacity ++ [x]).rtake capacity = (log ++ [x]).rtake capacity := by
  cases capacity with
  | zero => simp
  | succ n =>
    rw [List.rtake_concat_succ, List.rtake_concat_succ]
    by_cases hshort : log.length ≤ n
    · rw [rtake_of_length_le (hshort.trans (Nat.le_succ n))]
    · have hlong : n < log.length := Nat.not_le.mp hshort
      have hlength : (log.rtake (n + 1)).length - n = 1 := by
        rw [length_rtake]
        omega
      have hagain : (log.rtake (n + 1)).rtake n = log.rtake n :=
        calc
          (log.rtake (n + 1)).rtake n = (log.rtake (n + 1)).drop 1 :=
            congrArg (fun count => (log.rtake (n + 1)).drop count) hlength
          _ = (log.rtake (n + 1)).tail := List.drop_one
          _ = log.rtake n := tail_rtake_succ hlong
      rw [hagain]

theorem getLast?_rtake (log : List α) (hpos : 0 < capacity) :
    (log.rtake capacity).getLast? = log.getLast? := by
  induction log using List.reverseRecOn with
  | nil => simp
  | append_singleton log x =>
    obtain ⟨n, rfl⟩ := Nat.exists_eq_add_one_of_ne_zero hpos.ne'
    rw [List.rtake_concat_succ, List.getLast?_concat, List.getLast?_concat]

theorem ringPush_rtake (hpos : 0 < capacity) (x : α) :
    ringPush capacity (log.rtake capacity) x = (log ++ [x]).rtake capacity := by
  obtain ⟨n, rfl⟩ := Nat.exists_eq_add_one_of_ne_zero hpos.ne'
  rw [ringPush, length_rtake, List.rtake_concat_succ]
  by_cases hfull : n + 1 ≤ log.length
  · rw [if_pos (by omega), tail_rtake_succ hfull]
  · rw [if_neg (by omega), rtake_of_length_le (by omega), rtake_of_length_le (by omega)]

theorem concat_rtake (x : α) (h : log.length < capacity) :
    log.rtake capacity ++ [x] = (log ++ [x]).rtake capacity := by
  rw [rtake_of_length_le h.le, rtake_of_length_le (by simp; omega)]

theorem length_concat_rtake (x : α) (h : capacity ≤ log.length) :
    capacity < (log.rtake capacity ++ [x]).length := by
  rw [List.length_append, length_rtake]
  simp [h]

theorem length_ringPush_of_lt (x : α) (h : capacity < items.length) :
    capacity < (ringPush capacity items x).length := by
  rw [ringPush, if_neg (by omega), List.length_append]
  omega

end Netherwick.Lib
