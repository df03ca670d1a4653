import Mathlib.Data.List.Basic

/-! # Writing into a table

Values are written into a table by their places, one after the other. Where every place is written
once at most, what is written stays. -/

namespace Netherwick.Lib

variable {α : Type}

def assign (table : List α) (writes : List (Nat × α)) : List α :=
  writes.foldl (fun table write => table.set write.1 write.2) table

@[simp] theorem length_assign (table : List α) (writes : List (Nat × α)) :
    (assign table writes).length = table.length := by
  induction writes generalizing table with
  | nil => rfl
  | cons write writes ih =>
    rw [assign, List.foldl_cons, ← assign, ih, List.length_set]

theorem getElem?_assign_of_not_mem {writes : List (Nat × α)} {place : Nat}
    (h : place ∉ writes.map Prod.fst) (table : List α) :
    (assign table writes)[place]? = table[place]? := by
  induction writes generalizing table with
  | nil => rfl
  | cons write writes ih =>
    rw [List.map_cons, List.mem_cons, not_or] at h
    rw [assign, List.foldl_cons, ← assign, ih h.2, List.getElem?_set_ne (Ne.symm h.1)]

theorem getElem?_assign_of_mem {writes : List (Nat × α)} (hnodup : (writes.map Prod.fst).Nodup)
    {place : Nat} {value : α} (h : (place, value) ∈ writes) (table : List α)
    (hplace : place < table.length) : (assign table writes)[place]? = some value := by
  induction writes generalizing table with
  | nil => cases h
  | cons write writes ih =>
    rw [List.map_cons, List.nodup_cons] at hnodup
    rw [assign, List.foldl_cons, ← assign]
    rcases List.mem_cons.mp h with rfl | h
    · rw [getElem?_assign_of_not_mem hnodup.1, List.getElem?_set_self hplace]
    · exact ih hnodup.2 h _ (by simpa using hplace)

end Netherwick.Lib
