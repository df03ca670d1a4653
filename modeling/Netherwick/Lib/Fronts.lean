import Mathlib.Data.List.Nodup

/-! # Fronts

Items that nothing beats come off a list layer by layer. If beating is transitive and irreflexive,
every layer has an item, and what beats an item comes off in an earlier layer. -/

namespace Netherwick.Lib

variable {α : Type} {beats : α → α → Bool} {items : List α} {x y : α}

def unbeaten (beats : α → α → Bool) (items : List α) : List α :=
  items.filter fun candidate => !items.any fun other => beats other candidate

theorem mem_unbeaten : x ∈ unbeaten beats items ↔
    x ∈ items ∧ ∀ other ∈ items, beats other x = false := by
  simp [unbeaten]

section Order

variable (htrans : ∀ a b c, beats a b = true → beats b c = true → beats a c = true)
  (hirrefl : ∀ a, beats a a = false)

include htrans hirrefl in
theorem unbeaten_ne_nil (h : items ≠ []) : unbeaten beats items ≠ [] := by
  suffices hbest : ∃ best, best ∈ unbeaten beats items by
    obtain ⟨best, hbest⟩ := hbest
    exact List.ne_nil_of_mem hbest
  induction items with
  | nil => exact absurd rfl h
  | cons item items ih =>
    by_cases hitems : items = []
    · exact ⟨item, by simp [mem_unbeaten, hitems, hirrefl]⟩
    · obtain ⟨best, hbest⟩ := ih hitems
      rw [mem_unbeaten] at hbest
      by_cases hbeats : beats item best = true
      · -- the new item beats the best one of before, so nothing of before beats it
        refine ⟨item, mem_unbeaten.mpr ⟨List.mem_cons_self, fun other hother => ?_⟩⟩
        rcases List.mem_cons.mp hother with rfl | hother
        · exact hirrefl other
        · by_contra hbeaten
          have hbest' := htrans other item best (Bool.of_not_eq_false hbeaten) hbeats
          rw [hbest.2 other hother] at hbest'
          cases hbest'
      · refine ⟨best, mem_unbeaten.mpr ⟨List.mem_cons_of_mem _ hbest.1, fun other hother => ?_⟩⟩
        rcases List.mem_cons.mp hother with rfl | hother
        · exact Bool.eq_false_iff.mpr hbeats
        · exact hbest.2 other hother

end Order

variable [DecidableEq α]

/-- The items that are left once the front is gone. -/
def behind (front items : List α) : List α := items.filter fun item => !front.contains item

theorem mem_behind {front : List α} : x ∈ behind front items ↔ x ∈ items ∧ x ∉ front := by
  simp [behind]

theorem length_behind_lt (h : ¬(unbeaten beats items).isEmpty = true) :
    (behind (unbeaten beats items) items).length < items.length := by
  rw [List.isEmpty_iff] at h
  obtain ⟨item, hitem⟩ := List.exists_mem_of_ne_nil _ h
  refine List.length_filter_lt_length_iff_exists.mpr ⟨item, (mem_unbeaten.mp hitem).1, ?_⟩
  simpa using hitem

/-- The fronts. Items that only beat each other in a circle make the last one. -/
def peel (beats : α → α → Bool) (items : List α) : List (List α) :=
  if items.isEmpty then []
  else if _h : (unbeaten beats items).isEmpty then [items]
  else unbeaten beats items :: peel beats (behind (unbeaten beats items) items)
termination_by items.length
decreasing_by exact length_behind_lt _h

theorem mem_flatten_peel : x ∈ (peel beats items).flatten ↔ x ∈ items := by
  induction items using peel.induct beats with
  | case1 items h => simp [peel, List.isEmpty_iff.mp h]
  | case2 items h hnone => simp [peel, h, hnone]
  | case3 items h hsome ih =>
    rw [peel, if_neg h, dif_neg hsome, List.flatten_cons, List.mem_append, ih, mem_behind]
    constructor
    · intro hx
      exact hx.elim (fun hfront => (mem_unbeaten.mp hfront).1) And.left
    · intro hx
      by_cases hfront : x ∈ unbeaten beats items
      · exact .inl hfront
      · exact .inr ⟨hx, hfront⟩

theorem nodup_flatten_peel (hitems : items.Nodup) : (peel beats items).flatten.Nodup := by
  induction items using peel.induct beats with
  | case1 items h => simp [peel, h]
  | case2 items h hnone => simpa [peel, h, hnone] using hitems
  | case3 items h hsome ih =>
    rw [peel, if_neg h, dif_neg hsome, List.flatten_cons, List.nodup_append]
    refine ⟨hitems.filter _, ih (hitems.filter _), ?_⟩
    intro front hfront other hother heq
    rw [mem_flatten_peel, mem_behind] at hother
    exact hother.2 (heq ▸ hfront)

section Order

variable (htrans : ∀ a b c, beats a b = true → beats b c = true → beats a c = true)
  (hirrefl : ∀ a, beats a a = false)

include htrans hirrefl in
theorem front_lt_front {first later : List α} {i j : Nat}
    (hfirst : (peel beats items)[i]? = some first) (hlater : (peel beats items)[j]? = some later)
    (hx : x ∈ first) (hy : y ∈ later) (hbeats : beats x y = true) : i < j := by
  induction items using peel.induct beats generalizing i j with
  | case1 items h => simp [peel, h] at hfirst
  | case2 items h hnone =>
    rw [List.isEmpty_iff] at h hnone
    exact absurd hnone (unbeaten_ne_nil htrans hirrefl h)
  | case3 items h hsome ih =>
    have hmem : x ∈ items := mem_flatten_peel.mp
      (List.mem_flatten_of_mem (List.mem_of_getElem? hfirst) hx)
    rw [peel, if_neg h, dif_neg hsome] at hfirst hlater
    cases j with
    | zero =>
      -- nothing beats an item of the first front
      obtain rfl : unbeaten beats items = later := by simpa using hlater
      have hbeaten := (mem_unbeaten.mp hy).2 x hmem
      rw [hbeats] at hbeaten
      cases hbeaten
    | succ j =>
      cases i with
      | zero => exact Nat.succ_pos j
      | succ i => exact Nat.succ_lt_succ (ih hfirst hlater)

end Order

end Netherwick.Lib
