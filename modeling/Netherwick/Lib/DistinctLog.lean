import Mathlib.Data.List.Dedup
import Mathlib.Data.List.Perm.Subperm

/-! # Bounded logs of distinct entries

An entry is recorded once, at the end, and the oldest entries make room for it. As long as there are
fewer kinds of entries than there is room, nothing is ever forgotten. -/

namespace Netherwick.Lib

section DistinctLog

variable {α : Type}

/-- The log has no entry twice and none from outside of what can be recorded. -/
structure DistinctWithin (known log : List α) : Prop where
  nodup : log.Nodup
  within : log ⊆ known

theorem distinctWithin_nil {known : List α} : DistinctWithin known ([] : List α) :=
  ⟨List.nodup_nil, List.nil_subset _⟩

variable [DecidableEq α] (capacity : Nat)

def record (log : List α) (entry : α) : List α :=
  if log.contains entry then log
  else (log ++ [entry]).drop ((log ++ [entry]).length - capacity)

def recordAll (log entries : List α) : List α := entries.foldl (record capacity) log

variable {capacity} {known log entries : List α} {entry : α}

theorem DistinctWithin.length_le (h : DistinctWithin known log) :
    log.length ≤ known.dedup.length := by
  have hsubset : log ⊆ known.dedup := fun _ hmem => List.mem_dedup.mpr (h.within hmem)
  exact (List.subperm_of_subset h.nodup hsubset).length_le

theorem record_eq (hfew : known.dedup.length < capacity) (h : DistinctWithin known log) :
    record capacity log entry = if entry ∈ log then log else log ++ [entry] := by
  have hroom : (log ++ [entry]).length - capacity = 0 := by
    have hlength := h.length_le
    simp only [List.length_append, List.length_singleton]
    omega
  by_cases hmem : entry ∈ log
  · simp [record, hmem]
  · rw [record, if_neg (by simpa using hmem), hroom, List.drop_zero, if_neg hmem]

theorem DistinctWithin.record (hfew : known.dedup.length < capacity)
    (h : DistinctWithin known log) (hentry : entry ∈ known) :
    DistinctWithin known (record capacity log entry) := by
  rw [record_eq hfew h]
  by_cases hmem : entry ∈ log
  · rwa [if_pos hmem]
  · rw [if_neg hmem]
    constructor
    · exact List.Nodup.append h.nodup (List.nodup_singleton _) (by simpa using hmem)
    · exact List.append_subset.mpr ⟨h.within, by simpa using hentry⟩

theorem mem_record (hfew : known.dedup.length < capacity) (h : DistinctWithin known log)
    {other : α} : other ∈ record capacity log entry ↔ other ∈ log ∨ other = entry := by
  rw [record_eq hfew h]
  by_cases hmem : entry ∈ log
  · rw [if_pos hmem]
    constructor
    · exact .inl
    · rintro (hlog | rfl)
      · exact hlog
      · exact hmem
  · simp [if_neg hmem]

theorem DistinctWithin.recordAll (hfew : known.dedup.length < capacity)
    (h : DistinctWithin known log) (hentries : entries ⊆ known) :
    DistinctWithin known (recordAll capacity log entries) := by
  induction entries generalizing log with
  | nil => exact h
  | cons entry rest ih =>
    have hparts := List.cons_subset.mp hentries
    exact ih (h.record hfew hparts.1) hparts.2

theorem mem_recordAll (hfew : known.dedup.length < capacity) (h : DistinctWithin known log)
    (hentries : entries ⊆ known) {other : α} :
    other ∈ recordAll capacity log entries ↔ other ∈ log ∨ other ∈ entries := by
  induction entries generalizing log with
  | nil => simp [recordAll]
  | cons entry rest ih =>
    have hparts := List.cons_subset.mp hentries
    have hrest := ih (h.record hfew hparts.1) hparts.2
    rw [mem_record hfew h, or_assoc] at hrest
    rw [List.mem_cons]
    exact hrest

end DistinctLog

end Netherwick.Lib
