import Mathlib.Order.Lattice
import Mathlib.Order.Defs.LinearOrder
import Mathlib.Data.List.Pairwise
import Mathlib.Tactic.Tauto

/-! # Ordered maps

A finite map kept as the list of its entries in the order of their keys, the keys strictly
increasing: a `BTreeMap`. -/

namespace Netherwick.Lib

variable {κ α : Type} [LinearOrder κ]

/-- Entries in the order of their keys, no key twice. -/
def Ascending (entries : List (κ × α)) : Prop := entries.Pairwise fun a b => a.1 < b.1

def insertEntry (key : κ) (value : α) : List (κ × α) → List (κ × α)
  | [] => [(key, value)]
  | entry :: rest =>
    if key < entry.1 then (key, value) :: entry :: rest
    else if key = entry.1 then (key, value) :: rest
    else entry :: insertEntry key value rest

theorem mem_of_mem_insertEntry {key : κ} {value : α} {entries : List (κ × α)} {entry : κ × α}
    (h : entry ∈ insertEntry key value entries) : entry = (key, value) ∨ entry ∈ entries := by
  induction entries with
  | nil => simpa [insertEntry] using h
  | cons first rest ih =>
    simp only [insertEntry] at h
    split at h
    · simpa using h
    · split at h
      · simp at h ⊢
        tauto
      · simp at h ⊢
        tauto

theorem mem_insertEntry {key : κ} {value : α} {entries : List (κ × α)} {entry : κ × α}
    (hentries : Ascending entries) :
    entry ∈ insertEntry key value entries ↔
      entry = (key, value) ∨ (entry ∈ entries ∧ entry.1 ≠ key) := by
  induction entries with
  | nil => simp [insertEntry]
  | cons first rest ih =>
    have hrest := ih hentries.of_cons
    have hfirst : ∀ other ∈ rest, first.1 < other.1 := (List.pairwise_cons.mp hentries).1
    simp only [insertEntry]
    split
    · rename_i hlt
      have hlater : ∀ other ∈ first :: rest, other.1 ≠ key := by
        intro other hother
        rcases List.mem_cons.mp hother with rfl | hother
        · exact hlt.ne'
        · exact (hlt.trans (hfirst other hother)).ne'
      simp only [List.mem_cons (a := entry) (b := (key, value))]
      constructor
      · rintro (h | h)
        · exact .inl h
        · exact .inr ⟨h, hlater entry h⟩
      · rintro (h | h)
        · exact .inl h
        · exact .inr h.1
    · rename_i hlt
      split
      · rename_i heq
        have hlater : ∀ other ∈ rest, other.1 ≠ key := by
          intro other hother
          exact heq ▸ (hfirst other hother).ne'
        simp only [List.mem_cons]
        constructor
        · rintro (h | h)
          · exact .inl h
          · exact .inr ⟨.inr h, hlater entry h⟩
        · rintro (h | ⟨rfl | h, hkey⟩)
          · exact .inl h
          · exact absurd heq.symm hkey
          · exact .inr h
      · rename_i hne
        simp only [List.mem_cons, hrest]
        constructor
        · rintro (rfl | h | h)
          · exact .inr ⟨.inl rfl, fun heq => hne heq.symm⟩
          · exact .inl h
          · exact .inr ⟨.inr h.1, h.2⟩
        · rintro (h | ⟨rfl | h, hkey⟩)
          · exact .inr (.inl h)
          · exact .inl rfl
          · exact .inr (.inr ⟨h, hkey⟩)

theorem ascending_insertEntry {key : κ} {value : α} {entries : List (κ × α)}
    (hentries : Ascending entries) : Ascending (insertEntry key value entries) := by
  induction entries with
  | nil => simp [insertEntry, Ascending]
  | cons first rest ih =>
    have hfirst : ∀ other ∈ rest, first.1 < other.1 := (List.pairwise_cons.mp hentries).1
    simp only [insertEntry]
    split
    · rename_i hlt
      refine List.pairwise_cons.mpr ⟨fun other hother => ?_, hentries⟩
      rcases List.mem_cons.mp hother with rfl | hother
      · exact hlt
      · exact hlt.trans (hfirst other hother)
    · rename_i hlt
      split
      · rename_i heq
        exact List.pairwise_cons.mpr
          ⟨fun other hother => heq ▸ hfirst other hother, hentries.of_cons⟩
      · rename_i hne
        refine List.pairwise_cons.mpr ⟨fun other hother => ?_, ih hentries.of_cons⟩
        rcases mem_of_mem_insertEntry hother with rfl | hother
        · exact lt_of_le_of_ne (not_lt.mp hlt) (fun heq => hne heq.symm)
        · exact hfirst other hother

structure SortedMap (κ α : Type) [LinearOrder κ] where
  entries : List (κ × α)
  ascending : Ascending entries

namespace SortedMap

variable {map : SortedMap κ α} {key : κ} {value : α}

def empty : SortedMap κ α := ⟨[], List.Pairwise.nil⟩

def insert (map : SortedMap κ α) (key : κ) (value : α) : SortedMap κ α :=
  ⟨insertEntry key value map.entries, ascending_insertEntry map.ascending⟩

def contains (map : SortedMap κ α) (key : κ) : Bool := map.entries.any fun entry => entry.1 = key

/-- `entry(key).or_insert(value)`. -/
def orInsert (map : SortedMap κ α) (key : κ) (value : α) : SortedMap κ α :=
  if map.contains key then map else map.insert key value

def values (map : SortedMap κ α) : List α := map.entries.map Prod.snd

def above (map : SortedMap κ α) (key : κ) : List (κ × α) :=
  map.entries.filter fun entry => key < entry.1

/-- The entries from one key to another, both included. -/
def within (map : SortedMap κ α) (first last : κ) : List (κ × α) :=
  map.entries.filter fun entry => first ≤ entry.1 && entry.1 ≤ last

/-- Drops the first entries until no more than `capacity` are left. -/
def keepLast (map : SortedMap κ α) (capacity : Nat) : SortedMap κ α :=
  ⟨map.entries.drop (map.entries.length - capacity),
    map.ascending.sublist (List.drop_sublist _ _)⟩

@[simp] theorem entries_empty : (empty : SortedMap κ α).entries = [] := rfl

theorem mem_insert {entry : κ × α} :
    entry ∈ (map.insert key value).entries ↔
      entry = (key, value) ∨ (entry ∈ map.entries ∧ entry.1 ≠ key) :=
  mem_insertEntry map.ascending

theorem contains_iff : map.contains key = true ↔ ∃ value, (key, value) ∈ map.entries := by
  simp only [contains, List.any_eq_true, decide_eq_true_eq, Prod.exists]
  constructor
  · rintro ⟨_, value, hmem, rfl⟩
    exact ⟨value, hmem⟩
  · rintro ⟨value, hmem⟩
    exact ⟨key, value, hmem, rfl⟩

theorem contains_insert {other : κ} :
    (map.insert key value).contains other = true ↔ other = key ∨ map.contains other = true := by
  simp only [contains_iff, mem_insert, Prod.mk.injEq]
  constructor
  · rintro ⟨found, ⟨rfl, _⟩ | ⟨hmem, _⟩⟩
    · exact .inl rfl
    · exact .inr ⟨found, hmem⟩
  · rintro (rfl | ⟨found, hmem⟩)
    · exact ⟨value, .inl ⟨rfl, rfl⟩⟩
    · by_cases h : other = key
      · exact ⟨value, .inl ⟨h, rfl⟩⟩
      · exact ⟨found, .inr ⟨hmem, h⟩⟩

theorem mem_orInsert {entry : κ × α} :
    entry ∈ (map.orInsert key value).entries ↔
      entry ∈ map.entries ∨ (map.contains key = false ∧ entry = (key, value)) := by
  rw [orInsert]
  split
  · rename_i h
    simp [h]
  · rename_i h
    have habsent : ∀ other ∈ map.entries, other.1 ≠ key := by
      intro other hother heq
      exact h (contains_iff.mpr ⟨other.2, heq ▸ hother⟩)
    rw [mem_insert]
    have hfalse : map.contains key = false := by simpa using h
    constructor
    · rintro (heq | ⟨hmem, _⟩)
      · exact .inr ⟨hfalse, heq⟩
      · exact .inl hmem
    · rintro (hmem | ⟨_, heq⟩)
      · exact .inr ⟨hmem, habsent entry hmem⟩
      · exact .inl heq

theorem value_unique {first second : α} (hfirst : (key, first) ∈ map.entries)
    (hsecond : (key, second) ∈ map.entries) : first = second := by
  have hpairs := map.ascending
  by_contra hne
  have hdiff : (key, first) ≠ (key, second) := fun h => hne (Prod.ext_iff.mp h).2
  rcases List.mem_iff_append.mp hfirst with ⟨before, behind, hentries⟩
  rw [hentries] at hpairs hsecond
  rw [Ascending, List.pairwise_append, List.pairwise_cons] at hpairs
  simp only [List.mem_append, List.mem_cons] at hsecond
  rcases hsecond with hmem | heq | hmem
  · exact lt_irrefl key (hpairs.2.2 _ hmem (key, first) (by simp))
  · exact hdiff heq.symm
  · exact lt_irrefl key (hpairs.2.1.1 _ hmem)

theorem ascending_within {first last : κ} : Ascending (map.within first last) :=
  map.ascending.sublist List.filter_sublist

theorem mem_within {first last : κ} {entry : κ × α} :
    entry ∈ map.within first last ↔ entry ∈ map.entries ∧ first ≤ entry.1 ∧ entry.1 ≤ last := by
  simp [within]

theorem ascending_above (map : SortedMap κ α) (key : κ) : Ascending (map.above key) :=
  map.ascending.sublist List.filter_sublist

theorem mem_above {entry : κ × α} :
    entry ∈ map.above key ↔ entry ∈ map.entries ∧ key < entry.1 := by
  simp [above]

def insertAll (map : SortedMap κ α) (items : List (κ × α)) : SortedMap κ α :=
  items.foldl (fun map item => map.insert item.1 item.2) map

@[simp] theorem insertAll_nil : map.insertAll [] = map := rfl

@[simp] theorem insertAll_cons {item : κ × α} {items : List (κ × α)} :
    map.insertAll (item :: items) = (map.insert item.1 item.2).insertAll items := rfl

theorem mem_insertAll {items : List (κ × α)} (hitems : Ascending items) {entry : κ × α} :
    entry ∈ (map.insertAll items).entries ↔
      entry ∈ items ∨ (entry ∈ map.entries ∧ ∀ item ∈ items, item.1 ≠ entry.1) := by
  induction items generalizing map with
  | nil => simp
  | cons first rest ih =>
    have hlater : ∀ item ∈ rest, first.1 < item.1 := (List.pairwise_cons.mp hitems).1
    rw [insertAll_cons, ih hitems.of_cons, mem_insert]
    simp only [List.mem_cons, forall_eq_or_imp]
    constructor
    · rintro (h | ⟨rfl | h, hrest⟩)
      · exact .inl (.inr h)
      · exact .inl (.inl rfl)
      · exact .inr ⟨h.1, fun heq => h.2 heq.symm, hrest⟩
    · rintro ((rfl | h) | ⟨hmem, hfirst, hrest⟩)
      · exact .inr ⟨.inl rfl, fun item hitem => (hlater item hitem).ne'⟩
      · exact .inl h
      · exact .inr ⟨.inr ⟨hmem, fun heq => hfirst heq.symm⟩, hrest⟩

theorem length_insertEntry_le {entries : List (κ × α)} :
    (insertEntry key value entries).length ≤ entries.length + 1 := by
  induction entries with
  | nil => simp [insertEntry]
  | cons first rest ih =>
    simp only [insertEntry]
    split
    · simp
    · split
      · simp
      · simpa using ih

theorem length_insertAll_le (map : SortedMap κ α) (items : List (κ × α)) :
    (map.insertAll items).entries.length ≤ map.entries.length + items.length := by
  induction items generalizing map with
  | nil => simp
  | cons first rest ih =>
    have hfirst : (map.insert first.1 first.2).entries.length ≤ map.entries.length + 1 :=
      length_insertEntry_le
    rw [insertAll_cons, List.length_cons]
    have hrest := @ih (map.insert first.1 first.2)
    omega

def get? (map : SortedMap κ α) (key : κ) : Option α :=
  (map.entries.find? fun entry => entry.1 = key).map Prod.snd

theorem get?_eq_some_iff : map.get? key = some value ↔ (key, value) ∈ map.entries := by
  constructor
  · intro h
    obtain ⟨entry, hfound, rfl⟩ := Option.map_eq_some_iff.mp h
    have hkey := List.find?_some hfound
    rw [decide_eq_true_eq] at hkey
    rw [← hkey]
    exact List.mem_of_find?_eq_some hfound
  · intro hmem
    have hsome : (map.entries.find? fun entry => entry.1 = key).isSome = true := by
      rw [List.find?_isSome]
      exact ⟨(key, value), hmem, by simp⟩
    obtain ⟨entry, hfound⟩ := Option.isSome_iff_exists.mp hsome
    have hkey := List.find?_some hfound
    rw [decide_eq_true_eq] at hkey
    have hentry := List.mem_of_find?_eq_some hfound
    rw [← hkey] at hmem
    rw [get?, hfound, Option.map_some, value_unique hmem hentry]

@[simp] theorem get?_empty : (empty : SortedMap κ α).get? key = none := rfl

theorem get?_insert {other : κ} :
    (map.insert key value).get? other = if other = key then some value else map.get? other := by
  ext found
  rw [get?_eq_some_iff, mem_insert, Prod.mk.injEq]
  by_cases h : other = key
  · simp [h, eq_comm]
  · simp [h, get?_eq_some_iff]

theorem ascending_map {entries : List (κ × α)} (h : Ascending entries) (f : α → α) :
    Ascending (entries.map fun entry => (entry.1, f entry.2)) :=
  List.pairwise_map.mpr h

/-- `values_mut`. -/
def mapValues (f : α → α) (map : SortedMap κ α) : SortedMap κ α where
  entries := map.entries.map fun entry => (entry.1, f entry.2)
  ascending := ascending_map map.ascending f

theorem get?_mapValues {f : α → α} : (map.mapValues f).get? key = (map.get? key).map f := by
  rw [get?, get?, mapValues, List.find?_map, Option.map_map, Option.map_map]
  rfl

/-- `retain`. -/
def retain (p : α → Bool) (map : SortedMap κ α) : SortedMap κ α where
  entries := map.entries.filter fun entry => p entry.2
  ascending := map.ascending.sublist List.filter_sublist

theorem get?_retain {p : α → Bool} : (map.retain p).get? key = (map.get? key).filter p := by
  ext found
  rw [get?_eq_some_iff, Option.filter_eq_some_iff, get?_eq_some_iff, retain, List.mem_filter]

theorem contains_eq_isSome : map.contains key = (map.get? key).isSome := by
  rw [Bool.eq_iff_iff, contains_iff, Option.isSome_iff_exists]
  simp only [get?_eq_some_iff]

end SortedMap

end Netherwick.Lib
