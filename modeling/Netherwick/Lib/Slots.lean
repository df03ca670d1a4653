import Mathlib.Algebra.GroupWithZero.Nat
import Mathlib.Data.List.FinRange

/-! # Tables of slots

A fixed number of slots, each of which is free or holds an entry. -/

namespace Netherwick.Lib

/-- A table of `n` slots. -/
abbrev Slots (n : Nat) (α : Type) : Type := Fin n → Option α

/-- A table of eight slots has a first one. -/
instance eight_neZero : NeZero 8 := ⟨Nat.succ_ne_zero 7⟩

namespace Slots

variable {n : Nat} {α κ : Type} {s : Slots n α} {p : α → Bool} {key : α → κ}

def empty : Slots n α := fun _ => none

/-- The first entry that satisfies `p`, with its slot. -/
def find (p : α → Bool) (s : Slots n α) : Option (Fin n × α) :=
  (List.finRange n).findSome? fun i => ((s i).filter p).map (i, ·)

/-- The first free slot. -/
def free (s : Slots n α) : Option (Fin n) := (List.finRange n).find? fun i => (s i).isNone

def put (i : Fin n) (a : Option α) (s : Slots n α) : Slots n α := fun j => if j = i then a else s j

/-- Free the slots whose entry does not satisfy `p`. -/
def retain (p : α → Bool) (s : Slots n α) : Slots n α := fun i => (s i).filter p

theorem find_eq_some {i : Fin n} {a : α} (h : s.find p = some (i, a)) : s i = some a ∧ p a = true := by
  obtain ⟨j, -, hj⟩ := List.exists_of_findSome?_eq_some h
  obtain ⟨b, hb, hpair⟩ := Option.map_eq_some_iff.mp hj
  cases hpair
  obtain ⟨hsome, hp⟩ := Option.filter_eq_some_iff.mp hb
  exact ⟨hsome, hp⟩

theorem find_eq_none : s.find p = none ↔ ∀ i a, s i = some a → p a = false := by
  simp only [find, List.findSome?_eq_none_iff, List.mem_finRange, Option.map_eq_none_iff,
    Option.filter_eq_none_iff, true_implies, Bool.not_eq_true]

theorem free_eq_some {i : Fin n} (h : s.free = some i) : s i = none := by
  simpa using List.find?_some h

@[simp] theorem put_self (i : Fin n) (a : Option α) (s : Slots n α) : s.put i a i = a :=
  if_pos rfl

theorem put_of_ne {i j : Fin n} (h : j ≠ i) (a : Option α) (s : Slots n α) : s.put i a j = s j :=
  if_neg h

theorem put_eq_some {i j : Fin n} {o : Option α} {a : α} (h : s.put i o j = some a) :
    j = i ∧ o = some a ∨ j ≠ i ∧ s j = some a := by
  by_cases hij : j = i
  · subst hij
    exact .inl ⟨rfl, (put_self j o s).symm.trans h⟩
  · exact .inr ⟨hij, (put_of_ne hij o s).symm.trans h⟩

theorem retain_eq_some {i : Fin n} {a : α} : s.retain p i = some a ↔ s i = some a ∧ p a = true :=
  Option.filter_eq_some_iff

/-- Entries in different slots have different keys. -/
def Distinct (key : α → κ) (s : Slots n α) : Prop :=
  ∀ i j a b, s i = some a → s j = some b → key a = key b → i = j

theorem distinct_empty : Distinct key (empty : Slots n α) := by rintro _ _ _ _ ⟨⟩

theorem Distinct.mono {s' : Slots n α} (h : Distinct key s)
    (hsub : ∀ i a, s' i = some a → ∃ a', s i = some a' ∧ key a' = key a) : Distinct key s' := by
  intro i j a b ha hb hkey
  obtain ⟨a', ha', hkeya⟩ := hsub i a ha
  obtain ⟨b', hb', hkeyb⟩ := hsub j b hb
  exact h i j a' b' ha' hb' (by rw [hkeya, hkeyb, hkey])

theorem Distinct.put {i : Fin n} {a : α} (h : Distinct key s)
    (hfresh : ∀ j b, s j = some b → key b = key a → j = i) : Distinct key (s.put i (some a)) := by
  intro j k b c hb hc hkey
  rcases put_eq_some hb with ⟨rfl, hb'⟩ | ⟨-, hb'⟩
  · cases hb'
    rcases put_eq_some hc with ⟨rfl, -⟩ | ⟨-, hc'⟩
    · rfl
    · exact (hfresh k c hc' hkey.symm).symm
  · rcases put_eq_some hc with ⟨rfl, hc'⟩ | ⟨-, hc'⟩
    · cases hc'
      exact hfresh j b hb' hkey
    · exact h j k b c hb' hc' hkey

end Slots

end Netherwick.Lib
