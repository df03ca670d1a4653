import Mathlib.Data.List.Basic

/-! # Bounded double-ended queues

A push into a full queue changes nothing. The bound is part of the type. -/

namespace Netherwick.Lib

structure Deque (α : Type) (capacity : Nat) where
  items : List α
  bounded : items.length ≤ capacity

namespace Deque

variable {α : Type} {n : Nat}

def empty : Deque α n := ⟨[], Nat.zero_le n⟩

def length (q : Deque α n) : Nat := q.items.length

def isEmpty (q : Deque α n) : Bool := q.items.isEmpty

def isFull (q : Deque α n) : Bool := n ≤ q.items.length

def pushBack (q : Deque α n) (x : α) : Deque α n :=
  if h : q.items.length < n then
    ⟨q.items ++ [x], by rw [List.length_append]; exact h⟩
  else q

def pushFront (q : Deque α n) (x : α) : Deque α n :=
  if h : q.items.length < n then ⟨x :: q.items, h⟩ else q

def popFront (q : Deque α n) : Option (α × Deque α n) :=
  match q with
  | ⟨[], _⟩ => none
  | ⟨x :: xs, h⟩ => some (x, ⟨xs, Nat.le_of_succ_le h⟩)

@[simp] theorem items_empty : (empty : Deque α n).items = [] := rfl

theorem items_pushBack (q : Deque α n) (x : α) :
    (q.pushBack x).items = if q.isFull then q.items else q.items ++ [x] := by
  unfold pushBack isFull
  by_cases h : q.items.length < n
  · rw [dif_pos h, if_neg (by simpa using h)]
  · rw [dif_neg h, if_pos (by simpa using h)]

theorem items_pushFront (q : Deque α n) (x : α) :
    (q.pushFront x).items = if q.isFull then q.items else x :: q.items := by
  unfold pushFront isFull
  by_cases h : q.items.length < n
  · rw [dif_pos h, if_neg (by simpa using h)]
  · rw [dif_neg h, if_pos (by simpa using h)]

theorem popFront_eq_none {q : Deque α n} : q.popFront = none ↔ q.items = [] := by
  rcases q with ⟨_ | ⟨x, xs⟩, h⟩ <;> simp [popFront]

theorem popFront_eq_some {q r : Deque α n} {x : α} :
    q.popFront = some (x, r) ↔ q.items = x :: r.items := by
  rcases q with ⟨_ | ⟨y, ys⟩, h⟩
  · simp [popFront]
  · rcases r with ⟨rs, hr⟩
    simp [popFront]

/-- Pop the front element and push it back when it passes the test, once for each round:
the rotation by which a queue without removal in the middle is filtered. -/
def rotate (keep : α → Bool) : Nat → Deque α n → Deque α n
  | 0, q => q
  | rounds + 1, q => match q.popFront with
      | none => q
      | some (x, rest) => rotate keep rounds (if keep x then rest.pushBack x else rest)

private theorem items_rotate (keep : α → Bool) :
    ∀ (rounds : Nat) (q : Deque α n) (front back : List α),
      q.items = front ++ back → front.length = rounds →
        (q.rotate keep rounds).items = back ++ front.filter keep := by
  intro rounds
  induction rounds with
  | zero =>
    intro q front back hq hlen
    rw [List.length_eq_zero_iff.mp hlen] at hq ⊢
    simpa [rotate] using hq
  | succ rounds ih =>
    intro q front back hq hlen
    obtain ⟨x, rest, rfl⟩ := List.exists_cons_of_length_eq_add_one hlen
    rcases q with ⟨items, hbound⟩
    simp only [List.cons_append] at hq
    subst hq
    have hrest : rest.length = rounds := by simpa using hlen
    have hroom : (rest ++ back).length < n := by
      simp only [List.length_cons, List.length_append] at hbound ⊢
      omega
    simp only [rotate, popFront]
    by_cases hk : keep x = true
    · rw [if_pos hk, ih _ rest (back ++ [x]) _ hrest]
      · simp [hk]
      · rw [items_pushBack, if_neg (by simpa [isFull] using hroom), List.append_assoc]
    · rw [if_neg hk, ih _ rest back rfl hrest]
      simp [hk]

theorem items_rotate_length (keep : α → Bool) (q : Deque α n) :
    (q.rotate keep q.length).items = q.items.filter keep := by
  simpa using items_rotate keep q.length q q.items [] (by simp) rfl

end Deque

end Netherwick.Lib
