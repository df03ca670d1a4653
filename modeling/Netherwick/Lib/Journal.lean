import Mathlib.Data.List.Basic

/-! # Programs whose writes are kept in order

A program reads a state, makes writes one after the other and ends with a value or an error. The
writes are kept apart from the answer, so that a run that stops after any number of them can be
told from the program alone. -/

namespace Netherwick.Lib

/-- A state that changes by one write at a time. -/
class Writable (σ : Type) (ω : outParam Type) where
  write : σ → ω → σ

section Writes

variable {σ ω : Type} [Writable σ ω]

def written (s : σ) (writes : List ω) : σ := writes.foldl Writable.write s

@[simp] theorem written_nil (s : σ) : written s ([] : List ω) = s := rfl

@[simp] theorem written_cons (s : σ) (w : ω) (ws : List ω) :
    written s (w :: ws) = written (Writable.write s w) ws := rfl

@[simp] theorem written_append (s : σ) (ws vs : List ω) :
    written s (ws ++ vs) = written (written s ws) vs := by
  simp [written]

theorem written_induction (Inv : σ → Prop) {ws : List ω}
    (hwrite : ∀ s, Inv s → ∀ w ∈ ws, Inv (Writable.write s w)) {s : σ} (hs : Inv s) :
    Inv (written s ws) := by
  induction ws generalizing s with
  | nil => exact hs
  | cons w ws ih =>
    have hfirst : Inv (Writable.write s w) := hwrite s hs w List.mem_cons_self
    apply ih
    · intro t ht v hv
      exact hwrite t ht v (List.mem_cons_of_mem _ hv)
    · exact hfirst

end Writes

/-- The writes that a program makes from a state, and its answer. -/
def Journaled (σ ω ε α : Type) : Type := σ → List ω × Except ε α

namespace Journaled

section Basic

variable {σ ω ε α : Type} {m : Journaled σ ω ε α} {s : σ} {P Q : ω → Prop}

/-- Look at the state. -/
def get : Journaled σ ω ε σ := fun s => ([], .ok s)

def emit (w : ω) : Journaled σ ω ε Unit := fun _ => ([w], .ok ())

def fail (e : ε) : Journaled σ ω ε α := fun _ => ([], .error e)

/-- A computation without writes. -/
def check (result : Except ε α) : Journaled σ ω ε α := fun _ => ([], result)

/-- The program without the value of its answer. -/
def discard (m : Journaled σ ω ε α) : Journaled σ ω ε Unit := fun s =>
  ((m s).1, (m s).2.map fun _ => ())

def answer (m : Journaled σ ω ε α) (s : σ) : Except ε α := (m s).2

@[simp] theorem emit_apply (w : ω) : (emit w : Journaled σ ω ε Unit) s = ([w], .ok ()) := rfl

@[simp] theorem fail_apply (e : ε) : (fail e : Journaled σ ω ε α) s = ([], .error e) := rfl

theorem discard_ok {a : α} (h : m.answer s = .ok a) : m.discard.answer s = .ok () := by
  unfold answer at h
  unfold answer discard
  rw [h]
  rfl

theorem ok_of_discard (h : m.discard.answer s = .ok ()) : ∃ a, m.answer s = .ok a := by
  unfold answer discard at h
  cases hanswer : (m s).2 with
  | ok a => exact ⟨a, hanswer⟩
  | error e =>
    rw [hanswer] at h
    cases h

/-- Every write of the program, from any state, is of a kind. -/
def Only (P : ω → Prop) (m : Journaled σ ω ε α) : Prop := ∀ s, ∀ w ∈ (m s).1, P w

theorem only_emit {w : ω} (hw : P w) : (emit w : Journaled σ ω ε Unit).Only P := by
  intro s v hv
  rwa [List.mem_singleton.mp hv]

theorem only_fail (e : ε) : (fail e : Journaled σ ω ε α).Only P := by
  intro s w hw
  cases hw

end Basic

variable {σ ω ε α β : Type} [Writable σ ω]

protected def pure (a : α) : Journaled σ ω ε α := fun _ => ([], .ok a)

/-- The second program starts from the state that the first one wrote. -/
protected def bind (m : Journaled σ ω ε α) (k : α → Journaled σ ω ε β) : Journaled σ ω ε β :=
  fun s =>
    match m s with
    | (ws, .ok a) => (ws ++ (k a (written s ws)).1, (k a (written s ws)).2)
    | (ws, .error e) => (ws, .error e)

instance : Monad (Journaled σ ω ε) where
  pure := Journaled.pure
  bind := Journaled.bind

/-- The state after all the writes. -/
def settle (m : Journaled σ ω ε α) (s : σ) : σ := written s (m s).1

/-- The state that a run leaves which stops after `count` writes. -/
def crash (m : Journaled σ ω ε α) (count : Nat) (s : σ) : σ := written s ((m s).1.take count)

section Rules

variable {m : Journaled σ ω ε α} {k : α → Journaled σ ω ε β} {s : σ}

@[simp] theorem pure_apply (a : α) : (pure a : Journaled σ ω ε α) s = ([], .ok a) := rfl

theorem bind_ok {ws : List ω} {a : α} (h : m s = (ws, .ok a)) :
    (m >>= k) s = (ws ++ (k a (written s ws)).1, (k a (written s ws)).2) := by
  change Journaled.bind m k s = _
  unfold Journaled.bind
  rw [h]

theorem bind_error {ws : List ω} {e : ε} (h : m s = (ws, .error e)) :
    (m >>= k) s = (ws, .error e) := by
  change Journaled.bind m k s = _
  unfold Journaled.bind
  rw [h]

@[simp] theorem pure_bind' (a : α) : ((pure a : Journaled σ ω ε α) >>= k) s = k a s := by
  rw [bind_ok (pure_apply a)]
  rfl

@[simp] theorem get_bind {k : σ → Journaled σ ω ε β} :
    ((get : Journaled σ ω ε σ) >>= k) s = k s s := rfl

@[simp] theorem fail_bind (e : ε) :
    ((fail e : Journaled σ ω ε α) >>= k) s = ([], .error e) := rfl

@[simp] theorem emit_bind {k : Unit → Journaled σ ω ε β} (w : ω) :
    ((emit w : Journaled σ ω ε Unit) >>= k) s =
      (w :: (k () (Writable.write s w)).1, (k () (Writable.write s w)).2) := rfl

@[simp] theorem check_ok_bind (a : α) :
    ((check (.ok a) : Journaled σ ω ε α) >>= k) s = k a s := rfl

theorem check_bind_refused {check' : Except ε α} (h : ∀ a, check' ≠ .ok a) :
    ∃ e, ((check check' : Journaled σ ω ε α) >>= k) s = ([], .error e) := by
  cases check' with
  | ok a => exact absurd rfl (h a)
  | error e => exact ⟨e, rfl⟩

@[simp] theorem check_error_bind (e : ε) :
    ((check (.error e) : Journaled σ ω ε α) >>= k) s = ([], .error e) := rfl

theorem settle_bind {a : α} (h : m.answer s = .ok a) :
    (m >>= k).settle s = (k a).settle (m.settle s) := by
  have hpair : m s = ((m s).1, .ok a) := Prod.ext rfl h
  unfold settle
  rw [bind_ok hpair, written_append]

theorem settle_bind_error {e : ε} (h : m.answer s = .error e) :
    (m >>= k).settle s = m.settle s := by
  have hpair : m s = ((m s).1, .error e) := Prod.ext rfl h
  unfold settle
  rw [bind_error hpair]

theorem answer_bind {a : α} (h : m.answer s = .ok a) :
    (m >>= k).answer s = (k a).answer (m.settle s) := by
  have hpair : m s = ((m s).1, .ok a) := Prod.ext rfl h
  unfold answer settle
  rw [bind_ok hpair]

theorem ok_of_bind {b : β} (h : (m >>= k).answer s = .ok b) : ∃ a, m.answer s = .ok a := by
  cases hm : m.answer s with
  | ok a => exact ⟨a, rfl⟩
  | error e =>
    have hpair : m s = ((m s).1, .error e) := Prod.ext rfl hm
    unfold answer at h
    rw [bind_error hpair] at h
    cases h

theorem settle_get_bind {k : σ → Journaled σ ω ε β} :
    ((get : Journaled σ ω ε σ) >>= k).settle s = (k s).settle s := rfl

theorem answer_get_bind {k : σ → Journaled σ ω ε β} :
    ((get : Journaled σ ω ε σ) >>= k).answer s = (k s).answer s := rfl

theorem settle_check_ok_bind (a : α) :
    ((check (.ok a) : Journaled σ ω ε α) >>= k).settle s = (k a).settle s := rfl

theorem answer_check_ok_bind (a : α) :
    ((check (.ok a) : Journaled σ ω ε α) >>= k).answer s = (k a).answer s := rfl

theorem answer_check_bind {result : Except ε α} {b : β}
    (h : ((check result : Journaled σ ω ε α) >>= k).answer s = .ok b) :
    ∃ a, result = .ok a ∧ (k a).answer s = .ok b ∧
      ((check result : Journaled σ ω ε α) >>= k).settle s = (k a).settle s := by
  cases result with
  | ok a => exact ⟨a, rfl, h, rfl⟩
  | error e => cases h

@[simp] theorem settle_discard : m.discard.settle s = m.settle s := rfl

@[simp] theorem crash_discard (count : Nat) : m.discard.crash count s = m.crash count s := rfl

theorem crash_of_length_le {count : Nat} (h : (m s).1.length ≤ count) :
    m.crash count s = m.settle s := by
  unfold crash settle
  rw [List.take_of_length_le h]

end Rules

section Only

variable {P : ω → Prop} {m : Journaled σ ω ε α} {k : α → Journaled σ ω ε β}

theorem only_bind (hm : m.Only P) (hk : ∀ a, (k a).Only P) : (m >>= k).Only P := by
  intro s w hw
  rcases hms : m s with ⟨ws, e | a⟩
  · rw [bind_error hms] at hw
    apply hm s
    rwa [hms]
  · rw [bind_ok hms, List.mem_append] at hw
    obtain hfirst | hrest := hw
    · apply hm s
      rwa [hms]
    · exact hk a _ w hrest

theorem only_get_bind {k : σ → Journaled σ ω ε β} (hk : ∀ s, (k s).Only P) :
    ((get : Journaled σ ω ε σ) >>= k).Only P := fun s => hk s s

theorem only_check_bind {result : Except ε α} (hk : ∀ a, result = .ok a → (k a).Only P) :
    ((check result : Journaled σ ω ε α) >>= k).Only P := by
  cases result with
  | ok a => exact hk a rfl
  | error e =>
    intro s w hw
    cases hw

theorem only_emit_bind {w : ω} {k : Unit → Journaled σ ω ε β} (hw : P w) (hk : (k ()).Only P) :
    ((emit w : Journaled σ ω ε Unit) >>= k).Only P := by
  intro s v hv
  rw [emit_bind, List.mem_cons] at hv
  obtain rfl | hv := hv
  · exact hw
  · exact hk _ v hv

theorem only_pure (a : α) : (pure a : Journaled σ ω ε α).Only P := by
  intro s w hw
  cases hw

theorem Only.crash (h : m.Only P) (Inv : σ → Prop)
    (hwrite : ∀ s, Inv s → ∀ w, P w → Inv (Writable.write s w)) {s : σ} (hs : Inv s)
    (count : Nat) : Inv (m.crash count s) := by
  apply written_induction Inv _ hs
  intro t ht w hw
  exact hwrite t ht w (h s w (List.mem_of_mem_take hw))

theorem Only.settle (h : m.Only P) (Inv : σ → Prop)
    (hwrite : ∀ s, Inv s → ∀ w, P w → Inv (Writable.write s w)) {s : σ} (hs : Inv s) :
    Inv (m.settle s) := by
  rw [← crash_of_length_le (Nat.le_refl _)]
  exact h.crash Inv hwrite hs _

end Only

end Journaled

end Netherwick.Lib
