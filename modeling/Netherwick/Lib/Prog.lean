import Mathlib.Logic.Relation

/-! # Fallible programs over a state

A program returns a value or an error; in both cases it leaves a state behind, as code that
mutates in place and leaves early does. `Walks` is the rule base for programs whose every effect
is a chain of steps of one relation. -/

namespace Netherwick.Lib

/-- An early exit keeps the state reached so far. -/
def Prog (σ ε α : Type) : Type := σ → Except ε α × σ

namespace Prog

variable {σ ε α β : Type}

protected def pure (a : α) : Prog σ ε α := fun s => (.ok a, s)

protected def bind (m : Prog σ ε α) (k : α → Prog σ ε β) : Prog σ ε β := fun s =>
  match m s with
  | (.ok a, s') => k a s'
  | (.error e, s') => (.error e, s')

instance : Monad (Prog σ ε) where
  pure := Prog.pure
  bind := Prog.bind

/-- Read the state. -/
def get : Prog σ ε σ := fun s => (.ok s, s)

/-- An effect that cannot fail. -/
def act (f : σ → σ) : Prog σ ε Unit := fun s => (.ok (), f s)

def fail (e : ε) : Prog σ ε α := fun s => (.error e, s)

/-- A computation that does not touch the state. -/
def check (result : Except ε α) : Prog σ ε α := fun s => (result, s)

/-- Do `m` only under the condition. -/
def when (c : Prop) [Decidable c] (m : Prog σ ε Unit) : Prog σ ε Unit :=
  if c then m else Prog.pure ()

/-- The state a program leaves behind, whether or not it failed. -/
def exec (m : Prog σ ε α) (s : σ) : σ := (m s).2

/-- Did the program end without an error? -/
def succeeds (m : Prog σ ε α) (s : σ) : Bool := (m s).1.isOk

/-- Run `m`, recovering from an error with `handler`. -/
def handle (m : Prog σ ε Unit) (handler : ε → σ → σ) (s : σ) : σ :=
  match m s with
  | (.ok _, s') => s'
  | (.error e, s') => handler e s'

@[simp] theorem pure_apply (a : α) (s : σ) : (pure a : Prog σ ε α) s = (.ok a, s) := rfl

@[simp] theorem act_apply (f : σ → σ) (s : σ) : (act f : Prog σ ε Unit) s = (.ok (), f s) := rfl

@[simp] theorem fail_apply (e : ε) (s : σ) : (fail e : Prog σ ε α) s = (.error e, s) := rfl

@[simp] theorem get_apply (s : σ) : (get : Prog σ ε σ) s = (.ok s, s) := rfl

@[simp] theorem exec_act (f : σ → σ) (s : σ) : (act f : Prog σ ε Unit).exec s = f s := rfl

@[simp] theorem check_ok_bind (a : α) (k : α → Prog σ ε β) (s : σ) :
    ((check (.ok a) : Prog σ ε α) >>= k) s = k a s := rfl

@[simp] theorem check_error_bind (e : ε) (k : α → Prog σ ε β) (s : σ) :
    ((check (.error e) : Prog σ ε α) >>= k) s = (.error e, s) := rfl

theorem bind_apply (m : Prog σ ε α) (k : α → Prog σ ε β) (s : σ) :
    (m >>= k) s = match m s with
      | (.ok a, s') => k a s'
      | (.error e, s') => (.error e, s') := rfl

theorem bind_ok {m : Prog σ ε α} {k : α → Prog σ ε β} {s s' : σ} {a : α}
    (h : m s = (.ok a, s')) : (m >>= k) s = k a s' := by
  rw [bind_apply, h]

theorem bind_error {m : Prog σ ε α} {k : α → Prog σ ε β} {s s' : σ} {e : ε}
    (h : m s = (.error e, s')) : (m >>= k) s = (.error e, s') := by
  rw [bind_apply, h]

@[simp] theorem act_bind (f : σ → σ) (k : Unit → Prog σ ε β) (s : σ) :
    ((act f : Prog σ ε Unit) >>= k) s = k () (f s) := rfl

@[simp] theorem get_bind (k : σ → Prog σ ε β) (s : σ) :
    ((get : Prog σ ε σ) >>= k) s = k s s := rfl

@[simp] theorem fail_bind (e : ε) (k : α → Prog σ ε β) (s : σ) :
    ((fail e : Prog σ ε α) >>= k) s = (.error e, s) := rfl

@[simp] theorem pure_bind' (a : α) (k : α → Prog σ ε β) (s : σ) :
    ((pure a : Prog σ ε α) >>= k) s = k a s := rfl

theorem bind_eq_ok {m : Prog σ ε α} {k : α → Prog σ ε β} {s s'' : σ} {b : β} :
    (m >>= k) s = (.ok b, s'') ↔ ∃ a s', m s = (.ok a, s') ∧ k a s' = (.ok b, s'') := by
  rw [bind_apply]
  rcases hm : m s with ⟨e | a, s'⟩
  · simp
  · constructor
    · exact fun h => ⟨a, s', rfl, h⟩
    · rintro ⟨_, _, h, hk⟩
      cases h
      exact hk

/-- The program ends in `Q`, or with an error in `E`. -/
def wp (m : Prog σ ε α) (Q : α → σ → Prop) (E : ε → σ → Prop) (s : σ) : Prop :=
  match m s with
  | (.ok a, s') => Q a s'
  | (.error e, s') => E e s'

section WeakestPrecondition

variable {m : Prog σ ε α} {k : α → Prog σ ε β} {Q Q' : α → σ → Prop} {S : β → σ → Prop}
  {E E' : ε → σ → Prop} {s : σ}

theorem wp_bind : (m >>= k).wp S E s ↔ m.wp (fun a s' => (k a).wp S E s') E s := by
  unfold wp
  rw [bind_apply]
  rcases m s with ⟨e | a, s'⟩ <;> rfl

theorem wp_act_bind {f : σ → σ} {k : Unit → Prog σ ε β} :
    ((act f : Prog σ ε Unit) >>= k).wp S E s ↔ (k ()).wp S E (f s) := Iff.rfl

theorem wp.imp (h : m.wp Q E s) (hq : ∀ a s', Q a s' → Q' a s') (he : ∀ e s', E e s' → E' e s') :
    m.wp Q' E' s := by
  unfold wp at h ⊢
  rcases hm : m s with ⟨e | a, s'⟩
  · rw [hm] at h
    exact he e s' h
  · rw [hm] at h
    exact hq a s' h

theorem exec_bind : (m >>= k).exec s = match m s with
    | (.ok a, s') => (k a).exec s'
    | (.error _, s') => s' := by
  unfold exec
  rw [bind_apply]
  rcases m s with ⟨e | a, s'⟩ <;> rfl

theorem exec_then_pure {b : β} : (m >>= fun _ => Pure.pure b).exec s = m.exec s := by
  rw [exec_bind]
  unfold exec
  rcases m s with ⟨e | a, s'⟩ <;> rfl

theorem wp.handle {m : Prog σ ε Unit} {Q : Unit → σ → Prop} {handler : ε → σ → σ} {T : σ → Prop}
    (h : m.wp Q E s) (hq : ∀ s', Q () s' → T s') (he : ∀ e s', E e s' → T (handler e s')) :
    T (m.handle handler s) := by
  unfold wp at h
  unfold Prog.handle
  rcases hm : m s with ⟨e | a, s'⟩
  · rw [hm] at h
    exact he e s' h
  · rw [hm] at h
    exact hq s' h

/-- Whichever way the program ends, it has only moved along `R`. -/
def Stays (R : σ → σ → Prop) (m : Prog σ ε α) : Prop := ∀ s, R s (m s).2

variable {R : σ → σ → Prop}

theorem Stays.wp (h : Stays R m) (hq : ∀ a s', R s s' → Q a s') (he : ∀ e s', R s s' → E e s') :
    m.wp Q E s := by
  have hs := h s
  unfold Prog.wp
  rcases hm : m s with ⟨e | a, s'⟩
  · rw [hm] at hs
    exact he e s' hs
  · rw [hm] at hs
    exact hq a s' hs

theorem Stays.pure (hrefl : ∀ s, R s s) (a : α) : Stays R (Pure.pure a : Prog σ ε α) := hrefl

theorem Stays.fail (hrefl : ∀ s, R s s) (e : ε) : Stays R (fail e : Prog σ ε α) := hrefl

theorem Stays.act {f : σ → σ} (h : ∀ s, R s (f s)) : Stays R (act f : Prog σ ε Unit) := h

theorem Stays.get (hrefl : ∀ s, R s s) : Stays R (get : Prog σ ε σ) := hrefl

theorem Stays.bind (htrans : ∀ a b c, R a b → R b c → R a c) (hm : Stays R m)
    (hk : ∀ a, Stays R (k a)) : Stays R (m >>= k) := by
  intro s
  have hs := hm s
  rw [bind_apply]
  rcases hms : m s with ⟨e | a, s'⟩
  · rw [hms] at hs
    exact hs
  · rw [hms] at hs
    exact htrans _ _ _ hs (hk a s')

theorem Stays.ite {c : Prop} [Decidable c] {m₁ m₂ : Prog σ ε α} (h₁ : Stays R m₁)
    (h₂ : Stays R m₂) : Stays R (if c then m₁ else m₂) := by
  by_cases hc : c
  · rwa [if_pos hc]
  · rwa [if_neg hc]

theorem Stays.when (hrefl : ∀ s, R s s) {c : Prop} [Decidable c] {m : Prog σ ε Unit}
    (h : Stays R m) : Stays R (Prog.when c m) :=
  h.ite (.pure hrefl ())

end WeakestPrecondition

/-- From `s` the program moves along `R`; a normal end is in `Q`, and an error end is followed by
`halt`, the repair that the handler begins with. -/
def Walks (R : σ → σ → Prop) (halt : ε → σ → σ) (s : σ) (m : Prog σ ε α) (Q : α → σ → Prop) :
    Prop :=
  m.wp (fun a s' => R s s' ∧ Q a s') (fun e s' => R s (halt e s')) s

section Walks

variable {R R' : σ → σ → Prop} {halt : ε → σ → σ} {s : σ} {m : Prog σ ε α}
  {k : α → Prog σ ε β} {Q Q' : α → σ → Prop} {S : β → σ → Prop}

theorem Walks.pure (hrefl : ∀ s, R s s) {a : α} (hq : Q a s) :
    Walks R halt s (Pure.pure a : Prog σ ε α) Q :=
  ⟨hrefl s, hq⟩

theorem Walks.act {f : σ → σ} {Q : Unit → σ → Prop} (hr : R s (f s)) (hq : Q () (f s)) :
    Walks R halt s (act f : Prog σ ε Unit) Q :=
  ⟨hr, hq⟩

theorem Walks.bind (htrans : ∀ a b c, R a b → R b c → R a c) (hm : Walks R halt s m Q)
    (hk : ∀ a s', R s s' → Q a s' → Walks R halt s' (k a) S) : Walks R halt s (m >>= k) S := by
  refine wp_bind.mpr (wp.imp hm (fun a s' h => ?_) fun _ _ h => h)
  exact (hk a s' h.1 h.2).imp (fun _ _ h' => ⟨htrans _ _ _ h.1 h'.1, h'.2⟩)
    fun _ _ h' => htrans _ _ _ h.1 h'

theorem Walks.get_bind {k : σ → Prog σ ε β} (h : Walks R halt s (k s) S) :
    Walks R halt s ((get : Prog σ ε σ) >>= k) S := h

theorem Walks.act_bind (htrans : ∀ a b c, R a b → R b c → R a c) {f : σ → σ}
    {k : Unit → Prog σ ε β} (hr : R s (f s)) (h : Walks R halt (f s) (k ()) S) :
    Walks R halt s ((Prog.act f : Prog σ ε Unit) >>= k) S :=
  Walks.bind htrans (Q := fun _ s' => s' = f s) (.act hr rfl) fun _ _ _ hs' => hs' ▸ h

theorem Walks.ite {c : Prop} [Decidable c] {m₁ m₂ : Prog σ ε α}
    (h₁ : c → Walks R halt s m₁ Q) (h₂ : ¬ c → Walks R halt s m₂ Q) :
    Walks R halt s (if c then m₁ else m₂) Q := by
  by_cases hc : c
  · rw [if_pos hc]; exact h₁ hc
  · rw [if_neg hc]; exact h₂ hc

theorem Walks.when (hrefl : ∀ s, R s s) {c : Prop} [Decidable c] {m : Prog σ ε Unit}
    {Q : Unit → σ → Prop} (h₁ : c → Walks R halt s m Q) (h₂ : ¬ c → Q () s) :
    Walks R halt s (Prog.when c m) Q :=
  Walks.ite h₁ fun hc => Walks.pure hrefl (h₂ hc)

theorem Walks.imp (h : Walks R halt s m Q) (hq : ∀ a s', R s s' → Q a s' → Q' a s') :
    Walks R halt s m Q' :=
  wp.imp h (fun a s' h' => ⟨h'.1, hq a s' h'.1 h'.2⟩) fun _ _ h' => h'

theorem Walks.along (h : Walks R halt s m Q) (hr : ∀ s s', R s s' → R' s s') :
    Walks R' halt s m Q :=
  wp.imp h (fun _ _ h' => ⟨hr _ _ h'.1, h'.2⟩) fun _ _ h' => hr _ _ h'

theorem Walks.and_stays {T : σ → σ → Prop} (h : Walks R halt s m Q) (hs : Stays T m) :
    Walks R halt s m fun a s' => Q a s' ∧ T s s' := by
  have hend := hs s
  unfold Walks Prog.wp at h ⊢
  rcases hm : m s with ⟨e | a, s'⟩
  · rw [hm] at h
    exact h
  · rw [hm] at h hend
    exact ⟨h.1, h.2, hend⟩

theorem Walks.from_start (htrans : ∀ a b c, R a b → R b c → R a c) {s₀ : σ} (hr : R s s₀)
    (h : Walks R halt s₀ m Q) :
    m.wp (fun a s' => R s s' ∧ Q a s') (fun e s' => R s (halt e s')) s₀ :=
  wp.imp h (fun _ _ h' => ⟨htrans _ _ _ hr h'.1, h'.2⟩) fun _ _ h' => htrans _ _ _ hr h'

end Walks

end Prog

end Netherwick.Lib
