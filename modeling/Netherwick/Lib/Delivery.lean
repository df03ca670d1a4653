import Netherwick.Lib.Growth
import Mathlib.Algebra.GroupWithZero.Nat

/-! # Computations that do not panic

`Gives f Q` says that what `f` returns, in whatever world and whatever it draws, has `Q`.
`Delivers x Q` says that `x`, a `StateT ρ Option` computation, returns something whatever it draws,
and `Q` of it. `DeliversFrom f s Q` says the same of `f` run in a world `s`, with the world it ends
in. A list of computations delivers when each takes no more than its part of what the world has to
give. -/

namespace Netherwick.Lib

section Gives

variable {σ ρ α β : Type}

def Gives (f : StateT σ (StateT ρ Option) α) (Q : α → Prop) : Prop :=
  ∀ s, Yields (f.run s) fun result => Q result.1

namespace Gives

variable {f : StateT σ (StateT ρ Option) α} {P Q : α → Prop}

theorem pure {a : α} (h : Q a) : Gives (pure a : StateT σ (StateT ρ Option) α) Q :=
  fun _ => Yields.pure h

theorem any : Gives f fun _ => True := fun _ => Yields.any.imp fun _ _ => trivial

theorem imp (h : Gives f P) (hPQ : ∀ a, P a → Q a) : Gives f Q :=
  fun s => (h s).imp fun result => hPQ result.1

theorem bind {g : α → StateT σ (StateT ρ Option) β} {Q : β → Prop} (hf : Gives f P)
    (hg : ∀ a, P a → Gives (g a) Q) : Gives (f >>= g) Q := by
  intro s
  rw [StateT.run_bind]
  exact Yields.bind (hf s) fun middle hmiddle => hg middle.1 hmiddle middle.2

theorem ite {c : Prop} [Decidable c] {g : StateT σ (StateT ρ Option) α} (hf : c → Gives f Q)
    (hg : ¬c → Gives g Q) : Gives (if c then f else g) Q := by
  by_cases h : c
  · simpa [h] using hf h
  · simpa [h] using hg h

theorem draw {x : StateT ρ Option α} (hx : Yields x Q) :
    Gives (liftM x : StateT σ (StateT ρ Option) α) Q := by
  intro s
  have hrun : (liftM x : StateT σ (StateT ρ Option) α).run s = x >>= fun a => Pure.pure (a, s) := rfl
  rw [hrun]
  exact Yields.bind hx fun a ha => Yields.pure ha

theorem lift {o : Option α} (h : ∀ a, o = some a → Q a) :
    Gives (liftM o : StateT σ (StateT ρ Option) α) Q :=
  draw (Yields.lift h)

theorem mapM {f : α → StateT σ (StateT ρ Option) β} {rel : α → β → Prop} {l : List α}
    (h : ∀ a ∈ l, Gives (f a) (rel a)) : Gives (l.mapM f) (List.Forall₂ rel l) := by
  induction l with
  | nil => exact Gives.pure .nil
  | cons first rest ih =>
    rw [List.mapM_cons]
    refine (h first List.mem_cons_self).bind fun b hb => ?_
    refine (ih fun a ha => h a (List.mem_cons_of_mem _ ha)).bind fun bs hbs => ?_
    exact Gives.pure (.cons hb hbs)

theorem length_mapM (f : α → StateT σ (StateT ρ Option) β) (l : List α) :
    Gives (l.mapM f) fun bs => bs.length = l.length := by
  have hrelated : Gives (l.mapM f) (List.Forall₂ (fun _ _ => True) l) := mapM fun _ _ => any
  exact hrelated.imp fun bs hbs => hbs.length_eq.symm

end Gives

end Gives

section Delivers

variable {ρ α β : Type}

def Delivers (x : StateT ρ Option α) (Q : α → Prop) : Prop :=
  ∀ r, ∃ a r', x.run r = some (a, r') ∧ Q a

namespace Delivers

variable {x : StateT ρ Option α} {P Q : α → Prop}

theorem pure {a : α} (h : Q a) : Delivers (pure a : StateT ρ Option α) Q :=
  fun r => ⟨a, r, rfl, h⟩

theorem imp (h : Delivers x P) (hPQ : ∀ a, P a → Q a) : Delivers x Q := by
  intro r
  obtain ⟨a, r', hrun, ha⟩ := h r
  exact ⟨a, r', hrun, hPQ a ha⟩

theorem bind {g : α → StateT ρ Option β} {Q : β → Prop} (hx : Delivers x P)
    (hg : ∀ a, P a → Delivers (g a) Q) : Delivers (x >>= g) Q := by
  intro r
  obtain ⟨a, middle, hfirst, ha⟩ := hx r
  obtain ⟨b, r', hsecond, hb⟩ := hg a ha middle
  refine ⟨b, r', ?_, hb⟩
  rw [StateT.run_bind, hfirst]
  exact hsecond

theorem ite {c : Prop} [Decidable c] {y : StateT ρ Option α} (hx : c → Delivers x Q)
    (hy : ¬c → Delivers y Q) : Delivers (if c then x else y) Q := by
  by_cases h : c
  · simpa [h] using hx h
  · simpa [h] using hy h

theorem lift {a : α} {o : Option α} (ho : o = some a) (h : Q a) :
    Delivers (liftM o : StateT ρ Option α) Q := by
  subst ho
  exact fun r => ⟨a, r, rfl, h⟩

theorem mapM {f : α → StateT ρ Option β} {l : List α} (h : ∀ a ∈ l, Delivers (f a) fun _ => True) :
    Delivers (l.mapM f) fun bs => bs.length = l.length := by
  induction l with
  | nil => exact Delivers.pure rfl
  | cons first rest ih =>
    rw [List.mapM_cons]
    refine (h first List.mem_cons_self).bind fun b _ => ?_
    refine (ih fun a ha => h a (List.mem_cons_of_mem _ ha)).bind fun bs hbs => ?_
    exact Delivers.pure (by rw [List.length_cons, List.length_cons, hbs])

end Delivers

end Delivers

section DeliversFrom

variable {σ ρ α β : Type}

def DeliversFrom (f : StateT σ (StateT ρ Option) α) (s : σ) (Q : α → σ → Prop) : Prop :=
  Delivers (f.run s) fun result => Q result.1 result.2

namespace DeliversFrom

variable {f : StateT σ (StateT ρ Option) α} {s : σ} {P Q : α → σ → Prop}

theorem pure {a : α} (h : Q a s) :
    DeliversFrom (pure a : StateT σ (StateT ρ Option) α) s Q :=
  Delivers.pure h

theorem imp (h : DeliversFrom f s P) (hPQ : ∀ a s', P a s' → Q a s') : DeliversFrom f s Q :=
  Delivers.imp h fun result hresult => hPQ result.1 result.2 hresult

theorem bind {g : α → StateT σ (StateT ρ Option) β} {Q : β → σ → Prop} (hf : DeliversFrom f s P)
    (hg : ∀ a s', P a s' → DeliversFrom (g a) s' Q) : DeliversFrom (f >>= g) s Q := by
  unfold DeliversFrom
  rw [StateT.run_bind]
  exact Delivers.bind hf fun middle hmiddle => hg middle.1 middle.2 hmiddle

theorem ite {c : Prop} [Decidable c] {g : StateT σ (StateT ρ Option) α}
    (hf : c → DeliversFrom f s Q) (hg : ¬c → DeliversFrom g s Q) :
    DeliversFrom (if c then f else g) s Q := by
  by_cases h : c
  · simpa [h] using hf h
  · simpa [h] using hg h

theorem draw {x : StateT ρ Option α} {Q : α → Prop} (hx : Delivers x Q) :
    DeliversFrom (liftM x : StateT σ (StateT ρ Option) α) s fun a s' => s' = s ∧ Q a := by
  have hrun : (liftM x : StateT σ (StateT ρ Option) α).run s = x >>= fun a => Pure.pure (a, s) := rfl
  rw [DeliversFrom, hrun]
  exact Delivers.bind hx fun a ha => Delivers.pure ⟨rfl, ha⟩

theorem lift {a : α} {o : Option α} (ho : o = some a) :
    DeliversFrom (liftM o : StateT σ (StateT ρ Option) α) s fun b s' => s' = s ∧ b = a :=
  draw (Delivers.lift ho rfl)

theorem and_gives {Q : α → Prop} (hf : DeliversFrom f s P) (hQ : Gives f Q) :
    DeliversFrom f s fun a s' => P a s' ∧ Q a := by
  intro r
  obtain ⟨result, r', hrun, hresult⟩ := hf r
  exact ⟨result, r', hrun, hresult, hQ s r result r' hrun⟩

theorem mapM {f : α → StateT σ (StateT ρ Option) β} {cost : α → Nat} {Has : Nat → σ → Prop}
    {R : α → β → Prop} {l : List α} {spare : Nat} (hs : Has (spare + (l.map cost).sum) s)
    (h : ∀ a ∈ l, ∀ s' left, Has (left + cost a) s' →
      DeliversFrom (f a) s' fun b s'' => Has left s'' ∧ R a b) :
    DeliversFrom (l.mapM f) s fun bs s' => Has spare s' ∧ List.Forall₂ R l bs := by
  induction l generalizing s with
  | nil => exact pure ⟨by simpa using hs, .nil⟩
  | cons first rest ih =>
    rw [List.mapM_cons]
    have hfirst : Has (spare + (rest.map cost).sum + cost first) s := by
      rwa [List.map_cons, List.sum_cons, Nat.add_comm (cost first), ← Nat.add_assoc] at hs
    refine (h first List.mem_cons_self s _ hfirst).bind fun b middle hb => ?_
    refine (ih hb.1 fun a ha => h a (List.mem_cons_of_mem _ ha)).bind fun bs last hbs => ?_
    exact pure ⟨hbs.1, .cons hb.2 hbs.2⟩

end DeliversFrom

end DeliversFrom

end Netherwick.Lib
