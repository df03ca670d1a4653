import Mathlib.Order.Basic
import Mathlib.Data.List.Forall2

/-! # Computations over a world that only grows

A `StateT ρ Option` computation draws from a source `ρ` and may panic. `Yields x Q` says that `Q`
holds of what `x` returns, whatever is drawn. Over it, `Upholds Inv f s Q` says that `f`, run in a
world `s`, ends in a world that extends `s`, in which `Inv` holds, and `Q` of the result there. What
has once been true of a world and lasts as it grows need not be carried through a computation. -/

namespace Netherwick.Lib

section Related

variable {α β γ : Type}

theorem exists_of_forall₂_mem {rel : α → β → Prop} {l : List α} {l' : List β} {b : β}
    (h : List.Forall₂ rel l l') (hb : b ∈ l') : ∃ a ∈ l, rel a b := by
  induction h with
  | nil => cases hb
  | cons hfirst _ ih =>
    obtain rfl | hrest := List.mem_cons.mp hb
    · exact ⟨_, List.mem_cons_self, hfirst⟩
    · obtain ⟨a, ha, hrel⟩ := ih hrest
      exact ⟨a, List.mem_cons_of_mem _ ha, hrel⟩

theorem map_eq_of_forall₂ {f : α → γ} {g : β → γ} {l : List α} {l' : List β}
    (h : List.Forall₂ (fun a b => g b = f a) l l') : l'.map g = l.map f := by
  induction h with
  | nil => rfl
  | cons hfirst _ ih => rw [List.map_cons, List.map_cons, hfirst, ih]

end Related

section Yields

variable {ρ α β : Type}

def Yields (x : StateT ρ Option α) (Q : α → Prop) : Prop :=
  ∀ r a r', x.run r = some (a, r') → Q a

namespace Yields

variable {x : StateT ρ Option α} {P Q : α → Prop}

theorem pure {a : α} (h : Q a) : Yields (pure a : StateT ρ Option α) Q := by
  intro r b r' hrun
  simp only [StateT.run_pure, Option.pure_def, Option.some.injEq, Prod.mk.injEq] at hrun
  exact hrun.1 ▸ h

theorem any : Yields x fun _ => True := fun _ _ _ _ => trivial

theorem imp (h : Yields x P) (hPQ : ∀ a, P a → Q a) : Yields x Q :=
  fun r a r' hrun => hPQ a (h r a r' hrun)

theorem bind {g : α → StateT ρ Option β} {Q : β → Prop} (hx : Yields x P)
    (hg : ∀ a, P a → Yields (g a) Q) : Yields (x >>= g) Q := by
  intro r b r' hrun
  simp only [StateT.run_bind, Option.bind_eq_bind, Option.bind_eq_some_iff, Prod.exists] at hrun
  obtain ⟨a, middle, hfirst, hsecond⟩ := hrun
  exact hg a (hx r a middle hfirst) middle b r' hsecond

theorem ite {c : Prop} [Decidable c] {y : StateT ρ Option α} (hx : c → Yields x Q)
    (hy : ¬c → Yields y Q) : Yields (if c then x else y) Q := by
  by_cases h : c
  · simpa [h] using hx h
  · simpa [h] using hy h

theorem lift {o : Option α} (h : ∀ a, o = some a → Q a) :
    Yields (liftM o : StateT ρ Option α) Q := by
  intro r a r' hrun
  cases o with
  | none => cases hrun
  | some b =>
    cases hrun
    exact h a rfl

theorem mapM {f : α → StateT ρ Option β} {rel : α → β → Prop} {l : List α}
    (h : ∀ a ∈ l, Yields (f a) (rel a)) : Yields (l.mapM f) (List.Forall₂ rel l) := by
  induction l with
  | nil => exact Yields.pure .nil
  | cons first rest ih =>
    rw [List.mapM_cons]
    refine (h first List.mem_cons_self).bind fun b hb => ?_
    refine (ih fun a ha => h a (List.mem_cons_of_mem _ ha)).bind fun bs hbs => ?_
    exact Yields.pure (.cons hb hbs)

end Yields

end Yields

section Upholds

variable {σ ρ α β : Type} [Preorder σ] {Inv : σ → Prop}

def Upholds (Inv : σ → Prop) (f : StateT σ (StateT ρ Option) α) (s : σ) (Q : α → σ → Prop) : Prop :=
  Yields (f.run s) fun result => s ≤ result.2 ∧ Inv result.2 ∧ Q result.1 result.2

/-- What holds of a world and of every world that extends it. -/
def Lasting (P : σ → Prop) : Prop := ∀ s s', s ≤ s' → P s → P s'

namespace Upholds

variable {f : StateT σ (StateT ρ Option) α} {s : σ} {P Q : α → σ → Prop}

theorem pure {a : α} (hs : Inv s) (h : Q a s) :
    Upholds Inv (pure a : StateT σ (StateT ρ Option) α) s Q :=
  Yields.pure ⟨le_refl s, hs, h⟩

theorem imp (h : Upholds Inv f s P) (hPQ : ∀ a s', s ≤ s' → Inv s' → P a s' → Q a s') :
    Upholds Inv f s Q :=
  Yields.imp h fun _ hresult => ⟨hresult.1, hresult.2.1, hPQ _ _ hresult.1 hresult.2.1 hresult.2.2⟩

theorem bind {g : α → StateT σ (StateT ρ Option) β} {Q : β → σ → Prop} (hf : Upholds Inv f s P)
    (hg : ∀ a s', s ≤ s' → Inv s' → P a s' → Upholds Inv (g a) s' Q) :
    Upholds Inv (f >>= g) s Q := by
  unfold Upholds
  rw [StateT.run_bind]
  refine Yields.bind hf fun middle hmiddle => ?_
  refine Yields.imp (hg middle.1 middle.2 hmiddle.1 hmiddle.2.1 hmiddle.2.2) fun last hlast => ?_
  exact ⟨hmiddle.1.trans hlast.1, hlast.2⟩

theorem ite {c : Prop} [Decidable c] {g : StateT σ (StateT ρ Option) α}
    (hf : c → Upholds Inv f s Q) (hg : ¬c → Upholds Inv g s Q) :
    Upholds Inv (if c then f else g) s Q := by
  by_cases h : c
  · simpa [h] using hf h
  · simpa [h] using hg h

theorem draw {x : StateT ρ Option α} {Q : α → Prop} (hs : Inv s) (hx : Yields x Q) :
    Upholds Inv (liftM x : StateT σ (StateT ρ Option) α) s fun a _ => Q a := by
  have hrun : (liftM x : StateT σ (StateT ρ Option) α).run s = x >>= fun a => Pure.pure (a, s) := rfl
  rw [Upholds, hrun]
  exact Yields.bind hx fun a ha => Yields.pure ⟨le_refl s, hs, ha⟩

theorem lift {o : Option α} {Q : α → Prop} (hs : Inv s) (h : ∀ a, o = some a → Q a) :
    Upholds Inv (liftM o : StateT σ (StateT ρ Option) α) s fun a _ => Q a :=
  draw hs (Yields.lift h)

theorem mapM {f : α → StateT σ (StateT ρ Option) β} {R : α → β → σ → Prop} {l : List α}
    (hlast : ∀ a b, Lasting (R a b)) (hs : Inv s)
    (h : ∀ a ∈ l, ∀ s', s ≤ s' → Inv s' → Upholds Inv (f a) s' (R a)) :
    Upholds Inv (l.mapM f) s fun bs s' => List.Forall₂ (fun a b => R a b s') l bs := by
  induction l generalizing s with
  | nil => exact pure hs .nil
  | cons first rest ih =>
    rw [List.mapM_cons]
    refine (h first List.mem_cons_self s (le_refl s) hs).bind fun b middle hle hmiddle hb => ?_
    refine (ih hmiddle fun a ha later hlater hinv =>
      h a (List.mem_cons_of_mem _ ha) later (hle.trans hlater) hinv).bind
        fun bs last hle' hinv hbs => ?_
    exact pure hinv (.cons (hlast _ _ _ _ hle' hb) hbs)

theorem mapM_all {f : α → StateT σ (StateT ρ Option) β} {Q : β → σ → Prop} {l : List α}
    (hlast : ∀ b, Lasting (Q b)) (hs : Inv s)
    (h : ∀ a ∈ l, ∀ s', s ≤ s' → Inv s' → Upholds Inv (f a) s' Q) :
    Upholds Inv (l.mapM f) s fun bs s' => ∀ b ∈ bs, Q b s' := by
  refine imp (mapM (R := fun _ b s' => Q b s') (fun _ => hlast) hs h) fun bs s' _ _ hrelated b hb => ?_
  obtain ⟨_, _, hq⟩ := exists_of_forall₂_mem hrelated hb
  exact hq

end Upholds

end Upholds

end Netherwick.Lib
