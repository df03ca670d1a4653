import Mathlib.Data.List.Infix
import Mathlib.Logic.Relation

/-! # Systems that keep their history

A history is a list of entries with the newest first. `Annals p` says that every entry agrees with
what came before it. A system whose history only grows can be shown correct under a hypothesis on
the history alone, since the hypothesis then held at every moment of the run. -/

namespace Netherwick.Lib

section Annals

variable {β : Type} {p q : β → List β → Prop}

/-- Every entry of a history satisfies `p` against its own past. -/
def Annals (p : β → List β → Prop) : List β → Prop
  | [] => True
  | entry :: past => p entry past ∧ Annals p past

@[simp] theorem annals_cons {entry : β} {past : List β} :
    Annals p (entry :: past) ↔ p entry past ∧ Annals p past := Iff.rfl

theorem Annals.of_suffix {old new : List β} (hsuffix : old <:+ new) (h : Annals p new) :
    Annals p old := by
  obtain ⟨recent, rfl⟩ := hsuffix
  induction recent with
  | nil => exact h
  | cons entry recent ih => exact ih h.2

theorem annals_true (history : List β) : Annals (fun _ _ => True) history := by
  induction history with
  | nil => trivial
  | cons _ _ ih => exact ⟨trivial, ih⟩

theorem Annals.append_of_forall {recent past : List β} (h : Annals p past)
    (hall : ∀ entry ∈ recent, ∀ past', p entry past') : Annals p (recent ++ past) := by
  induction recent with
  | nil => exact h
  | cons entry recent ih =>
    refine ⟨hall entry List.mem_cons_self _, ih fun other hother => ?_⟩
    exact hall other (List.mem_cons_of_mem _ hother)

instance Annals.decidable [∀ entry past, Decidable (p entry past)] :
    ∀ history, Decidable (Annals p history)
  | [] => .isTrue trivial
  | entry :: past =>
    have := Annals.decidable past
    inferInstanceAs (Decidable (p entry past ∧ Annals p past))

/-- The same as a proposition that does not unfold on a history that computes. -/
structure Lawful (p : β → List β → Prop) (history : List β) : Prop where
  annals : Annals p history

instance [∀ entry past, Decidable (p entry past)] (history : List β) :
    Decidable (Lawful p history) :=
  decidable_of_iff (Annals p history) ⟨.mk, Lawful.annals⟩

end Annals

section Guarded

variable {σ β : Type} {history : σ → List β} {good : List β → Prop} {inv : σ → Prop}

theorem walk_preserves {R : σ → σ → Prop} (hgrow : ∀ s s', R s s' → history s <:+ history s')
    (hgood : ∀ old new, old <:+ new → good new → good old)
    (hstep : ∀ s s', R s s' → good (history s') → inv s → inv s') {s s' : σ}
    (hwalk : Relation.ReflTransGen R s s') (hlast : good (history s')) (hinv : inv s) :
    inv s' := by
  induction hwalk with
  | refl => exact hinv
  | tail _ hlink ih =>
    exact hstep _ _ hlink hlast (ih (hgood _ _ (hgrow _ _ hlink) hlast))

theorem walk_grows {R : σ → σ → Prop} (hgrow : ∀ s s', R s s' → history s <:+ history s')
    {s s' : σ} (hwalk : Relation.ReflTransGen R s s') : history s <:+ history s' := by
  induction hwalk with
  | refl => exact List.suffix_refl _
  | tail _ hlink ih => exact ih.trans (hgrow _ _ hlink)

variable {α : Type} {step : σ → α → σ}

theorem run_grows (hgrow : ∀ s a, history s <:+ history (step s a)) (actions : List α) (s : σ) :
    history s <:+ history (actions.foldl step s) := by
  induction actions generalizing s with
  | nil => exact List.suffix_refl _
  | cons a actions ih => exact (hgrow s a).trans (ih (step s a))

theorem run_preserves (hgrow : ∀ s a, history s <:+ history (step s a))
    (hgood : ∀ old new, old <:+ new → good new → good old)
    (hstep : ∀ s a, good (history (step s a)) → inv s → inv (step s a)) (actions : List α) {s : σ}
    (hlast : good (history (actions.foldl step s))) (hinv : inv s) :
    inv (actions.foldl step s) := by
  induction actions generalizing s with
  | nil => exact hinv
  | cons a actions ih =>
    have hnow : good (history (step s a)) := hgood _ _ (run_grows hgrow actions _) hlast
    exact ih hlast (hstep s a hnow hinv)

end Guarded

section Along

variable {σ α : Type} {step : σ → α → σ} {p q : σ → α → Prop} {inv : σ → Prop} {s : σ}

/-- Every step of a run satisfies `p`, of the state before it and the action. -/
def Along (step : σ → α → σ) (p : σ → α → Prop) : σ → List α → Prop
  | _, [] => True
  | s, a :: actions => p s a ∧ Along step p (step s a) actions

@[simp] theorem along_cons {a : α} {actions : List α} :
    Along step p s (a :: actions) ↔ p s a ∧ Along step p (step s a) actions := Iff.rfl

theorem Along.of_invariant (hstep : ∀ s a, inv s → p s a → inv (step s a) ∧ q s a)
    {actions : List α} (h : Along step p s actions) (hinv : inv s) : Along step q s actions := by
  induction actions generalizing s with
  | nil => trivial
  | cons a actions ih =>
    obtain ⟨hnext, hq⟩ := hstep s a hinv h.1
    exact ⟨hq, ih h.2 hnext⟩

theorem Along.and {actions : List α} (hp : Along step p s actions) (hq : Along step q s actions) :
    Along step (fun s a => p s a ∧ q s a) s actions := by
  induction actions generalizing s with
  | nil => trivial
  | cons a actions ih => exact ⟨⟨hp.1, hq.1⟩, ih hp.2 hq.2⟩

instance Along.decidable [∀ s a, Decidable (p s a)] : ∀ s actions, Decidable (Along step p s actions)
  | _, [] => .isTrue trivial
  | s, a :: actions =>
    have := Along.decidable (step s a) actions
    inferInstanceAs (Decidable (p s a ∧ Along step p (step s a) actions))

end Along

end Netherwick.Lib
