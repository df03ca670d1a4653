import Mathlib.Data.List.Basic

/-! # Grace intervals

A timer remembers when a run of steps with the same evidence began. Histories have the newest step
first, and a step may share its moment with others. -/

namespace Netherwick.Lib

variable {α : Type} (time : α → Nat) (evidence : α → Prop)

/-- The latest steps all had the evidence, since one at the moment `since`; no earlier step at that
moment went without it. -/
def Sustained (since : Nat) (history : List α) : Prop :=
  ∃ recent first earlier, history = recent ++ first :: earlier ∧ time first = since ∧
    (∀ x ∈ recent, evidence x) ∧ evidence first ∧ ∀ x ∈ earlier, time x = since → evidence x

/-- An unbroken run of steps with the evidence, up to this one, is at least `grace` long, and no
step of the closed interval of that length went without it. -/
def Covered (grace : Nat) (x : α) (past : List α) : Prop :=
  (∀ y ∈ x :: past, time x ≤ time y + grace → evidence y) ∧
    ∃ recent first earlier, x :: past = recent ++ first :: earlier ∧
      time first + grace ≤ time x ∧ (∀ y ∈ recent, evidence y) ∧ evidence first

variable {time evidence} {since grace : Nat} {x : α} {past : List α}

theorem Sustained.start (hx : evidence x) (hmoment : ∀ y ∈ past, time y = time x → evidence y) :
    Sustained time evidence (time x) (x :: past) :=
  ⟨[], x, past, rfl, rfl, by simp, hx, hmoment⟩

theorem Sustained.extend (h : Sustained time evidence since past) (hx : evidence x) :
    Sustained time evidence since (x :: past) := by
  obtain ⟨recent, first, earlier, rfl, hfirst, hrecent, hevidence, hearlier⟩ := h
  refine ⟨x :: recent, first, earlier, rfl, hfirst, ?_, hevidence, hearlier⟩
  intro y hy
  rcases List.mem_cons.mp hy with rfl | hy
  · exact hx
  · exact hrecent y hy

theorem Sustained.covered
    (hordered : (x :: past).Pairwise fun newer older => time older ≤ time newer)
    (h : Sustained time evidence since (x :: past)) (hgrace : since + grace ≤ time x) :
    Covered time evidence grace x past := by
  obtain ⟨recent, first, earlier, hsplit, hfirst, hrecent, hevidence, hearlier⟩ := h
  refine ⟨?_, recent, first, earlier, hsplit, by omega, hrecent, hevidence⟩
  intro y hy hwindow
  rw [hsplit] at hy hordered
  rcases List.mem_append.mp hy with hy | hy
  · exact hrecent y hy
  · rcases List.mem_cons.mp hy with rfl | hy
    · exact hevidence
    · have hle : time y ≤ time first :=
        (List.pairwise_cons.mp (List.pairwise_append.mp hordered).2.1).1 y hy
      exact hearlier y hy (by omega)

end Netherwick.Lib
