import Mathlib.Tactic.Linarith
import Netherwick.Epistemic.Questions
import Netherwick.Lib.Ring
import Netherwick.Lib.Run

/-! # The accounts of the outcomes

What an update records is told by the questions that were active, by those that are generated and by
the attempt. Questions close inside the loop or in the sweep after it, and the sweep knows those that
have closed by the last outcome only. -/

namespace Netherwick.Epistemic

open Netherwick.Lib

def totalGain : List EpistemicOutcome → ℚ
  | [] => 0
  | outcome :: rest => outcome.informationGain + totalGain rest

theorem totalGain_append (first second : List EpistemicOutcome) :
    totalGain (first ++ second) = totalGain first + totalGain second := by
  induction first with
  | nil => simp [totalGain]
  | cons outcome first ih =>
    rw [List.cons_append, totalGain, totalGain, ih, add_assoc]

def resolvedCount (outcomes : List EpistemicOutcome) : Nat :=
  (outcomes.filter EpistemicOutcome.resolved).length

theorem resolvedCount_append (first second : List EpistemicOutcome) :
    resolvedCount (first ++ second) = resolvedCount first + resolvedCount second := by
  simp [resolvedCount]

section Pass

variable (active : SortedMap String EpistemicQuestion) (nowMs : Nat)
  (attempt : Option EpistemicAttempt) (asked : EpistemicQuestion)

/-- The question with the history of the active one that it repeats, if any. -/
def merged : EpistemicQuestion :=
  ((active.get? asked.questionId).map fun previous => asked.carriedOn previous attempt).getD asked

/-- It repeats an active question and is less uncertain. -/
def Betters : Prop := ∃ previous ∈ active.get? asked.questionId, asked.Improved previous

def GivesUp : Prop := (merged active attempt asked).Hopeless

instance : Decidable (GivesUp active attempt asked) :=
  inferInstanceAs (Decidable (EpistemicQuestion.Hopeless _))

def Stays : Prop := ¬GivesUp active attempt asked ∧ 0.20 < asked.currentUncertainty

/-- The loop closes the question with an outcome. -/
def Closes : Prop :=
  Betters active asked ∧ asked.currentUncertainty ≤ 0.20 ∨ GivesUp active attempt asked

def betterments : List EpistemicOutcome :=
  ((active.get? asked.questionId).toList.filter fun previous => asked.Improved previous).map
    fun previous => asked.improvement previous nowMs

def surrenders : List EpistemicOutcome :=
  if GivesUp active attempt asked then [(merged active attempt asked).givenUp nowMs] else []

/-- What the loop records of the question. -/
def loopOutcomes : List EpistemicOutcome :=
  betterments active nowMs asked ++ surrenders active nowMs attempt asked

variable {active nowMs attempt asked} {previous : EpistemicQuestion}

@[simp] theorem questionId_carriedOn :
    (asked.carriedOn previous attempt).questionId = asked.questionId := by
  rw [EpistemicQuestion.carriedOn]
  cases attempt.filter fun attempt => attempt.questionId = asked.questionId &&
    !previous.attemptedBehaviors.contains attempt.behaviorId <;> rfl

@[simp] theorem currentUncertainty_carriedOn :
    (asked.carriedOn previous attempt).currentUncertainty = asked.currentUncertainty := by
  rw [EpistemicQuestion.carriedOn]
  cases attempt.filter fun attempt => attempt.questionId = asked.questionId &&
    !previous.attemptedBehaviors.contains attempt.behaviorId <;> rfl

@[simp] theorem questionId_merged :
    (merged active attempt asked).questionId = asked.questionId := by
  rw [merged]
  cases active.get? asked.questionId <;> simp

@[simp] theorem currentUncertainty_merged :
    (merged active attempt asked).currentUncertainty = asked.currentUncertainty := by
  rw [merged]
  cases active.get? asked.questionId <;> simp

theorem questionId_of_mem_loopOutcomes {outcome : EpistemicOutcome}
    (h : outcome ∈ loopOutcomes active nowMs attempt asked) :
    outcome.questionId = asked.questionId := by
  rcases List.mem_append.mp h with hbetter | hsurrender
  · obtain ⟨previous, -, rfl⟩ := List.mem_map.mp hbetter
    rfl
  · rw [surrenders] at hsurrender
    by_cases hgives : GivesUp active attempt asked
    · rw [if_pos hgives] at hsurrender
      obtain rfl := List.mem_singleton.mp hsurrender
      exact questionId_merged
    · simp [if_neg hgives] at hsurrender

theorem betterments_of_not (h : ¬Betters active asked) : betterments active nowMs asked = [] := by
  rw [betterments, List.map_eq_nil_iff, List.filter_eq_nil_iff]
  intro previous hprevious himproved
  exact h ⟨previous, Option.mem_toList.mp hprevious, by simpa using himproved⟩

theorem betterments_of (nowMs : Nat) (h : Betters active asked) :
    ∃ previous ∈ active.get? asked.questionId,
      betterments active nowMs asked = [asked.improvement previous nowMs] := by
  obtain ⟨previous, hprevious, himproved⟩ := h
  refine ⟨previous, hprevious, ?_⟩
  rw [betterments, Option.mem_def.mp hprevious]
  simp [himproved]

theorem surrenders_of (h : GivesUp active attempt asked) : surrenders active nowMs attempt asked =
    [(merged active attempt asked).givenUp nowMs] := if_pos h

theorem surrenders_of_not (h : ¬GivesUp active attempt asked) :
    surrenders active nowMs attempt asked = [] := if_neg h

theorem loopOutcomes_eq_nil : loopOutcomes active nowMs attempt asked = [] ↔
    ¬Betters active asked ∧ ¬GivesUp active attempt asked := by
  rw [loopOutcomes, List.append_eq_nil_iff]
  constructor
  · rintro ⟨hbetter, hsurrender⟩
    constructor
    · intro h
      obtain ⟨previous, -, heq⟩ := betterments_of nowMs h
      simp [heq] at hbetter
    · intro h
      simp [surrenders_of h] at hsurrender
  · rintro ⟨hbetter, hgives⟩
    exact ⟨betterments_of_not hbetter, surrenders_of_not hgives⟩

end Pass

namespace EpistemicModelBuilder

variable {builder : EpistemicModelBuilder} {nowMs : Nat} {attempt : Option EpistemicAttempt}

structure Booked (builder : EpistemicModelBuilder) : Prop where
  recent : builder.recentOutcomes = builder.journal.rtake outcomeHistoryLimit
  resolved : builder.metrics.resolvedQuestions = resolvedCount builder.journal
  gain : builder.metrics.totalInformationGain = totalGain builder.journal

theorem Booked.recordOutcome (h : builder.Booked) (outcome : EpistemicOutcome) :
    (builder.recordOutcome outcome).Booked where
  recent := by
    simp only [EpistemicModelBuilder.recordOutcome, h.recent]
    exact rtake_concat_rtake builder.journal outcome outcomeHistoryLimit
  resolved := by
    simp only [EpistemicModelBuilder.recordOutcome, resolvedCount_append, h.resolved]
    cases hresolved : outcome.resolved <;> simp [resolvedCount, hresolved]
  gain := by
    simp [EpistemicModelBuilder.recordOutcome, totalGain_append, totalGain, h.gain]

def compared (builder : EpistemicModelBuilder) (nowMs : Nat) (asked : EpistemicQuestion) :
    EpistemicModelBuilder :=
  ((builder.active.get? asked.questionId).map fun previous =>
    builder.repeatQuestion nowMs asked previous).getD builder

variable {asked : EpistemicQuestion} {next : SortedMap String EpistemicQuestion}

theorem passQuestion_eq : passQuestion nowMs attempt (builder, next) asked =
    if GivesUp builder.active attempt asked then
      (((builder.compared nowMs asked).giveUp nowMs
          (merged builder.active attempt asked)).recordOutcome
        ((merged builder.active attempt asked).givenUp nowMs), next)
    else if 0.20 < asked.currentUncertainty then
      (builder.compared nowMs asked,
        next.insert asked.questionId (merged builder.active attempt asked))
    else (builder.compared nowMs asked, next) := by
  rw [passQuestion]
  cases hprevious : builder.active.get? asked.questionId with
  | none => simp [compared, GivesUp, merged, hprevious]
  | some previous => simp [compared, GivesUp, merged, hprevious]

theorem compared_cases (builder : EpistemicModelBuilder) (nowMs : Nat) (asked : EpistemicQuestion) :
    (∃ previous ∈ builder.active.get? asked.questionId, asked.Improved previous ∧
        builder.compared nowMs asked = builder.recordOutcome (asked.improvement previous nowMs)) ∨
      ¬Betters builder.active asked ∧ (builder.compared nowMs asked = builder ∨
        builder.compared nowMs asked = builder.countRepeated) := by
  cases hprevious : builder.active.get? asked.questionId with
  | none => exact .inr ⟨by simp [Betters, hprevious], .inl (by simp [compared, hprevious])⟩
  | some previous =>
    by_cases himproved : asked.Improved previous
    · exact .inl ⟨previous, rfl, himproved,
        by simp [compared, hprevious, repeatQuestion, himproved]⟩
    · refine .inr ⟨by simp [Betters, hprevious, himproved], ?_⟩
      by_cases hnow : previous.updatedAtMs = nowMs
      · exact .inl (by simp [compared, hprevious, repeatQuestion, himproved, hnow])
      · exact .inr (by simp [compared, hprevious, repeatQuestion, himproved, hnow])

@[simp] theorem active_compared : (builder.compared nowMs asked).active = builder.active := by
  rcases compared_cases builder nowMs asked with ⟨previous, -, -, heq⟩ | ⟨-, heq | heq⟩ <;>
    simp [heq, recordOutcome, countRepeated]

theorem journal_compared : (builder.compared nowMs asked).journal =
    builder.journal ++ betterments builder.active nowMs asked := by
  rcases compared_cases builder nowMs asked with ⟨previous, hprevious, himproved, heq⟩ |
    ⟨hnot, heq | heq⟩
  · obtain ⟨other, hother, hbetter⟩ := betterments_of nowMs ⟨previous, hprevious, himproved⟩
    obtain rfl : previous = other := Option.some.inj (hprevious.symm.trans hother)
    rw [heq, hbetter]
    rfl
  · rw [heq, betterments_of_not hnot, List.append_nil]
  · rw [heq, betterments_of_not hnot, List.append_nil]
    rfl

theorem Booked.compared (h : builder.Booked) : (builder.compared nowMs asked).Booked := by
  rcases compared_cases builder nowMs asked with ⟨previous, -, -, heq⟩ | ⟨-, heq | heq⟩
  · rw [heq]
    exact h.recordOutcome _
  · rw [heq]
    exact h
  · rw [heq]
    exact ⟨h.recent, h.resolved, h.gain⟩

/-- What a round of the loop does: it records the outcomes of the question, and keeps it if it stays. -/
structure Passed (before after : EpistemicModelBuilder × SortedMap String EpistemicQuestion)
    (nowMs : Nat) (attempt : Option EpistemicAttempt) (generated : List EpistemicQuestion) :
    Prop where
  active : after.1.active = before.1.active
  journal : after.1.journal = before.1.journal ++
    generated.flatMap (loopOutcomes before.1.active nowMs attempt)
  booked : before.1.Booked → after.1.Booked
  kept : ∀ id, after.2.contains id = true ↔ before.2.contains id = true ∨
    ∃ asked ∈ generated, asked.questionId = id ∧ Stays before.1.active attempt asked

theorem passed_one (nowMs : Nat) (attempt : Option EpistemicAttempt)
    (builder : EpistemicModelBuilder) (next : SortedMap String EpistemicQuestion)
    (asked : EpistemicQuestion) :
    Passed (builder, next) (passQuestion nowMs attempt (builder, next) asked) nowMs attempt
      [asked] := by
  rw [passQuestion_eq]
  by_cases hgives : GivesUp builder.active attempt asked
  · rw [if_pos hgives]
    exact {
      active := by simp [recordOutcome, giveUp]
      journal := by
        simp [recordOutcome, giveUp, journal_compared, loopOutcomes, surrenders_of hgives]
      booked := fun h => by
        have hgiven : ((builder.compared nowMs asked).giveUp nowMs
            (merged builder.active attempt asked)).Booked :=
          ⟨h.compared.recent, h.compared.resolved, h.compared.gain⟩
        exact hgiven.recordOutcome _
      kept := by simp [Stays, hgives] }
  · rw [if_neg hgives]
    by_cases huncertain : 0.20 < asked.currentUncertainty
    · rw [if_pos huncertain]
      exact {
        active := active_compared
        journal := by simp [journal_compared, loopOutcomes, surrenders_of_not hgives]
        booked := Booked.compared
        kept := fun id => by
          rw [SortedMap.contains_insert, or_comm]
          simp [Stays, hgives, huncertain, eq_comm (a := id)] }
    · rw [if_neg huncertain]
      exact {
        active := active_compared
        journal := by simp [journal_compared, loopOutcomes, surrenders_of_not hgives]
        booked := Booked.compared
        kept := by simp [Stays, huncertain] }

theorem passed_all (nowMs : Nat) (attempt : Option EpistemicAttempt)
    (generated : List EpistemicQuestion) (builder : EpistemicModelBuilder)
    (next : SortedMap String EpistemicQuestion) :
    Passed (builder, next) (generated.foldl (passQuestion nowMs attempt) (builder, next)) nowMs
      attempt generated := by
  induction generated generalizing builder next with
  | nil =>
    exact ⟨rfl, by simp, fun h => h, by simp⟩
  | cons asked generated ih =>
    have hfirst := passed_one nowMs attempt builder next asked
    rw [List.foldl_cons]
    rcases hpass : passQuestion nowMs attempt (builder, next) asked with ⟨builder', next'⟩
    rw [hpass] at hfirst
    have hactive : builder'.active = builder.active := hfirst.active
    have hrest := ih builder' next'
    have hjournal := hrest.journal
    have hkept := hrest.kept
    simp only [hactive] at hjournal hkept
    exact {
      active := hrest.active.trans hactive
      journal := by
        rw [hjournal, hfirst.journal, List.flatMap_cons, List.append_assoc]
        simp
      booked := fun h => hrest.booked (hfirst.booked h)
      kept := fun id => by
        rw [hkept, hfirst.kept]
        simp [or_assoc] }

end EpistemicModelBuilder

end Netherwick.Epistemic
