import Netherwick.Epistemic.Accounting
import Netherwick.Lib.Text

/-! # Closed questions

A question that is not asked any more closes with one resolved outcome if the sweep can tell whether
the loop has closed it: the closing outcome has to be the last one, and what was recorded last before
the update must not pass for it. -/

namespace Netherwick.Epistemic

open Netherwick.Lib

theorem familyKey_injective : Function.Injective familyKey := by
  intro a b h
  cases a <;> cases b <;> first | rfl | exact absurd h (by decide)

theorem colon_not_mem_familyKey (family : EpistemicQuestionFamily) :
    ':' ∉ (familyKey family).toList := by
  cases family <;> decide

theorem family_eq_of_questionId {nowMs : Nat} {a b : Prompt}
    (h : (question nowMs a).questionId = (question nowMs b).questionId) : a.family = b.family := by
  have hlist : "question:".toList ++ ((familyKey a.family).toList ++ ':' :: a.subject.toList) =
      "question:".toList ++ ((familyKey b.family).toList ++ ':' :: b.subject.toList) := by
    simpa [question] using congrArg String.toList h
  have hkeys := (Text.split_at (colon_not_mem_familyKey _) (colon_not_mem_familyKey _)
    (List.append_cancel_left hlist)).1
  exact familyKey_injective (String.toList_injective hkeys)

theorem Prompts.nodup_questionId (prompts : Prompts) (nowMs : Nat) :
    ((prompts.generateQuestions nowMs).map EpistemicQuestion.questionId).Nodup := by
  rw [generateQuestions, List.map_map]
  rw [List.Nodup, List.pairwise_map]
  have hdistinct := List.pairwise_map.mp prompts.distinct
  exact hdistinct.imp fun hne heq => hne (family_eq_of_questionId heq)

def ofQuestion (id : String) (outcomes : List EpistemicOutcome) : List EpistemicOutcome :=
  outcomes.filter fun outcome => outcome.questionId = id

section OfQuestion

variable {id : String} {outcomes first second : List EpistemicOutcome}

@[simp] theorem ofQuestion_append :
    ofQuestion id (first ++ second) = ofQuestion id first ++ ofQuestion id second :=
  List.filter_append _ _

theorem mem_ofQuestion {outcome : EpistemicOutcome} :
    outcome ∈ ofQuestion id outcomes ↔ outcome ∈ outcomes ∧ outcome.questionId = id := by
  simp [ofQuestion]

theorem ofQuestion_eq_self (h : ∀ outcome ∈ outcomes, outcome.questionId = id) :
    ofQuestion id outcomes = outcomes := by
  simpa [ofQuestion, List.filter_eq_self] using h

theorem ofQuestion_eq_nil (h : ∀ outcome ∈ outcomes, outcome.questionId ≠ id) :
    ofQuestion id outcomes = [] := by
  simpa [ofQuestion, List.filter_eq_nil_iff] using h

theorem length_ofQuestion (hnodup : (outcomes.map EpistemicOutcome.questionId).Nodup)
    {outcome : EpistemicOutcome} (h : outcome ∈ outcomes) :
    (ofQuestion outcome.questionId outcomes).length = 1 := by
  have hcount := List.count_eq_one_of_mem hnodup (List.mem_map_of_mem h)
  rw [List.count, List.countP_map, List.countP_eq_length_filter] at hcount
  simpa [ofQuestion, Function.comp_def, beq_eq_decide] using hcount

theorem resolvedCount_eq_zero
    (h : ∀ outcome ∈ outcomes, outcome.resolved = false) : resolvedCount outcomes = 0 := by
  simpa [resolvedCount, List.filter_eq_nil_iff] using h

theorem resolvedCount_eq_length
    (h : ∀ outcome ∈ outcomes, outcome.resolved = true) :
    resolvedCount outcomes = outcomes.length := by
  rw [resolvedCount, List.filter_eq_self.mpr h]

end OfQuestion

section Loop

variable {active : SortedMap String EpistemicQuestion} {nowMs : Nat}
  {attempt : Option EpistemicAttempt} {generated : List EpistemicQuestion}
  {asked : EpistemicQuestion}

def closings (active : SortedMap String EpistemicQuestion) (nowMs : Nat)
    (attempt : Option EpistemicAttempt) (generated : List EpistemicQuestion) :
    List EpistemicOutcome :=
  generated.flatMap (loopOutcomes active nowMs attempt)

theorem closes_of_resolved {outcome : EpistemicOutcome}
    (h : outcome ∈ loopOutcomes active nowMs attempt asked) (hresolved : outcome.resolved = true) :
    Closes active attempt asked := by
  rcases List.mem_append.mp h with hbetter | hsurrender
  · by_cases hbetters : Betters active asked
    · obtain ⟨previous, -, heq⟩ := betterments_of nowMs hbetters
      rw [heq, List.mem_singleton] at hbetter
      exact .inl ⟨hbetters, by simpa [hbetter, EpistemicQuestion.improvement] using hresolved⟩
    · simp [betterments_of_not hbetters] at hbetter
  · by_cases hgives : GivesUp active attempt asked
    · exact .inr hgives
    · simp [surrenders_of_not hgives] at hsurrender

theorem resolvedCount_pos_of_closes (hcloses : Closes active attempt asked) :
    0 < resolvedCount (loopOutcomes active nowMs attempt asked) := by
  rw [loopOutcomes, resolvedCount_append]
  rcases hcloses with ⟨hbetters, hsettled⟩ | hgives
  · obtain ⟨previous, -, heq⟩ := betterments_of nowMs hbetters
    simp [heq, resolvedCount, EpistemicQuestion.improvement, hsettled]
  · simp [surrenders_of hgives, resolvedCount, EpistemicQuestion.givenUp]

theorem givesUp_of_unanswerable {outcome : EpistemicOutcome}
    (h : outcome ∈ loopOutcomes active nowMs attempt asked)
    (hgiven : outcome.unanswerable = true) : GivesUp active attempt asked := by
  rcases List.mem_append.mp h with hbetter | hsurrender
  · obtain ⟨previous, -, rfl⟩ := List.mem_map.mp hbetter
    cases hgiven
  · by_contra hgives
    simp [surrenders_of_not hgives] at hsurrender

theorem asked_of_mem_closings {outcome : EpistemicOutcome}
    (h : outcome ∈ closings active nowMs attempt generated) :
    ∃ asked ∈ generated, asked.questionId = outcome.questionId ∧
      outcome ∈ loopOutcomes active nowMs attempt asked := by
  obtain ⟨asked, hasked, hmem⟩ := List.mem_flatMap.mp h
  exact ⟨asked, hasked, (questionId_of_mem_loopOutcomes hmem).symm, hmem⟩

theorem closings_eq_nil : closings active nowMs attempt generated = [] ↔
    ∀ asked ∈ generated, ¬Betters active asked ∧ ¬GivesUp active attempt asked := by
  simp [closings, List.flatMap_eq_nil_iff, loopOutcomes_eq_nil]

theorem ofQuestion_closings_of_not {id : String}
    (h : ∀ asked ∈ generated, asked.questionId ≠ id) :
    ofQuestion id (closings active nowMs attempt generated) = [] := by
  refine ofQuestion_eq_nil fun outcome houtcome hid => ?_
  obtain ⟨asked, hasked, heq, -⟩ := asked_of_mem_closings houtcome
  exact h asked hasked (heq.trans hid)

theorem eq_of_questionId (hnodup : (generated.map EpistemicQuestion.questionId).Nodup)
    {other : EpistemicQuestion} (hasked : asked ∈ generated) (hother : other ∈ generated)
    (h : asked.questionId = other.questionId) : asked = other :=
  List.inj_on_of_nodup_map hnodup hasked hother h

theorem ofQuestion_closings (hnodup : (generated.map EpistemicQuestion.questionId).Nodup)
    (hasked : asked ∈ generated) :
    ofQuestion asked.questionId (closings active nowMs attempt generated) =
      loopOutcomes active nowMs attempt asked := by
  obtain ⟨first, rest, rfl⟩ := List.append_of_mem hasked
  rw [List.map_append, List.map_cons, List.nodup_append, List.nodup_cons] at hnodup
  obtain ⟨-, ⟨hrest, -⟩, hfirst⟩ := hnodup
  have hbefore : ofQuestion asked.questionId (closings active nowMs attempt first) = [] :=
    ofQuestion_closings_of_not fun other hother heq =>
      hfirst _ (List.mem_map_of_mem hother) _ List.mem_cons_self heq
  have hlater : ofQuestion asked.questionId (closings active nowMs attempt rest) = [] :=
    ofQuestion_closings_of_not fun other hother heq =>
      hrest (List.mem_map.mpr ⟨other, hother, heq⟩)
  have hown : ofQuestion asked.questionId (loopOutcomes active nowMs attempt asked) =
      loopOutcomes active nowMs attempt asked :=
    ofQuestion_eq_self fun _ => questionId_of_mem_loopOutcomes
  rw [closings] at hbefore hlater
  simp [closings, hbefore, hlater, hown]

end Loop

namespace EpistemicModelBuilder

section Sweep

variable {builder : EpistemicModelBuilder} {next : SortedMap String EpistemicQuestion}
  {nowMs : Nat} {id : String}

/-- The outcomes of the active questions that neither stay nor pass for just resolved. -/
def swept (builder : EpistemicModelBuilder) (nowMs : Nat)
    (next : SortedMap String EpistemicQuestion) : List EpistemicOutcome :=
  (builder.active.entries.filter fun entry =>
    !next.contains entry.1 && !builder.justResolved entry.1).map fun entry =>
      { entry.2.missing nowMs with questionId := entry.1 }

theorem of_mem_swept {outcome : EpistemicOutcome} (h : outcome ∈ builder.swept nowMs next) :
    outcome.resolved = true ∧ outcome.unanswerable = false ∧
      builder.active.contains outcome.questionId = true ∧
      next.contains outcome.questionId = false ∧
      builder.justResolved outcome.questionId = false := by
  obtain ⟨entry, hentry, rfl⟩ := List.mem_map.mp h
  have hparts := List.mem_filter.mp hentry
  have hactive := SortedMap.contains_iff.mpr ⟨entry.2, hparts.1⟩
  have hwanted : next.contains entry.1 = false ∧ builder.justResolved entry.1 = false := by
    simpa using hparts.2
  exact ⟨rfl, rfl, hactive, hwanted⟩

theorem ofQuestion_swept_of_not (h : builder.active.contains id = false ∨
    next.contains id = true ∨ builder.justResolved id = true) :
    ofQuestion id (builder.swept nowMs next) = [] := by
  refine ofQuestion_eq_nil fun outcome houtcome hid => ?_
  have hswept := of_mem_swept houtcome
  rw [hid] at hswept
  simp [hswept] at h

theorem nodup_swept :
    ((builder.swept nowMs next).map EpistemicOutcome.questionId).Nodup := by
  rw [swept, List.map_map, List.Nodup, List.pairwise_map]
  exact (builder.active.ascending.sublist List.filter_sublist).imp fun hlt => hlt.ne

theorem length_ofQuestion_swept (hactive : builder.active.contains id = true)
    (hnext : next.contains id = false) (hjust : builder.justResolved id = false) :
    (ofQuestion id (builder.swept nowMs next)).length = 1 := by
  obtain ⟨previous, hprevious⟩ := SortedMap.contains_iff.mp hactive
  have hmem : { previous.missing nowMs with questionId := id } ∈ builder.swept nowMs next := by
    refine List.mem_map.mpr ⟨(id, previous), List.mem_filter.mpr ⟨hprevious, ?_⟩, rfl⟩
    simp [hnext, hjust]
  exact length_ofQuestion nodup_swept hmem

end Sweep

section Update

variable (builder : EpistemicModelBuilder) (nowMs : Nat) (prompts : Prompts)
  (attempt : Option EpistemicAttempt)

/-- The builder once the questions that were given up may be asked again after a while. -/
def pruned : EpistemicModelBuilder :=
  { builder with
    unanswerableUntilMs := builder.unanswerableUntilMs.retain fun untilMs => nowMs < untilMs }

def asking : List EpistemicQuestion :=
  (prompts.generateQuestions nowMs).filter fun question =>
    !(builder.pruned nowMs).unanswerableUntilMs.contains question.questionId

/-- Where the loop ends. -/
def looped : EpistemicModelBuilder × SortedMap String EpistemicQuestion :=
  (builder.asking nowMs prompts).foldl (passQuestion nowMs attempt)
    (builder.pruned nowMs, .empty)

def sweep : List EpistemicOutcome :=
  (builder.looped nowMs prompts attempt).1.swept nowMs (builder.looped nowMs prompts attempt).2

def recorded : List EpistemicOutcome :=
  closings builder.active nowMs attempt (builder.asking nowMs prompts) ++
    builder.sweep nowMs prompts attempt

variable {builder nowMs prompts attempt} {asked : EpistemicQuestion} {id : String}

theorem passed_looped : Passed (builder.pruned nowMs, .empty) (builder.looped nowMs prompts attempt)
    nowMs attempt (builder.asking nowMs prompts) :=
  passed_all nowMs attempt _ _ _

@[simp] theorem active_looped :
    (builder.looped nowMs prompts attempt).1.active = builder.active :=
  passed_looped.active

theorem journal_looped : (builder.looped nowMs prompts attempt).1.journal =
    builder.journal ++ closings builder.active nowMs attempt (builder.asking nowMs prompts) :=
  passed_looped.journal

theorem Booked.looped (h : builder.Booked) (nowMs : Nat) (prompts : Prompts)
    (attempt : Option EpistemicAttempt) : (builder.looped nowMs prompts attempt).1.Booked :=
  passed_looped.booked ⟨h.recent, h.resolved, h.gain⟩

theorem update_eq : builder.update nowMs prompts attempt =
    let swept := (builder.sweep nowMs prompts attempt).foldl recordOutcome
      (builder.looped nowMs prompts attempt).1
    { swept with
      active := (builder.looped nowMs prompts attempt).2
      metrics := { swept.metrics with
        unresolvedQuestions := (builder.looped nowMs prompts attempt).2.entries.length } } := rfl

theorem active_update : (builder.update nowMs prompts attempt).active =
    (builder.looped nowMs prompts attempt).2 := by
  rw [update_eq]

theorem Booked.foldl (h : builder.Booked) (outcomes : List EpistemicOutcome) :
    (outcomes.foldl EpistemicModelBuilder.recordOutcome builder).Booked := by
  induction outcomes generalizing builder with
  | nil => exact h
  | cons outcome outcomes ih => exact ih (h.recordOutcome outcome)

theorem journal_foldl (builder : EpistemicModelBuilder) (outcomes : List EpistemicOutcome) :
    (outcomes.foldl recordOutcome builder).journal = builder.journal ++ outcomes := by
  induction outcomes generalizing builder with
  | nil => simp
  | cons outcome outcomes ih =>
    rw [List.foldl_cons, ih]
    simp [recordOutcome]

theorem journal_update : (builder.update nowMs prompts attempt).journal =
    builder.journal ++ builder.recorded nowMs prompts attempt := by
  rw [update_eq, recorded]
  simp [journal_foldl, journal_looped]

theorem Booked.update (h : builder.Booked) (nowMs : Nat) (prompts : Prompts)
    (attempt : Option EpistemicAttempt) : (builder.update nowMs prompts attempt).Booked := by
  have hbooked := (h.looped nowMs prompts attempt).foldl (builder.sweep nowMs prompts attempt)
  rw [update_eq]
  exact ⟨hbooked.recent, hbooked.resolved, hbooked.gain⟩

/-! ### Questions of an update -/

theorem nodup_asking :
    ((builder.asking nowMs prompts).map EpistemicQuestion.questionId).Nodup :=
  (prompts.nodup_questionId nowMs).sublist (List.filter_sublist.map _)

theorem active_of_givesUp (hasked : asked ∈ builder.asking nowMs prompts)
    (hgives : GivesUp builder.active attempt asked) :
    builder.active.contains asked.questionId = true := by
  rw [SortedMap.contains_eq_isSome]
  cases hprevious : builder.active.get? asked.questionId with
  | some previous => rfl
  | none =>
    obtain ⟨prompt, -, rfl⟩ := List.mem_map.mp (List.mem_of_mem_filter hasked)
    have hattempts : 3 ≤ (merged builder.active attempt (question nowMs prompt)).attempts :=
      hgives.1
    rw [merged, hprevious] at hattempts
    exact absurd hattempts (Nat.not_succ_le_zero 2)

theorem active_of_betters (hbetters : Betters builder.active asked) :
    builder.active.contains asked.questionId = true := by
  obtain ⟨previous, hprevious, -⟩ := hbetters
  rw [SortedMap.contains_eq_isSome, Option.mem_def.mp hprevious]
  rfl

theorem not_improved_of_neither (hopen : ¬Closes builder.active attempt asked)
    (hgone : ¬Stays builder.active attempt asked) :
    ¬Betters builder.active asked ∧ ¬GivesUp builder.active attempt asked := by
  have hgives : ¬GivesUp builder.active attempt asked := fun hgives => hopen (.inr hgives)
  have hsettled : asked.currentUncertainty ≤ 0.20 :=
    not_lt.mp fun huncertain => hgone ⟨hgives, huncertain⟩
  exact ⟨fun hbetters => hopen (.inl ⟨hbetters, hsettled⟩), hgives⟩

theorem active_of_closes (hasked : asked ∈ builder.asking nowMs prompts)
    (hcloses : Closes builder.active attempt asked) :
    builder.active.contains asked.questionId = true :=
  hcloses.elim (fun h => active_of_betters h.1) (active_of_givesUp hasked)

theorem contains_looped : (builder.looped nowMs prompts attempt).2.contains id = true ↔
    ∃ asked ∈ builder.asking nowMs prompts, asked.questionId = id ∧
      Stays builder.active attempt asked := by
  rw [passed_looped.kept]
  simp [SortedMap.contains_eq_isSome, pruned]

theorem stays_iff (hasked : asked ∈ builder.asking nowMs prompts) :
    (builder.looped nowMs prompts attempt).2.contains asked.questionId = true ↔
      Stays builder.active attempt asked := by
  rw [contains_looped]
  constructor
  · rintro ⟨other, hother, hid, hstays⟩
    exact eq_of_questionId nodup_asking hother hasked hid ▸ hstays
  · exact fun hstays => ⟨asked, hasked, rfl, hstays⟩

theorem not_stays_of_closes (hcloses : Closes builder.active attempt asked) :
    ¬Stays builder.active attempt asked := by
  rintro ⟨hgives, huncertain⟩
  rcases hcloses with ⟨-, hsettled⟩ | hcloses
  · exact absurd huncertain (not_lt.mpr hsettled)
  · exact hgives hcloses

theorem resolvedCount_sweep (hactive : builder.active.contains id = true)
    (hgone : (builder.looped nowMs prompts attempt).2.contains id = false)
    (hjust : (builder.looped nowMs prompts attempt).1.justResolved id = false) :
    resolvedCount (ofQuestion id (builder.sweep nowMs prompts attempt)) = 1 := by
  have hlooped : (builder.looped nowMs prompts attempt).1.active.contains id = true := by
    rwa [active_looped]
  rw [sweep, resolvedCount_eq_length, length_ofQuestion_swept hlooped hgone hjust]
  exact fun outcome houtcome => (of_mem_swept (mem_ofQuestion.mp houtcome).1).1

theorem ofQuestion_sweep_of_not (h : builder.active.contains id = false ∨
    (builder.looped nowMs prompts attempt).2.contains id = true ∨
      (builder.looped nowMs prompts attempt).1.justResolved id = true) :
    ofQuestion id (builder.sweep nowMs prompts attempt) = [] :=
  ofQuestion_swept_of_not (by rwa [active_looped])

theorem justResolved_looped (h : builder.Booked) :
    (builder.looped nowMs prompts attempt).1.justResolved id =
      (((closings builder.active nowMs attempt (builder.asking nowMs prompts)).getLast?.or
        builder.recentOutcomes.getLast?).any fun outcome =>
          outcome.questionId = id && outcome.resolved) := by
  have hrecent := (h.looped nowMs prompts attempt).recent
  have hpos : 0 < outcomeHistoryLimit := by decide
  rw [justResolved, hrecent, getLast?_rtake _ hpos, journal_looped, List.getLast?_append,
    h.recent, getLast?_rtake _ hpos]

/-! ### The accounts of an update -/

/-- What an update owes to the questions that it closes. -/
structure Accounts (before after : EpistemicModelBuilder) (recorded : List EpistemicOutcome) :
    Prop where
  journal : after.journal = before.journal ++ recorded
  closed : ∀ id, before.active.contains id = true → after.active.contains id = false →
    resolvedCount (ofQuestion id recorded) = 1
  others : ∀ id, before.active.contains id = false ∨ after.active.contains id = true →
    resolvedCount (ofQuestion id recorded) = 0
  resolved : after.metrics.resolvedQuestions =
    before.metrics.resolvedQuestions + resolvedCount recorded
  gain : after.metrics.totalInformationGain =
    before.metrics.totalInformationGain + totalGain recorded
  alone : ∀ outcome ∈ recorded, outcome.unanswerable = true →
    ofQuestion outcome.questionId recorded = [outcome]

variable (builder nowMs prompts attempt) in
/-- An update in which the sweep tells what the loop has closed: no question is given up that is less
uncertain, none records anything after one that closes, and if none records anything, the last
outcome of before is not of an active question that is not asked again. -/
structure Orderly : Prop where
  single : ∀ asked ∈ builder.asking nowMs prompts, Betters builder.active asked →
    ¬GivesUp builder.active attempt asked
  lastly : ∀ first asked rest, builder.asking nowMs prompts = first ++ asked :: rest →
    Closes builder.active attempt asked →
      ∀ later ∈ rest, ¬Betters builder.active later ∧ ¬GivesUp builder.active attempt later
  fresh : (∀ asked ∈ builder.asking nowMs prompts, ¬Betters builder.active asked ∧
      ¬GivesUp builder.active attempt asked) →
    ∀ outcome ∈ builder.recentOutcomes.getLast?, outcome.resolved = true →
      builder.active.contains outcome.questionId = true →
        ∃ asked ∈ builder.asking nowMs prompts, asked.questionId = outcome.questionId ∧
          0.20 < asked.currentUncertainty

/-- A question that closes is the only one to record anything from there on, so its last outcome is
the last of the loop. -/
theorem getLast?_closings (h : builder.Orderly nowMs prompts attempt)
    (hasked : asked ∈ builder.asking nowMs prompts)
    (hcloses : Closes builder.active attempt asked) :
    (closings builder.active nowMs attempt (builder.asking nowMs prompts)).getLast? =
      (loopOutcomes builder.active nowMs attempt asked).getLast? := by
  obtain ⟨first, rest, heq⟩ := List.append_of_mem hasked
  have hrest : closings builder.active nowMs attempt rest = [] :=
    closings_eq_nil.mpr (h.lastly first asked rest heq hcloses)
  have hnil : loopOutcomes builder.active nowMs attempt asked ≠ [] := by
    rw [Ne, loopOutcomes_eq_nil]
    rintro ⟨hbetters, hgives⟩
    exact hcloses.elim (fun hsettled => hbetters hsettled.1) hgives
  rw [closings] at hrest
  rw [heq, closings]
  simp [hrest, List.getLast?_append, List.getLast?_eq_some_getLast hnil]

theorem loopOutcomes_of_closes (h : builder.Orderly nowMs prompts attempt)
    (hasked : asked ∈ builder.asking nowMs prompts)
    (hcloses : Closes builder.active attempt asked) :
    ∃ outcome, loopOutcomes builder.active nowMs attempt asked = [outcome] ∧
      outcome.resolved = true := by
  by_cases hbetters : Betters builder.active asked
  · have hgives := h.single asked hasked hbetters
    have hsettled : asked.currentUncertainty ≤ 0.20 :=
      hcloses.elim And.right fun hgiven => absurd hgiven hgives
    obtain ⟨previous, -, heq⟩ := betterments_of nowMs hbetters
    refine ⟨asked.improvement previous nowMs, ?_, decide_eq_true hsettled⟩
    rw [loopOutcomes, heq, surrenders_of_not hgives, List.append_nil]
  · have hgives : GivesUp builder.active attempt asked :=
      hcloses.elim (fun hsettled => absurd hsettled.1 hbetters) id
    refine ⟨(merged builder.active attempt asked).givenUp nowMs, ?_, rfl⟩
    rw [loopOutcomes, betterments_of_not hbetters, surrenders_of hgives, List.nil_append]

theorem justResolved_of_closes (hbooked : builder.Booked)
    (h : builder.Orderly nowMs prompts attempt) (hasked : asked ∈ builder.asking nowMs prompts)
    (hcloses : Closes builder.active attempt asked) :
    (builder.looped nowMs prompts attempt).1.justResolved asked.questionId = true := by
  obtain ⟨outcome, heq, hresolved⟩ := loopOutcomes_of_closes h hasked hcloses
  have hmem : outcome ∈ loopOutcomes builder.active nowMs attempt asked := by
    rw [heq]
    exact List.mem_singleton_self outcome
  have hid := questionId_of_mem_loopOutcomes hmem
  rw [justResolved_looped hbooked, getLast?_closings h hasked hcloses, heq]
  simp [hid, hresolved]

theorem justResolved_of_silent (hbooked : builder.Booked)
    (hsilent : ofQuestion id
      (closings builder.active nowMs attempt (builder.asking nowMs prompts)) = [])
    (hjust : (builder.looped nowMs prompts attempt).1.justResolved id = true) :
    (∀ asked ∈ builder.asking nowMs prompts, ¬Betters builder.active asked ∧
      ¬GivesUp builder.active attempt asked) ∧
      ∃ outcome ∈ builder.recentOutcomes.getLast?, outcome.questionId = id ∧
        outcome.resolved = true := by
  rw [justResolved_looped hbooked] at hjust
  cases hlast : (closings builder.active nowMs attempt
      (builder.asking nowMs prompts)).getLast? with
  | none =>
    rw [hlast, Option.none_or, Option.any_eq_true] at hjust
    obtain ⟨outcome, houtcome, hboth⟩ := hjust
    have hmatches : outcome.questionId = id ∧ outcome.resolved = true := by simpa using hboth
    exact ⟨closings_eq_nil.mp (List.getLast?_eq_none_iff.mp hlast), outcome, houtcome, hmatches⟩
  | some outcome =>
    have hmatches : outcome.questionId = id ∧ outcome.resolved = true := by
      simpa [hlast] using hjust
    have hmem := mem_ofQuestion.mpr ⟨List.mem_of_getLast? hlast, hmatches.1⟩
    simp [hsilent] at hmem

theorem closed_of_orderly (hbooked : builder.Booked) (h : builder.Orderly nowMs prompts attempt)
    (hactive : builder.active.contains id = true)
    (hgone : (builder.looped nowMs prompts attempt).2.contains id = false) :
    resolvedCount (ofQuestion id (builder.recorded nowMs prompts attempt)) = 1 := by
  rw [recorded, ofQuestion_append, resolvedCount_append]
  by_cases hcloses : ∃ asked ∈ builder.asking nowMs prompts, asked.questionId = id ∧
      Closes builder.active attempt asked
  · obtain ⟨asked, hasked, rfl, hcloses⟩ := hcloses
    obtain ⟨outcome, heq, hresolved⟩ := loopOutcomes_of_closes h hasked hcloses
    have hjust := justResolved_of_closes hbooked h hasked hcloses
    rw [ofQuestion_closings nodup_asking hasked, heq,
      ofQuestion_sweep_of_not (.inr (.inr hjust))]
    simp [resolvedCount, hresolved]
  · have hsilent : ofQuestion id (closings builder.active nowMs attempt
        (builder.asking nowMs prompts)) = [] := by
      refine ofQuestion_eq_nil fun outcome houtcome hid => ?_
      obtain ⟨asked, hasked, heq, hmem⟩ := asked_of_mem_closings houtcome
      have hopen : ¬Closes builder.active attempt asked :=
        fun hclosed => hcloses ⟨asked, hasked, heq.trans hid, hclosed⟩
      have hstays : ¬Stays builder.active attempt asked := by
        rw [← stays_iff hasked, heq, hid, hgone]
        simp
      exact List.ne_nil_of_mem hmem
        (loopOutcomes_eq_nil.mpr (not_improved_of_neither hopen hstays))
    have hjust : (builder.looped nowMs prompts attempt).1.justResolved id = false := by
      by_contra hjust
      obtain ⟨hnone, outcome, houtcome, rfl, hresolved⟩ :=
        justResolved_of_silent hbooked hsilent (Bool.of_not_eq_false hjust)
      obtain ⟨asked, hasked, heq, huncertain⟩ :=
        h.fresh hnone outcome houtcome hresolved hactive
      have hstays := (stays_iff hasked).mpr ⟨(hnone asked hasked).2, huncertain⟩
      rw [heq, hgone] at hstays
      cases hstays
    rw [hsilent, resolvedCount_sweep hactive hgone hjust]
    rfl

theorem others_of_update (h : builder.active.contains id = false ∨
    (builder.looped nowMs prompts attempt).2.contains id = true) :
    resolvedCount (ofQuestion id (builder.recorded nowMs prompts attempt)) = 0 := by
  rw [recorded, ofQuestion_append,
    ofQuestion_sweep_of_not (h.elim .inl fun hstays => .inr (.inl hstays)), List.append_nil]
  refine resolvedCount_eq_zero fun outcome houtcome => ?_
  obtain ⟨hclosing, hid⟩ := mem_ofQuestion.mp houtcome
  obtain ⟨asked, hasked, heq, hmem⟩ := asked_of_mem_closings hclosing
  by_contra hresolved
  have hcloses := closes_of_resolved hmem (Bool.of_not_eq_false hresolved)
  rcases h with hnew | hstays
  · rw [← hid, ← heq, active_of_closes hasked hcloses] at hnew
    cases hnew
  · rw [← hid, ← heq, stays_iff hasked] at hstays
    exact not_stays_of_closes hcloses hstays

theorem alone_of_orderly (hbooked : builder.Booked) (h : builder.Orderly nowMs prompts attempt)
    {outcome : EpistemicOutcome} (houtcome : outcome ∈ builder.recorded nowMs prompts attempt)
    (hgiven : outcome.unanswerable = true) :
    ofQuestion outcome.questionId (builder.recorded nowMs prompts attempt) = [outcome] := by
  rcases List.mem_append.mp houtcome with hclosing | hswept
  · obtain ⟨asked, hasked, heq, hmem⟩ := asked_of_mem_closings hclosing
    have hgives := givesUp_of_unanswerable hmem hgiven
    have hcloses : Closes builder.active attempt asked := .inr hgives
    obtain ⟨only, honly, -⟩ := loopOutcomes_of_closes h hasked hcloses
    obtain rfl : outcome = only := List.mem_singleton.mp (honly ▸ hmem)
    rw [← heq, recorded, ofQuestion_append, ofQuestion_closings nodup_asking hasked, honly,
      ofQuestion_sweep_of_not (.inr (.inr (justResolved_of_closes hbooked h hasked hcloses)))]
    rfl
  · rw [(of_mem_swept hswept).2.1] at hgiven
    cases hgiven

theorem accounts_of_orderly (hbooked : builder.Booked)
    (h : builder.Orderly nowMs prompts attempt) :
    Accounts builder (builder.update nowMs prompts attempt)
      (builder.recorded nowMs prompts attempt) where
  journal := journal_update
  closed _ hactive hgone := closed_of_orderly hbooked h hactive (active_update ▸ hgone)
  others _ hother := others_of_update (active_update ▸ hother)
  resolved := by
    rw [(hbooked.update nowMs prompts attempt).resolved, hbooked.resolved, journal_update,
      resolvedCount_append]
  gain := by
    rw [(hbooked.update nowMs prompts attempt).gain, hbooked.gain, journal_update,
      totalGain_append]
  alone _ := alone_of_orderly hbooked h

theorem lastly_of_closed (hbooked : builder.Booked)
    (hclosed : ∀ id, builder.active.contains id = true →
      (builder.looped nowMs prompts attempt).2.contains id = false →
        resolvedCount (ofQuestion id (builder.recorded nowMs prompts attempt)) = 1)
    {first rest : List EpistemicQuestion}
    (heq : builder.asking nowMs prompts = first ++ asked :: rest)
    (hcloses : Closes builder.active attempt asked) :
    ∀ later ∈ rest, ¬Betters builder.active later ∧ ¬GivesUp builder.active attempt later := by
  have hasked : asked ∈ builder.asking nowMs prompts := by
    rw [heq]
    simp
  by_contra hlater
  have hrest : closings builder.active nowMs attempt rest ≠ [] := fun hnil =>
    hlater (closings_eq_nil.mp hnil)
  have hgone : (builder.looped nowMs prompts attempt).2.contains asked.questionId = false := by
    rw [Bool.eq_false_iff, Ne, stays_iff hasked]
    exact not_stays_of_closes hcloses
  have hjust : (builder.looped nowMs prompts attempt).1.justResolved asked.questionId = false := by
    have hlast : (closings builder.active nowMs attempt
        (builder.asking nowMs prompts)).getLast? =
          (closings builder.active nowMs attempt rest).getLast? := by
      rw [heq, closings, List.flatMap_append, List.flatMap_cons, ← List.append_assoc]
      exact List.getLast?_append_of_ne_nil _ hrest
    obtain ⟨other, hother⟩ := Option.isSome_iff_exists.mp (List.getLast?_isSome.mpr hrest)
    obtain ⟨later, hmem, hid, -⟩ := asked_of_mem_closings (List.mem_of_getLast? hother)
    have hne : other.questionId ≠ asked.questionId := by
      have hnodup : ((builder.asking nowMs prompts).map EpistemicQuestion.questionId).Nodup :=
        nodup_asking
      rw [heq, List.map_append, List.map_cons, List.nodup_append, List.nodup_cons] at hnodup
      intro hsame
      exact hnodup.2.1.1 (List.mem_map.mpr ⟨later, hmem, hid.trans hsame⟩)
    rw [justResolved_looped hbooked, hlast, hother]
    simp [hne]
  have hone := hclosed _ (active_of_closes hasked hcloses) hgone
  have hloop : 0 < resolvedCount (loopOutcomes builder.active nowMs attempt asked) :=
    resolvedCount_pos_of_closes hcloses
  rw [recorded, ofQuestion_append, resolvedCount_append, ofQuestion_closings nodup_asking hasked,
    resolvedCount_sweep (active_of_closes hasked hcloses) hgone hjust] at hone
  omega

theorem orderly_of_accounts (hbooked : builder.Booked) {outcomes : List EpistemicOutcome}
    (h : Accounts builder (builder.update nowMs prompts attempt) outcomes) :
    builder.Orderly nowMs prompts attempt := by
  obtain rfl : builder.recorded nowMs prompts attempt = outcomes :=
    List.append_cancel_left (journal_update.symm.trans h.journal)
  have hclosed := h.closed
  rw [active_update] at hclosed
  exact {
    single := fun asked hasked hbetters hgives => by
      obtain ⟨previous, -, heq⟩ := betterments_of nowMs hbetters
      have hloop : loopOutcomes builder.active nowMs attempt asked =
          [asked.improvement previous nowMs,
            (merged builder.active attempt asked).givenUp nowMs] := by
        rw [loopOutcomes, heq, surrenders_of hgives]
        rfl
      have hmem : (merged builder.active attempt asked).givenUp nowMs ∈
          builder.recorded nowMs prompts attempt := by
        refine List.mem_append_left _ (List.mem_flatMap.mpr ⟨asked, hasked, ?_⟩)
        simp [hloop]
      have halone := congrArg List.length (h.alone _ hmem rfl)
      rw [show ((merged builder.active attempt asked).givenUp nowMs).questionId =
        asked.questionId from questionId_merged, recorded, ofQuestion_append,
        ofQuestion_closings nodup_asking hasked, hloop] at halone
      simp at halone
    lastly := fun first asked rest heq hcloses => lastly_of_closed hbooked hclosed heq hcloses
    fresh := fun hnone outcome houtcome hresolved hactive => by
      have hnil : closings builder.active nowMs attempt (builder.asking nowMs prompts) = [] :=
        closings_eq_nil.mpr hnone
      have hjust : (builder.looped nowMs prompts attempt).1.justResolved
          outcome.questionId = true := by
        rw [justResolved_looped hbooked, hnil, Option.mem_def.mp houtcome]
        simp [hresolved]
      have hstays : (builder.looped nowMs prompts attempt).2.contains
          outcome.questionId = true := by
        by_contra hgone
        have hone := hclosed _ hactive (Bool.eq_false_iff.mpr hgone)
        rw [recorded, hnil, List.nil_append,
          ofQuestion_sweep_of_not (.inr (.inr hjust))] at hone
        cases hone
      obtain ⟨asked, hasked, hid, -, huncertain⟩ := contains_looped.mp hstays
      exact ⟨asked, hasked, hid, huncertain⟩ }

end Update

structure Tick where
  nowMs : Nat
  prompts : Prompts
  attempt : Option EpistemicAttempt := none

def step (builder : EpistemicModelBuilder) (tick : Tick) : EpistemicModelBuilder :=
  builder.update tick.nowMs tick.prompts tick.attempt

theorem booked_run (ticks : List Tick) : (after step {} ticks).Booked :=
  after_invariant ⟨rfl, rfl, rfl⟩
    (fun _ tick h => h.update tick.nowMs tick.prompts tick.attempt) ticks

/-- Every update of a run is accounted for just when every one is orderly. -/
theorem accounts_iff (ticks : List Tick) :
    EachStep step {} (fun builder tick =>
        ∃ outcomes, Accounts builder (builder.step tick) outcomes) ticks ↔
      EachStep step {} (fun builder tick =>
        builder.Orderly tick.nowMs tick.prompts tick.attempt) ticks := by
  constructor
  · intro h past tick hpast
    obtain ⟨outcomes, haccounts⟩ := h past tick hpast
    exact orderly_of_accounts (booked_run past) haccounts
  · intro h past tick hpast
    exact ⟨_, accounts_of_orderly (booked_run past) (h past tick hpast)⟩

/-- Nothing is asked. -/
def quiet : Prompts where
  prompts := []
  distinct := List.nodup_nil

/-- The charger is nowhere to be seen. -/
def missingCharger : Prompts where
  prompts := [{
    family := .chargerIdentityOrBearing
    subject := "entity:charger:unknown"
    uncertainty := 1
    importance := 1 / 2
    provenance := []
    alternatives := ["charger", "not_charger", "bearing_unknown"] }]
  distinct := List.nodup_singleton _

/-- A question that is opened again and closes with nothing recorded in between: the outcome of its
first closing passes for that of the second. -/
theorem reopened_unrecorded : ¬EachStep step {} (fun builder tick =>
    ∃ outcomes, Accounts builder (builder.step tick) outcomes)
    [⟨100, missingCharger, none⟩, ⟨200, quiet, none⟩, ⟨300, missingCharger, none⟩,
      ⟨400, quiet, none⟩] := by
  intro h
  obtain ⟨outcomes, haccounts⟩ := h [⟨100, missingCharger, none⟩, ⟨200, quiet, none⟩,
    ⟨300, missingCharger, none⟩] ⟨400, quiet, none⟩ (List.prefix_refl _)
  have hlength := congrArg List.length haccounts.journal
  have hsame : (step (after step {} [⟨100, missingCharger, none⟩, ⟨200, quiet, none⟩,
      ⟨300, missingCharger, none⟩]) ⟨400, quiet, none⟩).journal.length =
      (after step {} [⟨100, missingCharger, none⟩, ⟨200, quiet, none⟩,
        ⟨300, missingCharger, none⟩]).journal.length := by
    decide +kernel
  rw [hsame, List.length_append] at hlength
  obtain rfl : outcomes = [] := List.length_eq_zero_iff.mp (by omega)
  have hone := haccounts.closed "question:charger:entity:charger:unknown" (by decide +kernel)
    (by decide +kernel)
  cases hone

end EpistemicModelBuilder

end Netherwick.Epistemic
