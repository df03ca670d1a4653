import Mathlib.Data.List.DropRight
import Netherwick.Semantic.Relations

/-! # Epistemic questions

What the robot does not know it asks itself: a question stays active while its uncertainty is high,
and its outcome is recorded when it is answered, given up or not asked any more. -/

namespace Netherwick.Epistemic

open Netherwick.Lib
open Semantic (EvidenceRef clamp01)

def outcomeHistoryLimit : Nat := 16

inductive EpistemicQuestionFamily where
  | chargerIdentityOrBearing | pathPassability | clearanceSide | personIdentity | soundDirection
  | placeFamiliarity | skillFailureCause | predictedDanger | other
  deriving DecidableEq, Repr

def familyKey : EpistemicQuestionFamily → String
  | .chargerIdentityOrBearing => "charger"
  | .pathPassability => "path"
  | .clearanceSide => "clearance"
  | .personIdentity => "person_identity"
  | .soundDirection => "sound_direction"
  | .placeFamiliarity => "place"
  | .skillFailureCause => "skill_failure"
  | .predictedDanger => "predicted_danger"
  | .other => "other"

structure EpistemicQuestion where
  questionId : String
  family : EpistemicQuestionFamily
  subject : String
  alternatives : List String
  currentUncertainty : ℚ
  initialUncertainty : ℚ
  importance : ℚ
  createdAtMs : Nat
  updatedAtMs : Nat
  expiryMs : Option Nat
  attempts : Nat
  attemptedBehaviors : List String
  provenance : List EvidenceRef

structure EpistemicAttempt where
  questionId : String
  behaviorId : String

structure EpistemicOutcome where
  questionId : String
  observedAtMs : Nat
  uncertaintyBefore : ℚ
  uncertaintyAfter : ℚ
  informationGain : ℚ
  evidenceRefs : List EvidenceRef
  resolved : Bool
  unanswerable : Bool

structure EpistemicMetrics where
  totalInformationGain : ℚ := 0
  resolvedQuestions : Nat := 0
  unresolvedQuestions : Nat := 0
  repeatedQuestionCount : Nat := 0

/-- What the world gives cause to ask. -/
structure Prompt where
  family : EpistemicQuestionFamily
  subject : String
  uncertainty : ℚ
  importance : ℚ
  provenance : List EvidenceRef
  alternatives : List String

def question (nowMs : Nat) (prompt : Prompt) : EpistemicQuestion where
  questionId := "question:" ++ familyKey prompt.family ++ ":" ++ prompt.subject
  family := prompt.family
  subject := prompt.subject
  alternatives := prompt.alternatives
  currentUncertainty := clamp01 prompt.uncertainty
  initialUncertainty := clamp01 prompt.uncertainty
  importance := clamp01 prompt.importance
  createdAtMs := nowMs
  updatedAtMs := nowMs
  expiryMs := some (nowMs + 30000)
  attempts := 0
  attemptedBehaviors := []
  provenance := prompt.provenance

/-- The prompts of one update: `generate_questions` asks one question of a family at most. -/
structure Prompts where
  prompts : List Prompt
  distinct : (prompts.map Prompt.family).Nodup

def Prompts.generateQuestions (prompts : Prompts) (nowMs : Nat) : List EpistemicQuestion :=
  prompts.prompts.map (question nowMs)

namespace EpistemicQuestion

variable (asked previous : EpistemicQuestion)

/-- The question with the history of the one that it repeats. -/
def carriedOn (attempt : Option EpistemicAttempt) : EpistemicQuestion :=
  let carried := { asked with
    createdAtMs := previous.createdAtMs
    attempts := previous.attempts
    initialUncertainty := previous.initialUncertainty
    attemptedBehaviors := previous.attemptedBehaviors }
  match attempt.filter fun attempt =>
      attempt.questionId = asked.questionId &&
        !previous.attemptedBehaviors.contains attempt.behaviorId with
  | none => carried
  | some attempt => { carried with
      attempts := min 0xFFFFFFFF (previous.attempts + 1)
      attemptedBehaviors := previous.attemptedBehaviors ++ [attempt.behaviorId] }

/-- What is recorded when a question is less uncertain than it was. -/
def improvement (nowMs : Nat) : EpistemicOutcome where
  questionId := asked.questionId
  observedAtMs := nowMs
  uncertaintyBefore := previous.currentUncertainty
  uncertaintyAfter := asked.currentUncertainty
  informationGain := clamp01 (previous.currentUncertainty - asked.currentUncertainty)
  evidenceRefs := asked.provenance
  resolved := asked.currentUncertainty ≤ 0.20
  unanswerable := false

def givenUp (nowMs : Nat) : EpistemicOutcome where
  questionId := asked.questionId
  observedAtMs := nowMs
  uncertaintyBefore := asked.initialUncertainty
  uncertaintyAfter := asked.currentUncertainty
  informationGain := max (asked.initialUncertainty - asked.currentUncertainty) 0
  evidenceRefs := asked.provenance
  resolved := true
  unanswerable := true

/-- What is recorded when a question is not asked any more. -/
def missing (nowMs : Nat) : EpistemicOutcome where
  questionId := previous.questionId
  observedAtMs := nowMs
  uncertaintyBefore := previous.currentUncertainty
  uncertaintyAfter := 0
  informationGain := previous.currentUncertainty
  evidenceRefs := previous.provenance
  resolved := true
  unanswerable := false

/-- Less uncertain than before. -/
def Improved : Prop := asked.currentUncertainty + 0.01 < previous.currentUncertainty

instance : Decidable (asked.Improved previous) := inferInstanceAs (Decidable (_ < _))

/-- Attempted three times and still as uncertain. -/
def Hopeless : Prop :=
  3 ≤ asked.attempts ∧ asked.initialUncertainty ≤ asked.currentUncertainty + 0.05

instance : Decidable asked.Hopeless := inferInstanceAs (Decidable (_ ∧ _))

end EpistemicQuestion

structure EpistemicModelBuilder where
  active : SortedMap String EpistemicQuestion := .empty
  recentOutcomes : List EpistemicOutcome := []
  metrics : EpistemicMetrics := {}
  unanswerableUntilMs : SortedMap String Nat := .empty
  /-- Every outcome that was ever recorded; the program itself keeps the recent ones only. -/
  journal : List EpistemicOutcome := []

namespace EpistemicModelBuilder

variable (builder : EpistemicModelBuilder)

def recordOutcome (outcome : EpistemicOutcome) : EpistemicModelBuilder :=
  { builder with
    metrics := { builder.metrics with
      totalInformationGain := builder.metrics.totalInformationGain + outcome.informationGain
      resolvedQuestions :=
        if outcome.resolved then builder.metrics.resolvedQuestions + 1
        else builder.metrics.resolvedQuestions }
    recentOutcomes := (builder.recentOutcomes ++ [outcome]).rtake outcomeHistoryLimit
    journal := builder.journal ++ [outcome] }

def countRepeated : EpistemicModelBuilder :=
  { builder with metrics := { builder.metrics with
      repeatedQuestionCount := builder.metrics.repeatedQuestionCount + 1 } }

def giveUp (nowMs : Nat) (question : EpistemicQuestion) : EpistemicModelBuilder :=
  { builder with unanswerableUntilMs :=
      builder.unanswerableUntilMs.insert question.questionId (nowMs + 30000) }

def repeatQuestion (nowMs : Nat) (asked previous : EpistemicQuestion) : EpistemicModelBuilder :=
  if asked.Improved previous then builder.recordOutcome (asked.improvement previous nowMs)
  else if previous.updatedAtMs ≠ nowMs then builder.countRepeated
  else builder

/-- One round of the loop over the generated questions, and the questions that stay active. -/
def passQuestion (nowMs : Nat) (attempt : Option EpistemicAttempt)
    (state : EpistemicModelBuilder × SortedMap String EpistemicQuestion)
    (asked : EpistemicQuestion) : EpistemicModelBuilder × SortedMap String EpistemicQuestion :=
  let (builder, next) := state
  let (builder, question) := match builder.active.get? asked.questionId with
    | none => (builder, asked)
    | some previous =>
      (builder.repeatQuestion nowMs asked previous, asked.carriedOn previous attempt)
  if question.Hopeless then
    ((builder.giveUp nowMs question).recordOutcome (question.givenUp nowMs), next)
  else if 0.20 < question.currentUncertainty then
    (builder, next.insert question.questionId question)
  else (builder, next)

def justResolved (questionId : String) : Bool :=
  builder.recentOutcomes.getLast?.any fun outcome =>
    outcome.questionId = questionId && outcome.resolved

def update (nowMs : Nat) (prompts : Prompts) (attempt : Option EpistemicAttempt) :
    EpistemicModelBuilder :=
  let builder := { builder with
    unanswerableUntilMs := builder.unanswerableUntilMs.retain fun untilMs => nowMs < untilMs }
  let generated := (prompts.generateQuestions nowMs).filter fun question =>
    !builder.unanswerableUntilMs.contains question.questionId
  let (builder, next) := generated.foldl (passQuestion nowMs attempt) (builder, .empty)
  let resolvedMissing := (builder.active.entries.filter fun entry =>
    !next.contains entry.1 && !builder.justResolved entry.1).map fun entry =>
      { entry.2.missing nowMs with questionId := entry.1 }
  let builder := resolvedMissing.foldl recordOutcome builder
  { builder with
    active := next
    metrics := { builder.metrics with unresolvedQuestions := next.entries.length } }

end EpistemicModelBuilder

end Netherwick.Epistemic
