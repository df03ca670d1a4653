import Mathlib.Data.Finset.Insert
import Mathlib.Data.Rat.Floor
import Mathlib.Data.String.Basic
import Netherwick.Lib.SortedMap

/-! # Semantic relations

A relation is kept under a text that is written from its subject, its predicate, its object and its
context. Evidence for and against it moves its confidence, each piece of evidence once. -/

namespace Netherwick.Semantic

open Netherwick.Lib

inductive SemanticNodeRef where
  | entity (id : String)
  | place (id : String)
  | person (id : String)
  | action (id : String)
  | skill (id : String)
  | behavior (id : String)
  | goal (id : String)
  | drive (id : String)
  | outcome (id : String)
  | property (id : String)
  | concept (id : String)
  | episode (id : String)
  deriving DecidableEq, Repr

namespace SemanticNodeRef

def kind : SemanticNodeRef → String
  | entity _ => "entity"
  | place _ => "place"
  | person _ => "person"
  | action _ => "action"
  | skill _ => "skill"
  | behavior _ => "behavior"
  | goal _ => "goal"
  | drive _ => "drive"
  | outcome _ => "outcome"
  | property _ => "property"
  | concept _ => "concept"
  | episode _ => "episode"

def id : SemanticNodeRef → String
  | entity id | place id | person id | action id | skill id | behavior id | goal id | drive id
  | outcome id | property id | concept id | episode id => id

def stableKey (node : SemanticNodeRef) : String := node.kind ++ ":" ++ node.id

end SemanticNodeRef

inductive SemanticPredicate where
  | affords | canBeUsedBy | requiresSkill | requiresCapability | reachableFrom | blocks | contains
  | supports | satisfiesDrive | reducesDriveError | helpsGoal | hindersGoal | restores | depletes
  | causes | contributesTo | prevents | predicts | usuallyFollowedBy | changesProperty | isA
  | instanceOf | partOf | sameEntityAs | similarTo | namedBy | locatedAt | near | belongsToEpisode
  | associatedWithPerson | requestedBy | ownedOrMaintainedBy | usedFor | servesGoal | designedFor
  | relatedTo
  deriving DecidableEq, Repr

/-- The name that `{:?}` writes. -/
def SemanticPredicate.debug : SemanticPredicate → String
  | affords => "Affords"
  | canBeUsedBy => "CanBeUsedBy"
  | requiresSkill => "RequiresSkill"
  | requiresCapability => "RequiresCapability"
  | reachableFrom => "ReachableFrom"
  | blocks => "Blocks"
  | contains => "Contains"
  | supports => "Supports"
  | satisfiesDrive => "SatisfiesDrive"
  | reducesDriveError => "ReducesDriveError"
  | helpsGoal => "HelpsGoal"
  | hindersGoal => "HindersGoal"
  | restores => "Restores"
  | depletes => "Depletes"
  | causes => "Causes"
  | contributesTo => "ContributesTo"
  | prevents => "Prevents"
  | predicts => "Predicts"
  | usuallyFollowedBy => "UsuallyFollowedBy"
  | changesProperty => "ChangesProperty"
  | isA => "IsA"
  | instanceOf => "InstanceOf"
  | partOf => "PartOf"
  | sameEntityAs => "SameEntityAs"
  | similarTo => "SimilarTo"
  | namedBy => "NamedBy"
  | locatedAt => "LocatedAt"
  | near => "Near"
  | belongsToEpisode => "BelongsToEpisode"
  | associatedWithPerson => "AssociatedWithPerson"
  | requestedBy => "RequestedBy"
  | ownedOrMaintainedBy => "OwnedOrMaintainedBy"
  | usedFor => "UsedFor"
  | servesGoal => "ServesGoal"
  | designedFor => "DesignedFor"
  | relatedTo => "RelatedTo"

inductive SemanticRelationStatus where
  | hypothesized | supported | strong | contradicted | contextLimited | deprecated
  deriving DecidableEq, Repr

inductive SemanticGroundingKind where
  | actionOutcome | intervention | predictionConfirmation | cooccurrence | humanInstruction
  | llmClaim | simulatorTeacher | consolidation | configuration | temporalSequence
  deriving DecidableEq, Repr

namespace SemanticGroundingKind

def supportsCausality : SemanticGroundingKind → Bool
  | actionOutcome | intervention | predictionConfirmation | simulatorTeacher | configuration => true
  | cooccurrence | humanInstruction | llmClaim | consolidation | temporalSequence => false

/-- The name that `{:?}` writes. -/
def debug : SemanticGroundingKind → String
  | actionOutcome => "ActionOutcome"
  | intervention => "Intervention"
  | predictionConfirmation => "PredictionConfirmation"
  | cooccurrence => "Cooccurrence"
  | humanInstruction => "HumanInstruction"
  | llmClaim => "LlmClaim"
  | simulatorTeacher => "SimulatorTeacher"
  | consolidation => "Consolidation"
  | configuration => "Configuration"
  | temporalSequence => "TemporalSequence"

end SemanticGroundingKind

structure SemanticContext where
  agent : Option String := none
  goal : Option String := none
  place : Option String := none
  episode : Option String := none
  conditions : SortedMap String String := .empty

/-- The conditions one after the other, with commas between. -/
def joinConditions : List (String × String) → String
  | [] => ""
  | [(key, value)] => key ++ "=" ++ value
  | (key, value) :: rest => key ++ "=" ++ value ++ "," ++ joinConditions rest

def SemanticContext.stableKey (context : SemanticContext) : String :=
  "agent=" ++ context.agent.getD "" ++ ";goal=" ++ context.goal.getD "" ++
    ";place=" ++ context.place.getD "" ++ ";episode=" ++ context.episode.getD "" ++
    ";conditions=" ++ joinConditions context.conditions.entries

structure EvidenceRef where
  id : String
  source : String := ""
  key : String := ""
  observedAtMs : Nat := 0
  transformationLineage : List String := []
  implementationVersion : Option String := none

structure SemanticEvidenceObservation where
  subject : SemanticNodeRef
  predicate : SemanticPredicate
  object : SemanticNodeRef
  context : SemanticContext := {}
  confidence : ℚ
  grounding : SemanticGroundingKind
  evidence : EvidenceRef
  contradicts : Bool := false

structure SemanticRelation where
  id : String
  subject : SemanticNodeRef
  predicate : SemanticPredicate
  object : SemanticNodeRef
  context : SemanticContext
  confidence : ℚ := 0
  evidenceCount : Nat := 0
  supportingEvidence : List EvidenceRef := []
  contradictingEvidence : List EvidenceRef := []
  learnedAtMs : Nat
  lastConfirmedMs : Nat
  status : SemanticRelationStatus := .hypothesized
  groundingSources : Finset SemanticGroundingKind := ∅

structure SemanticRevision where
  relationId : String
  previousConfidence : ℚ
  currentConfidence : ℚ
  reason : String

/-- `f32::EPSILON`. -/
def epsilon : ℚ := 1 / 2 ^ 23

def clamp01 (value : ℚ) : ℚ := max 0 (min 1 value)

def relationId (subject : SemanticNodeRef) (predicate : SemanticPredicate)
    (object : SemanticNodeRef) (context : SemanticContext) : String :=
  "semantic:" ++ subject.stableKey ++ ":" ++ predicate.debug ++ ":" ++ object.stableKey ++ ":" ++
    context.stableKey

/-- The list with the evidence, unless it lists evidence of that id: then nothing. -/
def pushUniqueEvidence (target : List EvidenceRef) (evidence : EvidenceRef) :
    Option (List EvidenceRef) :=
  if target.any fun existing => existing.id = evidence.id then none
  else some (target ++ [evidence])

namespace SemanticEvidenceObservation

variable (observation : SemanticEvidenceObservation)

/-- Without a causal grounding nothing is said to cause anything. -/
def groundedPredicate : SemanticPredicate :=
  if observation.predicate = .causes ∧ ¬observation.grounding.supportsCausality then .predicts
  else observation.predicate

def relationId : String :=
  Semantic.relationId observation.subject observation.groundedPredicate observation.object
    observation.context

/-- The relation as it is before its first evidence. -/
def freshRelation (nowMs : Nat) : SemanticRelation where
  id := observation.relationId
  subject := observation.subject
  predicate := observation.groundedPredicate
  object := observation.object
  context := observation.context
  learnedAtMs := nowMs
  lastConfirmedMs := nowMs

end SemanticEvidenceObservation

namespace SemanticRelation

variable (relation : SemanticRelation) (nowMs : Nat) (observation : SemanticEvidenceObservation)

def contradicted : SemanticRelation :=
  match pushUniqueEvidence relation.contradictingEvidence observation.evidence with
  | some evidence =>
    { relation with
      contradictingEvidence := evidence
      confidence := clamp01 (relation.confidence * (1 - 0.65 * clamp01 observation.confidence))
      status := .contradicted }
  | none => relation

def statusOf (conditions : SortedMap String String) (confidence : ℚ) (evidence : Nat) :
    SemanticRelationStatus :=
  if ¬conditions.entries.isEmpty then .contextLimited
  else if 0.85 ≤ confidence ∧ 2 ≤ evidence then .strong
  else if 0.50 ≤ confidence then .supported
  else .hypothesized

def supported : SemanticRelation :=
  match pushUniqueEvidence relation.supportingEvidence observation.evidence with
  | some evidence =>
    let evidenceScale := if evidence.length ≤ 1 then 1 else 0.35
    let confidence := clamp01 (1 - (1 - relation.confidence) *
      (1 - clamp01 observation.confidence * evidenceScale))
    { relation with
      supportingEvidence := evidence
      confidence := confidence
      lastConfirmedMs := nowMs
      status := statusOf relation.context.conditions confidence evidence.length }
  | none => relation

def integrate : SemanticRelation :=
  let grounded := { relation with
    groundingSources := insert observation.grounding relation.groundingSources }
  let weighed :=
    if observation.contradicts then grounded.contradicted observation
    else grounded.supported nowMs observation
  { weighed with evidenceCount := weighed.supportingEvidence.length % 2 ^ 32 }

end SemanticRelation

/-- The relations, and the revisions that came of the observations. -/
structure SemanticGraph where
  relations : SortedMap String SemanticRelation := .empty
  revisions : List SemanticRevision := []

def SemanticGraph.integrateObservation (graph : SemanticGraph) (nowMs : Nat)
    (observation : SemanticEvidenceObservation) : SemanticGraph :=
  let id := observation.relationId
  let previous := graph.relations.get? id
  let previousConfidence := (previous.map SemanticRelation.confidence).getD 0
  let relation := (previous.getD (observation.freshRelation nowMs)).integrate nowMs observation
  { relations := graph.relations.insert id relation
    revisions :=
      if epsilon < |relation.confidence - previousConfidence| then
        graph.revisions ++ [
          { relationId := id
            previousConfidence := previousConfidence
            currentConfidence := relation.confidence
            reason :=
              if observation.contradicts then "contradicting grounded evidence"
              else "support from " ++ observation.grounding.debug }]
      else graph.revisions }

end Netherwick.Semantic
