import Mathlib.Data.Finset.Insert
import Mathlib.Data.List.Nodup
import Mathlib.Tactic.NormNum
import Netherwick.Lib.Run
import Netherwick.Lib.Text
import Netherwick.Semantic.Relations

/-! # Identity of semantic relations

Two observations go into one relation when they are written as one text. Separators inside the fields
can make the texts of different relations alike; without them the text tells every field. -/

namespace Netherwick.Semantic

open Netherwick.Lib

section Reading

namespace SemanticNodeRef

theorem colon_not_mem_kind (node : SemanticNodeRef) : ':' ∉ node.kind.toList := by
  cases node <;> simp [kind]

theorem eq_of_kind_id {a b : SemanticNodeRef} (hkind : a.kind = b.kind) (hid : a.id = b.id) :
    a = b := by
  cases a <;> cases b <;> first
    | exact congrArg _ hid
    | exact absurd hkind (by simp [kind])

end SemanticNodeRef

namespace SemanticPredicate

def all : List SemanticPredicate :=
  [affords, canBeUsedBy, requiresSkill, requiresCapability, reachableFrom, blocks, contains,
    supports, satisfiesDrive, reducesDriveError, helpsGoal, hindersGoal, restores, depletes,
    causes, contributesTo, prevents, predicts, usuallyFollowedBy, changesProperty, isA, instanceOf,
    partOf, sameEntityAs, similarTo, namedBy, locatedAt, near, belongsToEpisode,
    associatedWithPerson, requestedBy, ownedOrMaintainedBy, usedFor, servesGoal, designedFor,
    relatedTo]

theorem mem_all (predicate : SemanticPredicate) : predicate ∈ all := by
  cases predicate <;> decide

theorem debug_injective : Function.Injective debug := by
  intro a b h
  have hnodup : (all.map debug).Nodup := by decide +kernel
  exact List.inj_on_of_nodup_map hnodup (mem_all a) (mem_all b) h

theorem colon_not_mem_debug (predicate : SemanticPredicate) : ':' ∉ predicate.debug.toList := by
  have hchars : ∃ chars, predicate.debug = String.ofList chars ∧ ':' ∉ chars := by
    cases predicate <;> exact ⟨_, rfl, by decide⟩
  obtain ⟨chars, heq, hfree⟩ := hchars
  rw [heq, String.toList_ofList]
  exact hfree

end SemanticPredicate

def afterCondition (rest : List (String × String)) : List Char :=
  if rest = [] then [] else ',' :: (joinConditions rest).toList

theorem toList_joinConditions (key value : String) (rest : List (String × String)) :
    (joinConditions ((key, value) :: rest)).toList =
      key.toList ++ '=' :: (value.toList ++ afterCondition rest) := by
  cases rest with
  | nil => simp [joinConditions, afterCondition]
  | cons entry rest => simp [joinConditions, afterCondition]

/-- The key of a condition ends at the first equals sign, its value at the next comma. -/
def PlainConditions (entries : List (String × String)) : Prop :=
  ∀ entry ∈ entries, '=' ∉ entry.1.toList ∧ ',' ∉ entry.2.toList

theorem afterCondition_inj {value other : List Char} {rest more : List (String × String)}
    (hvalue : ',' ∉ value) (hother : ',' ∉ other)
    (h : value ++ afterCondition rest = other ++ afterCondition more) :
    value = other ∧ afterCondition rest = afterCondition more := by
  by_cases hrest : rest = []
  · by_cases hmore : more = []
    · simpa [afterCondition, hrest, hmore] using h
    · rw [afterCondition, if_pos hrest, List.append_nil, afterCondition, if_neg hmore] at h
      exact absurd (h ▸ by simp) hvalue
  · by_cases hmore : more = []
    · rw [afterCondition, if_neg hrest, afterCondition, if_pos hmore, List.append_nil] at h
      exact absurd (h ▸ by simp) hother
    · rw [afterCondition, afterCondition, if_neg hrest, if_neg hmore] at h ⊢
      obtain ⟨hsame, htail⟩ := Text.split_at hvalue hother h
      exact ⟨hsame, congrArg _ htail⟩

theorem joinConditions_of_afterCondition {rest more : List (String × String)}
    (h : afterCondition rest = afterCondition more) : joinConditions rest = joinConditions more := by
  rw [afterCondition, afterCondition] at h
  by_cases hrest : rest = []
  · by_cases hmore : more = []
    · rw [hrest, hmore]
    · simp [hrest, hmore] at h
  · by_cases hmore : more = []
    · simp [hrest, hmore] at h
    · rw [if_neg hrest, if_neg hmore] at h
      exact String.toList_inj.mp (List.cons.inj h).2

theorem joinConditions_injective {a b : List (String × String)} (ha : PlainConditions a)
    (hb : PlainConditions b) (h : joinConditions a = joinConditions b) : a = b := by
  induction a generalizing b with
  | nil =>
    cases b with
    | nil => rfl
    | cons entry rest =>
      have hlist := congrArg String.toList h
      rw [toList_joinConditions] at hlist
      simp [joinConditions] at hlist
  | cons first rest ih =>
    cases b with
    | nil =>
      have hlist := congrArg String.toList h
      rw [toList_joinConditions] at hlist
      simp [joinConditions] at hlist
    | cons other more =>
      have hlist := congrArg String.toList h
      rw [toList_joinConditions, toList_joinConditions] at hlist
      have hfirst := ha first List.mem_cons_self
      have hother := hb other List.mem_cons_self
      obtain ⟨hkey, hvalues⟩ := Text.split_at hfirst.1 hother.1 hlist
      obtain ⟨hvalue, hafter⟩ := afterCondition_inj hfirst.2 hother.2 hvalues
      have htail := ih (fun entry hentry => ha entry (List.mem_cons_of_mem _ hentry))
        (fun entry hentry => hb entry (List.mem_cons_of_mem _ hentry))
        (joinConditions_of_afterCondition hafter)
      rw [Prod.ext (String.toList_inj.mp hkey) (String.toList_inj.mp hvalue), htail]

/-- A field that is written between semicolons, and when it is present is not empty. -/
def PlainField (field : Option String) : Prop := ∀ text ∈ field, text ≠ "" ∧ ';' ∉ text.toList

theorem PlainField.semicolon_not_mem {field : Option String} (h : PlainField field) :
    ';' ∉ (field.getD "").toList := by
  cases field with
  | none => simp
  | some text => exact (h text rfl).2

theorem PlainField.eq {field other : Option String} (h : PlainField field)
    (hother : PlainField other) (heq : field.getD "" = other.getD "") : field = other := by
  cases field with
  | none =>
    cases other with
    | none => rfl
    | some text => exact absurd heq.symm (hother text rfl).1
  | some text =>
    cases other with
    | none => exact absurd heq (h text rfl).1
    | some more => exact congrArg some heq

structure PlainContext (context : SemanticContext) : Prop where
  agent : PlainField context.agent
  goal : PlainField context.goal
  place : PlainField context.place
  episode : PlainField context.episode
  conditions : PlainConditions context.conditions.entries

theorem toList_contextKey (context : SemanticContext) : context.stableKey.toList =
    "agent=".toList ++ ((context.agent.getD "").toList ++ ';' :: ("goal=".toList ++
      ((context.goal.getD "").toList ++ ';' :: ("place=".toList ++
        ((context.place.getD "").toList ++ ';' :: ("episode=".toList ++
          ((context.episode.getD "").toList ++ ';' :: ("conditions=".toList ++
            (joinConditions context.conditions.entries).toList)))))))) := by
  have hgoal : ";goal=" = String.singleton ';' ++ "goal=" := rfl
  have hplace : ";place=" = String.singleton ';' ++ "place=" := rfl
  have hepisode : ";episode=" = String.singleton ';' ++ "episode=" := rfl
  have hconditions : ";conditions=" = String.singleton ';' ++ "conditions=" := rfl
  delta SemanticContext.stableKey
  rw [hgoal, hplace, hepisode, hconditions]
  simp only [-String.reduceToList, String.toList_append, String.toList_singleton, List.append_assoc,
    List.cons_append, List.nil_append]

theorem PlainContext.eq {a b : SemanticContext} (ha : PlainContext a) (hb : PlainContext b)
    (h : a.stableKey = b.stableKey) : a = b := by
  have hlist := congrArg String.toList h
  rw [toList_contextKey, toList_contextKey] at hlist
  obtain ⟨hagent, hlist⟩ := Text.split_at ha.agent.semicolon_not_mem hb.agent.semicolon_not_mem
    (List.append_cancel_left hlist)
  obtain ⟨hgoal, hlist⟩ := Text.split_at ha.goal.semicolon_not_mem hb.goal.semicolon_not_mem
    (List.append_cancel_left hlist)
  obtain ⟨hplace, hlist⟩ := Text.split_at ha.place.semicolon_not_mem hb.place.semicolon_not_mem
    (List.append_cancel_left hlist)
  obtain ⟨hepisode, hlist⟩ := Text.split_at ha.episode.semicolon_not_mem hb.episode.semicolon_not_mem
    (List.append_cancel_left hlist)
  have hentries := joinConditions_injective ha.conditions hb.conditions
    (String.toList_inj.mp (List.append_cancel_left hlist))
  obtain ⟨agent, goal, place, episode, ⟨entries, hascending⟩⟩ := a
  obtain ⟨agent', goal', place', episode', ⟨entries', hascending'⟩⟩ := b
  obtain rfl := ha.agent.eq hb.agent (String.toList_inj.mp hagent)
  obtain rfl := ha.goal.eq hb.goal (String.toList_inj.mp hgoal)
  obtain rfl := ha.place.eq hb.place (String.toList_inj.mp hplace)
  obtain rfl := ha.episode.eq hb.episode (String.toList_inj.mp hepisode)
  obtain rfl : entries = entries' := hentries
  rfl

/-- A node whose id has no colon. -/
def PlainNode (node : SemanticNodeRef) : Prop := ':' ∉ node.id.toList

end Reading

namespace SemanticEvidenceObservation

def identity (observation : SemanticEvidenceObservation) :
    SemanticNodeRef × SemanticPredicate × SemanticNodeRef × SemanticContext :=
  (observation.subject, observation.groundedPredicate, observation.object, observation.context)

structure Plain (observation : SemanticEvidenceObservation) : Prop where
  subject : PlainNode observation.subject
  object : PlainNode observation.object
  context : PlainContext observation.context

variable {a b : SemanticEvidenceObservation}

theorem toList_relationId (a : SemanticEvidenceObservation) : a.relationId.toList =
    "semantic:".toList ++ (a.subject.kind.toList ++ ':' :: (a.subject.id.toList ++ ':' ::
      (a.groundedPredicate.debug.toList ++ ':' :: (a.object.kind.toList ++ ':' ::
        (a.object.id.toList ++ ':' :: a.context.stableKey.toList))))) := by
  have hcolon : ":" = String.singleton ':' := rfl
  delta relationId Semantic.relationId SemanticNodeRef.stableKey
  rw [hcolon]
  simp only [-String.reduceToList, String.toList_append, String.toList_singleton, List.append_assoc,
    List.cons_append, List.nil_append]

theorem relationId_of_identity (h : a.identity = b.identity) : a.relationId = b.relationId := by
  simp only [identity, Prod.mk.injEq] at h
  rw [relationId, relationId, h.1, h.2.1, h.2.2.1, h.2.2.2]

theorem Plain.identity_eq (ha : a.Plain) (hb : b.Plain) (h : a.relationId = b.relationId) :
    a.identity = b.identity := by
  have hlist := congrArg String.toList h
  rw [toList_relationId, toList_relationId] at hlist
  obtain ⟨hkind, hlist⟩ := Text.split_at a.subject.colon_not_mem_kind b.subject.colon_not_mem_kind
    (List.append_cancel_left hlist)
  obtain ⟨hid, hlist⟩ := Text.split_at ha.subject hb.subject hlist
  obtain ⟨hpredicate, hlist⟩ := Text.split_at a.groundedPredicate.colon_not_mem_debug
    b.groundedPredicate.colon_not_mem_debug hlist
  obtain ⟨hkind', hlist⟩ := Text.split_at a.object.colon_not_mem_kind b.object.colon_not_mem_kind hlist
  obtain ⟨hid', hlist⟩ := Text.split_at ha.object hb.object hlist
  have hsubject := SemanticNodeRef.eq_of_kind_id (String.toList_inj.mp hkind)
    (String.toList_inj.mp hid)
  have hobject := SemanticNodeRef.eq_of_kind_id (String.toList_inj.mp hkind')
    (String.toList_inj.mp hid')
  have hdebug := SemanticPredicate.debug_injective (String.toList_inj.mp hpredicate)
  rw [identity, identity, hsubject, hobject, hdebug,
    ha.context.eq hb.context (String.toList_inj.mp hlist)]

/-- The sides keep the evidence apart. -/
def side (observation : SemanticEvidenceObservation) (relation : SemanticRelation) :
    List EvidenceRef :=
  if observation.contradicts then relation.contradictingEvidence else relation.supportingEvidence

end SemanticEvidenceObservation

namespace SemanticRelation

variable {relation : SemanticRelation} {nowMs : Nat} {observation : SemanticEvidenceObservation}

theorem pushUniqueEvidence_of_mem {target : List EvidenceRef} {evidence existing : EvidenceRef}
    (hmem : existing ∈ target) (hid : existing.id = evidence.id) :
    pushUniqueEvidence target evidence = none := by
  rw [pushUniqueEvidence, if_pos]
  exact List.any_eq_true.mpr ⟨existing, hmem, by simpa using hid⟩

theorem predicate_integrate :
    (relation.integrate nowMs observation).predicate = relation.predicate := by
  rw [integrate]
  cases observation.contradicts with
  | true =>
    rw [if_pos rfl, contradicted]
    cases pushUniqueEvidence relation.contradictingEvidence observation.evidence <;> rfl
  | false =>
    rw [if_neg Bool.false_ne_true, supported]
    cases pushUniqueEvidence relation.supportingEvidence observation.evidence <;> rfl

theorem groundingSources_integrate : (relation.integrate nowMs observation).groundingSources =
    insert observation.grounding relation.groundingSources := by
  rw [integrate]
  cases observation.contradicts with
  | true =>
    rw [if_pos rfl, contradicted]
    cases pushUniqueEvidence relation.contradictingEvidence observation.evidence <;> rfl
  | false =>
    rw [if_neg Bool.false_ne_true, supported]
    cases pushUniqueEvidence relation.supportingEvidence observation.evidence <;> rfl

theorem integrate_of_recorded (nowMs : Nat) {existing : EvidenceRef}
    (hmem : existing ∈ observation.side relation) (hid : existing.id = observation.evidence.id)
    (hcounted : relation.evidenceCount = relation.supportingEvidence.length % 2 ^ 32) :
    relation.integrate nowMs observation =
      { relation with
        groundingSources := insert observation.grounding relation.groundingSources } := by
  rw [SemanticEvidenceObservation.side] at hmem
  rw [integrate]
  cases hside : observation.contradicts with
  | true =>
    rw [hside, if_pos rfl] at hmem
    rw [if_pos rfl, contradicted, pushUniqueEvidence_of_mem hmem hid]
    simp only [hcounted]
  | false =>
    rw [hside, if_neg Bool.false_ne_true] at hmem
    rw [if_neg Bool.false_ne_true, supported, pushUniqueEvidence_of_mem hmem hid]
    simp only [hcounted]

end SemanticRelation

namespace SemanticGraph

abbrev Input := Nat × SemanticEvidenceObservation

variable (graph : SemanticGraph) (input : Input)

def step : SemanticGraph := graph.integrateObservation input.1 input.2

def Records : Prop :=
  ∃ relation, graph.relations.get? input.2.relationId = some relation ∧
    ∃ existing ∈ input.2.side relation, existing.id = input.2.evidence.id

def Unchanged : Prop :=
  (∀ id, (graph.step input).relations.get? id = graph.relations.get? id) ∧
    (graph.step input).revisions = graph.revisions

/-- The relation lists the grounding that the observation comes with. -/
def Grounds : Prop :=
  ∀ relation, graph.relations.get? input.2.relationId = some relation →
    input.2.grounding ∈ relation.groundingSources

/-- Of a run: one text for each relation, recorded evidence changes nothing, and what is said to
cause something has a causal grounding. -/
structure Faithful (run : List Input) : Prop where
  identified : ∀ a ∈ run, ∀ b ∈ run,
    a.2.relationId = b.2.relationId ↔ a.2.identity = b.2.identity
  idempotent : EachStep step {} (fun graph input => graph.Records input → graph.Unchanged input) run
  causal : ∀ id relation, (after step {} run).relations.get? id = some relation →
    relation.predicate = .causes → ∃ grounding ∈ relation.groundingSources,
      grounding.supportsCausality

/-- No two observations of different relations are written as one text. -/
def Unambiguous (run : List Input) : Prop :=
  ∀ a ∈ run, ∀ b ∈ run, a.2.identity ≠ b.2.identity → a.2.relationId ≠ b.2.relationId

/-- What holds of the relations of any run. -/
structure Sound (relation : SemanticRelation) : Prop where
  counted : relation.evidenceCount = relation.supportingEvidence.length % 2 ^ 32
  causal : relation.predicate = .causes →
    ∃ grounding ∈ relation.groundingSources, grounding.supportsCausality

variable {graph input} {id : String} {relation : SemanticRelation}

theorem get?_step : (graph.step input).relations.get? id =
    if id = input.2.relationId then
      some (((graph.relations.get? id).getD (input.2.freshRelation input.1)).integrate
        input.1 input.2)
    else graph.relations.get? id := by
  rw [step, integrateObservation]
  by_cases h : id = input.2.relationId
  · simp [SortedMap.get?_insert, h]
  · simp [SortedMap.get?_insert, h]

theorem sound_fresh {nowMs : Nat} {observation : SemanticEvidenceObservation} :
    Sound ((observation.freshRelation nowMs).integrate nowMs observation) where
  counted := rfl
  causal hcauses := by
    rw [SemanticRelation.predicate_integrate] at hcauses
    refine ⟨observation.grounding, ?_, ?_⟩
    · rw [SemanticRelation.groundingSources_integrate]
      exact Finset.mem_insert_self _ _
    · by_contra hgrounding
      have hgrounded : observation.groundedPredicate = .causes := hcauses
      rw [SemanticEvidenceObservation.groundedPredicate] at hgrounded
      by_cases hclaimed : observation.predicate = .causes
      · simp [hclaimed, hgrounding] at hgrounded
      · simp [hclaimed] at hgrounded

theorem Sound.integrate (h : Sound relation) {nowMs : Nat}
    {observation : SemanticEvidenceObservation} : Sound (relation.integrate nowMs observation) where
  counted := rfl
  causal hcauses := by
    rw [SemanticRelation.predicate_integrate] at hcauses
    obtain ⟨grounding, hgrounding, hcausal⟩ := h.causal hcauses
    refine ⟨grounding, ?_, hcausal⟩
    rw [SemanticRelation.groundingSources_integrate]
    exact Finset.mem_insert_of_mem hgrounding

theorem sound_step (h : ∀ id relation, graph.relations.get? id = some relation → Sound relation)
    (hstored : (graph.step input).relations.get? id = some relation) : Sound relation := by
  rw [get?_step] at hstored
  by_cases hid : id = input.2.relationId
  · rw [if_pos hid] at hstored
    obtain rfl := Option.some.inj hstored
    cases hbefore : graph.relations.get? id with
    | none => exact sound_fresh
    | some before => exact (h id before hbefore).integrate
  · rw [if_neg hid] at hstored
    exact h id relation hstored

theorem sound_run (run : List Input) :
    ∀ id relation, (after step {} run).relations.get? id = some relation → Sound relation := by
  refine after_invariant (P := fun graph : SemanticGraph =>
    ∀ id relation, graph.relations.get? id = some relation → Sound relation) ?_ ?_ run
  · intro id relation hstored
    cases hstored
  · intro graph input h id relation hstored
    exact sound_step h hstored

theorem unchanged_iff (hsound : ∀ id relation, graph.relations.get? id = some relation →
    Sound relation) (hrecords : graph.Records input) :
    graph.Unchanged input ↔ graph.Grounds input := by
  obtain ⟨relation, hstored, existing, hmem, hid⟩ := hrecords
  have hintegrate := SemanticRelation.integrate_of_recorded input.1 hmem hid
    (hsound _ _ hstored).counted
  have hafter : (graph.step input).relations.get? input.2.relationId = some
      { relation with
        groundingSources := insert input.2.grounding relation.groundingSources } := by
    rw [get?_step, if_pos rfl, hstored]
    exact congrArg some hintegrate
  constructor
  · intro hunchanged other hother
    obtain rfl : relation = other := Option.some.inj (hstored.symm.trans hother)
    have hsame := Option.some.inj (hafter.symm.trans ((hunchanged.1 _).trans hstored))
    have hsources := congrArg SemanticRelation.groundingSources hsame
    exact Finset.insert_eq_self.mp hsources
  · intro hgrounds
    have hsources := Finset.insert_eq_self.mpr (hgrounds relation hstored)
    constructor
    · intro other
      by_cases heq : other = input.2.relationId
      · rw [heq, hafter, hstored, hsources]
      · rw [get?_step, if_neg heq]
    · rw [step, integrateObservation]
      simp [hstored, hintegrate, epsilon]

theorem causal_run (run : List Input) (hstored : (after step {} run).relations.get? id =
    some relation) (hcauses : relation.predicate = .causes) :
    ∃ grounding ∈ relation.groundingSources, grounding.supportsCausality :=
  (sound_run run id relation hstored).causal hcauses

/-- A run is faithful just when no two of its relations are written alike and recorded evidence
comes with a grounding that is listed; texts without separators are not alike. -/
theorem faithful_iff (run : List Input) :
    (Faithful run ↔ Unambiguous run ∧
      EachStep step {} (fun graph input => graph.Records input → graph.Grounds input) run) ∧
    ((∀ input ∈ run, input.2.Plain) → Unambiguous run) := by
  constructor
  · constructor
    · intro h
      refine ⟨fun a ha b hb hne htext => hne ((h.identified a ha b hb).mp htext), ?_⟩
      intro past input hpast hrecords
      exact (unchanged_iff (sound_run past) hrecords).mp (h.idempotent past input hpast hrecords)
    · intro h
      exact {
        identified := fun a ha b hb =>
          ⟨fun htext => by_contra fun hne => h.1 a ha b hb hne htext,
            SemanticEvidenceObservation.relationId_of_identity⟩
        idempotent := fun past input hpast hrecords =>
          (unchanged_iff (sound_run past) hrecords).mpr (h.2 past input hpast hrecords)
        causal := fun _ _ => causal_run run }
  · intro hplain a ha b hb hne htext
    exact hne ((hplain a ha).identity_eq (hplain b hb) htext)

def observedUnder (conditions : SortedMap String String) : Input :=
  (0,
    { subject := .concept "charger"
      predicate := .restores
      object := .drive "energy"
      context := { conditions := conditions }
      confidence := 1
      grounding := .cooccurrence
      evidence := { id := "e" } })

/-- One condition with a comma in its value, and two conditions. -/
theorem conditions_alike : ¬Faithful
    [observedUnder (SortedMap.empty.insert "light" "dim,sound=low"),
      observedUnder ((SortedMap.empty.insert "light" "dim").insert "sound" "low")] := by
  intro h
  have htext : (observedUnder (SortedMap.empty.insert "light" "dim,sound=low")).2.relationId =
      (observedUnder ((SortedMap.empty.insert "light" "dim").insert "sound" "low")).2.relationId := by
    decide +kernel
  have hsame := (h.identified _ (by simp) _ (by simp)).mp htext
  have hconditions : (SortedMap.empty.insert "light" "dim,sound=low").entries =
      ((SortedMap.empty.insert "light" "dim").insert "sound" "low").entries :=
    congrArg (fun identity => identity.2.2.2.conditions.entries) hsame
  exact absurd hconditions (by decide +kernel)

end SemanticGraph

end Netherwick.Semantic
