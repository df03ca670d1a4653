import Mathlib.Data.List.Destutter
import Netherwick.Lib.Walk
import Netherwick.Observatory.Views

/-! # The provenance graph of an event

The graph is laid out by a breadth-first walk over the causal links of the retained events. The
artifacts, epochs and assets of an event are placed behind it in the same list of nodes, and the
capture gaps of the walk's time range at its end; one limit holds for all of them. -/

namespace Netherwick.Observatory

open Netherwick.Lib

inductive ProvenancePathMode where
  | whyBelieved
  | whySelected
  | whyRejected
  | dependents
  | full
deriving DecidableEq, Repr

structure ProvenanceGraphRequest extends ProvenanceGraphQuery where
  mode : ProvenancePathMode := .full
  includeArtifacts : Bool := false
  includeAssets : Bool := false

inductive ProvenanceNodeKind where
  | event
  | missingReference
  | modelArtifact
  | configurationArtifact
  | calibrationEpoch
  | rawAsset
  | captureGap
deriving DecidableEq, Repr

inductive ProvenanceSemantics where
  | directEvidence
  | inference
  | recall
  | learnedOutput
  | configuration
  | humanInstruction
  | llmHypothesis
  | recordedEvent
  | missing
  | gap
deriving DecidableEq, Repr

structure ProvenanceGraphNode where
  id : String
  nodeKind : ProvenanceNodeKind
  semantics : ProvenanceSemantics
  label : String
  eventType : Option BrainEventType := none
  source : Option ProducerIdentity := none
  confidence : Option Float32 := none
  uncertainty : Option Uncertainty := none
  trust : Option TrustState := none
  disposition : Option EventDisposition := none
  occurredAtMs : Option Nat := none
  expandable : Bool := false
deriving DecidableEq, Repr

inductive ProvenanceEdgeKind where
  | parent
  | supports
  | contradicts
  | dependent
  | producedByModel
  | usedConfiguration
  | calibratedBy
  | rawPayload
  | interruptedByGap
deriving DecidableEq, Repr

structure ProvenanceGraphEdge where
  «from» : String
  «to» : String
  relation : ProvenanceEdgeKind
deriving DecidableEq, Repr

structure ProvenanceGraphResponse where
  centerId : String
  mode : ProvenancePathMode
  nodes : List ProvenanceGraphNode
  edges : List ProvenanceGraphEdge
  truncated : Bool
  omittedNodes : Nat
  missingReferences : Nat
  captureGaps : Nat
deriving DecidableEq, Repr

def toAsciiLowercase (text : String) : List Char := text.toList.map Char.toLower

def eventSemantics (event : BrainEvent) : ProvenanceSemantics :=
  let component := toAsciiLowercase event.producer.component
  let kind := toAsciiLowercase event.kind
  if event.producer.brain = .human then .humanInstruction
  else if Text.contains component "llm".toList || Text.contains kind "llm".toList then
    .llmHypothesis
  else if Text.contains kind "recall".toList || Text.contains component "memory".toList then .recall
  else if event.artifacts.any fun artifact => artifact.kind = .model then .learnedOutput
  else if event.eventType = .evidence then .directEvidence
  else if event.eventType = .interpretation || event.eventType = .beliefUpdate then .inference
  else .recordedEvent

def eventNode (event : BrainEvent) : ProvenanceGraphNode where
  id := event.eventId
  nodeKind := .event
  semantics := eventSemantics event
  label := event.kind
  eventType := some event.eventType
  source := some event.producer
  confidence := event.quality.confidence
  uncertainty := event.quality.uncertainty
  trust := some event.quality.trust
  disposition := some event.disposition
  occurredAtMs := some event.times.occurred.tMs
  expandable := !event.links.parents.isEmpty || !event.links.supports.isEmpty
    || !event.links.contradicts.isEmpty

def missingNode (id : String) : ProvenanceGraphNode where
  id
  nodeKind := .missingReference
  semantics := .missing
  label := "missing or no longer retained"

def gapNode (gap : BrainEvent) : ProvenanceGraphNode :=
  { eventNode gap with nodeKind := .captureGap, semantics := .gap }

/-- What is placed behind an event, and the relation of the event to it. -/
structure Auxiliary where
  id : String
  label : String
  nodeKind : ProvenanceNodeKind
  semantics : ProvenanceSemantics
  relation : ProvenanceEdgeKind

def Auxiliary.node (auxiliary : Auxiliary) : ProvenanceGraphNode where
  id := auxiliary.id
  nodeKind := auxiliary.nodeKind
  semantics := auxiliary.semantics
  label := auxiliary.label

namespace ProvenancePathMode

def ancestors (mode : ProvenancePathMode) : Bool := mode ≠ .dependents

def descendants (mode : ProvenancePathMode) : Bool := mode = .dependents || mode = .full

def includeContradictions (mode : ProvenancePathMode) : Bool :=
  mode = .whyBelieved || mode = .whyRejected || mode = .full

end ProvenancePathMode

def linkEdges (event : BrainEvent) (references : List TypedEventRef)
    (relation : ProvenanceEdgeKind) : List ProvenanceGraphEdge :=
  references.map fun reference => ⟨event.eventId, reference.eventId, relation⟩

/-- The edges that are pushed; the far end of each is queued with it. -/
def enqueueLinks (event : BrainEvent) (mode : ProvenancePathMode) : List ProvenanceGraphEdge :=
  linkEdges event event.links.parents .parent ++ linkEdges event event.links.supports .supports
    ++ if mode.includeContradictions then linkEdges event event.links.contradicts .contradicts
      else []

/-- The reverse links: an event stands here once for each of its references to the id. -/
def dependents (events : List BrainEvent) (id : String) : List BrainEvent :=
  events.flatMap fun event =>
    (event.causalReferences.filter fun reference => reference.eventId = id).map fun _ => event

def edgesOf (events : List BrainEvent) (mode : ProvenancePathMode) (event : BrainEvent) :
    List ProvenanceGraphEdge :=
  (if mode.ancestors then enqueueLinks event mode else [])
    ++ if mode.descendants then
      (dependents events event.eventId).map fun dependent =>
        ⟨event.eventId, dependent.eventId, .dependent⟩
    else []

def byId (events : List BrainEvent) (id : String) : Option BrainEvent :=
  events.reverse.find? fun event => event.eventId = id

theorem mem_of_byId {events : List BrainEvent} {id : String} {event : BrainEvent}
    (h : byId events id = some event) : event ∈ events :=
  List.mem_reverse.mp (List.mem_of_find?_eq_some h)

theorem eventId_of_byId {events : List BrainEvent} {id : String} {event : BrainEvent}
    (h : byId events id = some event) : event.eventId = id := by
  simpa using List.find?_some h

theorem retained_of_byId {events : List BrainEvent} {id : String} {event : BrainEvent}
    (h : byId events id = some event) : id ∈ events.map BrainEvent.eventId :=
  List.mem_map.mpr ⟨event, mem_of_byId h, eventId_of_byId h⟩

/-- `format!("{:?}", artifact.kind)` of the kinds that are shown. -/
def artifactAuxiliary (lowercase : String → String) (artifact : ArtifactIdentity) :
    Option Auxiliary :=
  match artifact.kind with
  | .model => some {
      id := lowercase ("artifact:Model:" ++ artifact.id)
      label := artifact.id
      nodeKind := .modelArtifact
      semantics := .learnedOutput
      relation := .producedByModel }
  | .configuration => some {
      id := lowercase ("artifact:Configuration:" ++ artifact.id)
      label := artifact.id
      nodeKind := .configurationArtifact
      semantics := .configuration
      relation := .usedConfiguration }
  | _ => none

def epochAuxiliary (epoch : String) : Auxiliary where
  id := "calibration:" ++ epoch
  label := epoch
  nodeKind := .calibrationEpoch
  semantics := .configuration
  relation := .calibratedBy

def assetAuxiliaries (payload : BrainEventPayload) : List Auxiliary :=
  match payload with
  | .reference reference => [{
      id := "asset:" ++ reference.id
      label := reference.id ++ " (" ++ reference.mediaType ++ ")"
      nodeKind := .rawAsset
      semantics := .directEvidence
      relation := .rawPayload }]
  | _ => []

def auxiliaries (lowercase : String → String) (query : ProvenanceGraphRequest)
    (event : BrainEvent) : List Auxiliary :=
  (if query.includeArtifacts then event.artifacts.filterMap (artifactAuxiliary lowercase) else [])
    ++ event.calibrationEpochs.map epochAuxiliary
    ++ if query.includeAssets then assetAuxiliaries event.payload else []

structure Canvas where
  nodes : List ProvenanceGraphNode := []
  edges : List ProvenanceGraphEdge := []
  omittedNodes : Nat := 0
  missingReferences : Nat := 0

namespace Canvas

def leaveOut (canvas : Canvas) : Canvas := { canvas with omittedNodes := canvas.omittedNodes + 1 }

def placeMissing (canvas : Canvas) (id : String) : Canvas :=
  { canvas with
    nodes := canvas.nodes ++ [missingNode id]
    missingReferences := canvas.missingReferences + 1 }

def appendAuxiliary (event : BrainEvent) (maxNodes : Nat) (canvas : Canvas)
    (auxiliary : Auxiliary) : Canvas :=
  let edge : ProvenanceGraphEdge := ⟨event.eventId, auxiliary.id, auxiliary.relation⟩
  if (canvas.nodes.map ProvenanceGraphNode.id).contains auxiliary.id then
    { canvas with edges := canvas.edges ++ [edge] }
  else if canvas.nodes.length < maxNodes then
    { canvas with nodes := canvas.nodes ++ [auxiliary.node], edges := canvas.edges ++ [edge] }
  else canvas.leaveOut

end Canvas

section Build

variable (lowercase : String → String) (events : List BrainEvent) (query : ProvenanceGraphRequest)
  (maxNodes : Nat)

def Canvas.placeEvent (canvas : Canvas) (event : BrainEvent) : Canvas :=
  (auxiliaries lowercase query event).foldl (appendAuxiliary event maxNodes)
    { canvas with
      nodes := canvas.nodes ++ [eventNode event]
      edges := canvas.edges ++ edgesOf events query.mode event }

/-- The walk: a full canvas counts what comes up, and follows it no further. -/
def expand (queue seen : List String) (canvas : Canvas) : Canvas :=
  match queue with
  | [] => canvas
  | id :: rest =>
    if _h : seen.contains id then expand rest seen canvas
    else if canvas.nodes.length = maxNodes then expand rest (id :: seen) canvas.leaveOut
    else
      match _hid : byId events id with
      | none => expand rest (id :: seen) (canvas.placeMissing id)
      | some event =>
        expand (rest ++ (edgesOf events query.mode event).map ProvenanceGraphEdge.to)
          (id :: seen) (canvas.placeEvent lowercase events query maxNodes event)
termination_by (unseen (events.map BrainEvent.eventId) seen, queue.length)
decreasing_by
  · exact Prod.Lex.right _ (Nat.lt_succ_self _)
  · exact passed_decreases
  · exact passed_decreases
  · exact Prod.Lex.left _ _ (unseen_cons_lt (retained_of_byId _hid) _h)

end Build

def gapsWithin (times : List Nat) (events : List BrainEvent) : List BrainEvent :=
  events.filter fun event => event.eventType = .transportGap
    && times.min?.all (· ≤ event.times.occurred.tMs)
    && times.max?.all (event.times.occurred.tMs ≤ ·)

structure GapCanvas extends Canvas where
  captureGaps : Nat := 0

def GapCanvas.placeGap (centerId : String) (maxNodes : Nat) (canvas : GapCanvas)
    (gap : BrainEvent) : GapCanvas :=
  if canvas.nodes.length = maxNodes then { canvas with toCanvas := canvas.leaveOut }
  else
    { canvas with
      nodes := canvas.nodes ++ [gapNode gap]
      edges := canvas.edges ++ [⟨centerId, gap.eventId, .interruptedByGap⟩]
      captureGaps := canvas.captureGaps + 1 }

def edgeRank : ProvenanceEdgeKind → Nat
  | .parent => 0
  | .supports => 1
  | .contradicts => 2
  | .dependent => 3
  | .producedByModel => 4
  | .usedConfiguration => 5
  | .calibratedBy => 6
  | .rawPayload => 7
  | .interruptedByGap => 8

/-- The order by both ends and then by rank. -/
def edgeNotAfter (left right : ProvenanceGraphEdge) : Bool :=
  left.from < right.from || (left.from = right.from &&
    (left.to < right.to || (left.to = right.to &&
      edgeRank left.relation ≤ edgeRank right.relation)))

def joinedEdges (nodes : List ProvenanceGraphNode) (edges : List ProvenanceGraphEdge) :
    List ProvenanceGraphEdge :=
  let ids := nodes.map ProvenanceGraphNode.id
  ((edges.filter fun edge => ids.contains edge.from && ids.contains edge.to).mergeSort
    edgeNotAfter).destutter (· ≠ ·)

section Build

variable (lowercase : String → String) (events : List BrainEvent) (centerId : String)
  (query : ProvenanceGraphRequest) (maxNodes : Nat)

/-- The walk from the centre, and the gaps of its time range. -/
def layOut : GapCanvas :=
  let walked := expand lowercase events query maxNodes [centerId] [] {}
  (gapsWithin (walked.nodes.filterMap ProvenanceGraphNode.occurredAtMs) events).foldl
    (GapCanvas.placeGap centerId maxNodes) { walked with }

def buildProvenanceGraph : Except String ProvenanceGraphResponse :=
  match query.checkedMaxNodes with
  | .error message => .error message
  | .ok maxNodes =>
    if (byId events centerId).isNone then .error (notRetained centerId)
    else
      let canvas := layOut lowercase events centerId query maxNodes
      .ok {
        centerId
        mode := query.mode
        nodes := canvas.nodes
        edges := joinedEdges canvas.nodes canvas.edges
        truncated := 0 < canvas.omittedNodes
        omittedNodes := canvas.omittedNodes
        missingReferences := canvas.missingReferences
        captureGaps := canvas.captureGaps }

end Build

end Netherwick.Observatory
