import Mathlib.Algebra.GroupWithZero.Nat
import Netherwick.Lib.Text

/-! # Brain events

The events the observatory retains, the checks a publisher's event passes and the filter a reader
asks with. A payload keeps the top level of its JSON object; what is nested deeper, and every
number that is no natural one, is kept as the text it is written as. -/

namespace Netherwick.Observatory

open Netherwick.Lib

def brainEventSchemaVersion : Nat := 1
def maxInlineBrainEventPayloadBytes : Nat := 16 * 1024

/-- `trim().is_empty()`. -/
def isBlank (text : String) : Bool := text.toList.all isWhiteSpace

inductive BrainEventType where
  | evidence
  | interpretation
  | beliefUpdate
  | proposal
  | gateDecision
  | command
  | outcome
  | calibrationTransition
  | providerState
  | jobState
  | resourceState
  | queueState
  | snapshot
  | transportGap
  | unknown
deriving DecidableEq, Repr

inductive Brain where
  | brainstem
  | motherbrain
  | forebrain
  | higherBrain
  | human
  | simulator
  | unknown
deriving DecidableEq, Repr

structure ProducerIdentity where
  brain : Brain
  component : String
  inst : Option String := none
deriving DecidableEq, Repr

structure ClockedTime where
  tMs : Nat
  clockEpoch : Option String := none
deriving DecidableEq, Repr

structure EventTimes where
  occurred : ClockedTime
  observed : ClockedTime
  validFrom : Option ClockedTime := none
  expiresAt : Option ClockedTime := none
deriving DecidableEq, Repr

structure DomainReferences where
  snapshotId : Option String := none
  entityIds : List String := []
  goalIds : List String := []
  commandIds : List String := []
deriving DecidableEq, Repr

structure TypedEventRef where
  eventId : String
  eventType : BrainEventType
deriving DecidableEq, Repr

structure CausalLinks where
  parents : List TypedEventRef := []
  supports : List TypedEventRef := []
  contradicts : List TypedEventRef := []
deriving DecidableEq, Repr

inductive TrustState where
  | trusted
  | conditional
  | untrusted
  | rejected
  | unknown
deriving DecidableEq, Repr

inductive EventDisposition where
  | unavailable
  | rejected
  | expired
  | superseded
  | vetoed
  | accepted
  | unknown
deriving DecidableEq, Repr

structure Uncertainty where
  value : Float32
  measure : String
deriving DecidableEq, Repr

structure EventQuality where
  confidence : Option Float32 := none
  uncertainty : Option Uncertainty := none
  trust : TrustState := .unknown
deriving DecidableEq, Repr

inductive ArtifactKind where
  | calibration
  | model
  | configuration
  | capture
  | vector
  | other
deriving DecidableEq, Repr

structure ArtifactIdentity where
  kind : ArtifactKind
  id : String
  version : Option String := none
  checksum : Option String := none
deriving DecidableEq, Repr

structure PayloadReference where
  id : String
  locator : String
  mediaType : String
  byteLen : Option Nat := none
  checksum : Option String := none
  redacted : Bool := false
deriving DecidableEq, Repr

/-- A value under a key of a JSON object, as far as a reader of the object looks into it. -/
inductive JsonField where
  | null
  | bool (value : Bool)
  | natural (value : Nat)
  | text (value : String)
  | nested (source : String)
deriving DecidableEq, Repr

inductive JsonValue where
  | object (fields : List (String × JsonField))
  | plain (field : JsonField)
deriving DecidableEq, Repr

namespace JsonField

def asStr : JsonField → Option String
  | text value => some value
  | _ => none

def asU64 : JsonField → Option Nat
  | natural value => some value
  | _ => none

def asBool : JsonField → Option Bool
  | bool value => some value
  | _ => none

end JsonField

namespace JsonValue

def asObject : JsonValue → Option (List (String × JsonField))
  | object fields => some fields
  | plain _ => none

def get (value : JsonValue) (key : String) : Option JsonField :=
  value.asObject.bind fun fields => fields.lookup key

end JsonValue

/-- The bytes one character takes in a JSON text. -/
def escapedLen (c : Char) : Nat :=
  if [8, 9, 10, 12, 13, 34, 92].contains c.toNat then 2
  else if c.toNat < 32 then 6
  else c.utf8Size

def quotedLen (text : String) : Nat := 2 + (text.toList.map escapedLen).sum

def JsonField.encodedLen : JsonField → Nat
  | null => 4
  | bool value => if value then 4 else 5
  | natural value => (Text.decimal value).length
  | text value => quotedLen value
  | nested source => source.utf8ByteSize

/-- The length of `serde_json::to_vec`. -/
def JsonValue.encodedLen : JsonValue → Nat
  | object fields =>
    2 + (fields.map fun field => quotedLen field.1 + 1 + field.2.encodedLen).sum
      + (fields.length - 1)
  | plain field => field.encodedLen

inductive BrainEventPayload where
  | inline (mediaType : String) (data : JsonValue)
  | reference (reference : PayloadReference)
  | empty
deriving DecidableEq, Repr

inductive AuthoritySignificance where
  | advisory
  | proposal
  | gate
  | command
  | outcome
  | safetyTransition
  | authorityTransition
  | none
deriving DecidableEq, Repr

inductive LossPolicy where
  | lossIntolerant
  | coalescible (key : String)
deriving DecidableEq, Repr

structure BrainEvent where
  schemaVersion : Nat := brainEventSchemaVersion
  eventId : String
  eventType : BrainEventType
  kind : String
  producer : ProducerIdentity
  times : EventTimes
  references : DomainReferences := {}
  links : CausalLinks := {}
  quality : EventQuality := {}
  disposition : EventDisposition := .unknown
  calibrationEpochs : List String := []
  artifacts : List ArtifactIdentity := []
  payload : BrainEventPayload := .empty
  authority : AuthoritySignificance := .none
  lossPolicy : LossPolicy := .lossIntolerant
deriving DecidableEq, Repr

structure SequencedBrainEvent where
  sequence : Nat
  event : BrainEvent
deriving DecidableEq, Repr

inductive BrainEventError where
  | unsupportedSchema (version : Nat)
  | invalid (message : String)
  | inlinePayloadTooLarge (size : Nat)
  | lossIntolerantClassCoalesced
deriving DecidableEq, Repr

namespace BrainEvent

def causalReferences (event : BrainEvent) : List TypedEventRef :=
  event.links.parents ++ event.links.supports ++ event.links.contradicts

def requiresLossIntolerantDelivery (event : BrainEvent) : Bool :=
  [.gateDecision, .command, .outcome, .calibrationTransition, .transportGap].contains event.eventType
    || [.gate, .command, .outcome, .safetyTransition, .authorityTransition].contains event.authority

/-- `requires_loss_intolerant_delivery() || matches!(loss_policy, LossIntolerant)`. -/
def lossIntolerant (event : BrainEvent) : Bool :=
  event.requiresLossIntolerantDelivery || event.lossPolicy = .lossIntolerant

/-- `matches!(loss_policy, Coalescible { .. })`. -/
def isCoalescible (event : BrainEvent) : Bool :=
  match event.lossPolicy with
  | .coalescible _ => true
  | .lossIntolerant => false

def coalescingKey (event : BrainEvent) : Option String :=
  match event.lossPolicy with
  | .coalescible key => some key
  | .lossIntolerant => none

def checkConfidence (quality : EventQuality) : Except BrainEventError Unit :=
  match quality.confidence with
  | some value =>
    if value.isFinite && 0 ≤ value && value ≤ 1 then .ok ()
    else .error (.invalid "quality.confidence must be finite and between 0 and 1")
  | none => .ok ()

def checkUncertainty (quality : EventQuality) : Except BrainEventError Unit :=
  match quality.uncertainty with
  | some uncertainty =>
    if !uncertainty.value.isFinite || uncertainty.value < 0 then
      .error (.invalid "quality.uncertainty.value must be finite and non-negative")
    else if isBlank uncertainty.measure then
      .error (.invalid "quality.uncertainty.measure is empty")
    else .ok ()
  | none => .ok ()

def checkValidity (times : EventTimes) : Except BrainEventError Unit :=
  match times.validFrom, times.expiresAt with
  | some validFrom, some expiresAt =>
    if validFrom.clockEpoch = expiresAt.clockEpoch ∧ expiresAt.tMs < validFrom.tMs then
      .error (.invalid "expires_at precedes valid_from in the same clock epoch")
    else .ok ()
  | _, _ => .ok ()

def checkPayload (payload : BrainEventPayload) : Except BrainEventError Unit :=
  match payload with
  | .inline _ data =>
    if maxInlineBrainEventPayloadBytes < data.encodedLen then
      .error (.inlinePayloadTooLarge data.encodedLen)
    else .ok ()
  | _ => .ok ()

def check (holds : Bool) (error : BrainEventError) : Except BrainEventError Unit :=
  if holds then .ok () else .error error

def validate (event : BrainEvent) : Except BrainEventError Unit := do
  check (event.schemaVersion = brainEventSchemaVersion) (.unsupportedSchema event.schemaVersion)
  check (!isBlank event.eventId) (.invalid "event_id is empty")
  check (!isBlank event.producer.component) (.invalid "producer.component is empty")
  check (!isBlank event.kind) (.invalid "kind is empty")
  checkConfidence event.quality
  checkUncertainty event.quality
  checkValidity event.times
  check (event.causalReferences.all fun target => target.eventId ≠ event.eventId)
    (.invalid "event cannot causally reference itself")
  checkPayload event.payload
  check (!(event.requiresLossIntolerantDelivery && event.lossPolicy ≠ .lossIntolerant))
    .lossIntolerantClassCoalesced

end BrainEvent

theorem bind_eq_ok_unit {ε : Type} {first second : Except ε Unit} :
    (first >>= fun _ => second) = .ok () ↔ first = .ok () ∧ second = .ok () := by
  cases first with
  | error e => simp [bind, Except.bind]
  | ok value => simp [bind, Except.bind]

@[simp] theorem BrainEvent.check_eq_ok {holds : Bool} {error : BrainEventError} :
    BrainEvent.check holds error = .ok () ↔ holds = true := by
  cases holds <;> simp [BrainEvent.check]

theorem BrainEvent.lossIntolerant_of_valid {event : BrainEvent} (h : event.validate = .ok ()) :
    event.lossIntolerant = true ↔ event.isCoalescible = false := by
  simp only [BrainEvent.validate, bind_eq_ok_unit, BrainEvent.check_eq_ok] at h
  have hclass := h.2.2.2.2.2.2.2.2.2
  cases hpolicy : event.lossPolicy <;>
    simp_all [BrainEvent.lossIntolerant, BrainEvent.isCoalescible]

structure BrainEventQuery where
  afterSequence : Option Nat := none
  occurredFromMs : Option Nat := none
  occurredToMs : Option Nat := none
  observedFromMs : Option Nat := none
  observedToMs : Option Nat := none
  eventType : Option BrainEventType := none
  kind : Option String := none
  brain : Option Brain := none
  component : Option String := none
  modality : Option String := none
  model : Option String := none
  calibrationEpoch : Option String := none
  snapshot : Option String := none
  entity : Option String := none
  goal : Option String := none
  command : Option String := none
  trust : Option TrustState := none
  disposition : Option EventDisposition := none
  limit : Option Nat := none
deriving DecidableEq, Repr

def withinRange (value : Nat) (earliest latest : Option Nat) : Bool :=
  earliest.all (· ≤ value) && latest.all (value ≤ ·)

def containsFilter (values : List String) (filter : Option String) : Bool :=
  filter.all fun wanted => values.contains wanted

def validateTimeRange (name : String) (earliest latest : Option Nat) : Except String Unit :=
  match earliest, latest with
  | some first, some last =>
    if last < first then .error (name ++ "_from_ms cannot exceed " ++ name ++ "_to_ms") else .ok ()
  | _, _ => .ok ()

def validateFilters : List (String × Option String) → Except String Unit
  | [] => .ok ()
  | (name, value) :: rest =>
    if value.any isBlank then .error (name ++ " filter cannot be empty") else validateFilters rest

namespace BrainEventQuery

def validateLimit (query : BrainEventQuery) (maxLimit : Nat) : Except String Unit :=
  if query.limit = some 0 then .error "limit must be greater than zero"
  else if query.limit.any (maxLimit < ·) then
    .error ("limit exceeds maximum " ++ toString maxLimit)
  else .ok ()

def validate (query : BrainEventQuery) (maxLimit : Nat) : Except String Unit := do
  validateTimeRange "occurred" query.occurredFromMs query.occurredToMs
  validateTimeRange "observed" query.observedFromMs query.observedToMs
  query.validateLimit maxLimit
  validateFilters [("kind", query.kind), ("component", query.component),
    ("modality", query.modality), ("model", query.model),
    ("calibration_epoch", query.calibrationEpoch), ("snapshot", query.snapshot),
    ("entity", query.entity), ("goal", query.goal), ("command", query.command)]

theorem limit_ne_zero {query : BrainEventQuery} {maxLimit : Nat}
    (h : query.validate maxLimit = .ok ()) : query.limit ≠ some 0 := by
  intro hzero
  simp [validate, bind_eq_ok_unit, validateLimit, hzero] at h

def hasModality (event : BrainEvent) (modality : String) : Bool :=
  match event.payload with
  | .inline _ data => (data.get "modality").bind JsonField.asStr = some modality
  | _ => false

def matchesEvent (query : BrainEventQuery) (event : BrainEvent) : Bool :=
  withinRange event.times.occurred.tMs query.occurredFromMs query.occurredToMs
    && withinRange event.times.observed.tMs query.observedFromMs query.observedToMs
    && query.eventType.all (event.eventType = ·)
    && query.kind.all (event.kind = ·)
    && query.brain.all (event.producer.brain = ·)
    && query.component.all (event.producer.component = ·)
    && query.modality.all (hasModality event)
    && query.model.all (fun model =>
      event.artifacts.any fun artifact => artifact.kind = .model && artifact.id = model)
    && containsFilter event.calibrationEpochs query.calibrationEpoch
    && query.snapshot.all (fun snapshot => event.references.snapshotId = some snapshot)
    && containsFilter event.references.entityIds query.entity
    && containsFilter event.references.goalIds query.goal
    && containsFilter event.references.commandIds query.command
    && query.trust.all (event.quality.trust = ·)
    && query.disposition.all (event.disposition = ·)

theorem matchesEvent_unfiltered (after limit : Option Nat) (event : BrainEvent) :
    matchesEvent { afterSequence := after, limit } event = true := by
  simp [matchesEvent, withinRange, containsFilter]

end BrainEventQuery

end Netherwick.Observatory
