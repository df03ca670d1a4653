import Netherwick.Observatory.Retained

/-! # The provenance and authority views

Both views make one query from the start of the history, with the highest limit there is, and
work on the page they get. They cover the first events that are retained, and for longer histories
show what was true then. -/

namespace Netherwick.Observatory

open Netherwick.Lib

def maxObservatoryQueryLimit : Nat := 2000

/-- The query of both views. -/
def viewQuery : BrainEventQuery := { limit := some maxObservatoryQueryLimit }

def BrainEventHistoryResponse.shown (response : BrainEventHistoryResponse) : List BrainEvent :=
  response.records.map BrainEventStreamRecord.shown

def maxProvenanceGraphNodes : Nat := 250
def defaultProvenanceGraphNodes : Nat := 80

structure ProvenanceGraphQuery where
  maxNodes : Option Nat := none

def ProvenanceGraphQuery.checkedMaxNodes (query : ProvenanceGraphQuery) : Except String Nat :=
  if query.maxNodes.getD defaultProvenanceGraphNodes = 0
      ∨ maxProvenanceGraphNodes < query.maxNodes.getD defaultProvenanceGraphNodes then
    .error ("max_nodes must be between 1 and " ++ toString maxProvenanceGraphNodes)
  else .ok (query.maxNodes.getD defaultProvenanceGraphNodes)

def notRetained (centerId : String) : String := "event " ++ centerId ++ " is not retained"

/-- The event that the graph is built around: of several with its id, the last. -/
def provenanceCenter (events : List BrainEvent) (centerId : String)
    (query : ProvenanceGraphQuery) : Except String BrainEvent :=
  match query.checkedMaxNodes with
  | .error message => .error message
  | .ok _ =>
    match events.reverse.find? fun event => event.eventId = centerId with
    | some event => .ok event
    | none => .error (notRetained centerId)

def RetainedHistory.getObservatoryProvenance (hub : RetainedHistory) (tMs : Nat)
    (eventId : String) (query : ProvenanceGraphQuery) : Except String BrainEvent :=
  match hub.query tMs viewQuery with
  | .error message => .error message
  | .ok response => provenanceCenter response.shown eventId query

def inlineObject (event : BrainEvent) : Option (List (String × JsonField)) :=
  match event.payload with
  | .inline _ data => data.asObject
  | _ => none

/-- `json_string`, `authority_json_u64` and their like: the first key with a value of the kind. -/
def carried {α : Type} (read : JsonField → Option α) (keys : List String) (event : BrainEvent) :
    Option α :=
  match inlineObject event with
  | some object => keys.findSome? fun key => (object.lookup key).bind read
  | none => none

/-- `latest_payload`, `latest_u64` and `latest_bool`. -/
def latest {α : Type} (read : JsonField → Option α) (keys : List String)
    (events : List BrainEvent) : Option α :=
  events.reverse.findSome? (carried read keys)

structure HardwareControlStatus where
  available : Bool
  armed : Bool
  mode : Option String
  source : Option String
  reason : Option String

structure SessionControl where
  mode : String
  controlState : Option String
  controlDetail : Option String

structure BodyFlags where
  bumpLeft : Bool
  bumpRight : Bool
  cliffLeft : Bool
  cliffFrontLeft : Bool
  cliffFrontRight : Bool
  cliffRight : Bool
  wheelDrop : Bool

/-- What the authority view takes from the rest of the live state. -/
structure LiveControl where
  hardware : HardwareControlStatus
  session : Option SessionControl
  body : Option BodyFlags

/-- The fields that the newest event that has them decides. -/
structure LatchedFields where
  possessionLeaseId : Option String
  possessionLeaseTtlMs : Option Nat
  heartbeatAgeMs : Option Nat
  stopState : Option String
  estopLatched : Option Bool
  safetyLatch : Option String
  brainstemAuthority : Option String
deriving DecidableEq, Repr

structure ObservableAuthorityState extends LatchedFields where
  controlAvailable : Bool
  controlArmed : Bool
  controlMode : Option String
  controlSource : Option String
  controlBlockReason : Option String
  sessionMode : Option String
  sessionControlState : Option String
  sessionControlDetail : Option String
  bumpActive : Option Bool
  cliffActive : Option Bool
  wheelDropActive : Option Bool

def leaseIdKeys : List String := ["lease_id", "possession_lease_id"]
def leaseTtlKeys : List String := ["lease_ttl_ms", "ttl_ms"]
def heartbeatAgeKeys : List String := ["heartbeat_age_ms"]
def stopStateKeys : List String := ["stop_state", "stop_status"]
def estopLatchedKeys : List String := ["estop_latched"]
def safetyLatchKeys : List String := ["safety_latch", "safety_latch_kind"]
def brainstemAuthorityKeys : List String := ["brainstem_authority", "authority"]

def latchedFields (events : List BrainEvent) : LatchedFields where
  possessionLeaseId := latest JsonField.asStr leaseIdKeys events
  possessionLeaseTtlMs := latest JsonField.asU64 leaseTtlKeys events
  heartbeatAgeMs := latest JsonField.asU64 heartbeatAgeKeys events
  stopState := latest JsonField.asStr stopStateKeys events
  estopLatched := latest JsonField.asBool estopLatchedKeys events
  safetyLatch := latest JsonField.asStr safetyLatchKeys events
  brainstemAuthority := latest JsonField.asStr brainstemAuthorityKeys events

def observableAuthorityState (state : LiveControl) (events : List BrainEvent) :
    ObservableAuthorityState where
  toLatchedFields := latchedFields events
  controlAvailable := state.hardware.available
  controlArmed := state.hardware.armed
  controlMode := state.hardware.mode
  controlSource := state.hardware.source
  controlBlockReason := state.hardware.reason
  sessionMode := state.session.map (·.mode)
  sessionControlState := state.session.bind (·.controlState)
  sessionControlDetail := state.session.bind (·.controlDetail)
  bumpActive := state.body.map fun flags => flags.bumpLeft || flags.bumpRight
  cliffActive := state.body.map fun flags =>
    flags.cliffLeft || flags.cliffFrontLeft || flags.cliffFrontRight || flags.cliffRight
  wheelDropActive := state.body.map (·.wheelDrop)

def RetainedHistory.getObservatoryAuthority (hub : RetainedHistory) (tMs : Nat)
    (state : LiveControl) : Except String ObservableAuthorityState :=
  match hub.query tMs viewQuery with
  | .error message => .error message
  | .ok response => .ok (observableAuthorityState state response.shown)

theorem latest_append {α : Type} (read : JsonField → Option α) (keys : List String)
    (early late : List BrainEvent) :
    latest read keys (early ++ late) = (latest read keys late).or (latest read keys early) := by
  simp [latest, List.findSome?_append]

theorem latest_cons {α : Type} (read : JsonField → Option α) (keys : List String)
    (event : BrainEvent) (events : List BrainEvent) :
    latest read keys (event :: events) = (latest read keys events).or (carried read keys event) := by
  rw [← List.singleton_append, latest_append]
  simp [latest]

theorem mem_gapsFrom {tMs toSequence start : Nat} {replaced : List (Nat × Nat)}
    {record : BrainEventStreamRecord} (h : record ∈ gapsFrom tMs toSequence start replaced) :
    (∃ first last reason, record = .gap (.new tMs first last reason)) ∨
      ∃ sequence replacement, record = .gap (.coalesced tMs sequence replacement) := by
  induction replaced generalizing start with
  | nil =>
    simp only [gapsFrom] at h
    split at h
    · simp only [List.mem_singleton] at h
      exact .inl ⟨_, _, _, h⟩
    · simp at h
  | cons first rest ih =>
    obtain ⟨sequence, replacement⟩ := first
    simp only [gapsFrom, List.mem_append, List.mem_cons] at h
    rcases h with h | rfl | h
    · split at h
      · simp only [List.mem_singleton] at h
        exact .inl ⟨_, _, _, h⟩
      · simp at h
    · exact .inr ⟨_, _, rfl⟩
    · exact ih h

/-- The keys under which a gap's own event says something. -/
def gapKeys : List String := ["from_sequence", "reason", "replacement_sequence", "to_sequence"]

theorem carried_of_no_key {α : Type} {read : JsonField → Option α} {keys : List String}
    {event : BrainEvent} {mediaType : String} {fields : List (String × JsonField)}
    (hpayload : event.payload = .inline mediaType (.object fields))
    (hkeys : ∀ key ∈ keys, key ∉ fields.map Prod.fst) : carried read keys event = none := by
  simp only [carried, inlineObject, hpayload, JsonValue.asObject, List.findSome?_eq_none_iff]
  intro key hkey
  have habsent : fields.lookup key = none := by
    rw [List.lookup_eq_none_iff]
    intro field hfield
    have hne : key ≠ field.1 := fun heq =>
      hkeys key hkey (List.mem_map.mpr ⟨field, hfield, heq.symm⟩)
    simpa using hne
  simp [habsent]

theorem carried_gap {α : Type} {read : JsonField → Option α} {keys : List String}
    (hkeys : ∀ key ∈ keys, key ∉ gapKeys) {tMs toSequence start : Nat}
    {replaced : List (Nat × Nat)} {record : BrainEventStreamRecord}
    (h : record ∈ gapsFrom tMs toSequence start replaced) :
    carried read keys record.shown = none := by
  rcases mem_gapsFrom h with ⟨first, last, reason, rfl⟩ | ⟨sequence, replacement, rfl⟩
  · refine carried_of_no_key rfl fun key hkey hmem => hkeys key hkey ?_
    simp [gapKeys] at hmem ⊢
    tauto
  · refine carried_of_no_key rfl fun key hkey hmem => hkeys key hkey ?_
    simpa [gapKeys] using hmem

theorem latest_render {α : Type} {read : JsonField → Option α} {keys : List String}
    (hkeys : ∀ key ∈ keys, key ∉ gapKeys) {tMs expected : Nat} {replacements : SortedMap Nat Nat}
    {events : List SequencedBrainEvent} :
    latest read keys ((render tMs replacements viewQuery expected events).map
      BrainEventStreamRecord.shown) = latest read keys (events.map SequencedBrainEvent.event) := by
  induction events generalizing expected with
  | nil => rfl
  | cons envelope rest ih =>
    have hgaps : latest read keys ((if expected < envelope.sequence then
        historyDiscontinuities tMs replacements expected (envelope.sequence - 1) else []).map
          BrainEventStreamRecord.shown) = none := by
      simp only [latest, List.findSome?_eq_none_iff, List.mem_reverse, List.mem_map]
      rintro _ ⟨record, hrecord, rfl⟩
      split at hrecord
      · rw [historyDiscontinuities] at hrecord
        split at hrecord
        · simp at hrecord
        · exact carried_gap hkeys hrecord
      · simp at hrecord
    have hmatches : viewQuery.matchesEvent envelope.event = true :=
      BrainEventQuery.matchesEvent_unfiltered ..
    rw [render, if_pos hmatches, List.map_append, List.map_append, latest_append, latest_append,
      hgaps, ih, List.map_cons, List.map_nil, List.map_cons, latest_cons, latest_cons]
    simp [latest, BrainEventStreamRecord.shown]

theorem latchedFields_render {tMs expected : Nat} {replacements : SortedMap Nat Nat}
    {events : List SequencedBrainEvent} :
    latchedFields ((render tMs replacements viewQuery expected events).map
      BrainEventStreamRecord.shown) = latchedFields (events.map SequencedBrainEvent.event) := by
  simp only [latchedFields, LatchedFields.mk.injEq]
  refine ⟨?_, ?_, ?_, ?_, ?_, ?_, ?_⟩ <;> exact latest_render (by decide)

namespace RetainedHistory

variable (hub : RetainedHistory) (tMs : Nat)

def firstPage : List SequencedBrainEvent := hub.retained.take maxObservatoryQueryLimit

def laterEvents : List SequencedBrainEvent := hub.retained.drop maxObservatoryQueryLimit

/-- No retained event is denied, and each latched field is that of the newest event with it. -/
def ViewsCoverHistory : Prop :=
  (∀ envelope ∈ hub.retained, ∀ query,
    hub.getObservatoryProvenance tMs envelope.event.eventId query ≠
      .error (notRetained envelope.event.eventId)) ∧
  ∀ state view, hub.getObservatoryAuthority tMs state = .ok view →
    view.toLatchedFields = latchedFields (hub.retained.map SequencedBrainEvent.event)

def OnFirstPage (eventId : String) : Prop :=
  ∃ record ∈ render tMs hub.history.replacements viewQuery 1 hub.firstPage,
    record.shown.eventId = eventId

/-- The later events do not carry the field, or last say what the first page last says. -/
def SettledEarly {α : Type} (read : JsonField → Option α) (keys : List String) : Prop :=
  latest read keys (hub.laterEvents.map SequencedBrainEvent.event) = none ∨
    latest read keys (hub.laterEvents.map SequencedBrainEvent.event) =
      latest read keys (hub.firstPage.map SequencedBrainEvent.event)

def AllSettledEarly : Prop :=
  hub.SettledEarly JsonField.asStr leaseIdKeys ∧
  hub.SettledEarly JsonField.asU64 leaseTtlKeys ∧
  hub.SettledEarly JsonField.asU64 heartbeatAgeKeys ∧
  hub.SettledEarly JsonField.asStr stopStateKeys ∧
  hub.SettledEarly JsonField.asBool estopLatchedKeys ∧
  hub.SettledEarly JsonField.asStr safetyLatchKeys ∧
  hub.SettledEarly JsonField.asStr brainstemAuthorityKeys

variable {hub tMs}

theorem retained_split : hub.firstPage ++ hub.laterEvents = hub.retained :=
  List.take_append_drop ..

theorem viewQuery_spec (hlimit : maxObservatoryQueryLimit ≤ hub.config.maxQueryLimit) :
    hub.query tMs viewQuery = .ok {
      records := render tMs hub.history.replacements viewQuery 1 hub.firstPage
      nextCursor := cursorAfter 0 hub.firstPage
      newestSequence := hub.history.events.getLast?.map SequencedBrainEvent.sequence } := by
  have hvalid : viewQuery.validate hub.config.maxQueryLimit = .ok () := by
    simp [viewQuery, BrainEventQuery.validate, BrainEventQuery.validateLimit, validateTimeRange,
      validateFilters, bind_eq_ok_unit, maxObservatoryQueryLimit]
    simpa [maxObservatoryQueryLimit] using hlimit
  have hlooked : hub.looked viewQuery = hub.firstPage := by
    have hall : (fun envelope : SequencedBrainEvent => viewQuery.matchesEvent envelope.event) =
        fun _ => true := by
      funext envelope
      exact BrainEventQuery.matchesEvent_unfiltered ..
    rw [looked, hall, takeWanted_all]
    simp [viewQuery, above_zero, firstPage]
  rw [query_spec hvalid, hlooked]
  rfl

theorem viewQuery_refused (hlimit : hub.config.maxQueryLimit < maxObservatoryQueryLimit) :
    hub.query tMs viewQuery =
      .error ("limit exceeds maximum " ++ toString hub.config.maxQueryLimit) := by
  refine query_refused ?_
  have hrefused : viewQuery.validateLimit hub.config.maxQueryLimit =
      .error ("limit exceeds maximum " ++ toString hub.config.maxQueryLimit) := by
    simp [viewQuery, BrainEventQuery.validateLimit, hlimit]
    simp [maxObservatoryQueryLimit]
  simp only [BrainEventQuery.validate, hrefused]
  rfl

theorem ne_notRetained {message eventId : String} (h : message.toList.head? ≠ some 'e') :
    message ≠ notRetained eventId := by
  rintro rfl
  exact h (by simp [notRetained, String.toList_append])

theorem mem_render {expected : Nat} {replacements : SortedMap Nat Nat}
    {events : List SequencedBrainEvent} {envelope : SequencedBrainEvent} (h : envelope ∈ events) :
    .event envelope ∈ render tMs replacements viewQuery expected events := by
  induction events generalizing expected with
  | nil => simp at h
  | cons first rest ih =>
    have hmatches : viewQuery.matchesEvent first.event = true :=
      BrainEventQuery.matchesEvent_unfiltered ..
    rw [render, if_pos hmatches]
    rcases List.mem_cons.mp h with rfl | hmem
    · simp
    · simp [ih hmem]

theorem provenance_denied_iff (hlimit : maxObservatoryQueryLimit ≤ hub.config.maxQueryLimit)
    {eventId : String} {query : ProvenanceGraphQuery} :
    hub.getObservatoryProvenance tMs eventId query = .error (notRetained eventId) ↔
      (∃ nodes, query.checkedMaxNodes = .ok nodes) ∧ ¬ hub.OnFirstPage tMs eventId := by
  simp only [getObservatoryProvenance, viewQuery_spec hlimit, provenanceCenter,
    BrainEventHistoryResponse.shown]
  cases hnodes : query.checkedMaxNodes with
  | error message =>
    have hmessage : message ≠ notRetained eventId := by
      refine ne_notRetained ?_
      simp only [ProvenanceGraphQuery.checkedMaxNodes] at hnodes
      split at hnodes
      · cases hnodes
        simp [String.toList_append]
      · cases hnodes
    simpa using hmessage
  | ok nodes =>
    cases hfind : ((render tMs hub.history.replacements viewQuery 1 hub.firstPage).map
        BrainEventStreamRecord.shown).reverse.find? fun event => event.eventId = eventId with
    | some event =>
      have hmem := List.mem_of_find?_eq_some hfind
      have hid : event.eventId = eventId := by simpa using List.find?_some hfind
      simp only [List.mem_reverse, List.mem_map] at hmem
      obtain ⟨record, hrecord, rfl⟩ := hmem
      have hpage : hub.OnFirstPage tMs eventId := ⟨record, hrecord, hid⟩
      simp [hpage]
    | none =>
      have hno : ¬ hub.OnFirstPage tMs eventId := by
        rintro ⟨record, hrecord, hid⟩
        rw [List.find?_eq_none] at hfind
        exact hfind record.shown (by simpa using ⟨record, hrecord, rfl⟩) (by simpa using hid)
      simp [hno]

theorem authority_spec (hlimit : maxObservatoryQueryLimit ≤ hub.config.maxQueryLimit)
    (state : LiveControl) : ∃ view, hub.getObservatoryAuthority tMs state = .ok view ∧
      view.toLatchedFields = latchedFields (hub.firstPage.map SequencedBrainEvent.event) := by
  simp only [getObservatoryAuthority, viewQuery_spec hlimit, BrainEventHistoryResponse.shown]
  exact ⟨_, rfl, latchedFields_render⟩

theorem settledEarly_iff {α : Type} {read : JsonField → Option α} {keys : List String} :
    hub.SettledEarly read keys ↔
      latest read keys (hub.firstPage.map SequencedBrainEvent.event) =
        latest read keys (hub.retained.map SequencedBrainEvent.event) := by
  rw [← @retained_split hub, List.map_append, latest_append, SettledEarly]
  cases latest read keys (hub.laterEvents.map SequencedBrainEvent.event) with
  | none => simp
  | some value =>
    simp only [reduceCtorEq, false_or, Option.some_or]
    exact eq_comm

theorem allSettledEarly_iff :
    hub.AllSettledEarly ↔ latchedFields (hub.firstPage.map SequencedBrainEvent.event) =
      latchedFields (hub.retained.map SequencedBrainEvent.event) := by
  simp only [AllSettledEarly, settledEarly_iff, latchedFields, LatchedFields.mk.injEq]

/-- The views cover a history whose later events bring neither a new id nor a new latched value,
and no other that they answer for. -/
theorem viewsCoverHistory_iff (hub : RetainedHistory) (tMs : Nat) :
    hub.ViewsCoverHistory tMs ↔ hub.config.maxQueryLimit < maxObservatoryQueryLimit ∨
      ((∀ envelope ∈ hub.laterEvents, hub.OnFirstPage tMs envelope.event.eventId) ∧
        hub.AllSettledEarly) := by
  rcases Nat.lt_or_ge hub.config.maxQueryLimit maxObservatoryQueryLimit with hlimit | hlimit
  · refine iff_of_true ⟨fun envelope _ query => ?_, fun state view h => ?_⟩ (.inl hlimit)
    · rw [getObservatoryProvenance, viewQuery_refused hlimit]
      simp only [ne_eq, Except.error.injEq]
      exact ne_notRetained (by simp [String.toList_append])
    · rw [getObservatoryAuthority, viewQuery_refused hlimit] at h
      cases h
  · have hno : ¬ hub.config.maxQueryLimit < maxObservatoryQueryLimit := by omega
    simp only [hno, false_or]
    constructor
    · rintro ⟨hprovenance, hauthority⟩
      constructor
      · intro envelope hmem
        by_contra hpage
        refine hprovenance envelope (List.mem_of_mem_drop hmem) {} ?_
        exact (provenance_denied_iff hlimit).mpr ⟨⟨_, rfl⟩, hpage⟩
      · let state : LiveControl := ⟨⟨false, false, none, none, none⟩, none, none⟩
        obtain ⟨view, hview, hfields⟩ := @authority_spec hub tMs hlimit state
        rw [allSettledEarly_iff, ← hfields]
        exact hauthority state view hview
    · rintro ⟨hlater, hsettled⟩
      constructor
      · intro envelope hmem query hdenied
        refine ((provenance_denied_iff hlimit).mp hdenied).2 ?_
        rw [← retained_split, List.mem_append] at hmem
        rcases hmem with hmem | hmem
        · exact ⟨.event envelope, mem_render hmem, rfl⟩
        · exact hlater envelope hmem
      · intro state view hview
        obtain ⟨found, hfound, hfields⟩ := @authority_spec hub tMs hlimit state
        rw [hview] at hfound
        cases hfound
        rw [hfields]
        exact allSettledEarly_iff.mp hsettled

end RetainedHistory

/-- An event that says whether the emergency stop is latched. -/
def estopEvent (eventId : String) (latched : Bool) : BrainEvent where
  eventId
  eventType := .outcome
  kind := "brainstem.status"
  producer := { brain := .brainstem, component := "safety" }
  times := { occurred := { tMs := 0 }, observed := { tMs := 0 } }
  payload := .inline "application/json" (.object [("estop_latched", .bool latched)])

def latchedLate : List SequencedBrainEvent :=
  (List.range maxObservatoryQueryLimit).map (fun number => ⟨number + 1, estopEvent "clear" false⟩)
    ++ [⟨maxObservatoryQueryLimit + 1, estopEvent "latched" true⟩]

theorem inOrder_latchedLate : InOrder latchedLate := by
  rw [InOrder, latchedLate, List.pairwise_append, List.pairwise_map]
  refine ⟨List.pairwise_lt_range.imp (by simp), List.pairwise_singleton .., ?_⟩
  intro a ha b hb
  obtain ⟨number, hnumber, rfl⟩ := List.mem_map.mp ha
  rw [List.mem_singleton.mp hb]
  have := List.mem_range.mp hnumber
  simp only
  omega

theorem numbered_latchedLate : ∀ envelope ∈ latchedLate, 0 < envelope.sequence := by
  intro envelope hmem
  rcases List.mem_append.mp hmem with h | h
  · obtain ⟨number, _, rfl⟩ := List.mem_map.mp h
    simp
  · rw [List.mem_singleton.mp h]
    simp

def latchedLateHub : RetainedHistory :=
  .ofLive {} ⟨latchedLate, .empty⟩ (Nat.zero_lt_succ _) inOrder_latchedLate numbered_latchedLate

/-- The view still shows the emergency stop as clear. -/
theorem latched_late_hidden : ¬ latchedLateHub.ViewsCoverHistory 0 := by
  rintro ⟨_, hauthority⟩
  obtain ⟨view, hview, hfields⟩ := @RetainedHistory.authority_spec latchedLateHub 0
    (by decide) ⟨⟨false, false, none, none, none⟩, none, none⟩
  have hnewest := hauthority _ view hview
  have hretained : latchedLateHub.retained = latchedLate := RetainedHistory.retained_live rfl
  have hpage : latchedLateHub.firstPage.map SequencedBrainEvent.event =
      List.replicate maxObservatoryQueryLimit (estopEvent "clear" false) := by
    rw [RetainedHistory.firstPage, hretained, latchedLate, List.take_left' (by simp), List.map_map]
    exact List.eq_replicate_iff.mpr ⟨by simp, by simp⟩
  have hclear : latest JsonField.asBool estopLatchedKeys
      (List.replicate maxObservatoryQueryLimit (estopEvent "clear" false)) = some false := by
    rw [maxObservatoryQueryLimit, List.replicate_succ', latest_append]
    rfl
  have hlatched : latest JsonField.asBool estopLatchedKeys
      (latchedLate.map SequencedBrainEvent.event) = some true := by
    rw [latchedLate, List.map_append, latest_append]
    rfl
  rw [hfields, hpage, hretained] at hnewest
  have := congrArg LatchedFields.estopLatched hnewest
  simp only [latchedFields, hclear, hlatched] at this
  cases this

end Netherwick.Observatory
