import Netherwick.Lib.Run
import Netherwick.Observatory.PagingAccounts

/-! # The event stream

A subscriber of the stream first subscribes to the broadcast channel, then asks the history, and
then follows the channel, while the worker numbers, retains and broadcasts events. The channel
hands the messages on in order and says how many it skipped. -/

namespace Netherwick.Observatory

open Netherwick.Lib

/-- Where `retain_brain_event` stands with an event. -/
inductive WorkerStage where
  | idle
  | numbered (envelope : SequencedBrainEvent)
  | pushed (envelope : SequencedBrainEvent)
deriving DecidableEq, Repr

structure StreamHub where
  config : BrainEventHubConfig
  hasDurable : Bool
  nextSequence : Nat
  history : HistoryState
  stage : WorkerStage
  /-- Every event that was ever given a number. -/
  log : List SequencedBrainEvent

/-- The number of the last message on the channel. -/
def StreamHub.sent (hub : StreamHub) : Nat :=
  match hub.stage with
  | .idle => hub.nextSequence
  | .numbered _ => hub.nextSequence - 1
  | .pushed _ => hub.nextSequence - 1

/-- The number of the last event in the history, or replaced in it. -/
def StreamHub.retainedTo (hub : StreamHub) : Nat :=
  match hub.stage with
  | .idle => hub.nextSequence
  | .numbered _ => hub.nextSequence - 1
  | .pushed _ => hub.nextSequence

inductive StreamClient where
  | connecting
  | subscribed (pending : List SequencedBrainEvent)
  | querying (pending : List SequencedBrainEvent) (call : QueryCall)
  | streaming (pending : List SequencedBrainEvent) (lastSequence : Nat)
      (records : List BrainEventStreamRecord)
  | closed

/-- The messages the channel holds for the subscriber. -/
def StreamClient.pending : StreamClient → List SequencedBrainEvent
  | .connecting => []
  | .subscribed pending => pending
  | .querying pending _ => pending
  | .streaming pending _ _ => pending
  | .closed => []

/-- What the subscriber was sent. -/
def StreamClient.records : StreamClient → List BrainEventStreamRecord
  | .streaming _ _ records => records
  | _ => []

def StreamClient.offer (envelope : SequencedBrainEvent) : StreamClient → StreamClient
  | .connecting => .connecting
  | .subscribed pending => .subscribed (pending ++ [envelope])
  | .querying pending call => .querying (pending ++ [envelope]) call
  | .streaming pending lastSequence records =>
    .streaming (pending ++ [envelope]) lastSequence records
  | .closed => .closed

structure StreamState where
  hub : StreamHub
  query : BrainEventQuery
  client : StreamClient

/-- The number of the next message the subscriber can receive. -/
def StreamState.nextMessage (state : StreamState) : Nat :=
  state.hub.sent + 1 - state.client.pending.length

inductive StreamInput where
  | number (event : BrainEvent)
  | push
  | broadcast
  | subscribe
  /-- The query checks itself and copies the history. -/
  | copy
  /-- A turn of the query, with what the index has and what the file gives at its place. -/
  | turn (tMs : Nat) (entries : List DurableBrainEventIndexEntry)
      (found : Except String SequencedBrainEvent)
  | receive (tMs : Nat)
  | lag (tMs skipped : Nat)
  | leave

/-- `last_sequence` once the page has been sent. -/
def lastOfPage (start : Nat) (call : QueryCall) : Nat :=
  max (call.records.foldl (fun lastSequence record =>
    match record with
    | .event envelope => max lastSequence envelope.sequence
    | .gap _ => lastSequence) start) call.nextCursor

/-- What the loop does with a message: its new `last_sequence` and all it has sent. -/
def receiveEvent (tMs : Nat) (query : BrainEventQuery) (lastSequence : Nat)
    (records : List BrainEventStreamRecord) (envelope : SequencedBrainEvent) :
    Nat × List BrainEventStreamRecord :=
  if envelope.sequence ≤ lastSequence ∨ query.matchesEvent envelope.event = false then
    (max lastSequence envelope.sequence, records)
  else
    (envelope.sequence,
      records
        ++ (if lastSequence + 1 < envelope.sequence then
          [.gap (.new tMs (lastSequence + 1) (envelope.sequence - 1) .clientLagged)] else [])
        ++ [.event envelope])

def indexOf (entries : List DurableBrainEventIndexEntry) : DurableIndex :=
  SortedMap.empty.insertAll (entries.map fun entry => (entry.sequence, entry))

namespace StreamState

/-- What is found on disk is an event that was numbered once. -/
def stores (hub : StreamHub) (found : Except String SequencedBrainEvent) : Bool :=
  match found with
  | .ok envelope => hub.log.contains envelope
  | .error _ => true

def afterTurn (state : StreamState) (pending : List SequencedBrainEvent) :
    QueryTurn → StreamState
  | .going call => { state with client := .querying pending call }
  | .finished call =>
    { state with
      client := .streaming pending (lastOfPage (state.query.afterSequence.getD 0) call)
        call.records }
  | .failed _ => { state with client := .closed }

def step (state : StreamState) (input : StreamInput) : StreamState :=
  match input with
  | .number event =>
    match state.hub.stage with
    | .idle =>
      { state with
        hub := { state.hub with
          nextSequence := state.hub.nextSequence + 1
          stage := .numbered ⟨state.hub.nextSequence + 1, event⟩
          log := state.hub.log ++ [⟨state.hub.nextSequence + 1, event⟩] } }
    | _ => state
  | .push =>
    match state.hub.stage with
    | .numbered envelope =>
      { state with
        hub := { state.hub with
          history := state.hub.history.retain state.hub.config.historyCapacity envelope
          stage := .pushed envelope } }
    | _ => state
  | .broadcast =>
    match state.hub.stage with
    | .pushed envelope =>
      { state with
        hub := { state.hub with stage := .idle }
        client := state.client.offer envelope }
    | _ => state
  | .subscribe =>
    match state.client with
    | .connecting => { state with client := .subscribed [] }
    | _ => state
  | .copy =>
    match state.client with
    | .subscribed pending =>
      match state.query.validate state.hub.config.maxQueryLimit with
      | .ok _ =>
        { state with
          client := .querying pending (QueryCall.open state.hub.config state.hub.hasDurable
            state.hub.history state.query) }
      | .error _ => { state with client := .closed }
    | _ => state
  | .turn tMs entries found =>
    match state.client with
    | .querying pending call =>
      if stores state.hub found then
        state.afterTurn pending (call.turn tMs (indexOf entries) (readIndexedEvent found))
      else state
    | _ => state
  | .receive tMs =>
    match state.client with
    | .streaming (envelope :: pending) lastSequence records =>
      { state with
        client := .streaming pending
          (receiveEvent tMs state.query lastSequence records envelope).1
          (receiveEvent tMs state.query lastSequence records envelope).2 }
    | _ => state
  | .lag tMs skipped =>
    match state.client with
    | .streaming pending lastSequence records =>
      if skipped ≤ pending.length then
        { state with
          client := .streaming (pending.drop skipped) (lastSequence + skipped)
            (records ++ [.gap (.new tMs (lastSequence + 1) (lastSequence + skipped)
              .clientLagged)]) }
      else state
    | _ => state
  | .leave => { state with client := .closed }

/-- The hub at rest and the subscriber not there yet. -/
structure Fresh (state : StreamState) : Prop where
  idle : state.hub.stage = .idle
  order : InOrder state.hub.history.events
  below : ∀ envelope ∈ state.hub.history.events, envelope.sequence ≤ state.hub.nextSequence
  logged : ∀ envelope ∈ state.hub.history.events, envelope ∈ state.hub.log
  connecting : state.client = .connecting

/-- Every number between the cursors was delivered, filtered out or declared missing, one of them
and once; nothing else was sent, and no gap holds a number that can still be received. -/
structure Accounted (state : StreamState) (lastSequence : Nat)
    (records : List BrainEventStreamRecord) : Prop where
  within : ∀ number, state.query.afterSequence.getD 0 < number → number ≤ lastSequence →
    (deliveries number records = 1 ∧ gapsAt number records = 0 ∧
        ∃ envelope ∈ state.hub.log, envelope.sequence = number ∧
          state.query.matchesEvent envelope.event = true) ∨
      (deliveries number records = 0 ∧ gapsAt number records = 0 ∧
        ∃ envelope ∈ state.hub.log, envelope.sequence = number ∧
          state.query.matchesEvent envelope.event = false) ∨
      (deliveries number records = 0 ∧ gapsAt number records = 1)
  outside : ∀ number, number ≤ state.query.afterSequence.getD 0 ∨ lastSequence < number →
    deliveries number records = 0 ∧ gapsAt number records = 0
  unreceived : ∀ number, state.nextMessage ≤ number → gapsAt number records = 0

/-- What is claimed of a stream at any time. -/
def Sound (state : StreamState) : Prop :=
  match state.client with
  | .streaming _ lastSequence records => state.Accounted lastSequence records
  | _ => True

def completes (state : StreamState) (input : StreamInput) : Option QueryCall :=
  match state.client, input with
  | .querying _ call, .turn tMs entries found =>
    match call.turn tMs (indexOf entries) (readIndexedEvent found) with
    | .finished page => if stores state.hub found then some page else none
    | _ => none
  | _, _ => none

/-- The page has no gap at a number the channel still holds; a filtered message leaves no number
out; the channel skips only messages past the cursor. -/
def Undisturbed (state : StreamState) (input : StreamInput) : Prop :=
  (∀ page, state.completes input = some page →
    ∀ number, state.nextMessage ≤ number → gapsAt number page.records = 0) ∧
  match state.client, input with
  | .streaming (envelope :: _) lastSequence _, .receive _ =>
    state.query.matchesEvent envelope.event = false → envelope.sequence ≤ lastSequence + 1
  | .streaming (envelope :: _) lastSequence _, .lag _ _ => lastSequence < envelope.sequence
  | _, _ => True

end StreamState

end Netherwick.Observatory
