import Netherwick.Lib.Run
import Netherwick.Observatory.DurableOrder

/-! # A hub whose history is paged

The worker numbers events, hands the durable ones to the writer, retains them and broadcasts them;
the writer appends to the durable log; a client asks for one page after the other, each from where
the last one ended. Any of them may go on between two turns of a query. -/

namespace Netherwick.Observatory

open Netherwick.Lib

/-- How the writer's lines are numbered and identified. -/
def durableFormat (lines : LineFormat SequencedBrainEvent) : DurableFormat SequencedBrainEvent where
  toLineFormat := lines
  sequence := SequencedBrainEvent.sequence
  eventId envelope := envelope.event.eventId

/-- Where `retain_brain_event` stands with an event. -/
inductive RetainStage where
  | idle
  | numbered (envelope : SequencedBrainEvent)
  | handed (envelope : SequencedBrainEvent)
  | pushed (envelope : SequencedBrainEvent)
deriving DecidableEq, Repr

structure DurableStore where
  log : DurableLog SequencedBrainEvent
  writerQueue : List SequencedBrainEvent

structure PagingCall where
  call : QueryCall
  /-- The numbers in the live history or the index when the history was copied. -/
  heldAtStart : List Nat
  looked : List SequencedBrainEvent

structure AnsweredCall where
  query : BrainEventQuery
  response : BrainEventHistoryResponse
  looked : List SequencedBrainEvent
  heldAtStart : List Nat
  heldAtEnd : List Nat

structure PagingClient where
  start : Nat
  answered : List AnsweredCall := []
  call : Option PagingCall := none

def PagingClient.cursor (client : PagingClient) : Nat :=
  (client.answered.getLast?.map fun answer => answer.response.nextCursor).getD client.start

/-- The next query: whatever else it asks for, it goes on from the cursor. -/
def PagingClient.asked (client : PagingClient) (query : BrainEventQuery) : BrainEventQuery :=
  { query with afterSequence := some client.cursor }

def PagingClient.records (client : PagingClient) : List BrainEventStreamRecord :=
  client.answered.flatMap fun answer => answer.response.records

structure PagedHub where
  config : BrainEventHubConfig
  nextSequence : Nat
  stage : RetainStage
  history : HistoryState
  store : Option DurableStore
  client : PagingClient

inductive PagedInput where
  | number (event : BrainEvent)
  /-- A durable event goes to the writer, whose queue may be full or closed. -/
  | handOver (taken : Bool)
  | push
  | broadcast
  /-- The writer appends its next record, and may fail in it. -/
  | append (fault : Option AppendFault)
  /-- The client asks from its cursor on. -/
  | «open» (query : BrainEventQuery)
  /-- A turn of the query, with what it finds on disk at the next entry's place. -/
  | turn (tMs : Nat) (found : Except String SequencedBrainEvent)

namespace PagedHub

variable (lines : LineFormat SequencedBrainEvent) (hub : PagedHub)

/-- `BrainEventHub::from_parts`. -/
def fromParts (config : BrainEventHubConfig) (log : Option (DurableLog SequencedBrainEvent))
    (recovered : List SequencedBrainEvent) (client : PagingClient) : PagedHub where
  config := config.normalized
  nextSequence := (recovered.map SequencedBrainEvent.sequence).foldl max 0
  stage := .idle
  history :=
    { events := recovered.drop (recovered.length - config.normalized.historyCapacity)
      replacements := .empty }
  store := log.map fun log => { log, writerQueue := [] }
  client

def index : DurableIndex := (hub.store.map fun store => store.log.index).getD .empty

def held : List Nat :=
  hub.history.events.map SequencedBrainEvent.sequence ++ hub.index.entries.map Prod.fst

def afterTurn (paging : PagingCall) (looked : List SequencedBrainEvent) : QueryTurn → PagedHub
  | .going call =>
    { hub with
      client := { hub.client with
        call := some { paging with call, looked := paging.looked ++ looked } } }
  | .finished call =>
    { hub with
      client := { hub.client with
        call := none
        answered := hub.client.answered ++
          [{ query := call.query
             response := call.response hub.history
             looked := paging.looked ++ looked
             heldAtStart := paging.heldAtStart
             heldAtEnd := hub.held }] } }
  | .failed _ => { hub with client := { hub.client with call := none } }

def step : PagedInput → PagedHub
  | .number event =>
    match hub.stage with
    | .idle =>
      { hub with
        nextSequence := hub.nextSequence + 1
        stage := .numbered ⟨hub.nextSequence + 1, event⟩ }
    | _ => hub
  | .handOver taken =>
    match hub.stage with
    | .numbered envelope =>
      { hub with
        stage := .handed envelope
        store := hub.store.map fun store =>
          if envelope.event.lossIntolerant && taken then
            { store with writerQueue := store.writerQueue ++ [envelope] }
          else store }
    | _ => hub
  | .push =>
    match hub.stage with
    | .handed envelope =>
      { hub with
        stage := .pushed envelope
        history := hub.history.retain hub.config.historyCapacity envelope }
    | _ => hub
  | .broadcast =>
    match hub.stage with
    | .pushed _ => { hub with stage := .idle }
    | _ => hub
  | .append fault =>
    match hub.store with
    | some ⟨log, envelope :: queue⟩ =>
      { hub with
        store := some ⟨log.step (durableFormat lines) (.append envelope fault), queue⟩ }
    | _ => hub
  | .open query =>
    match hub.client.call, (hub.client.asked query).validate hub.config.maxQueryLimit with
    | none, .ok _ =>
      { hub with
        client := { hub.client with
          call := some
            { call := QueryCall.open hub.config hub.store.isSome hub.history
                (hub.client.asked query)
              heldAtStart := hub.held
              looked := [] } } }
    | _, _ => hub
  | .turn tMs found =>
    match hub.client.call with
    | some paging =>
      hub.afterTurn paging (paging.call.taken (readIndexedEvent found))
        (paging.call.turn tMs hub.index (readIndexedEvent found))
    | none => hub

end PagedHub

/-- Every number up to the cursor was delivered, filtered out or declared missing, one of them and
once. -/
def PagingClient.Lossless (client : PagingClient) : Prop :=
  ∀ number, client.start < number → number ≤ client.cursor →
    (deliveries number client.records = 1 ∧ gapsAt number client.records = 0 ∧
        ∃ answer ∈ client.answered, ∃ envelope ∈ answer.looked, envelope.sequence = number ∧
          answer.query.matchesEvent envelope.event = true) ∨
      (deliveries number client.records = 0 ∧ gapsAt number client.records = 0 ∧
        ∃ answer ∈ client.answered, ∃ envelope ∈ answer.looked, envelope.sequence = number ∧
          answer.query.matchesEvent envelope.event = false) ∨
      (deliveries number client.records = 0 ∧ gapsAt number client.records = 1)

def AnsweredCall.KeepsHeld (answer : AnsweredCall) : Prop :=
  ∀ number ∈ answer.heldAtStart, number ∈ answer.heldAtEnd →
    ∀ missing, .gap missing ∈ answer.response.records → missing.reason = .retentionExpired →
      ¬ (missing.fromSequence ≤ number ∧ number ≤ missing.toSequence)

namespace PagedHub

/-- The record appended next bears an identity that no line on disk has, and its append takes no
event out of the index that an open call has yet to fetch and the live history has by now. -/
def Undisturbed (lines : LineFormat SequencedBrainEvent) (hub : PagedHub) : PagedInput → Prop
  | .append fault =>
    ∀ store ∈ hub.store, ∀ envelope ∈ store.writerQueue.head?,
      (∀ other ∈ allFound (durableFormat lines) store.log.config store.log.files,
        other.event.eventId ≠ envelope.event.eventId) ∧
      ∀ paging ∈ hub.client.call, ∀ number ∈ paging.heldAtStart,
        paging.call.durableExhausted = false → paging.call.durableCursor < number →
        (∃ live ∈ hub.history.events, live.sequence = number) →
        store.log.index.contains number = true →
        (hub.step lines (.append fault)).index.contains number = true
  | _ => True

/-- A hub that has just been set up, on whatever files, and a client that has not asked yet. -/
structure Fresh (lines : LineFormat SequencedBrainEvent) (hub : PagedHub) : Prop where
  idle : hub.stage = .idle
  order : InOrder hub.history.events
  below : ∀ envelope ∈ hub.history.events, envelope.sequence ≤ hub.nextSequence
  store : ∀ store ∈ hub.store, store.writerQueue = [] ∧
    DurableLog.Ordered (durableFormat lines) store.log ∧ store.log.newest ≤ hub.nextSequence
  unasked : hub.client.answered = []
  uncalled : hub.client.call = none

end PagedHub

end Netherwick.Observatory
