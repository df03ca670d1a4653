import Netherwick.Lib.Run
import Netherwick.Observatory.History

/-! # The way into the hub

Publishers put events into the ingress queue, one worker takes them out, numbers them, hands the
loss-intolerant ones to the durable writer and appends them to the history. The closed flag, the
claimed identities, the queue and the history are read and written apart, so each access is a step
of its own. -/

namespace Netherwick.Observatory

open Netherwick.Lib

/-- The identities in the order they were claimed, the oldest of them forgotten. -/
structure DurableSeenEventIds where
  order : List String
  capacity : Nat
  nodup : order.Nodup

namespace DurableSeenEventIds

theorem nodup_insert {order : List String} (h : order.Nodup) {eventId : String}
    (hnew : eventId ∉ order) (count : Nat) : ((order ++ [eventId]).drop count).Nodup := by
  apply List.Nodup.sublist (List.drop_sublist ..)
  simp only [List.nodup_append, List.mem_singleton]
  refine ⟨h, by simp, ?_⟩
  rintro other hother _ rfl rfl
  exact hnew hother

/-- `None` where the identity was seen before. -/
def insert (seen : DurableSeenEventIds) (eventId : String) : Option DurableSeenEventIds :=
  if h : eventId ∈ seen.order then none
  else some
    { seen with
      order := (seen.order ++ [eventId]).drop (seen.order.length + 1 - seen.capacity)
      nodup := nodup_insert seen.nodup h _ }

def remove (seen : DurableSeenEventIds) (eventId : String) : DurableSeenEventIds :=
  { seen with order := seen.order.erase eventId, nodup := seen.nodup.erase eventId }

end DurableSeenEventIds

/-- What the hub sees of the durable store: the claims, and the queue of the writer thread. -/
structure DurableIntake where
  seen : DurableSeenEventIds
  /-- The sender is there until the store is closed. -/
  isOpen : Bool
  writerQueue : List SequencedBrainEvent
  writerQueueCapacity : Nat
  /-- The identities of all events that were ever handed to a writer on this path. -/
  handed : List String

namespace DurableIntake

def accepts (intake : DurableIntake) : Bool :=
  intake.isOpen && intake.writerQueue.length < intake.writerQueueCapacity

/-- `try_send`: what the queue does not take is counted and forgotten. -/
def enqueue (intake : DurableIntake) (envelope : SequencedBrainEvent) : DurableIntake :=
  if intake.accepts then
    { intake with
      writerQueue := intake.writerQueue ++ [envelope]
      handed := envelope.event.eventId :: intake.handed }
  else intake

end DurableIntake

inductive PublishOutcome where
  | queued
  | coalescedPendingTelemetry
  | droppedTelemetry
  | duplicate
deriving DecidableEq, Repr

inductive BrainEventPublishError where
  | closed
  | invalidEvent (error : BrainEventError)
  | criticalQueueFull
deriving DecidableEq, Repr

def BrainEvent.hasKey (key : String) (pending : BrainEvent) : Bool :=
  pending.coalescingKey = some key

/-- The first pending event of the key gives its place to the new one. -/
def replacePending (key : String) (event : BrainEvent) : List BrainEvent → List BrainEvent
  | [] => []
  | pending :: rest =>
    if pending.hasKey key then event :: rest else pending :: replacePending key event rest

/-- The part of `publish` under the ingress lock. -/
def pushIngress (capacity : Nat) (queue : List BrainEvent) (event : BrainEvent) :
    Except BrainEventPublishError (List BrainEvent × PublishOutcome) :=
  match event.coalescingKey with
  | some key =>
    if queue.any (BrainEvent.hasKey key) then
      .ok (replacePending key event queue, .coalescedPendingTelemetry)
    else if capacity ≤ queue.length then .ok (queue, .droppedTelemetry)
    else .ok (queue ++ [event], .queued)
  | none =>
    if capacity ≤ queue.length then
      if queue.any BrainEvent.isCoalescible then
        .ok (queue.eraseP BrainEvent.isCoalescible ++ [event], .queued)
      else .error .criticalQueueFull
    else .ok (queue ++ [event], .queued)

/-- Where a call of `publish` stands. -/
inductive PublishCall where
  /-- The hub was open and the event is valid; its identity is still to be claimed. -/
  | checked (event : BrainEvent)
  /-- The call waits for the ingress lock. -/
  | entering (event : BrainEvent) (durableClaimed : Bool)
  /-- The lock is released and the worker is still to be notified. -/
  | notifying
deriving DecidableEq

/-- Where the worker stands. -/
inductive DrainStage where
  | idle
  /-- The queue was empty, the closed flag is still to be read. -/
  | foundEmpty
  | awaiting
  | popped (event : BrainEvent)
  | numbered (envelope : SequencedBrainEvent)
  | handed (envelope : SequencedBrainEvent)
  | stopped
deriving DecidableEq

/-- The event that is being retained. -/
def DrainStage.event? : DrainStage → Option BrainEvent
  | .popped event => some event
  | .numbered envelope | .handed envelope => some envelope.event
  | _ => none

structure IngressHub where
  config : BrainEventHubConfig
  ingress : List BrainEvent
  history : HistoryState
  nextSequence : Nat
  closed : Bool
  /-- The permit that `notify_one` leaves for the worker. -/
  permit : Bool
  worker : DrainStage
  calls : List PublishCall
  /-- The calls of `close` that have not notified yet. -/
  closing : Nat
  durable : Option DurableIntake
  /-- Every envelope that was appended to the history. -/
  log : List SequencedBrainEvent
  /-- Every loss-intolerant event whose publish found a place in the queue. -/
  accepted : List BrainEvent

inductive IngressInput where
  | publish (event : BrainEvent)
  | claim (index : Nat)
  | enter (index : Nat)
  | notify (index : Nat)
  | close
  | closeNotify
  | look
  | testClosed
  | wake
  | number
  | handOver
  | append
  /-- A shutdown or the stopped worker takes the sender of the durable store. -/
  | closeDurable
  /-- The writer thread takes a record off its queue. -/
  | write
deriving DecidableEq

namespace IngressInput

def isWorker : IngressInput → Bool
  | .look | .testClosed | .wake | .number | .handOver | .append => true
  | _ => false

end IngressInput

namespace IngressHub

def firstStage (hub : IngressHub) (event : BrainEvent) : PublishCall :=
  if event.lossIntolerant && hub.durable.isSome then .checked event else .entering event false

/-- A claim is given back where the event found no place. -/
def released (hub : IngressHub) (event : BrainEvent) (durableClaimed : Bool) : IngressHub :=
  if durableClaimed then
    { hub with
      durable := hub.durable.map fun intake =>
        { intake with seen := intake.seen.remove event.eventId } }
  else hub

def step (hub : IngressHub) : IngressInput → IngressHub
  | .publish event =>
    if hub.closed then hub
    else
      match event.validate with
      | .error _ => hub
      | .ok _ => { hub with calls := hub.calls ++ [hub.firstStage event] }
  | .claim index =>
    match hub.calls[index]?, hub.durable with
    | some (.checked event), some intake =>
      match intake.seen.insert event.eventId with
      | some seen =>
        { hub with
          durable := some { intake with seen := seen }
          calls := hub.calls.set index (.entering event true) }
      | none => { hub with calls := hub.calls.eraseIdx index }
    | _, _ => hub
  | .enter index =>
    match hub.calls[index]? with
    | some (.entering event durableClaimed) =>
      match pushIngress hub.config.ingressCapacity hub.ingress event with
      | .ok (queue, outcome) =>
        { hub with
          ingress := queue
          calls := hub.calls.set index .notifying
          accepted :=
            if event.lossIntolerant && outcome = .queued then hub.accepted ++ [event]
            else hub.accepted }
      | .error _ =>
        { hub.released event durableClaimed with calls := hub.calls.eraseIdx index }
    | _ => hub
  | .notify index =>
    match hub.calls[index]? with
    | some .notifying => { hub with permit := true, calls := hub.calls.eraseIdx index }
    | _ => hub
  | .close => { hub with closed := true, closing := hub.closing + 1 }
  | .closeNotify =>
    if hub.closing = 0 then hub else { hub with permit := true, closing := hub.closing - 1 }
  | .look =>
    match hub.worker, hub.ingress with
    | .idle, event :: rest => { hub with ingress := rest, worker := .popped event }
    | .idle, [] => { hub with worker := .foundEmpty }
    | _, _ => hub
  | .testClosed =>
    match hub.worker with
    | .foundEmpty => { hub with worker := if hub.closed then .stopped else .awaiting }
    | _ => hub
  | .wake =>
    match hub.worker with
    | .awaiting => if hub.permit then { hub with permit := false, worker := .idle } else hub
    | _ => hub
  | .number =>
    match hub.worker with
    | .popped event =>
      { hub with
        nextSequence := hub.nextSequence + 1
        worker := .numbered ⟨hub.nextSequence + 1, event⟩ }
    | _ => hub
  | .handOver =>
    match hub.worker with
    | .numbered envelope =>
      { hub with
        durable :=
          if envelope.event.lossIntolerant then
            hub.durable.map fun intake => intake.enqueue envelope
          else hub.durable
        worker := .handed envelope }
    | _ => hub
  | .append =>
    match hub.worker with
    | .handed envelope =>
      { hub with
        history := hub.history.retain hub.config.historyCapacity envelope
        worker := .idle
        log := hub.log ++ [envelope] }
    | _ => hub
  | .closeDurable =>
    if hub.closed then
      { hub with durable := hub.durable.map fun intake => { intake with isOpen := false } }
    else hub
  | .write =>
    { hub with
      durable := hub.durable.map fun intake =>
        { intake with writerQueue := intake.writerQueue.drop 1 } }

end IngressHub

end Netherwick.Observatory
