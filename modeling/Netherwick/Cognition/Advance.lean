import Mathlib.Data.List.Infix
import Netherwick.Observatory.Event

/-! # Cognition in the background

One request at a time goes to the language model. Every tick looks after it: a request that is late
is closed, one that is finished is answered, and after a quiet time a new one is made. -/

namespace Netherwick.Cognition

open Observatory (EventDisposition)

def deadlineMs : Nat := 2000

def cooldownMs : Nat := 2000

/-- What a result brings besides its sense: the decision and the conscious command. -/
structure LlmTickResult (Sense Decision : Type) where
  sense : Sense
  decision : Decision

/-- How a background task ended. -/
inductive TaskOutcome (Sense Decision Combobulation : Type) where
  | joinError (cancelled : Bool) (error : String)
  | failed (error : String)
  | finished (reflection : Option Combobulation) (result : LlmTickResult Sense Decision)

inductive CognitionOutcome where
  | accepted | expired | failed (error : String) | cancelled

inductive ResponsePayload (Sense Decision Combobulation : Type) where
  | reason (text : String)
  | error (text : String)
  | result (result : LlmTickResult Sense Decision) (reflection : Option Combobulation)

structure RequestEvent (FrameId : Type) where
  frameId : FrameId
  tMs : Nat
  deadlineMs : Nat

structure ResponseEvent (FrameId Sense Decision Combobulation : Type) where
  requestFrameId : FrameId
  requestedAtMs : Nat
  observedAtMs : Nat
  disposition : EventDisposition
  payload : ResponsePayload Sense Decision Combobulation

inductive BrainEvent (FrameId Sense Decision Combobulation : Type) where
  | request (event : RequestEvent FrameId)
  | response (event : ResponseEvent FrameId Sense Decision Combobulation)
  | unavailable (frameId : FrameId) (tMs : Nat) (reason : String)

structure PendingLlmCognition (FrameId : Type) where
  requestFrameId : FrameId
  requestedAtMs : Nat
  deadlineMs : Nat

structure AcceptedLlmCognition (FrameId Sense Decision Combobulation : Type) where
  reflection : Option Combobulation
  tick : LlmTickResult Sense Decision
  snapshotRef : FrameId
  requestedAtMs : Nat
  observedAtMs : Nat

variable {FrameId Sense Decision Combobulation : Type}

def higherBrainRequestEvent (frameId : FrameId) (tMs : Nat) : RequestEvent FrameId where
  frameId := frameId
  tMs := tMs
  deadlineMs := tMs + deadlineMs

def BrainEvent.kind : BrainEvent FrameId Sense Decision Combobulation → String
  | .request _ => "brain.exchange.mother_to_higher.request"
  | .unavailable .. => "brain.exchange.higher.unavailable"
  | .response event => match event.disposition with
      | .accepted => "brain.exchange.higher_to_mother.response"
      | .expired => "brain.exchange.higher_to_mother.expired"
      | .rejected => "brain.exchange.higher_to_mother.cancelled"
      | _ => "brain.exchange.higher_to_mother.unavailable"

/-- What a tick finds: the time, its frame, how the pending task has ended if it has, and whether the
provider declares itself available. -/
structure Tick (FrameId Sense Decision Combobulation : Type) where
  nowMs : Nat
  frameId : FrameId
  task : Option (TaskOutcome Sense Decision Combobulation) := none
  providerDeclaredAvailable : Bool := true
  providerUnavailableReason : Option String := none

/-- The cognition of the runtime, with every event and every note that it has pushed. -/
structure RuntimeCognition (FrameId Sense Decision Combobulation : Type) where
  pending : Option (PendingLlmCognition FrameId) := none
  nextRequestAtMs : Nat := 0
  lastSense : Sense
  lastSenseValidUntilMs : Nat := 0
  lastOutcome : Option CognitionOutcome := none
  brainEvents : List (BrainEvent FrameId Sense Decision Combobulation) := []
  notes : List String := []

namespace RuntimeCognition

section Steps

variable (cognition : RuntimeCognition FrameId Sense Decision Combobulation) (nowMs : Nat)

/-- `Default::default()` of a sense is `default`. -/
def fromAgent [Inhabited Sense] : RuntimeCognition FrameId Sense Decision Combobulation where
  lastSense := default

def push (event : BrainEvent FrameId Sense Decision Combobulation) :
    RuntimeCognition FrameId Sense Decision Combobulation :=
  { cognition with brainEvents := cognition.brainEvents ++ [event] }

/-- The sense is forgotten once it is too old. -/
def forget [Inhabited Sense] : RuntimeCognition FrameId Sense Decision Combobulation :=
  if cognition.lastSenseValidUntilMs < nowMs then { cognition with lastSense := default }
  else cognition

def close (pending : PendingLlmCognition FrameId) (outcome : CognitionOutcome)
    (disposition : EventDisposition) (payload : ResponsePayload Sense Decision Combobulation) :
    RuntimeCognition FrameId Sense Decision Combobulation :=
  { cognition with
    pending := none
    nextRequestAtMs := nowMs + cooldownMs
    lastOutcome := some outcome
    brainEvents := cognition.brainEvents ++ [.response {
      requestFrameId := pending.requestFrameId
      requestedAtMs := pending.requestedAtMs
      observedAtMs := nowMs
      disposition := disposition
      payload := payload }] }

def expire : RuntimeCognition FrameId Sense Decision Combobulation :=
  match cognition.pending with
  | some pending =>
    if pending.deadlineMs < nowMs then
      cognition.close nowMs pending .expired .expired (.reason "deadline expired")
    else cognition
  | none => cognition

def accept (pending : PendingLlmCognition FrameId) (reflection : Option Combobulation)
    (result : LlmTickResult Sense Decision) :
    RuntimeCognition FrameId Sense Decision Combobulation :=
  { cognition.close nowMs pending .accepted .accepted (.result result reflection) with
    lastSense := result.sense
    lastSenseValidUntilMs := nowMs + deadlineMs }

/-- The finished task of the pending request is taken. -/
def settle (pending : PendingLlmCognition FrameId) :
    TaskOutcome Sense Decision Combobulation →
      RuntimeCognition FrameId Sense Decision Combobulation ×
        Option (AcceptedLlmCognition FrameId Sense Decision Combobulation)
  | .joinError cancelled error =>
    (cognition.close nowMs pending (if cancelled then .cancelled else .failed error)
      (if cancelled then .rejected else .unavailable) (.error error), none)
  | .failed error => (cognition.close nowMs pending (.failed error) .unavailable (.error error), none)
  | .finished reflection result =>
    if pending.deadlineMs < nowMs then
      (cognition.close nowMs pending .expired .expired
        (.reason "response arrived after deadline"), none)
    else (cognition.accept nowMs pending reflection result, some {
      reflection := reflection
      tick := result
      snapshotRef := pending.requestFrameId
      requestedAtMs := pending.requestedAtMs
      observedAtMs := nowMs })

def poll (task : Option (TaskOutcome Sense Decision Combobulation)) :
    RuntimeCognition FrameId Sense Decision Combobulation ×
      Option (AcceptedLlmCognition FrameId Sense Decision Combobulation) :=
  match cognition.pending, task with
  | some pending, some outcome => cognition.settle nowMs pending outcome
  | _, _ => (cognition, none)

def request (frameId : FrameId) : RuntimeCognition FrameId Sense Decision Combobulation :=
  { cognition with
    pending := some ⟨frameId, nowMs, nowMs + deadlineMs⟩
    brainEvents := cognition.brainEvents ++ [.request (higherBrainRequestEvent frameId nowMs)] }

def ask (tick : Tick FrameId Sense Decision Combobulation) :
    RuntimeCognition FrameId Sense Decision Combobulation :=
  if tick.providerDeclaredAvailable && cognition.pending.isNone &&
      cognition.nextRequestAtMs ≤ tick.nowMs then
    cognition.request tick.nowMs tick.frameId
  else if !tick.providerDeclaredAvailable && cognition.pending.isNone then
    cognition.push (.unavailable tick.frameId tick.nowMs
      (tick.providerUnavailableReason.getD "provider did not declare availability"))
  else cognition

def outcomeNote : CognitionOutcome → String
  | .accepted => "LlmProviderOutcome: accepted"
  | .expired => "LlmProviderOutcome: expired"
  | .cancelled => "LlmProviderOutcome: cancelled"
  | .failed error => "LlmProviderOutcome: failed: " ++ error

def note : RuntimeCognition FrameId Sense Decision Combobulation :=
  { cognition with notes := cognition.notes ++ cognition.lastOutcome.toList.map outcomeNote }

def advanceCognition [Inhabited Sense] (tick : Tick FrameId Sense Decision Combobulation) :
    RuntimeCognition FrameId Sense Decision Combobulation ×
      Option (AcceptedLlmCognition FrameId Sense Decision Combobulation) :=
  let polled := ((cognition.forget tick.nowMs).expire tick.nowMs).poll tick.nowMs tick.task
  ((polled.1.ask tick).note, polled.2)

end Steps

/-- The tick goes on with the cognition; what was accepted goes to the impressions. -/
def step [Inhabited Sense] (cognition : RuntimeCognition FrameId Sense Decision Combobulation)
    (tick : Tick FrameId Sense Decision Combobulation) :
    RuntimeCognition FrameId Sense Decision Combobulation :=
  (cognition.advanceCognition tick).1

end RuntimeCognition

end Netherwick.Cognition
