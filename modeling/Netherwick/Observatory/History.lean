import Mathlib.Logic.Function.Iterate
import Netherwick.Lib.SortedMap
import Netherwick.Observatory.Event

/-! # The live history

The ring of retained events, what coalescing and the capacity take out of it, and the gap records
that stand for what was taken out. -/

namespace Netherwick.Observatory

open Netherwick.Lib

structure BrainEventHubConfig where
  ingressCapacity : Nat := 1024
  historyCapacity : Nat := 16384
  broadcastCapacity : Nat := 2048
  defaultQueryLimit : Nat := 500
  maxQueryLimit : Nat := 2000
deriving DecidableEq, Repr

def BrainEventHubConfig.normalized (config : BrainEventHubConfig) : BrainEventHubConfig where
  ingressCapacity := max config.ingressCapacity 1
  historyCapacity := max config.historyCapacity 1
  broadcastCapacity := max config.broadcastCapacity 1
  defaultQueryLimit := max config.defaultQueryLimit 1
  maxQueryLimit := max config.maxQueryLimit (max config.defaultQueryLimit 1)

inductive SequenceGapReason where
  | retentionExpired
  | clientLagged
  | coalesced
deriving DecidableEq, Repr

def SequenceGapReason.asStr : SequenceGapReason → String
  | .retentionExpired => "retention_expired"
  | .clientLagged => "client_lagged"
  | .coalesced => "coalesced"

structure BrainEventSequenceGap where
  fromSequence : Nat
  toSequence : Nat
  reason : SequenceGapReason
  replacementSequence : Option Nat := none
  event : BrainEvent
deriving DecidableEq, Repr

namespace BrainEventSequenceGap

/-- `BrainEventId::from_domain("transport-gap", ..)`. -/
def gapEventId (fromSequence toSequence : Nat) : String :=
  "transport-gap:" ++ toString fromSequence ++ "-" ++ toString toSequence

def gapEvent (tMs fromSequence toSequence : Nat) (reason : SequenceGapReason) : BrainEvent where
  eventId := gapEventId fromSequence toSequence
  eventType := .transportGap
  kind := "transport.gap"
  producer := { brain := .motherbrain, component := "observatory.transport" }
  times := { occurred := { tMs }, observed := { tMs } }
  disposition := .unavailable
  payload := .inline "application/json" (.object [("from_sequence", .natural fromSequence),
    ("reason", .text reason.asStr), ("to_sequence", .natural toSequence)])

def new (tMs fromSequence toSequence : Nat) (reason : SequenceGapReason) :
    BrainEventSequenceGap where
  fromSequence
  toSequence
  reason
  event := gapEvent tMs fromSequence toSequence reason

def coalesced (tMs sequence replacementSequence : Nat) : BrainEventSequenceGap where
  fromSequence := sequence
  toSequence := sequence
  reason := .coalesced
  replacementSequence := some replacementSequence
  event :=
    { gapEvent tMs sequence sequence .coalesced with
      kind := "transport.replaced"
      disposition := .superseded
      payload := .inline "application/json" (.object [("from_sequence", .natural sequence),
        ("reason", .text SequenceGapReason.coalesced.asStr),
        ("replacement_sequence", .natural replacementSequence),
        ("to_sequence", .natural sequence)]) }

end BrainEventSequenceGap

inductive BrainEventStreamRecord where
  | event (envelope : SequencedBrainEvent)
  | gap (gap : BrainEventSequenceGap)
deriving DecidableEq, Repr

namespace BrainEventStreamRecord

/-- The event a view shows for a record: its own, or that of the gap. -/
def shown : BrainEventStreamRecord → BrainEvent
  | .event envelope => envelope.event
  | .gap missing => missing.event

def delivers (number : Nat) : BrainEventStreamRecord → Bool
  | .event envelope => envelope.sequence = number
  | .gap _ => false

def covers (number : Nat) : BrainEventStreamRecord → Bool
  | .event _ => false
  | .gap missing => missing.fromSequence ≤ number && number ≤ missing.toSequence

@[simp] theorem delivers_event (number : Nat) (envelope : SequencedBrainEvent) :
    delivers number (.event envelope) = decide (envelope.sequence = number) := rfl

@[simp] theorem delivers_gap (number : Nat) (missing : BrainEventSequenceGap) :
    delivers number (.gap missing) = false := rfl

@[simp] theorem covers_event (number : Nat) (envelope : SequencedBrainEvent) :
    covers number (.event envelope) = false := rfl

@[simp] theorem covers_gap (number : Nat) (missing : BrainEventSequenceGap) :
    covers number (.gap missing) =
      decide (missing.fromSequence ≤ number ∧ number ≤ missing.toSequence) := by
  simp [covers]

end BrainEventStreamRecord

def deliveries (number : Nat) (records : List BrainEventStreamRecord) : Nat :=
  records.countP (BrainEventStreamRecord.delivers number)

/-- How many gap records contain a sequence number. -/
def gapsAt (number : Nat) (records : List BrainEventStreamRecord) : Nat :=
  records.countP (BrainEventStreamRecord.covers number)

@[simp] theorem deliveries_nil (number : Nat) : deliveries number [] = 0 := rfl

@[simp] theorem gapsAt_nil (number : Nat) : gapsAt number [] = 0 := rfl

@[simp] theorem deliveries_cons (number : Nat) (record : BrainEventStreamRecord)
    (records : List BrainEventStreamRecord) :
    deliveries number (record :: records) =
      deliveries number records + if record.delivers number then 1 else 0 :=
  List.countP_cons ..

@[simp] theorem gapsAt_cons (number : Nat) (record : BrainEventStreamRecord)
    (records : List BrainEventStreamRecord) :
    gapsAt number (record :: records) =
      gapsAt number records + if record.covers number then 1 else 0 :=
  List.countP_cons ..

@[simp] theorem deliveries_append (number : Nat) (records more : List BrainEventStreamRecord) :
    deliveries number (records ++ more) = deliveries number records + deliveries number more :=
  List.countP_append

@[simp] theorem gapsAt_append (number : Nat) (records more : List BrainEventStreamRecord) :
    gapsAt number (records ++ more) = gapsAt number records + gapsAt number more :=
  List.countP_append

structure HistoryState where
  events : List SequencedBrainEvent
  /-- For a number that was coalesced away, the number that replaced it. -/
  replacements : SortedMap Nat Nat

def HistoryState.empty : HistoryState := ⟨[], .empty⟩

def SequencedBrainEvent.hasKey (key : String) (prior : SequencedBrainEvent) : Bool :=
  prior.event.coalescingKey = some key

/-- Takes out the retained event of the same key. -/
def HistoryState.coalesce (capacity : Nat) (history : HistoryState)
    (envelope : SequencedBrainEvent) : HistoryState :=
  match envelope.event.coalescingKey with
  | some key =>
    match history.events.find? (SequencedBrainEvent.hasKey key) with
    | some replaced =>
      { events := history.events.eraseP (SequencedBrainEvent.hasKey key)
        replacements :=
          (history.replacements.insert replaced.sequence envelope.sequence).keepLast capacity }
    | none => history
  | none => history

/-- Takes out the first coalescible event, or the first of all. -/
def expireOne (events : List SequencedBrainEvent) : List SequencedBrainEvent :=
  if events.any fun prior => prior.event.isCoalescible then
    events.eraseP fun prior => prior.event.isCoalescible
  else events.drop 1

/-- `while events.len() >= capacity`: every turn takes one event out. -/
def expire (capacity : Nat) (events : List SequencedBrainEvent) : List SequencedBrainEvent :=
  Nat.iterate expireOne (events.length + 1 - capacity) events

/-- The part of `retain_brain_event` under the history lock. -/
def HistoryState.retain (capacity : Nat) (history : HistoryState)
    (envelope : SequencedBrainEvent) : HistoryState :=
  { history.coalesce capacity envelope with
    events := expire capacity (history.coalesce capacity envelope).events ++ [envelope] }

/-- The gaps from `start` on, where `replaced` are the replaced numbers up to `toSequence`. -/
def gapsFrom (tMs toSequence : Nat) : Nat → List (Nat × Nat) → List BrainEventStreamRecord
  | start, [] =>
    if start ≤ toSequence then
      [.gap (BrainEventSequenceGap.new tMs start toSequence .retentionExpired)]
    else []
  | start, (sequence, replacementSequence) :: replaced =>
    (if start < sequence then
      [.gap (BrainEventSequenceGap.new tMs start (sequence - 1) .retentionExpired)]
    else [])
      ++ .gap (BrainEventSequenceGap.coalesced tMs sequence replacementSequence)
        :: gapsFrom tMs toSequence (sequence + 1) replaced

def historyDiscontinuities (tMs : Nat) (replacements : SortedMap Nat Nat)
    (fromSequence toSequence : Nat) : List BrainEventStreamRecord :=
  if toSequence < fromSequence then []
  else gapsFrom tMs toSequence fromSequence (replacements.within fromSequence toSequence)

theorem deliveries_gapsFrom (tMs toSequence number start : Nat) (replaced : List (Nat × Nat)) :
    deliveries number (gapsFrom tMs toSequence start replaced) = 0 := by
  induction replaced generalizing start with
  | nil =>
    simp only [gapsFrom]
    split <;> simp
  | cons first rest ih =>
    obtain ⟨sequence, replacementSequence⟩ := first
    by_cases h : start < sequence <;> simp [gapsFrom, h, ih]

theorem gapsAt_gapsFrom {tMs toSequence number start : Nat} {replaced : List (Nat × Nat)}
    (hascending : Ascending replaced)
    (hrange : ∀ entry ∈ replaced, start ≤ entry.1 ∧ entry.1 ≤ toSequence) :
    gapsAt number (gapsFrom tMs toSequence start replaced) =
      if start ≤ number ∧ number ≤ toSequence then 1 else 0 := by
  induction replaced generalizing start with
  | nil =>
    simp only [gapsFrom]
    by_cases h : start ≤ toSequence
    · simp [h, BrainEventSequenceGap.new]
    · have : ¬ (start ≤ number ∧ number ≤ toSequence) := by omega
      simp [h, this]
  | cons first rest ih =>
    obtain ⟨sequence, replacementSequence⟩ := first
    have hfirst := hrange (sequence, replacementSequence) (by simp)
    have hlater : ∀ entry ∈ rest, sequence < entry.1 := (List.pairwise_cons.mp hascending).1
    have hrest := @ih (sequence + 1) hascending.of_cons fun entry hentry =>
      ⟨hlater entry hentry, (hrange entry (by simp [hentry])).2⟩
    simp only at hfirst
    by_cases h : start < sequence
    · simp [gapsFrom, h, hrest, BrainEventSequenceGap.new, BrainEventSequenceGap.coalesced]
      grind
    · simp [gapsFrom, h, hrest, BrainEventSequenceGap.coalesced]
      grind

theorem deliveries_historyDiscontinuities (tMs number fromSequence toSequence : Nat)
    (replacements : SortedMap Nat Nat) :
    deliveries number (historyDiscontinuities tMs replacements fromSequence toSequence) = 0 := by
  rw [historyDiscontinuities]
  split
  · rfl
  · exact deliveries_gapsFrom ..

theorem gapsAt_historyDiscontinuities (tMs number fromSequence toSequence : Nat)
    (replacements : SortedMap Nat Nat) :
    gapsAt number (historyDiscontinuities tMs replacements fromSequence toSequence) =
      if fromSequence ≤ number ∧ number ≤ toSequence then 1 else 0 := by
  rw [historyDiscontinuities]
  split
  · rename_i h
    have : ¬ (fromSequence ≤ number ∧ number ≤ toSequence) := by omega
    simp [this]
  · exact gapsAt_gapsFrom SortedMap.ascending_within
      fun entry hentry => (SortedMap.mem_within.mp hentry).2

/-- The sequence numbers of a ring increase. -/
def InOrder (events : List SequencedBrainEvent) : Prop :=
  events.Pairwise fun a b => a.sequence < b.sequence

theorem sublist_coalesce (capacity : Nat) (history : HistoryState)
    (envelope : SequencedBrainEvent) :
    (history.coalesce capacity envelope).events.Sublist history.events := by
  simp only [HistoryState.coalesce]
  split
  · split
    · exact List.eraseP_sublist
    · exact List.Sublist.refl _
  · exact List.Sublist.refl _

theorem sublist_expireOne (events : List SequencedBrainEvent) :
    (expireOne events).Sublist events := by
  simp only [expireOne]
  split
  · exact List.eraseP_sublist
  · exact List.drop_sublist ..

theorem length_expireOne (events : List SequencedBrainEvent) :
    (expireOne events).length = events.length - 1 := by
  simp only [expireOne]
  split
  · rename_i h
    rw [List.any_eq_true] at h
    obtain ⟨prior, hmem, hcoalescible⟩ := h
    exact List.length_eraseP_of_mem hmem hcoalescible
  · exact List.length_drop

theorem sublist_iterate_expireOne (turns : Nat) (events : List SequencedBrainEvent) :
    (Nat.iterate expireOne turns events).Sublist events := by
  induction turns generalizing events with
  | zero => exact List.Sublist.refl _
  | succ turns ih => exact (ih (expireOne events)).trans (sublist_expireOne events)

theorem length_iterate_expireOne (turns : Nat) (events : List SequencedBrainEvent) :
    (Nat.iterate expireOne turns events).length = events.length - turns := by
  induction turns generalizing events with
  | zero => rfl
  | succ turns ih =>
    rw [Function.iterate_succ_apply, ih, length_expireOne]
    omega

theorem sublist_expire (capacity : Nat) (events : List SequencedBrainEvent) :
    (expire capacity events).Sublist events := sublist_iterate_expireOne ..

theorem length_expire {capacity : Nat} (hcapacity : 0 < capacity)
    (events : List SequencedBrainEvent) : (expire capacity events).length < capacity := by
  rw [expire, length_iterate_expireOne]
  omega

theorem sublist_retained (capacity : Nat) (history : HistoryState)
    (envelope : SequencedBrainEvent) :
    (expire capacity (history.coalesce capacity envelope).events).Sublist history.events :=
  (sublist_expire ..).trans (sublist_coalesce ..)

theorem length_retain {capacity : Nat} (hcapacity : 0 < capacity) (history : HistoryState)
    (envelope : SequencedBrainEvent) :
    (history.retain capacity envelope).events.length ≤ capacity := by
  have h := length_expire hcapacity (history.coalesce capacity envelope).events
  simp only [HistoryState.retain, List.length_append, List.length_singleton]
  omega

theorem mem_retain_self (capacity : Nat) (history : HistoryState)
    (envelope : SequencedBrainEvent) : envelope ∈ (history.retain capacity envelope).events := by
  simp [HistoryState.retain]

theorem mem_of_mem_retain {capacity : Nat} {history : HistoryState}
    {envelope prior : SequencedBrainEvent}
    (h : prior ∈ (history.retain capacity envelope).events) :
    prior ∈ history.events ∨ prior = envelope := by
  simp only [HistoryState.retain, List.mem_append, List.mem_singleton] at h
  rcases h with h | h
  · exact .inl ((sublist_retained ..).mem h)
  · exact .inr h

theorem InOrder.retain {capacity : Nat} {history : HistoryState} {envelope : SequencedBrainEvent}
    (horder : InOrder history.events)
    (hnew : ∀ prior ∈ history.events, prior.sequence < envelope.sequence) :
    InOrder (history.retain capacity envelope).events := by
  have hsub := sublist_retained capacity history envelope
  simp only [InOrder, HistoryState.retain, List.pairwise_append, List.mem_singleton]
  refine ⟨horder.sublist hsub, List.pairwise_singleton .., ?_⟩
  rintro prior hprior _ rfl
  exact hnew prior (hsub.mem hprior)

end Netherwick.Observatory
