import Netherwick.Observatory.History

/-! # History queries

A query copies the live ring under its lock and then works through the copy and the durable index
together, the index a page at a time, while the hub goes on. One turn of its loop is one step here:
it fetches a page, or it looks at the next event. -/

namespace Netherwick.Observatory

open Netherwick.Lib

/-- Where a durable record lies: in the active file (0) or in the rotated file `.n`. -/
structure DurableBrainEventIndexEntry where
  sequence : Nat
  segment : Nat
  offset : Nat
  length : Nat
deriving DecidableEq, Repr

abbrev DurableIndex := SortedMap Nat DurableBrainEventIndexEntry

def indexPageAfter (index : DurableIndex) (afterSequence limit : Nat) :
    List DurableBrainEventIndexEntry :=
  ((index.above afterSequence).map Prod.snd).take (max limit 1)

/-- The last check of `read_indexed_event`, on what the bytes at the entry's place decode to. -/
def readIndexedEvent (decoded : Except String SequencedBrainEvent)
    (entry : DurableBrainEventIndexEntry) : Except String SequencedBrainEvent :=
  match decoded with
  | .ok envelope =>
    if envelope.sequence = entry.sequence then .ok envelope
    else .error "durable indexed record failed validation"
  | .error message => .error message

theorem sequence_of_readIndexedEvent {decoded : Except String SequencedBrainEvent}
    {entry : DurableBrainEventIndexEntry} {envelope : SequencedBrainEvent}
    (h : readIndexedEvent decoded entry = .ok envelope) : envelope.sequence = entry.sequence := by
  cases decoded with
  | error message => simp [readIndexedEvent] at h
  | ok found =>
    simp only [readIndexedEvent] at h
    split at h
    · cases h
      assumption
    · cases h

structure BrainEventHistoryResponse where
  records : List BrainEventStreamRecord
  nextCursor : Nat
  /-- `health.newest_sequence`, read when the loop is over. -/
  newestSequence : Option Nat
deriving DecidableEq, Repr

/-- The locals of `query`. -/
structure QueryCall where
  query : BrainEventQuery
  limit : Nat
  replacements : SortedMap Nat Nat
  live : List SequencedBrainEvent
  durableEntries : List DurableBrainEventIndexEntry
  durableCursor : Nat
  durableExhausted : Bool
  records : List BrainEventStreamRecord
  expected : Nat
  nextCursor : Nat
  matched : Nat

inductive QueryTurn where
  | going (call : QueryCall)
  | finished (call : QueryCall)
  | failed (message : String)

def QueryTurn.call? : QueryTurn → Option QueryCall
  | .going call => some call
  | .finished call => some call
  | .failed _ => none

namespace QueryCall

def «open» (config : BrainEventHubConfig) (hasDurable : Bool) (history : HistoryState)
    (query : BrainEventQuery) : QueryCall where
  query
  limit := query.limit.getD config.defaultQueryLimit
  replacements := history.replacements
  live := history.events.filter fun event => query.afterSequence.getD 0 < event.sequence
  durableEntries := []
  durableCursor := query.afterSequence.getD 0
  durableExhausted := !hasDurable
  records := []
  expected := query.afterSequence.getD 0 + 1
  nextCursor := query.afterSequence.getD 0
  matched := 0

def needsPage (call : QueryCall) : Bool := call.durableEntries.isEmpty && !call.durableExhausted

def takePage (index : DurableIndex) (call : QueryCall) : QueryCall :=
  { call with
    durableEntries := call.durableEntries ++ indexPageAfter index call.durableCursor 256
    durableExhausted := (indexPageAfter index call.durableCursor 256).isEmpty
    durableCursor := ((indexPageAfter index call.durableCursor 256).getLast?.map
      DurableBrainEventIndexEntry.sequence).getD call.durableCursor }

/-- The next event of the merge, and what is left behind it. -/
def next (read : DurableBrainEventIndexEntry → Except String SequencedBrainEvent)
    (call : QueryCall) : Except String (Option (SequencedBrainEvent × QueryCall)) :=
  match call.live, call.durableEntries with
  | envelope :: live, entry :: entries =>
    if envelope.sequence ≤ entry.sequence then
      .ok (some (envelope, { call with
        live
        durableEntries :=
          if envelope.sequence = entry.sequence then entries else entry :: entries }))
    else
      match read entry with
      | .ok found => .ok (some (found, { call with durableEntries := entries }))
      | .error message => .error message
  | [], entry :: entries =>
    match read entry with
    | .ok found => .ok (some (found, { call with durableEntries := entries }))
    | .error message => .error message
  | envelope :: live, [] => .ok (some (envelope, { call with live }))
  | [], [] => .ok none

/-- Accounts for the numbers up to the event, and keeps it if it matches. -/
def look (tMs : Nat) (call : QueryCall) (envelope : SequencedBrainEvent) : QueryCall :=
  { call with
    records := call.records
      ++ (if call.expected < envelope.sequence then
        historyDiscontinuities tMs call.replacements call.expected (envelope.sequence - 1) else [])
      ++ (if call.query.matchesEvent envelope.event then [.event envelope] else [])
    expected := envelope.sequence + 1
    nextCursor := envelope.sequence
    matched := call.matched + if call.query.matchesEvent envelope.event then 1 else 0 }

def advance (tMs : Nat) (read : DurableBrainEventIndexEntry → Except String SequencedBrainEvent)
    (call : QueryCall) : QueryTurn :=
  match call.next read with
  | .error message => .failed ("durable indexed event unavailable: " ++ message)
  | .ok none => if call.durableExhausted then .finished call else .going call
  | .ok (some (envelope, rest)) =>
    if call.query.matchesEvent envelope.event ∧ call.limit ≤ call.matched + 1 then
      .finished (rest.look tMs envelope)
    else .going (rest.look tMs envelope)

def turn (tMs : Nat) (index : DurableIndex)
    (read : DurableBrainEventIndexEntry → Except String SequencedBrainEvent) (call : QueryCall) :
    QueryTurn :=
  if call.needsPage then .going (call.takePage index) else call.advance tMs read

def response (history : HistoryState) (call : QueryCall) : BrainEventHistoryResponse where
  records := call.records
  nextCursor := call.nextCursor
  newestSequence := history.events.getLast?.map SequencedBrainEvent.sequence

end QueryCall

/-- How `next` takes an event: from the copy, or from the index. -/
inductive Takes (read : DurableBrainEventIndexEntry → Except String SequencedBrainEvent)
    (call : QueryCall) (envelope : SequencedBrainEvent) : QueryCall → Prop where
  | live {live : List SequencedBrainEvent} (hlive : call.live = envelope :: live)
      (hfirst : ∀ entry ∈ call.durableEntries.head?, envelope.sequence < entry.sequence) :
      Takes read call envelope { call with live }
  | both {live : List SequencedBrainEvent} {entry : DurableBrainEventIndexEntry}
      {entries : List DurableBrainEventIndexEntry} (hlive : call.live = envelope :: live)
      (hentries : call.durableEntries = entry :: entries)
      (hsame : envelope.sequence = entry.sequence) :
      Takes read call envelope { call with live, durableEntries := entries }
  | durable {entry : DurableBrainEventIndexEntry} {entries : List DurableBrainEventIndexEntry}
      (hentries : call.durableEntries = entry :: entries)
      (hfirst : ∀ first ∈ call.live.head?, entry.sequence < first.sequence)
      (hread : read entry = .ok envelope) :
      Takes read call envelope { call with durableEntries := entries }

inductive QueryCall.Turns (tMs : Nat) (index : DurableIndex)
    (read : DurableBrainEventIndexEntry → Except String SequencedBrainEvent) (call : QueryCall) :
    QueryTurn → Prop where
  | page (hneeds : call.needsPage = true) : Turns tMs index read call (.going (call.takePage index))
  | failed {entry : DurableBrainEventIndexEntry} (hentry : entry ∈ call.durableEntries)
      {reason : String} (hread : read entry = .error reason) (message : String) :
      Turns tMs index read call (.failed message)
  | ended (hlive : call.live = []) (hentries : call.durableEntries = [])
      (hexhausted : call.durableExhausted = true) : Turns tMs index read call (.finished call)
  | going (hneeds : call.needsPage = false) {envelope : SequencedBrainEvent} {rest : QueryCall}
      (htakes : Takes read call envelope rest)
      (hmore : call.query.matchesEvent envelope.event = true → call.matched + 1 < call.limit) :
      Turns tMs index read call (.going (rest.look tMs envelope))
  | full (hneeds : call.needsPage = false) {envelope : SequencedBrainEvent} {rest : QueryCall}
      (htakes : Takes read call envelope rest)
      (hmatches : call.query.matchesEvent envelope.event = true)
      (hfull : call.limit ≤ call.matched + 1) :
      Turns tMs index read call (.finished (rest.look tMs envelope))

variable {tMs : Nat} {index : DurableIndex}
variable {read : DurableBrainEventIndexEntry → Except String SequencedBrainEvent}
variable {call rest : QueryCall} {envelope : SequencedBrainEvent}

theorem takes_of_next (h : call.next read = .ok (some (envelope, rest))) :
    Takes read call envelope rest := by
  cases hlive : call.live with
  | nil =>
    cases hentries : call.durableEntries with
    | nil => simp [QueryCall.next, hlive, hentries] at h
    | cons entry entries =>
      cases hread : read entry with
      | error message => simp [QueryCall.next, hlive, hentries, hread] at h
      | ok found =>
        simp only [QueryCall.next, hlive, hentries, hread, Except.ok.injEq, Option.some.injEq,
          Prod.mk.injEq] at h
        obtain ⟨rfl, rfl⟩ := h
        have htakes : Takes read call _ _ := .durable hentries (by simp [hlive]) hread
        simpa [hlive] using htakes
  | cons first live =>
    cases hentries : call.durableEntries with
    | nil =>
      simp only [QueryCall.next, hlive, hentries, Except.ok.injEq, Option.some.injEq,
        Prod.mk.injEq] at h
      obtain ⟨rfl, rfl⟩ := h
      have htakes : Takes read call _ _ := .live hlive (by simp [hentries])
      simpa [hentries] using htakes
    | cons entry entries =>
      simp only [QueryCall.next, hlive, hentries] at h
      by_cases hle : first.sequence ≤ entry.sequence
      · simp only [hle, if_true, Except.ok.injEq, Option.some.injEq, Prod.mk.injEq] at h
        obtain ⟨rfl, rfl⟩ := h
        by_cases hsame : first.sequence = entry.sequence
        · have htakes : Takes read call _ _ := .both hlive hentries hsame
          simpa [hsame] using htakes
        · have htakes : Takes read call _ _ := .live hlive (by
            simpa [hentries] using lt_of_le_of_ne hle hsame)
          simpa [hsame, hentries] using htakes
      · cases hread : read entry with
        | error message => simp [hle, hread] at h
        | ok found =>
          simp only [hle, if_false, hread, Except.ok.injEq, Option.some.injEq,
            Prod.mk.injEq] at h
          obtain ⟨rfl, rfl⟩ := h
          have htakes : Takes read call _ _ := .durable hentries (by
            simpa [hlive] using Nat.lt_of_not_le hle) hread
          simpa [hlive] using htakes

theorem next_eq_none (h : call.next read = .ok none) :
    call.live = [] ∧ call.durableEntries = [] := by
  cases hlive : call.live with
  | nil =>
    cases hentries : call.durableEntries with
    | nil => simp
    | cons entry entries =>
      cases hread : read entry <;> simp [QueryCall.next, hlive, hentries, hread] at h
  | cons first live =>
    cases hentries : call.durableEntries with
    | nil => simp [QueryCall.next, hlive, hentries] at h
    | cons entry entries =>
      by_cases hle : first.sequence ≤ entry.sequence
      · simp [QueryCall.next, hlive, hentries, hle] at h
      · cases hread : read entry <;> simp [QueryCall.next, hlive, hentries, hle, hread] at h

theorem next_eq_error {message : String} (h : call.next read = .error message) :
    ∃ entry ∈ call.durableEntries, read entry = .error message := by
  cases hentries : call.durableEntries with
  | nil =>
    cases hlive : call.live <;> simp [QueryCall.next, hlive, hentries] at h
  | cons entry entries =>
    refine ⟨entry, by simp, ?_⟩
    cases hread : read entry with
    | error reason =>
      cases hlive : call.live with
      | nil => simpa [QueryCall.next, hlive, hentries, hread] using h
      | cons first live =>
        by_cases hle : first.sequence ≤ entry.sequence
        · simp [QueryCall.next, hlive, hentries, hle] at h
        · simpa [QueryCall.next, hlive, hentries, hle, hread] using h
    | ok found =>
      cases hlive : call.live with
      | nil => simp [QueryCall.next, hlive, hentries, hread] at h
      | cons first live =>
        by_cases hle : first.sequence ≤ entry.sequence <;>
          simp [QueryCall.next, hlive, hentries, hle, hread] at h

theorem QueryCall.turns (tMs : Nat) (index : DurableIndex)
    (read : DurableBrainEventIndexEntry → Except String SequencedBrainEvent) (call : QueryCall) :
    call.Turns tMs index read (call.turn tMs index read) := by
  rw [QueryCall.turn]
  by_cases hneeds : call.needsPage = true
  · rw [if_pos hneeds]
    exact .page hneeds
  · rw [if_neg hneeds]
    have hno : call.needsPage = false := by simpa using hneeds
    simp only [QueryCall.advance]
    cases hnext : call.next read with
    | error message =>
      obtain ⟨entry, hentry, hread⟩ := next_eq_error hnext
      exact .failed hentry hread _
    | ok taken =>
      cases taken with
      | none =>
        obtain ⟨hlive, hentries⟩ := next_eq_none hnext
        have hexhausted : call.durableExhausted = true := by
          simpa [QueryCall.needsPage, hentries] using hno
        simp only [hexhausted, if_true]
        exact .ended hlive hentries hexhausted
      | some taken =>
        obtain ⟨envelope, rest⟩ := taken
        have htakes := takes_of_next hnext
        simp only
        split
        · rename_i hfull
          exact .full hno htakes hfull.1 hfull.2
        · rename_i hmore
          exact .going hno htakes fun hmatches => Nat.lt_of_not_le fun hle => hmore ⟨hmatches, hle⟩

end Netherwick.Observatory
