import Netherwick.Observatory.Stream

/-! # What a stream accounts for

The history page and the messages of the channel overlap, and both move one cursor. The stream
accounts for every number as long as the channel skips only past the cursor, and the numbers it
passes in silence are those of filtered events. -/

namespace Netherwick.Observatory

open Netherwick.Lib

theorem keyed_insertAll {index : DurableIndex} (h : Keyed index)
    (entries : List DurableBrainEventIndexEntry) :
    Keyed (index.insertAll (entries.map fun entry => (entry.sequence, entry))) := by
  induction entries generalizing index with
  | nil => exact h
  | cons first rest ih => exact ih h.insert

theorem keyed_indexOf (entries : List DurableBrainEventIndexEntry) : Keyed (indexOf entries) :=
  keyed_insertAll keyed_empty entries

theorem faithful_found (found : Except String SequencedBrainEvent) :
    Faithful (readIndexedEvent found) := fun _ _ h => sequence_of_readIndexedEvent h

theorem found_of_readIndexedEvent {found : Except String SequencedBrainEvent}
    {entry : DurableBrainEventIndexEntry} {envelope : SequencedBrainEvent}
    (h : readIndexedEvent found entry = .ok envelope) : found = .ok envelope := by
  cases found with
  | error message => simp [readIndexedEvent] at h
  | ok other =>
    simp only [readIndexedEvent] at h
    split at h
    · exact h
    · cases h

structure StreamHub.Sound (hub : StreamHub) : Prop where
  order : InOrder hub.history.events
  below : ∀ envelope ∈ hub.history.events, envelope.sequence ≤ hub.retainedTo
  logged : ∀ envelope ∈ hub.history.events, envelope ∈ hub.log
  staged : ∀ envelope, hub.stage = .numbered envelope ∨ hub.stage = .pushed envelope →
    envelope.sequence = hub.nextSequence ∧ 0 < hub.nextSequence ∧ envelope ∈ hub.log

/-- The channel holds the messages up to the last one sent, without a hole. -/
structure StreamHub.Holds (hub : StreamHub) (pending : List SequencedBrainEvent) : Prop where
  length_le : pending.length ≤ hub.sent
  numbers : ∀ (position : Nat) (envelope : SequencedBrainEvent),
    pending[position]? = some envelope →
      envelope.sequence + pending.length = hub.sent + 1 + position
  logged : ∀ envelope ∈ pending, envelope ∈ hub.log

variable {hub : StreamHub} {pending : List SequencedBrainEvent} {envelope : SequencedBrainEvent}

theorem StreamHub.Holds.nil : hub.Holds [] where
  length_le := Nat.zero_le _
  numbers := by simp
  logged := by simp

theorem StreamHub.Holds.drop (h : hub.Holds pending) {skipped : Nat}
    (hskipped : skipped ≤ pending.length) : hub.Holds (pending.drop skipped) where
  length_le := (List.length_drop.le.trans (Nat.sub_le ..)).trans h.length_le
  numbers position envelope hposition := by
    have hnumber := h.numbers (skipped + position) envelope (by simpa using hposition)
    rw [List.length_drop]
    omega
  logged envelope hmem := h.logged envelope (List.mem_of_mem_drop hmem)

theorem StreamHub.Holds.head (h : hub.Holds (envelope :: pending)) :
    envelope.sequence = hub.sent + 1 - (envelope :: pending).length := by
  have := h.numbers 0 envelope rfl
  omega

/-- The records account for the numbers from the start to the last sequence, each looked at once
or in one gap. -/
structure Tallies (query : BrainEventQuery) (log : List SequencedBrainEvent) (lastSequence : Nat)
    (records : List BrainEventStreamRecord) (processed : List SequencedBrainEvent) : Prop where
  start_le : query.afterSequence.getD 0 ≤ lastSequence
  logged : ∀ envelope ∈ processed, envelope ∈ log
  delivered : ∀ number, deliveries number records =
    processed.countP fun envelope =>
      envelope.sequence = number && query.matchesEvent envelope.event
  once : ∀ number,
    gapsAt number records + processed.countP (fun envelope => envelope.sequence = number) =
      if query.afterSequence.getD 0 < number ∧ number ≤ lastSequence then 1 else 0

section Tallies

variable {query : BrainEventQuery} {log : List SequencedBrainEvent} {lastSequence : Nat}
variable {records : List BrainEventStreamRecord} {processed : List SequencedBrainEvent}

theorem Tallies.within (h : Tallies query log lastSequence records processed) {number : Nat}
    (hstart : query.afterSequence.getD 0 < number) (hlast : number ≤ lastSequence) :
    (deliveries number records = 1 ∧ gapsAt number records = 0 ∧
        ∃ envelope ∈ log, envelope.sequence = number ∧
          query.matchesEvent envelope.event = true) ∨
      (deliveries number records = 0 ∧ gapsAt number records = 0 ∧
        ∃ envelope ∈ log, envelope.sequence = number ∧
          query.matchesEvent envelope.event = false) ∨
      (deliveries number records = 0 ∧ gapsAt number records = 1) := by
  have honce := h.once number
  rw [if_pos ⟨hstart, hlast⟩] at honce
  have hlog : ∀ matching, (∃ envelope ∈ processed, envelope.sequence = number ∧
      query.matchesEvent envelope.event = matching) →
      ∃ envelope ∈ log, envelope.sequence = number ∧
        query.matchesEvent envelope.event = matching :=
    fun matching ⟨envelope, hmem, hboth⟩ => ⟨envelope, h.logged envelope hmem, hboth⟩
  exact (accounted_once (h.delivered number) honce).imp
    (And.imp_right (And.imp_right (hlog true)))
    (Or.imp_left (And.imp_right (And.imp_right (hlog false))))

theorem Tallies.outside (h : Tallies query log lastSequence records processed) {number : Nat}
    (hout : number ≤ query.afterSequence.getD 0 ∨ lastSequence < number) :
    deliveries number records = 0 ∧ gapsAt number records = 0 := by
  have honce := h.once number
  have hsplit := @countP_split query processed number
  rw [if_neg (by omega), hsplit, ← h.delivered number] at honce
  omega

theorem Tallies.logs (h : Tallies query log lastSequence records processed)
    {more : List SequencedBrainEvent} : Tallies query (log ++ more) lastSequence records processed :=
  { h with logged := fun envelope hmem => List.mem_append_left more (h.logged envelope hmem) }

theorem Tallies.receive (h : Tallies query log lastSequence records processed) {tMs : Nat}
    {envelope : SequencedBrainEvent} (hlogged : envelope ∈ log)
    (hfiltered : query.matchesEvent envelope.event = false →
      envelope.sequence ≤ lastSequence + 1) :
    ∃ after, Tallies query log (receiveEvent tMs query lastSequence records envelope).1
      (receiveEvent tMs query lastSequence records envelope).2 after := by
  by_cases hold : envelope.sequence ≤ lastSequence
  · refine ⟨processed, ?_⟩
    simpa [receiveEvent, hold] using h
  · have hstart := h.start_le
    have hlogs : ∀ other ∈ processed ++ [envelope], other ∈ log := by
      intro other hother
      rcases List.mem_append.mp hother with hmem | hmem
      · exact h.logged other hmem
      · rw [List.mem_singleton.mp hmem]
        exact hlogged
    refine ⟨processed ++ [envelope], ?_⟩
    cases hmatches : query.matchesEvent envelope.event with
    | false =>
      have hnext := hfiltered hmatches
      have hmax : max lastSequence envelope.sequence = envelope.sequence := by omega
      simp only [receiveEvent, hmatches, or_true, if_true, hmax]
      refine ⟨by omega, hlogs, fun number => ?_, fun number => ?_⟩
      · simp [h.delivered number, hmatches]
      · have honce := h.once number
        simp only [List.countP_append, List.countP_cons, List.countP_nil, decide_eq_true_eq]
        grind
    | true =>
      simp only [receiveEvent, hold, hmatches, Bool.true_eq_false, or_self, if_false]
      refine ⟨by omega, hlogs, fun number => ?_, fun number => ?_⟩
      · have hgap : deliveries number (if lastSequence + 1 < envelope.sequence then
            [.gap (.new tMs (lastSequence + 1) (envelope.sequence - 1) .clientLagged)] else []) = 0 := by
          split <;> simp
        simp [h.delivered number, hmatches, hgap]
      · have honce := h.once number
        have hgap : gapsAt number (if lastSequence + 1 < envelope.sequence then
            [.gap (.new tMs (lastSequence + 1) (envelope.sequence - 1) .clientLagged)] else []) =
              if lastSequence + 1 ≤ number ∧ number ≤ envelope.sequence - 1 then 1 else 0 := by
          split
          · simp [BrainEventSequenceGap.new]
          · have : ¬ (lastSequence + 1 ≤ number ∧ number ≤ envelope.sequence - 1) := by omega
            rw [if_neg this, gapsAt_nil]
        simp only [gapsAt_append, hgap, gapsAt_cons, gapsAt_nil,
          BrainEventStreamRecord.covers_event, List.countP_append, List.countP_cons,
          List.countP_nil, decide_eq_true_eq, Bool.false_eq_true, if_false]
        grind

theorem Tallies.gap (h : Tallies query log lastSequence records processed) (tMs skipped : Nat) :
    Tallies query log (lastSequence + skipped)
      (records ++ [.gap (.new tMs (lastSequence + 1) (lastSequence + skipped) .clientLagged)])
      processed where
  start_le := h.start_le.trans (Nat.le_add_right ..)
  logged := h.logged
  delivered number := by simp [h.delivered number]
  once number := by
    have honce := h.once number
    have hstart := h.start_le
    simp only [gapsAt_append, gapsAt_cons, gapsAt_nil, BrainEventStreamRecord.covers_gap,
      BrainEventSequenceGap.new, decide_eq_true_eq]
    grind

theorem gapsAt_receive {tMs number : Nat} {envelope : SequencedBrainEvent}
    (hnumber : envelope.sequence ≤ number) (hnone : gapsAt number records = 0) :
    gapsAt number (receiveEvent tMs query lastSequence records envelope).2 = 0 := by
  simp only [receiveEvent]
  split
  · exact hnone
  · have : ¬ number ≤ envelope.sequence - 1 ∨ ¬ lastSequence + 1 < envelope.sequence := by omega
    split <;> simp [hnone, BrainEventSequenceGap.new]
    omega

end Tallies

theorem foldl_records_le {next : Nat → BrainEventStreamRecord → Nat} {bound : Nat}
    (hevent : ∀ last envelope, next last (.event envelope) = max last envelope.sequence)
    (hgap : ∀ last missing, next last (.gap missing) = last)
    (records : List BrainEventStreamRecord) {last : Nat} (hlast : last ≤ bound)
    (hnone : ∀ number, bound < number → deliveries number records = 0) :
    records.foldl next last ≤ bound := by
  induction records generalizing last with
  | nil => exact hlast
  | cons record rest ih =>
    have hrest : ∀ number, bound < number → deliveries number rest = 0 := by
      intro number hnumber
      have := hnone number hnumber
      rw [deliveries_cons] at this
      omega
    cases record with
    | gap missing =>
      rw [List.foldl_cons, hgap]
      exact ih hlast hrest
    | event envelope =>
      rw [List.foldl_cons, hevent]
      refine ih (max_le hlast ?_) hrest
      by_contra hlt
      have hpast : bound < envelope.sequence := by omega
      simpa using hnone envelope.sequence hpast

theorem lastOfPage_eq {start : Nat} {call : QueryCall} {examined : List SequencedBrainEvent}
    (h : call.Accounts start examined) : lastOfPage start call = call.nextCursor := by
  rw [lastOfPage, Nat.max_eq_right]
  refine foldl_records_le (fun _ _ => rfl) (fun _ _ => rfl) _ h.start_le fun number hnumber => ?_
  rw [h.delivered number, List.countP_eq_zero]
  intro envelope hmem hboth
  simp only [Bool.and_eq_true, decide_eq_true_eq] at hboth
  have := (h.range hmem).2
  omega

namespace StreamState

/-- The subscriber's side of the invariant. -/
def ClientSound (state : StreamState) : Prop :=
  match state.client with
  | .querying _ call =>
    call.query = state.query ∧ call.Ready ∧ (∀ envelope ∈ call.live, envelope ∈ state.hub.log) ∧
      ∃ examined, (∀ envelope ∈ examined, envelope ∈ state.hub.log) ∧
        call.Accounts (state.query.afterSequence.getD 0) examined
  | .streaming _ lastSequence records =>
    (∃ processed, Tallies state.query state.hub.log lastSequence records processed) ∧
      ∀ number, state.nextMessage ≤ number → gapsAt number records = 0
  | _ => True

structure Invariant (state : StreamState) : Prop where
  hub : state.hub.Sound
  channel : state.hub.Holds state.client.pending
  client : state.ClientSound

theorem Fresh.invariant {state : StreamState} (h : state.Fresh) : state.Invariant where
  hub := {
    order := h.order
    below := by simpa [StreamHub.retainedTo, h.idle] using h.below
    logged := h.logged
    staged := by simp [h.idle] }
  channel := by
    rw [h.connecting]
    exact .nil
  client := by simp [ClientSound, h.connecting]

theorem ClientSound.grow {state : StreamState} {hub : StreamHub} (h : state.ClientSound)
    (hsent : hub.sent = state.hub.sent) {more : List SequencedBrainEvent}
    (hlog : hub.log = state.hub.log ++ more) : ({ state with hub } : StreamState).ClientSound := by
  cases hclient : state.client with
  | querying pending call =>
    simp only [ClientSound, hclient, hlog] at h ⊢
    obtain ⟨hquery, hready, hlive, examined, hexamined, haccounts⟩ := h
    exact ⟨hquery, hready, fun envelope hmem => List.mem_append_left more (hlive envelope hmem),
      examined, fun envelope hmem => List.mem_append_left more (hexamined envelope hmem), haccounts⟩
  | streaming pending lastSequence records =>
    simp only [ClientSound, hclient, hlog, nextMessage, hsent] at h ⊢
    obtain ⟨⟨processed, htallies⟩, hunreceived⟩ := h
    exact ⟨⟨processed, htallies.logs⟩, hunreceived⟩
  | _ => simp only [ClientSound]

theorem Invariant.number {state : StreamState} (h : state.Invariant) (event : BrainEvent) :
    (state.step (.number event)).Invariant := by
  cases hstage : state.hub.stage with
  | idle =>
    have hsent : state.hub.sent = state.hub.nextSequence := by simp [StreamHub.sent, hstage]
    have hbelow := h.hub.below
    simp only [StreamHub.retainedTo, hstage] at hbelow
    simp only [StreamState.step, hstage]
    refine ⟨⟨h.hub.order, ?_, ?_, ?_⟩, ⟨?_, ?_, ?_⟩,
      h.client.grow (by simp [StreamHub.sent, hstage]) rfl⟩
    · simpa [StreamHub.retainedTo] using hbelow
    · exact fun envelope hmem => List.mem_append_left _ (h.hub.logged envelope hmem)
    · rintro envelope (heq | heq) <;> cases heq
      simp
    · exact hsent ▸ h.channel.length_le
    · exact hsent ▸ h.channel.numbers
    · exact fun envelope hmem => List.mem_append_left _ (h.channel.logged envelope hmem)
  | numbered envelope => simpa only [StreamState.step, hstage] using h
  | pushed envelope => simpa only [StreamState.step, hstage] using h

theorem Invariant.push {state : StreamState} (h : state.Invariant) :
    (state.step .push).Invariant := by
  cases hstage : state.hub.stage with
  | idle => simpa only [StreamState.step, hstage] using h
  | numbered envelope =>
    obtain ⟨hsequence, hpos, hlogged⟩ := h.hub.staged envelope (.inl hstage)
    have hbelow := h.hub.below
    simp only [StreamHub.retainedTo, hstage] at hbelow
    have hnew : ∀ prior ∈ state.hub.history.events, prior.sequence < envelope.sequence := by
      intro prior hprior
      have := hbelow prior hprior
      omega
    simp only [StreamState.step, hstage]
    refine ⟨⟨h.hub.order.retain hnew, ?_, ?_, ?_⟩, ⟨?_, ?_, h.channel.logged⟩,
      @ClientSound.grow _ _ h.client (by simp [StreamHub.sent, hstage]) [] (by simp)⟩
    · intro prior hprior
      rcases mem_of_mem_retain hprior with hmem | rfl
      · exact (hnew prior hmem).le.trans hsequence.le
      · exact hsequence.le
    · intro prior hprior
      rcases mem_of_mem_retain hprior with hmem | rfl
      · exact h.hub.logged prior hmem
      · exact hlogged
    · rintro other (heq | heq) <;> cases heq
      exact ⟨hsequence, hpos, hlogged⟩
    · simpa [StreamHub.sent, hstage] using h.channel.length_le
    · simpa [StreamHub.sent, hstage] using h.channel.numbers
  | pushed envelope => simpa only [StreamState.step, hstage] using h

end StreamState

theorem StreamHub.Holds.push {after : StreamHub} (h : hub.Holds pending)
    (hsent : after.sent = hub.sent + 1) (hsequence : envelope.sequence = hub.sent + 1)
    (hlog : after.log = hub.log) (hlogged : envelope ∈ hub.log) :
    after.Holds (pending ++ [envelope]) where
  length_le := by
    have := h.length_le
    simp only [List.length_append, List.length_singleton]
    omega
  numbers position other hposition := by
    simp only [List.length_append, List.length_singleton]
    rw [List.getElem?_append] at hposition
    split at hposition
    · have := h.numbers position other hposition
      omega
    · rw [List.getElem?_singleton] at hposition
      split at hposition
      · cases hposition
        have := h.length_le
        omega
      · cases hposition
  logged other hmem := by
    rw [hlog]
    rcases List.mem_append.mp hmem with hmem | hmem
    · exact h.logged other hmem
    · rw [List.mem_singleton.mp hmem]
      exact hlogged

namespace StreamState

theorem Invariant.broadcast {state : StreamState} (h : state.Invariant) :
    (state.step .broadcast).Invariant := by
  cases hstage : state.hub.stage with
  | idle => simpa only [StreamState.step, hstage] using h
  | numbered envelope => simpa only [StreamState.step, hstage] using h
  | pushed envelope =>
    obtain ⟨hsequence, hpos, hlogged⟩ := h.hub.staged envelope (.inr hstage)
    have hbelow := h.hub.below
    simp only [StreamHub.retainedTo, hstage] at hbelow
    have hsent : state.hub.sent + 1 = state.hub.nextSequence := by
      simp only [StreamHub.sent, hstage]
      omega
    have hpush := fun pending (hholds : state.hub.Holds pending) =>
      @StreamHub.Holds.push _ pending envelope { state.hub with stage := .idle } hholds
        hsent.symm (by omega) rfl hlogged
    have hhub : ({ state.hub with stage := .idle } : StreamHub).Sound := by
      refine ⟨h.hub.order, by simpa [StreamHub.retainedTo] using hbelow, h.hub.logged, ?_⟩
      simp
    have hchannel := h.channel
    have hclientSound := h.client
    simp only [StreamState.step, hstage]
    cases hclient : state.client with
    | connecting => exact ⟨hhub, .nil, trivial⟩
    | closed => exact ⟨hhub, .nil, trivial⟩
    | subscribed pending =>
      rw [hclient] at hchannel
      exact ⟨hhub, hpush pending hchannel, trivial⟩
    | querying pending call =>
      rw [hclient] at hchannel
      simp only [ClientSound, hclient] at hclientSound
      exact ⟨hhub, hpush pending hchannel, hclientSound⟩
    | streaming pending lastSequence records =>
      rw [hclient] at hchannel
      have hlength := hchannel.length_le
      simp only [StreamClient.pending] at hlength
      simp only [ClientSound, hclient, nextMessage, StreamClient.pending] at hclientSound
      refine ⟨hhub, hpush pending hchannel, hclientSound.1, fun number hnumber => ?_⟩
      refine hclientSound.2 number ?_
      simp only [nextMessage, StreamClient.offer, StreamClient.pending, StreamHub.sent,
        List.length_append, List.length_singleton] at hnumber
      omega

theorem Invariant.copy {state : StreamState} (h : state.Invariant) :
    (state.step .copy).Invariant := by
  cases hclient : state.client with
  | subscribed pending =>
    have hchannel := h.channel
    rw [hclient] at hchannel
    simp only [StreamState.step, hclient]
    split
    · refine ⟨h.hub, hchannel, rfl, QueryCall.ready_open h.hub.order, ?_, [], by simp,
        QueryCall.accounts_open⟩
      exact fun envelope hmem => h.hub.logged envelope (List.mem_filter.mp hmem).1
    · exact ⟨h.hub, .nil, trivial⟩
  | _ => simpa only [StreamState.step, hclient] using h

theorem Invariant.turn {state : StreamState} {tMs : Nat}
    {entries : List DurableBrainEventIndexEntry} {found : Except String SequencedBrainEvent}
    (h : state.Invariant) (hinput : state.Undisturbed (.turn tMs entries found)) :
    (state.step (.turn tMs entries found)).Invariant := by
  cases hclient : state.client with
  | querying pending call =>
    have hchannel := h.channel
    have hsound := h.client
    rw [hclient] at hchannel
    simp only [ClientSound, hclient] at hsound
    obtain ⟨hquery, hready, hlive, examined, hexamined, haccounts⟩ := hsound
    by_cases hstores : stores state.hub found = true
    · have hspec : ∀ after, (call.turn tMs (indexOf entries) (readIndexedEvent found)).call? =
          some after → after.query = state.query ∧ after.Ready ∧
            (∀ envelope ∈ after.live, envelope ∈ state.hub.log) ∧
            ∃ examined, (∀ envelope ∈ examined, envelope ∈ state.hub.log) ∧
              after.Accounts (state.query.afterSequence.getD 0) examined := by
        intro after hafter
        obtain ⟨looked, hprogress⟩ := QueryCall.turn_spec hready haccounts (keyed_indexOf entries)
          (faithful_found found) hafter
        refine ⟨hprogress.query.trans hquery, hprogress.ready,
          fun envelope hmem => hlive envelope (hprogress.live envelope hmem),
          examined ++ looked, fun envelope hmem => ?_, hprogress.accounts⟩
        rcases List.mem_append.mp hmem with hmem | hmem
        · exact hexamined envelope hmem
        · rcases hprogress.found envelope hmem with hcopied | ⟨entry, _, hread⟩
          · exact hlive envelope hcopied
          · rw [found_of_readIndexedEvent hread] at hstores
            simpa [stores] using hstores
      simp only [StreamState.step, hclient, hstores, if_true]
      cases hturn : call.turn tMs (indexOf entries) (readIndexedEvent found) with
      | going after =>
        exact ⟨h.hub, hchannel, hspec after (by simp [hturn, QueryTurn.call?])⟩
      | failed message => exact ⟨h.hub, .nil, trivial⟩
      | finished after =>
        obtain ⟨hquery', hready', hlive', examined', hexamined', haccounts'⟩ :=
          hspec after (by simp [hturn, QueryTurn.call?])
        have hgaps := hinput.1 after (by simp [completes, hclient, hturn, hstores])
        refine ⟨h.hub, hchannel, ⟨examined', ?_⟩, ?_⟩
        · rw [lastOfPage_eq haccounts']
          refine ⟨haccounts'.start_le, hexamined', fun number => ?_, haccounts'.once⟩
          rw [haccounts'.delivered number, hquery']
          rfl
        · simp only [nextMessage, hclient, StreamClient.pending] at hgaps
          exact hgaps
    · have hno : stores state.hub found = false := by simpa using hstores
      simpa only [StreamState.step, hclient, hno, Bool.false_eq_true, if_false] using h
  | _ => simpa only [StreamState.step, hclient] using h

theorem Invariant.receive {state : StreamState} {tMs : Nat} (h : state.Invariant)
    (hinput : state.Undisturbed (.receive tMs)) : (state.step (.receive tMs)).Invariant := by
  cases hclient : state.client with
  | streaming pending lastSequence records =>
    cases pending with
    | nil => simpa only [StreamState.step, hclient] using h
    | cons envelope pending =>
      have hchannel := h.channel
      have hsound := h.client
      have hfiltered := hinput.2
      rw [hclient] at hchannel
      simp only [StreamClient.pending] at hchannel
      simp only [ClientSound, hclient, nextMessage, StreamClient.pending] at hsound
      simp only [hclient] at hfiltered
      obtain ⟨⟨processed, htallies⟩, hunreceived⟩ := hsound
      have hlength := hchannel.length_le
      have hhead := hchannel.head
      simp only [List.length_cons] at hlength hhead hunreceived
      simp only [StreamState.step, hclient]
      refine ⟨h.hub, @StreamHub.Holds.drop _ _ hchannel 1 (by simp),
        htallies.receive (hchannel.logged envelope (by simp)) hfiltered, fun number hnumber => ?_⟩
      simp only [nextMessage, StreamClient.pending] at hnumber
      exact gapsAt_receive (by omega) (hunreceived number (by omega))
  | _ => simpa only [StreamState.step, hclient] using h

theorem Invariant.lag {state : StreamState} {tMs skipped : Nat} (h : state.Invariant)
    (hinput : state.Undisturbed (.lag tMs skipped)) :
    (state.step (.lag tMs skipped)).Invariant := by
  cases hclient : state.client with
  | streaming pending lastSequence records =>
    have hchannel := h.channel
    have hsound := h.client
    have hpast := hinput.2
    rw [hclient] at hchannel
    simp only [StreamClient.pending] at hchannel
    simp only [ClientSound, hclient, nextMessage, StreamClient.pending] at hsound
    obtain ⟨⟨processed, htallies⟩, hunreceived⟩ := hsound
    by_cases hskipped : skipped ≤ pending.length
    · simp only [StreamState.step, hclient, hskipped, if_true]
      refine ⟨h.hub, hchannel.drop hskipped, ⟨processed, htallies.gap tMs skipped⟩,
        fun number hnumber => ?_⟩
      have hlength := hchannel.length_le
      simp only [nextMessage, StreamClient.pending, List.length_drop] at hnumber
      have hnone := hunreceived number (by omega)
      cases pending with
      | nil =>
        simp at hskipped
        subst hskipped
        simp only [gapsAt_append, gapsAt_cons, gapsAt_nil, hnone, BrainEventSequenceGap.new,
          BrainEventStreamRecord.covers_gap, decide_eq_true_eq]
        grind
      | cons envelope pending =>
        have hhead := hchannel.head
        simp only [hclient] at hpast
        simp only [List.length_cons] at hhead hlength hnumber hskipped
        simp [hnone, BrainEventSequenceGap.new]
        omega
    · simpa only [StreamState.step, hclient, hskipped, if_false] using h
  | _ => simpa only [StreamState.step, hclient] using h

theorem Invariant.step {state : StreamState} {input : StreamInput} (h : state.Invariant)
    (hinput : state.Undisturbed input) : (state.step input).Invariant := by
  cases input with
  | number event => exact h.number event
  | push => exact h.push
  | broadcast => exact h.broadcast
  | subscribe =>
    cases hclient : state.client with
    | connecting =>
      simp only [StreamState.step, hclient]
      exact ⟨h.hub, .nil, trivial⟩
    | _ => simpa only [StreamState.step, hclient] using h
  | copy => exact h.copy
  | turn tMs entries found => exact h.turn hinput
  | receive tMs => exact h.receive hinput
  | lag tMs skipped => exact h.lag hinput
  | leave => exact ⟨h.hub, .nil, trivial⟩

theorem Invariant.sound {state : StreamState} (h : state.Invariant) : state.Sound := by
  cases hclient : state.client with
  | streaming pending lastSequence records =>
    have hsound := h.client
    simp only [ClientSound, hclient] at hsound
    obtain ⟨⟨processed, htallies⟩, hunreceived⟩ := hsound
    simp only [StreamState.Sound, hclient]
    exact ⟨fun number hstart hlast => htallies.within hstart hlast,
      fun number hout => htallies.outside hout, hunreceived⟩
  | _ => simp [StreamState.Sound, hclient]

def tickEvent : BrainEvent where
  eventId := "event:tick"
  eventType := .evidence
  kind := "tick"
  producer := { brain := .motherbrain, component := "clock" }
  times := { occurred := { tMs := 0 }, observed := { tMs := 0 } }

theorem Sound.unreceived {state : StreamState} (h : state.Sound) {number : Nat}
    (hnumber : state.nextMessage ≤ number) : gapsAt number state.client.records = 0 := by
  cases hclient : state.client with
  | streaming pending lastSequence records =>
    simp only [StreamState.Sound, hclient] at h
    exact h.unreceived number hnumber
  | _ => rfl

end StreamState

end Netherwick.Observatory
