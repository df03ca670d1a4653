import Netherwick.Observatory.PagedHub

/-! # The accounts of a paged history

Whatever goes on between its turns, a query accounts once for every number it passes. What it had
in reach when it began it still has in reach, unless the index has lost it for good. -/

namespace Netherwick.Observatory

open Netherwick.Lib

namespace DurableLog

variable {Record : Type} {format : DurableFormat Record} {log : DurableLog Record}
variable {record : Record}

theorem keyed_take (segment : Nat) (framed : List (Framed Record)) {scan : DurableHistoryScan Record}
    (h : Keyed scan.index) : Keyed (framed.foldl (DurableHistoryScan.take format segment) scan).index := by
  induction framed generalizing scan with
  | nil => exact h
  | cons frame framed ih =>
    refine ih ?_
    simp only [DurableHistoryScan.take]
    split
    · exact h
    · intro item hitem
      rcases SortedMap.mem_orInsert.mp hitem with hold | ⟨_, rfl⟩
      · exact h item hold
      · rfl

theorem keyed_scan {config : BrainEventDurabilityConfig} {files : DurableFiles Record} :
    Keyed (scanDurableHistory format config files).index := by
  have hread : ∀ (segments : List Nat) (scan : DurableHistoryScan Record), Keyed scan.index →
      Keyed (segments.foldl (DurableHistoryScan.readFile format files) scan).index := by
    intro segments
    induction segments with
    | nil => exact fun scan h => h
    | cons segment segments ih =>
      intro scan h
      refine ih _ ?_
      simp only [DurableHistoryScan.readFile]
      split <;> exact keyed_take _ _ h
  exact hread _ _ keyed_empty

theorem keyed_reindexed (h : Keyed log.index) (rotated : Bool) (offset : Nat) :
    Keyed (log.reindexed format rotated offset record).index := by
  cases rotated with
  | true => exact keyed_scan
  | false =>
    intro item hitem
    rcases SortedMap.mem_insert.mp hitem with rfl | ⟨hold, _⟩
    · rfl
    · exact h item hold

theorem keyed_appendLine (h : Keyed log.index) (rotated : Bool) (fault : Option AppendFault) :
    Keyed (log.appendLine format rotated record fault).1.index := by
  have hindexed : ∀ acknowledged offset, Keyed ((log.write (format.line record)
      acknowledged).reindexed format rotated offset record).index :=
    fun acknowledged offset =>
      @keyed_reindexed _ format (log.write (format.line record) acknowledged) record h rotated offset
  cases fault with
  | none => exact hindexed _ _
  | some fault =>
    cases fault with
    | rotation completed => exact hindexed _ _
    | opening => exact h
    | write count => exact h
    | persist => exact hindexed _ _
    | rescan =>
      cases rotated with
      | true => exact h
      | false => exact hindexed _ _

theorem keyed_step (h : Keyed log.index) (fault : Option AppendFault) :
    Keyed (log.step format (.append record fault)).index := by
  simp only [DurableLog.step]
  split
  · simp only [appendDurableRecord]
    split
    · split
      · exact h
      · exact keyed_appendLine (by exact h) _ _
    · exact keyed_appendLine (by exact h) _ _
  · exact h

end DurableLog

def RetainStage.envelope? : RetainStage → Option SequencedBrainEvent
  | .idle => none
  | .numbered envelope => some envelope
  | .handed envelope => some envelope
  | .pushed envelope => some envelope

namespace PagingClient

variable {client : PagingClient}

structure Accounted (client : PagingClient) : Prop where
  lossless : client.Lossless
  start_le : client.start ≤ client.cursor
  unpassed : ∀ number, client.cursor < number →
    deliveries number client.records = 0 ∧ gapsAt number client.records = 0

theorem Accounted.of_same {other : PagingClient} (h : client.Accounted)
    (hstart : other.start = client.start) (hanswered : other.answered = client.answered) :
    other.Accounted := by
  obtain ⟨start, answered, call⟩ := other
  obtain rfl : start = client.start := hstart
  obtain rfl : answered = client.answered := hanswered
  exact ⟨h.lossless, h.start_le, h.unpassed⟩

theorem accounted_unasked (h : client.answered = []) : client.Accounted := by
  have hcursor : client.cursor = client.start := by simp [cursor, h]
  refine ⟨fun number hstart hlast => ?_, hcursor.ge, fun number _ => ?_⟩
  · omega
  · simp [records, h]

theorem Accounted.answer (h : client.Accounted) {call : QueryCall}
    {looked : List SequencedBrainEvent} (haccounts : call.Accounts client.cursor looked)
    {answer : AnsweredCall} (hquery : answer.query = call.query)
    (hrecords : answer.response.records = call.records)
    (hnext : answer.response.nextCursor = call.nextCursor) (hlooked : answer.looked = looked) :
    ({ client with call := none, answered := client.answered ++ [answer] } :
      PagingClient).Accounted := by
  let later : PagingClient := { client with call := none, answered := client.answered ++ [answer] }
  have hcursor : later.cursor = call.nextCursor := by simp [later, cursor, hnext]
  have hall : later.records = client.records ++ call.records := by
    simp [later, records, hrecords]
  have hbefore := haccounts.start_le
  have hstart := h.start_le
  refine ⟨fun number hfirst hlast => ?_, hstart.trans (hbefore.trans hcursor.ge),
    fun number hnumber => ?_⟩
  · rw [hcursor] at hlast
    rw [hall, deliveries_append, gapsAt_append]
    by_cases hold : number ≤ client.cursor
    · obtain ⟨hnone, hgap⟩ := haccounts.outside (.inl hold)
      rw [hnone, hgap, Nat.add_zero, Nat.add_zero]
      have hmore : ∀ matching, (∃ answer ∈ client.answered, ∃ envelope ∈ answer.looked,
          envelope.sequence = number ∧ answer.query.matchesEvent envelope.event = matching) →
          ∃ answer ∈ later.answered, ∃ envelope ∈ answer.looked,
            envelope.sequence = number ∧ answer.query.matchesEvent envelope.event = matching :=
        fun matching ⟨prior, hprior, hrest⟩ => ⟨prior, by simp [later, hprior], hrest⟩
      exact (h.lossless number hfirst hold).imp (And.imp_right (And.imp_right (hmore true)))
        (Or.imp_left (And.imp_right (And.imp_right (hmore false))))
    · obtain ⟨hnone, hgap⟩ := h.unpassed number (by omega)
      rw [hnone, hgap, Nat.zero_add, Nat.zero_add]
      have hnew : ∀ matching, (∃ envelope ∈ looked, envelope.sequence = number ∧
          call.query.matchesEvent envelope.event = matching) →
          ∃ answer ∈ later.answered, ∃ envelope ∈ answer.looked,
            envelope.sequence = number ∧ answer.query.matchesEvent envelope.event = matching :=
        fun matching ⟨envelope, hmem, hboth⟩ =>
          ⟨answer, by simp [later], envelope, hlooked ▸ hmem, hquery ▸ hboth⟩
      exact (haccounts.within (by omega) hlast).imp
        (And.imp_right (And.imp_right (hnew true)))
        (Or.imp_left (And.imp_right (And.imp_right (hnew false))))
  · rw [hcursor] at hnumber
    have hold := h.unpassed number (by omega)
    have hnew := haccounts.outside (.inr hnumber)
    rw [hall, deliveries_append, gapsAt_append]
    omega

end PagingClient

namespace PagedHub

variable {lines : LineFormat SequencedBrainEvent} {hub : PagedHub}

def retainedTo (hub : PagedHub) : Nat :=
  match hub.stage with
  | .idle => hub.nextSequence
  | .numbered _ => hub.nextSequence - 1
  | .handed _ => hub.nextSequence - 1
  | .pushed _ => hub.nextSequence

structure Base (hub : PagedHub) : Prop where
  order : InOrder hub.history.events
  below : ∀ envelope ∈ hub.history.events, envelope.sequence ≤ hub.retainedTo
  staged : ∀ envelope ∈ hub.stage.envelope?,
    envelope.sequence = hub.nextSequence ∧ 0 < hub.nextSequence
  keyed : ∀ store ∈ hub.store, Keyed store.log.index
  accounted : hub.client.Accounted
  calls : ∀ paging ∈ hub.client.call,
    paging.call.Ready ∧ paging.call.Accounts hub.client.cursor paging.looked

theorem Base.keyed_index (h : hub.Base) : Keyed hub.index := by
  cases hstore : hub.store with
  | none => simp [PagedHub.index, hstore, keyed_empty]
  | some store => simpa [PagedHub.index, hstore] using h.keyed store (by simp [hstore])

theorem faithful_found (found : Except String SequencedBrainEvent) :
    Faithful (readIndexedEvent found) := fun _ _ h => sequence_of_readIndexedEvent h

theorem Fresh.base (h : hub.Fresh lines) : hub.Base where
  order := h.order
  below := by simpa [retainedTo, h.idle] using h.below
  staged := by simp [h.idle, RetainStage.envelope?]
  keyed store hstore := (h.store store hstore).2.1.keyed
  accounted := PagingClient.accounted_unasked h.unasked
  calls := by simp [h.uncalled]

theorem Base.push_order (h : hub.Base) {envelope : SequencedBrainEvent}
    (hstage : hub.stage = .handed envelope) :
    ∀ prior ∈ hub.history.events, prior.sequence < envelope.sequence := by
  intro prior hprior
  have hbelow := h.below prior hprior
  obtain ⟨hsequence, hpos⟩ := h.staged envelope (by simp [hstage, RetainStage.envelope?])
  simp only [retainedTo, hstage] at hbelow
  omega

theorem Base.afterTurn (h : hub.Base) {paging : PagingCall} (hcall : hub.client.call = some paging)
    (tMs : Nat) (found : Except String SequencedBrainEvent) :
    (hub.afterTurn paging (paging.call.taken (readIndexedEvent found))
      (paging.call.turn tMs hub.index (readIndexedEvent found))).Base := by
  obtain ⟨hready, haccounts⟩ := h.calls paging (by simp [hcall])
  have hprogress := fun after => @QueryCall.progress_turn paging.call hub.client.cursor tMs
    paging.looked hub.index (readIndexedEvent found) hready haccounts h.keyed_index
    (faithful_found found) after
  cases hturn : paging.call.turn tMs hub.index (readIndexedEvent found) with
  | failed message => 
    exact { h with
      accounted := h.accounted.of_same rfl rfl
      calls := by simp [PagedHub.afterTurn] }
  | going after =>
    have hafter := hprogress after (by simp [hturn, QueryTurn.call?])
    refine { h with accounted := h.accounted.of_same rfl rfl, calls := ?_ }
    intro other hother
    obtain rfl := Option.some.inj hother
    exact ⟨hafter.ready, hafter.accounts⟩
  | finished after =>
    have hafter := hprogress after (by simp [hturn, QueryTurn.call?])
    exact { h with
      accounted := h.accounted.answer hafter.accounts rfl rfl rfl rfl
      calls := by simp [PagedHub.afterTurn] }

theorem Base.step (h : hub.Base) (input : PagedInput) : (hub.step lines input).Base := by
  cases input with
  | number event =>
    cases hstage : hub.stage with
    | idle =>
      have hbelow := h.below
      simp only [retainedTo, hstage] at hbelow
      simp only [PagedHub.step, hstage]
      exact { h with
        below := by simpa [retainedTo] using hbelow
        staged := by simp [RetainStage.envelope?] }
    | _ => simpa only [PagedHub.step, hstage] using h
  | handOver accepted =>
    cases hstage : hub.stage with
    | numbered envelope =>
      have hbelow := h.below
      have hstaged := h.staged
      simp only [retainedTo, hstage] at hbelow
      simp only [hstage, RetainStage.envelope?] at hstaged
      simp only [PagedHub.step, hstage]
      refine { h with below := hbelow, staged := hstaged, keyed := ?_ }
      intro store hstore
      obtain ⟨prior, hprior, rfl⟩ := Option.map_eq_some_iff.mp hstore
      have hkeyed := h.keyed prior hprior
      split <;> exact hkeyed
    | _ => simpa only [PagedHub.step, hstage] using h
  | push =>
    cases hstage : hub.stage with
    | handed envelope =>
      have hnew := h.push_order hstage
      have hstaged := h.staged
      simp only [hstage, RetainStage.envelope?] at hstaged
      simp only [PagedHub.step, hstage]
      refine { h with order := h.order.retain hnew, below := ?_, staged := hstaged }
      intro prior hprior
      have hsequence := (hstaged envelope rfl).1
      rcases mem_of_mem_retain hprior with hold | rfl
      · have := hnew prior hold
        simp only [retainedTo]
        omega
      · exact hsequence.le
    | _ => simpa only [PagedHub.step, hstage] using h
  | broadcast =>
    cases hstage : hub.stage with
    | pushed envelope =>
      have hbelow := h.below
      simp only [retainedTo, hstage] at hbelow
      simp only [PagedHub.step, hstage]
      exact { h with below := hbelow, staged := by simp [RetainStage.envelope?] }
    | _ => simpa only [PagedHub.step, hstage] using h
  | append fault =>
    cases hstore : hub.store with
    | none => simpa only [PagedHub.step, hstore] using h
    | some store =>
      obtain ⟨log, queue⟩ := store
      cases queue with
      | nil => simpa only [PagedHub.step, hstore] using h
      | cons envelope queue =>
        simp only [PagedHub.step, hstore]
        refine { h with keyed := ?_ }
        intro later hlater
        obtain rfl := Option.some.inj hlater
        exact DurableLog.keyed_step (h.keyed _ hstore) fault
  | «open» query =>
    cases hcall : hub.client.call with
    | some paging => simpa only [PagedHub.step, hcall] using h
    | none =>
      cases hvalid : (hub.client.asked query).validate hub.config.maxQueryLimit with
      | error message => simpa only [PagedHub.step, hcall, hvalid] using h
      | ok _ =>
        simp only [PagedHub.step, hcall, hvalid]
        refine { h with accounted := h.accounted.of_same rfl rfl, calls := ?_ }
        intro paging hpaging
        obtain rfl := Option.some.inj hpaging
        have haccounts : (QueryCall.open hub.config hub.store.isSome hub.history
            (hub.client.asked query)).Accounts hub.client.cursor [] :=
          @QueryCall.accounts_open hub.config _ hub.history (hub.client.asked query)
        exact ⟨QueryCall.ready_open h.order, haccounts⟩
  | turn tMs found =>
    cases hcall : hub.client.call with
    | none => simpa only [PagedHub.step, hcall] using h
    | some paging =>
      simp only [PagedHub.step, hcall]
      exact h.afterTurn hcall tMs found

/-- The last number that may have gone to the writer. -/
def handedTo (hub : PagedHub) : Nat :=
  match hub.stage with
  | .numbered _ => hub.nextSequence - 1
  | _ => hub.nextSequence

/-- The event that is still to be pushed. -/
def unpushed? (hub : PagedHub) : Option SequencedBrainEvent :=
  match hub.stage with
  | .numbered envelope => some envelope
  | .handed envelope => some envelope
  | _ => none

/-- The records come to the log in the order of their numbers. -/
structure StoreSound (lines : LineFormat SequencedBrainEvent) (handedTo : Nat)
    (store : DurableStore) : Prop where
  log : DurableLog.Ordered (durableFormat lines) store.log
  newest : store.log.newest ≤ handedTo
  queue : InOrder store.writerQueue
  later : ∀ envelope ∈ store.writerQueue,
    store.log.newest < envelope.sequence ∧ envelope.sequence ≤ handedTo

/-- The number is neither live nor indexed, and will not be again. -/
structure Gone (lines : LineFormat SequencedBrainEvent) (hub : PagedHub) (number : Nat) : Prop where
  old : number ≤ hub.nextSequence
  live : ∀ envelope ∈ hub.history.events, envelope.sequence ≠ number
  unpushed : ∀ envelope ∈ hub.unpushed?, envelope.sequence ≠ number
  store : ∀ store ∈ hub.store, store.log.index.contains number = false ∧
    DurableLog.Unfound (durableFormat lines) store.log number ∧ number ≤ store.log.newest

structure Kept (lines : LineFormat SequencedBrainEvent) (hub : PagedHub) : Prop where
  store : ∀ store ∈ hub.store, StoreSound lines hub.handedTo store
  answers : ∀ answer ∈ hub.client.answered, answer.KeepsHeld
  reach : ∀ paging ∈ hub.client.call, ∀ number ∈ paging.heldAtStart, hub.client.cursor < number →
    (∃ envelope ∈ paging.looked, envelope.sequence = number) ∨
      paging.call.Within hub.index number ∨ hub.Gone lines number

theorem mem_held {number : Nat} : number ∈ hub.held ↔
    (∃ envelope ∈ hub.history.events, envelope.sequence = number) ∨
      hub.index.contains number = true := by
  simp only [held, List.mem_append, List.mem_map, SortedMap.contains_iff, Prod.exists]
  constructor
  · rintro (h | ⟨key, entry, hmem, rfl⟩)
    · exact .inl h
    · exact .inr ⟨entry, hmem⟩
  · rintro (h | ⟨entry, hmem⟩)
    · exact .inl h
    · exact .inr ⟨number, entry, hmem, rfl⟩

theorem Gone.not_held {number : Nat} (h : hub.Gone lines number) : number ∉ hub.held := by
  rw [mem_held]
  rintro (⟨envelope, hmem, hsequence⟩ | hcontains)
  · exact h.live envelope hmem hsequence
  · cases hstore : hub.store with
    | none => simp [PagedHub.index, hstore, SortedMap.contains, SortedMap.empty] at hcontains
    | some store =>
      have hno := (h.store store (by simp [hstore])).1
      simp only [PagedHub.index, hstore, Option.map_some, Option.getD_some] at hcontains
      rw [hno] at hcontains
      cases hcontains

theorem Fresh.kept (h : hub.Fresh lines) : hub.Kept lines where
  store store hstore := by
    obtain ⟨hqueue, hordered, hnewest⟩ := h.store store hstore
    refine ⟨hordered, ?_, by simp [hqueue, InOrder], by simp [hqueue]⟩
    simpa [handedTo, h.idle] using hnewest
  answers := by simp [h.unasked]
  reach := by simp [h.uncalled]

theorem Kept.reach_of_same (h : hub.Kept lines) {later : PagedHub}
    (hclient : later.client = hub.client) (hindex : later.index = hub.index)
    (hgone : ∀ number, hub.Gone lines number → later.Gone lines number) :
    ∀ paging ∈ later.client.call, ∀ number ∈ paging.heldAtStart, later.client.cursor < number →
      (∃ envelope ∈ paging.looked, envelope.sequence = number) ∨
        paging.call.Within later.index number ∨ later.Gone lines number := by
  intro paging hpaging number hheld hcursor
  rw [hclient] at hpaging hcursor
  rw [hindex]
  exact (h.reach paging hpaging number hheld hcursor).imp id (Or.imp id (hgone number))

/-! ### The worker -/

theorem Kept.number (h : hub.Kept lines) (event : BrainEvent) :
    (hub.step lines (.number event)).Kept lines := by
  cases hstage : hub.stage with
  | idle =>
    have hstore := h.store
    simp only [handedTo, hstage] at hstore
    simp only [PagedHub.step, hstage]
    refine ⟨hstore, h.answers, h.reach_of_same rfl rfl fun number hgone => ?_⟩
    have hold := hgone.old
    refine ⟨hold.trans (Nat.le_succ _), hgone.live, ?_, hgone.store⟩
    rintro envelope ⟨⟩ heq
    simp only at heq
    omega
  | _ => simpa only [PagedHub.step, hstage] using h

theorem StoreSound.mono {bound later : Nat} {store : DurableStore}
    (h : StoreSound lines bound store) (hle : bound ≤ later) : StoreSound lines later store where
  log := h.log
  newest := h.newest.trans hle
  queue := h.queue
  later envelope hmem := ⟨(h.later envelope hmem).1, (h.later envelope hmem).2.trans hle⟩

theorem StoreSound.enqueue {bound : Nat} {store : DurableStore} (h : StoreSound lines bound store)
    {envelope : SequencedBrainEvent} (hnew : bound < envelope.sequence) :
    StoreSound lines envelope.sequence
      { store with writerQueue := store.writerQueue ++ [envelope] } where
  log := h.log
  newest := h.newest.trans hnew.le
  queue := by
    rw [InOrder, List.pairwise_append]
    refine ⟨h.queue, List.pairwise_singleton .., ?_⟩
    intro prior hprior last hlast
    obtain rfl := List.mem_singleton.mp hlast
    exact (h.later prior hprior).2.trans_lt hnew
  later prior hprior := by
    obtain hold | hlast := List.mem_append.mp hprior
    · exact ⟨(h.later prior hold).1, (h.later prior hold).2.trans hnew.le⟩
    · obtain rfl := List.mem_singleton.mp hlast
      exact ⟨h.newest.trans_lt hnew, le_rfl⟩

theorem Kept.handOver (h : hub.Kept lines) (hbase : hub.Base) (accepted : Bool) :
    (hub.step lines (.handOver accepted)).Kept lines := by
  cases hstage : hub.stage with
  | numbered envelope =>
    obtain ⟨hsequence, hpos⟩ := hbase.staged envelope (by simp [hstage, RetainStage.envelope?])
    have hsound := h.store
    simp only [handedTo, hstage] at hsound
    have hunpushed : hub.unpushed? = some envelope := by simp [unpushed?, hstage]
    simp only [PagedHub.step, hstage]
    refine ⟨?_, h.answers, h.reach_of_same rfl ?_ fun number hgone => ?_⟩
    · intro store hstore
      obtain ⟨prior, hprior, rfl⟩ := Option.map_eq_some_iff.mp hstore
      have hlater := hsound prior hprior
      simp only [handedTo]
      split
      · rw [← hsequence]
        exact hlater.enqueue (by omega)
      · exact hlater.mono (by omega)
    · cases hstore : hub.store with
      | none => simp [PagedHub.index, hstore]
      | some store =>
        simp only [PagedHub.index, hstore, Option.map_some]
        split <;> rfl
    · refine ⟨hgone.old, hgone.live, ?_, ?_⟩
      · intro other hother
        exact hgone.unpushed other (hunpushed.trans hother)
      · intro store hstore
        obtain ⟨prior, hprior, rfl⟩ := Option.map_eq_some_iff.mp hstore
        have hlost := hgone.store prior hprior
        split <;> exact hlost
  | _ => simpa only [PagedHub.step, hstage] using h

theorem Kept.push (h : hub.Kept lines) : (hub.step lines .push).Kept lines := by
  cases hstage : hub.stage with
  | handed envelope =>
    have hstore := h.store
    simp only [handedTo, hstage] at hstore
    have hunpushed : envelope ∈ hub.unpushed? := by simp [unpushed?, hstage]
    simp only [PagedHub.step, hstage]
    refine ⟨hstore, h.answers, h.reach_of_same rfl rfl fun number hgone => ?_⟩
    refine ⟨hgone.old, ?_, by simp [unpushed?], hgone.store⟩
    intro prior hprior
    rcases mem_of_mem_retain hprior with hold | rfl
    · exact hgone.live prior hold
    · exact hgone.unpushed prior hunpushed
  | _ => simpa only [PagedHub.step, hstage] using h

theorem Kept.broadcast (h : hub.Kept lines) : (hub.step lines .broadcast).Kept lines := by
  cases hstage : hub.stage with
  | pushed envelope =>
    have hstore := h.store
    simp only [handedTo, hstage] at hstore
    simp only [PagedHub.step, hstage]
    refine ⟨hstore, h.answers, h.reach_of_same rfl rfl fun number hgone => ?_⟩
    exact ⟨hgone.old, hgone.live, by simp [unpushed?], hgone.store⟩
  | _ => simpa only [PagedHub.step, hstage] using h

/-! ### The writer -/

theorem Kept.append (h : hub.Kept lines) (hbase : hub.Base) {fault : Option AppendFault}
    (hundisturbed : hub.Undisturbed lines (.append fault)) :
    (hub.step lines (.append fault)).Kept lines := by
  cases hstore : hub.store with
  | none => simpa only [PagedHub.step, hstore] using h
  | some store =>
    obtain ⟨log, queue⟩ := store
    cases queue with
    | nil => simpa only [PagedHub.step, hstore] using h
    | cons envelope queue =>
      obtain ⟨hidentity, hfetched⟩ := hundisturbed _ hstore envelope rfl
      have hsound := h.store _ hstore
      have hnew : log.newest < envelope.sequence := (hsound.later envelope (by simp)).1
      have hhanded : envelope.sequence ≤ hub.handedTo := (hsound.later envelope (by simp)).2
      have hqueue : ∀ later ∈ queue, envelope.sequence < later.sequence :=
        (List.pairwise_cons.mp hsound.queue).1
      -- the record that the log numbers is the one that is appended
      let format := durableFormat lines
      let numbered : DurableLog SequencedBrainEvent :=
        { log with
          newest := envelope.sequence
          attempted := envelope.event.eventId :: log.attempted }
      let later := (numbered.appendDurableRecord format envelope fault).1
      have hlog : log.step format (.append envelope fault) = later := if_pos hnew
      have hordered : DurableLog.Ordered format numbered :=
        { laid := hsound.log.laid
          numbered := hsound.log.numbered
          bounded := fun other hother => (hsound.log.bounded other hother).trans hnew.le
          keyed := hsound.log.keyed
          indexed := fun number hcontains => (hsound.log.indexed number hcontains).trans hnew.le }
      have hfollows : DurableLog.Follows format numbered envelope := fun other hother =>
        ⟨(hsound.log.bounded other hother).trans_lt hnew, hidentity other hother⟩
      have hgrown : DurableLog.Grown format numbered later envelope := hordered.grown fault
      have hstep : hub.step lines (.append fault) = { hub with store := some ⟨later, queue⟩ } := by
        simp only [PagedHub.step, hstore]
        rw [← hlog]
      have hindex : hub.index = log.index := by simp [PagedHub.index, hstore]
      have hindex' : ({ hub with store := some ⟨later, queue⟩ } : PagedHub).index = later.index :=
        rfl
      rw [hstep] at hfetched ⊢
      refine ⟨?_, h.answers, ?_⟩
      · intro other hother
        obtain rfl := Option.some.inj hother
        refine ⟨hgrown.ordered hordered hfollows le_rfl, ?_, (List.pairwise_cons.mp hsound.queue).2,
          fun next hnext => ⟨?_, (hsound.later next (by simp [hnext])).2⟩⟩
        · exact hgrown.newest.trans_le hhanded
        · exact hgrown.newest.trans_lt (hqueue next hnext)
      · intro paging hpaging number hheld hcursor
        -- a number that is lost for good
        have hgone : number ≤ log.newest → (∀ live ∈ hub.history.events, live.sequence ≠ number) →
            later.index.contains number = false → DurableLog.Unfound format later number →
            ({ hub with store := some ⟨later, queue⟩ } : PagedHub).Gone lines number := by
          intro hold hlive hcontains hunfound
          have hhandedTo : hub.handedTo ≤ hub.nextSequence := by
            simp only [handedTo]
            split <;> omega
          have hbelow := hhanded
          have hlow : number ≤ hub.nextSequence := by omega
          refine ⟨hlow, hlive, ?_, ?_⟩
          · intro other hother heq
            cases hstage : hub.stage with
            | idle => simp [unpushed?, hstage] at hother
            | pushed prior => simp [unpushed?, hstage] at hother
            | numbered prior =>
              have hlast := hbase.staged prior (by simp [hstage, RetainStage.envelope?])
              simp only [unpushed?, hstage, Option.mem_def, Option.some.injEq] at hother
              subst hother
              simp only [handedTo, hstage] at hbelow
              omega
            | handed prior =>
              have hlast := hbase.staged prior (by simp [hstage, RetainStage.envelope?])
              simp only [unpushed?, hstage, Option.mem_def, Option.some.injEq] at hother
              subst hother
              simp only [handedTo, hstage] at hbelow
              omega
          · intro other hother
            obtain rfl := Option.some.inj hother
            exact ⟨hcontains, hunfound, hold.trans (hnew.le.trans hgrown.newest.ge)⟩
        rcases h.reach paging hpaging number hheld hcursor with hlooked | hwithin | hlost
        · exact .inl hlooked
        · rw [hindex] at hwithin
          rw [hindex']
          rcases hwithin with hlive | hentries | ⟨hmore, hpage, hcontains⟩
          · exact .inr (.inl (.inl hlive))
          · exact .inr (.inl (.inr (.inl hentries)))
          · cases hcontains' : later.index.contains number with
            | true => exact .inr (.inl (.inr (.inr ⟨hmore, hpage, hcontains'⟩)))
            | false =>
              refine .inr (.inr (hgone (hsound.log.indexed number hcontains) ?_ hcontains' ?_))
              · intro live hlive heq
                have hkept := hfetched paging hpaging number hheld hmore hpage
                  ⟨live, hlive, heq⟩ hcontains
                rw [hindex', hcontains'] at hkept
                cases hkept
              · exact (hgrown.lost hordered hfollows hcontains).resolve_left (by simp [hcontains'])
        · obtain ⟨hcontains, hunfound, hold⟩ := hlost.store _ hstore
          have hother : format.sequence envelope ≠ number := by
            have : number < envelope.sequence := hold.trans_lt hnew
            exact this.ne'
          obtain ⟨hcontains', hunfound'⟩ :=
            hgrown.absent hordered hfollows hother hcontains hunfound
          exact .inr (.inr (hgone hold hlost.live hcontains' hunfound'))

/-! ### The client -/

theorem Kept.open (h : hub.Kept lines) (query : BrainEventQuery) :
    (hub.step lines (.open query)).Kept lines := by
  cases hcall : hub.client.call with
  | some paging => simpa only [PagedHub.step, hcall] using h
  | none =>
    cases hvalid : (hub.client.asked query).validate hub.config.maxQueryLimit with
    | error message => simpa only [PagedHub.step, hcall, hvalid] using h
    | ok _ =>
      simp only [PagedHub.step, hcall, hvalid]
      refine ⟨h.store, h.answers, ?_⟩
      intro paging hpaging number hheld hcursor
      obtain rfl := Option.some.inj hpaging
      have habove : hub.client.cursor < number := hcursor
      refine .inr (.inl ?_)
      rcases mem_held.mp hheld with ⟨envelope, hmem, rfl⟩ | hcontains
      · exact .inl ⟨envelope, List.mem_filter.mpr ⟨hmem, decide_eq_true habove⟩, rfl⟩
      · have hsome : hub.store.isSome = true := by
          cases hstore : hub.store with
          | none => simp [PagedHub.index, hstore, SortedMap.contains, SortedMap.empty] at hcontains
          | some store => rfl
        refine .inr (.inr ⟨by simp [QueryCall.open, hsome], ?_, hcontains⟩)
        simpa [QueryCall.open, PagingClient.asked] using habove

theorem gapsAt_pos {records : List BrainEventStreamRecord} {missing : BrainEventSequenceGap}
    {number : Nat} (hmem : .gap missing ∈ records) (hfrom : missing.fromSequence ≤ number)
    (hto : number ≤ missing.toSequence) : 0 < gapsAt number records :=
  List.countP_pos_iff.mpr ⟨_, hmem, by simp [hfrom, hto]⟩

theorem Kept.turn (h : hub.Kept lines) (hbase : hub.Base) (tMs : Nat)
    (found : Except String SequencedBrainEvent) :
    (hub.step lines (.turn tMs found)).Kept lines := by
  cases hcall : hub.client.call with
  | none => simpa only [PagedHub.step, hcall] using h
  | some paging =>
    obtain ⟨hready, haccounts⟩ := hbase.calls paging (by simp [hcall])
    let looked := paging.looked ++ paging.call.taken (readIndexedEvent found)
    -- what is in reach of the turn is looked at, or stays in reach, or is gone
    have hreach : ∀ after,
        (paging.call.turn tMs hub.index (readIndexedEvent found)).call? = some after →
        ∀ number ∈ paging.heldAtStart, hub.client.cursor < number →
          (∃ envelope ∈ looked, envelope.sequence = number) ∨
            after.Within hub.index number ∨ hub.Gone lines number := by
      intro after hafter number hheld hcursor
      rcases h.reach paging (by simp [hcall]) number hheld hcursor with
        ⟨envelope, hmem, hsequence⟩ | hwithin | hgone
      · exact .inl ⟨envelope, by simp [looked, hmem], hsequence⟩
      · rcases hwithin.turn hbase.keyed_index (faithful_found found) hafter with
          ⟨envelope, hmem, hsequence⟩ | hlater
        · exact .inl ⟨envelope, by simp [looked, hmem], hsequence⟩
        · exact .inr (.inl hlater)
      · exact .inr (.inr hgone)
    have hprogress := fun after => @QueryCall.progress_turn paging.call hub.client.cursor tMs
      paging.looked hub.index (readIndexedEvent found) hready haccounts hbase.keyed_index
      (faithful_found found) after
    have hgone : ∀ {client : PagingClient} {number}, hub.Gone lines number →
        ({ hub with client } : PagedHub).Gone lines number :=
      fun hgone => ⟨hgone.old, hgone.live, hgone.unpushed, hgone.store⟩
    simp only [PagedHub.step, hcall]
    cases hturn : paging.call.turn tMs hub.index (readIndexedEvent found) with
    | failed message => exact ⟨h.store, h.answers, by simp [PagedHub.afterTurn]⟩
    | going after =>
      refine ⟨h.store, h.answers, ?_⟩
      intro other hother number hheld hcursor
      obtain rfl := Option.some.inj hother
      exact (hreach after (by simp [hturn, QueryTurn.call?]) number hheld hcursor).imp id
        (Or.imp id hgone)
    | finished after =>
      have hafter := hprogress after (by simp [hturn, QueryTurn.call?])
      refine ⟨h.store, ?_, by simp [PagedHub.afterTurn]⟩
      intro answer hanswer
      rcases List.mem_append.mp hanswer with hold | hnew
      · exact h.answers answer hold
      obtain rfl := List.mem_singleton.mp hnew
      intro number hstart hend missing hmem _ hcovers
      have hpos := gapsAt_pos hmem hcovers.1 hcovers.2
      have hcursor : hub.client.cursor < number := by
        by_contra hlow
        have := (hafter.accounts.outside (.inl (Nat.le_of_not_lt hlow))).2
        simp only [QueryCall.response] at hpos
        omega
      rcases hreach after (by simp [hturn, QueryTurn.call?]) number hstart hcursor with
        ⟨envelope, hlooked, rfl⟩ | hwithin | hlost
      · have hnone := hafter.accounts.gapsAt_looked hlooked
        simp only [QueryCall.response] at hpos
        omega
      · have habove := hafter.ready.due_above hwithin.due
        have hnone := (hafter.accounts.outside (.inr habove)).2
        simp only [QueryCall.response] at hpos
        omega
      · exact hlost.not_held hend

theorem Kept.step (h : hub.Kept lines) (hbase : hub.Base) {input : PagedInput}
    (hundisturbed : hub.Undisturbed lines input) : (hub.step lines input).Kept lines := by
  cases input with
  | number event => exact h.number event
  | handOver accepted => exact h.handOver hbase accepted
  | push => exact h.push
  | broadcast => exact h.broadcast
  | append fault => exact h.append hbase hundisturbed
  | «open» query => exact h.open query
  | turn tMs found => exact h.turn hbase tMs found

theorem base_after (h : hub.Fresh lines) (inputs : List PagedInput) :
    (after (step lines) hub inputs).Base := by
  induction inputs using List.reverseRecOn with
  | nil => exact h.base
  | append_singleton inputs input ih =>
    rw [after_append]
    exact ih.step input

/-- Every run of a hub and its client accounts for each number once; an undisturbed run reports
nothing as expired that was there at the start of the call and at its end. -/
theorem pages_losslessly (lines : LineFormat SequencedBrainEvent) {hub : PagedHub}
    (hfresh : hub.Fresh lines) (inputs : List PagedInput) :
    (after (step lines) hub inputs).client.Lossless ∧
      (EachStep (step lines) hub (Undisturbed lines) inputs →
        ∀ answer ∈ (after (step lines) hub inputs).client.answered, answer.KeepsHeld) := by
  refine ⟨(base_after hfresh inputs).accounted.lossless, fun hundisturbed => ?_⟩
  have hkeeps : ∀ (state : PagedHub) (input : PagedInput), (state.Base ∧ state.Kept lines) →
      state.Undisturbed lines input →
      (state.step lines input).Base ∧ (state.step lines input).Kept lines :=
    fun _ _ h hinput => ⟨h.1.step _, h.2.step h.1 hinput⟩
  exact (hundisturbed.invariant ⟨hfresh.base, hfresh.kept⟩ hkeeps).2.answers

def notedEvent (number : Nat) : BrainEvent where
  eventId := toString number
  eventType := .command
  kind := "drive.stop"
  producer := { brain := .motherbrain, component := "conductor" }
  times := { occurred := { tMs := 0 }, observed := { tMs := 0 } }

/-- A noted event is written as its number; nothing else reads back. -/
def notedStamp (envelope : SequencedBrainEvent) : Ledger.Stamp where
  id := if envelope.event = notedEvent envelope.sequence then 1 else 0
  tMs := envelope.sequence

def ofNotedStamp (stamp : Ledger.Stamp) : Option SequencedBrainEvent :=
  if stamp.id = 1 then some ⟨stamp.tMs, notedEvent stamp.tMs⟩ else none

theorem ofNotedStamp_notedStamp {envelope other : SequencedBrainEvent}
    (h : ofNotedStamp (notedStamp envelope) = some other) : other = envelope := by
  by_cases hevent : envelope.event = notedEvent envelope.sequence
  · simp only [ofNotedStamp, notedStamp, hevent, if_true, Option.some.injEq] at h
    rw [← h, ← hevent]
  · simp [ofNotedStamp, notedStamp, hevent] at h

theorem notedStamp_of {stamp : Ledger.Stamp} {envelope : SequencedBrainEvent}
    (h : ofNotedStamp stamp = some envelope) : notedStamp envelope = stamp := by
  by_cases hid : stamp.id = 1
  · simp only [ofNotedStamp, hid, if_true, Option.some.injEq] at h
    subst h
    simp [notedStamp, ← hid]
  · simp [ofNotedStamp, hid] at h

def readNoted (bytes : List UInt8) : Option SequencedBrainEvent :=
  (Ledger.Stamp.parse bytes).bind ofNotedStamp

theorem readNoted_faithful (envelope other : SequencedBrainEvent)
    (h : readNoted (notedStamp envelope).text = some other) : other = envelope := by
  obtain ⟨stamp, hstamp, hother⟩ := Option.bind_eq_some_iff.mp h
  exact ofNotedStamp_notedStamp (Ledger.Stamp.text_faithful _ _ hstamp ▸ hother)

theorem readNoted_torn (pieces : List (List UInt8))
    (hpieces : ∀ piece ∈ pieces, piece ≠ [] ∧ ∃ envelope, piece <+: (notedStamp envelope).text)
    (envelope : SequencedBrainEvent) (h : readNoted pieces.flatten = some envelope) :
    ∃ envelope, pieces = [(notedStamp envelope).text] := by
  obtain ⟨stamp, hstamp, henvelope⟩ := Option.bind_eq_some_iff.mp h
  have hstamps : ∀ piece ∈ pieces, piece ≠ [] ∧ ∃ frame : Ledger.Stamp, piece <+: frame.text := by
    intro piece hpiece
    obtain ⟨hne, prior, hprefix⟩ := hpieces piece hpiece
    exact ⟨hne, _, hprefix⟩
  obtain ⟨frame, rfl⟩ := Ledger.Stamp.text_torn pieces hstamps stamp hstamp
  have htext : frame.text = stamp.text := by simpa [Ledger.Stamp.parse_iff] using hstamp
  exact ⟨envelope, by rw [htext, notedStamp_of henvelope]⟩

def notedLines : LineFormat SequencedBrainEvent where
  text envelope := (notedStamp envelope).text
  decode := readNoted
  oneLine envelope := (Ledger.Stamp.text_oneLine (notedStamp envelope)).1
  nonempty envelope := Ledger.FrameFormat.text_ne_nil Ledger.Stamp.format (notedStamp envelope)
  faithful := readNoted_faithful
  torn := readNoted_torn

/-- A hub on an empty path, with one rotated file and a new file for every record. -/
def rotatingHub : PagedHub where
  config := BrainEventHubConfig.normalized {}
  nextSequence := 0
  stage := .idle
  history := .empty
  store := some
    { log := DurableLog.fresh { maxSegmentBytes := 1, retainedSegments := 1 }
      writerQueue := [] }
  client := { start := 0 }

theorem fresh_rotatingHub : rotatingHub.Fresh notedLines where
  idle := rfl
  order := List.Pairwise.nil
  below _ h := absurd h List.not_mem_nil
  store store hstore := by
    obtain rfl := Option.some.inj hstore
    exact ⟨rfl, DurableLog.ordered_fresh _, le_rfl⟩
  unasked := rfl
  uncalled := rfl

/-- One event is numbered, stored, retained and read. -/
def pagedRun : List PagedInput :=
  [.number (notedEvent 1), .handOver true, .append none, .push, .broadcast, .open {},
    .turn 0 (.error "not asked"), .turn 0 (.error "not asked"), .turn 0 (.error "not asked")]

theorem pages_losslessly_one :
    (after (step notedLines) rotatingHub pagedRun).client.Lossless ∧
      ∀ answer ∈ (after (step notedLines) rotatingHub pagedRun).client.answered,
        answer.KeepsHeld := by
  have h := pages_losslessly notedLines fresh_rotatingHub pagedRun
  refine ⟨h.1, h.2 ?_⟩
  simp only [pagedRun, eachStep_cons, eachStep_nil, and_true]
  refine ⟨trivial, trivial, ?_, trivial, trivial, trivial, trivial, trivial, trivial⟩
  intro store hstore envelope _
  obtain rfl := Option.some.inj hstore
  constructor
  · intro other hother
    have hfresh : other ∈ allFound (durableFormat notedLines)
        (DurableLog.fresh { maxSegmentBytes := 1, retainedSegments := 1 }).config
        (DurableLog.fresh { maxSegmentBytes := 1, retainedSegments := 1 }).files := hother
    rw [DurableLog.allFound_fresh] at hfresh
    cases hfresh
  · intro paging hpaging
    cases hpaging

/-- The event is indexed and not yet pushed when the query copies the history; it is pushed and
rotated away before the query fetches its page. -/
def hiddenRun : List PagedInput :=
  [.number (notedEvent 1), .handOver true, .append none, .open {}, .push, .broadcast,
    .number (notedEvent 2), .handOver true, .append none, .push, .broadcast,
    .number (notedEvent 3), .handOver true, .append none, .push, .broadcast,
    .turn 0 (.error "not asked"), .turn 0 (.ok ⟨2, notedEvent 2⟩),
    .turn 0 (.ok ⟨3, notedEvent 3⟩), .turn 0 (.error "not asked"), .turn 0 (.error "not asked")]

theorem rotation_hides_live_event :
    rotatingHub.Fresh notedLines ∧
      ¬ ((after (step notedLines) rotatingHub hiddenRun).client.Lossless ∧
        ∀ answer ∈ (after (step notedLines) rotatingHub hiddenRun).client.answered,
          answer.KeepsHeld) := by
  refine ⟨fresh_rotatingHub, fun h => ?_⟩
  have hheld : ∃ answer ∈ (after (step notedLines) rotatingHub hiddenRun).client.answered,
      1 ∈ answer.heldAtStart ∧ 1 ∈ answer.heldAtEnd ∧
        .gap (.new 0 1 1 .retentionExpired) ∈ answer.response.records := by
    decide +kernel
  obtain ⟨answer, hanswer, hstart, hend, hgap⟩ := hheld
  exact h.2 answer hanswer 1 hstart hend _ hgap rfl (by decide)

end PagedHub

end Netherwick.Observatory
