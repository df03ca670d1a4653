import Netherwick.Observatory.PagedAccounts

/-! # Cursors and restarts

A hub on a durable path is stopped at any time and set up again from what its files hold. Clients
keep the numbers they were given. -/

namespace Netherwick.Observatory

open Netherwick.Lib

namespace QueryCall

/-- What a turn of a query finds: the time, the index and what lies at the next entry's place. -/
structure TurnInput where
  tMs : Nat
  index : DurableIndex
  found : Except String SequencedBrainEvent

def afterInput (result : QueryTurn) (input : TurnInput) : QueryTurn :=
  match result with
  | .going call => call.turn input.tMs input.index (readIndexedEvent input.found)
  | done => done

def turnAll (call : QueryCall) (inputs : List TurnInput) : QueryTurn :=
  inputs.foldl afterInput (.going call)

/-- The number was looked at, or is copied, or is due and indexed at all turns to come. -/
def Served (number : Nat) (inputs : List TurnInput) (call : QueryCall)
    (examined : List SequencedBrainEvent) : Prop :=
  (∃ envelope ∈ examined, envelope.sequence = number) ∨
    (∃ envelope ∈ call.live, envelope.sequence = number) ∨
    call.Due number ∧ ∀ input ∈ inputs, input.index.contains number = true

variable {call rest : QueryCall} {start number : Nat} {examined : List SequencedBrainEvent}
variable {envelope : SequencedBrainEvent} {index : DurableIndex} {inputs : List TurnInput}

theorem live_takes (h : ∃ other ∈ call.live, other.sequence = number)
    {read : DurableBrainEventIndexEntry → Except String SequencedBrainEvent}
    (htakes : Takes read call envelope rest) :
    envelope.sequence = number ∨ ∃ other ∈ rest.live, other.sequence = number := by
  obtain ⟨other, hmem, hsequence⟩ := h
  cases htakes with
  | live hlive _ =>
    rw [hlive] at hmem
    rcases List.mem_cons.mp hmem with rfl | hmem
    · exact .inl hsequence
    · exact .inr ⟨other, hmem, hsequence⟩
  | both hlive _ _ =>
    rw [hlive] at hmem
    rcases List.mem_cons.mp hmem with rfl | hmem
    · exact .inl hsequence
    · exact .inr ⟨other, hmem, hsequence⟩
  | durable _ _ _ => exact .inr ⟨other, hmem, hsequence⟩

theorem live_turn (h : ∃ other ∈ call.live, other.sequence = number) {tMs : Nat}
    {read : DurableBrainEventIndexEntry → Except String SequencedBrainEvent} {later : QueryCall}
    (hturn : (call.turn tMs index read).call? = some later) :
    (∃ other ∈ call.taken read, other.sequence = number) ∨
      ∃ other ∈ later.live, other.sequence = number := by
  have hturns := call.turns tMs index read
  have hlook : ∀ {envelope rest}, call.needsPage = false → Takes read call envelope rest →
      (∃ other ∈ call.taken read, other.sequence = number) ∨
        ∃ other ∈ (rest.look tMs envelope).live, other.sequence = number := by
    intro envelope rest hneeds htakes
    rw [taken_of_takes hneeds htakes]
    exact (live_takes h htakes).imp (fun heq => ⟨envelope, by simp, heq⟩) id
  cases hresult : call.turn tMs index read with
  | failed message => simp [hresult, QueryTurn.call?] at hturn
  | going found =>
    simp only [hresult, QueryTurn.call?, Option.some.injEq] at hturn
    subst hturn
    rw [hresult] at hturns
    cases hturns with
    | page _ => exact .inr h
    | going hneeds htakes _ => exact hlook hneeds htakes
  | finished found =>
    simp only [hresult, QueryTurn.call?, Option.some.injEq] at hturn
    subst hturn
    rw [hresult] at hturns
    cases hturns with
    | ended _ _ _ => exact .inr h
    | full hneeds htakes _ _ => exact hlook hneeds htakes

theorem Served.turn {input : TurnInput} (h : call.Served number (input :: inputs) examined)
    (hready : call.Ready) (haccounts : call.Accounts start examined)
    (hkeyed : Keyed input.index) {later : QueryCall}
    (hturn : (call.turn input.tMs input.index (readIndexedEvent input.found)).call? = some later) :
    later.Served number inputs (examined ++ call.taken (readIndexedEvent input.found)) := by
  rcases h with ⟨other, hmem, hsequence⟩ | hlive | ⟨hdue, hindexed⟩
  · exact .inl ⟨other, List.mem_append_left _ hmem, hsequence⟩
  · rcases live_turn hlive hturn with ⟨other, hmem, hsequence⟩ | hlater
    · exact .inl ⟨other, List.mem_append_right _ hmem, hsequence⟩
    · exact .inr (.inl hlater)
  · have hprogress := progress_turn hready haccounts hkeyed
      (fun _ _ hread => sequence_of_readIndexedEvent hread) hturn
    rcases hprogress.reach number hdue (.inl (hindexed input (by simp))) with
      ⟨other, hmem, hsequence⟩ | hlater
    · exact .inl ⟨other, List.mem_append_right _ hmem, hsequence⟩
    · exact .inr (.inr ⟨hlater, fun other hother => hindexed other (by simp [hother])⟩)

theorem foldl_afterInput_done {result : QueryTurn}
    (h : ∀ call, result ≠ .going call) (inputs : List TurnInput) :
    inputs.foldl afterInput result = result := by
  induction inputs with
  | nil => rfl
  | cons input inputs ih =>
    cases result with
    | going call => exact absurd rfl (h call)
    | finished call => exact ih
    | failed message => exact ih

theorem Served.finished (h : call.Served number inputs examined) (hready : call.Ready)
    (haccounts : call.Accounts start examined) (hkeyed : ∀ input ∈ inputs, Keyed input.index)
    {final : QueryCall} (hfinal : call.turnAll inputs = .finished final) :
    final.query = call.query ∧ ∃ looked, final.Accounts start looked ∧
      ((∃ envelope ∈ looked, envelope.sequence = number) ∨
        final.limit ≤ final.matched ∧ final.nextCursor < number) := by
  induction inputs generalizing call examined with
  | nil => cases hfinal
  | cons input inputs ih =>
    have hfaithful : Faithful (readIndexedEvent input.found) :=
      fun _ _ hread => sequence_of_readIndexedEvent hread
    have hprogress := fun later => @progress_turn call start input.tMs examined input.index
      (readIndexedEvent input.found) hready haccounts (hkeyed input (by simp)) hfaithful later
    have hserved := fun later => @Served.turn call start number examined inputs input h hready
      haccounts (hkeyed input (by simp)) later
    rw [turnAll, List.foldl_cons, afterInput] at hfinal
    cases hturn : call.turn input.tMs input.index (readIndexedEvent input.found) with
    | failed message =>
      rw [hturn, foldl_afterInput_done (by simp)] at hfinal
      cases hfinal
    | going later =>
      rw [hturn] at hfinal
      have hlater := hprogress later (by simp [hturn, QueryTurn.call?])
      obtain ⟨hquery, hrest⟩ := ih (hserved later (by simp [hturn, QueryTurn.call?])) hlater.ready
        hlater.accounts (fun other hother => hkeyed other (by simp [hother])) hfinal
      exact ⟨hquery.trans hlater.query, hrest⟩
    | finished later =>
      rw [hturn, foldl_afterInput_done (by simp)] at hfinal
      obtain rfl : later = final := by simpa using hfinal
      have hlater := hprogress later (by simp [hturn, QueryTurn.call?])
      refine ⟨hlater.query, _, hlater.accounts, ?_⟩
      rcases hserved later (by simp [hturn, QueryTurn.call?]) with hlooked | hwaits
      · exact .inl hlooked
      · have hdue : later.Due number := hwaits.elim .inl And.left
        exact .inr ⟨(finished_spec hturn).resolve_right fun hnone => hnone number hdue,
          hlater.ready.due_above hdue⟩

end QueryCall

theorem filed_scan {Record : Type} {format : DurableFormat Record}
    {config : BrainEventDurabilityConfig} {files : DurableFiles Record} :
    ∀ item ∈ (scanDurableHistory format config files).bySequence.entries,
      format.sequence item.2 = item.1 := by
  let Filed (scan : DurableHistoryScan Record) : Prop :=
    ∀ item ∈ scan.bySequence.entries, format.sequence item.2 = item.1
  have htake : ∀ (segment : Nat) (framed : List (Framed Record)) (scan : DurableHistoryScan Record),
      Filed scan → Filed (framed.foldl (DurableHistoryScan.take format segment) scan) := by
    intro segment framed
    induction framed with
    | nil => exact fun scan h => h
    | cons frame framed ih =>
      intro scan h
      refine ih _ ?_
      simp only [DurableHistoryScan.take]
      split
      · exact h
      · intro item hitem
        rcases SortedMap.mem_orInsert.mp hitem with hold | ⟨_, rfl⟩
        · exact h item hold
        · rfl
  have hread : ∀ (segments : List Nat) (scan : DurableHistoryScan Record), Filed scan →
      Filed (segments.foldl (DurableHistoryScan.readFile format files) scan) := by
    intro segments
    induction segments with
    | nil => exact fun scan h => h
    | cons segment segments ih =>
      intro scan h
      refine ih _ ?_
      simp only [DurableHistoryScan.readFile]
      split <;> exact htake _ _ _ h
  exact hread _ _ (by simp [Filed, SortedMap.empty])

theorem events_scan_increasing {Record : Type} {format : DurableFormat Record}
    {config : BrainEventDurabilityConfig} {files : DurableFiles Record} :
    (scanDurableHistory format config files).events.Pairwise
      fun a b => format.sequence a < format.sequence b := by
  rw [DurableHistoryScan.events, SortedMap.values, List.pairwise_map]
  refine (scanDurableHistory format config files).bySequence.ascending.imp_of_mem ?_
  intro a b ha hb hlt
  rwa [filed_scan a ha, filed_scan b hb]

/-- All numbers an answer names. -/
def BrainEventHistoryResponse.numbers (response : BrainEventHistoryResponse) : List Nat :=
  (response.records.flatMap fun record =>
    match record with
    | .event envelope => [envelope.sequence]
    | .gap missing =>
      List.range' missing.fromSequence (missing.toSequence + 1 - missing.fromSequence))
    ++ [response.nextCursor]

structure RestartingHub where
  hub : PagedHub
  handed : List Nat := []
  handedBefore : List Nat := []
  /-- The events numbered since the last restart, and before it. -/
  assigned : List SequencedBrainEvent := []
  assignedBefore : List SequencedBrainEvent := []

inductive RestartInput where
  | work (input : PagedInput)
  /-- A client comes with a cursor. -/
  | arrive (start : Nat)
  /-- The process stops, wherever it is, and the path is opened again. -/
  | restart

namespace RestartingHub

variable (lines : LineFormat SequencedBrainEvent) (state : RestartingHub)

def numbers : PagedInput → List SequencedBrainEvent
  | .number event =>
    if state.hub.stage = .idle then [⟨state.hub.nextSequence + 1, event⟩] else []
  | _ => []

/-- The numbers of a message, or of an answer. A cursor that the client made up, and is given back,
is no number of the hub's. -/
def hands : PagedInput → List Nat
  | .broadcast =>
    match state.hub.stage with
    | .pushed envelope => [envelope.sequence]
    | _ => []
  | .turn tMs found =>
    let answers := (state.hub.step lines (.turn tMs found)).client.answered.drop
      state.hub.client.answered.length
    (answers.flatMap fun answer => answer.response.numbers).filter
      (· ≤ state.hub.nextSequence)
  | _ => []

def recovered (store : DurableStore) : List SequencedBrainEvent :=
  (scanDurableHistory (durableFormat lines) store.log.config store.log.files).events

/-- The last number before the first one to come, once the path is opened again. -/
def recoveredTo (store : DurableStore) : Nat :=
  ((recovered lines store).map SequencedBrainEvent.sequence).foldl max 0

def step : RestartInput → RestartingHub
  | .work input =>
    { state with
      hub := state.hub.step lines input
      handed := state.handed ++ state.hands lines input
      assigned := state.assigned ++ state.numbers input }
  | .arrive start => { state with hub := { state.hub with client := { start } } }
  | .restart =>
    match state.hub.store with
    | some store =>
      { state with
        hub := PagedHub.fromParts state.hub.config
          (some (store.log.reopened (durableFormat lines))) (recovered lines store)
          { start := 0 }
        handedBefore := state.handed
        assigned := []
        assignedBefore := state.assignedBefore ++ state.assigned }
    | none => state

/-- A query from a cursor on, and how many events it asks for. -/
def resume (cursor : Nat) (limit : Option Nat) : QueryCall :=
  QueryCall.open state.hub.config state.hub.store.isSome state.hub.history
    { afterSequence := some cursor, limit }

/-- What is claimed of the numbers given out before the last restart. -/
structure CursorsSurvive : Prop where
  /-- None of them was the number of one event and is that of another now. -/
  unassigned : ∀ number ∈ state.handedBefore, ∀ old ∈ state.assignedBefore,
    ∀ envelope ∈ state.assigned, old.sequence = number → envelope.sequence = number →
      envelope.event = old.event
  /-- A query from one of them on, whatever goes on during its turns, returns each event that was
  numbered since and is live, or stays in the index, unless it is full before it. -/
  returned : ∀ cursor ∈ state.handedBefore, ∀ limit inputs final,
    (∀ input ∈ inputs, Keyed input.index) →
    (state.resume cursor limit).turnAll inputs = .finished final →
    ∀ envelope ∈ state.assigned,
      envelope ∈ state.hub.history.events ∨
        (∀ input ∈ inputs, input.index.contains envelope.sequence = true) →
      deliveries envelope.sequence final.records = 1 ∨
        final.limit ≤ final.matched ∧ final.nextCursor < envelope.sequence

/-- A restart finds on disk an event with no lower number than any that was given out. -/
def Covered : RestartInput → Prop
  | .restart => ∀ store ∈ state.hub.store, ∀ number ∈ state.handed,
      number ≤ recoveredTo lines store
  | _ => True

/-- A hub with a durable path, before it has numbered an event. -/
structure Fresh : Prop where
  hub : state.hub.Fresh lines
  durable : state.hub.store.isSome = true
  handed : state.handed = []
  handedBefore : state.handedBefore = []
  assigned : state.assigned = []

variable {lines state}

theorem le_foldl_max (numbers : List Nat) (start : Nat) :
    start ≤ numbers.foldl max start ∧ ∀ number ∈ numbers, number ≤ numbers.foldl max start := by
  induction numbers generalizing start with
  | nil => simp
  | cons first rest ih =>
    obtain ⟨hstart, hrest⟩ := ih (max start first)
    rw [List.foldl_cons]
    refine ⟨(le_max_left ..).trans hstart, fun number hnumber => ?_⟩
    rcases List.mem_cons.mp hnumber with rfl | hmem
    · exact (le_max_right ..).trans hstart
    · exact hrest number hmem

theorem inOrder_recovered (store : DurableStore) : InOrder (recovered lines store) :=
  @events_scan_increasing _ (durableFormat lines) store.log.config store.log.files

theorem le_recoveredTo {store : DurableStore} {envelope : SequencedBrainEvent}
    (h : envelope ∈ recovered lines store) : envelope.sequence ≤ recoveredTo lines store :=
  (le_foldl_max _ 0).2 _ (List.mem_map_of_mem h)

theorem base_restarted (config : BrainEventHubConfig) (store : DurableStore) :
    (PagedHub.fromParts config (some (store.log.reopened (durableFormat lines)))
      (recovered lines store) { start := 0 }).Base where
  order := (inOrder_recovered store).sublist (List.drop_sublist ..)
  below _ hmem := le_recoveredTo (List.mem_of_mem_drop hmem)
  staged := by simp [PagedHub.fromParts, RetainStage.envelope?]
  keyed later hlater := by
    obtain rfl := Option.some.inj hlater
    exact DurableLog.keyed_scan
  accounted := PagingClient.accounted_unasked rfl
  calls := by simp [PagedHub.fromParts]

structure Invariant (state : RestartingHub) : Prop where
  base : state.hub.Base
  durable : state.hub.store.isSome = true
  next : ∀ number ∈ state.handedBefore, number ≤ state.hub.nextSequence
  later : ∀ number ∈ state.handedBefore, ∀ envelope ∈ state.assigned, number < envelope.sequence

theorem Fresh.invariant (h : state.Fresh lines) : state.Invariant where
  base := h.hub.base
  durable := h.durable
  next := by simp [h.handedBefore]
  later := by simp [h.handedBefore]

theorem nextSequence_step (hub : PagedHub) (input : PagedInput) :
    hub.nextSequence ≤ (hub.step lines input).nextSequence := by
  cases input with
  | turn tMs found =>
    simp only [PagedHub.step]
    split
    · simp only [PagedHub.afterTurn]
      split <;> exact le_rfl
    · exact le_rfl
  | _ =>
    simp only [PagedHub.step]
    split <;> simp

theorem store_step (hub : PagedHub) (input : PagedInput) :
    (hub.step lines input).store.isSome = hub.store.isSome := by
  cases input with
  | turn tMs found =>
    simp only [PagedHub.step]
    split
    · simp only [PagedHub.afterTurn]
      split <;> rfl
    · rfl
  | append fault =>
    simp only [PagedHub.step]
    split
    · rename_i hstore
      simp [hstore]
    · rfl
  | _ =>
    simp only [PagedHub.step]
    split <;> simp

theorem Invariant.step (h : state.Invariant) {input : RestartInput}
    (hcovered : state.Covered lines input) : (state.step lines input).Invariant := by
  cases input with
  | work input =>
    refine ⟨h.base.step input, (store_step ..).trans h.durable, fun number hnumber =>
      (h.next number hnumber).trans (nextSequence_step ..), ?_⟩
    intro number hnumber envelope henvelope
    rcases List.mem_append.mp henvelope with hold | hnew
    · exact h.later number hnumber envelope hold
    · have hnext := h.next number hnumber
      cases input with
      | number event =>
        simp only [numbers] at hnew
        split at hnew
        · obtain rfl := List.mem_singleton.mp hnew
          exact Nat.lt_succ_of_le hnext
        · cases hnew
      | _ => cases hnew
  | arrive start =>
    exact { h with
      base := { h.base with
        accounted := PagingClient.accounted_unasked rfl
        calls := by simp [RestartingHub.step] } }
  | restart =>
    cases hstore : state.hub.store with
    | none =>
      have hdurable := h.durable
      simp [hstore] at hdurable
    | some store =>
      simp only [RestartingHub.step, hstore]
      exact
        { base := base_restarted _ store
          durable := rfl
          next := hcovered store hstore
          later := by simp }

theorem Invariant.survive (h : state.Invariant) : state.CursorsSurvive where
  unassigned number hnumber old _ envelope henvelope _ hsequence := by
    have := h.later number hnumber envelope henvelope
    omega
  returned cursor hcursor limit inputs final hkeyed hfinal envelope henvelope hretained := by
    have habove := h.later cursor hcursor envelope henvelope
    have haccounts : (state.resume cursor limit).Accounts cursor [] :=
      @QueryCall.accounts_open state.hub.config _ state.hub.history
        { afterSequence := some cursor, limit }
    have hserved : (state.resume cursor limit).Served envelope.sequence inputs [] := by
      rcases hretained with hlive | hindexed
      · refine .inr (.inl ⟨envelope, List.mem_filter.mpr ⟨hlive, ?_⟩, rfl⟩)
        exact decide_eq_true habove
      · refine .inr (.inr ⟨.inr (.inr ⟨?_, habove⟩), hindexed⟩)
        simp [resume, QueryCall.open, h.durable]
    obtain ⟨hquery, looked, hlater, hlooked | hfull⟩ :=
      hserved.finished (QueryCall.ready_open h.base.order) haccounts hkeyed hfinal
    · obtain ⟨other, hmem, hsequence⟩ := hlooked
      have hnone := hsequence ▸ hlater.gapsAt_looked hmem
      have hrange := hsequence ▸ hlater.range hmem
      rcases hlater.within hrange.1 hrange.2 with ⟨hone, _⟩ | ⟨_, _, prior, _, _, hno⟩ | ⟨_, hgap⟩
      · exact .inl hone
      · rw [hquery, resume, QueryCall.open, BrainEventQuery.matchesEvent_unfiltered] at hno
        cases hno
      · omega
    · exact .inr hfull

theorem turnAll_nothing {call : QueryCall} (hlive : call.live = [])
    (hentries : call.durableEntries = []) (hmore : call.durableExhausted = false) :
    ∃ final, call.turnAll [⟨0, .empty, .error "unread"⟩, ⟨0, .empty, .error "unread"⟩]
        = .finished final ∧
      final.records = call.records ∧ final.matched = call.matched ∧ final.limit = call.limit := by
  have hpage : indexPageAfter .empty call.durableCursor 256 = [] := by
    simp [indexPageAfter, SortedMap.above, SortedMap.empty]
  refine ⟨call.takePage .empty, ?_, rfl, rfl, rfl⟩
  simp [QueryCall.turnAll, QueryCall.afterInput, QueryCall.turn, QueryCall.needsPage, hentries,
    hmore, QueryCall.takePage, hpage, QueryCall.advance, QueryCall.next, hlive]

theorem uncovered_restart_reuses {store : DurableStore} (hstore : state.hub.store = some store)
    {number : Nat} (hnumber : number ∈ state.handed) (hlost : recoveredTo lines store < number)
    (event : BrainEvent) :
    ¬ (after (step lines) state
      [.restart, .work (.number event), .work (.handOver false), .work .push]).CursorsSurvive := by
  let envelope : SequencedBrainEvent := ⟨recoveredTo lines store + 1, event⟩
  let config := state.hub.config.normalized
  let recoveredHistory : HistoryState :=
    { events := (recovered lines store).drop
        ((recovered lines store).length - config.historyCapacity)
      replacements := .empty }
  let later := after (step lines) state
    [.restart, .work (.number event), .work (.handOver false), .work .push]
  have hlater : later.hub.config = config ∧ later.hub.store.isSome = true ∧
      later.hub.history = recoveredHistory.retain config.historyCapacity envelope ∧
      later.assigned = [envelope] ∧ later.handedBefore = state.handed := by
    simp only [later, after_cons, after_nil, step, hstore]
    exact ⟨rfl, rfl, rfl, rfl, trivial⟩
  obtain ⟨hconfig, hsome, hhistory, hassigned, hbefore⟩ := hlater
  intro h
  have hbelow : ∀ other ∈ later.hub.history.events, other.sequence ≤ number := by
    rw [hhistory]
    intro other hother
    rcases mem_of_mem_retain hother with hold | rfl
    · exact (le_recoveredTo (List.mem_of_mem_drop hold)).trans hlost.le
    · exact hlost
  have hlive : (later.resume number none).live = [] := by
    rw [resume, QueryCall.open, List.filter_eq_nil_iff]
    intro other hother
    simpa using hbelow other hother
  obtain ⟨final, hfinal, hrecords, hmatched, hlimit⟩ := turnAll_nothing hlive rfl
    (by simp [resume, QueryCall.open, hsome])
  have hkeyed : ∀ input ∈ [⟨0, .empty, .error "unread"⟩,
      (⟨0, .empty, .error "unread"⟩ : QueryCall.TurnInput)], Keyed input.index := by
    simp [keyed_empty]
  have hmem : envelope ∈ later.hub.history.events := hhistory ▸ mem_retain_self ..
  rcases h.returned number (hbefore ▸ hnumber) none _ final hkeyed hfinal envelope
    (hassigned ▸ List.mem_singleton.mpr rfl) (.inl hmem) with hone | ⟨hfull, _⟩
  · rw [hrecords, resume, QueryCall.open, deliveries_nil] at hone
    cases hone
  · rw [hmatched, hlimit, resume, QueryCall.open, hconfig] at hfull
    simp [config, BrainEventHubConfig.normalized] at hfull

theorem durable_after (h : state.hub.store.isSome = true) (inputs : List RestartInput) :
    (after (step lines) state inputs).hub.store.isSome = true := by
  induction inputs using List.reverseRecOn with
  | nil => exact h
  | append_singleton inputs input ih =>
    simp only [after_append, after_cons, after_nil]
    cases input with
    | work input => exact (store_step ..).trans ih
    | arrive start => exact ih
    | restart =>
      simp only [step]
      split
      · rfl
      · exact ih

/-- Cursors survive every run whose restarts are covered, and after any that is not they do not
survive the next event. -/
theorem cursors_survive (lines : LineFormat SequencedBrainEvent) {state : RestartingHub}
    (hfresh : state.Fresh lines) (inputs : List RestartInput) :
    (EachStep (step lines) state (Covered lines) inputs →
        (after (step lines) state inputs).CursorsSurvive) ∧
      (¬ (after (step lines) state inputs).Covered lines .restart →
        ∀ event, ¬ (after (step lines) state (inputs ++
          [.restart, .work (.number event), .work (.handOver false), .work .push])).CursorsSurvive) := by
  constructor
  · intro hcovered
    exact (hcovered.invariant hfresh.invariant fun _ _ h hinput => h.step hinput).survive
  · intro huncovered event
    have hsome := @durable_after lines state hfresh.durable inputs
    obtain ⟨store, hstore⟩ := Option.isSome_iff_exists.mp hsome
    simp only [Covered, hstore, Option.mem_def, Option.some.injEq, forall_eq', not_forall,
      Nat.not_le] at huncovered
    obtain ⟨number, hnumber, hlost⟩ := huncovered
    rw [after_append]
    exact uncovered_restart_reuses hstore hnumber hlost event

def restartingHub : RestartingHub where
  hub := PagedHub.rotatingHub

theorem fresh_restartingHub : restartingHub.Fresh PagedHub.notedLines where
  hub := PagedHub.fresh_rotatingHub
  durable := rfl
  handed := rfl
  handedBefore := rfl
  assigned := rfl

/-- A command is stored before the restart, another is numbered behind it. -/
def coveredRun : List RestartInput :=
  [.work (.number (PagedHub.notedEvent 1)), .work (.handOver true), .work (.append none),
    .work .push, .work .broadcast, .restart, .work (.number (PagedHub.notedEvent 2)),
    .work (.handOver true), .work .push]

def tickEvent : BrainEvent where
  eventId := "event:tick"
  eventType := .evidence
  kind := "clock.tick"
  producer := { brain := .brainstem, component := "clock" }
  times := { occurred := { tMs := 0 }, observed := { tMs := 0 } }
  lossPolicy := .coalescible "clock"

/-- Telemetry takes the first number and is broadcast; nothing of it is on disk. -/
def telemetryRun : List RestartInput :=
  [.work (.number tickEvent), .work (.handOver true), .work .push, .work .broadcast]

/-- The cursor of the stored command survives, that of the telemetry does not. -/
theorem cursors_survive_command :
    (after (step PagedHub.notedLines) restartingHub coveredRun).CursorsSurvive ∧
      ¬ (after (step PagedHub.notedLines) restartingHub (telemetryRun ++
        [.restart, .work (.number (PagedHub.notedEvent 1)), .work (.handOver false),
          .work .push])).CursorsSurvive := by
  constructor
  · refine (cursors_survive PagedHub.notedLines fresh_restartingHub coveredRun).1 ?_
    simp only [coveredRun, eachStep_cons, eachStep_nil, and_true]
    refine ⟨trivial, trivial, trivial, trivial, trivial, ?_, trivial, trivial, trivial⟩
    intro store hstore number hnumber
    obtain rfl := Option.some.inj hstore
    revert number
    decide +kernel
  · refine (cursors_survive PagedHub.notedLines fresh_restartingHub telemetryRun).2 ?_ _
    intro h
    have hlow := h _ rfl 1 (by decide +kernel)
    revert hlow
    decide +kernel

def reusedRun : List RestartInput :=
  telemetryRun ++ [.restart, .work (.number (PagedHub.notedEvent 1))]

theorem telemetry_number_reused :
    restartingHub.Fresh PagedHub.notedLines ∧
      ¬ (after (step PagedHub.notedLines) restartingHub reusedRun).CursorsSurvive := by
  refine ⟨fresh_restartingHub, fun h => ?_⟩
  have hgiven : 1 ∈ (after (step PagedHub.notedLines) restartingHub reusedRun).handedBefore := by
    decide +kernel
  have hold : ⟨1, tickEvent⟩ ∈
      (after (step PagedHub.notedLines) restartingHub reusedRun).assignedBefore := by
    decide +kernel
  have hnew : ⟨1, PagedHub.notedEvent 1⟩ ∈
      (after (step PagedHub.notedLines) restartingHub reusedRun).assigned := by
    decide +kernel
  have hsame := h.unassigned 1 hgiven _ hold _ hnew rfl rfl
  revert hsame
  decide +kernel

end RestartingHub

end Netherwick.Observatory
