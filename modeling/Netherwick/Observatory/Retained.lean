import Netherwick.Observatory.PagingAccounts

/-! # Queries of a history at rest

While nothing is retained, a query reads one list: the live ring and what only the index still
has, in the order of the sequence numbers. What it answers is a rendering of the first part of it,
up to the last event that the limit allows. -/

namespace Netherwick.Observatory

open Netherwick.Lib

/-- The records for the events a query looked at, from the next expected number on. -/
def render (tMs : Nat) (replacements : SortedMap Nat Nat) (query : BrainEventQuery) :
    Nat → List SequencedBrainEvent → List BrainEventStreamRecord
  | _, [] => []
  | expected, envelope :: rest =>
    (if expected < envelope.sequence then
        historyDiscontinuities tMs replacements expected (envelope.sequence - 1) else [])
      ++ (if query.matchesEvent envelope.event then [.event envelope] else [])
      ++ render tMs replacements query (envelope.sequence + 1) rest

/-- The events up to the `limit`-th one that is `wanted`. -/
def takeWanted (wanted : SequencedBrainEvent → Bool) :
    Nat → List SequencedBrainEvent → List SequencedBrainEvent
  | 0, _ => []
  | _ + 1, [] => []
  | limit + 1, envelope :: rest =>
    envelope :: takeWanted wanted (if wanted envelope then limit else limit + 1) rest

def cursorAfter (start : Nat) (looked : List SequencedBrainEvent) : Nat :=
  (looked.getLast?.map SequencedBrainEvent.sequence).getD start

theorem takeWanted_all (limit : Nat) (events : List SequencedBrainEvent) :
    takeWanted (fun _ => true) limit events = events.take limit := by
  induction events generalizing limit with
  | nil => cases limit <;> rfl
  | cons first rest ih =>
    cases limit with
    | zero => rfl
    | succ limit => simp [takeWanted, ih]

@[simp] theorem cursorAfter_nil (start : Nat) : cursorAfter start [] = start := rfl

theorem cursorAfter_cons (start : Nat) (envelope : SequencedBrainEvent)
    (rest : List SequencedBrainEvent) :
    cursorAfter start (envelope :: rest) = cursorAfter envelope.sequence rest := by
  cases rest with
  | nil => rfl
  | cons second rest =>
    simp only [cursorAfter, List.getLast?_cons_cons]
    rw [List.getLast?_eq_some_getLast (by simp)]
    rfl

theorem InOrder.filter_above {events : List SequencedBrainEvent} {cursor : Nat}
    {envelope : SequencedBrainEvent} (horder : InOrder events) (hmem : envelope ∈ events)
    (habove : cursor < envelope.sequence)
    (hleast : ∀ other ∈ events, cursor < other.sequence → envelope.sequence ≤ other.sequence) :
    events.filter (fun other => cursor < other.sequence) =
      envelope :: events.filter (fun other => envelope.sequence < other.sequence) := by
  obtain ⟨before, behind, rfl⟩ := List.mem_iff_append.mp hmem
  rw [InOrder, List.pairwise_append, List.pairwise_cons] at horder
  have hbefore : ∀ other ∈ before, other.sequence ≤ cursor := by
    intro other hother
    by_contra hlt
    have hle := hleast other (by simp [hother]) (by omega)
    have := horder.2.2 other hother envelope (by simp)
    omega
  have hbehind : ∀ other ∈ behind, envelope.sequence < other.sequence := horder.2.1.1
  have hnone : ∀ bound, cursor ≤ bound →
      before.filter (fun other => bound < other.sequence) = [] := by
    intro bound hbound
    rw [List.filter_eq_nil_iff]
    intro other hother
    have := hbefore other hother
    simp only [decide_eq_true_eq]
    omega
  have hall : ∀ bound, bound ≤ envelope.sequence →
      behind.filter (fun other => bound < other.sequence) = behind := by
    intro bound hbound
    rw [List.filter_eq_self]
    intro other hother
    have := hbehind other hother
    simp only [decide_eq_true_eq]
    omega
  simp [hnone cursor le_rfl, hnone envelope.sequence habove.le, hall cursor habove.le,
    hall envelope.sequence le_rfl, habove]

theorem InOrder.eq_of_mem_iff {first second : List SequencedBrainEvent} (hfirst : InOrder first)
    (hsecond : InOrder second) (hmem : ∀ envelope, envelope ∈ first ↔ envelope ∈ second) :
    first = second := by
  have hnodup : ∀ {events : List SequencedBrainEvent}, InOrder events → events.Nodup := by
    intro events h
    exact h.imp fun {a b} hlt heq => by simp [heq] at hlt
  refine List.Perm.eq_of_pairwise ?_ hfirst hsecond
    ((List.perm_ext_iff_of_nodup (hnodup hfirst) (hnodup hsecond)).mpr hmem)
  intro a b _ _ hab hba
  omega

structure RetainedHistory where
  config : BrainEventHubConfig
  history : HistoryState
  hasDurable : Bool
  index : DurableIndex
  /-- What the bytes at an entry's place decode to. -/
  contents : DurableBrainEventIndexEntry → Except String SequencedBrainEvent
  limited : 0 < config.defaultQueryLimit
  inOrder : InOrder history.events
  /-- The first number given out is 1. -/
  numbered : (∀ envelope ∈ history.events, 0 < envelope.sequence) ∧
    ∀ item ∈ index.entries, 0 < item.1
  undurable : hasDurable = false → index.entries = []
  keyed : Keyed index
  readable : ∀ item ∈ index.entries, ∃ envelope,
    contents item.2 = .ok envelope ∧ envelope.sequence = item.1

namespace RetainedHistory

variable (hub : RetainedHistory)

def read (entry : DurableBrainEventIndexEntry) : Except String SequencedBrainEvent :=
  readIndexedEvent (hub.contents entry) entry

def indexed : List (Nat × SequencedBrainEvent) :=
  hub.index.entries.filterMap fun item =>
    match hub.read item.2 with
    | .ok envelope => some (item.1, envelope)
    | .error _ => none

/-- Every retained event, a live one before a stored one of its number. -/
def retainedMap : SortedMap Nat SequencedBrainEvent :=
  (SortedMap.empty.insertAll hub.indexed).insertAll
    (hub.history.events.map fun envelope => (envelope.sequence, envelope))

def retained : List SequencedBrainEvent := hub.retainedMap.values

/-- What a query after `cursor` has before it. -/
def above (cursor : Nat) : List SequencedBrainEvent :=
  hub.retained.filter fun envelope => cursor < envelope.sequence

/-- Turns of the loop, at most `fuel` of them. -/
def run (tMs : Nat) : Nat → QueryCall → QueryTurn
  | 0, call => .going call
  | fuel + 1, call =>
    match call.turn tMs hub.index hub.read with
    | .going after => run tMs fuel after
    | .finished after => .finished after
    | .failed message => .failed message

def turnsEnough : Nat := 2 * (hub.history.events.length + hub.index.entries.length) + 3

/-- `query`, nothing else going on. -/
def query (tMs : Nat) (query : BrainEventQuery) : Except String BrainEventHistoryResponse :=
  match query.validate hub.config.maxQueryLimit with
  | .error message => .error message
  | .ok _ =>
    match hub.run tMs hub.turnsEnough
        (QueryCall.open hub.config hub.hasDurable hub.history query) with
    | .finished call => .ok (call.response hub.history)
    | .failed message => .error message
    | .going _ => .error "the query has not ended"

/-- A hub without durable storage. -/
def ofLive (config : BrainEventHubConfig) (history : HistoryState)
    (hlimited : 0 < config.defaultQueryLimit) (horder : InOrder history.events)
    (hnumbered : ∀ envelope ∈ history.events, 0 < envelope.sequence) : RetainedHistory where
  config
  history
  hasDurable := false
  index := .empty
  contents _ := .error "no durable store"
  limited := hlimited
  inOrder := horder
  numbered := ⟨hnumbered, fun _ h => absurd h List.not_mem_nil⟩
  undurable _ := rfl
  keyed := keyed_empty
  readable _ h := absurd h List.not_mem_nil

variable {hub}

theorem faithful : Faithful hub.read := fun _ _ h => sequence_of_readIndexedEvent h

theorem read_item {item : Nat × DurableBrainEventIndexEntry} (h : item ∈ hub.index.entries) :
    ∃ envelope, hub.read item.2 = .ok envelope ∧ envelope.sequence = item.1 := by
  obtain ⟨envelope, hcontents, hsequence⟩ := hub.readable item h
  refine ⟨envelope, ?_, hsequence⟩
  simp [read, readIndexedEvent, hcontents, hsequence, hub.keyed item h]

theorem mem_indexed {entry : Nat × SequencedBrainEvent} :
    entry ∈ hub.indexed ↔
      ∃ item ∈ hub.index.entries, hub.read item.2 = .ok entry.2 ∧ item.1 = entry.1 := by
  simp only [indexed, List.mem_filterMap]
  constructor
  · rintro ⟨item, hitem, h⟩
    cases hread : hub.read item.2 with
    | error message => simp [hread] at h
    | ok envelope =>
      simp only [hread, Option.some.injEq] at h
      subst h
      exact ⟨item, hitem, hread, rfl⟩
  · rintro ⟨item, hitem, hread, hkey⟩
    exact ⟨item, hitem, by simp [hread, hkey]⟩

theorem ascending_indexed : Ascending hub.indexed := by
  refine List.Pairwise.filterMap _ ?_ hub.index.ascending
  intro a b hlt first hfirst second hsecond
  cases ha : hub.read a.2 with
  | error message => simp [ha] at hfirst
  | ok found =>
    cases hb : hub.read b.2 with
    | error message => simp [hb] at hsecond
    | ok other =>
      simp only [ha, hb, Option.some.injEq] at hfirst hsecond
      rw [← hfirst, ← hsecond]
      exact hlt

theorem ascending_live :
    Ascending (hub.history.events.map fun envelope => (envelope.sequence, envelope)) :=
  List.pairwise_map.mpr hub.inOrder

theorem mem_retainedMap {entry : Nat × SequencedBrainEvent} :
    entry ∈ hub.retainedMap.entries ↔
      (entry.2 ∈ hub.history.events ∧ entry.2.sequence = entry.1) ∨
        ((∃ item ∈ hub.index.entries, hub.read item.2 = .ok entry.2 ∧ item.1 = entry.1) ∧
          ∀ live ∈ hub.history.events, live.sequence ≠ entry.1) := by
  rw [retainedMap, SortedMap.mem_insertAll ascending_live,
    SortedMap.mem_insertAll ascending_indexed, mem_indexed]
  obtain ⟨key, envelope⟩ := entry
  simp only [List.mem_map, Prod.mk.injEq, SortedMap.entries_empty, List.not_mem_nil, false_and,
    or_false, forall_exists_index, and_imp, forall_apply_eq_imp_iff₂]
  constructor
  · rintro (⟨live, hmem, hkey, rfl⟩ | h)
    · exact .inl ⟨hmem, hkey⟩
    · exact .inr h
  · rintro (⟨hmem, hkey⟩ | h)
    · exact .inl ⟨envelope, hmem, hkey, rfl⟩
    · exact .inr h

theorem key_retainedMap {entry : Nat × SequencedBrainEvent}
    (h : entry ∈ hub.retainedMap.entries) : entry.2.sequence = entry.1 := by
  rcases mem_retainedMap.mp h with ⟨_, hkey⟩ | ⟨⟨item, hitem, hread, hkey⟩, _⟩
  · exact hkey
  · rw [← hkey, faithful item.2 entry.2 hread, hub.keyed item hitem]

theorem mem_retained {envelope : SequencedBrainEvent} :
    envelope ∈ hub.retained ↔ (envelope.sequence, envelope) ∈ hub.retainedMap.entries := by
  simp only [retained, SortedMap.values, List.mem_map]
  constructor
  · rintro ⟨entry, hentry, rfl⟩
    rw [key_retainedMap hentry]
    exact hentry
  · exact fun h => ⟨_, h, rfl⟩

theorem retained_of_live {envelope : SequencedBrainEvent} (h : envelope ∈ hub.history.events) :
    envelope ∈ hub.retained :=
  mem_retained.mpr (mem_retainedMap.mpr (.inl ⟨h, rfl⟩))

theorem inOrder_retained : InOrder hub.retained := by
  rw [InOrder, retained, SortedMap.values, List.pairwise_map]
  refine List.Pairwise.imp_of_mem ?_ hub.retainedMap.ascending
  intro a b ha hb hlt
  rw [key_retainedMap ha, key_retainedMap hb]
  exact hlt

theorem above_zero : hub.above 0 = hub.retained := by
  rw [above, List.filter_eq_self]
  intro envelope hmem
  rcases mem_retainedMap.mp (mem_retained.mp hmem) with ⟨hlive, _⟩ | ⟨⟨item, hitem, _, hkey⟩, _⟩
  · simpa using hub.numbered.1 envelope hlive
  · have := hub.numbered.2 item hitem
    simp only at hkey
    simpa [hkey] using this

theorem retained_live (h : hub.index.entries = []) : hub.retained = hub.history.events := by
  refine inOrder_retained.eq_of_mem_iff hub.inOrder fun envelope => ?_
  rw [mem_retained, mem_retainedMap, h]
  simp

structure Synced (hub : RetainedHistory) (call : QueryCall) : Prop where
  ready : call.Ready
  live : ∀ envelope ∈ hub.history.events, call.nextCursor < envelope.sequence →
    envelope ∈ call.live
  copied : ∀ envelope ∈ call.live, envelope ∈ hub.history.events
  entries : ∀ entry ∈ call.durableEntries, (entry.sequence, entry) ∈ hub.index.entries
  due : ∀ item ∈ hub.index.entries, call.nextCursor < item.1 → call.Due item.1

variable {call rest : QueryCall} {envelope : SequencedBrainEvent} {tMs : Nat}

theorem synced_open (query : BrainEventQuery) :
    hub.Synced (QueryCall.open hub.config hub.hasDurable hub.history query) where
  ready := QueryCall.ready_open hub.inOrder
  live envelope hmem habove := by
    simp only [QueryCall.open] at habove ⊢
    simp [hmem, habove]
  copied envelope hmem := (List.mem_filter.mp hmem).1
  entries := by simp [QueryCall.open]
  due item hitem habove := by
    refine .inr (.inr ⟨?_, habove⟩)
    cases hdurable : hub.hasDurable with
    | true => simp [QueryCall.open]
    | false => simp [hub.undurable hdurable] at hitem

theorem Synced.due_retained (h : hub.Synced call) (hmem : envelope ∈ hub.retained)
    (habove : call.nextCursor < envelope.sequence) : call.Due envelope.sequence := by
  rcases mem_retainedMap.mp (mem_retained.mp hmem) with ⟨hlive, _⟩ | ⟨⟨item, hitem, _, hkey⟩, _⟩
  · exact .inl ⟨envelope, h.live envelope hlive habove, rfl⟩
  · simp only at hkey
    rw [← hkey] at habove ⊢
    exact h.due item hitem habove

theorem Synced.takePage (h : hub.Synced call) (hneeds : call.needsPage = true) :
    hub.Synced (call.takePage hub.index) where
  ready := h.ready.takePage hneeds hub.keyed
  live := h.live
  copied := h.copied
  entries entry hentry := by
    simp only [QueryCall.takePage, List.mem_append] at hentry
    rcases hentry with hentry | hentry
    · exact h.entries entry hentry
    · exact (mem_page hub.keyed hentry).1
  due item hitem habove :=
    (h.due item hitem habove).takePage hneeds hub.keyed
      (.inl (SortedMap.contains_iff.mpr ⟨item.2, hitem⟩))

theorem Synced.takes (h : hub.Synced call) (tMs : Nat) (hneeds : call.needsPage = false)
    (htakes : Takes hub.read call envelope rest) :
    hub.Synced (rest.look tMs envelope) ∧
      hub.above call.nextCursor = envelope :: hub.above envelope.sequence := by
  obtain ⟨hnext, hready⟩ := h.ready.takes tMs faithful hneeds htakes
  have hdue : ∀ {sequence}, call.Due sequence →
      envelope.sequence = sequence ∨ (rest.look tMs envelope).Due sequence :=
    fun hdue => hdue.takes tMs faithful htakes
  have hretained : envelope ∈ hub.retained := by
    cases htakes with
    | @live live hlive _ => exact retained_of_live (h.copied envelope (by simp [hlive]))
    | @both live entry entries hlive _ _ =>
      exact retained_of_live (h.copied envelope (by simp [hlive]))
    | @durable entry entries hentries hfirst hread =>
      have hsequence := faithful entry envelope hread
      have hitem := h.entries entry (by simp [hentries])
      refine mem_retained.mpr (mem_retainedMap.mpr (.inr ⟨⟨_, hitem, hread, hsequence.symm⟩, ?_⟩))
      intro live hmem heq
      simp only at heq
      have hcopied := h.live live hmem (heq ▸ hnext)
      cases hlive : call.live with
      | nil => simp [hlive] at hcopied
      | cons first live' =>
        have hlt : entry.sequence < first.sequence := hfirst first (by simp [hlive])
        rw [hlive] at hcopied
        rcases List.mem_cons.mp hcopied with rfl | hlater
        · omega
        · have := (h.ready.liveFrom hlive).2 live hlater
          omega
  have hsame : ∀ other ∈ hub.retained, call.nextCursor < other.sequence →
      envelope.sequence ≤ other.sequence := by
    intro other hother habove
    rcases hdue (h.due_retained hother habove) with heq | hlater
    · exact heq.le
    · exact (hready.due_above hlater).le
  refine ⟨{ ready := hready, live := ?_, copied := ?_, entries := ?_, due := ?_ },
    inOrder_retained.filter_above hretained hnext hsame⟩
  · intro other hother habove
    have hcopied := h.live other hother (hnext.trans habove)
    cases htakes with
    | @live live hlive _ =>
      rw [hlive] at hcopied
      rcases List.mem_cons.mp hcopied with rfl | hmem
      · exact absurd habove (lt_irrefl _)
      · exact hmem
    | @both live entry entries hlive _ _ =>
      rw [hlive] at hcopied
      rcases List.mem_cons.mp hcopied with rfl | hmem
      · exact absurd habove (lt_irrefl _)
      · exact hmem
    | durable _ _ _ => exact hcopied
  · intro other hother
    refine h.copied other ?_
    cases htakes with
    | @live live hlive _ => rw [hlive]; exact List.mem_cons_of_mem _ hother
    | @both live entry entries hlive _ _ => rw [hlive]; exact List.mem_cons_of_mem _ hother
    | durable _ _ _ => exact hother
  · intro other hother
    refine h.entries other ?_
    cases htakes with
    | live _ _ => exact hother
    | @both live entry entries _ hentries _ => rw [hentries]; exact List.mem_cons_of_mem _ hother
    | @durable entry entries hentries _ _ => rw [hentries]; exact List.mem_cons_of_mem _ hother
  · intro item hitem habove
    rcases hdue (h.due item hitem (hnext.trans habove)) with heq | hlater
    · exact absurd heq habove.ne
    · exact hlater

/-- Fetches that can still come before the next event. -/
def pagesLeft (call : QueryCall) : Nat :=
  if call.durableExhausted then 0 else if call.durableEntries.isEmpty then 2 else 1

theorem pagesLeft_look (tMs : Nat) (htakes : Takes hub.read call envelope rest) :
    pagesLeft (rest.look tMs envelope) ≤ pagesLeft call + 1 := by
  have hsame : rest.durableExhausted = call.durableExhausted := by cases htakes <;> rfl
  simp only [pagesLeft, QueryCall.look, hsame]
  grind

theorem pagesLeft_takePage (hneeds : call.needsPage = true) :
    pagesLeft (call.takePage hub.index) < pagesLeft call := by
  simp only [QueryCall.needsPage, Bool.and_eq_true, List.isEmpty_iff, Bool.not_eq_true'] at hneeds
  cases hpage : (indexPageAfter hub.index call.durableCursor 256).isEmpty <;>
    simp_all [pagesLeft, QueryCall.takePage]

theorem run_spec (tMs : Nat) (h : hub.Synced call) (hlimit : call.matched < call.limit) {fuel : Nat}
    (hfuel : 2 * (hub.above call.nextCursor).length + pagesLeft call < fuel) :
    ∃ final, hub.run tMs fuel call = .finished final ∧
      final.records = call.records ++ render tMs call.replacements call.query call.expected
        (takeWanted (fun envelope => call.query.matchesEvent envelope.event)
          (call.limit - call.matched) (hub.above call.nextCursor)) ∧
      final.nextCursor = cursorAfter call.nextCursor
        (takeWanted (fun envelope => call.query.matchesEvent envelope.event)
          (call.limit - call.matched) (hub.above call.nextCursor)) := by
  induction fuel generalizing call with
  | zero => omega
  | succ fuel ih =>
    obtain ⟨left, hleft⟩ : ∃ left, call.limit - call.matched = left + 1 :=
      ⟨call.limit - call.matched - 1, by omega⟩
    have hturns := call.turns tMs hub.index hub.read
    rw [run]
    cases hturn : call.turn tMs hub.index hub.read with
    | failed message =>
      rw [hturn] at hturns
      cases hturns with
      | failed hentry hread _ =>
        obtain ⟨envelope, hok, _⟩ := read_item (h.entries _ hentry)
        rw [hread] at hok
        cases hok
    | going after =>
      rw [hturn] at hturns
      cases hturns with
      | page hneeds =>
        have hpages := @pagesLeft_takePage hub _ hneeds
        exact ih (h.takePage hneeds) hlimit (by
          simp only [QueryCall.takePage] at hpages ⊢
          omega)
      | @going hneeds envelope rest htakes hmore =>
        obtain ⟨hsynced, habove⟩ := h.takes tMs hneeds htakes
        obtain ⟨hquery, hlimit', hreplacements, hrecords, hexpected, hmatched⟩ :=
          QueryCall.takes_same htakes
        have hpages := pagesLeft_look tMs htakes
        rw [habove, List.length_cons] at hfuel
        obtain ⟨final, hrun, hfinal, hcursor⟩ := ih hsynced (by
          simp only [QueryCall.look, hquery, hlimit', hmatched]
          split
          · exact hmore (by assumption)
          · exact hlimit) (by
          simp only [QueryCall.look] at hpages ⊢
          omega)
        have hwanted : (if call.query.matchesEvent envelope.event then left else left + 1) =
            call.limit - (call.matched + if call.query.matchesEvent envelope.event then 1 else 0) := by
          split <;> omega
        refine ⟨final, hrun, ?_, ?_⟩
        · rw [hfinal, habove, hleft, takeWanted, hwanted, render]
          simp only [QueryCall.look, hquery, hlimit', hreplacements, hrecords, hexpected, hmatched,
            List.append_assoc]
        · rw [hcursor, habove, hleft, takeWanted, hwanted, cursorAfter_cons]
          simp only [QueryCall.look, hquery, hlimit', hmatched]
    | finished after =>
      rw [hturn] at hturns
      cases hturns with
      | ended hlive hentries hexhausted =>
        have hnone : hub.above call.nextCursor = [] := by
          rw [above, List.filter_eq_nil_iff]
          intro envelope hmem habove
          exact QueryCall.not_due_of_ended hlive hentries hexhausted
            (h.due_retained hmem (by simpa using habove))
        refine ⟨call, rfl, ?_, ?_⟩
        · simp [hnone, hleft, takeWanted, render]
        · simp [hnone, hleft, takeWanted]
      | @full hneeds envelope rest htakes hmatches hfull =>
        obtain ⟨_, habove⟩ := h.takes tMs hneeds htakes
        obtain ⟨hquery, hlimit', hreplacements, hrecords, hexpected, hmatched⟩ :=
          QueryCall.takes_same htakes
        have hzero : left = 0 := by omega
        refine ⟨rest.look tMs envelope, rfl, ?_, ?_⟩
        · rw [habove, hleft, takeWanted, if_pos hmatches, hzero]
          simp only [QueryCall.look, hquery, hreplacements, hrecords, hexpected, takeWanted, render,
            List.append_assoc, List.append_nil]
        · rw [habove, hleft, takeWanted, if_pos hmatches, hzero, cursorAfter_cons]
          simp [QueryCall.look, takeWanted]

/-- The events a query with these bounds looks at. -/
def looked (query : BrainEventQuery) : List SequencedBrainEvent :=
  takeWanted (fun envelope => query.matchesEvent envelope.event)
    (query.limit.getD hub.config.defaultQueryLimit) (hub.above (query.afterSequence.getD 0))

theorem length_retained :
    hub.retained.length ≤ hub.history.events.length + hub.index.entries.length := by
  have hindexed : hub.indexed.length ≤ hub.index.entries.length := List.length_filterMap_le ..
  have hstored := SortedMap.length_insertAll_le SortedMap.empty hub.indexed
  have hall := SortedMap.length_insertAll_le (SortedMap.empty.insertAll hub.indexed)
    (hub.history.events.map fun envelope => (envelope.sequence, envelope))
  simp only [List.length_map, SortedMap.entries_empty, List.length_nil] at hstored hall
  simp only [retained, SortedMap.values, retainedMap, List.length_map]
  omega

theorem query_spec {query : BrainEventQuery}
    (hvalid : query.validate hub.config.maxQueryLimit = .ok ()) :
    hub.query tMs query = .ok {
      records := render tMs hub.history.replacements query (query.afterSequence.getD 0 + 1)
        (hub.looked query)
      nextCursor := cursorAfter (query.afterSequence.getD 0) (hub.looked query)
      newestSequence := hub.history.events.getLast?.map SequencedBrainEvent.sequence } := by
  have hlimit : 0 < query.limit.getD hub.config.defaultQueryLimit := by
    have := BrainEventQuery.limit_ne_zero hvalid
    cases hquery : query.limit with
    | none => exact hub.limited
    | some limit =>
      rw [Option.getD_some]
      exact Nat.pos_of_ne_zero fun heq => this (by rw [hquery, heq])
  have hfuel : 2 * (hub.above (query.afterSequence.getD 0)).length +
      pagesLeft (QueryCall.open hub.config hub.hasDurable hub.history query) < hub.turnsEnough := by
    have habove : (hub.above (query.afterSequence.getD 0)).length ≤ hub.retained.length :=
      List.length_filter_le ..
    have hretained := hub.length_retained
    have hpages : pagesLeft (QueryCall.open hub.config hub.hasDurable hub.history query) ≤ 2 := by
      simp only [pagesLeft]
      grind
    rw [turnsEnough]
    omega
  obtain ⟨final, hrun, hrecords, hcursor⟩ := run_spec tMs (synced_open query) hlimit hfuel
  simp only [RetainedHistory.query, hvalid, hrun, QueryCall.response, hrecords, hcursor]
  rfl

theorem query_refused {query : BrainEventQuery} {message : String}
    (hinvalid : query.validate hub.config.maxQueryLimit = .error message) :
    hub.query tMs query = .error message := by
  simp [RetainedHistory.query, hinvalid]

end RetainedHistory

end Netherwick.Observatory
