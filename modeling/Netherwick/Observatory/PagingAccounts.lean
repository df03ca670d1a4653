import Netherwick.Observatory.Paging

/-! # What a query accounts for

Along every turn of a query, whatever the hub does in between, each number between the cursors was
either looked at once or lies in one gap record, and an event that stays within reach of the query
is not passed over. -/

namespace Netherwick.Observatory

open Netherwick.Lib

/-- Every entry is filed under its own sequence number. -/
def Keyed (index : DurableIndex) : Prop := ∀ item ∈ index.entries, item.2.sequence = item.1

def Faithful (read : DurableBrainEventIndexEntry → Except String SequencedBrainEvent) : Prop :=
  ∀ entry envelope, read entry = .ok envelope → envelope.sequence = entry.sequence

theorem keyed_empty : Keyed SortedMap.empty := by
  simp [Keyed]

theorem Keyed.insert {index : DurableIndex} {entry : DurableBrainEventIndexEntry}
    (h : Keyed index) : Keyed (index.insert entry.sequence entry) := by
  intro item hitem
  rcases SortedMap.mem_insert.mp hitem with rfl | ⟨hmem, _⟩
  · rfl
  · exact h item hmem

section Page

variable {index : DurableIndex} {cursor limit : Nat}

theorem ordered_above (hkeyed : Keyed index) :
    ((index.above cursor).map Prod.snd).Pairwise fun a b => a.sequence < b.sequence := by
  rw [List.pairwise_map]
  refine List.Pairwise.imp_of_mem ?_ (index.ascending_above cursor)
  intro a b ha hb hlt
  rw [hkeyed a (SortedMap.mem_above.mp ha).1, hkeyed b (SortedMap.mem_above.mp hb).1]
  exact hlt

theorem ordered_page (hkeyed : Keyed index) :
    (indexPageAfter index cursor limit).Pairwise fun a b => a.sequence < b.sequence :=
  (ordered_above hkeyed).sublist (List.take_sublist _ _)

theorem mem_page {entry : DurableBrainEventIndexEntry} (hkeyed : Keyed index)
    (h : entry ∈ indexPageAfter index cursor limit) :
    (entry.sequence, entry) ∈ index.entries ∧ cursor < entry.sequence := by
  obtain ⟨item, hitem, rfl⟩ := List.mem_map.mp (List.mem_of_mem_take h)
  obtain ⟨hmem, habove⟩ := SortedMap.mem_above.mp hitem
  rw [hkeyed item hmem]
  exact ⟨hmem, habove⟩

theorem page_complete {last : DurableBrainEventIndexEntry} (hkeyed : Keyed index)
    (hlast : (indexPageAfter index cursor limit).getLast? = some last) :
    (∀ entry ∈ indexPageAfter index cursor limit, entry.sequence ≤ last.sequence) ∧
      ∀ sequence, index.contains sequence = true → cursor < sequence →
        sequence ≤ last.sequence →
        ∃ entry ∈ indexPageAfter index cursor limit, entry.sequence = sequence := by
  have hordered := @ordered_above _ cursor hkeyed
  have hsplit : indexPageAfter index cursor limit ++
      ((index.above cursor).map Prod.snd).drop (max limit 1) =
        (index.above cursor).map Prod.snd := List.take_append_drop ..
  obtain ⟨front, hfront⟩ := List.getLast?_eq_some_iff.mp hlast
  rw [← hsplit, List.pairwise_append, hfront, List.pairwise_append] at hordered
  constructor
  · intro entry hentry
    rw [hfront] at hentry
    rcases List.mem_append.mp hentry with h | h
    · exact (hordered.1.2.2 entry h last (by simp)).le
    · simp only [List.mem_singleton] at h
      rw [h]
  · intro sequence hcontains hcursor hle
    obtain ⟨entry, hentry⟩ := SortedMap.contains_iff.mp hcontains
    have hsequence : entry.sequence = sequence := hkeyed _ hentry
    have hmem : entry ∈ (index.above cursor).map Prod.snd :=
      List.mem_map.mpr ⟨_, SortedMap.mem_above.mpr ⟨hentry, hcursor⟩, rfl⟩
    rw [← hsplit] at hmem
    rcases List.mem_append.mp hmem with h | h
    · exact ⟨entry, h, hsequence⟩
    · have := hordered.2.2 last (by simp) entry h
      omega

theorem page_eq_nil (h : indexPageAfter index cursor limit = []) {sequence : Nat}
    (hcursor : cursor < sequence) : index.contains sequence = false := by
  by_contra hcontains
  obtain ⟨entry, hentry⟩ := SortedMap.contains_iff.mp (by simpa using hcontains)
  have hmem : entry ∈ (index.above cursor).map Prod.snd :=
    List.mem_map.mpr ⟨_, SortedMap.mem_above.mpr ⟨hentry, hcursor⟩, rfl⟩
  have hnil : (index.above cursor).map Prod.snd = [] := by
    rw [indexPageAfter, List.take_eq_nil_iff] at h
    rcases h with h | h
    · omega
    · exact h
  simp [hnil] at hmem

end Page

section Number

variable {query : BrainEventQuery} {examined : List SequencedBrainEvent}

theorem countP_split (events : List SequencedBrainEvent) (number : Nat) :
    events.countP (fun envelope => envelope.sequence = number) =
      events.countP (fun envelope =>
        envelope.sequence = number && query.matchesEvent envelope.event)
      + events.countP (fun envelope =>
        envelope.sequence = number && !query.matchesEvent envelope.event) := by
  induction events with
  | nil => rfl
  | cons first rest ih =>
    by_cases hnumber : first.sequence = number <;>
      cases hmatches : query.matchesEvent first.event <;>
        simp [hnumber, hmatches, ih] <;> omega

theorem accounted_once {number delivered gaps : Nat}
    (hdelivered : delivered = examined.countP fun envelope =>
      envelope.sequence = number && query.matchesEvent envelope.event)
    (honce : gaps + examined.countP (fun envelope => envelope.sequence = number) = 1) :
    (delivered = 1 ∧ gaps = 0 ∧ ∃ envelope ∈ examined, envelope.sequence = number ∧
        query.matchesEvent envelope.event = true) ∨
      (delivered = 0 ∧ gaps = 0 ∧ ∃ envelope ∈ examined, envelope.sequence = number ∧
        query.matchesEvent envelope.event = false) ∨
      (delivered = 0 ∧ gaps = 1) := by
  rw [@countP_split query examined number, ← hdelivered] at honce
  rcases Nat.eq_zero_or_pos delivered with hnone | hsome
  · rcases Nat.eq_zero_or_pos gaps with hgap | hgap
    · obtain ⟨envelope, hmem, hboth⟩ := List.countP_pos_iff.mp (show 0 < examined.countP
        (fun envelope => envelope.sequence = number && !query.matchesEvent envelope.event) by omega)
      simp only [Bool.and_eq_true, decide_eq_true_eq, Bool.not_eq_true'] at hboth
      exact .inr (.inl ⟨hnone, hgap, envelope, hmem, hboth⟩)
    · exact .inr (.inr ⟨hnone, by omega⟩)
  · have hcount := hsome
    rw [hdelivered] at hcount
    obtain ⟨envelope, hmem, hboth⟩ := List.countP_pos_iff.mp hcount
    simp only [Bool.and_eq_true, decide_eq_true_eq] at hboth
    exact .inl ⟨by omega, by omega, envelope, hmem, hboth⟩

end Number

namespace QueryCall

/-- The merge goes on above the cursor. -/
structure Ready (call : QueryCall) : Prop where
  liveOrder : InOrder call.live
  liveAbove : ∀ envelope ∈ call.live, call.nextCursor < envelope.sequence
  entriesOrder : call.durableEntries.Pairwise fun a b => a.sequence < b.sequence
  entriesAbove : ∀ entry ∈ call.durableEntries,
    call.nextCursor < entry.sequence ∧ entry.sequence ≤ call.durableCursor
  pagesAbove : call.durableExhausted = false → call.nextCursor ≤ call.durableCursor
  exhausted : call.durableExhausted = true → call.durableEntries = []

/-- Each number up to the cursor was looked at or lies in a gap, once. -/
structure Accounts (start : Nat) (examined : List SequencedBrainEvent) (call : QueryCall) :
    Prop where
  start_le : start ≤ call.nextCursor
  expected : call.expected = call.nextCursor + 1
  order : InOrder examined
  matched : call.matched = examined.countP fun envelope => call.query.matchesEvent envelope.event
  delivered : ∀ number, deliveries number call.records =
    examined.countP fun envelope =>
      envelope.sequence = number && call.query.matchesEvent envelope.event
  once : ∀ number,
    gapsAt number call.records + examined.countP (fun envelope => envelope.sequence = number) =
      if start < number ∧ number ≤ call.nextCursor then 1 else 0

/-- The query will still come to the number: it is copied, fetched or yet to be fetched. -/
def Due (call : QueryCall) (sequence : Nat) : Prop :=
  (∃ envelope ∈ call.live, envelope.sequence = sequence) ∨
    (∃ entry ∈ call.durableEntries, entry.sequence = sequence) ∨
    (call.durableExhausted = false ∧ call.durableCursor < sequence)

variable {call rest : QueryCall} {start tMs : Nat} {examined : List SequencedBrainEvent}
variable {envelope : SequencedBrainEvent} {index : DurableIndex}
variable {read : DurableBrainEventIndexEntry → Except String SequencedBrainEvent}

theorem ready_open {config : BrainEventHubConfig} {hasDurable : Bool} {history : HistoryState}
    {query : BrainEventQuery} (horder : InOrder history.events) :
    (QueryCall.open config hasDurable history query).Ready where
  liveOrder := horder.sublist List.filter_sublist
  liveAbove envelope h := by simpa [QueryCall.open] using (List.mem_filter.mp h).2
  entriesOrder := List.Pairwise.nil
  entriesAbove := by simp [QueryCall.open]
  pagesAbove _ := le_rfl
  exhausted _ := rfl

theorem accounts_open {config : BrainEventHubConfig} {hasDurable : Bool} {history : HistoryState}
    {query : BrainEventQuery} :
    (QueryCall.open config hasDurable history query).Accounts (query.afterSequence.getD 0) [] where
  start_le := le_rfl
  expected := rfl
  order := List.Pairwise.nil
  matched := rfl
  delivered _ := rfl
  once number := by
    have : ¬ (query.afterSequence.getD 0 < number ∧ number ≤ query.afterSequence.getD 0) := by
      omega
    simp [QueryCall.open, this]

theorem Ready.takePage (h : call.Ready) (hneeds : call.needsPage = true) (hkeyed : Keyed index) :
    (call.takePage index).Ready := by
  simp only [needsPage, Bool.and_eq_true, List.isEmpty_iff, Bool.not_eq_true'] at hneeds
  have hpages := h.pagesAbove hneeds.2
  refine { h with entriesOrder := ?_, entriesAbove := ?_, pagesAbove := ?_, exhausted := ?_ }
  · simpa [QueryCall.takePage, hneeds.1] using ordered_page hkeyed
  · intro entry hentry
    simp only [QueryCall.takePage, hneeds.1, List.nil_append] at hentry ⊢
    have hmem := mem_page hkeyed hentry
    cases hlast : (indexPageAfter index call.durableCursor 256).getLast? with
    | none => simp [List.getLast?_eq_none_iff.mp hlast] at hentry
    | some last =>
      have hle := (page_complete hkeyed hlast).1 entry hentry
      exact ⟨by omega, hle⟩
  · intro hmore
    simp only [QueryCall.takePage] at hmore ⊢
    cases hlast : (indexPageAfter index call.durableCursor 256).getLast? with
    | none => exact hpages
    | some last =>
      have hmem := mem_page hkeyed (List.mem_of_getLast? hlast)
      simp only [Option.map_some, Option.getD_some]
      omega
  · intro hempty
    simpa [QueryCall.takePage, hneeds.1] using hempty

theorem Accounts.takePage (h : call.Accounts start examined) :
    (call.takePage index).Accounts start examined :=
  { h with }

theorem Due.takePage {sequence : Nat} (h : call.Due sequence) (hneeds : call.needsPage = true)
    (hkeyed : Keyed index)
    (hcontains : index.contains sequence = true ∨
      ∃ envelope ∈ call.live, envelope.sequence = sequence) :
    (call.takePage index).Due sequence := by
  simp only [needsPage, Bool.and_eq_true, List.isEmpty_iff, Bool.not_eq_true'] at hneeds
  rcases hcontains with hcontains | hlive
  · rcases h with h | ⟨entry, hentry, _⟩ | ⟨_, hcursor⟩
    · exact .inl h
    · simp [hneeds.1] at hentry
    · cases hlast : (indexPageAfter index call.durableCursor 256).getLast? with
      | none =>
        have := page_eq_nil (List.getLast?_eq_none_iff.mp hlast) hcursor
        simp [hcontains] at this
      | some last =>
        have hne : (indexPageAfter index call.durableCursor 256).isEmpty = false := by
          rw [List.isEmpty_eq_false_iff]
          intro hnil
          simp [hnil] at hlast
        by_cases hle : sequence ≤ last.sequence
        · obtain ⟨entry, hentry, hsequence⟩ := (page_complete hkeyed hlast).2 _ hcontains hcursor hle
          exact .inr (.inl ⟨entry, by simp [QueryCall.takePage, hentry], hsequence⟩)
        · refine .inr (.inr ⟨hne, ?_⟩)
          simp only [QueryCall.takePage, hlast, Option.map_some, Option.getD_some]
          omega
  · exact .inl hlive

theorem Ready.entriesFrom {entry : DurableBrainEventIndexEntry}
    {entries : List DurableBrainEventIndexEntry} (h : call.Ready)
    (hentries : call.durableEntries = entry :: entries) :
    entries.Pairwise (fun a b => a.sequence < b.sequence) ∧
      ∀ later ∈ entries, entry.sequence < later.sequence ∧ later.sequence ≤ call.durableCursor := by
  have hordered := h.entriesOrder
  have habove := h.entriesAbove
  rw [hentries] at hordered habove
  rw [List.pairwise_cons] at hordered
  exact ⟨hordered.2, fun later hlater =>
    ⟨hordered.1 later hlater, (habove later (by simp [hlater])).2⟩⟩

theorem Ready.liveFrom {first : SequencedBrainEvent} {live : List SequencedBrainEvent}
    (h : call.Ready) (hlive : call.live = first :: live) :
    InOrder live ∧ ∀ later ∈ live, first.sequence < later.sequence := by
  have hordered := h.liveOrder
  rw [hlive, InOrder, List.pairwise_cons] at hordered
  exact ⟨hordered.2, hordered.1⟩

theorem Ready.takes (h : call.Ready) (tMs : Nat) (hread : Faithful read) (hneeds : call.needsPage = false)
    (htakes : Takes read call envelope rest) :
    call.nextCursor < envelope.sequence ∧ (rest.look tMs envelope).Ready := by
  cases htakes with
  | @live live hlive hfirst =>
    have hfrom := h.liveFrom hlive
    have hbelow : ∀ entry ∈ call.durableEntries, envelope.sequence < entry.sequence := by
      intro entry hentry
      cases hentries : call.durableEntries with
      | nil => simp [hentries] at hentry
      | cons first entries =>
        have hlt : envelope.sequence < first.sequence := hfirst first (by simp [hentries])
        rw [hentries] at hentry
        rcases List.mem_cons.mp hentry with rfl | hmem
        · exact hlt
        · exact hlt.trans ((h.entriesFrom hentries).2 entry hmem).1
    refine ⟨h.liveAbove envelope (by simp [hlive]), { h with
      liveOrder := hfrom.1
      liveAbove := hfrom.2
      entriesAbove := fun entry hentry => ⟨hbelow entry hentry, (h.entriesAbove entry hentry).2⟩
      pagesAbove := fun hmore => ?_ }⟩
    have hmore' : call.durableExhausted = false := hmore
    cases hentries : call.durableEntries with
    | nil => simp [needsPage, hentries, hmore'] at hneeds
    | cons entry entries =>
      have hentry : entry ∈ call.durableEntries := by simp [hentries]
      exact (hbelow entry hentry).le.trans (h.entriesAbove entry hentry).2
  | @both live entry entries hlive hentries hsame =>
    have hfrom := h.liveFrom hlive
    have hrest := h.entriesFrom hentries
    have hentry := h.entriesAbove entry (by simp [hentries])
    refine ⟨h.liveAbove envelope (by simp [hlive]), {
      liveOrder := hfrom.1
      liveAbove := hfrom.2
      entriesOrder := hrest.1
      entriesAbove := fun later hlater => 
        ⟨hsame.trans_lt (hrest.2 later hlater).1, (hrest.2 later hlater).2⟩
      pagesAbove := fun _ => hsame.trans_le hentry.2
      exhausted := fun hexhausted => ?_ }⟩
    simp [h.exhausted hexhausted] at hentries
  | @durable entry entries hentries hfirst hfound =>
    have hrest := h.entriesFrom hentries
    have hentry := h.entriesAbove entry (by simp [hentries])
    have hsame := hread entry envelope hfound
    refine ⟨hsame ▸ hentry.1, { h with
      liveAbove := fun later hlater => ?_
      entriesOrder := hrest.1
      entriesAbove := fun later hlater => 
        ⟨hsame.trans_lt (hrest.2 later hlater).1, (hrest.2 later hlater).2⟩
      pagesAbove := fun _ => hsame.trans_le hentry.2
      exhausted := fun hexhausted => ?_ }⟩
    · have hlater' : later ∈ call.live := hlater
      cases hlive : call.live with
      | nil => simp [hlive] at hlater'
      | cons first live =>
        have hlt : entry.sequence < first.sequence := hfirst first (by simp [hlive])
        rw [hlive] at hlater'
        rw [QueryCall.look, hsame]
        rcases List.mem_cons.mp hlater' with rfl | hmem
        · exact hlt
        · exact hlt.trans ((h.liveFrom hlive).2 later hmem)
    · simp [h.exhausted hexhausted] at hentries

theorem Accounts.range (h : call.Accounts start examined) (hmem : envelope ∈ examined) :
    start < envelope.sequence ∧ envelope.sequence ≤ call.nextCursor := by
  have honce := h.once envelope.sequence
  have hpos : 0 < examined.countP fun other => other.sequence = envelope.sequence :=
    List.countP_pos_iff.mpr ⟨envelope, hmem, by simp⟩
  by_contra hout
  rw [if_neg hout] at honce
  omega

theorem Accounts.outside (h : call.Accounts start examined) {number : Nat}
    (hout : number ≤ start ∨ call.nextCursor < number) :
    deliveries number call.records = 0 ∧ gapsAt number call.records = 0 := by
  have honce := h.once number
  rw [if_neg (by omega), @countP_split call.query examined number, ← h.delivered number] at honce
  omega

theorem Accounts.within (h : call.Accounts start examined) {number : Nat}
    (hstart : start < number) (hlast : number ≤ call.nextCursor) :
    (deliveries number call.records = 1 ∧ gapsAt number call.records = 0 ∧
        ∃ envelope ∈ examined, envelope.sequence = number ∧
          call.query.matchesEvent envelope.event = true) ∨
      (deliveries number call.records = 0 ∧ gapsAt number call.records = 0 ∧
        ∃ envelope ∈ examined, envelope.sequence = number ∧
          call.query.matchesEvent envelope.event = false) ∨
      (deliveries number call.records = 0 ∧ gapsAt number call.records = 1) := by
  have honce := h.once number
  rw [if_pos ⟨hstart, hlast⟩] at honce
  exact accounted_once (h.delivered number) honce

theorem Accounts.gapsAt_looked (h : call.Accounts start examined) (hmem : envelope ∈ examined) :
    gapsAt envelope.sequence call.records = 0 := by
  have honce := h.once envelope.sequence
  rw [if_pos (h.range hmem)] at honce
  have hpos : 0 < examined.countP fun other => other.sequence = envelope.sequence :=
    List.countP_pos_iff.mpr ⟨envelope, hmem, by simp⟩
  omega

theorem Accounts.look (h : call.Accounts start examined)
    (hnext : call.nextCursor < envelope.sequence) :
    (call.look tMs envelope).Accounts start (examined ++ [envelope]) where
  start_le := h.start_le.trans hnext.le
  expected := rfl
  order := by
    simp only [InOrder, List.pairwise_append, List.mem_singleton]
    refine ⟨h.order, List.pairwise_singleton .., ?_⟩
    rintro prior hprior _ rfl
    exact (h.range hprior).2.trans_lt hnext
  matched := by
    simp only [QueryCall.look, h.matched, List.countP_append, List.countP_cons, List.countP_nil,
      Nat.zero_add]
  delivered number := by
    have hgaps : deliveries number (if call.expected < envelope.sequence then
        historyDiscontinuities tMs call.replacements call.expected (envelope.sequence - 1)
        else []) = 0 := by
      split
      · exact deliveries_historyDiscontinuities ..
      · rfl
    simp only [QueryCall.look, deliveries_append, h.delivered number, hgaps, List.countP_append]
    cases hmatches : call.query.matchesEvent envelope.event <;>
      simp [hmatches, List.countP_cons]
  once number := by
    have hgaps : gapsAt number (if call.expected < envelope.sequence then
        historyDiscontinuities tMs call.replacements call.expected (envelope.sequence - 1)
        else []) = if call.expected ≤ number ∧ number ≤ envelope.sequence - 1 then 1 else 0 := by
      split
      · exact gapsAt_historyDiscontinuities ..
      · have : ¬ (call.expected ≤ number ∧ number ≤ envelope.sequence - 1) := by
          have := h.expected
          omega
        simp [this]
    have hevent : gapsAt number
        (if call.query.matchesEvent envelope.event then [.event envelope] else []) = 0 := by
      split <;> simp
    have honce := h.once number
    have hexpected := h.expected
    have hstart := h.start_le
    simp only [QueryCall.look, gapsAt_append, hgaps, hevent, List.countP_append, List.countP_cons,
      List.countP_nil, decide_eq_true_eq]
    grind

theorem Ready.due_above {sequence : Nat} (hready : call.Ready) (h : call.Due sequence) :
    call.nextCursor < sequence := by
  rcases h with ⟨envelope, hmem, rfl⟩ | ⟨entry, hmem, rfl⟩ | ⟨hmore, hcursor⟩
  · exact hready.liveAbove envelope hmem
  · exact (hready.entriesAbove entry hmem).1
  · exact (hready.pagesAbove hmore).trans_lt hcursor

theorem Due.takes {sequence : Nat} (h : call.Due sequence) (tMs : Nat) (hread : Faithful read)
    (htakes : Takes read call envelope rest) :
    envelope.sequence = sequence ∨ (rest.look tMs envelope).Due sequence := by
  cases htakes with
  | @live live hlive hfirst =>
    rcases h with ⟨other, hmem, hsequence⟩ | hentries | hpages
    · rw [hlive] at hmem
      rcases List.mem_cons.mp hmem with rfl | hmem
      · exact .inl hsequence
      · exact .inr (.inl ⟨other, hmem, hsequence⟩)
    · exact .inr (.inr (.inl hentries))
    · exact .inr (.inr (.inr hpages))
  | @both live entry entries hlive hentries hsame =>
    rcases h with ⟨other, hmem, hsequence⟩ | ⟨other, hmem, hsequence⟩ | hpages
    · rw [hlive] at hmem
      rcases List.mem_cons.mp hmem with rfl | hmem
      · exact .inl hsequence
      · exact .inr (.inl ⟨other, hmem, hsequence⟩)
    · rw [hentries] at hmem
      rcases List.mem_cons.mp hmem with rfl | hmem
      · exact .inl (hsame.trans hsequence)
      · exact .inr (.inr (.inl ⟨other, hmem, hsequence⟩))
    · exact .inr (.inr (.inr hpages))
  | @durable entry entries hentries hfirst hfound =>
    rcases h with hlive | ⟨other, hmem, hsequence⟩ | hpages
    · exact .inr (.inl hlive)
    · rw [hentries] at hmem
      rcases List.mem_cons.mp hmem with rfl | hmem
      · exact .inl ((hread other envelope hfound).trans hsequence)
      · exact .inr (.inr (.inl ⟨other, hmem, hsequence⟩))
    · exact .inr (.inr (.inr hpages))

theorem not_due_of_ended {sequence : Nat} (hlive : call.live = [])
    (hentries : call.durableEntries = []) (hexhausted : call.durableExhausted = true) :
    ¬ call.Due sequence := by
  simp [Due, hlive, hentries, hexhausted]

theorem takes_same (h : Takes read call envelope rest) :
    rest.query = call.query ∧ rest.limit = call.limit ∧ rest.replacements = call.replacements ∧
      rest.records = call.records ∧ rest.expected = call.expected ∧ rest.matched = call.matched := by
  cases h <;> exact ⟨rfl, rfl, rfl, rfl, rfl, rfl⟩

theorem Accounts.takes (h : call.Accounts start examined) (htakes : Takes read call envelope rest) :
    rest.Accounts start examined := by
  cases htakes <;> exact { h with }

theorem takes_found (h : Takes read call envelope rest) :
    (envelope ∈ call.live ∨ ∃ entry ∈ call.durableEntries, read entry = .ok envelope) ∧
      ∀ other ∈ rest.live, other ∈ call.live := by
  cases h with
  | @live live hlive _ =>
    refine ⟨.inl (by simp [hlive]), fun other hother => ?_⟩
    rw [hlive]
    exact List.mem_cons_of_mem _ hother
  | @both live entry entries hlive _ _ =>
    refine ⟨.inl (by simp [hlive]), fun other hother => ?_⟩
    rw [hlive]
    exact List.mem_cons_of_mem _ hother
  | @durable entry entries hentries _ hread =>
    exact ⟨.inr ⟨entry, by simp [hentries], hread⟩, fun other hother => hother⟩

/-- What a turn does to a call: it looks at more events, accounts for their numbers, and loses
nothing that was due and is still in reach. -/
structure Progress (start : Nat) (examined : List SequencedBrainEvent) (index : DurableIndex)
    (read : DurableBrainEventIndexEntry → Except String SequencedBrainEvent)
    (call after : QueryCall) (looked : List SequencedBrainEvent) : Prop where
  ready : after.Ready
  accounts : after.Accounts start (examined ++ looked)
  query : after.query = call.query
  limit : after.limit = call.limit
  replacements : after.replacements = call.replacements
  found : ∀ envelope ∈ looked,
    envelope ∈ call.live ∨ ∃ entry ∈ call.durableEntries, read entry = .ok envelope
  live : ∀ envelope ∈ after.live, envelope ∈ call.live
  reach : ∀ sequence, call.Due sequence →
    (index.contains sequence = true ∨ ∃ envelope ∈ call.live, envelope.sequence = sequence) →
    (∃ envelope ∈ looked, envelope.sequence = sequence) ∨ after.Due sequence

theorem progress_look (hready : call.Ready) (haccounts : call.Accounts start examined)
    (hread : Faithful read) (hneeds : call.needsPage = false)
    (htakes : Takes read call envelope rest) :
    Progress start examined index read call (rest.look tMs envelope) [envelope] := by
  obtain ⟨hnext, hready'⟩ := hready.takes tMs hread hneeds htakes
  have hcursor : rest.nextCursor = call.nextCursor := by cases htakes <;> rfl
  obtain ⟨hquery, hlimit, hreplacements, _⟩ := takes_same htakes
  obtain ⟨hfound, hlive⟩ := takes_found htakes
  exact {
    ready := hready'
    accounts := (haccounts.takes htakes).look (hcursor ▸ hnext)
    query := hquery
    limit := hlimit
    replacements := hreplacements
    found := by simpa using hfound
    live := hlive
    reach := fun sequence hdue _ => by simpa using hdue.takes tMs hread htakes }

theorem next_of_takes (h : Takes read call envelope rest) :
    call.next read = .ok (some (envelope, rest)) := by
  cases h with
  | @live live hlive hfirst =>
    cases hentries : call.durableEntries with
    | nil => simp [QueryCall.next, hlive, hentries]
    | cons entry entries =>
      have hlt : envelope.sequence < entry.sequence := hfirst entry (by simp [hentries])
      simp [QueryCall.next, hlive, hentries, hlt.le, hlt.ne]
  | @both live entry entries hlive hentries hsame =>
    simp [QueryCall.next, hlive, hentries, hsame]
  | @durable entry entries hentries hfirst hfound =>
    cases hlive : call.live with
    | nil => simp [QueryCall.next, hlive, hentries, hfound]
    | cons first live =>
      have hlt : ¬ first.sequence ≤ entry.sequence := by
        simpa using hfirst first (by simp [hlive])
      simp [QueryCall.next, hlive, hentries, hlt, hfound]

/-- The event that a turn looks at. -/
def taken (read : DurableBrainEventIndexEntry → Except String SequencedBrainEvent)
    (call : QueryCall) : List SequencedBrainEvent :=
  if call.needsPage then []
  else
    match call.next read with
    | .ok (some (envelope, _)) => [envelope]
    | _ => []

theorem taken_of_takes (hneeds : call.needsPage = false) (h : Takes read call envelope rest) :
    call.taken read = [envelope] := by
  simp [taken, hneeds, next_of_takes h]

theorem progress_turn (hready : call.Ready) (haccounts : call.Accounts start examined)
    (hkeyed : Keyed index) (hread : Faithful read) {after : QueryCall}
    (h : (call.turn tMs index read).call? = some after) :
    Progress start examined index read call after (call.taken read) := by
  have hturns := call.turns tMs index read
  cases hturn : call.turn tMs index read with
  | failed message => simp [hturn, QueryTurn.call?] at h
  | going found =>
    simp only [hturn, QueryTurn.call?, Option.some.injEq] at h
    subst h
    rw [hturn] at hturns
    cases hturns with
    | page hneeds =>
      have htaken : call.taken read = [] := by simp [taken, hneeds]
      rw [htaken]
      exact {
        ready := hready.takePage hneeds hkeyed
        accounts := by simpa using haccounts.takePage
        query := rfl
        limit := rfl
        replacements := rfl
        found := by simp
        live := fun other hother => hother
        reach := fun sequence hdue hreach => .inr (hdue.takePage hneeds hkeyed hreach) }
    | going hneeds htakes hmore =>
      exact taken_of_takes hneeds htakes ▸ progress_look hready haccounts hread hneeds htakes
  | finished found =>
    simp only [hturn, QueryTurn.call?, Option.some.injEq] at h
    subst h
    rw [hturn] at hturns
    cases hturns with
    | ended hlive hentries hexhausted =>
      have htaken : call.taken read = [] := by
        simp [taken, QueryCall.next, hlive, hentries]
      rw [htaken]
      exact {
        ready := hready
        accounts := by simpa using haccounts
        query := rfl
        limit := rfl
        replacements := rfl
        found := by simp
        live := fun other hother => hother
        reach := fun sequence hdue _ => .inr hdue }
    | full hneeds htakes hmatches hfull =>
      exact taken_of_takes hneeds htakes ▸ progress_look hready haccounts hread hneeds htakes

theorem turn_spec (hready : call.Ready) (haccounts : call.Accounts start examined)
    (hkeyed : Keyed index) (hread : Faithful read) {after : QueryCall}
    (h : (call.turn tMs index read).call? = some after) :
    ∃ looked, Progress start examined index read call after looked :=
  ⟨_, progress_turn hready haccounts hkeyed hread h⟩

/-- The number is copied or fetched, or the index has it and its page is yet to be fetched. -/
def Within (index : DurableIndex) (call : QueryCall) (sequence : Nat) : Prop :=
  (∃ envelope ∈ call.live, envelope.sequence = sequence) ∨
    (∃ entry ∈ call.durableEntries, entry.sequence = sequence) ∨
    (call.durableExhausted = false ∧ call.durableCursor < sequence ∧
      index.contains sequence = true)

theorem Within.due {sequence : Nat} (h : call.Within index sequence) : call.Due sequence :=
  h.imp id (Or.imp id fun hpages => ⟨hpages.1, hpages.2.1⟩)

theorem Within.of_due {sequence : Nat} (h : call.Due sequence)
    (hcontains : index.contains sequence = true) : call.Within index sequence :=
  h.imp id (Or.imp id fun hpages => ⟨hpages.1, hpages.2, hcontains⟩)

theorem Within.held {sequence : Nat} (h : call.Within index sequence)
    (hcontains : index.contains sequence = false) :
    ({ call with durableExhausted := true } : QueryCall).Due sequence := by
  rcases h with hlive | hentries | ⟨_, _, htrue⟩
  · exact .inl hlive
  · exact .inr (.inl hentries)
  · rw [hcontains] at htrue
    cases htrue

theorem Within.takes {sequence : Nat} (h : call.Within index sequence) (tMs : Nat)
    (hread : Faithful read) (htakes : Takes read call envelope rest) :
    envelope.sequence = sequence ∨ (rest.look tMs envelope).Within index sequence := by
  cases hcontains : index.contains sequence with
  | true => exact (h.due.takes tMs hread htakes).imp id fun hdue => .of_due hdue hcontains
  | false =>
    have hclosed : Takes read { call with durableExhausted := true } envelope
        { rest with durableExhausted := true } := by
      cases htakes with
      | live hlive hfirst => exact .live hlive hfirst
      | both hlive hentries hsame => exact .both hlive hentries hsame
      | durable hentries hfirst hfound => exact .durable hentries hfirst hfound
    refine ((h.held hcontains).takes tMs hread hclosed).imp id ?_
    rintro (hlive | hentries | ⟨hexhausted, _⟩)
    · exact .inl hlive
    · exact .inr (.inl hentries)
    · cases hexhausted

theorem Within.takePage {sequence : Nat} (h : call.Within index sequence)
    (hneeds : call.needsPage = true) (hkeyed : Keyed index) :
    (call.takePage index).Within index sequence := by
  rcases h with hlive | ⟨entry, hentry, _⟩ | hpages
  · exact .inl hlive
  · simp only [needsPage, Bool.and_eq_true, List.isEmpty_iff] at hneeds
    simp [hneeds.1] at hentry
  · have hdue : call.Due sequence := .inr (.inr ⟨hpages.1, hpages.2.1⟩)
    exact .of_due (hdue.takePage hneeds hkeyed (.inl hpages.2.2)) hpages.2.2

theorem Within.turn {sequence : Nat} (h : call.Within index sequence) (hkeyed : Keyed index)
    (hread : Faithful read) {after : QueryCall}
    (hturn : (call.turn tMs index read).call? = some after) :
    (∃ envelope ∈ call.taken read, envelope.sequence = sequence) ∨
      after.Within index sequence := by
  have hturns := call.turns tMs index read
  have hlook : ∀ {envelope rest}, call.needsPage = false → Takes read call envelope rest →
      (∃ found ∈ call.taken read, found.sequence = sequence) ∨
        (rest.look tMs envelope).Within index sequence := by
    intro envelope rest hneeds htakes
    rw [taken_of_takes hneeds htakes]
    exact (h.takes tMs hread htakes).imp (fun heq => ⟨envelope, by simp, heq⟩) id
  cases hresult : call.turn tMs index read with
  | failed message => simp [hresult, QueryTurn.call?] at hturn
  | going found =>
    simp only [hresult, QueryTurn.call?, Option.some.injEq] at hturn
    subst hturn
    rw [hresult] at hturns
    cases hturns with
    | page hneeds => exact .inr (h.takePage hneeds hkeyed)
    | going hneeds htakes _ => exact hlook hneeds htakes
  | finished found =>
    simp only [hresult, QueryTurn.call?, Option.some.injEq] at hturn
    subst hturn
    rw [hresult] at hturns
    cases hturns with
    | ended _ _ _ => exact .inr h
    | full hneeds htakes _ _ => exact hlook hneeds htakes

theorem finished_spec {after : QueryCall}
    (h : call.turn tMs index read = .finished after) :
    after.limit ≤ after.matched ∨ ∀ sequence, ¬ after.Due sequence := by
  have hturns := call.turns tMs index read
  rw [h] at hturns
  cases hturns with
  | ended hlive hentries hexhausted =>
    exact .inr fun sequence => not_due_of_ended hlive hentries hexhausted
  | full hneeds htakes hmatches hfull =>
    refine .inl ?_
    cases htakes <;> simp_all [QueryCall.look]

end QueryCall

end Netherwick.Observatory
