import Netherwick.Observatory.DurableRecovery
import Netherwick.Observatory.PagingAccounts

/-! # The order of the durable log

What holds of the files and the index wherever an append stops: the good lines stay in the order of
their numbers, an append brings no record but its own, and what the index loses is in no file. -/

namespace Netherwick.Observatory.DurableLog

open Netherwick.Lib

variable {Record : Type} {format : DurableFormat Record}
variable {log after : DurableLog Record} {record : Record} {number : Nat}

structure Ordered (format : DurableFormat Record) (log : DurableLog Record) : Prop where
  laid : AllLaid format log.files
  numbered : Numbered format (allFound format log.config log.files)
  bounded : ∀ record ∈ allFound format log.config log.files, format.sequence record ≤ log.newest
  keyed : Keyed log.index
  indexed : ∀ number, log.index.contains number = true → number ≤ log.newest

/-- No good line has the number. -/
def Unfound (format : DurableFormat Record) (log : DurableLog Record) (number : Nat) : Prop :=
  ∀ record ∈ allFound format log.config log.files, format.sequence record ≠ number

/-- An append's own record comes behind all others, and no other has its identity. -/
def Follows (format : DurableFormat Record) (log : DurableLog Record) (record : Record) : Prop :=
  ∀ other ∈ allFound format log.config log.files,
    format.sequence other < format.sequence record ∧ format.eventId other ≠ format.eventId record

/-- What an append has done, wherever it stopped. -/
structure Grown (format : DurableFormat Record) (log after : DurableLog Record)
    (record : Record) : Prop where
  config : after.config = log.config
  newest : after.newest = log.newest
  laid : AllLaid format after.files
  found : ∃ kept more, kept.Sublist (allFound format log.config log.files)
    ∧ (more = [] ∨ more = [record]) ∧ allFound format log.config after.files = kept ++ more
  index : after.index = log.index
    ∨ (∃ entry, entry.sequence = format.sequence record
      ∧ after.index = log.index.insert (format.sequence record) entry)
    ∨ after.index = (scanDurableHistory format log.config after.files).index

theorem Intact.ordered (h : Intact format log) (hkeyed : Keyed log.index)
    (hindexed : ∀ number, log.index.contains number = true → number ≤ log.newest) :
    Ordered format log where
  laid := h.laid
  numbered := h.numbered
  bounded record hrecord := (h.bounded record hrecord).1
  keyed := hkeyed
  indexed := hindexed

theorem ordered_fresh (config : BrainEventDurabilityConfig) : Ordered format (fresh config) :=
  (intact_fresh config).ordered keyed_empty
    (by simp [fresh, SortedMap.contains, SortedMap.empty])

theorem grown_write (h : AllLaid format log.files) (count : Nat) (acknowledged : List Record) :
    Grown format log (log.write ((format.line record).take count) acknowledged) record := by
  obtain ⟨rest, hlaid⟩ := h 0
  obtain ⟨more, rest', hmore, hpart⟩ := hlaid.append_part record count
  exact
    { config := rfl
      newest := rfl
      laid := AllLaid.write h hpart
      found := ⟨_, more, List.Sublist.refl _, hmore, allFound_write hpart⟩
      index := .inl rfl }

theorem grown_line (h : AllLaid format log.files) (acknowledged : List Record) :
    Grown format log (log.write (format.line record) acknowledged) record := by
  simpa only [List.take_length] using
    @grown_write _ format log record h (format.line record).length acknowledged

theorem Grown.reindexed (h : Grown format log after record) (rotated : Bool) (offset : Nat)
    (hindex : after.index = log.index) :
    Grown format log (after.reindexed format rotated offset record) record :=
  { config := h.config
    newest := h.newest
    laid := h.laid
    found := h.found
    index := by
      cases rotated with
      | true => exact .inr (.inr (by simp [DurableLog.reindexed, h.config]))
      | false => exact .inr (.inl ⟨_, rfl, by simp only [DurableLog.reindexed, hindex]; rfl⟩) }

theorem grown_appendLine (h : AllLaid format log.files) (rotated : Bool)
    (fault : Option AppendFault) :
    Grown format log (log.appendLine format rotated record fault).1 record := by
  have hline := fun acknowledged => @grown_line _ format log record h acknowledged
  have hindexed := fun acknowledged =>
    (hline acknowledged).reindexed rotated (log.files.bytes 0).length rfl
  have hsame : Grown format log log record :=
    { config := rfl
      newest := rfl
      laid := h
      found := ⟨_, [], List.Sublist.refl _, .inl rfl, (List.append_nil _).symm⟩
      index := .inl rfl }
  cases fault with
  | none => exact hindexed [record]
  | some fault =>
    cases fault with
    | rotation completed => exact hindexed [record]
    | opening => exact hsame
    | write count => exact grown_write h count []
    | persist => exact hindexed []
    | rescan =>
      cases rotated with
      | true => exact hline []
      | false => exact hindexed [record]

theorem Grown.of_moved {files : DurableFiles Record}
    (h : Grown format { log with files := files } after record)
    (hmoved : Moved format log.config log.files files) : Grown format log after record :=
  { h with
    found := by
      obtain ⟨kept, more, hkept, hmore, hfound⟩ := h.found
      exact ⟨kept, more, hkept.trans hmoved.sublist, hmore, hfound⟩ }

theorem Ordered.grown (h : Ordered format log) (fault : Option AppendFault) :
    Grown format log (log.appendDurableRecord format record fault).1 record := by
  have hplain := fun fault => @grown_appendLine _ format log record h.laid false fault
  have hrotated : ∀ fault, Grown format log ((log.rotated
      (rotateDurableHistory log.config).length).appendLine format true record fault).1 record := by
    intro fault
    have hmoved := @moved_rotated _ format log (rotateDurableHistory log.config).length
    exact (grown_appendLine (AllLaid.moved h.laid hmoved) true fault).of_moved hmoved
  cases hrotates : log.rotates format record with
  | false =>
    simp only [appendDurableRecord, hrotates, Bool.false_eq_true, if_false]
    exact hplain fault
  | true =>
    simp only [appendDurableRecord, hrotates, if_true]
    cases fault with
    | none => exact hrotated none
    | some fault =>
      cases fault with
      | rotation completed =>
        have hmoved := @moved_rotated _ format log completed
        exact
          { config := rfl
            newest := rfl
            laid := AllLaid.moved h.laid hmoved
            found := ⟨_, [], hmoved.sublist, .inl rfl, (List.append_nil _).symm⟩
            index := .inl rfl }
      | opening => exact hrotated (some .opening)
      | write count => exact hrotated (some (.write count))
      | rescan => exact hrotated (some .rescan)
      | persist => exact hrotated (some .persist)

theorem Grown.numbered (h : Grown format log after record) (hordered : Ordered format log)
    (hfollows : Follows format log record) :
    Numbered format (allFound format log.config after.files) := by
  obtain ⟨kept, more, hkept, hmore, hfound⟩ := h.found
  rw [hfound]
  exact (hordered.numbered.sublist hkept).append hmore fun other hother =>
    hfollows other (hkept.mem hother)

theorem Grown.taken (h : Grown format log after record) (hordered : Ordered format log)
    (hfollows : Follows format log record) :
    Taken format after.files (allFound format log.config after.files)
      (scanDurableHistory format log.config after.files) :=
  taken_scan h.laid (h.numbered hordered hfollows)

theorem Grown.ordered (h : Grown format log after record) (hordered : Ordered format log)
    (hfollows : Follows format log record) (hnewest : format.sequence record ≤ log.newest) :
    Ordered format after := by
  have hbounded : ∀ other ∈ allFound format log.config after.files,
      format.sequence other ≤ log.newest := by
    obtain ⟨kept, more, hkept, hmore, hfound⟩ := h.found
    rw [hfound]
    intro other hother
    obtain hold | hnew := List.mem_append.mp hother
    · exact hordered.bounded other (hkept.mem hold)
    · obtain rfl | rfl := hmore
      · cases hnew
      · exact List.mem_singleton.mp hnew ▸ hnewest
  have htaken := h.taken hordered hfollows
  refine
    { laid := h.laid
      numbered := h.config ▸ h.numbered hordered hfollows
      bounded := by rwa [h.config, h.newest]
      keyed := ?_
      indexed := ?_ }
  · obtain hsame | ⟨entry, hentry, hinsert⟩ | hscan := h.index
    · exact hsame ▸ hordered.keyed
    · intro item hitem
      rw [hinsert] at hitem
      obtain rfl | ⟨hold, -⟩ := SortedMap.mem_insert.mp hitem
      · exact hentry
      · exact hordered.keyed item hold
    · intro item hitem
      rw [hscan] at hitem
      obtain ⟨other, -, hkey, hsequence, -⟩ := htaken.placed item hitem
      rw [hkey, hsequence]
  · intro number hcontains
    rw [h.newest]
    obtain hsame | ⟨entry, hentry, hinsert⟩ | hscan := h.index
    · exact hordered.indexed number (hsame ▸ hcontains)
    · rw [hinsert] at hcontains
      obtain ⟨found, hfound⟩ := SortedMap.contains_iff.mp hcontains
      obtain heq | ⟨hold, -⟩ := SortedMap.mem_insert.mp hfound
      · exact (Prod.mk.inj heq).1 ▸ hnewest
      · exact hordered.indexed number (SortedMap.contains_iff.mpr ⟨found, hold⟩)
    · rw [hscan] at hcontains
      obtain ⟨found, hfound⟩ := SortedMap.contains_iff.mp hcontains
      obtain ⟨other, hother, hkey, -⟩ := htaken.placed _ hfound
      exact hkey.trans_le (hbounded other hother)

theorem Grown.lost (h : Grown format log after record) (hordered : Ordered format log)
    (hfollows : Follows format log record) (hcontains : log.index.contains number = true) :
    after.index.contains number = true ∨ Unfound format after number := by
  obtain hsame | ⟨entry, -, hinsert⟩ | hscan := h.index
  · exact .inl (hsame ▸ hcontains)
  · exact .inl (hinsert ▸ SortedMap.contains_insert.mpr (.inr hcontains))
  · by_cases hfound : ∃ other ∈ allFound format log.config after.files,
        format.sequence other = number
    · obtain ⟨other, hother, rfl⟩ := hfound
      left
      rw [hscan]
      exact SortedMap.contains_iff.mpr ((h.taken hordered hfollows).indexed other hother)
    · right
      intro other hother heq
      exact hfound ⟨other, h.config ▸ hother, heq⟩

theorem Grown.absent (h : Grown format log after record) (hordered : Ordered format log)
    (hfollows : Follows format log record) (hother : format.sequence record ≠ number)
    (hcontains : log.index.contains number = false) (hunfound : Unfound format log number) :
    after.index.contains number = false ∧ Unfound format after number := by
  have hgone : Unfound format after number := by
    obtain ⟨kept, more, hkept, hmore, hfound⟩ := h.found
    intro other hmem
    rw [h.config, hfound] at hmem
    obtain hold | hnew := List.mem_append.mp hmem
    · exact hunfound other (hkept.mem hold)
    · obtain rfl | rfl := hmore
      · cases hnew
      · exact List.mem_singleton.mp hnew ▸ hother
  refine ⟨?_, hgone⟩
  obtain hsame | ⟨entry, -, hinsert⟩ | hscan := h.index
  · exact hsame ▸ hcontains
  · rw [hinsert, ← Bool.not_eq_true, SortedMap.contains_insert, hcontains]
    simpa using fun heq => hother heq.symm
  · by_contra htrue
    rw [hscan] at htrue
    obtain ⟨entry, hentry⟩ := SortedMap.contains_iff.mp (by simpa using htrue)
    obtain ⟨other, hmem, hkey, -⟩ := (h.taken hordered hfollows).placed _ hentry
    exact hgone other (h.config.symm ▸ hmem) hkey.symm

end Netherwick.Observatory.DurableLog
