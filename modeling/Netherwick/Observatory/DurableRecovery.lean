import Netherwick.Ledger.Format
import Netherwick.Observatory.DurableLog

/-! # Recovery of the durable log

What a scan of the files finds: every record whose append returned, unless its file was rotated
away, in the order of the numbers, and an index that points at it. The files keep a layout from
which this follows, as long as no append that returns writes behind a torn line. -/

namespace Netherwick.Observatory

open Netherwick.Lib

variable {Record : Type} {format : DurableFormat Record}

/-- The records of the good lines of a file. -/
def found (format : DurableFormat Record) (bytes : List UInt8) : List Record :=
  (frames format.decode bytes).1.map Framed.record

/-- Good lines and a remainder. -/
structure Laid (format : DurableFormat Record) (bytes : List UInt8) (records : List Record)
    (rest : List UInt8) : Prop where
  bytes_eq : bytes = format.written records ++ rest
  readable : ∀ record ∈ records, format.Readable record
  remainder : format.Remainder rest

theorem Laid.frames {bytes rest : List UInt8} {records : List Record}
    (h : Laid format bytes records rest) :
    Lib.frames format.decode bytes = (format.framed 0 records, decide (rest ≠ [])) := by
  rw [h.bytes_eq, Lib.frames, LineFormat.framesFrom_written h.readable h.remainder]

theorem Laid.found {bytes rest : List UInt8} {records : List Record}
    (h : Laid format bytes records rest) : found format bytes = records := by
  rw [Observatory.found, h.frames, LineFormat.map_record_framed]

theorem laid_nil : Laid format [] [] [] := ⟨rfl, by simp, .clean⟩

theorem Laid.rest_eq_nil {bytes rest : List UInt8} {records : List Record}
    (h : Laid format bytes records rest)
    (hvalid : validLength format.decode bytes = bytes.length) : rest = [] := by
  rw [h.bytes_eq, LineFormat.validLength_written h.readable h.remainder] at hvalid
  simpa using hvalid

theorem Laid.append_line {bytes : List UInt8} {records : List Record}
    (h : Laid format bytes records []) {record : Record} (hrecord : format.Readable record) :
    Laid format (bytes ++ format.line record) (records ++ [record]) [] where
  bytes_eq := by simp [h.bytes_eq, LineFormat.written]
  readable := by
    intro other hother
    obtain hold | hnew := List.mem_append.mp hother
    · exact h.readable other hold
    · exact List.mem_singleton.mp hnew ▸ hrecord
  remainder := .clean

theorem Laid.append_part {bytes rest : List UInt8} {records : List Record}
    (h : Laid format bytes records rest) (record : Record) (count : Nat) :
    ∃ more rest', (more = [] ∨ more = [record])
      ∧ Laid format (bytes ++ (format.line record).take count) (records ++ more) rest' := by
  obtain hremainder | ⟨rfl, hreadable, hwhole⟩ := h.remainder.append record count
  · refine ⟨[], _, .inl rfl, ?_, by simpa using h.readable, hremainder⟩
    simp [h.bytes_eq]
  · rw [hwhole]
    exact ⟨[record], [], .inr rfl, h.append_line hreadable⟩

theorem Laid.cut {bytes rest : List UInt8} {records : List Record}
    (h : Laid format bytes records rest) :
    Laid format (bytes.take (validLength format.decode bytes)) records [] := by
  refine ⟨?_, h.readable, .clean⟩
  have hvalid := LineFormat.validLength_written h.readable h.remainder
  rw [← h.bytes_eq] at hvalid
  rw [hvalid, h.bytes_eq]
  simp

/-- What a family of lists holds, from the last list to the first. -/
def collect {α : Type} (lists : Nat → List α) : Nat → List α
  | 0 => lists 0
  | index + 1 => lists (index + 1) ++ collect lists index

theorem collect_eq {α : Type} (lists : Nat → List α) (count : Nat) :
    collect lists count = (segmentOrder count).flatMap lists := by
  induction count with
  | zero => simp [collect, segmentOrder]
  | succ count ih => simp [collect, segmentOrder, ih]

theorem collect_congr {α : Type} {lists others : Nat → List α} {count : Nat}
    (h : ∀ index ≤ count, lists index = others index) : collect lists count = collect others count := by
  induction count with
  | zero => exact h 0 le_rfl
  | succ count ih =>
    rw [collect, collect, h (count + 1) le_rfl, ih fun index hindex => h index (by omega)]

theorem collect_append {α : Type} {lists others : Nat → List α} {more : List α}
    (hzero : others 0 = lists 0 ++ more) (hrest : ∀ index, index ≠ 0 → others index = lists index)
    (count : Nat) : collect others count = collect lists count ++ more := by
  induction count with
  | zero => exact hzero
  | succ count ih => rw [collect, collect, hrest _ (Nat.succ_ne_zero _), ih, List.append_assoc]

theorem collect_drop {α : Type} {lists others : Nat → List α} {count : Nat} (hlast : others count = [])
    (hrest : ∀ index, index ≠ count → others index = lists index) :
    (collect others count).Sublist (collect lists count) := by
  cases count with
  | zero => simp [collect, hlast]
  | succ count =>
    rw [collect, collect, hlast, List.nil_append,
      collect_congr fun index hindex => hrest index (by omega)]
    exact List.sublist_append_right ..

theorem collect_move {α : Type} {lists others : Nat → List α} {place count : Nat}
    (hplace : place + 1 ≤ count) (hempty : lists (place + 1) = [])
    (hmoved : others (place + 1) = lists place) (hleft : others place = [])
    (hrest : ∀ index, index ≠ place → index ≠ place + 1 → others index = lists index) :
    collect others count = collect lists count := by
  induction count with
  | zero => omega
  | succ count ih =>
    by_cases htop : place = count
    · subst htop
      rw [collect, collect, hempty, hmoved]
      cases place with
      | zero => simp [collect, hleft]
      | succ place =>
        rw [collect, collect, hleft, List.nil_append, List.nil_append,
          collect_congr fun index hindex => hrest index (by omega) (by omega)]
    · rw [collect, collect, hrest (count + 1) (by omega) (by omega), ih (by omega)]

theorem mem_collect {α : Type} {lists : Nat → List α} {count index : Nat} {a : α}
    (hindex : index ≤ count) (h : a ∈ lists index) : a ∈ collect lists count := by
  induction count with
  | zero => rwa [collect, ← Nat.le_zero.mp hindex]
  | succ count ih =>
    rw [collect, List.mem_append]
    by_cases htop : index = count + 1
    · exact .inl (htop ▸ h)
    · exact .inr (ih (by omega))

/-- The records of the good lines of all files, the oldest first. -/
def allFound (format : DurableFormat Record) (config : BrainEventDurabilityConfig)
    (files : DurableFiles Record) : List Record :=
  collect (fun index => found format (files.bytes index)) config.retainedSegments

/-- Numbers increase and identities differ. -/
structure Numbered (format : DurableFormat Record) (records : List Record) : Prop where
  increasing : records.Pairwise fun a b => format.sequence a < format.sequence b
  distinct : (records.map format.eventId).Nodup

theorem Numbered.sublist {records fewer : List Record} (h : Numbered format records)
    (hfewer : fewer.Sublist records) : Numbered format fewer where
  increasing := h.increasing.sublist hfewer
  distinct := h.distinct.sublist (hfewer.map _)

theorem Numbered.append {record : Record} {records more : List Record} (h : Numbered format records)
    (hmore : more = [] ∨ more = [record])
    (habove : ∀ other ∈ records,
      format.sequence other < format.sequence record ∧ format.eventId other ≠ format.eventId record) :
    Numbered format (records ++ more) := by
  obtain rfl | rfl := hmore
  · rwa [List.append_nil]
  · constructor
    · refine List.pairwise_append.mpr ⟨h.increasing, List.pairwise_singleton .., ?_⟩
      intro other hother last hlast
      exact List.mem_singleton.mp hlast ▸ (habove other hother).1
    · rw [List.map_append, List.nodup_append]
      refine ⟨h.distinct, by simp, ?_⟩
      intro eventId heventId last hlast
      obtain ⟨other, hother, rfl⟩ := List.mem_map.mp heventId
      obtain rfl := List.mem_singleton.mp hlast
      exact (habove other hother).2

/-- What a scan has taken so far: all records, each with its number and its place. -/
structure Taken (format : DurableFormat Record) (files : DurableFiles Record)
    (records : List Record) (scan : DurableHistoryScan Record) : Prop where
  seen : ∀ eventId, eventId ∈ scan.seenIds ↔ ∃ record ∈ records, format.eventId record = eventId
  entries : ∀ entry, entry ∈ scan.bySequence.entries ↔
    ∃ record ∈ records, entry = (format.sequence record, record)
  placed : ∀ entry, entry ∈ scan.index.entries → ∃ record ∈ records,
    entry.1 = format.sequence record ∧ entry.2.sequence = format.sequence record
      ∧ readAt format files entry.2 = some record
  indexed : ∀ record ∈ records, ∃ entry, (format.sequence record, entry) ∈ scan.index.entries

theorem Taken.take {files : DurableFiles Record} {records : List Record}
    {scan : DurableHistoryScan Record} (h : Taken format files records scan) (segment : Nat)
    {frame : Framed Record} (hnumbered : Numbered format (records ++ [frame.record]))
    (hread : readFrame format.decode (files.bytes segment) frame.offset frame.length
      = some frame.record) :
    Taken format files (records ++ [frame.record]) (scan.take format segment frame) := by
  have hnew : format.eventId frame.record ∉ scan.seenIds := by
    rw [h.seen]
    rintro ⟨record, hrecord, hsame⟩
    have hdistinct := hnumbered.distinct
    rw [List.map_append, List.nodup_append] at hdistinct
    exact hdistinct.2.2 _ (List.mem_map_of_mem hrecord) _ (by simp) hsame
  have hbelow : ∀ record ∈ records, format.sequence record < format.sequence frame.record :=
    fun record hrecord =>
      (List.pairwise_append.mp hnumbered.increasing).2.2 record hrecord _ (by simp)
  have hfreeRecord : scan.bySequence.contains (format.sequence frame.record) = false := by
    by_contra hcontains
    obtain ⟨record, hmem⟩ := SortedMap.contains_iff.mp (by simpa using hcontains)
    obtain ⟨other, hother, heq⟩ := (h.entries _).mp hmem
    exact absurd (Prod.mk.inj heq).1 (hbelow other hother).ne'
  have hfreeIndex : scan.index.contains (format.sequence frame.record) = false := by
    by_contra hcontains
    obtain ⟨entry, hmem⟩ := SortedMap.contains_iff.mp (by simpa using hcontains)
    obtain ⟨other, hother, heq, -⟩ := h.placed _ hmem
    exact absurd heq (hbelow other hother).ne'
  rw [DurableHistoryScan.take, if_neg hnew]
  constructor
  · intro eventId
    simp only [List.mem_cons, h.seen, List.mem_append, List.not_mem_nil]
    grind
  · intro entry
    simp only [SortedMap.mem_orInsert, h.entries, hfreeRecord, true_and, List.mem_append,
      List.mem_cons, List.not_mem_nil, or_false]
    grind
  · intro entry hentry
    obtain hold | ⟨-, rfl⟩ := SortedMap.mem_orInsert.mp hentry
    · obtain ⟨record, hrecord, hplaced⟩ := h.placed entry hold
      exact ⟨record, List.mem_append_left _ hrecord, hplaced⟩
    · exact ⟨frame.record, by simp, rfl, rfl, hread⟩
  · intro record hrecord
    obtain hold | hnew := List.mem_append.mp hrecord
    · obtain ⟨entry, hentry⟩ := h.indexed record hold
      exact ⟨entry, SortedMap.mem_orInsert.mpr (.inl hentry)⟩
    · obtain rfl := List.mem_singleton.mp hnew
      exact ⟨_, SortedMap.mem_orInsert.mpr (.inr ⟨hfreeIndex, rfl⟩)⟩

theorem Taken.take_all {files : DurableFiles Record} {framed : List (Framed Record)}
    {records : List Record} {scan : DurableHistoryScan Record}
    (h : Taken format files records scan) (segment : Nat)
    (hnumbered : Numbered format (records ++ framed.map Framed.record))
    (hread : ∀ frame ∈ framed, readFrame format.decode (files.bytes segment) frame.offset
      frame.length = some frame.record) :
    Taken format files (records ++ framed.map Framed.record)
      (framed.foldl (DurableHistoryScan.take format segment) scan) := by
  induction framed generalizing records scan with
  | nil => simpa using h
  | cons frame framed ih =>
    have hsplit : records ++ (frame :: framed).map Framed.record
        = (records ++ [frame.record]) ++ framed.map Framed.record := by simp
    rw [hsplit] at hnumbered ⊢
    have hfirst := h.take segment
      (hnumbered.sublist (List.sublist_append_left ..)) (hread frame List.mem_cons_self)
    exact ih hfirst hnumbered fun other hother => hread other (List.mem_cons_of_mem _ hother)

/-- Every file is laid out. -/
def AllLaid (format : DurableFormat Record) (files : DurableFiles Record) : Prop :=
  ∀ index, ∃ rest, Laid format (files.bytes index) (found format (files.bytes index)) rest

theorem Taken.readFile {files : DurableFiles Record} (hlaid : AllLaid format files)
    {records : List Record} {scan : DurableHistoryScan Record}
    (h : Taken format files records scan) {segment : Nat}
    (hnumbered : Numbered format (records ++ found format (files.bytes segment))) :
    Taken format files (records ++ found format (files.bytes segment))
      (scan.readFile format files segment) := by
  obtain ⟨rest, hsegment⟩ := hlaid segment
  have hmap := format.toLineFormat.map_record_framed 0
    (found format (files.bytes segment))
  rw [← hmap] at hnumbered
  have htaken := h.take_all segment hnumbered fun frame hframe => by
    have hread := @LineFormat.readFrame_framed _ _ _ rest _ [] rfl hsegment.readable _ hframe
    rwa [List.nil_append, ← hsegment.bytes_eq] at hread
  rw [hmap] at htaken
  simp only [DurableHistoryScan.readFile, hsegment.frames]
  split
  · exact ⟨htaken.seen, htaken.entries, htaken.placed, htaken.indexed⟩
  · exact htaken

theorem Taken.read_all {files : DurableFiles Record} (hlaid : AllLaid format files)
    {records : List Record} {scan : DurableHistoryScan Record}
    (h : Taken format files records scan) (segments : List Nat)
    (hnumbered : Numbered format
      (records ++ segments.flatMap fun segment => found format (files.bytes segment))) :
    Taken format files (records ++ segments.flatMap fun segment => found format (files.bytes segment))
      (segments.foldl (DurableHistoryScan.readFile format files) scan) := by
  induction segments generalizing records scan with
  | nil => simpa using h
  | cons segment segments ih =>
    rw [List.flatMap_cons, ← List.append_assoc] at hnumbered ⊢
    exact ih (h.readFile hlaid (hnumbered.sublist (List.sublist_append_left ..))) hnumbered

theorem taken_scan {config : BrainEventDurabilityConfig} {files : DurableFiles Record}
    (hlaid : AllLaid format files) (hnumbered : Numbered format (allFound format config files)) :
    Taken format files (allFound format config files) (scanDurableHistory format config files) := by
  have hempty : Taken format files [] ({} : DurableHistoryScan Record) := by
    constructor <;> simp [SortedMap.empty]
  have hall := hempty.read_all hlaid (segmentOrder config.retainedSegments)
  rw [List.nil_append, ← collect_eq] at hall
  exact hall hnumbered

theorem Taken.mem_events {files : DurableFiles Record} {records : List Record}
    {scan : DurableHistoryScan Record} (h : Taken format files records scan) {record : Record} :
    record ∈ scan.events ↔ record ∈ records := by
  simp only [DurableHistoryScan.events, SortedMap.values, List.mem_map, Prod.exists,
    exists_eq_right, h.entries]
  constructor
  · rintro ⟨_, other, hother, heq⟩
    exact (Prod.mk.inj heq).2 ▸ hother
  · exact fun hrecord => ⟨_, record, hrecord, rfl⟩

theorem Taken.events_increasing {files : DurableFiles Record} {records : List Record}
    {scan : DurableHistoryScan Record} (h : Taken format files records scan) :
    scan.events.Pairwise fun a b => format.sequence a < format.sequence b := by
  have hkeys : ∀ entry ∈ scan.bySequence.entries, entry.1 = format.sequence entry.2 := by
    intro entry hentry
    obtain ⟨record, -, rfl⟩ := (h.entries entry).mp hentry
    rfl
  simp only [DurableHistoryScan.events, SortedMap.values, List.pairwise_map]
  refine scan.bySequence.ascending.imp_of_mem ?_
  intro a b ha hb hab
  rwa [hkeys a ha, hkeys b hb] at hab

theorem Taken.le_newestSequence {files : DurableFiles Record} {records : List Record}
    {scan : DurableHistoryScan Record} (h : Taken format files records scan) {record : Record}
    (hrecord : record ∈ records) : format.sequence record ≤ scan.newestSequence format := by
  have hmem := h.mem_events.mpr hrecord
  have hne := List.ne_nil_of_mem hmem
  have hlast := List.getLast?_eq_some_getLast hne
  rw [DurableHistoryScan.newestSequence, hlast]
  simp only [Option.map_some, Option.getD_some]
  have hincreasing := h.events_increasing
  rw [← List.dropLast_append_getLast hne] at hincreasing hmem
  obtain hbefore | hsame := List.mem_append.mp hmem
  · exact ((List.pairwise_append.mp hincreasing).2.2 record hbefore _ (by simp)).le
  · rw [List.mem_singleton.mp hsame]

namespace DurableLog

/-- What a scan of the files finds. -/
structure Recovers (format : DurableFormat Record) (log : DurableLog Record) : Prop where
  complete : ∀ segment ≤ log.config.retainedSegments, ∀ file, log.files segment = some file →
    ∀ record ∈ file.acknowledged, record ∈ (scanDurableHistory format log.config log.files).events
  /-- In the order of the numbers, and so no record twice. -/
  increasing : (scanDurableHistory format log.config log.files).events.Pairwise
    fun a b => format.sequence a < format.sequence b
  placed : ∀ entry ∈ (scanDurableHistory format log.config log.files).index.entries,
    ∃ record ∈ (scanDurableHistory format log.config log.files).events,
      entry.1 = format.sequence record ∧ entry.2.sequence = format.sequence record
        ∧ readAt format log.files entry.2 = some record
  indexed : ∀ record ∈ (scanDurableHistory format log.config log.files).events,
    ∃ entry, (format.sequence record, entry)
      ∈ (scanDurableHistory format log.config log.files).index.entries

def FreshId (format : DurableFormat Record) (log : DurableLog Record) :
    DurableInput Record → Prop
  | .append record _ => format.eventId record ∉ log.attempted
  | .reopen => True

/-- No place where the append stops is reached. -/
def returns (format : DurableFormat Record) (log : DurableLog Record) (record : Record) :
    Option AppendFault → Bool
  | none => true
  | some (.rotation _) | some .rescan => !log.rotates format record
  | some _ => false

/-- An append that returns is of a record that reads back, and does not write behind a torn line. -/
def Sheltered (format : DurableFormat Record) (log : DurableLog Record) :
    DurableInput Record → Prop
  | .append record fault => log.returns format record fault = true →
      format.Readable record ∧ (log.rotates format record = false →
        validLength format.decode (log.files.bytes 0) = (log.files.bytes 0).length)
  | .reopen => True

structure Intact (format : DurableFormat Record) (log : DurableLog Record) : Prop where
  laid : AllLaid format log.files
  numbered : Numbered format (allFound format log.config log.files)
  bounded : ∀ record ∈ allFound format log.config log.files,
    format.sequence record ≤ log.newest ∧ format.eventId record ∈ log.attempted
  kept : ∀ segment file, log.files segment = some file →
    ∀ record ∈ file.acknowledged, record ∈ found format file.bytes

theorem bytes_of_some {files : DurableFiles Record} {segment : Nat} {file : DurableFile Record}
    (h : files segment = some file) : files.bytes segment = file.bytes := by
  simp [DurableFiles.bytes, h]

theorem Intact.recovers {log : DurableLog Record} (h : Intact format log) :
    Recovers format log := by
  have htaken := taken_scan h.laid h.numbered
  constructor
  · intro segment hsegment file hfile record hrecord
    refine htaken.mem_events.mpr (mem_collect hsegment ?_)
    rw [bytes_of_some hfile]
    exact h.kept segment file hfile record hrecord
  · exact htaken.events_increasing
  · intro entry hentry
    obtain ⟨record, hrecord, hplaced⟩ := htaken.placed entry hentry
    exact ⟨record, htaken.mem_events.mpr hrecord, hplaced⟩
  · exact fun record hrecord => htaken.indexed record (htaken.mem_events.mp hrecord)

structure Moved (format : DurableFormat Record) (config : BrainEventDurabilityConfig)
    (files moved : DurableFiles Record) : Prop where
  origin : ∀ segment, moved segment = none ∨ ∃ source, moved segment = files source
  sublist : (allFound format config moved).Sublist (allFound format config files)

theorem Moved.refl {config : BrainEventDurabilityConfig} {files : DurableFiles Record} :
    Moved format config files files := ⟨fun segment => .inr ⟨segment, rfl⟩, List.Sublist.refl _⟩

theorem Moved.trans {config : BrainEventDurabilityConfig} {files moved last : DurableFiles Record}
    (h : Moved format config files moved) (hlast : Moved format config moved last) :
    Moved format config files last where
  origin := by
    intro segment
    obtain hnone | ⟨source, hsource⟩ := hlast.origin segment
    · exact .inl hnone
    · rw [hsource]
      exact h.origin source
  sublist := hlast.sublist.trans h.sublist

theorem found_nil : found format [] = [] := laid_nil.found

theorem bytes_of_none {files : DurableFiles Record} {segment : Nat}
    (h : files segment = none) : files.bytes segment = [] := by
  simp [DurableFiles.bytes, h]

theorem moved_remove {config : BrainEventDurabilityConfig} {files : DurableFiles Record} :
    Moved format config files (files.put config.retainedSegments none) where
  origin := by
    intro segment
    by_cases hsegment : segment = config.retainedSegments
    · exact .inl (by simp [DurableFiles.put, hsegment])
    · exact .inr ⟨segment, by simp [DurableFiles.put, hsegment]⟩
  sublist := by
    apply collect_drop
    · rw [bytes_of_none (by simp [DurableFiles.put]), found_nil]
    · intro segment hsegment
      simp [DurableFiles.bytes, DurableFiles.put, hsegment]

theorem moved_rename {config : BrainEventDurabilityConfig} {files : DurableFiles Record}
    {place : Nat} (hplace : place + 1 ≤ config.retainedSegments) (hfree : files (place + 1) = none) :
    Moved format config files (RotateStep.apply files (.rename place (place + 1)))
      ∧ RotateStep.apply files (.rename place (place + 1)) place = none := by
  cases hsource : files place with
  | none =>
    have happly : RotateStep.apply files (.rename place (place + 1)) = files := by
      simp [RotateStep.apply, hsource]
    rw [happly]
    exact ⟨.refl, hsource⟩
  | some file =>
    have happly : RotateStep.apply files (.rename place (place + 1))
        = (files.put place none).put (place + 1) (some file) := by
      simp [RotateStep.apply, hsource]
    have hleft : ((files.put place none).put (place + 1) (some file)) place = none := by
      simp [DurableFiles.put]
    have hmoved : ((files.put place none).put (place + 1) (some file)) (place + 1)
        = files place := by
      simp [DurableFiles.put, hsource]
    have hrest : ∀ segment, segment ≠ place → segment ≠ place + 1 →
        ((files.put place none).put (place + 1) (some file)) segment = files segment := by
      intro segment hsegment hnext
      simp [DurableFiles.put, hsegment, hnext]
    rw [happly]
    refine ⟨⟨fun segment => ?_, ?_⟩, hleft⟩
    · by_cases hsegment : segment = place
      · exact .inl (hsegment ▸ hleft)
      · by_cases hnext : segment = place + 1
        · exact .inr ⟨place, hnext ▸ hmoved⟩
        · exact .inr ⟨segment, hrest segment hsegment hnext⟩
    · have hsame : allFound format config ((files.put place none).put (place + 1) (some file))
          = allFound format config files := by
        apply collect_move hplace
        · simp only [bytes_of_none hfree, found_nil]
        · simp only [DurableFiles.bytes, hmoved]
        · simp only [bytes_of_none hleft, found_nil]
        · intro segment hsegment hnext
          simp only [DurableFiles.bytes, hrest segment hsegment hnext]
      rw [hsame]

theorem moved_renames {config : BrainEventDurabilityConfig} {place : Nat} :
    ∀ {files : DurableFiles Record} (completed : Nat), place ≤ config.retainedSegments →
      files place = none →
      Moved format config files (((renames place).take completed).foldl RotateStep.apply files) := by
  induction place with
  | zero =>
    intro files completed _ _
    simpa [renames] using Moved.refl
  | succ place ih =>
    intro files completed hplace hfree
    cases completed with
    | zero => exact Moved.refl
    | succ completed =>
      obtain ⟨hmoved, hleft⟩ := @moved_rename _ format _ _ _ hplace hfree
      exact hmoved.trans (ih completed (by omega) hleft)

theorem moved_rotated {log : DurableLog Record} (completed : Nat) :
    Moved format log.config log.files (log.rotated completed).files := by
  cases completed with
  | zero => exact Moved.refl
  | succ completed =>
    exact moved_remove.trans (moved_renames completed le_rfl (by simp [DurableFiles.put]))

theorem AllLaid.moved {config : BrainEventDurabilityConfig} {files moved : DurableFiles Record}
    (h : AllLaid format files) (hmoved : Moved format config files moved) :
    AllLaid format moved := by
  intro segment
  obtain hnone | ⟨source, hsource⟩ := hmoved.origin segment
  · rw [bytes_of_none hnone, found_nil]
    exact ⟨[], laid_nil⟩
  · have hbytes : moved.bytes segment = files.bytes source := by
      simp [DurableFiles.bytes, hsource]
    rw [hbytes]
    exact h source

theorem Intact.moved {log : DurableLog Record} (h : Intact format log)
    {files : DurableFiles Record} (hmoved : Moved format log.config log.files files) :
    Intact format { log with files := files } where
  laid := AllLaid.moved h.laid hmoved
  numbered := h.numbered.sublist hmoved.sublist
  bounded := fun record hrecord => h.bounded record (hmoved.sublist.mem hrecord)
  kept := by
    intro segment file hfile
    have hfile' : files segment = some file := hfile
    obtain hnone | ⟨source, hsource⟩ := hmoved.origin segment
    · rw [hnone] at hfile'
      cases hfile'
    · exact h.kept source file (hsource ▸ hfile')

theorem active_renames {place : Nat} :
    ∀ {files : DurableFiles Record}, files place = none →
      (renames place).foldl RotateStep.apply files 0 = none := by
  induction place with
  | zero => exact fun hfree => hfree
  | succ place ih =>
    intro files hfree
    apply ih
    cases hsource : files place with
    | none => simp [RotateStep.apply, hsource]
    | some file => simp [RotateStep.apply, hsource, DurableFiles.put]

theorem active_rotated (log : DurableLog Record) :
    (log.rotated (rotateDurableHistory log.config).length).files 0 = none := by
  simp only [rotated, List.take_length, rotateDurableHistory, List.foldl_cons]
  exact active_renames (by simp [RotateStep.apply, DurableFiles.put])

/-- A record that comes behind everything the files hold. -/
structure Awaits (format : DurableFormat Record) (log : DurableLog Record) (record : Record) :
    Prop where
  above : ∀ other ∈ allFound format log.config log.files,
    format.sequence other < format.sequence record ∧ format.eventId other ≠ format.eventId record
  number : format.sequence record ≤ log.newest
  attempted : format.eventId record ∈ log.attempted

variable {log : DurableLog Record} {record : Record}

theorem Awaits.moved {files : DurableFiles Record} (h : Awaits format log record)
    (hmoved : Moved format log.config log.files files) :
    Awaits format { log with files := files } record where
  above := fun other hother => h.above other (hmoved.sublist.mem hother)
  number := h.number
  attempted := h.attempted

@[simp] theorem bytes_write_zero {bytes : List UInt8} {acknowledged : List Record} :
    (log.write bytes acknowledged).files.bytes 0 = log.files.bytes 0 ++ bytes := by
  simp [write, DurableFiles.bytes, DurableFiles.put]

theorem bytes_write_of_ne {bytes : List UInt8} {acknowledged : List Record} {segment : Nat}
    (hsegment : segment ≠ 0) :
    (log.write bytes acknowledged).files.bytes segment = log.files.bytes segment := by
  simp [write, DurableFiles.bytes, DurableFiles.put, hsegment]

theorem AllLaid.write (h : AllLaid format log.files) {bytes rest : List UInt8}
    {more acknowledged : List Record}
    (hlaid : Laid format (log.files.bytes 0 ++ bytes) (found format (log.files.bytes 0) ++ more)
      rest) :
    AllLaid format (log.write bytes acknowledged).files := by
  intro segment
  by_cases hsegment : segment = 0
  · subst hsegment
    rw [bytes_write_zero, hlaid.found]
    exact ⟨rest, hlaid⟩
  · rw [bytes_write_of_ne hsegment]
    exact h segment

theorem allFound_write {bytes rest : List UInt8} {more acknowledged : List Record}
    (hlaid : Laid format (log.files.bytes 0 ++ bytes) (found format (log.files.bytes 0) ++ more)
      rest) :
    allFound format log.config (log.write bytes acknowledged).files
      = allFound format log.config log.files ++ more := by
  apply collect_append
  · simp only [bytes_write_zero, hlaid.found]
  · intro segment hsegment
    simp only [bytes_write_of_ne hsegment]

theorem Intact.write (h : Intact format log) (hawaits : Awaits format log record)
    {bytes rest : List UInt8} {more acknowledged : List Record}
    (hmore : more = [] ∨ more = [record])
    (hlaid : Laid format (log.files.bytes 0 ++ bytes) (found format (log.files.bytes 0) ++ more) rest)
    (hacknowledged : ∀ other ∈ acknowledged, other ∈ more) :
    Intact format (log.write bytes acknowledged) := by
  have hall : allFound format log.config (log.write bytes acknowledged).files
      = allFound format log.config log.files ++ more := allFound_write hlaid
  constructor
  · exact AllLaid.write h.laid hlaid
  · exact hall ▸ h.numbered.append hmore hawaits.above
  · intro other hother
    obtain hold | hnew := List.mem_append.mp (hall ▸ hother)
    · exact h.bounded other hold
    · obtain rfl | rfl := hmore
      · cases hnew
      · obtain rfl := List.mem_singleton.mp hnew
        exact ⟨hawaits.number, hawaits.attempted⟩
  · intro segment file hfile other hother
    have hfile' : (log.files.put 0 (some
      { bytes := log.files.bytes 0 ++ bytes
        acknowledged := ((log.files 0).map DurableFile.acknowledged).getD []
          ++ acknowledged })) segment = some file := hfile
    by_cases hsegment : segment = 0
    · subst hsegment
      simp only [DurableFiles.put, if_true, Option.some.injEq] at hfile'
      subst hfile'
      simp only [hlaid.found]
      obtain hold | hnew := List.mem_append.mp hother
      · cases hactive : log.files 0 with
        | none => simp [hactive] at hold
        | some active =>
          have hkept := h.kept 0 active hactive other (by simpa [hactive] using hold)
          rw [bytes_of_some hactive]
          exact List.mem_append_left _ hkept
      · exact List.mem_append_right _ (hacknowledged other hnew)
    · simp only [DurableFiles.put, if_neg hsegment] at hfile'
      exact h.kept segment file hfile' other hother

theorem Intact.write_part (h : Intact format log) (hawaits : Awaits format log record)
    (count : Nat) : Intact format (log.write ((format.line record).take count) []) := by
  obtain ⟨rest, hlaid⟩ := h.laid 0
  obtain ⟨more, rest', hmore, hpart⟩ := hlaid.append_part record count
  exact h.write hawaits hmore hpart (by simp)

theorem Intact.write_line (h : Intact format log) (hawaits : Awaits format log record)
    (hreadable : format.Readable record)
    (hclean : validLength format.decode (log.files.bytes 0) = (log.files.bytes 0).length) :
    Intact format (log.write (format.line record) [record]) := by
  obtain ⟨rest, hlaid⟩ := h.laid 0
  obtain rfl := hlaid.rest_eq_nil hclean
  exact h.write hawaits (.inr rfl) (hlaid.append_line hreadable) (by simp)

theorem Intact.reindexed (h : Intact format log) {rotated : Bool} {offset : Nat} :
    Intact format (log.reindexed format rotated offset record) :=
  ⟨h.laid, h.numbered, h.bounded, h.kept⟩

theorem Intact.appendLine (h : Intact format log) (hawaits : Awaits format log record)
    {rotated : Bool} {fault : Option AppendFault}
    (hreturns : (log.appendLine format rotated record fault).2 = true → format.Readable record
      ∧ validLength format.decode (log.files.bytes 0) = (log.files.bytes 0).length) :
    Intact format (log.appendLine format rotated record fault).1 := by
  have hpart : Intact format (log.write (format.line record) []) := by
    have hwhole := h.write_part hawaits (format.line record).length
    rwa [List.take_length] at hwhole
  have hline : (log.appendLine format rotated record fault).2 = true →
      Intact format (log.write (format.line record) [record]) :=
    fun hreturned => h.write_line hawaits (hreturns hreturned).1 (hreturns hreturned).2
  cases fault with
  | none => exact (hline rfl).reindexed
  | some fault =>
    cases fault with
    | rotation completed => exact (hline rfl).reindexed
    | opening => exact h
    | write count => exact h.write_part hawaits count
    | persist => exact hpart.reindexed
    | rescan =>
      cases rotated with
      | true => exact hpart
      | false => exact (hline rfl).reindexed

theorem appendLine_returns {rotated : Bool} {fault : Option AppendFault}
    (h : (log.appendLine format rotated record fault).2 = true) :
    fault = none ∨ (∃ completed, fault = some (.rotation completed))
      ∨ fault = some .rescan ∧ rotated = false := by
  cases fault with
  | none => exact .inl rfl
  | some fault =>
    cases fault with
    | rotation completed => exact .inr (.inl ⟨completed, rfl⟩)
    | rescan => cases rotated <;> simp_all [DurableLog.appendLine]
    | _ => simp [DurableLog.appendLine] at h

theorem Intact.append (h : Intact format log) (hawaits : Awaits format log record)
    {fault : Option AppendFault}
    (hsheltered : log.returns format record fault = true →
      format.Readable record ∧ (log.rotates format record = false →
        validLength format.decode (log.files.bytes 0) = (log.files.bytes 0).length)) :
    Intact format (log.appendDurableRecord format record fault).1 := by
  cases hrotates : log.rotates format record with
  | false =>
    simp only [appendDurableRecord, hrotates, Bool.false_eq_true, if_false]
    apply h.appendLine hawaits
    intro hreturned
    have hsafe := hsheltered (by
      obtain rfl | ⟨completed, rfl⟩ | ⟨rfl, -⟩ := appendLine_returns hreturned <;>
        simp [returns, hrotates])
    exact ⟨hsafe.1, hsafe.2 hrotates⟩
  | true =>
    have hrotated : ∀ fault, (∀ completed, fault ≠ some (.rotation completed)) →
        (log.returns format record fault = true → format.Readable record) →
        Intact format ((log.rotated (rotateDurableHistory log.config).length).appendLine format
          true record fault).1 := by
      intro fault hfault hreadable
      have hmoved := @moved_rotated _ format log
        (rotateDurableHistory log.config).length
      apply (h.moved hmoved).appendLine (hawaits.moved hmoved)
      intro hreturned
      constructor
      · apply hreadable
        obtain rfl | ⟨completed, rfl⟩ | ⟨-, hfalse⟩ := appendLine_returns hreturned
        · rfl
        · exact absurd rfl (hfault completed)
        · cases hfalse
      · have hempty := bytes_of_none (active_rotated log)
        rw [hempty]
        rfl
    simp only [appendDurableRecord, hrotates, if_true]
    cases fault with
    | none => exact hrotated none (by simp) fun hreturned => (hsheltered hreturned).1
    | some fault =>
      cases fault with
      | rotation completed => exact h.moved (moved_rotated completed)
      | opening => exact hrotated _ (by simp) fun hreturned => (hsheltered hreturned).1
      | write count => exact hrotated _ (by simp) fun hreturned => (hsheltered hreturned).1
      | rescan => exact hrotated _ (by simp) fun hreturned => (hsheltered hreturned).1
      | persist => exact hrotated _ (by simp) fun hreturned => (hsheltered hreturned).1

theorem Intact.reopened (h : Intact format log) : Intact format (log.reopened format) := by
  have hnewest : ∀ record ∈ allFound format log.config log.files,
      format.sequence record
        ≤ (scanDurableHistory format log.config log.files).newestSequence format :=
    fun record hrecord => (taken_scan h.laid h.numbered).le_newestSequence hrecord
  cases hactive : log.files 0 with
  | none =>
    simp only [DurableLog.reopened, hactive]
    exact
      { laid := h.laid
        numbered := h.numbered
        bounded := fun record hrecord => ⟨hnewest record hrecord, (h.bounded record hrecord).2⟩
        kept := h.kept }
  | some file =>
    simp only [DurableLog.reopened, hactive]
    obtain ⟨rest, hlaid⟩ := h.laid 0
    rw [bytes_of_some hactive] at hlaid
    have hcut := hlaid.cut
    have hbytes : ∀ segment, segment ≠ 0 →
        (log.files.put 0 (some
          { file with bytes := file.bytes.take (validLength format.decode file.bytes) })).bytes
            segment = log.files.bytes segment := by
      intro segment hsegment
      simp [DurableFiles.bytes, DurableFiles.put, hsegment]
    have hzero : (log.files.put 0 (some
        { file with bytes := file.bytes.take (validLength format.decode file.bytes) })).bytes 0
          = file.bytes.take (validLength format.decode file.bytes) := by
      simp [DurableFiles.bytes, DurableFiles.put]
    have hfound : ∀ segment, found format ((log.files.put 0 (some
        { file with bytes := file.bytes.take (validLength format.decode file.bytes) })).bytes
          segment) = found format (log.files.bytes segment) := by
      intro segment
      by_cases hsegment : segment = 0
      · rw [hsegment, hzero, hcut.found, bytes_of_some hactive]
      · rw [hbytes segment hsegment]
    have hall : allFound format log.config (log.files.put 0 (some
        { file with bytes := file.bytes.take (validLength format.decode file.bytes) }))
          = allFound format log.config log.files :=
      collect_congr fun segment _ => hfound segment
    constructor
    · intro segment
      by_cases hsegment : segment = 0
      · subst hsegment
        rw [hfound, hzero, bytes_of_some hactive]
        exact ⟨[], hcut⟩
      · rw [hbytes segment hsegment]
        exact h.laid segment
    · exact hall ▸ h.numbered
    · intro record hrecord
      have hold := hall ▸ hrecord
      exact ⟨hnewest record hold, (h.bounded record hold).2⟩
    · intro segment other hother record hrecord
      have hother' : log.files.put 0 (some
        { file with bytes := file.bytes.take (validLength format.decode file.bytes) }) segment
          = some other := hother
      by_cases hsegment : segment = 0
      · subst hsegment
        simp only [DurableFiles.put, if_true, Option.some.injEq] at hother'
        subst hother'
        rw [hcut.found]
        exact h.kept 0 file hactive record hrecord
      · simp only [DurableFiles.put, if_neg hsegment] at hother'
        exact h.kept segment other hother' record hrecord

theorem Intact.step (h : Intact format log) {input : DurableInput Record}
    (hfresh : FreshId format log input) (hsheltered : Sheltered format log input) :
    Intact format (log.step format input) := by
  cases input with
  | reopen => exact h.reopened
  | append record fault =>
    simp only [DurableLog.step]
    split
    · rename_i hnew
      have hnumbered : Intact format
          { log with
            newest := format.sequence record
            attempted := format.eventId record :: log.attempted } :=
        { laid := h.laid
          numbered := h.numbered
          bounded := fun other hother =>
            ⟨(h.bounded other hother).1.trans hnew.le,
              List.mem_cons_of_mem _ (h.bounded other hother).2⟩
          kept := h.kept }
      refine hnumbered.append ⟨?_, le_rfl, List.mem_cons_self⟩ hsheltered
      intro other hother
      have hbounded := h.bounded other hother
      exact ⟨hbounded.1.trans_lt hnew, fun heq => hfresh (heq ▸ hbounded.2)⟩
    · exact h

def fresh (config : BrainEventDurabilityConfig) : DurableLog Record where
  config := config.normalized
  files := fun _ => none
  index := .empty
  newest := 0
  attempted := []

theorem bytes_fresh (config : BrainEventDurabilityConfig) (segment : Nat) :
    (@fresh Record config).files.bytes segment = [] := rfl

theorem allFound_fresh (config : BrainEventDurabilityConfig) :
    allFound format (@fresh Record config).config (@fresh Record config).files = [] := by
  have hall : ∀ count, collect (fun segment =>
      found format ((@fresh Record config).files.bytes segment)) count = [] := by
    intro count
    induction count with
    | zero => simp [collect, bytes_fresh, found_nil]
    | succ count ih => rw [collect, ih, bytes_fresh, found_nil, List.append_nil]
  exact hall _

theorem intact_fresh (config : BrainEventDurabilityConfig) : Intact format (fresh config) := by
  constructor
  · intro segment
    rw [bytes_fresh, found_nil]
    exact ⟨[], laid_nil⟩
  · rw [allFound_fresh]
    exact ⟨List.Pairwise.nil, List.nodup_nil⟩
  · intro record hrecord
    rw [allFound_fresh] at hrecord
    cases hrecord
  · intro segment file hfile
    cases hfile

/-- Along every sheltered run of appends, faults, crashes and openings a scan finds what was
acknowledged. -/
theorem recovers_acknowledged (format : DurableFormat Record) (config : BrainEventDurabilityConfig)
    {inputs : List (DurableInput Record)}
    (hfresh : EachStep (DurableLog.step format) (fresh config) (FreshId format) inputs)
    (hsheltered : EachStep (DurableLog.step format) (fresh config) (Sheltered format) inputs) :
    Recovers format (after (DurableLog.step format) (fresh config) inputs) := by
  have hboth : EachStep (DurableLog.step format) (fresh config)
      (fun log input => FreshId format log input ∧ Sheltered format log input) inputs :=
    fun past input hpast => ⟨hfresh past input hpast, hsheltered past input hpast⟩
  exact (hboth.invariant (intact_fresh config) fun _ _ h hinput => h.step hinput.1 hinput.2).recovers

/-- Records of an identity and a number. -/
def stampFormat : DurableFormat Ledger.Stamp where
  text := Ledger.Stamp.text
  decode := Ledger.Stamp.parse
  oneLine stamp := (Ledger.Stamp.text_oneLine stamp).1
  nonempty := Ledger.FrameFormat.text_ne_nil Ledger.Stamp.format
  faithful := Ledger.Stamp.text_faithful
  torn pieces hpieces stamp h := Ledger.Stamp.text_torn pieces hpieces stamp h
  sequence := Ledger.Stamp.tMs
  eventId stamp := toString stamp.id

def smallConfig : BrainEventDurabilityConfig := { maxSegmentBytes := 1024, retainedSegments := 2 }

theorem readable_stamp (stamp : Ledger.Stamp) : stampFormat.Readable stamp :=
  Ledger.Stamp.parse_iff.mpr rfl

/-- Two records with a restart between them. -/
theorem recovers_two :
    Recovers stampFormat (after (DurableLog.step stampFormat) (fresh smallConfig)
      [.append ⟨1, 1⟩ none, .reopen, .append ⟨2, 2⟩ none]) := by
  refine recovers_acknowledged stampFormat smallConfig ?_ ?_
  · simp only [eachStep_cons, eachStep_nil, and_true, FreshId, true_and]
    constructor <;> decide +kernel
  · simp only [eachStep_cons, eachStep_nil, and_true, Sheltered, true_and]
    refine ⟨fun _ => ⟨readable_stamp _, fun _ => ?_⟩, fun _ => ⟨readable_stamp _, fun _ => ?_⟩⟩
    · decide +kernel
    · decide +kernel

/-- The first append stops within its line, the second returns. -/
def tornRun : List (DurableInput Ledger.Stamp) :=
  [.append ⟨1, 1⟩ (some (.write 3)), .append ⟨2, 2⟩ none]

theorem torn_line_hides_record :
    EachStep (DurableLog.step stampFormat) (fresh smallConfig) (FreshId stampFormat) tornRun
      ∧ ¬ Recovers stampFormat
        (after (DurableLog.step stampFormat) (fresh smallConfig) tornRun) := by
  constructor
  · simp only [tornRun, eachStep_cons, eachStep_nil, and_true, FreshId]
    constructor <;> decide +kernel
  · intro h
    have hfile : (after (DurableLog.step stampFormat) (fresh smallConfig) tornRun).files 0
        = some
          { bytes := (stampFormat.line ⟨1, 1⟩).take 3 ++ stampFormat.line ⟨2, 2⟩
            acknowledged := [⟨2, 2⟩] } := by
      decide +kernel
    have hmem := h.complete 0 (Nat.zero_le _) _ hfile ⟨2, 2⟩ (by simp)
    have hnone : (scanDurableHistory stampFormat
        (after (DurableLog.step stampFormat) (fresh smallConfig) tornRun).config
        (after (DurableLog.step stampFormat) (fresh smallConfig) tornRun).files).events = [] := by
      decide +kernel
    rw [hnone] at hmem
    cases hmem

end DurableLog

end Netherwick.Observatory
