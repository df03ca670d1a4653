import Mathlib.Algebra.GroupWithZero.Nat
import Mathlib.Data.List.Basic
import Netherwick.Lib.Lines

/-! # Logs of framed records

Records are appended to a file as lines. A reader takes the lines that are ended and decode, and
stops at the first that is not; whatever follows it is a remainder. An append that stops early
leaves a torn text in the remainder, and what is appended behind a remainder stays in it. -/

namespace Netherwick.Lib

/-- How records are written and read. A text is one line; what reads back is what was written; and
of texts that stop early, or stand one after the other on a line, nothing reads back. -/
structure LineFormat (Record : Type) where
  text : Record → List UInt8
  decode : List UInt8 → Option Record
  oneLine : ∀ record, newline ∉ text record
  nonempty : ∀ record, text record ≠ []
  faithful : ∀ record other, decode (text record) = some other → other = record
  torn : ∀ pieces : List (List UInt8),
    (∀ piece ∈ pieces, piece ≠ [] ∧ ∃ record, piece <+: text record) →
    ∀ record, decode pieces.flatten = some record → ∃ record, pieces = [text record]

/-- A record that was read, with the place of its line. -/
structure Framed (Record : Type) where
  record : Record
  offset : Nat
  length : Nat

section Reading

variable {Record : Type} (decode : List UInt8 → Option Record)

/-- The records up to the first bad line, and whether there is one; `line` has been read since the
last newline, and starts at `offset`. -/
def framesFrom (offset : Nat) (line : List UInt8) : List UInt8 → List (Framed Record) × Bool
  | [] => ([], line ≠ [])
  | byte :: rest =>
    if byte = newline then
      match decode line with
      | some record =>
        let more := framesFrom (offset + line.length + 1) [] rest
        (⟨record, offset, line.length + 1⟩ :: more.1, more.2)
      | none => ([], true)
    else framesFrom offset (line ++ [byte]) rest

def frames (bytes : List UInt8) : List (Framed Record) × Bool := framesFrom decode 0 [] bytes

/-- How many bytes the good lines take. -/
def validLength (bytes : List UInt8) : Nat := ((frames decode bytes).1.map Framed.length).sum

def readFrame (bytes : List UInt8) (offset length : Nat) : Option Record :=
  let line := (bytes.drop offset).take length
  if line.length = length ∧ line.getLast? = some newline then decode line.dropLast else none

variable {decode} {offset : Nat} {line piece rest : List UInt8} {record : Record}

theorem framesFrom_append (h : newline ∉ piece) :
    framesFrom decode offset line (piece ++ rest)
      = framesFrom decode offset (line ++ piece) rest := by
  induction piece generalizing line with
  | nil => simp
  | cons byte piece ih =>
    have hbyte : byte ≠ newline := fun heq => h (heq ▸ List.mem_cons_self)
    rw [List.cons_append, framesFrom, if_neg hbyte, ih fun hmem => h (List.mem_cons_of_mem _ hmem),
      List.append_assoc]
    rfl

theorem framesFrom_line (hline : newline ∉ line) (hrecord : decode line = some record) :
    framesFrom decode offset [] (line ++ newline :: rest)
      = (⟨record, offset, line.length + 1⟩
          :: (framesFrom decode (offset + line.length + 1) [] rest).1,
        (framesFrom decode (offset + line.length + 1) [] rest).2) := by
  rw [framesFrom_append hline, List.nil_append, framesFrom, if_pos rfl, hrecord]

theorem framesFrom_bad (hline : newline ∉ line) (hnone : decode line = none) :
    framesFrom decode offset [] (line ++ newline :: rest) = ([], true) := by
  rw [framesFrom_append hline, List.nil_append, framesFrom, if_pos rfl, hnone]

theorem framesFrom_open (hline : newline ∉ line) :
    framesFrom decode offset [] line = ([], decide (line ≠ [])) := by
  have h := @framesFrom_append _ decode offset [] line [] hline
  simpa [framesFrom] using h

end Reading

namespace LineFormat

variable {Record : Type} (format : LineFormat Record)

/-- Not every record reads back: a number may lose its last digit. -/
def Readable (record : Record) : Prop := format.decode (format.text record) = some record

def line (record : Record) : List UInt8 := format.text record ++ [newline]

def written (records : List Record) : List UInt8 := records.flatMap format.line

/-- The frames of records that are written from `offset` on. -/
def framed (offset : Nat) : List Record → List (Framed Record)
  | [] => []
  | record :: records =>
    ⟨record, offset, (format.line record).length⟩
      :: framed (offset + (format.line record).length) records

/-- What a reader does not take: nothing, pieces of texts, or a bad line with what follows it. -/
inductive Remainder : List UInt8 → Prop
  | clean : Remainder []
  | torn (pieces : List (List UInt8)) (hne : pieces ≠ [])
      (hpieces : ∀ piece ∈ pieces, piece ≠ [] ∧ ∃ record, piece <+: format.text record) :
      Remainder pieces.flatten
  | bad (line more : List UInt8) (hline : newline ∉ line) (hnone : format.decode line = none) :
      Remainder (line ++ newline :: more)

variable {format} {records : List Record} {rest : List UInt8} {offset : Nat} {record : Record}

theorem readable_or_none (record : Record) :
    format.Readable record ∨ format.decode (format.text record) = none := by
  cases hdecode : format.decode (format.text record) with
  | none => exact .inr rfl
  | some other => exact .inl (format.faithful record other hdecode ▸ hdecode)

theorem newline_notMem_flatten {pieces : List (List UInt8)}
    (hpieces : ∀ piece ∈ pieces, piece ≠ [] ∧ ∃ record, piece <+: format.text record) :
    newline ∉ pieces.flatten := by
  intro hmem
  obtain ⟨piece, hpiece, hin⟩ := List.mem_flatten.mp hmem
  obtain ⟨_, record, hshort⟩ := hpieces piece hpiece
  exact format.oneLine record (hshort.subset hin)

theorem Remainder.frames (h : format.Remainder rest) :
    framesFrom format.decode offset [] rest = ([], decide (rest ≠ [])) := by
  cases h with
  | clean => rfl
  | torn pieces hne hpieces => exact framesFrom_open (newline_notMem_flatten hpieces)
  | bad line more hline hnone => rw [framesFrom_bad hline hnone]; simp

theorem framesFrom_written (hreadable : ∀ record ∈ records, format.Readable record)
    (hrest : format.Remainder rest) :
    framesFrom format.decode offset [] (format.written records ++ rest)
      = (format.framed offset records, decide (rest ≠ [])) := by
  induction records generalizing offset with
  | nil => simpa [written, framed] using hrest.frames
  | cons record records ih =>
    have hothers : ∀ other ∈ records, format.Readable other :=
      fun other hother => hreadable other (List.mem_cons_of_mem _ hother)
    have hrecords := @ih (offset + (format.line record).length) hothers
    have hsplit : format.written (record :: records) ++ rest
        = format.text record ++ newline :: (format.written records ++ rest) := by
      simp [written, line]
    have hlength : offset + (format.text record).length + 1
        = offset + (format.line record).length := by simp [line]; omega
    rw [hsplit, framesFrom_line (format.oneLine record) (hreadable record List.mem_cons_self),
      hlength, hrecords]
    simp [framed, line]

theorem map_record_framed (offset : Nat) (records : List Record) :
    (format.framed offset records).map Framed.record = records := by
  induction records generalizing offset with
  | nil => rfl
  | cons record records ih => simp [framed, ih]

theorem sum_length_framed (offset : Nat) (records : List Record) :
    ((format.framed offset records).map Framed.length).sum = (format.written records).length := by
  induction records generalizing offset with
  | nil => rfl
  | cons record records ih => simp [framed, ih, written]

theorem validLength_written (hreadable : ∀ record ∈ records, format.Readable record)
    (hrest : format.Remainder rest) :
    validLength format.decode (format.written records ++ rest) = (format.written records).length := by
  rw [validLength, Lib.frames, framesFrom_written hreadable hrest, sum_length_framed]

theorem readFrame_framed {before : List UInt8} (hoffset : before.length = offset)
    (hreadable : ∀ record ∈ records, format.Readable record) {frame : Framed Record}
    (hframe : frame ∈ format.framed offset records) :
    readFrame format.decode (before ++ format.written records ++ rest) frame.offset frame.length
      = some frame.record := by
  induction records generalizing offset before with
  | nil => cases hframe
  | cons record records ih =>
    obtain rfl | hframe := List.mem_cons.mp hframe
    · have hslice : ((before ++ format.written (record :: records) ++ rest).drop offset).take
          (format.line record).length = format.line record := by
        rw [List.append_assoc, ← hoffset, List.drop_left]
        simp [written]
      simp only [readFrame, hslice]
      simpa [line] using show format.decode (format.text record) = some record from
        hreadable record List.mem_cons_self
    · have hrest := @ih _ (before ++ format.line record) (by simp [hoffset])
        (fun other hother => hreadable other (List.mem_cons_of_mem _ hother)) hframe
      simpa [written] using hrest

/-- What part of a line does to a remainder: it becomes another one, or it is empty and the line is
whole and reads back. -/
theorem Remainder.append (h : format.Remainder rest) (record : Record) (count : Nat) :
    format.Remainder (rest ++ (format.line record).take count)
      ∨ rest = [] ∧ format.Readable record ∧ (format.line record).take count = format.line record := by
  by_cases hcount : count ≤ (format.text record).length
  · -- a piece of the text, without its newline
    have htake : (format.line record).take count = (format.text record).take count := by
      simp [line, List.take_append_of_le_length hcount]
    rw [htake]
    by_cases hzero : (format.text record).take count = []
    · rw [hzero, List.append_nil]
      exact .inl h
    · have hpiece : (format.text record).take count ≠ []
          ∧ ∃ other, (format.text record).take count <+: format.text other :=
        ⟨hzero, record, List.take_prefix ..⟩
      left
      cases h with
      | clean =>
        have htorn := @Remainder.torn _ format [(format.text record).take count]
          (by simp) (by simpa using hpiece)
        simpa using htorn
      | torn pieces hne hpieces =>
        have htorn := @Remainder.torn _ format (pieces ++ [(format.text record).take count])
          (by simp) (by
            intro piece hmem
            obtain hold | hnew := List.mem_append.mp hmem
            · exact hpieces piece hold
            · exact List.mem_singleton.mp hnew ▸ hpiece)
        simpa using htorn
      | bad line more hline hnone =>
        simpa using @Remainder.bad _ format line
          (more ++ (format.text record).take count) hline hnone
  · -- the whole line
    have htake : (format.line record).take count = format.line record := by
      apply List.take_of_length_le
      simp only [line, List.length_append, List.length_singleton]
      omega
    rw [htake]
    cases h with
    | clean =>
      obtain hreadable | hnone := @readable_or_none _ format record
      · exact .inr ⟨rfl, hreadable, rfl⟩
      · exact .inl (@Remainder.bad _ format _ [] (format.oneLine record) hnone)
    | torn pieces hne hpieces =>
      left
      have hall : ∀ piece ∈ pieces ++ [format.text record],
          piece ≠ [] ∧ ∃ record, piece <+: format.text record := by
        intro piece hmem
        obtain hold | hnew := List.mem_append.mp hmem
        · exact hpieces piece hold
        · exact List.mem_singleton.mp hnew ▸ ⟨format.nonempty record, record, List.prefix_refl _⟩
      have hnone : format.decode (pieces ++ [format.text record]).flatten = none := by
        cases hdecode : format.decode (pieces ++ [format.text record]).flatten with
        | none => rfl
        | some other =>
          obtain ⟨_, hone⟩ := format.torn _ hall other hdecode
          have hlength := congrArg List.length hone
          have hpos := List.length_pos_of_ne_nil hne
          simp only [List.length_append, List.length_singleton] at hlength
          omega
      have hbad := @Remainder.bad _ format _ [] (newline_notMem_flatten hall) hnone
      simpa [line] using hbad
    | bad line' more hline hnone =>
      left
      simpa using @Remainder.bad _ format line' (more ++ format.line record) hline hnone

end LineFormat

end Netherwick.Lib
