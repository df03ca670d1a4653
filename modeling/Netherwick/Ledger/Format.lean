import Netherwick.Lib.Lines
import Netherwick.Lib.Text

/-! # The text of a frame

The ledgers write a frame as one JSON text and read it back. Both come from a library that is not
the repository's own. -/

namespace Netherwick.Ledger

open Netherwick.Lib Netherwick.Lib.Text

/-- The brace that opens the text of a record. -/
def openingBrace : UInt8 := 123

/-- How frames are written and read. A text is one line that opens with a brace and is over with
its last; what reads back is what was written; and of texts that stop early, or stand one after
the other on a line, nothing reads back. -/
structure FrameFormat (Frame : Type) where
  id : Frame → Nat
  tMs : Frame → Nat
  text : Frame → List UInt8
  parse : List UInt8 → Option Frame
  opens : ∀ frame, ∃ rest, text frame = openingBrace :: rest
  oneLine : ∀ frame, newline ∉ text frame ∧ carriageReturn ∉ text frame
  closed : ∀ frame other, text frame <+: text other → text frame = text other
  faithful : ∀ frame other, parse (text frame) = some other → other = frame
  torn : ∀ pieces : List (List UInt8), (∀ piece ∈ pieces, piece ≠ [] ∧ ∃ frame, piece <+: text frame) →
    ∀ frame, parse pieces.flatten = some frame → ∃ frame, pieces = [text frame]

namespace FrameFormat

variable {Frame : Type} (format : FrameFormat Frame)

/-- Not every frame reads back: a float that is no number is written as null. -/
def Readable (frame : Frame) : Prop := format.parse (format.text frame) = some frame

theorem text_ne_nil (frame : Frame) : format.text frame ≠ [] := by
  obtain ⟨rest, heq⟩ := format.opens frame
  rw [heq]
  exact List.cons_ne_nil _ _

theorem parse_text {frame : Frame} (h : ¬ format.Readable frame) :
    format.parse (format.text frame) = none := by
  cases hparse : format.parse (format.text frame) with
  | none => rfl
  | some other =>
    rw [format.faithful frame other hparse] at hparse
    exact absurd hparse h

end FrameFormat

/-- A frame cut down to what the ledgers themselves look at. -/
structure Stamp where
  id : Nat
  tMs : Nat
  deriving DecidableEq, Repr

namespace Stamp

def line (stamp : Stamp) : List Char :=
  "\x7b\"id\":".toList ++ (decimal stamp.id ++
    ',' :: ("\"t_ms\":".toList ++ (decimal stamp.tMs ++ ['}'])))

def ascii (text : List Char) : List UInt8 := text.map fun c => UInt8.ofNat c.toNat

def chars (bytes : List UInt8) : List Char := bytes.map fun byte => Char.ofNat byte.toNat

def ofLine (text : List Char) : Option Stamp := do
  let (id, rest) ← splitOnce ',' (← stripPrefix "\x7b\"id\":".toList text)
  let tMs ← stripSuffix ['}'] (← stripPrefix "\"t_ms\":".toList rest)
  some ⟨← parseNat id, ← parseNat tMs⟩

/-- The characters that stand in a line besides digits. -/
def marks : List Char := ['{', '"', 'i', 'd', ':', ',', 't', '_', 'm', 's', '}']

theorem mem_line {stamp : Stamp} {c : Char} (h : c ∈ stamp.line) : c ∈ marks ∨ c.isDigit = true := by
  have hopen : ("\x7b\"id\":".toList.all fun c => c ∈ marks) = true := by decide
  have hmiddle : ("\"t_ms\":".toList.all fun c => c ∈ marks) = true := by decide
  unfold line at h
  simp only [List.mem_append, List.mem_cons, List.not_mem_nil, or_false] at h
  obtain hlit | hdigit | rfl | hlit | hdigit | rfl := h
  · exact .inl (by simpa using List.all_eq_true.mp hopen c hlit)
  · exact .inr (isDigit_of_mem_decimal hdigit)
  · exact .inl (by decide)
  · exact .inl (by simpa using List.all_eq_true.mp hmiddle c hlit)
  · exact .inr (isDigit_of_mem_decimal hdigit)
  · exact .inl (by decide)

theorem ofLine_line (stamp : Stamp) : ofLine stamp.line = some stamp := by
  have hcomma : ',' ∉ decimal stamp.id := not_mem_decimal (by decide)
  unfold ofLine line
  rw [stripPrefix_append]
  simp only [Option.bind_eq_bind, Option.bind_some, splitOnce_append hcomma, stripPrefix_append,
    stripSuffix_append, parseNat_decimal]

theorem ascii_of_mem_line (stamp : Stamp) {c : Char} (h : c ∈ stamp.line) : c.toNat < 128 := by
  obtain hmark | hdigit := mem_line h
  · have hall : (marks.all fun c => c.toNat < 128) = true := by decide
    simpa using List.all_eq_true.mp hall c hmark
  · have hrange := isDigit_range hdigit
    omega

theorem chars_ascii {text : List Char} (h : ∀ c ∈ text, c.toNat < 128) :
    chars (ascii text) = text := by
  have hone : ∀ c ∈ text, Char.ofNat (UInt8.ofNat c.toNat).toNat = c := by
    intro c hc
    have hlt := h c hc
    have hnat : (UInt8.ofNat c.toNat).toNat = c.toNat := by
      rw [UInt8.toNat_ofNat']
      omega
    rw [hnat, Char.ofNat_toNat]
  unfold chars ascii
  rw [List.map_map]
  exact (List.map_congr_left hone).trans (List.map_id' text)

theorem mem_ascii {text : List Char} {c : Char} (h : ∀ c ∈ text, c.toNat < 128)
    (hc : c.toNat < 128) (hmem : UInt8.ofNat c.toNat ∈ ascii text) : c ∈ text := by
  obtain ⟨other, hother, heq⟩ := List.mem_map.mp hmem
  have hlt := h other hother
  have hnat := congrArg UInt8.toNat heq
  rw [UInt8.toNat_ofNat', UInt8.toNat_ofNat'] at hnat
  have hsame : other.toNat = c.toNat := by omega
  rwa [Char.toNat_inj.mp hsame] at hother

def text (stamp : Stamp) : List UInt8 := ascii stamp.line

def parse (bytes : List UInt8) : Option Stamp := do
  let stamp ← ofLine (chars bytes)
  if stamp.text = bytes then some stamp else none

theorem parse_iff {bytes : List UInt8} {stamp : Stamp} :
    parse bytes = some stamp ↔ bytes = stamp.text := by
  constructor
  · intro h
    unfold parse at h
    rw [Option.bind_eq_bind, Option.bind_eq_some_iff] at h
    obtain ⟨other, -, hother⟩ := h
    split at hother
    · rename_i heq
      cases hother
      exact heq.symm
    · cases hother
  · rintro rfl
    have hchars : chars stamp.text = stamp.line := chars_ascii fun c => ascii_of_mem_line stamp
    unfold parse
    rw [hchars, ofLine_line]
    simp

theorem text_injective {a b : Stamp} (h : a.text = b.text) : a = b := by
  have hread : parse a.text = some b := parse_iff.mpr h
  rw [parse_iff.mpr rfl] at hread
  exact Option.some.inj hread

/-- The text without its braces. -/
def inside (stamp : Stamp) : List Char :=
  "\"id\":".toList ++ (decimal stamp.id ++ ',' :: ("\"t_ms\":".toList ++ decimal stamp.tMs))

theorem line_eq (stamp : Stamp) : stamp.line = '{' :: (stamp.inside ++ ['}']) := by
  unfold line inside
  simp only [List.append_assoc, List.cons_append]
  rfl

theorem not_mem_inside {stamp : Stamp} {c : Char} (hc : c.isDigit = false)
    (hid : c ∉ "\"id\":".toList) (hcomma : c ≠ ',') (ht : c ∉ "\"t_ms\":".toList) :
    c ∉ stamp.inside := by
  unfold inside
  simp only [List.mem_append, List.mem_cons, not_or]
  exact ⟨hid, not_mem_decimal hc, hcomma, ht, not_mem_decimal hc⟩

theorem text_opens (stamp : Stamp) :
    ∃ rest, stamp.text = openingBrace :: rest ∧ openingBrace ∉ rest := by
  refine ⟨ascii (stamp.inside ++ ['}']), ?_, ?_⟩
  · unfold text
    rw [line_eq]
    rfl
  · intro hmem
    have hline : ∀ c ∈ stamp.inside ++ ['}'], c.toNat < 128 := by
      intro c hc
      apply ascii_of_mem_line stamp
      rw [line_eq]
      exact List.mem_cons_of_mem _ hc
    have hbrace : '{' ∈ stamp.inside ++ ['}'] := mem_ascii hline (by decide) hmem
    obtain hinside | hlast := List.mem_append.mp hbrace
    · exact not_mem_inside (by decide) (by decide) (by decide) (by decide) hinside
    · cases List.mem_singleton.mp hlast

theorem text_closed (a b : Stamp) (h : a.text <+: b.text) : a.text = b.text := by
  have hends : ∀ stamp : Stamp, stamp.text = ascii ('{' :: stamp.inside) ++ [UInt8.ofNat '}'.toNat] := by
    intro stamp
    unfold text
    rw [line_eq]
    simp [ascii]
  have hclosing : UInt8.ofNat '}'.toNat ∉ ascii ('{' :: b.inside) := by
    intro hmem
    have hline : ∀ c ∈ '{' :: b.inside, c.toNat < 128 := by
      intro c hc
      apply ascii_of_mem_line b
      rw [line_eq, ← List.cons_append]
      exact List.mem_append_left _ hc
    have hbrace : '}' ∈ '{' :: b.inside := mem_ascii hline (by decide) hmem
    obtain heq | hinside := List.mem_cons.mp hbrace
    · cases heq
    · exact not_mem_inside (by decide) (by decide) (by decide) (by decide) hinside
  rw [hends b, List.prefix_concat_iff] at h
  obtain hall | hshort := h
  · rw [hall, hends b]
  · rw [hends a] at hshort
    exact absurd (hshort.subset (List.mem_append_right _ (List.mem_singleton_self _))) hclosing

theorem text_oneLine (stamp : Stamp) : newline ∉ stamp.text ∧ carriageReturn ∉ stamp.text := by
  have hnone : ∀ c : Char, c ∉ marks → c.isDigit = false → c.toNat < 128 →
      UInt8.ofNat c.toNat ∉ stamp.text := by
    intro c hmark hdigit hascii hmem
    have hline : c ∈ stamp.line := mem_ascii (fun c => ascii_of_mem_line stamp) hascii hmem
    obtain hin | hin := mem_line hline
    · exact hmark hin
    · rw [hdigit] at hin
      cases hin
  exact ⟨hnone '\n' (by decide) (by decide) (by decide),
    hnone '\r' (by decide) (by decide) (by decide)⟩

theorem text_torn (pieces : List (List UInt8))
    (hpieces : ∀ piece ∈ pieces, piece ≠ [] ∧ ∃ frame : Stamp, piece <+: frame.text)
    (stamp : Stamp) (h : parse pieces.flatten = some stamp) : ∃ frame : Stamp, pieces = [frame.text] := by
  have hflat := parse_iff.mp h
  obtain ⟨rest, heq, hrest⟩ := stamp.text_opens
  have hopens : ∀ piece ∈ pieces, ∃ tail, piece = openingBrace :: tail := by
    intro piece hpiece
    obtain ⟨hne, frame, hshort⟩ := hpieces piece hpiece
    obtain ⟨tail, hopen, -⟩ := frame.text_opens
    rw [hopen] at hshort
    cases piece with
    | nil => exact absurd rfl hne
    | cons byte piece =>
      obtain ⟨rfl, -⟩ := List.cons_prefix_cons.mp hshort
      exact ⟨piece, rfl⟩
  rw [heq] at hflat
  cases pieces with
  | nil => cases hflat
  | cons piece others =>
    cases others with
    | nil => exact ⟨stamp, by rw [heq, ← hflat, List.flatten_singleton]⟩
    | cons second others =>
      obtain ⟨tail, rfl⟩ := hopens piece List.mem_cons_self
      obtain ⟨tail', rfl⟩ := hopens second (List.mem_cons_of_mem _ List.mem_cons_self)
      rw [List.flatten_cons, List.cons_append] at hflat
      exact absurd (by rw [← (List.cons.inj hflat).2]; simp) hrest

theorem text_begins (stamp : Stamp) : ∃ rest, stamp.text = openingBrace :: rest := by
  obtain ⟨rest, heq, -⟩ := stamp.text_opens
  exact ⟨rest, heq⟩

theorem text_faithful (stamp other : Stamp) (h : parse stamp.text = some other) : other = stamp :=
  (text_injective (parse_iff.mp h)).symm

/-- Stamps are written and read as JSON. -/
def format : FrameFormat Stamp where
  id := Stamp.id
  tMs := Stamp.tMs
  text := Stamp.text
  parse := Stamp.parse
  opens := text_begins
  oneLine := text_oneLine
  closed := text_closed
  faithful := text_faithful
  torn := text_torn

end Stamp

end Netherwick.Ledger
