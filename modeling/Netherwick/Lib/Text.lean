import Mathlib.Data.List.DropRight

/-! # Texts

A text is the list of its characters. The functions are those of the standard library that cut a
line into fields, and the lemmas read back what was written by joining fields. -/

namespace Netherwick.Lib

/-- The characters with the property `White_Space`. -/
def isWhiteSpace (c : Char) : Bool :=
  (0x9 ≤ c.toNat && c.toNat ≤ 0xD) || (0x2000 ≤ c.toNat && c.toNat ≤ 0x200A) ||
    [0x20, 0x85, 0xA0, 0x1680, 0x2028, 0x2029, 0x202F, 0x205F, 0x3000].contains c.toNat

/-- The white space of `split_ascii_whitespace`. -/
def isAsciiWhiteSpace (c : Char) : Bool :=
  [0x9, 0xA, 0xC, 0xD, 0x20].contains c.toNat

namespace Text

/-- What follows the first occurrence of a word. -/
def after (word : List Char) : List Char → Option (List Char)
  | [] => if word.isEmpty then some [] else none
  | c :: rest =>
    if word.isPrefixOf (c :: rest) then some ((c :: rest).drop word.length)
    else after word rest

def contains (text word : List Char) : Bool := (after word text).isSome

def firstWord? (text : List Char) : Option (List Char) :=
  let word := (text.dropWhile isWhiteSpace).takeWhile fun c => !isWhiteSpace c
  if word.isEmpty then none else some word

/-- `split_ascii_whitespace`. -/
def asciiWords (text : List Char) : List (List Char) :=
  (text.splitOnP isAsciiWhiteSpace).filter fun word => !word.isEmpty

/-- `split_once`. -/
def splitOnce (separator : Char) : List Char → Option (List Char × List Char)
  | [] => none
  | c :: rest =>
    if c = separator then some ([], rest)
    else (splitOnce separator rest).map fun (head, tail) => (c :: head, tail)

def stripPrefix (start text : List Char) : Option (List Char) :=
  if start.isPrefixOf text then some (text.drop start.length) else none

def stripSuffix (ending text : List Char) : Option (List Char) :=
  if ending.isSuffixOf text then some (text.take (text.length - ending.length)) else none

def trim (text : List Char) : List Char := (text.dropWhile isWhiteSpace).rdropWhile isWhiteSpace

/-- `str::parse` of an unsigned number: an optional plus sign, then digits. -/
def parseNat (text : List Char) : Option Nat :=
  let digits := if text.head? = some '+' then text.tail else text
  if !digits.isEmpty && digits.all Char.isDigit then some (Nat.ofDigitChars 10 digits 0) else none

/-- `str::parse::<u32>`. -/
def parseU32 (text : List Char) : Option UInt32 :=
  (parseNat text).bind fun value =>
    if value < 4294967296 then some (UInt32.ofNat value) else none

/-- `str::parse::<i16>`. -/
def parseI16 (text : List Char) : Option Int16 :=
  let value : Option Int :=
    if text.head? = some '-' then
      if text.tail.head? = some '+' then none else (parseNat text.tail).map fun n => -(n : Int)
    else (parseNat text).map fun n => (n : Int)
  value.bind fun value =>
    if -32768 ≤ value ∧ value ≤ 32767 then some (Int16.ofInt value) else none

/-- The word after `key=`. -/
def valueFor (line key : List Char) : Option (List Char) :=
  (after (key ++ ['=']) line).map fun tail => (firstWord? tail).getD tail

/-- A number as it is displayed. -/
def decimal (value : Nat) : List Char := Nat.toDigits 10 value

section Decimal

theorem isDigit_of_mem_decimal {value : Nat} {c : Char} (h : c ∈ decimal value) :
    c.isDigit = true :=
  Nat.isDigit_of_mem_toDigits (by decide) (by decide) h

theorem decimal_ne_nil (value : Nat) : decimal value ≠ [] := Nat.toDigits_ne_nil

theorem head_decimal_ne_plus (value : Nat) : (decimal value).head? ≠ some '+' := by
  intro h
  have hdigit := isDigit_of_mem_decimal (List.mem_of_mem_head? h)
  exact absurd hdigit (by decide)

@[simp] theorem parseNat_decimal (value : Nat) : parseNat (decimal value) = some value := by
  have hall : (decimal value).all Char.isDigit = true :=
    List.all_eq_true.mpr fun _ => isDigit_of_mem_decimal
  unfold parseNat
  rw [if_neg (head_decimal_ne_plus value)]
  simp only [List.isEmpty_eq_false_iff.mpr (decimal_ne_nil value), hall, Bool.not_false,
    Bool.and_self, if_true]
  exact congrArg some Nat.ofDigitChars_ten_toDigits

theorem append_toString_injective (text : String) :
    Function.Injective fun value : Nat => text ++ toString value := by
  intro a b h
  have hdigits : Nat.toDigits 10 a = Nat.toDigits 10 b := by
    have hlist := congrArg String.toList h
    simpa [Nat.toList_repr] using hlist
  rw [← @Nat.ofDigitChars_ten_toDigits a, hdigits, Nat.ofDigitChars_ten_toDigits]

@[simp] theorem parseU32_decimal (value : UInt32) : parseU32 (decimal value.toNat) = some value := by
  unfold parseU32
  rw [parseNat_decimal]
  have hbound : value.toNat < 4294967296 := value.toNat_lt
  simp [hbound]

theorem decimal_injective {a b : Nat} (h : decimal a = decimal b) : a = b := by
  have hparse := parseNat_decimal a
  rw [h, parseNat_decimal] at hparse
  exact (Option.some.inj hparse).symm

theorem isDigit_range {c : Char} (h : c.isDigit = true) : 48 ≤ c.toNat ∧ c.toNat ≤ 57 := by
  simp only [Char.isDigit, Bool.and_eq_true, decide_eq_true_eq] at h
  exact ⟨h.1, h.2⟩

theorem isWhiteSpace_of_isDigit {c : Char} (h : c.isDigit = true) : isWhiteSpace c = false := by
  obtain ⟨hlow, hhigh⟩ := isDigit_range h
  simp only [isWhiteSpace, List.contains_eq_mem, List.mem_cons, List.not_mem_nil, or_false,
    Bool.or_eq_false_iff, Bool.and_eq_false_iff, decide_eq_false_iff_not]
  omega

theorem isAsciiWhiteSpace_of_isDigit {c : Char} (h : c.isDigit = true) :
    isAsciiWhiteSpace c = false := by
  obtain ⟨hlow, hhigh⟩ := isDigit_range h
  simp only [isAsciiWhiteSpace, List.contains_eq_mem, List.mem_cons, List.not_mem_nil, or_false,
    decide_eq_false_iff_not]
  omega

/-- The ASCII characters with ink. -/
def isGraphic (c : Char) : Bool := 33 ≤ c.toNat && c.toNat ≤ 126

theorem isGraphic_of_isDigit {c : Char} (h : c.isDigit = true) : isGraphic c = true := by
  obtain ⟨hlow, hhigh⟩ := isDigit_range h
  simp only [isGraphic, Bool.and_eq_true, decide_eq_true_eq]
  omega

theorem isWhiteSpace_of_isGraphic {c : Char} (h : isGraphic c = true) :
    isWhiteSpace c = false := by
  simp only [isGraphic, Bool.and_eq_true, decide_eq_true_eq] at h
  simp only [isWhiteSpace, List.contains_eq_mem, List.mem_cons, List.not_mem_nil, or_false,
    Bool.or_eq_false_iff, Bool.and_eq_false_iff, decide_eq_false_iff_not]
  omega

theorem isGraphic_of_mem_decimal {value : Nat} {c : Char} (h : c ∈ decimal value) :
    isGraphic c = true := isGraphic_of_isDigit (isDigit_of_mem_decimal h)

theorem not_mem_decimal {value : Nat} {c : Char} (h : c.isDigit = false) : c ∉ decimal value := by
  intro hmem
  rw [isDigit_of_mem_decimal hmem] at h
  cases h

end Decimal

section Words

theorem isAsciiWhiteSpace_of_all {word : List Char}
    (h : (word.all fun c => !isAsciiWhiteSpace c) = true) :
    ∀ c ∈ word, isAsciiWhiteSpace c = false := by
  simpa using h

theorem asciiWords_append {word rest : List Char} {separator : Char}
    (hword : ∀ c ∈ word, isAsciiWhiteSpace c = false) (hne : word ≠ [])
    (hseparator : isAsciiWhiteSpace separator = true) :
    asciiWords (word ++ separator :: rest) = word :: asciiWords rest := by
  unfold asciiWords
  rw [List.splitOnP_append_cons _ _ hseparator, List.splitOnP_eq_singleton hword]
  simp [hne]

theorem asciiWords_single {word : List Char} (hword : ∀ c ∈ word, isAsciiWhiteSpace c = false)
    (hne : word ≠ []) : asciiWords word = [word] := by
  unfold asciiWords
  rw [List.splitOnP_eq_singleton hword]
  simp [hne]

end Words

section Fields

variable {word text rest key name value : List Char} {separator : Char}

theorem after_append_cons (hseparator : separator ∉ word) (htext : ¬ word <:+: text) :
    after word (text ++ separator :: rest) = after word rest := by
  have hstart (start : List Char) (hstart : word <+: start ++ separator :: rest) :
      word <+: start := by
    obtain hle | hle := List.prefix_or_prefix_of_prefix hstart (List.prefix_append _ _)
    · exact hle
    · obtain ⟨tail, rfl⟩ := hle
      cases tail with
      | nil => simp
      | cons first tail =>
        have hfirst := (List.prefix_append_right_inj start).mp hstart
        obtain ⟨heq, -⟩ := List.cons_prefix_cons.mp hfirst
        exact absurd (by simp [heq]) hseparator
  induction text with
  | nil =>
    have hnot : ¬ word <+: separator :: rest := fun h => htext (hstart [] h).isInfix
    simp [after, hnot]
  | cons c text ih =>
    have hnot : ¬ word <+: c :: (text ++ separator :: rest) := fun h =>
      htext (hstart (c :: text) h).isInfix
    have htail : ¬ word <:+: text := fun h => htext (List.infix_cons h)
    simp only [List.cons_append, after, List.isPrefixOf_iff_prefix, hnot, if_false]
    exact ih htail

@[simp] theorem after_self : after word (word ++ rest) = some rest := by
  have hopening : word.isPrefixOf (word ++ rest) = true :=
    List.isPrefixOf_iff_prefix.mpr (List.prefix_append _ _)
  cases hcons : word ++ rest with
  | nil =>
    obtain ⟨rfl, rfl⟩ := List.append_eq_nil_iff.mp hcons
    rfl
  | cons c tail =>
    rw [hcons] at hopening
    unfold after
    rw [if_pos hopening, ← hcons, List.drop_left]

theorem not_infix_field (hname : '=' ∉ name) (hvalue : '=' ∉ value) (hkey : ¬ key <:+ name) :
    ¬ key ++ ['='] <:+: name ++ '=' :: value := by
  rintro ⟨start, tail, heq⟩
  have hsplit : (start ++ key) ++ '=' :: tail = name ++ '=' :: value := by
    simpa using heq
  obtain ⟨between, hleft, hright⟩ | ⟨between, hleft, hright⟩ :=
    List.append_eq_append_iff.mp hsplit
  · cases between with
    | nil =>
      apply hkey
      exact ⟨start, by simpa using hleft.symm⟩
    | cons c between =>
      obtain rfl : '=' = c := (List.cons.inj hright).1
      apply hname
      simp [hleft]
  · cases between with
    | nil =>
      apply hkey
      exact ⟨start, by simpa using hleft⟩
    | cons c between =>
      apply hvalue
      have htail := (List.cons.inj hright).2
      simp [htail]

theorem firstWord?_append (hword : ∀ c ∈ word, isWhiteSpace c = false) (hne : word ≠ [])
    (hrest : ∀ c ∈ rest.head?, isWhiteSpace c = true) : firstWord? (word ++ rest) = some word := by
  obtain ⟨first, tail, rfl⟩ := List.exists_cons_of_ne_nil hne
  have hdrop : (first :: tail ++ rest).dropWhile isWhiteSpace = first :: tail ++ rest := by
    simp [hword first]
  have htake : (first :: tail ++ rest).takeWhile (fun c => !isWhiteSpace c) = first :: tail := by
    rw [List.takeWhile_append_of_pos (by simpa using hword)]
    cases rest with
    | nil => simp
    | cons c rest =>
      have hc : isWhiteSpace c = true := hrest c rfl
      simp [hc]
  unfold firstWord?
  rw [hdrop, htake]
  rfl

theorem valueFor_field (hvalue : ∀ c ∈ value, isWhiteSpace c = false) (hne : value ≠ [])
    (hrest : ∀ c ∈ rest.head?, isWhiteSpace c = true) :
    valueFor (key ++ '=' :: (value ++ rest)) key = some value := by
  have hafter : after (key ++ ['=']) (key ++ '=' :: (value ++ rest)) = some (value ++ rest) := by
    have hself := @after_self (key ++ ['=']) (value ++ rest)
    simpa using hself
  unfold valueFor
  rw [hafter, Option.map_some, firstWord?_append hvalue hne hrest]
  rfl

theorem valueFor_skip (hkey : ' ' ∉ key) (htext : ¬ key ++ ['='] <:+: text) :
    valueFor (text ++ ' ' :: rest) key = valueFor rest key := by
  have hword : ' ' ∉ key ++ ['='] := by
    simp [hkey]
  unfold valueFor
  rw [after_append_cons hword htext]

theorem splitOnce_append (h : separator ∉ text) :
    splitOnce separator (text ++ separator :: rest) = some (text, rest) := by
  induction text with
  | nil => simp [splitOnce]
  | cons c text ih =>
    have hne : c ≠ separator := fun heq => h (by simp [heq])
    have htail : separator ∉ text := fun hmem => h (List.mem_cons_of_mem _ hmem)
    simp [splitOnce, hne, ih htail]

theorem split_at {word more : List Char} (htext : separator ∉ text) (hword : separator ∉ word)
    (h : text ++ separator :: rest = word ++ separator :: more) : text = word ∧ rest = more := by
  have hsplit := congrArg (splitOnce separator) h
  rw [splitOnce_append htext, splitOnce_append hword] at hsplit
  simpa using hsplit

@[simp] theorem stripSuffix_append : stripSuffix rest (text ++ rest) = some text := by
  unfold stripSuffix
  rw [if_pos (List.isSuffixOf_iff_suffix.mpr (List.suffix_append text rest))]
  simp

@[simp] theorem stripPrefix_append : stripPrefix text (text ++ rest) = some rest := by
  simp [stripPrefix]

/-- `rsplit_once`. -/
def rsplitOnce (word : List Char) : List Char → Option (List Char × List Char)
  | [] => if word.isEmpty then some ([], []) else none
  | c :: rest =>
    match rsplitOnce word rest with
    | some (head, tail) => some (c :: head, tail)
    | none =>
      if word.isPrefixOf (c :: rest) then some ([], (c :: rest).drop word.length) else none

theorem eq_of_rsplitOnce {head tail : List Char} (h : rsplitOnce word text = some (head, tail)) :
    text = head ++ word ++ tail := by
  induction text generalizing head with
  | nil =>
    rw [rsplitOnce] at h
    split at h
    · next hempty =>
      cases h
      simpa using hempty
    · cases h
  | cons c rest ih =>
    rw [rsplitOnce] at h
    cases hrest : rsplitOnce word rest with
    | some pair =>
      obtain ⟨start, ending⟩ := pair
      simp only [hrest, Option.some.injEq, Prod.mk.injEq] at h
      obtain ⟨rfl, rfl⟩ := h
      rw [ih hrest]
      rfl
    | none =>
      simp only [hrest] at h
      split at h
      · next hstart =>
        cases h
        obtain ⟨tail, htail⟩ := List.isPrefixOf_iff_prefix.mp hstart
        rw [← htail, List.drop_left, List.nil_append]
      · cases h

/-- A word that opens with the separator is found last where nothing after it has one. -/
theorem rsplitOnce_append (hname : separator ∉ name) (hvalue : separator ∉ value) :
    rsplitOnce (separator :: name) (text ++ (separator :: name) ++ value) =
      some (text, value) := by
  induction text with
  | nil =>
    have hrest : rsplitOnce (separator :: name) (name ++ value) = none := by
      cases hfound : rsplitOnce (separator :: name) (name ++ value) with
      | none => rfl
      | some pair =>
        have hmem : separator ∈ name ++ value := by
          rw [eq_of_rsplitOnce hfound]
          simp
        exact absurd (List.mem_append.mp hmem) (by simp [hname, hvalue])
    have hstart : (separator :: name).isPrefixOf (separator :: (name ++ value)) = true :=
      List.isPrefixOf_iff_prefix.mpr (List.prefix_append _ _)
    simp only [List.nil_append, List.cons_append, rsplitOnce, hrest, hstart, if_true,
      List.length_cons, List.drop_succ_cons, List.drop_left]
  | cons c text ih =>
    simp only [List.cons_append, List.append_assoc] at ih ⊢
    rw [rsplitOnce, ih]

/-- The last word is the only one that can follow the separator without another one. -/
theorem rsplitOnce_last {head last tail : List Char} (hlast : separator ∉ last)
    (hname : separator ∉ name) (htail : separator ∉ tail)
    (h : rsplitOnce (separator :: name) (head ++ separator :: last) = some (text, tail)) :
    name <+: last := by
  have hsplit := eq_of_rsplitOnce h
  rw [List.append_assoc, List.cons_append] at hsplit
  have hrest : separator ∉ name ++ tail := by simp [hname, htail]
  have hlength : ∀ {start other : List Char}, separator ∉ other →
      ((start ++ separator :: other).reverse.takeWhile (· ≠ separator)) = other.reverse := by
    intro start other hother
    rw [List.reverse_append, List.reverse_cons, List.append_assoc,
      List.takeWhile_append_of_pos (by simpa using fun c hc => ne_of_mem_of_not_mem hc hother)]
    simp
  have hsame := congrArg (fun line => line.reverse.takeWhile (· ≠ separator)) hsplit
  simp only [hlength hlast, hlength hrest, List.reverse_inj] at hsame
  exact ⟨tail, hsame.symm⟩

end Fields

section Trim

variable {text : List Char} {c : Char}

theorem trim_of_edges (hhead : ∀ c ∈ text.head?, isWhiteSpace c = false)
    (hlast : ∀ c ∈ text.getLast?, isWhiteSpace c = false) : trim text = text := by
  have hdrop : text.dropWhile isWhiteSpace = text := by
    cases text with
    | nil => rfl
    | cons first text =>
      have hfirst : isWhiteSpace first = false := hhead first rfl
      simp [hfirst]
  unfold trim
  rw [hdrop]
  rw [List.rdropWhile_eq_self_iff]
  intro hne
  simp [hlast _ (List.getLast?_eq_getLast_of_ne_nil hne)]

theorem trim_cons (h : isWhiteSpace c = true) : trim (c :: text) = trim text := by
  simp [trim, h]

theorem trim_concat (hhead : ∀ c ∈ text.head?, isWhiteSpace c = false) (hne : text ≠ [])
    (h : isWhiteSpace c = true) : trim (text ++ [c]) = trim text := by
  obtain ⟨first, tail, rfl⟩ := List.exists_cons_of_ne_nil hne
  have hfirst : isWhiteSpace first = false := hhead first rfl
  unfold trim
  simp only [List.cons_append, List.dropWhile_cons, hfirst, Bool.false_eq_true, if_false]
  exact List.rdropWhile_concat_pos isWhiteSpace (first :: tail) c h

end Trim

section Writing

/-- Writing to a text of bounded capacity: a piece that does not fit ends it. The pieces are
ASCII. -/
def writeAll (capacity : Nat) (buffer : List Char) : List (List Char) → List Char × Bool
  | [] => (buffer, true)
  | piece :: pieces =>
    if buffer.length + piece.length ≤ capacity then
      writeAll capacity (buffer ++ piece) pieces
    else (buffer, false)

theorem writeAll_fits {capacity : Nat} {buffer : List Char} {pieces : List (List Char)}
    (h : buffer.length + pieces.flatten.length ≤ capacity) :
    writeAll capacity buffer pieces = (buffer ++ pieces.flatten, true) := by
  induction pieces generalizing buffer with
  | nil => simp [writeAll]
  | cons piece pieces ih =>
    simp only [List.flatten_cons, List.length_append] at h
    have hpiece : buffer.length + piece.length ≤ capacity := by omega
    have hrest : (buffer ++ piece).length + pieces.flatten.length ≤ capacity := by
      rw [List.length_append]
      omega
    unfold writeAll
    rw [if_pos hpiece, ih hrest]
    simp

theorem writeAll_full {capacity : Nat} {buffer : List Char} {pieces : List (List Char)}
    (h : capacity < buffer.length + pieces.flatten.length) (hne : buffer.length ≤ capacity) :
    (writeAll capacity buffer pieces).2 = false := by
  induction pieces generalizing buffer with
  | nil => simp at h; omega
  | cons piece pieces ih =>
    unfold writeAll
    split
    · rename_i hpiece
      apply ih
      · simp only [List.flatten_cons, List.length_append] at h ⊢
        omega
      · simpa using hpiece
    · rfl

/-- A line up to its end, without carriage returns. -/
def rawLine (text : List Char) : List Char :=
  (text.takeWhile (· ≠ '\n')).filter (· ≠ '\r')

theorem rawLine_append {text : List Char} (hline : '\n' ∉ text) (hreturn : '\r' ∉ text) :
    rawLine (text ++ ['\n']) = text := by
  have htake : (text ++ ['\n']).takeWhile (· ≠ '\n') = text := by
    rw [List.takeWhile_append_of_pos]
    · simp
    · intro c hmem
      simpa using ne_of_mem_of_not_mem hmem hline
  unfold rawLine
  rw [htake, List.filter_eq_self]
  intro c hmem
  simpa using ne_of_mem_of_not_mem hmem hreturn

end Writing

end Text

end Netherwick.Lib
