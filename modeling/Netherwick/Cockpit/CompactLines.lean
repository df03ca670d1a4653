import Netherwick.Cockpit.Interface
import Mathlib.Data.List.Basic

/-! # Compact lines

`CompactLineDecoder` takes a byte stream push by push and gives its lines. A push that meets a frame
which is too long or not UTF-8 ends early, with what it had found and what was still to come. -/

namespace Netherwick.Cockpit

/-- The text of a frame. -/
def fromUtf8 (bytes : List UInt8) : Option String := String.fromUTF8? ⟨bytes.toArray⟩

def carriageReturn : UInt8 := 13
def newline : UInt8 := 10

structure CompactLineDecoder where
  buffer : List UInt8
  maxLen : Nat

namespace CompactLineDecoder

def new (maxLen : Nat) : CompactLineDecoder := { buffer := [], maxLen }

/-- The loop of `push`, with the lines so far. -/
def pushFrom (lines : List String) :
    List UInt8 → CompactLineDecoder → Except CockpitError (List String) × CompactLineDecoder
  | [], self => (.ok lines, self)
  | byte :: bytes, self =>
    if byte = carriageReturn then pushFrom lines bytes self
    else if byte = newline then
      match fromUtf8 self.buffer with
      | none => (.error (.badResponse "compact frame was not utf-8"), self)
      | some line =>
        pushFrom (if line.isEmpty then lines else lines ++ [line]) bytes
          { self with buffer := [] }
    else if self.maxLen ≤ self.buffer.length then
      (.error (.frameTooLarge self.maxLen), { self with buffer := [] })
    else pushFrom lines bytes { self with buffer := self.buffer ++ [byte] }

def push (self : CompactLineDecoder) (bytes : List UInt8) :
    Except CockpitError (List String) × CompactLineDecoder :=
  pushFrom [] bytes self

def pushes : CompactLineDecoder → List (List UInt8) →
    List (Except CockpitError (List String)) × CompactLineDecoder
  | self, [] => ([], self)
  | self, chunk :: chunks =>
    let (result, self) := self.push chunk
    let (results, self) := pushes self chunks
    (result :: results, self)

end CompactLineDecoder

section Stream

/-- A stream split at its newlines, without its carriage returns, and what follows the last one. -/
structure Pieces where
  frames : List (List UInt8) := []
  unfinished : List UInt8 := []

def Pieces.add (p : Pieces) (byte : UInt8) : Pieces :=
  if byte = carriageReturn then p
  else if byte = newline then { frames := p.frames ++ [p.unfinished], unfinished := [] }
  else { p with unfinished := p.unfinished ++ [byte] }

def Pieces.extend (p : Pieces) (bytes : List UInt8) : Pieces := bytes.foldl Pieces.add p

def pieces (stream : List UInt8) : Pieces := ({} : Pieces).extend stream

variable (maxLen : Nat)

def badFrame (frame : List UInt8) : Bool := decide (maxLen < frame.length) || (fromUtf8 frame).isNone

def lineOf (frame : List UInt8) : Option String :=
  if badFrame maxLen frame then none else (fromUtf8 frame).filter fun line => !line.isEmpty

def Pieces.lines (p : Pieces) : List String := p.frames.filterMap (lineOf maxLen)

/-- The bad frames. One that is already too long counts before its newline is there. -/
def Pieces.faults (p : Pieces) : Nat :=
  p.frames.countP (badFrame maxLen) + if maxLen < p.unfinished.length then 1 else 0

end Stream

section Outcome

/-- The lines that a run of pushes gave. -/
def linesGiven (results : List (Except CockpitError (List String))) : List String :=
  results.flatMap fun result => result.toOption.getD []

def errorsGiven (results : List (Except CockpitError (List String))) : Nat :=
  results.countP fun result => !result.isOk

/-- The pushes give the well-formed lines of the stream and one error for every bad frame. -/
def KeepsFraming (maxLen : Nat) (chunks : List (List UInt8)) : Prop :=
  let results := ((CompactLineDecoder.new maxLen).pushes chunks).1
  linesGiven results = (pieces chunks.flatten).lines maxLen ∧
    errorsGiven results = (pieces chunks.flatten).faults maxLen

end Outcome

section Spared

def DropsFrameOnly (dropped : List UInt8) : Prop :=
  newline ∉ dropped ∨ ∃ rest blank, dropped = rest ++ newline :: blank ∧ newline ∉ rest ∧
    ∀ byte ∈ blank, byte = carriageReturn ∨ byte = newline

/-- A push that loses nothing, by what is unfinished before it. It has no bad frame; or one that
becomes too long after no line of its own, with nothing else dropped; or it finishes nothing of a
frame that is too long already; or it ends such a frame at once and then loses nothing. -/
inductive Spared (maxLen : Nat) : List UInt8 → List UInt8 → Prop
  | clean {unfinished chunk : List UInt8}
      (h : (Pieces.extend { unfinished } chunk).faults maxLen = 0) : Spared maxLen unfinished chunk
  | overrun {unfinished before dropped : List UInt8} {byte : UInt8}
      (hlines : (Pieces.extend { unfinished } before).lines maxLen = [])
      (hfaults : (Pieces.extend { unfinished } before).faults maxLen = 0)
      (hfull : (Pieces.extend { unfinished } before).unfinished.length = maxLen)
      (hbyte : byte ≠ carriageReturn ∧ byte ≠ newline) (hdropped : DropsFrameOnly dropped) :
      Spared maxLen unfinished (before ++ byte :: dropped)
  | idle {unfinished chunk : List UInt8} (hlong : maxLen < unfinished.length)
      (hreturns : ∀ byte ∈ chunk, byte = carriageReturn) : Spared maxLen unfinished chunk
  | resumed {unfinished returns chunk : List UInt8} (hlong : maxLen < unfinished.length)
      (hreturns : ∀ byte ∈ returns, byte = carriageReturn) (hchunk : Spared maxLen [] chunk) :
      Spared maxLen unfinished (returns ++ newline :: chunk)

/-- Every push of a run loses nothing. -/
def AllSpared (maxLen : Nat) : List UInt8 → List (List UInt8) → Prop
  | _, [] => True
  | stream, chunk :: chunks =>
    Spared maxLen (pieces stream).unfinished chunk ∧ AllSpared maxLen (stream ++ chunk) chunks

end Spared

namespace Pieces

variable {maxLen : Nat} {p : Pieces} {byte : UInt8} {bytes unfinished : List UInt8}

@[simp] theorem extend_nil : p.extend [] = p := rfl

@[simp] theorem extend_cons : p.extend (byte :: bytes) = (p.add byte).extend bytes := rfl

theorem extend_append (first second : List UInt8) :
    p.extend (first ++ second) = (p.extend first).extend second :=
  List.foldl_append

@[simp] theorem add_carriageReturn : p.add carriageReturn = p := rfl

@[simp] theorem add_newline :
    p.add newline = { frames := p.frames ++ [p.unfinished], unfinished := [] } := rfl

theorem add_other (h : byte ≠ carriageReturn ∧ byte ≠ newline) :
    p.add byte = { p with unfinished := p.unfinished ++ [byte] } := by
  simp [add, h.1, h.2]

theorem extend_frames (p : Pieces) (bytes : List UInt8) :
    p.extend bytes =
      { frames := p.frames ++ (Pieces.extend { unfinished := p.unfinished } bytes).frames
        unfinished := (Pieces.extend { unfinished := p.unfinished } bytes).unfinished } := by
  induction bytes generalizing p with
  | nil => simp
  | cons byte bytes ih =>
    by_cases hreturn : byte = carriageReturn
    · subst hreturn
      simpa using ih p
    · by_cases hnewline : byte = newline
      · subst hnewline
        rw [extend_cons, extend_cons, ih, ih (Pieces.add { unfinished := p.unfinished } newline)]
        simp
      · rw [extend_cons, extend_cons, ih,
          ih (Pieces.add { unfinished := p.unfinished } byte), add_other ⟨hreturn, hnewline⟩,
          add_other ⟨hreturn, hnewline⟩]
        simp

theorem lines_extend (p : Pieces) (bytes : List UInt8) :
    (p.extend bytes).lines maxLen =
      p.lines maxLen ++ (Pieces.extend { unfinished := p.unfinished } bytes).lines maxLen := by
  rw [extend_frames]
  simp [lines]

theorem faults_extend (p : Pieces) (bytes : List UInt8) :
    (p.extend bytes).faults maxLen = p.frames.countP (badFrame maxLen) +
      (Pieces.extend { unfinished := p.unfinished } bytes).faults maxLen := by
  rw [extend_frames]
  simp only [faults, List.countP_append]
  omega

theorem extend_unfinished (h : newline ∉ bytes) :
    ∃ more, p.extend bytes = { p with unfinished := p.unfinished ++ more } := by
  induction bytes generalizing p with
  | nil => exact ⟨[], by simp⟩
  | cons byte bytes ih =>
    rw [List.mem_cons, not_or] at h
    by_cases hreturn : byte = carriageReturn
    · subst hreturn
      exact ih h.2
    · obtain ⟨more, hmore⟩ := @ih (p.add byte) h.2
      refine ⟨byte :: more, ?_⟩
      rw [extend_cons, hmore, add_other ⟨hreturn, Ne.symm h.1⟩]
      simp

theorem extend_returns (h : ∀ byte ∈ bytes, byte = carriageReturn) : p.extend bytes = p := by
  induction bytes with
  | nil => rfl
  | cons byte bytes ih =>
    rw [List.forall_mem_cons] at h
    rw [extend_cons, h.1, add_carriageReturn]
    exact ih h.2

theorem badFrame_nil : badFrame maxLen [] = false := by
  have hutf8 : fromUtf8 [] = some "" := by rfl
  simp [badFrame, hutf8]

theorem badFrame_long (h : maxLen < unfinished.length) : badFrame maxLen unfinished = true := by
  simp [badFrame, h]

theorem lineOf_nil : lineOf maxLen [] = none := by
  have hutf8 : fromUtf8 [] = some "" := by rfl
  simp [lineOf, badFrame_nil, hutf8, Option.filter]

theorem extend_blank (h : ∀ byte ∈ bytes, byte = carriageReturn ∨ byte = newline) :
    (Pieces.extend {} bytes).unfinished = [] ∧ (Pieces.extend {} bytes).lines maxLen = [] ∧
      (Pieces.extend {} bytes).faults maxLen = 0 := by
  induction bytes with
  | nil => simp [lines, faults]
  | cons byte bytes ih =>
    rw [List.forall_mem_cons] at h
    obtain ⟨hunfinished, hlines, hfaults⟩ := ih h.2
    obtain rfl | rfl := h.1
    · exact ⟨hunfinished, hlines, hfaults⟩
    · rw [extend_cons, add_newline]
      refine ⟨?_, ?_, ?_⟩
      · rw [extend_frames]
        exact hunfinished
      · rw [lines_extend]
        simpa [lines, lineOf_nil] using hlines
      · rw [faults_extend]
        simpa [badFrame_nil] using hfaults

theorem unfinished_le (h : (Pieces.extend { unfinished } bytes).faults maxLen = 0) :
    unfinished.length ≤ maxLen := by
  induction bytes generalizing unfinished with
  | nil =>
    by_contra hlong
    simp [faults, Nat.not_le.mp hlong] at h
  | cons byte bytes ih =>
    by_cases hreturn : byte = carriageReturn
    · subst hreturn
      exact ih h
    · by_cases hnewline : byte = newline
      · subst hnewline
        rw [extend_cons, add_newline, faults_extend] at h
        have hbad : badFrame maxLen unfinished = false := by
          by_contra hbad
          simp [Bool.eq_true_of_not_eq_false hbad] at h
        simp only [badFrame, Bool.or_eq_false_iff, decide_eq_false_iff_not] at hbad
        omega
      · rw [extend_cons, add_other ⟨hreturn, hnewline⟩] at h
        have hmore := ih h
        simp only [List.length_append, List.length_singleton] at hmore
        omega

end Pieces

section Steps

variable {maxLen : Nat} {unfinished chunk dropped : List UInt8} {lines : List String}
  {self : CompactLineDecoder}

open CompactLineDecoder Pieces

theorem pushFrom_clean (hmax : self.maxLen = maxLen) (hbuffer : self.buffer = unfinished)
    (h : (Pieces.extend { unfinished } chunk).faults maxLen = 0) (rest : List UInt8) :
    pushFrom lines (chunk ++ rest) self =
      pushFrom (lines ++ (Pieces.extend { unfinished } chunk).lines maxLen) rest
        { self with buffer := (Pieces.extend { unfinished } chunk).unfinished } := by
  induction chunk generalizing lines unfinished self with
  | nil =>
    subst hbuffer
    simp [Pieces.lines]
  | cons byte bytes ih =>
    by_cases hreturn : byte = carriageReturn
    · subst hreturn
      rw [List.cons_append, pushFrom, if_pos rfl]
      exact ih hmax hbuffer h
    by_cases hnewline : byte = newline
    · subst hnewline
      rw [extend_cons, add_newline, faults_extend] at h
      have hbad : badFrame maxLen unfinished = false := by
        by_contra hbad
        simp [Bool.eq_true_of_not_eq_false hbad] at h
      have hrest : (Pieces.extend {} bytes).faults maxLen = 0 := Nat.eq_zero_of_add_eq_zero_left h
      have hutf8 : (fromUtf8 unfinished).isNone = false := by
        simp only [badFrame, Bool.or_eq_false_iff] at hbad
        exact hbad.2
      obtain ⟨line, hline⟩ : ∃ line, fromUtf8 unfinished = some line := by
        cases hcase : fromUtf8 unfinished with
        | none => simp [hcase] at hutf8
        | some line => exact ⟨line, rfl⟩
      have hgiven : (if line.isEmpty then lines else lines ++ [line]) =
          lines ++ (lineOf maxLen unfinished).toList := by
        by_cases hempty : line.isEmpty <;> simp [lineOf, hbad, hline, hempty, Option.filter]
      rw [List.cons_append, pushFrom, if_neg hreturn, if_pos rfl, hbuffer, hline]
      dsimp only
      have htaken : pushFrom (lines ++ (lineOf maxLen unfinished).toList) (bytes ++ rest)
          { self with buffer := [] } = _ := @ih [] _ { self with buffer := [] } hmax rfl hrest
      have hframes : (Pieces.extend { frames := [unfinished], unfinished := [] } bytes).lines
          maxLen = _ := lines_extend _ bytes
      have hone : ({ frames := [unfinished], unfinished := [] } : Pieces).lines maxLen =
          (lineOf maxLen unfinished).toList := by
        cases hcase : lineOf maxLen unfinished <;> simp [Pieces.lines, hcase]
      have hlast : (Pieces.extend { frames := [unfinished], unfinished := [] } bytes).unfinished =
          (Pieces.extend {} bytes).unfinished := by
        rw [extend_frames]
      rw [hgiven, htaken, extend_cons, add_newline, List.nil_append, hframes, hone, hlast,
        List.append_assoc]
    · rw [extend_cons, add_other ⟨hreturn, hnewline⟩] at h ⊢
      have hshort := unfinished_le h
      simp only [List.length_append, List.length_singleton] at hshort
      have hroom : ¬self.maxLen ≤ self.buffer.length := by
        rw [hmax, hbuffer]
        omega
      rw [List.cons_append, pushFrom, if_neg hreturn, if_neg hnewline, if_neg hroom, hbuffer]
      exact @ih _ _ { self with buffer := unfinished ++ [byte] } hmax rfl h

theorem pushFrom_returns (h : ∀ byte ∈ chunk, byte = carriageReturn) (rest : List UInt8) :
    pushFrom lines (chunk ++ rest) self = pushFrom lines rest self := by
  induction chunk with
  | nil => rfl
  | cons byte bytes ih =>
    rw [List.forall_mem_cons] at h
    rw [List.cons_append, pushFrom, if_pos h.1]
    exact ih h.2

/-- The bytes a decoder should hold: those of a frame that can still be given. -/
def held (maxLen : Nat) (unfinished : List UInt8) : List UInt8 :=
  if maxLen < unfinished.length then [] else unfinished

/-- A push has kept to the framing: it gave the lines it should and an error for every fault it met,
and holds what it should. -/
structure KeepsUp (maxLen : Nat) (unfinished chunk : List UInt8)
    (outcome : Except CockpitError (List String) × CompactLineDecoder) : Prop where
  limit : outcome.2.maxLen = maxLen
  buffer : outcome.2.buffer = held maxLen (Pieces.extend { unfinished } chunk).unfinished
  lines : (Pieces.extend { unfinished } chunk).lines maxLen = outcome.1.toOption.getD []
  faults : (Pieces.extend { unfinished } chunk).faults maxLen =
    (if maxLen < unfinished.length then 1 else 0) + if outcome.1.isOk then 0 else 1

theorem extend_dropped (hlong : maxLen < unfinished.length) (h : DropsFrameOnly dropped) :
    held maxLen (Pieces.extend { unfinished } dropped).unfinished = [] ∧
      (Pieces.extend { unfinished } dropped).lines maxLen = [] ∧
      (Pieces.extend { unfinished } dropped).faults maxLen = 1 := by
  have hmore : ∀ more, maxLen < (unfinished ++ more).length := by
    intro more
    rw [List.length_append]
    omega
  obtain h | ⟨rest, blank, rfl, hrest, hblank⟩ := h
  · obtain ⟨more, hextend⟩ := @extend_unfinished { unfinished } _ h
    have hless := hmore more
    rw [hextend]
    refine ⟨if_pos hless, rfl, ?_⟩
    simp only [faults, if_pos hless, List.countP_nil]
  · obtain ⟨more, hextend⟩ := @extend_unfinished { unfinished } _ hrest
    obtain ⟨hunfinished, hlines, hfaults⟩ := @extend_blank maxLen _ hblank
    have hbad := badFrame_long (hmore more)
    have hnone : ({ frames := [unfinished ++ more], unfinished := [] } : Pieces).lines maxLen =
        [] := by
      simp [Pieces.lines, lineOf, hbad]
    rw [extend_append, extend_cons, hextend, add_newline, List.nil_append]
    refine ⟨?_, ?_, ?_⟩
    · rw [extend_frames, hunfinished, held]
      simp
    · rw [lines_extend, hnone, hlines]
      rfl
    · rw [faults_extend, hfaults]
      simp [hbad]

theorem keepsUp_clean (hmax : self.maxLen = maxLen) (hbuffer : self.buffer = unfinished)
    (h : (Pieces.extend { unfinished } chunk).faults maxLen = 0) :
    KeepsUp maxLen unfinished chunk (self.push chunk) := by
  have htaken : self.push chunk = (.ok ((Pieces.extend { unfinished } chunk).lines maxLen),
      { self with buffer := (Pieces.extend { unfinished } chunk).unfinished }) := by
    have hpush := @pushFrom_clean _ _ _ [] _ hmax hbuffer h []
    rwa [List.append_nil, List.nil_append] at hpush
  have hshort := unfinished_le h
  have hend : (Pieces.extend { unfinished } chunk).unfinished.length ≤ maxLen := by
    by_contra hlong
    rw [Pieces.faults, if_pos (by omega)] at h
    omega
  rw [htaken]
  constructor
  · exact hmax
  · rw [held, if_neg (by omega)]
  · rfl
  · rw [h, if_neg (by omega)]
    rfl

theorem keepsUp_overrun {before : List UInt8} {byte : UInt8} (hmax : self.maxLen = maxLen)
    (hbuffer : self.buffer = unfinished)
    (hlines : (Pieces.extend { unfinished } before).lines maxLen = [])
    (hfaults : (Pieces.extend { unfinished } before).faults maxLen = 0)
    (hfull : (Pieces.extend { unfinished } before).unfinished.length = maxLen)
    (hbyte : byte ≠ carriageReturn ∧ byte ≠ newline) (hdropped : DropsFrameOnly dropped) :
    KeepsUp maxLen unfinished (before ++ byte :: dropped)
      (self.push (before ++ byte :: dropped)) := by
  have hpush : self.push (before ++ byte :: dropped) =
      (.error (.frameTooLarge self.maxLen), { self with buffer := [] }) := by
    rw [push, pushFrom_clean hmax hbuffer hfaults, pushFrom, if_neg hbyte.1, if_neg hbyte.2,
      if_pos (by rw [hmax, hfull])]
  have hshort := unfinished_le hfaults
  generalize hpieces : Pieces.extend { unfinished } before = p at hlines hfaults hfull
  have hlong : maxLen < (p.unfinished ++ [byte]).length := by
    rw [List.length_append, List.length_singleton, hfull]
    omega
  obtain ⟨hheld, hnone, hone⟩ := extend_dropped hlong hdropped
  have hsplit : Pieces.extend { unfinished } (before ++ byte :: dropped) =
      Pieces.extend { p with unfinished := p.unfinished ++ [byte] } dropped := by
    rw [extend_append, hpieces, extend_cons, add_other hbyte]
  have hframes : p.frames.countP (badFrame maxLen) = 0 := Nat.eq_zero_of_add_eq_zero_right hfaults
  have hgiven : Pieces.lines maxLen { p with unfinished := p.unfinished ++ [byte] } = [] := hlines
  rw [hpush]
  constructor
  · exact hmax
  · rw [hsplit, extend_frames]
    exact hheld.symm
  · rw [hsplit, lines_extend, hgiven, hnone]
    rfl
  · rw [hsplit, faults_extend, hone, hframes, if_neg (by omega)]
    rfl

theorem push_keepsUp (h : Spared maxLen unfinished chunk) :
    ∀ {self : CompactLineDecoder}, self.maxLen = maxLen → self.buffer = held maxLen unfinished →
      KeepsUp maxLen unfinished chunk (self.push chunk) := by
  induction h with
  | clean h =>
    intro self hmax hbuffer
    have hshort := unfinished_le h
    rw [held, if_neg (by omega)] at hbuffer
    exact keepsUp_clean hmax hbuffer h
  | overrun hlines hfaults hfull hbyte hdropped =>
    intro self hmax hbuffer
    have hshort := unfinished_le hfaults
    rw [held, if_neg (by omega)] at hbuffer
    exact keepsUp_overrun hmax hbuffer hlines hfaults hfull hbyte hdropped
  | @idle unfinished chunk hlong hreturns =>
    intro self hmax hbuffer
    have hpush : self.push chunk = (.ok [], self) := by
      have hpush := @pushFrom_returns _ [] self hreturns []
      rwa [List.append_nil] at hpush
    rw [hpush]
    constructor
    · exact hmax
    · rw [extend_returns hreturns, hbuffer]
    · rw [extend_returns hreturns]
      rfl
    · rw [extend_returns hreturns]
      simp [Pieces.faults, Except.isOk, Except.toBool]
  | @resumed unfinished returns chunk hlong hreturns hchunk ih =>
    intro self hmax hbuffer
    rw [held, if_pos hlong] at hbuffer
    have hpush : self.push (returns ++ newline :: chunk) = self.push chunk := by
      have hutf8 : fromUtf8 [] = some "" := by rfl
      have hself : { self with buffer := [] } = self := by rw [← hbuffer]
      rw [push, pushFrom_returns hreturns, pushFrom, if_neg (by decide), if_pos rfl, hbuffer,
        hutf8]
      dsimp only
      rw [hself]
      rfl
    have hkept := ih hmax (by rw [hbuffer, held]; simp)
    have hsplit : Pieces.extend { unfinished } (returns ++ newline :: chunk) =
        Pieces.extend { frames := [unfinished], unfinished := [] } chunk := by
      rw [extend_append, extend_returns hreturns, extend_cons, add_newline, List.nil_append]
    have hbad := badFrame_long hlong
    have hgiven : Pieces.lines maxLen { frames := [unfinished], unfinished := [] } = [] := by
      simp [Pieces.lines, lineOf, hbad]
    rw [hpush]
    constructor
    · exact hkept.limit
    · rw [hsplit, extend_frames]
      exact hkept.buffer
    · rw [hsplit, lines_extend, hgiven]
      exact hkept.lines
    · rw [hsplit, faults_extend, if_pos hlong, hkept.faults]
      simp [hbad]

end Steps

section Runs

variable {maxLen : Nat} {chunks : List (List UInt8)}

open CompactLineDecoder

theorem linesGiven_cons (result : Except CockpitError (List String)) (results) :
    linesGiven (result :: results) = result.toOption.getD [] ++ linesGiven results := rfl

theorem errorsGiven_cons (result : Except CockpitError (List String)) (results) :
    errorsGiven (result :: results) = errorsGiven results + if result.isOk then 0 else 1 := by
  cases hresult : result.isOk <;> simp [errorsGiven, hresult]

/-- What a run gives on top of the stream before it. An over-long frame that was unfinished then has
had its error. -/
theorem pushes_keepUp {stream : List UInt8} {self : CompactLineDecoder}
    (hmax : self.maxLen = maxLen) (hbuffer : self.buffer = held maxLen (pieces stream).unfinished)
    (h : AllSpared maxLen stream chunks) :
    (pieces (stream ++ chunks.flatten)).lines maxLen =
        (pieces stream).lines maxLen ++ linesGiven (self.pushes chunks).1 ∧
      (pieces (stream ++ chunks.flatten)).faults maxLen =
        (pieces stream).faults maxLen + errorsGiven (self.pushes chunks).1 := by
  induction chunks generalizing stream self with
  | nil => simp [pushes, linesGiven, errorsGiven]
  | cons chunk chunks ih =>
    have hkept := push_keepsUp h.1 hmax hbuffer
    have hextend : pieces (stream ++ chunk) = (pieces stream).extend chunk :=
      Pieces.extend_append stream chunk
    have hheld : (self.push chunk).2.buffer =
        held maxLen (pieces (stream ++ chunk)).unfinished := by
      rw [hextend, Pieces.extend_frames]
      exact hkept.buffer
    obtain ⟨hlines, hfaults⟩ := ih hkept.limit hheld h.2
    have hnow : (pieces (stream ++ chunk)).faults maxLen =
        (pieces stream).faults maxLen + if (self.push chunk).1.isOk then 0 else 1 := by
      rw [hextend, Pieces.faults_extend, hkept.faults, Pieces.faults]
      omega
    have hpushes : (self.pushes (chunk :: chunks)).1 =
        (self.push chunk).1 :: ((self.push chunk).2.pushes chunks).1 := rfl
    rw [List.flatten_cons, ← List.append_assoc, hpushes, linesGiven_cons, errorsGiven_cons]
    constructor
    · rw [hlines, hextend, Pieces.lines_extend, hkept.lines, List.append_assoc]
    · rw [hfaults, hnow]
      omega

/-- A run whose every push loses nothing keeps to the framing. -/
theorem keepsFraming_of_allSpared (maxLen : Nat) (chunks : List (List UInt8))
    (h : AllSpared maxLen [] chunks) : KeepsFraming maxLen chunks := by
  have hkept := @pushes_keepUp maxLen _ [] (CompactLineDecoder.new maxLen) rfl rfl h
  have hnone : (pieces []).faults maxLen = 0 := by simp [pieces, Pieces.faults]
  constructor
  · exact hkept.1.symm
  · have hfaults := hkept.2
    rw [hnone, Nat.zero_add] at hfaults
    exact hfaults.symm

/-- A frame that is too long is met by the end of its push, and the next push goes on after it. -/
theorem keepsFraming_tooLong : KeepsFraming 2 [[97, 10], [120, 121, 122], [10, 98, 10]] := by
  apply keepsFraming_of_allSpared
  refine ⟨.clean (by decide), ?_, ?_, trivial⟩
  · exact @Spared.overrun _ _ [120, 121] [] 122 (by decide) (by decide) (by decide) (by decide)
      (.inl (by decide))
  · exact @Spared.resumed _ _ [] _ (by decide) (List.forall_mem_nil _) (.clean (by decide))

/-- A line that comes in the same push before a frame that is too long is lost. -/
theorem keepsFraming_not_always : ¬KeepsFraming 2 [[97, 98, 10, 120, 121, 122, 10]] := by
  have hlost : linesGiven ((CompactLineDecoder.new 2).pushes [[97, 98, 10, 120, 121, 122, 10]]).1 =
      [] := by decide +kernel
  have hthere : (pieces [97, 98, 10, 120, 121, 122, 10]).lines 2 = ["ab"] := by decide +kernel
  intro h
  have hlines := h.1
  rw [hlost] at hlines
  exact List.cons_ne_nil _ _ (hthere.symm.trans hlines.symm)

end Runs

end Netherwick.Cockpit
