import Netherwick.Ledger.Format
import Mathlib.Algebra.Order.BigOperators.Group.List
import Mathlib.Algebra.Order.Ring.Nat

/-! # The ledger of lines

Frames are appended to the file of the day, each as a line. An append that stops early leaves the
beginning of its line behind. -/

namespace Netherwick.Ledger

open Netherwick.Lib

/-- An append: the day whose file it goes to, its frame, and after how many bytes it stopped, if it
did not return. -/
structure Append (Frame : Type) where
  day : Nat
  frame : Frame
  stopped : Option Nat

/-- The files of the days, in the order of their paths. -/
abbrev JsonlLedger : Type := List (Nat × List UInt8)

/-- Bytes at the end of the file of the day, which is made if it is not there. -/
def JsonlLedger.write (day : Nat) (bytes : List UInt8) : JsonlLedger → JsonlLedger
  | [] => [(day, bytes)]
  | (other, content) :: rest =>
    if day < other then (day, bytes) :: (other, content) :: rest
    else if day = other then (other, content ++ bytes) :: rest
    else (other, content) :: JsonlLedger.write day bytes rest

section Ledger

variable {Frame : Type} (format : FrameFormat Frame)

def Append.written (append : Append Frame) : List UInt8 :=
  let line := format.text append.frame ++ [newline]
  match append.stopped with
  | none => line
  | some count => line.take count

def JsonlLedger.append (ledger : JsonlLedger) (append : Append Frame) : JsonlLedger :=
  ledger.write append.day (append.written format)

def JsonlLedger.after (history : List (Append Frame)) : JsonlLedger :=
  history.foldl (JsonlLedger.append format) []

def isBlank (line : List UInt8) : Bool := line.all fun byte => byte = 32 || (9 ≤ byte && byte ≤ 13)

def readFile (content : List UInt8) : Option (List Frame) :=
  ((lines content).filter fun line => !isBlank line).mapM format.parse

/-- `read_all`: the files in the order of their paths. -/
def JsonlLedger.frames (ledger : JsonlLedger) : Option (List Frame) :=
  (ledger.mapM fun file => readFile format file.2).map List.flatten

def JsonlLedger.recent (ledger : JsonlLedger) (limit : Nat) : Option (List Frame) :=
  (ledger.frames format).map fun frames => frames.drop (frames.length - limit)

def JsonlLedger.range (ledger : JsonlLedger) (startMs endMs : Nat) : Option (List Frame) :=
  (ledger.frames format).map fun frames =>
    frames.filter fun frame => startMs ≤ format.tMs frame ∧ format.tMs frame ≤ endMs

def acknowledged (history : List (Append Frame)) : List Frame :=
  (history.filter fun append => append.stopped.isNone).map Append.frame

/-- The append left its whole text, with or without the newline. -/
def Append.Whole (append : Append Frame) : Prop :=
  ∀ count, append.stopped = some count → (format.text append.frame).length ≤ count

/-- The append left its whole text and no newline. -/
def Append.Unended (append : Append Frame) : Prop :=
  append.stopped = some (format.text append.frame).length

theorem Append.whole_iff (append : Append Frame) :
    (append.stopped.all fun count => (format.text append.frame).length ≤ count) = true ↔
      append.Whole format := by
  cases hstopped : append.stopped with
  | none => simp [Append.Whole, hstopped]
  | some count => simp [Append.Whole, hstopped]

instance (append : Append Frame) : Decidable (append.Whole format) :=
  decidable_of_iff _ (append.whole_iff format)

end Ledger

section Reading

variable {Frame : Type} {format : FrameFormat Frame} {append : Append Frame}

inductive Leaves (format : FrameFormat Frame) (append : Append Frame) : Prop
  | nothing (stopped : append.stopped = some 0) (written : append.written format = [])
  | line (whole : append.Whole format) (ended : ¬ append.Unended format)
      (written : append.written format = format.text append.frame ++ [newline])
  | text (unended : append.Unended format)
      (written : append.written format = format.text append.frame)
  | part (stopped : append.stopped ≠ some 0) (torn : ¬ append.Whole format)
      (started : append.written format ≠ [])
      (written : append.written format <+: format.text append.frame)
      (short : append.written format ≠ format.text append.frame)

variable (format) in
theorem Append.leaves (append : Append Frame) : Leaves format append := by
  have hne := format.text_ne_nil append.frame
  cases hstopped : append.stopped with
  | none =>
    refine .line ?_ ?_ ?_
    · intro count hcount
      simp [hstopped] at hcount
    · simp [Append.Unended, hstopped]
    · simp [Append.written, hstopped]
  | some count =>
    have hwritten : append.written format =
        (format.text append.frame ++ [newline]).take count := by
      simp [Append.written, hstopped]
    obtain hless | heq | hmore := Nat.lt_trichotomy count (format.text append.frame).length
    · rw [List.take_append_of_le_length hless.le] at hwritten
      by_cases hzero : count = 0
      · subst hzero
        exact .nothing hstopped (by simpa using hwritten)
      · refine .part ?_ ?_ ?_ ?_ ?_
        · simpa [hstopped] using hzero
        · intro hwhole
          have hle := hwhole count hstopped
          omega
        · rw [hwritten]
          simp [hzero, hne]
        · rw [hwritten]
          exact List.take_prefix _ _
        · rw [hwritten]
          intro hall
          have hlength := congrArg List.length hall
          rw [List.length_take] at hlength
          omega
    · refine .text ?_ ?_
      · rw [Append.Unended, hstopped, heq]
      · rw [hwritten, heq, List.take_append_of_le_length (Nat.le_refl _), List.take_length]
    · refine .line ?_ ?_ ?_
      · intro other hother
        rw [hstopped] at hother
        cases hother
        exact hmore.le
      · intro hunended
        rw [Append.Unended, hstopped] at hunended
        cases hunended
        omega
      · rw [hwritten, List.take_of_length_le]
        rw [List.length_append, List.length_singleton]
        omega

/-- The bytes of a file. -/
def content (format : FrameFormat Frame) (appends : List (Append Frame)) : List UInt8 :=
  appends.flatMap (Append.written format)

end Reading

section Fixture

end Fixture

end Netherwick.Ledger
