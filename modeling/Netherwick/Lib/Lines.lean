import Mathlib.Data.List.Basic

/-! # The lines of a file

A reader cuts bytes at every newline. A carriage return before a newline belongs to it, and what
follows the last newline is a line of its own unless it is empty. -/

namespace Netherwick.Lib

def newline : UInt8 := 10

def carriageReturn : UInt8 := 13

def dropReturn (line : List UInt8) : List UInt8 :=
  if line.getLast? = some carriageReturn then line.dropLast else line

/-- The lines of the bytes that follow a piece of the first line. -/
def linesFrom (line : List UInt8) : List UInt8 → List (List UInt8)
  | [] => if line = [] then [] else [line]
  | byte :: rest =>
    if byte = newline then dropReturn line :: linesFrom [] rest
    else linesFrom (line ++ [byte]) rest

def lines (bytes : List UInt8) : List (List UInt8) := linesFrom [] bytes

section Lines

variable {line piece rest : List UInt8}

end Lines

end Netherwick.Lib
