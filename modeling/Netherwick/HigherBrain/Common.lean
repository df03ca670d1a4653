import Netherwick.Lib.FileTree
import Netherwick.Lib.Text

/-! # What the data plane shares

The scopes of a principal, the paths that a manifest may name, and the code that is not the
repository's own: digests and the reading of JSON. -/

namespace Netherwick.HigherBrain

open Netherwick.Lib

inductive Scope
  | discover | transferExperience | submitJob | cancelJob | returnCandidate | stageCandidate
  | activateCandidate | rollbackModel | provisionSoftware
  deriving DecidableEq, Repr

structure Principal where
  id : List Char
  scopes : List Scope
  deriving DecidableEq, Repr

def Scope.debug : Scope → String
  | .discover => "Discover"
  | .transferExperience => "TransferExperience"
  | .submitJob => "SubmitJob"
  | .cancelJob => "CancelJob"
  | .returnCandidate => "ReturnCandidate"
  | .stageCandidate => "StageCandidate"
  | .activateCandidate => "ActivateCandidate"
  | .rollbackModel => "RollbackModel"
  | .provisionSoftware => "ProvisionSoftware"

def Principal.require (principal : Principal) (scope : Scope) : Except String Unit :=
  if scope ∈ principal.scopes then .ok ()
  else .error ("principal " ++ (String.ofList principal.id).quote ++ " lacks " ++ scope.debug ++
    " authority")

theorem Principal.require_ok {principal : Principal} {scope : Scope}
    (h : scope ∈ principal.scopes) : principal.require scope = .ok () := if_pos h

theorem Principal.require_refused {principal : Principal} {scope : Scope}
    (h : scope ∉ principal.scopes) (a : Unit) : principal.require scope ≠ .ok a := by
  simp [require, h]

/-- A path as it is shown in a message. -/
def display (path : Path) : String :=
  let pieces := path.map fun
    | .rootDir => ""
    | .curDir => "."
    | .parentDir => ".."
    | .normal name => String.ofList name
  String.intercalate "/" pieces

def safeRelativePath (path : Path) : Except String Path :=
  if path.isAbsolute ∨ .parentDir ∈ path then .error ("unsafe relative path: " ++ display path)
  else .ok path

/-- Digests and the reading of JSON, which the repository takes from elsewhere. -/
structure Codec (manifest : Type) where
  sha256 : List UInt8 → List Char
  fromSlice : List UInt8 → Except String manifest

/-- The text of a file, if it is one. -/
def utf8? (bytes : List UInt8) : Option (List Char) :=
  (String.fromUTF8? ⟨bytes.toArray⟩).map String.toList

/-- What the operating system says of a file that is not there. -/
def notFound : String := "No such file or directory (os error 2)"

/-- `fs::read`. -/
def readFile (tree : Tree) (location : Location) : Except String (List UInt8) :=
  match tree.read location with
  | some bytes => .ok bytes
  | none => .error notFound

/-- `fs::read_to_string`. -/
def readText (tree : Tree) (location : Location) : Except String (List Char) := do
  match utf8? (← readFile tree location) with
  | some text => .ok text
  | none => .error "stream did not contain valid UTF-8"

/-- How an atomic write ends. It may fail before or after the new value was put in place. -/
inductive WriteResult
  | ok
  | failed (written : Bool) (error : String)

/-- What is put in place of the old value. -/
def WriteResult.record {α : Type} (result : WriteResult) (value : α) : Option α :=
  match result with
  | .ok | .failed true _ => some value
  | .failed false _ => none

/-- What the caller of an atomic write is told. -/
def WriteResult.answer : WriteResult → Except String Unit
  | .ok => .ok ()
  | .failed _ error => .error error

end Netherwick.HigherBrain
