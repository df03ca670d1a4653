import Mathlib.Data.List.Basic
import Mathlib.Data.List.Infix

/-! # Paths and directory trees

Paths are taken apart as the standard library takes them apart. A tree gives the node at every
location below a root; copying and renaming move whole subtrees. -/

namespace Netherwick.Lib

/-- A part of a path, as `Path::components` yields it. -/
inductive Component
  | rootDir
  | curDir
  | parentDir
  | normal (name : List Char)
deriving DecidableEq, Repr

abbrev Path : Type := List Component

/-- The names on the way from the root to a node. -/
abbrev Location : Type := List (List Char)

namespace Path

/-- Empty pieces and single dots name nothing. -/
def component? (piece : List Char) : Option Component :=
  if piece = [] ∨ piece = ['.'] then none
  else if piece = ['.', '.'] then some .parentDir
  else some (.normal piece)

/-- The components of a text. A single dot counts only at the beginning. -/
def ofText (text : List Char) : Path :=
  let pieces := text.splitOn '/'
  let inner := pieces.filterMap component?
  if text.head? = some '/' then .rootDir :: inner
  else if pieces.head? = some ['.'] then .curDir :: inner
  else inner

def isAbsolute (path : Path) : Bool := path.head? = some .rootDir

/-- `Path::join`: an absolute path replaces the base. -/
def join (base path : Path) : Path :=
  if path.isAbsolute then path else base ++ path.filter (· ≠ .curDir)

def child (base : Path) (text : List Char) : Path := base.join (ofText text)

/-- `Path::parent`. -/
def parent (path : Path) : Path := path.dropLast

/-- `Path::file_name`. -/
def fileName (path : Path) : Option (List Char) :=
  match path.getLast? with
  | some (.normal name) => some name
  | _ => none

def descend (here : Location) : Component → Location
  | .rootDir => []
  | .curDir => here
  | .parentDir => here.dropLast
  | .normal name => here ++ [name]

/-- The location that a path names when no directory on the way is a link. -/
def resolve (path : Path) : Location := path.foldl descend []

theorem resolve_append_normal (path : Path) (name : List Char) :
    Path.resolve (path ++ [Component.normal name]) = path.resolve ++ [name] := by
  simp [resolve, descend]

/-- A text with no separator in it that is none of the special names. -/
def IsName (text : List Char) : Prop :=
  '/' ∉ text ∧ text ≠ [] ∧ text ≠ ['.'] ∧ text ≠ ['.', '.']

instance (text : List Char) : Decidable (IsName text) := by
  unfold IsName
  infer_instance

theorem isName_append {text ending : List Char} (htext : '/' ∉ text) (hending : '/' ∉ ending)
    (hlong : 3 ≤ ending.length) : IsName (text ++ ending) := by
  have hslash : '/' ∉ text ++ ending := by
    rw [List.mem_append]
    intro hmem
    exact hmem.elim htext hending
  have hlength : 3 ≤ (text ++ ending).length := by
    rw [List.length_append]
    omega
  refine ⟨hslash, ?_, ?_, ?_⟩
  all_goals
    intro heq
    rw [heq] at hlength
    simp at hlength

theorem splitOn_of_notMem {text : List Char} (h : '/' ∉ text) : text.splitOn '/' = [text] := by
  apply List.splitOnP_eq_singleton
  intro c hc
  rw [beq_eq_false_iff_ne]
  intro heq
  exact h (heq ▸ hc)

theorem ofText_of_isName {text : List Char} (h : IsName text) : ofText text = [.normal text] := by
  obtain ⟨hslash, hnil, hdot, hdots⟩ := h
  have hhead : text.head? ≠ some '/' := by
    intro hhead
    exact hslash (List.mem_of_mem_head? hhead)
  simp [ofText, splitOn_of_notMem hslash, hhead, hdot, component?, hnil, hdots]

theorem child_of_isName {base : Path} {text : List Char} (h : IsName text) :
    base.child text = base ++ [.normal text] := by
  simp [child, join, isAbsolute, ofText_of_isName h]

theorem resolve_child {base : Path} {text : List Char} (h : IsName text) :
    (base.child text).resolve = base.resolve ++ [text] := by
  rw [child_of_isName h, resolve_append_normal]

theorem fileName_child {base : Path} {text : List Char} (h : IsName text) :
    (base.child text).fileName = some text := by
  simp [child_of_isName h, fileName]

theorem parent_child {base : Path} {text : List Char} (h : IsName text) :
    (base.child text).parent = base := by
  simp [child_of_isName h, parent]

theorem child_injective {base : Path} {text other : List Char} (h : IsName text)
    (hother : IsName other) (heq : base.child text = base.child other) : text = other := by
  rw [child_of_isName h, child_of_isName hother] at heq
  simpa using heq

end Path

/-- What stands at a location. -/
inductive Node
  | file (bytes : List UInt8)
  | dir
deriving DecidableEq, Repr

/-- The nodes below a root. -/
def Tree : Type := Location → Option Node

namespace Tree

def empty : Tree := fun _ => none

def sub (tree : Tree) (place : Location) : Tree := fun location => tree (place ++ location)

def read (tree : Tree) (location : Location) : Option (List UInt8) :=
  match tree location with
  | some (.file bytes) => some bytes
  | _ => none

/-- `create_dir_all`. -/
def createDirAll (tree : Tree) (place : Location) : Tree := fun location =>
  if location <+: place ∧ tree location = none then some .dir else tree location

/-- `remove_dir_all`. -/
def removeDirAll (tree : Tree) (place : Location) : Tree := fun location =>
  if place <+: location then none else tree location

def graft (tree : Tree) (place : Location) (source : Tree) : Tree := fun location =>
  if place <+: location then source (location.drop place.length) else tree location

/-- `rename` of a directory. -/
def rename (tree : Tree) (source target : Location) : Tree :=
  (tree.removeDirAll source).graft target (tree.sub source)

/-- Neither location lies below the other. -/
def Apart (a b : Location) : Prop := ¬ a <+: b ∧ ¬ b <+: a

section Laws

variable {tree source : Tree} {a b : Location}

theorem apart_append {base : Location} (h : Apart a b) : Apart (base ++ a) (base ++ b) := by
  unfold Apart
  rw [List.prefix_append_right_inj, List.prefix_append_right_inj]
  exact h

theorem apart_cons {name other : List Char} {p q : Location} (h : name ≠ other) :
    Apart (name :: p) (other :: q) := by
  constructor
  · intro hpre
    exact h (List.cons_prefix_cons.mp hpre).1
  · intro hpre
    exact h (List.cons_prefix_cons.mp hpre).1.symm

@[simp] theorem sub_graft_self : (tree.graft a source).sub a = source := by
  funext location
  simp [sub, graft]

theorem Apart.not_prefix_append (h : Apart a b) (location : Location) : ¬ a <+: b ++ location := by
  intro hpre
  obtain hab | hba := List.prefix_or_prefix_of_prefix hpre (List.prefix_append b location)
  · exact h.1 hab
  · exact h.2 hba

theorem sub_graft_of_apart (h : Apart a b) : (tree.graft a source).sub b = tree.sub b := by
  funext location
  simp [sub, graft, h.not_prefix_append]

theorem sub_removeDirAll_of_apart (h : Apart a b) : (tree.removeDirAll a).sub b = tree.sub b := by
  funext location
  simp [sub, removeDirAll, h.not_prefix_append]

theorem sub_rename_of_apart {target : Location} (h : Apart a b) (htarget : Apart target b) :
    (tree.rename a target).sub b = tree.sub b := by
  unfold rename
  rw [sub_graft_of_apart htarget, sub_removeDirAll_of_apart h]

@[simp] theorem sub_rename_target : (tree.rename a b).sub b = tree.sub a := sub_graft_self

theorem sub_createDirAll (h : ¬ b <+: a) : (tree.createDirAll a).sub b = tree.sub b := by
  funext location
  have hnot : ¬ b ++ location <+: a := by
    intro hpre
    exact h ((List.prefix_append b location).trans hpre)
  simp [sub, createDirAll, hnot]

end Laws

end Tree

end Netherwick.Lib
