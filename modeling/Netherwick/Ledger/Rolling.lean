import Netherwick.Ledger.Format
import Mathlib.Data.List.Sort

/-! # The rolling ledger

Every frame is a file of its own whose name begins with its time. A file is written under a
temporary name and renamed, and then the first files by name are removed until the window fits. -/

namespace Netherwick.Ledger

open Netherwick.Lib

/-- The name of a frame's file: its time in twenty digits, its identity, and `json` or
`json.tmp`. -/
structure FileName where
  tMs : Nat
  id : Nat
  temporary : Bool
  deriving DecidableEq, Repr

/-- The order of paths. -/
def FileName.le (a b : FileName) : Bool :=
  a.tMs < b.tMs || a.tMs = b.tMs && (a.id < b.id || a.id = b.id && (!a.temporary || b.temporary))

abbrev Directory : Type := List (FileName × List UInt8)

namespace Directory

def remove (directory : Directory) (name : FileName) : Directory :=
  directory.filter fun file => file.1 ≠ name

def write (directory : Directory) (name : FileName) (bytes : List UInt8) : Directory :=
  directory.remove name ++ [(name, bytes)]

def rename (directory : Directory) (source target : FileName) : Directory :=
  match directory.find? fun file => file.1 = source with
  | some file => (directory.remove source).write target file.2
  | none => directory

end Directory

/-- How an append ends: it returns, or it stops before it writes, after some bytes of the
temporary file, or after the renaming and some removals. -/
inductive Ending
  | returned
  | beforeWriting
  | writing (count : Nat)
  | renamed (removed : Nat)
  deriving DecidableEq, Repr

structure RollingAppend (Frame : Type) where
  frame : Frame
  ending : Ending

section Ledger

variable {Frame : Type} (format : FrameFormat Frame) (maximum : Nat)

def fileName (frame : Frame) (temporary : Bool) : FileName :=
  ⟨format.tMs frame, format.id frame, temporary⟩

def Directory.moved (directory : Directory) (frame : Frame) : Directory :=
  (directory.write (fileName format frame true) (format.text frame)).rename
    (fileName format frame true) (fileName format frame false)

/-- The names that are removed so that the window fits. -/
def Directory.surplus (directory : Directory) : List FileName :=
  let paths := ((directory.filter fun file => !file.1.temporary).map Prod.fst).mergeSort FileName.le
  paths.take (paths.length - maximum)

/-- `write_bounded`, as far as it comes. -/
def Directory.append (directory : Directory) (append : RollingAppend Frame) : Directory :=
  match append.ending with
  | .beforeWriting => directory
  | .writing count =>
    directory.write (fileName format append.frame true) ((format.text append.frame).take count)
  | .renamed removed =>
    let moved := directory.moved format append.frame
    ((moved.surplus maximum).take removed).foldl Directory.remove moved
  | .returned =>
    let moved := directory.moved format append.frame
    (moved.surplus maximum).foldl Directory.remove moved

/-- `read_frames`: all files in the order of their paths. -/
def Directory.frames (directory : Directory) : Option (List Frame) :=
  (directory.mergeSort fun a b => a.1.le b.1).mapM fun file => format.parse file.2

/-- A new ledger keeps at least one frame. -/
def Directory.after (history : List (RollingAppend Frame)) : Directory :=
  history.foldl (Directory.append format (max maximum 1)) []

def returnedFrames (history : List (RollingAppend Frame)) : List Frame :=
  (history.filter fun append => append.ending = .returned).map RollingAppend.frame

/-- The last frames, as many as are kept. -/
def window (frames : List Frame) : List Frame := frames.drop (frames.length - maximum)

/-- The ledger reads, and what it reads is the window. -/
def Directory.Retains (directory : Directory) (window : List Frame) : Prop :=
  ∃ frames, directory.frames format = some frames ∧ frames.Perm window

def SameName (a b : Frame) : Prop := format.tMs a = format.tMs b ∧ format.id a = format.id b

def Earlier (a b : Frame) : Prop :=
  format.tMs a < format.tMs b ∨ format.tMs a = format.tMs b ∧ format.id a < format.id b

/-- What an append may do to a window. One that returns has a frame that reads back and another
name than the frames that stay, and in a full window the oldest frame has the first name. One that
stops has written nothing, or has its frame in the window already, or has got as far as removing
its own frame from a full window. -/
def Fits (window : List Frame) (append : RollingAppend Frame) : Prop :=
  match append.ending with
  | .beforeWriting => True
  | .writing _ => False
  | .renamed removed => append.frame ∈ window ∨ 0 < removed ∧ window.length = maximum ∧
      ∀ kept ∈ window, Earlier format append.frame kept
  | .returned => format.Readable append.frame ∧
      (window.length < maximum → ∀ kept ∈ window, ¬ SameName format kept append.frame) ∧
      (window.length = maximum →
        (∀ kept ∈ window.tail, ¬ SameName format kept append.frame) ∧
        ∀ oldest ∈ window.head?, SameName format oldest append.frame ∨
          ∀ kept ∈ window.tail ++ [append.frame], Earlier format oldest kept)

def AlwaysFits (history : List (RollingAppend Frame)) : Prop :=
  ∀ before append, before ++ [append] <+: history →
    Fits format (max maximum 1) (window (max maximum 1) (returnedFrames before)) append

end Ledger

section Directory

variable {Frame : Type} {format : FrameFormat Frame} {maximum : Nat} {directory : Directory}

def entry (format : FrameFormat Frame) (frame : Frame) : FileName × List UInt8 :=
  (fileName format frame false, format.text frame)

theorem fileName_inj {a b : Frame} {s t : Bool} :
    fileName format a s = fileName format b t ↔ SameName format a b ∧ s = t := by
  simp [fileName, SameName, and_assoc]

structure Mirrors (format : FrameFormat Frame) (directory : Directory) (frames : List Frame) :
    Prop where
  files : directory.Perm (frames.map (entry format))
  names : frames.Pairwise fun a b => ¬ SameName format a b

theorem mapM_eq_some {α β : Type} {f : α → Option β} {l : List α} {r : List β} :
    l.mapM f = some r ↔ (∀ a ∈ l, (f a).isSome) ∧ r = l.filterMap f := by
  induction l generalizing r with
  | nil =>
    constructor
    · intro h
      cases h
      exact ⟨by simp, rfl⟩
    · rintro ⟨-, rfl⟩
      rfl
  | cons a rest ih =>
    rw [List.mapM_cons]
    cases hfirst : f a with
    | none => simp [hfirst]
    | some b =>
      have hall : (∀ c ∈ a :: rest, (f c).isSome) ↔ ∀ c ∈ rest, (f c).isSome := by
        rw [List.forall_mem_cons, hfirst]
        simp
      rw [hall, List.filterMap_cons_some hfirst]
      change ((rest.mapM f).bind fun others => some (b :: others)) = some r ↔ _
      rw [Option.bind_eq_some_iff]
      simp only [ih, Option.some.injEq]
      constructor
      · rintro ⟨others, ⟨hrest, rfl⟩, rfl⟩
        exact ⟨hrest, rfl⟩
      · rintro ⟨hrest, rfl⟩
        exact ⟨_, ⟨hrest, rfl⟩, rfl⟩

theorem retains_iff {frames : List Frame} :
    directory.Retains format frames ↔ (∀ file ∈ directory, (format.parse file.2).isSome) ∧
      (directory.filterMap fun file => format.parse file.2).Perm frames := by
  have hsorted := List.mergeSort_perm directory fun a b => a.1.le b.1
  unfold Directory.Retains Directory.frames
  simp only [mapM_eq_some]
  constructor
  · rintro ⟨read, ⟨hall, rfl⟩, hperm⟩
    exact ⟨fun file hfile => hall file (hsorted.mem_iff.mpr hfile),
      (hsorted.symm.filterMap _).trans hperm⟩
  · rintro ⟨hall, hperm⟩
    exact ⟨_, ⟨fun file hfile => hall file (hsorted.mem_iff.mp hfile), rfl⟩,
      (hsorted.filterMap _).trans hperm⟩

theorem isSome_parse {frame : Frame} :
    (format.parse (format.text frame)).isSome ↔ format.Readable frame := by
  constructor
  · intro h
    by_contra hnot
    rw [format.parse_text hnot] at h
    cases h
  · intro h
    rw [show format.parse (format.text frame) = some frame from h]
    rfl

theorem filterMap_readable {frames : List Frame}
    (h : ∀ frame ∈ frames, format.Readable frame) :
    (frames.map (entry format)).filterMap (fun file => format.parse file.2) = frames := by
  induction frames with
  | nil => rfl
  | cons frame rest ih =>
    have hfirst : format.parse (entry format frame).2 = some frame := h frame List.mem_cons_self
    rw [List.map_cons, List.filterMap_cons, hfirst,
      ih fun other hother => h other (List.mem_cons_of_mem _ hother)]

theorem Mirrors.retains_iff {frames window : List Frame} (h : Mirrors format directory frames) :
    directory.Retains format window ↔
      (∀ frame ∈ frames, format.Readable frame) ∧ frames.Perm window := by
  have hall : (∀ file ∈ directory, (format.parse file.2).isSome) ↔
      ∀ frame ∈ frames, format.Readable frame := by
    constructor
    · intro hread frame hframe
      exact isSome_parse.mp (hread (entry format frame)
        (h.files.mem_iff.mpr (List.mem_map_of_mem hframe)))
    · intro hread file hfile
      obtain ⟨frame, hframe, rfl⟩ := List.mem_map.mp (h.files.mem_iff.mp hfile)
      exact isSome_parse.mpr (hread frame hframe)
  rw [Ledger.retains_iff, hall]
  refine and_congr_right ?_
  intro hread
  have hperm := h.files.filterMap fun file => format.parse file.2
  rw [filterMap_readable hread] at hperm
  exact ⟨fun hwindow => hperm.symm.trans hwindow, fun hwindow => hperm.trans hwindow⟩

theorem Mirrors.mem_name {frames : List Frame} (h : Mirrors format directory frames)
    {name : FileName} : (∃ file ∈ directory, file.1 = name) ↔
      ∃ frame ∈ frames, fileName format frame false = name := by
  constructor
  · rintro ⟨file, hfile, rfl⟩
    obtain ⟨frame, hframe, rfl⟩ := List.mem_map.mp (h.files.mem_iff.mp hfile)
    exact ⟨frame, hframe, rfl⟩
  · rintro ⟨frame, hframe, rfl⟩
    exact ⟨entry format frame, h.files.mem_iff.mpr (List.mem_map_of_mem hframe), rfl⟩

def others (format : FrameFormat Frame) (frames : List Frame) (frame : Frame) : List Frame :=
  frames.filter fun other => fileName format other false ≠ fileName format frame false

theorem Mirrors.remove {frames : List Frame} (h : Mirrors format directory frames)
    (frame : Frame) :
    Mirrors format (directory.remove (fileName format frame false)) (others format frames frame) := by
  refine ⟨?_, h.names.filter _⟩
  have hkept := h.files.filter fun file => file.1 ≠ fileName format frame false
  rw [List.filter_map] at hkept
  exact hkept

theorem Mirrors.ne_temporary {frames : List Frame} (h : Mirrors format directory frames)
    (frame : Frame) : ∀ file ∈ directory, file.1 ≠ fileName format frame true := by
  intro file hfile heq
  obtain ⟨other, -, hname⟩ := h.mem_name.mp ⟨file, hfile, heq⟩
  exact absurd (fileName_inj.mp hname).2 (by decide)

theorem Mirrors.remove_temporary {frames : List Frame} (h : Mirrors format directory frames)
    (frame : Frame) : directory.remove (fileName format frame true) = directory := by
  unfold Directory.remove
  rw [List.filter_eq_self]
  intro file hfile
  simpa using h.ne_temporary frame file hfile

theorem Mirrors.moved {frames : List Frame} (h : Mirrors format directory frames) (frame : Frame) :
    Mirrors format (directory.moved format frame) (others format frames frame ++ [frame]) := by
  have hkept := h.remove_temporary frame
  have hmoved : directory.moved format frame =
      directory.remove (fileName format frame false) ++ [entry format frame] := by
    have hfind : (directory ++ [(fileName format frame true, format.text frame)]).find?
        (fun file => file.1 = fileName format frame true) =
        some (fileName format frame true, format.text frame) := by
      rw [List.find?_append, List.find?_eq_none.mpr (by
        intro file hfile
        simpa using h.ne_temporary frame file hfile)]
      simp
    unfold Directory.moved Directory.rename Directory.write
    rw [hkept, hfind]
    simp only
    unfold Directory.remove at hkept ⊢
    rw [List.filter_append, hkept]
    simp [entry]
  have hrest := h.remove frame
  rw [hmoved]
  refine ⟨?_, ?_⟩
  · rw [List.map_append]
    exact hrest.files.append (List.Perm.refl _)
  · rw [List.pairwise_append]
    refine ⟨hrest.names, List.pairwise_singleton _ _, ?_⟩
    intro other hother last hlast hsame
    rw [List.mem_singleton.mp hlast] at hsame
    have hne := (List.mem_filter.mp hother).2
    simp only [ne_eq, decide_not, Bool.not_eq_true', decide_eq_false_iff_not] at hne
    exact hne (fileName_inj.mpr ⟨hsame, rfl⟩)

theorem Mirrors.perm {frames frames' : List Frame} (h : Mirrors format directory frames)
    (hperm : frames.Perm frames') : Mirrors format directory frames' := by
  refine ⟨h.files.trans (hperm.map _), ?_⟩
  rw [← hperm.pairwise_iff fun hab hba => hab ⟨hba.1.symm, hba.2.symm⟩]
  exact h.names

theorem Mirrors.added {frames : List Frame} (h : Mirrors format directory frames) {frame : Frame}
    (hnew : ∀ kept ∈ frames, ¬ SameName format kept frame) :
    Mirrors format (directory.moved format frame) (frame :: frames) := by
  have hkept : others format frames frame = frames := by
    unfold others
    rw [List.filter_eq_self]
    intro kept hmem
    have := hnew kept hmem
    simpa [fileName_inj] using this
  have hmoved := h.moved frame
  rw [hkept] at hmoved
  exact hmoved.perm List.perm_append_comm

theorem Mirrors.replaced {frames rest : List Frame} (h : Mirrors format directory frames)
    {frame old : Frame} (hperm : frames.Perm (old :: rest)) (hsame : SameName format old frame) :
    Mirrors format (directory.moved format frame) (frame :: rest) := by
  have hnames := (h.perm hperm).names
  rw [List.pairwise_cons] at hnames
  have hkept : (others format frames frame).Perm rest := by
    have hothers : others format (old :: rest) frame = rest := by
      unfold others
      rw [List.filter_cons_of_neg (by simp [fileName_inj, hsame]), List.filter_eq_self]
      intro kept hmem
      have hnot : ¬ SameName format kept frame := fun hkept =>
        hnames.1 kept hmem ⟨hsame.1.trans hkept.1.symm, hsame.2.trans hkept.2.symm⟩
      simpa [fileName_inj] using hnot
    rw [← hothers]
    exact hperm.filter _
  exact (h.moved frame).perm ((hkept.append_right _).trans List.perm_append_comm)

theorem le_iff {a b : Frame} : (fileName format a false).le (fileName format b false) ↔
    Earlier format a b ∨ SameName format a b := by
  simp only [FileName.le, Bool.or_eq_true, Bool.and_eq_true, decide_eq_true_eq]
  simp only [fileName, Earlier, SameName, Bool.not_false, true_or, and_true]
  omega

theorem Earlier.asymm {a b : Frame} (h : Earlier format a b) : ¬ Earlier format b a := by
  unfold Earlier at *
  omega

theorem Earlier.not_same {a b : Frame} (h : Earlier format a b) : ¬ SameName format a b := by
  unfold Earlier SameName at *
  omega

theorem FileName.le_trans (a b c : FileName) (hab : a.le b) (hbc : b.le c) : a.le c := by
  simp only [FileName.le, Bool.or_eq_true, Bool.and_eq_true, decide_eq_true_eq,
    Bool.not_eq_true'] at *
  grind

theorem FileName.le_total (a b : FileName) : a.le b || b.le a := by
  simp only [FileName.le, Bool.or_eq_true, Bool.and_eq_true, decide_eq_true_eq,
    Bool.not_eq_true'] at *
  grind

theorem Mirrors.sorted {frames : List Frame} (h : Mirrors format directory frames) :
    (((directory.filter fun file => !file.1.temporary).map Prod.fst).mergeSort FileName.le).Perm
      (frames.map fun frame => fileName format frame false) := by
  have hfinal : directory.filter (fun file => !file.1.temporary) = directory := by
    rw [List.filter_eq_self]
    intro file hfile
    obtain ⟨frame, -, rfl⟩ := List.mem_map.mp (h.files.mem_iff.mp hfile)
    rfl
  rw [hfinal]
  have hnames := h.files.map Prod.fst
  rw [List.map_map] at hnames
  exact (List.mergeSort_perm _ _).trans hnames

variable (maximum) in
theorem Mirrors.surplus_fits {frames : List Frame} (h : Mirrors format directory frames)
    (hlength : frames.length ≤ maximum) : directory.surplus maximum = [] := by
  have hcount := h.sorted.length_eq
  rw [List.length_map] at hcount
  unfold Directory.surplus
  rw [List.take_eq_nil_iff, hcount]
  omega

theorem Mirrors.surplus_first {frames : List Frame} (h : Mirrors format directory frames)
    (hlength : frames.length = maximum + 1) : ∃ first ∈ frames,
      directory.surplus maximum = [fileName format first false] ∧
        ∀ kept ∈ frames, Earlier format first kept ∨ SameName format first kept := by
  have hperm := h.sorted
  have hsorted := List.pairwise_mergeSort FileName.le_trans FileName.le_total
    ((directory.filter fun file => !file.1.temporary).map Prod.fst)
  unfold Directory.surplus
  generalize ((directory.filter fun file => !file.1.temporary).map Prod.fst).mergeSort
    FileName.le = paths at hperm hsorted
  have hcount := hperm.length_eq
  rw [List.length_map] at hcount
  cases paths with
  | nil => simp at hcount; omega
  | cons name paths =>
    obtain ⟨first, hfirst, rfl⟩ := List.mem_map.mp (hperm.mem_iff.mp List.mem_cons_self)
    refine ⟨first, hfirst, ?_, ?_⟩
    · have hone : (fileName format first false :: paths).length - maximum = 1 := by omega
      simp only [hone, List.take_succ_cons, List.take_zero]
    · intro kept hkept
      rw [← le_iff]
      obtain heq | hrest := List.mem_cons.mp
        (hperm.mem_iff.mpr (List.mem_map_of_mem (f := fun frame => fileName format frame false)
          hkept))
      · rw [le_iff]
        exact .inr ⟨(fileName_inj.mp heq).1.1.symm, (fileName_inj.mp heq).1.2.symm⟩
      · exact (List.pairwise_cons.mp hsorted).1 _ hrest

variable (maximum) in
theorem Mirrors.pruned {frames rest : List Frame} {candidate : Frame}
    (h : Mirrors format directory frames) (hlength : frames.length = maximum + 1)
    (hperm : frames.Perm (candidate :: rest)) :
    ∃ name, directory.surplus maximum = [name] ∧
      ((∀ kept ∈ rest, Earlier format candidate kept) →
        Mirrors format (directory.remove name) rest) ∧
      ((directory.remove name).Retains format rest →
        ∀ kept ∈ rest, Earlier format candidate kept) := by
  obtain ⟨first, hfirst, hsurplus, hle⟩ := h.surplus_first hlength
  have hnames := (h.perm hperm).names
  rw [List.pairwise_cons] at hnames
  refine ⟨_, hsurplus, ?_, ?_⟩
  · intro hcandidate
    have heq : first = candidate := by
      obtain heq | hmem := List.mem_cons.mp (hperm.mem_iff.mp hfirst)
      · exact heq
      · have hearlier := hcandidate first hmem
        obtain hback | hsame := hle candidate (hperm.mem_iff.mpr List.mem_cons_self)
        · exact absurd hback hearlier.asymm
        · exact absurd ⟨hsame.1.symm, hsame.2.symm⟩ hearlier.not_same
    subst heq
    have hkept : (others format frames first).Perm rest := by
      have hothers : others format (first :: rest) first = rest := by
        unfold others
        rw [List.filter_cons_of_neg (by simp), List.filter_eq_self]
        intro kept hmem
        have hnot : ¬ SameName format kept first := fun hkept =>
          hnames.1 kept hmem ⟨hkept.1.symm, hkept.2.symm⟩
        simpa [fileName_inj] using hnot
      rw [← hothers]
      exact hperm.filter _
    exact (h.remove first).perm hkept
  · intro hretains kept hmem
    have hstay := ((h.remove first).retains_iff.mp hretains).2
    have heq : first = candidate := by
      obtain heq | hrest := List.mem_cons.mp (hperm.mem_iff.mp hfirst)
      · exact heq
      · have hself := (List.mem_filter.mp (hstay.mem_iff.mpr hrest)).2
        simp at hself
    subst heq
    obtain hearlier | hsame := hle kept (hperm.mem_iff.mpr (List.mem_cons_of_mem _ hmem))
    · exact hearlier
    · exact absurd hsame (hnames.1 kept hmem)

theorem Mirrors.length_eq {frames window : List Frame} (h : Mirrors format directory frames)
    (hretains : directory.Retains format window) : frames.length = window.length :=
  (h.retains_iff.mp hretains).2.length_eq

theorem SameName.symm {a b : Frame} (h : SameName format a b) : SameName format b a :=
  ⟨h.1.symm, h.2.symm⟩

theorem Mirrors.eq_of_sameName {frames : List Frame} (h : Mirrors format directory frames)
    {a b : Frame} (ha : a ∈ frames) (hb : b ∈ frames) (hsame : SameName format a b) : a = b := by
  obtain ⟨front, back, rfl⟩ := List.append_of_mem ha
  have hnames := (h.perm List.perm_middle).names
  rw [List.pairwise_cons] at hnames
  obtain heq | hmem := List.mem_cons.mp (List.perm_middle.mem_iff.mp hb)
  · exact heq.symm
  · exact absurd hsame (hnames.1 b hmem)

end Directory

section Window

variable {Frame : Type} {format : FrameFormat Frame} {maximum : Nat} {directory : Directory}

def nextWindow (maximum : Nat) (frames : List Frame) (append : RollingAppend Frame) : List Frame :=
  if append.ending = .returned then window maximum (frames ++ [append.frame]) else frames

theorem window_append (frames : List Frame) (frame : Frame) :
    window maximum (frames ++ [frame]) = window maximum (window maximum frames ++ [frame]) := by
  by_cases hfull : frames.length ≤ maximum
  · rw [show window maximum frames = frames by
      rw [window, Nat.sub_eq_zero_of_le hfull, List.drop_zero]]
  · have hlength : (window maximum frames).length = maximum := by
      rw [window, List.length_drop]
      omega
    unfold window at hlength ⊢
    rw [List.length_append, List.length_append, hlength, List.length_singleton]
    cases maximum with
    | zero => simp
    | succ maximum =>
      rw [List.drop_append_of_le_length (by omega), List.drop_append_of_le_length (by omega),
        List.drop_drop]
      congr 2
      omega

theorem window_append_open {frames : List Frame} (hopen : frames.length < maximum)
    (frame : Frame) : window maximum (frames ++ [frame]) = frames ++ [frame] := by
  rw [window, List.length_append, List.length_singleton, Nat.sub_eq_zero_of_le hopen,
    List.drop_zero]

theorem window_append_full {oldest : Frame} {rest : List Frame}
    (hfull : (oldest :: rest).length = maximum) (frame : Frame) :
    window maximum (oldest :: rest ++ [frame]) = rest ++ [frame] := by
  rw [window, List.length_append, List.length_singleton, hfull, Nat.add_sub_cancel_left]
  rfl

theorem returnedFrames_concat (before : List (RollingAppend Frame)) (append : RollingAppend Frame) :
    window maximum (returnedFrames (before ++ [append])) =
      nextWindow maximum (window maximum (returnedFrames before)) append := by
  unfold returnedFrames nextWindow
  rw [List.filter_append, List.map_append]
  by_cases hreturned : append.ending = .returned
  · rw [if_pos hreturned, List.filter_cons_of_pos (by simpa using hreturned)]
    exact window_append _ _
  · rw [if_neg hreturned, List.filter_cons_of_neg (by simpa using hreturned)]
    simp

structure Kept (format : FrameFormat Frame) (maximum : Nat) (directory : Directory)
    (window : List Frame) : Prop where
  mirrors : Mirrors format directory window
  readable : ∀ frame ∈ window, format.Readable frame
  fits : window.length ≤ maximum

variable (format) in
theorem mem_or_new (frames : List Frame) (frame : Frame) :
    (∀ kept ∈ frames, ¬ SameName format kept frame) ∨
      ∃ old rest, frames.Perm (old :: rest) ∧ SameName format old frame := by
  by_cases hnew : ∀ kept ∈ frames, ¬ SameName format kept frame
  · exact .inl hnew
  · push Not at hnew
    obtain ⟨old, hmem, hsame⟩ := hnew
    obtain ⟨front, back, rfl⟩ := List.append_of_mem hmem
    exact .inr ⟨old, front ++ back, List.perm_middle, hsame⟩

section Returned

variable {kept : List Frame} {frame : Frame}

theorem Kept.returned_open (h : Kept format maximum directory kept)
    (hopen : kept.length < maximum) :
    (Fits format maximum kept ⟨frame, .returned⟩ →
      Kept format maximum (directory.append format maximum ⟨frame, .returned⟩) (kept ++ [frame])) ∧
    ((directory.append format maximum ⟨frame, .returned⟩).Retains format (kept ++ [frame]) →
      Fits format maximum kept ⟨frame, .returned⟩) := by
  change (_ → Kept format maximum (((directory.moved format frame).surplus maximum).foldl
    Directory.remove (directory.moved format frame)) _) ∧ (Directory.Retains format
    (((directory.moved format frame).surplus maximum).foldl Directory.remove
      (directory.moved format frame)) _ → _)
  obtain hnew | ⟨old, rest, hperm, hsame⟩ := mem_or_new format kept frame
  · have hmoved := (h.mirrors.added hnew).perm (List.perm_append_singleton frame kept).symm
    rw [hmoved.surplus_fits maximum (by simp; omega)]
    constructor
    · intro hfits
      refine ⟨hmoved, ?_, by simp; omega⟩
      intro other hother
      obtain hother | hlast := List.mem_append.mp hother
      · exact h.readable other hother
      · rw [List.mem_singleton.mp hlast]
        exact hfits.1
    · intro hretains
      exact ⟨(hmoved.retains_iff.mp hretains).1 frame (by simp), fun _ => hnew,
        fun hfull => absurd hfull hopen.ne⟩
  · have hmoved := h.mirrors.replaced hperm hsame
    have hlength := hperm.length_eq
    rw [List.length_cons] at hlength
    rw [hmoved.surplus_fits maximum (by simp; omega)]
    constructor
    · intro hfits
      exact absurd hsame (hfits.2.1 hopen old (hperm.mem_iff.mpr List.mem_cons_self))
    · intro hretains
      have := hmoved.length_eq hretains
      simp at this
      omega

theorem Kept.returned_full {oldest : Frame} {rest : List Frame}
    (h : Kept format maximum directory (oldest :: rest))
    (hfull : (oldest :: rest).length = maximum) :
    (Fits format maximum (oldest :: rest) ⟨frame, .returned⟩ →
      Kept format maximum (directory.append format maximum ⟨frame, .returned⟩) (rest ++ [frame])) ∧
    ((directory.append format maximum ⟨frame, .returned⟩).Retains format (rest ++ [frame]) →
      Fits format maximum (oldest :: rest) ⟨frame, .returned⟩) := by
  change (_ → Kept format maximum (((directory.moved format frame).surplus maximum).foldl
    Directory.remove (directory.moved format frame)) _) ∧ (Directory.Retains format
    (((directory.moved format frame).surplus maximum).foldl Directory.remove
      (directory.moved format frame)) _ → _)
  have hrest : (rest ++ [frame]).length ≤ maximum := by
    rw [← hfull, List.length_append]
    exact le_refl _
  have hreadable : format.Readable frame → ∀ other ∈ rest ++ [frame], format.Readable other := by
    intro hframe other hother
    obtain hother | hlast := List.mem_append.mp hother
    · exact h.readable other (List.mem_cons_of_mem _ hother)
    · rwa [List.mem_singleton.mp hlast]
  obtain hnew | ⟨old, others, hperm, hsame⟩ := mem_or_new format (oldest :: rest) frame
  · have hmoved := h.mirrors.added hnew
    have hshift : (frame :: oldest :: rest).Perm (oldest :: (rest ++ [frame])) :=
      (List.Perm.swap _ _ _).trans ((List.perm_append_singleton frame rest).symm.cons _)
    obtain ⟨name, hsurplus, hfirst, hretained⟩ :=
      hmoved.pruned maximum (by rw [List.length_cons, hfull]) hshift
    rw [hsurplus, List.foldl_cons, List.foldl_nil]
    constructor
    · intro hfits
      obtain hsame | hearlier := (hfits.2.2 hfull).2 oldest rfl
      · exact absurd hsame (hnew oldest List.mem_cons_self)
      · exact ⟨hfirst hearlier, hreadable hfits.1, hrest⟩
    · intro hretains
      have hearlier := hretained hretains
      refine ⟨((hfirst hearlier).retains_iff.mp hretains).1 frame (by simp),
        fun hopen => absurd hfull hopen.ne, fun _ => ⟨?_, ?_⟩⟩
      · intro kept hkept
        exact hnew kept (List.mem_cons_of_mem _ hkept)
      · intro first hfirst
        cases hfirst
        exact .inr hearlier
  · have hmoved := h.mirrors.replaced hperm hsame
    have hlength := hperm.length_eq
    rw [hmoved.surplus_fits maximum (by
      rw [List.length_cons, ← hfull, hlength, List.length_cons])]
    have hnames := h.mirrors.names
    rw [List.pairwise_cons] at hnames
    have hold := hperm.mem_iff.mpr List.mem_cons_self
    constructor
    · intro hfits
      have heq : old = oldest := by
        obtain heq | hmem := List.mem_cons.mp hold
        · exact heq
        · exact absurd hsame ((hfits.2.2 hfull).1 old hmem)
      subst heq
      exact ⟨hmoved.perm ((hperm.cons_inv.symm.cons _).trans
        (List.perm_append_singleton frame rest).symm), hreadable hfits.1, hrest⟩
    · intro hretains
      obtain ⟨hall, hwindow⟩ := hmoved.retains_iff.mp hretains
      have hothers : others.Perm rest :=
        (hwindow.trans (List.perm_append_singleton frame rest)).cons_inv
      have heq : old = oldest := by
        obtain heq | hmem := List.mem_cons.mp (hperm.mem_iff.mp List.mem_cons_self)
        · exact heq.symm
        · exact absurd ⟨rfl, rfl⟩ (hnames.1 oldest (hothers.mem_iff.mp hmem))
      subst heq
      refine ⟨hall frame List.mem_cons_self, fun hopen => absurd hfull hopen.ne, fun _ => ⟨?_, ?_⟩⟩
      · intro kept hkept hclash
        exact hnames.1 kept hkept ⟨hsame.1.trans hclash.1.symm, hsame.2.trans hclash.2.symm⟩
      · intro first hfirst
        cases hfirst
        exact .inl hsame

theorem Kept.renamed {removed : Nat} (h : Kept format maximum directory kept) :
    (Fits format maximum kept ⟨frame, .renamed removed⟩ →
      Kept format maximum (directory.append format maximum ⟨frame, .renamed removed⟩) kept) ∧
    ((directory.append format maximum ⟨frame, .renamed removed⟩).Retains format kept →
      Fits format maximum kept ⟨frame, .renamed removed⟩) := by
  change (_ → Kept format maximum ((((directory.moved format frame).surplus maximum).take
    removed).foldl Directory.remove (directory.moved format frame)) _) ∧ (Directory.Retains format
    ((((directory.moved format frame).surplus maximum).take removed).foldl Directory.remove
      (directory.moved format frame)) _ → _)
  obtain hnew | ⟨old, rest, hperm, hsame⟩ := mem_or_new format kept frame
  · have hmoved := h.mirrors.added hnew
    have hlonger : ¬ (directory.moved format frame).Retains format kept := by
      intro hretains
      have := hmoved.length_eq hretains
      simp at this
    have habsent : frame ∉ kept := fun hmem => hnew frame hmem ⟨rfl, rfl⟩
    by_cases hopen : kept.length < maximum
    · rw [hmoved.surplus_fits maximum hopen, List.take_nil, List.foldl_nil]
      refine ⟨?_, fun hretains => absurd hretains hlonger⟩
      rintro (hmem | ⟨-, hfull, -⟩)
      · exact absurd hmem habsent
      · exact absurd hfull hopen.ne
    · have hfull : kept.length = maximum := le_antisymm h.fits (not_lt.mp hopen)
      obtain ⟨name, hsurplus, hfirst, hretained⟩ :=
        hmoved.pruned maximum (by rw [List.length_cons, hfull]) (List.Perm.refl _)
      rw [hsurplus]
      cases removed with
      | zero =>
        rw [List.take_zero, List.foldl_nil]
        refine ⟨?_, fun hretains => absurd hretains hlonger⟩
        rintro (hmem | ⟨hpos, -⟩)
        · exact absurd hmem habsent
        · exact absurd hpos (lt_irrefl 0)
      | succ removed =>
        rw [List.take_succ_cons, List.take_nil, List.foldl_cons, List.foldl_nil]
        constructor
        · rintro (hmem | ⟨-, -, hearlier⟩)
          · exact absurd hmem habsent
          · exact ⟨hfirst hearlier, h.readable, h.fits⟩
        · intro hretains
          exact .inr ⟨Nat.succ_pos _, hfull, hretained hretains⟩
  · have hmoved := h.mirrors.replaced hperm hsame
    have hold := hperm.mem_iff.mpr List.mem_cons_self
    rw [hmoved.surplus_fits maximum
      (by rw [List.length_cons, ← List.length_cons (a := old), ← hperm.length_eq]; exact h.fits),
      List.take_nil, List.foldl_nil]
    constructor
    · rintro (hmem | ⟨-, -, hearlier⟩)
      · have heq := h.mirrors.eq_of_sameName hold hmem hsame
        subst heq
        exact ⟨hmoved.perm hperm.symm, h.readable, h.fits⟩
      · exact absurd hsame.symm (hearlier old hold).not_same
    · intro hretains
      exact .inl ((hmoved.retains_iff.mp hretains).2.mem_iff.mp List.mem_cons_self)

end Returned

theorem Retains.length_eq {window : List Frame} (h : directory.Retains format window) :
    directory.length = window.length := by
  obtain ⟨hall, hperm⟩ := retains_iff.mp h
  rw [← hperm.length_eq]
  exact (List.filterMap_length_eq_length.mpr hall).symm

theorem Kept.writing {kept : List Frame} (h : Kept format maximum directory kept) {frame : Frame}
    {count : Nat} :
    ¬ (directory.append format maximum ⟨frame, .writing count⟩).Retains format kept := by
  intro hretains
  have hlength := Retains.length_eq hretains
  have hdirectory := h.mirrors.files.length_eq
  rw [List.length_map] at hdirectory
  have hwritten : directory.append format maximum ⟨frame, .writing count⟩ =
      directory ++ [(fileName format frame true, (format.text frame).take count)] := by
    change directory.remove _ ++ [_] = _
    rw [h.mirrors.remove_temporary]
  rw [hwritten, List.length_append, hdirectory, List.length_singleton] at hlength
  omega

theorem Kept.append (hpos : 0 < maximum) {kept : List Frame}
    (h : Kept format maximum directory kept) (append : RollingAppend Frame) :
    (Fits format maximum kept append →
      Kept format maximum (directory.append format maximum append)
        (nextWindow maximum kept append)) ∧
    ((directory.append format maximum append).Retains format (nextWindow maximum kept append) →
      Fits format maximum kept append) := by
  obtain ⟨frame, ending⟩ := append
  cases ending with
  | returned =>
    change (_ → Kept format maximum _ (window maximum (kept ++ [frame]))) ∧
      (Directory.Retains format _ (window maximum (kept ++ [frame])) → _)
    by_cases hopen : kept.length < maximum
    · rw [window_append_open hopen]
      exact h.returned_open hopen
    · have hfull : kept.length = maximum := le_antisymm h.fits (not_lt.mp hopen)
      cases kept with
      | nil => exact absurd hpos (by rw [← hfull]; exact lt_irrefl 0)
      | cons oldest rest =>
        rw [window_append_full hfull]
        exact h.returned_full hfull
  | beforeWriting => exact ⟨fun _ => h, fun _ => trivial⟩
  | writing count => exact ⟨fun hfits => hfits.elim, fun hretains => absurd hretains h.writing⟩
  | renamed removed => exact h.renamed

theorem after_concat (before : List (RollingAppend Frame)) (append : RollingAppend Frame) :
    Directory.after format maximum (before ++ [append]) =
      (Directory.after format maximum before).append format (max maximum 1) append :=
  List.foldl_concat ..

theorem AlwaysFits.kept {history : List (RollingAppend Frame)}
    (h : AlwaysFits format maximum history) :
    Kept format (max maximum 1) (Directory.after format maximum history)
      (window (max maximum 1) (returnedFrames history)) := by
  induction history using List.reverseRecOn with
  | nil =>
    have hnone : window (max maximum 1) (returnedFrames ([] : List (RollingAppend Frame))) = [] :=
      List.drop_nil
    rw [hnone]
    exact ⟨⟨List.Perm.refl _, List.Pairwise.nil⟩, by simp, Nat.zero_le _⟩
  | append_singleton before append ih =>
    rw [after_concat, returnedFrames_concat]
    have hbefore : AlwaysFits format maximum before := fun earlier last hshort =>
      h earlier last (hshort.trans (List.prefix_append _ _))
    exact ((ih hbefore).append (by omega) append).1 (h before append (List.prefix_refl _))

end Window

end Netherwick.Ledger
