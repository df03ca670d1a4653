import Netherwick.HigherBrain.CandidateStore

/-! # What a call of the store does

Identities are single components of a path. Receiving, validating and staging leave the links
alone; activating and rolling back leave the copies alone. -/

namespace Netherwick.HigherBrain

open Netherwick.Lib

/-- An identity that is one component of a path. -/
def SingleComponent (id : List Char) : Prop := '/' ∉ id

instance (id : List Char) : Decidable (SingleComponent id) := by
  unfold SingleComponent
  infer_instance

theorem isName_candidateFileName {id : List Char} (h : SingleComponent id) :
    Path.IsName (candidateFileName id) := Path.isName_append h (by decide) (by decide)

theorem isName_lifecycle {id : List Char} (h : SingleComponent id) :
    Path.IsName (id ++ ".json".toList) := Path.isName_append h (by decide) (by decide)

namespace StoreDisk

def relink (disk : StoreDisk) (link : ActiveLink) (target : Path) : StoreDisk :=
  { disk with links := Function.update disk.links link (some target) }

section Relink

variable (disk : StoreDisk) (link : ActiveLink) (target : Path)

@[simp] theorem relink_tree : (disk.relink link target).tree = disk.tree := rfl

@[simp] theorem relink_lifecycles : (disk.relink link target).lifecycles = disk.lifecycles := rfl

@[simp] theorem relink_current_current :
    (disk.relink .current target).links .current = some target := rfl

@[simp] theorem relink_current_previous :
    (disk.relink .current target).links .previous = disk.links .previous := rfl

@[simp] theorem relink_previous_current :
    (disk.relink .previous target).links .current = disk.links .current := rfl

@[simp] theorem relink_previous_previous :
    (disk.relink .previous target).links .previous = some target := rfl

end Relink

end StoreDisk

namespace CandidateStore

variable (store : CandidateStore)

/-- The disk after one entry more in the log of a candidate. -/
def logged (disk : StoreDisk) (id : List Char) (state : CandidateState) (principal : Principal)
    (reason : Option String) : StoreDisk :=
  (store.record id state principal reason).settle disk

def latest (disk : StoreDisk) (id : List Char) : Option CandidateState :=
  (disk.lifecycles (store.lifecyclePath id).resolve).bind fun lifecycle =>
    lifecycle.transitions.getLast?.map (·.state)

section Paths

variable {store} {id other : List Char}

theorem library_injective (h : SingleComponent id) (hother : SingleComponent other)
    (heq : store.library id = store.library other) : id = other := by
  have hname : candidateFileName id = candidateFileName other :=
    Path.child_injective (isName_candidateFileName h) (isName_candidateFileName hother) heq
  exact List.append_cancel_right hname

@[simp] theorem candidateIdFromPath_library (h : SingleComponent id) :
    candidateIdFromPath (store.library id) = some id := by
  unfold candidateIdFromPath library
  rw [Path.fileName_child (isName_candidateFileName h)]
  exact Text.stripSuffix_append

theorem lifecyclePath_injective (h : SingleComponent id) (hother : SingleComponent other)
    (heq : (store.lifecyclePath id).resolve = (store.lifecyclePath other).resolve) :
    id = other := by
  unfold lifecyclePath at heq
  rw [Path.resolve_child (isName_lifecycle h), Path.resolve_child (isName_lifecycle hother)] at heq
  have hnames : id ++ ".json".toList = other ++ ".json".toList := by simpa using heq
  exact List.append_cancel_right hnames

end Paths

section Logged

variable {store} {disk : StoreDisk} {id other : List Char} {state : CandidateState}
  {principal : Principal} {reason : Option String}

@[simp] theorem logged_links : (store.logged disk id state principal reason).links = disk.links :=
  rfl

@[simp] theorem logged_tree : (store.logged disk id state principal reason).tree = disk.tree := rfl

theorem latest_logged (h : SingleComponent id) (hother : SingleComponent other) :
    store.latest (store.logged disk id state principal reason) other =
      if other = id then some state else store.latest disk other := by
  by_cases heq : other = id
  · subst heq
    simp [latest, logged, record, Journaled.settle, Writable.write, StoreDisk.write, written]
  · have hpath : (store.lifecyclePath other).resolve ≠ (store.lifecyclePath id).resolve := by
      intro hpath
      exact heq (lifecyclePath_injective hother h hpath)
    simp [latest, logged, record, Journaled.settle, Writable.write, StoreDisk.write, written,
      heq, hpath]

@[simp] theorem latest_relink (link : ActiveLink) (target : Path) :
    store.latest (disk.relink link target) other = store.latest disk other := rfl

end Logged

end CandidateStore

section Places

variable {store : CandidateStore} {process : Nat} {id other : List Char}

theorem resolve_library (h : SingleComponent id) :
    (store.library id).resolve = store.root.resolve ++ ["library".toList, candidateFileName id] := by
  unfold CandidateStore.library
  rw [Path.resolve_child (isName_candidateFileName h), Path.resolve_child (by decide)]
  simp

theorem resolve_received (h : SingleComponent id) :
    (store.received id).resolve =
      store.root.resolve ++ ["received".toList, candidateFileName id] := by
  unfold CandidateStore.received
  rw [Path.resolve_child (isName_candidateFileName h), Path.resolve_child (by decide)]
  simp

def stagingName (process : Nat) : List Char :=
  ".candidate-copy-".toList ++ Text.decimal process ++ ".staging".toList

theorem isName_stagingName : Path.IsName (stagingName process) := by
  have hstart : '/' ∉ ".candidate-copy-".toList ++ Text.decimal process := by
    rw [List.mem_append]
    intro hmem
    obtain hstart | hnumber := hmem
    · exact absurd hstart (by decide)
    · exact Text.not_mem_decimal (by decide) hnumber
  exact Path.isName_append hstart (by decide) (by decide)

theorem stagingName_ne : stagingName process ≠ candidateFileName id := by
  intro heq
  have hstaging : (stagingName process).getLast? = some 'g' := by
    unfold stagingName
    rw [List.getLast?_append]
    rfl
  have hcandidate : (candidateFileName id).getLast? = some 'e' := by
    unfold candidateFileName
    rw [List.getLast?_append]
    rfl
  rw [heq, hcandidate] at hstaging
  exact absurd hstaging (by decide)

theorem resolve_copyStaging (parent : Path) :
    (copyStaging process parent).resolve = parent.resolve ++ [stagingName process] :=
  Path.resolve_child isName_stagingName

theorem parent_received (h : SingleComponent id) :
    (store.received id).parent.resolve = store.root.resolve ++ ["received".toList] := by
  unfold CandidateStore.received
  rw [Path.parent_child (isName_candidateFileName h)]
  exact Path.resolve_child (by decide)

theorem parent_library (h : SingleComponent id) :
    (store.library id).parent.resolve = store.root.resolve ++ ["library".toList] := by
  unfold CandidateStore.library
  rw [Path.parent_child (isName_candidateFileName h)]
  exact Path.resolve_child (by decide)

theorem not_prefix_parent {base : Location} {folder other name : List Char} :
    ¬ base ++ [folder, name] <+: base ++ [other] := by
  rw [List.prefix_append_right_inj]
  intro hprefixed
  exact absurd hprefixed.length_le (by simp)

theorem apart_folders {base : Location} {folder other name name' : List Char}
    (h : folder ≠ other) : Tree.Apart (base ++ [folder, name]) (base ++ [other, name']) :=
  Tree.apart_append (Tree.apart_cons h)

theorem apart_names {base : Location} {folder name name' : List Char} (h : name ≠ name') :
    Tree.Apart (base ++ [folder, name]) (base ++ [folder, name']) := by
  apply Tree.apart_append
  have hnames : Tree.Apart [name] [name'] := Tree.apart_cons h
  simpa [Tree.Apart] using hnames

end Places

namespace StoreWrite

/-- The write leaves the links alone. -/
def KeepsLinks : StoreWrite → Prop
  | .replaceSymlink _ _ => False
  | _ => True

def IsLog : StoreWrite → Prop
  | .writeLifecycle _ _ => True
  | _ => False

/-- The write leaves the logs alone. -/
def KeepsLogs : StoreWrite → Prop
  | .writeLifecycle _ _ => False
  | _ => True

/-- The write leaves what lies at a place alone. -/
def Spares (place : Location) : StoreWrite → Prop
  | .createDirAll made => ¬ place <+: made
  | .removeDirAll removed => Tree.Apart removed place
  | .copyDir _ destination => Tree.Apart destination place
  | .rename source destination => Tree.Apart source place ∧ Tree.Apart destination place
  | _ => True

variable {w : StoreWrite} {place : Location}

theorem links_write (h : w.KeepsLinks) (disk : StoreDisk) :
    (Writable.write disk w : StoreDisk).links = disk.links := by
  cases w with
  | replaceSymlink => exact h.elim
  | _ => rfl

theorem links_settle {α : Type} {call : StoreCall α} (h : call.Only KeepsLinks)
    (disk : StoreDisk) : (call.settle disk).links = disk.links := by
  apply h.settle fun d : StoreDisk => d.links = disk.links
  · intro d hd w hw
    exact (links_write hw d).trans hd
  · rfl

theorem lifecycles_write (h : w.KeepsLogs) (disk : StoreDisk) :
    (Writable.write disk w : StoreDisk).lifecycles = disk.lifecycles := by
  cases w with
  | writeLifecycle => exact h.elim
  | _ => rfl

theorem sub_write (h : w.Spares place) (disk : StoreDisk) :
    (Writable.write disk w : StoreDisk).tree.sub place = disk.tree.sub place := by
  cases w with
  | createDirAll => exact Tree.sub_createDirAll h
  | removeDirAll => exact Tree.sub_removeDirAll_of_apart h
  | copyDir => exact Tree.sub_graft_of_apart h
  | rename => exact Tree.sub_rename_of_apart h.1 h.2
  | replaceSymlink => rfl
  | writeLifecycle => rfl

theorem sub_crash {α : Type} {call : StoreCall α} (h : call.Only (Spares place)) (count : Nat)
    (disk : StoreDisk) : (call.crash count disk).tree.sub place = disk.tree.sub place := by
  apply h.crash fun d : StoreDisk => d.tree.sub place = disk.tree.sub place
  · intro d hd w hw
    exact (sub_write hw d).trans hd
  · rfl

theorem sub_settle {α : Type} {call : StoreCall α} (h : call.Only (Spares place))
    (disk : StoreDisk) : (call.settle disk).tree.sub place = disk.tree.sub place := by
  rw [← Journaled.crash_of_length_le (Nat.le_refl _)]
  exact sub_crash h _ disk

theorem IsLog.keepsLinks (h : w.IsLog) : w.KeepsLinks := by
  cases w with
  | writeLifecycle => trivial
  | _ => exact h.elim

theorem IsLog.spares (h : w.IsLog) : w.Spares place := by
  cases w with
  | writeLifecycle => trivial
  | _ => exact h.elim

end StoreWrite

/-- The entries that a change of the active candidate leaves in the logs. -/
def CandidateStore.recordChange (store : CandidateStore) (former : Option Path)
    (formerState : CandidateState) (id : List Char) (principal : Principal)
    (reason : Option String) : StoreCall Unit := do
  store.recordFormer former formerState principal
  store.record id .activated principal reason

section Kinds

variable {codec : Codec ModelCandidateManifest} {process : Nat} {store : CandidateStore}
  {P : StoreWrite → Prop}

theorem only_record (hP : ∀ w, w.IsLog → P w) (id : List Char) (state : CandidateState)
    (principal : Principal) (reason : Option String) :
    (store.record id state principal reason).Only P := by
  intro disk w hw
  apply hP
  rw [List.mem_singleton.mp hw]
  trivial

theorem only_recordFormer (hP : ∀ w, w.IsLog → P w) (former : Option Path)
    (state : CandidateState) (principal : Principal) :
    (store.recordFormer former state principal).Only P := by
  unfold CandidateStore.recordFormer
  split
  · exact only_record hP _ _ _ _
  · exact Journaled.only_pure _

theorem only_recordChange (hP : ∀ w, w.IsLog → P w) (former : Option Path)
    (state : CandidateState) (id : List Char) (principal : Principal) (reason : Option String) :
    (store.recordChange former state id principal reason).Only P := by
  unfold CandidateStore.recordChange
  apply Journaled.only_bind
  · exact only_recordFormer hP _ _ _
  · intro _
    exact only_record hP _ _ _ _

theorem only_copyImmutableTree {source : Tree} {destination : Path}
    (hmake : P (.createDirAll destination.parent.resolve))
    (hremove : P (.removeDirAll (copyStaging process destination.parent).resolve))
    (hcopy : P (.copyDir source (copyStaging process destination.parent).resolve))
    (hrename : P (.rename (copyStaging process destination.parent).resolve destination.resolve)) :
    (copyImmutableTree codec process source destination).Only P := by
  unfold copyImmutableTree
  apply Journaled.only_get_bind
  intro disk
  split
  · apply Journaled.only_check_bind
    intro sourceManifest _
    apply Journaled.only_check_bind
    intro copied _
    split
    · exact Journaled.only_fail _
    · exact Journaled.only_pure _
  · apply Journaled.only_emit_bind hmake
    apply Journaled.only_emit_bind hremove
    apply Journaled.only_emit_bind hcopy
    apply Journaled.only_get_bind
    intro staged
    apply Journaled.only_check_bind
    intro _ _
    exact Journaled.only_emit hrename

end Kinds

section Quiet

variable {codec : Codec ModelCandidateManifest} {process : Nat} {store : CandidateStore}
  {disk : StoreDisk} {id other : List Char} {principal : Principal} {source : Tree}

theorem only_receive {P : StoreWrite → Prop} (hlog : ∀ w, w.IsLog → P w)
    (hcopy : ∀ manifest, validateCandidate codec source none = .ok manifest →
      (copyImmutableTree codec process source (store.received manifest.candidateId)).Only P) :
    (store.receive codec process source principal).Only P := by
  unfold CandidateStore.receive
  apply Journaled.only_check_bind
  intro _ _
  apply Journaled.only_check_bind
  intro manifest hmanifest
  apply Journaled.only_bind (hcopy manifest hmanifest)
  intro _
  apply Journaled.only_bind (only_record hlog _ _ _ _)
  intro _
  exact Journaled.only_pure _

theorem only_validate {P : StoreWrite → Prop} (hlog : ∀ w, w.IsLog → P w) :
    (store.validate codec id principal).Only P := by
  unfold CandidateStore.validate
  apply Journaled.only_check_bind
  intro _ _
  apply Journaled.only_get_bind
  intro disk
  dsimp only
  split
  · exact only_record hlog _ _ _ _
  · apply Journaled.only_bind (only_record hlog _ _ _ _)
    intro _
    exact Journaled.only_fail _

theorem only_stage {P : StoreWrite → Prop} (hlog : ∀ w, w.IsLog → P w)
    (hcopy : ∀ source, (copyImmutableTree codec process source (store.library id)).Only P) :
    (store.stage codec process id principal).Only P := by
  unfold CandidateStore.stage
  apply Journaled.only_check_bind
  intro _ _
  apply Journaled.only_get_bind
  intro disk
  apply Journaled.only_check_bind
  intro _ _
  apply Journaled.only_bind (hcopy _)
  intro _
  exact only_record hlog _ _ _ _

theorem only_rollback {P : StoreWrite → Prop} (hlog : ∀ w, w.IsLog → P w)
    (hlink : ∀ link target, P (.replaceSymlink link target)) :
    (store.rollback codec principal).Only P := by
  unfold CandidateStore.rollback
  apply Journaled.only_check_bind
  intro _ _
  apply Journaled.only_get_bind
  intro disk
  split
  · apply Journaled.only_check_bind
    intro _ _
    apply Journaled.only_emit_bind (hlink _ _)
    apply Journaled.only_emit_bind (hlink _ _)
    split
    · exact Journaled.only_fail _
    · apply Journaled.only_bind (only_recordFormer hlog _ _ _)
      intro _
      apply Journaled.only_bind (only_record hlog _ _ _ _)
      intro _
      exact Journaled.only_pure _
  · exact Journaled.only_fail _

theorem copy_keepsLinks {destination : Path} :
    (copyImmutableTree codec process source destination).Only StoreWrite.KeepsLinks :=
  only_copyImmutableTree trivial trivial trivial trivial

theorem copy_keepsLogs {destination : Path} :
    (copyImmutableTree codec process source destination).Only StoreWrite.KeepsLogs :=
  only_copyImmutableTree trivial trivial trivial trivial

theorem copy_spares {destination : Path} {base : Location} {folder folder' name : List Char}
    (hdestination : destination.resolve = base ++ [folder, name])
    (hparent : destination.parent.resolve = base ++ [folder])
    (hne : folder ≠ folder' ∨ name ≠ candidateFileName other) :
    (copyImmutableTree codec process source destination).Only
      (StoreWrite.Spares (base ++ [folder', candidateFileName other])) := by
  have hstaging : Tree.Apart (base ++ [folder, stagingName process])
      (base ++ [folder', candidateFileName other]) := by
    by_cases hfolder : folder = folder'
    · subst hfolder
      exact apart_names stagingName_ne
    · exact apart_folders hfolder
  have htarget : Tree.Apart (base ++ [folder, name])
      (base ++ [folder', candidateFileName other]) := by
    by_cases hfolder : folder = folder'
    · subst hfolder
      exact apart_names (hne.resolve_left (not_not_intro rfl))
    · exact apart_folders hfolder
  apply only_copyImmutableTree
  all_goals
    simp only [StoreWrite.Spares, resolve_copyStaging, hparent, hdestination, List.append_assoc,
      List.cons_append, List.nil_append]
  · exact not_prefix_parent
  · exact hstaging
  · exact hstaging
  · exact ⟨hstaging, htarget⟩

theorem candidateFileName_ne (h : id ≠ other) : candidateFileName id ≠ candidateFileName other :=
  fun heq => h (List.append_cancel_right heq)

theorem copy_received_spares (h : SingleComponent id) (hother : SingleComponent other) :
    (copyImmutableTree codec process source (store.received id)).Only
      (StoreWrite.Spares (store.library other).resolve) := by
  rw [resolve_library hother]
  exact copy_spares (resolve_received h) (parent_received h) (.inl (by decide))

theorem copy_library_spares_received (h : SingleComponent id) (hother : SingleComponent other) :
    (copyImmutableTree codec process source (store.library id)).Only
      (StoreWrite.Spares (store.received other).resolve) := by
  rw [resolve_received hother]
  exact copy_spares (resolve_library h) (parent_library h) (.inl (by decide))

theorem copy_library_spares (h : SingleComponent id) (hother : SingleComponent other)
    (hne : id ≠ other) : (copyImmutableTree codec process source (store.library id)).Only
      (StoreWrite.Spares (store.library other).resolve) := by
  rw [resolve_library hother]
  exact copy_spares (resolve_library h) (parent_library h) (.inr (candidateFileName_ne hne))

variable (codec process source disk) in
theorem copy_library_target (h : SingleComponent id) :
    ((copyImmutableTree codec process source (store.library id)).settle disk).tree.sub
        (store.library id).resolve = disk.tree.sub (store.library id).resolve ∨
      (copyImmutableTree codec process source (store.library id)).answer disk = .ok () ∧
        ((copyImmutableTree codec process source (store.library id)).settle disk).tree.sub
          (store.library id).resolve = source := by
  have hstaging : Tree.Apart (copyStaging process (store.library id).parent).resolve
      (store.library id).resolve := by
    rw [resolve_copyStaging, parent_library h, resolve_library h, List.append_assoc]
    exact apart_names stagingName_ne
  have hparent : ¬ (store.library id).resolve <+: (store.library id).parent.resolve := by
    rw [parent_library h, resolve_library h]
    exact not_prefix_parent
  unfold Journaled.settle Journaled.answer copyImmutableTree
  rw [Journaled.get_bind]
  split
  · left
    cases validateCandidate codec source none with
    | error e => rfl
    | ok sourceManifest =>
      cases validateCandidate codec (disk.tree.sub (store.library id).resolve) none with
      | error e => rfl
      | ok copied =>
        rw [Journaled.check_ok_bind, Journaled.check_ok_bind]
        split <;> rfl
  · simp only [Journaled.emit_bind, Journaled.get_bind]
    generalize validateCandidate codec _ none = verdict
    cases verdict with
    | error e =>
      left
      refine (Tree.sub_graft_of_apart hstaging).trans ?_
      exact (Tree.sub_removeDirAll_of_apart hstaging).trans (Tree.sub_createDirAll hparent)
    | ok _ =>
      right
      exact ⟨rfl, Tree.sub_rename_target.trans Tree.sub_graft_self⟩

theorem copy_absent {destination : Path} {manifest : ModelCandidateManifest}
    (habsent : disk.tree destination.resolve = none)
    (hvalid : validateCandidate codec source none = .ok manifest) :
    (copyImmutableTree codec process source destination).answer disk = .ok () ∧
      ((copyImmutableTree codec process source destination).settle disk).tree.sub
        destination.resolve = source := by
  let staging := (copyStaging process destination.parent).resolve
  have hstaged (d : StoreDisk) :
      (Writable.write d (StoreWrite.copyDir source staging)).tree.sub staging = source :=
    Tree.sub_graft_self
  have hcopy : copyImmutableTree codec process source destination disk =
      ([.createDirAll destination.parent.resolve, .removeDirAll staging, .copyDir source staging,
        .rename staging destination.resolve], .ok ()) := by
    unfold copyImmutableTree
    rw [Journaled.get_bind, if_neg (not_not_intro habsent)]
    simp only [Journaled.emit_bind, Journaled.get_bind]
    rw [hstaged, hvalid]
    rfl
  constructor
  · rw [Journaled.answer, hcopy]
  · unfold Journaled.settle
    rw [hcopy]
    exact Tree.sub_rename_target.trans Tree.sub_graft_self

/-- The disk is the same but for its copies. -/
structure SameRecords (disk disk' : StoreDisk) : Prop where
  links : disk'.links = disk.links
  lifecycles : disk'.lifecycles = disk.lifecycles

theorem SameRecords.latest {disk' : StoreDisk} (h : SameRecords disk disk') :
    store.latest disk' id = store.latest disk id := by
  unfold CandidateStore.latest
  rw [h.lifecycles]

theorem copy_sameRecords {destination : Path} :
    SameRecords disk ((copyImmutableTree codec process source destination).settle disk) := by
  constructor
  · exact StoreWrite.links_settle copy_keepsLinks disk
  · apply copy_keepsLogs.settle fun d => d.lifecycles = disk.lifecycles
    · intro d hd w hw
      exact (StoreWrite.lifecycles_write hw d).trans hd
    · rfl

/-- A call of one of the first three kinds that succeeds adds an entry to one log. -/
def Records (store : CandidateStore) (disk disk' : StoreDisk) (id : List Char)
    (state : CandidateState) (principal : Principal) : Prop :=
  ∃ copied, SameRecords disk copied ∧ disk' = store.logged copied id state principal none

theorem receive_ok (h : (store.receive codec process source principal).answer disk = .ok id) :
    (∃ manifest, validateCandidate codec source none = .ok manifest ∧ manifest.candidateId = id) ∧
      Records store disk ((store.receive codec process source principal).settle disk) id
        .received principal := by
  unfold CandidateStore.receive at h ⊢
  obtain ⟨_, -, h, hscope⟩ := Journaled.answer_check_bind h
  obtain ⟨manifest, hmanifest, h, hvalid⟩ := Journaled.answer_check_bind h
  obtain ⟨_, hcopy⟩ := Journaled.ok_of_bind h
  rw [Journaled.answer_bind hcopy] at h
  have hid : manifest.candidateId = id := Except.ok.inj h
  refine ⟨⟨manifest, hmanifest, hid⟩, ?_⟩
  rw [← hid]
  let copy := copyImmutableTree codec process source (store.received manifest.candidateId)
  refine ⟨copy.settle disk, copy_sameRecords, ?_⟩
  exact hscope.trans (hvalid.trans (Journaled.settle_bind hcopy))

theorem validate_ok (h : (store.validate codec id principal).answer disk = .ok ()) :
    Records store disk ((store.validate codec id principal).settle disk) id .validated
      principal := by
  unfold CandidateStore.validate at h ⊢
  obtain ⟨_, -, h, hscope⟩ := Journaled.answer_check_bind h
  rw [hscope]
  refine ⟨disk, ⟨rfl, rfl⟩, ?_⟩
  cases hvalid : validateCandidate codec (disk.tree.sub (store.received id).resolve)
      (some store.compatibility) with
  | ok _ =>
    simp only [Journaled.settle, Journaled.get_bind, hvalid]
    rfl
  | error e =>
    simp only [Journaled.answer, Journaled.get_bind, hvalid] at h
    cases h

theorem stage_ok (h : (store.stage codec process id principal).answer disk = .ok ()) :
    Records store disk ((store.stage codec process id principal).settle disk) id .staged
      principal := by
  unfold CandidateStore.stage at h ⊢
  obtain ⟨_, -, h, hscope⟩ := Journaled.answer_check_bind h
  rw [hscope]
  rw [Journaled.answer_get_bind] at h
  rw [Journaled.settle_get_bind]
  obtain ⟨_, -, h, hvalid⟩ := Journaled.answer_check_bind h
  obtain ⟨_, hcopy⟩ := Journaled.ok_of_bind h
  rw [hvalid, Journaled.settle_bind hcopy]
  exact ⟨_, copy_sameRecords, rfl⟩

variable (codec process disk principal) in
/-- Staging leaves the library's copy of a candidate as it was, or succeeds and leaves one there
that fits the store. -/
theorem stage_library (h : SingleComponent id) :
    let staged := (store.stage codec process id principal).settle disk
    staged.tree.sub (store.library id).resolve = disk.tree.sub (store.library id).resolve ∨
      (store.stage codec process id principal).answer disk = .ok () ∧
        ∃ manifest, validateCandidate codec (staged.tree.sub (store.library id).resolve)
          (some store.compatibility) = .ok manifest := by
  unfold CandidateStore.stage
  cases principal.require .stageCandidate with
  | error e => exact .inl rfl
  | ok _ =>
    rw [Journaled.answer_check_ok_bind, Journaled.settle_check_ok_bind, Journaled.answer_get_bind,
      Journaled.settle_get_bind]
    dsimp only
    cases hvalid : validateCandidate codec (disk.tree.sub (store.received id).resolve)
        (some store.compatibility) with
    | error e => exact .inl rfl
    | ok manifest =>
      rw [Journaled.answer_check_ok_bind, Journaled.settle_check_ok_bind]
      cases hcopy : (copyImmutableTree codec process
          (disk.tree.sub (store.received id).resolve) (store.library id)).answer disk with
      | error e =>
        rw [Journaled.settle_bind_error hcopy]
        obtain hsame | ⟨hok, -⟩ := copy_library_target codec process disk _ h
        · exact .inl hsame
        · rw [hcopy] at hok
          cases hok
      | ok _ =>
        rw [Journaled.settle_bind hcopy, Journaled.answer_bind hcopy]
        obtain hsame | ⟨-, hsource⟩ := copy_library_target codec process disk _ h
        · exact .inl hsame
        · refine .inr ⟨rfl, manifest, ?_⟩
          rw [← hvalid]
          exact congrArg (validateCandidate codec · _) hsource

end Quiet

section Calls

variable {codec : Codec ModelCandidateManifest} {store : CandidateStore} {disk : StoreDisk}
  {id : List Char} {principal : Principal} {approved : Bool}

structure Activates (codec : Codec ModelCandidateManifest) (store : CandidateStore)
    (disk : StoreDisk) (id : List Char) (principal : Principal) (approved : Bool) : Prop where
  scope : .activateCandidate ∈ principal.scopes
  policy : ¬ (store.policy = .operatorApproval ∧ approved = false)
  valid : ∃ manifest, validateCandidate codec (disk.tree.sub (store.library id).resolve)
    (some store.compatibility) = .ok manifest

theorem activate_apply (h : Activates codec store disk id principal approved) :
    store.activate codec id principal approved disk =
      let ready := StoreDisk.write disk (.createDirAll (store.root.child "active".toList).resolve)
      match disk.links .current with
      | none =>
        let change := store.recordChange none .superseded id principal none
        let linked := ready.relink .current (store.library id)
        (.createDirAll (store.root.child "active".toList).resolve ::
          .replaceSymlink .current (store.library id) :: (change linked).1, (change linked).2)
      | some old =>
        let change := store.recordChange (some old) .superseded id principal none
        let linked := (ready.relink .previous old).relink .current (store.library id)
        (.createDirAll (store.root.child "active".toList).resolve ::
          .replaceSymlink .previous old :: .replaceSymlink .current (store.library id) ::
            (change linked).1, (change linked).2) := by
  obtain ⟨manifest, hvalid⟩ := h.valid
  unfold CandidateStore.activate
  rw [Principal.require_ok h.scope, Journaled.check_ok_bind, if_neg h.policy]
  simp only [Journaled.get_bind, hvalid, Journaled.check_ok_bind, Journaled.emit_bind]
  cases hold : disk.links .current with
  | none => rfl
  | some old => rfl

theorem activate_refused (h : ¬ Activates codec store disk id principal approved) :
    ∃ error, store.activate codec id principal approved disk = ([], .error error) := by
  unfold CandidateStore.activate
  by_cases hscope : Scope.activateCandidate ∈ principal.scopes
  · rw [Principal.require_ok hscope, Journaled.check_ok_bind]
    by_cases hpolicy : store.policy = .operatorApproval ∧ approved = false
    · rw [if_pos hpolicy]
      exact ⟨_, rfl⟩
    · rw [if_neg hpolicy]
      simp only [Journaled.get_bind]
      apply Journaled.check_bind_refused
      intro manifest hvalid
      exact h ⟨hscope, hpolicy, manifest, hvalid⟩
  · exact Journaled.check_bind_refused (Principal.require_refused hscope)

theorem links_recordChange (former : Option Path) (state : CandidateState)
    (reason : Option String) :
    ((store.recordChange former state id principal reason).settle disk).links = disk.links :=
  StoreWrite.links_settle
    (only_recordChange (fun _ h => h.keepsLinks) former state id principal reason) disk

theorem current_activate (h : Activates codec store disk id principal approved) :
    ((store.activate codec id principal approved).settle disk).links .current =
      some (store.library id) := by
  unfold Journaled.settle
  rw [activate_apply h]
  cases disk.links .current with
  | none => exact congrFun (links_recordChange none .superseded none) .current
  | some old => exact congrFun (links_recordChange (some old) .superseded none) .current

theorem only_activate {P : StoreWrite → Prop} (hlog : ∀ w, w.IsLog → P w)
    (hmake : P (.createDirAll (store.root.child "active".toList).resolve))
    (hlink : ∀ link target, P (.replaceSymlink link target)) :
    (store.activate codec id principal approved).Only P := by
  intro disk
  by_cases h : Activates codec store disk id principal approved
  · rw [activate_apply h]
    cases disk.links .current with
    | none =>
      simp only [List.mem_cons, forall_eq_or_imp]
      exact ⟨hmake, hlink _ _, only_recordChange hlog none _ _ _ _ _⟩
    | some old =>
      simp only [List.mem_cons, forall_eq_or_imp]
      exact ⟨hmake, hlink _ _, hlink _ _, only_recordChange hlog (some old) _ _ _ _ _⟩
  · obtain ⟨error, hrefused⟩ := activate_refused h
    rw [hrefused]
    intro w hw
    cases hw

theorem activate_spares (folder name : List Char) :
    (store.activate codec id principal approved).Only
      (StoreWrite.Spares (store.root.resolve ++ [folder, name])) := by
  apply only_activate
  · exact fun _ hlog => hlog.spares
  · rw [Path.resolve_child (by decide)]
    exact not_prefix_parent
  · exact fun _ _ => trivial

structure RollsBack (codec : Codec ModelCandidateManifest) (store : CandidateStore)
    (disk : StoreDisk) (principal : Principal) (active previous : Path) : Prop where
  scope : .rollbackModel ∈ principal.scopes
  current : disk.links .current = some active
  former : disk.links .previous = some previous
  valid : ∃ manifest, validateCandidate codec (disk.tree.sub previous.resolve)
    (some store.compatibility) = .ok manifest

theorem rollback_apply {active : Path} (hid : SingleComponent id)
    (h : RollsBack codec store disk principal active (store.library id)) :
    store.rollback codec principal disk =
      let change := store.recordChange (some active) .rolledBack id principal (some "rollback")
      let linked := (disk.relink .current (store.library id)).relink .previous active
      (.replaceSymlink .current (store.library id) :: .replaceSymlink .previous active ::
        (change linked).1, (change linked).2.map fun _ => id) := by
  obtain ⟨manifest, hvalid⟩ := h.valid
  unfold CandidateStore.rollback
  rw [Principal.require_ok h.scope, Journaled.check_ok_bind, Journaled.get_bind]
  simp only [h.current, h.former, hvalid, Journaled.check_ok_bind, Journaled.emit_bind,
    CandidateStore.candidateIdFromPath_library hid]
  unfold CandidateStore.recordChange CandidateStore.recordFormer
  cases (some active).bind candidateIdFromPath with
  | none => rfl
  | some activeId => rfl

theorem rollback_refused
    (h : ∀ active previous, ¬ RollsBack codec store disk principal active previous) :
    ∃ error, store.rollback codec principal disk = ([], .error error) := by
  unfold CandidateStore.rollback
  by_cases hscope : Scope.rollbackModel ∈ principal.scopes
  · rw [Principal.require_ok hscope, Journaled.check_ok_bind, Journaled.get_bind]
    cases hcurrent : disk.links .current with
    | none => exact ⟨_, rfl⟩
    | some active =>
      cases hformer : disk.links .previous with
      | none => exact ⟨_, rfl⟩
      | some previous =>
        apply Journaled.check_bind_refused
        intro manifest hvalid
        exact h active previous ⟨hscope, hcurrent, hformer, manifest, hvalid⟩
  · exact Journaled.check_bind_refused (Principal.require_refused hscope)

end Calls

end Netherwick.HigherBrain
