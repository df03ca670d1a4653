import Netherwick.HigherBrain.CandidateLifecycle

/-! # What a rollback restores

The calls may crash between two of their writes and are then made again. A ghost remembers the
candidate that was current before the latest change of the link `current`. -/

namespace Netherwick.HigherBrain

open Netherwick.Lib

/-- A call that runs to its end, or stops after so many writes. -/
structure Attempt where
  call : CandidateCall
  crash : Option Nat := none

/-- A disk with the target that `current` had before its latest change. -/
structure Watched where
  disk : StoreDisk
  displaced : Option Path

namespace Watched

def write (watched : Watched) (w : StoreWrite) : Watched where
  disk := watched.disk.write w
  displaced :=
    if (watched.disk.write w).links .current = watched.disk.links .current then watched.displaced
    else watched.disk.links .current

instance : Writable Watched StoreWrite := ⟨write⟩

def start : Watched where
  disk := StoreDisk.empty
  displaced := none

end Watched

namespace CandidateCall

/-- Does the call change links? Only such a call is followed through a crash. -/
def relinks : CandidateCall → Bool
  | activate .. | rollback .. => true
  | _ => false

def activates : CandidateCall → Bool
  | activate .. => true
  | _ => false

end CandidateCall

section Runs

variable (codec : Codec ModelCandidateManifest) (store : CandidateStore)

namespace Attempt

def writes (attempt : Attempt) (disk : StoreDisk) : List StoreWrite :=
  match attempt.crash with
  | none => (attempt.call.program codec store disk).1
  | some count => (attempt.call.program codec store disk).1.take count

/-- A call that crashed is made again before any other. -/
def Follows (next last : Attempt) : Prop := last.crash.isSome → next.call = last.call

end Attempt

/-- The state after a sequence of attempts. -/
def watch (attempts : List Attempt) : Watched :=
  attempts.foldl (fun watched attempt => written watched (attempt.writes codec store watched.disk))
    Watched.start

/-- Only activations and rollbacks crash, and what crashed is made again. -/
structure Retried (attempts : List Attempt) : Prop where
  relinks : ∀ attempt ∈ attempts, attempt.crash.isSome → attempt.call.relinks = true
  follows : ∀ before last next, before ++ [last, next] <+: attempts → next.Follows last

/-- A crashed activation waits to be made again. -/
def Pending (attempts : List Attempt) : Prop :=
  ∃ before last, attempts = before ++ [last] ∧ last.crash.isSome ∧ last.call.activates = true

/-- An earlier call staged the candidate. -/
def StagedIn (attempts : List Attempt) (id : List Char) : Prop :=
  ∃ before process principal, before ++ [⟨.stage process id principal, none⟩] <+: attempts ∧
    (store.stage codec process id principal).answer (watch codec store before).disk = .ok ()

def Fits (disk : StoreDisk) (id : List Char) : Prop :=
  ∃ manifest, validateCandidate codec (disk.tree.sub (store.library id).resolve)
    (some store.compatibility) = .ok manifest

/-- The link leads to a staged candidate that fits the store. -/
def Sound (attempts : List Attempt) (path : Path) : Prop :=
  ∃ id, SingleComponent id ∧ path = store.library id ∧ StagedIn codec store attempts id ∧
    Fits codec store (watch codec store attempts).disk id

/-- A rollback restores the candidate that was current before the latest change. -/
def Retains (watched : Watched) : Prop :=
  ∀ path, watched.displaced = some path → ∀ principal : Principal,
    .rollbackModel ∈ principal.scopes →
      ((store.rollback codec principal).answer watched.disk).isOk = true ∧
        ((store.rollback codec principal).settle watched.disk).links .current = some path

/-- At every moment the active link is sound, and a rollback restores what it should unless an
activation waits to be made again. -/
def RetainsThroughout (attempts : List Attempt) : Prop :=
  ∀ before, before <+: attempts →
    (∀ path, (watch codec store before).disk.links .current = some path →
      Sound codec store before path) ∧
    (¬ Pending before → Retains codec store (watch codec store before))

/-- The attempt loses the candidate that is kept for a rollback: it completes an activation of the
candidate that is current, or it stops a rollback between its two swaps. -/
def Attempt.Forgets (attempt : Attempt) (watched : Watched) : Prop :=
  match attempt.call, attempt.crash with
  | .activate id principal approved, none =>
    watched.displaced.isSome ∧ watched.disk.links .current = some (store.library id) ∧
      Activates codec store watched.disk id principal approved
  | .rollback principal, some 1 =>
    ∃ active previous, RollsBack codec store watched.disk principal active previous ∧
      previous ≠ active
  | _, _ => False

def NeverForgets (attempts : List Attempt) : Prop :=
  ∀ before attempt, before ++ [attempt] <+: attempts →
    ¬ attempt.Forgets codec store (watch codec store before)

@[simp] theorem watch_nil : watch codec store [] = Watched.start := rfl

@[simp] theorem watch_append (attempts : List Attempt) (attempt : Attempt) :
    watch codec store (attempts ++ [attempt]) =
      written (watch codec store attempts)
        (attempt.writes codec store (watch codec store attempts).disk) := by
  simp [watch]

end Runs

section Writes

variable {watched : Watched} {ws : List StoreWrite}

@[simp] theorem disk_written : (written watched ws).disk = written watched.disk ws := by
  induction ws generalizing watched with
  | nil => rfl
  | cons w ws ih => exact ih

theorem written_keepsLinks (h : ∀ w ∈ ws, w.KeepsLinks) :
    (written watched ws).displaced = watched.displaced ∧
      (written watched ws).disk.links = watched.disk.links := by
  apply written_induction fun next : Watched =>
    next.displaced = watched.displaced ∧ next.disk.links = watched.disk.links
  · intro next hnext w hw
    have hlinks : (next.disk.write w).links = next.disk.links :=
      StoreWrite.links_write (h w hw) next.disk
    constructor
    · refine Eq.trans ?_ hnext.1
      exact if_pos (congrFun hlinks .current)
    · exact hlinks.trans hnext.2
  · exact ⟨rfl, rfl⟩

theorem displaced_createDirAll (place : Location) :
    (Writable.write watched (StoreWrite.createDirAll place)).displaced = watched.displaced :=
  if_pos rfl

theorem displaced_previous (target : Path) :
    (Writable.write watched (StoreWrite.replaceSymlink .previous target)).displaced =
      watched.displaced := if_pos rfl

theorem displaced_current (target : Path) :
    (Writable.write watched (StoreWrite.replaceSymlink .current target)).displaced =
      if some target = watched.disk.links .current then watched.displaced
      else watched.disk.links .current := rfl

end Writes

inductive Moves (codec : Codec ModelCandidateManifest) (store : CandidateStore)
    (watched next : Watched) (attempt : Attempt) : Prop
  | still (links : next.disk.links = watched.disk.links)
      (displaced : next.displaced = watched.displaced)
      (keeps : ¬ attempt.Forgets codec store watched)
      (refused : attempt.crash = none → ∀ id principal approved,
        attempt.call = .activate id principal approved →
          ¬ Activates codec store watched.disk id principal approved)
  | copied (id : List Char) (principal : Principal) (approved : Bool)
      (call : attempt.call = .activate id principal approved)
      (allowed : Activates codec store watched.disk id principal approved)
      (crashed : attempt.crash.isSome)
      (current : next.disk.links .current = watched.disk.links .current)
      (previous : next.disk.links .previous = watched.disk.links .current)
      (displaced : next.displaced = watched.displaced)
  | activated (id : List Char) (principal : Principal) (approved : Bool)
      (call : attempt.call = .activate id principal approved)
      (allowed : Activates codec store watched.disk id principal approved)
      (current : next.disk.links .current = some (store.library id))
      (previous : next.disk.links .previous =
        (watched.disk.links .current).or (watched.disk.links .previous))
      (displaced : next.displaced =
        if some (store.library id) = watched.disk.links .current then watched.displaced
        else watched.disk.links .current)
  | restored (principal : Principal) (active previous : Path) (halfway : Bool)
      (call : attempt.call = .rollback principal)
      (allowed : RollsBack codec store watched.disk principal active previous)
      (crash : halfway = true ↔ attempt.crash = some 1)
      (current : next.disk.links .current = some previous)
      (former : next.disk.links .previous = some (if halfway then previous else active))
      (displaced : next.displaced =
        if some previous = some active then watched.displaced else some active)

section Moves

variable {codec : Codec ModelCandidateManifest} {store : CandidateStore} {watched : Watched}
  {attempt : Attempt} {id : List Char} {principal : Principal} {approved : Bool}

theorem written_take {logs : List StoreWrite} (h : ∀ w ∈ logs, w.IsLog) (count : Nat) :
    (written watched (logs.take count)).displaced = watched.displaced ∧
      (written watched (logs.take count)).disk.links = watched.disk.links := by
  apply written_keepsLinks
  intro w hw
  exact (h w (List.mem_of_mem_take hw)).keepsLinks

variable (codec store) in
theorem writes_eq_take (attempt : Attempt) (disk : StoreDisk) :
    ∃ count, attempt.writes codec store disk =
        (attempt.call.program codec store disk).1.take count ∧
      (attempt.crash = none → count = (attempt.call.program codec store disk).1.length) ∧
      ∀ stop, attempt.crash = some stop → count = stop := by
  unfold Attempt.writes
  cases attempt.crash with
  | none =>
    refine ⟨_, List.take_length.symm, fun _ => rfl, ?_⟩
    intro stop hstop
    cases hstop
  | some stop =>
    refine ⟨stop, rfl, ?_, fun other hother => Option.some.inj hother⟩
    intro hnone
    cases hnone

theorem recordChange_logs (former : Option Path) (state : CandidateState)
    (reason : Option String) (disk : StoreDisk) :
    ∀ w ∈ (store.recordChange former state id principal reason disk).1, w.IsLog :=
  only_recordChange (fun _ h => h) former state id principal reason disk

theorem moves_still (hquiet : ∀ w ∈ attempt.writes codec store watched.disk, w.KeepsLinks)
    (hkeeps : ¬ attempt.Forgets codec store watched)
    (hrefused : attempt.crash = none → ∀ id principal approved,
      attempt.call = .activate id principal approved →
        ¬ Activates codec store watched.disk id principal approved) :
    Moves codec store watched (written watched (attempt.writes codec store watched.disk))
      attempt := by
  obtain ⟨hdisplaced, hlinks⟩ := written_keepsLinks hquiet
  exact .still hlinks hdisplaced hkeeps hrefused

theorem forgets_activate (hcall : attempt.call = .activate id principal approved)
    (h : attempt.Forgets codec store watched) :
    attempt.crash = none ∧ watched.displaced.isSome ∧
      watched.disk.links .current = some (store.library id) ∧
      Activates codec store watched.disk id principal approved := by
  unfold Attempt.Forgets at h
  rw [hcall] at h
  cases hcrash : attempt.crash with
  | none =>
    rw [hcrash] at h
    exact ⟨rfl, h⟩
  | some _ =>
    rw [hcrash] at h
    exact h.elim

theorem moves_activate_refused (hcall : attempt.call = .activate id principal approved)
    (h : ¬ Activates codec store watched.disk id principal approved) :
    Moves codec store watched (written watched (attempt.writes codec store watched.disk))
      attempt := by
  obtain ⟨error, hrefused⟩ := activate_refused h
  obtain ⟨count, hwrites, -⟩ := writes_eq_take codec store attempt watched.disk
  have hnothing : attempt.writes codec store watched.disk = [] := by
    rw [hwrites, hcall]
    change List.take count (store.activate codec id principal approved watched.disk).1 = []
    rw [hrefused, List.take_nil]
  apply moves_still
  · rw [hnothing]
    intro w hw
    cases hw
  · intro hforgets
    exact h (forgets_activate hcall hforgets).2.2.2
  · intro _ other principal' approved' hother
    rw [hcall] at hother
    cases hother
    exact h

theorem moves_activate (hcall : attempt.call = .activate id principal approved) :
    Moves codec store watched (written watched (attempt.writes codec store watched.disk))
      attempt := by
  by_cases h : Activates codec store watched.disk id principal approved
  swap
  · exact moves_activate_refused hcall h
  obtain ⟨count, hwrites, hcomplete, -⟩ := writes_eq_take codec store attempt watched.disk
  have hprogram : attempt.call.program codec store watched.disk =
      store.activate codec id principal approved watched.disk := by
    rw [hcall]
    rfl
  rw [hprogram, activate_apply h] at hwrites hcomplete
  have hstill (hcrash : attempt.crash ≠ none)
      (hquiet : ∀ w ∈ attempt.writes codec store watched.disk, w.KeepsLinks) :
      Moves codec store watched (written watched (attempt.writes codec store watched.disk))
        attempt := by
    apply moves_still hquiet
    · intro hforgets
      exact hcrash (forgets_activate hcall hforgets).1
    · intro hnone
      exact absurd hnone hcrash
  cases hold : watched.disk.links .current with
  | none =>
    rw [hold] at hwrites hcomplete
    simp only at hwrites hcomplete
    rcases count with _ | _ | count
    · apply hstill
      · intro hnone
        simpa using hcomplete hnone
      · simp [hwrites]
    · apply hstill
      · intro hnone
        simpa using hcomplete hnone
      · simp [hwrites, StoreWrite.KeepsLinks]
    · rw [hwrites, List.take_succ_cons, List.take_succ_cons, written_cons, written_cons]
      obtain ⟨hdisplaced, hlinks⟩ := written_take
        (recordChange_logs none .superseded none _) count
      apply Moves.activated id principal approved hcall h
      · rw [hlinks]
        rfl
      · rw [hlinks, hold]
        rfl
      · rw [hdisplaced, displaced_current, displaced_createDirAll]
        rfl
  | some old =>
    rw [hold] at hwrites hcomplete
    simp only at hwrites hcomplete
    rcases count with _ | _ | _ | count
    · apply hstill
      · intro hnone
        simpa using hcomplete hnone
      · simp [hwrites]
    · apply hstill
      · intro hnone
        simpa using hcomplete hnone
      · simp [hwrites, StoreWrite.KeepsLinks]
    · have hcrash : attempt.crash ≠ none := by
        intro hnone
        simpa using hcomplete hnone
      rw [hwrites]
      apply Moves.copied id principal approved hcall h (Option.isSome_iff_ne_none.mpr hcrash)
      · rfl
      · exact hold.symm
      · exact (displaced_previous old).trans (displaced_createDirAll _)
    · rw [hwrites, List.take_succ_cons, List.take_succ_cons, List.take_succ_cons, written_cons,
        written_cons, written_cons]
      obtain ⟨hdisplaced, hlinks⟩ := written_take
        (recordChange_logs (some old) .superseded none _) count
      apply Moves.activated id principal approved hcall h
      · rw [hlinks]
        rfl
      · rw [hlinks, hold]
        rfl
      · rw [hdisplaced, displaced_current, displaced_previous, displaced_createDirAll]
        rfl

theorem forgets_rollback (hcall : attempt.call = .rollback principal)
    (h : attempt.Forgets codec store watched) :
    attempt.crash = some 1 ∧ ∃ active previous,
      RollsBack codec store watched.disk principal active previous ∧ previous ≠ active := by
  unfold Attempt.Forgets at h
  rw [hcall] at h
  split at h
  · contradiction
  · rename_i hrollback hone
    cases hrollback
    exact ⟨hone, h⟩
  · exact h.elim

theorem moves_rollback (hcall : attempt.call = .rollback principal)
    (hlinked : Linked store watched.disk) :
    Moves codec store watched (written watched (attempt.writes codec store watched.disk))
      attempt := by
  obtain ⟨count, hwrites, hcomplete, hstop⟩ := writes_eq_take codec store attempt watched.disk
  have hprogram : (attempt.call.program codec store watched.disk).1 =
      (store.rollback codec principal watched.disk).1 := by
    rw [hcall]
    rfl
  rw [hprogram] at hwrites hcomplete
  have hstill (hquiet : ∀ w ∈ attempt.writes codec store watched.disk, w.KeepsLinks)
      (hkeeps : ¬ attempt.Forgets codec store watched) :
      Moves codec store watched (written watched (attempt.writes codec store watched.disk))
        attempt := by
    apply moves_still hquiet hkeeps
    intro _ id principal' approved hactivate
    rw [hcall] at hactivate
    cases hactivate
  by_cases hallowed : ∃ active previous,
    RollsBack codec store watched.disk principal active previous
  swap
  · obtain ⟨error, hrefused⟩ := rollback_refused fun active previous h =>
      hallowed ⟨active, previous, h⟩
    apply hstill
    · rw [hwrites, hrefused]
      simp
    · intro hforgets
      obtain ⟨-, active, previous, h, -⟩ := forgets_rollback hcall hforgets
      exact hallowed ⟨active, previous, h⟩
  obtain ⟨active, previous, h⟩ := hallowed
  obtain ⟨id, hid, rfl⟩ := hlinked _ _ h.former
  rw [rollback_apply hid h] at hwrites hcomplete
  simp only at hwrites hcomplete
  rcases count with _ | _ | count
  · have hcrash : attempt.crash ≠ none := by
      intro hnone
      simpa using hcomplete hnone
    apply hstill
    · simp [hwrites]
    · intro hforgets
      have hone := (forgets_rollback hcall hforgets).1
      exact absurd (hstop 1 hone) (by decide)
  · have hcrash : attempt.crash = some 1 := by
      cases hcrash : attempt.crash with
      | none => simpa using hcomplete hcrash
      | some stop => rw [← hstop stop hcrash]
    rw [hwrites]
    apply Moves.restored principal active _ true hcall h
    · exact ⟨fun _ => hcrash, fun _ => rfl⟩
    · rfl
    · exact h.former
    · refine (displaced_current _).trans ?_
      rw [h.current]
  · rw [hwrites, List.take_succ_cons, List.take_succ_cons, written_cons, written_cons]
    obtain ⟨hdisplaced, hlinks⟩ := written_take
      (recordChange_logs (some active) .rolledBack (some "rollback") _) count
    apply Moves.restored principal active _ false hcall h
    · constructor
      · exact fun h => nomatch h
      · intro hone
        exact absurd (hstop 1 hone) (by omega)
    · rw [hlinks]
      rfl
    · rw [hlinks]
      rfl
    · rw [hdisplaced, displaced_previous, displaced_current, h.current]

theorem moves_quiet (hcrash : attempt.crash = none) (hrelinks : attempt.call.relinks = false) :
    Moves codec store watched (written watched (attempt.writes codec store watched.disk))
      attempt := by
  have hquiet : (attempt.call.program codec store).Only StoreWrite.KeepsLinks := by
    cases hcall : attempt.call with
    | receive process candidate principal =>
      exact only_receive (fun _ h => h.keepsLinks) fun _ _ => copy_keepsLinks
    | validate id principal => exact only_validate fun _ h => h.keepsLinks
    | stage process id principal =>
      exact only_stage (fun _ h => h.keepsLinks) fun _ => copy_keepsLinks
    | activate =>
      rw [hcall] at hrelinks
      cases hrelinks
    | rollback =>
      rw [hcall] at hrelinks
      cases hrelinks
  apply moves_still
  · unfold Attempt.writes
    rw [hcrash]
    exact hquiet watched.disk
  · intro hforgets
    unfold Attempt.Forgets at hforgets
    split at hforgets
    · rename_i hcall _
      rw [hcall] at hrelinks
      cases hrelinks
    · rename_i hcall _
      rw [hcall] at hrelinks
      cases hrelinks
    · exact hforgets
  · intro _ id principal approved hcall
    rw [hcall] at hrelinks
    cases hrelinks

theorem moves (hlegal : attempt.crash.isSome → attempt.call.relinks = true)
    (hlinked : Linked store watched.disk) :
    Moves codec store watched (written watched (attempt.writes codec store watched.disk))
      attempt := by
  cases hcall : attempt.call with
  | activate id principal approved => exact moves_activate hcall
  | rollback principal => exact moves_rollback hcall hlinked
  | _ =>
    have hrelinks : attempt.call.relinks = false := by
      rw [hcall]
      rfl
    apply moves_quiet _ hrelinks
    cases hcrash : attempt.crash with
    | none => rfl
    | some count =>
      rw [hcrash, hrelinks] at hlegal
      cases hlegal rfl

variable (store watched) in
theorem library_kept {other : List Char}
    (hlegal : attempt.crash.isSome → attempt.call.relinks = true)
    (hplain : attempt.call.Plain codec) (hother : SingleComponent other) :
    let next := written watched.disk (attempt.writes codec store watched.disk)
    next.tree.sub (store.library other).resolve =
        watched.disk.tree.sub (store.library other).resolve ∨
      (∃ process principal, attempt = ⟨.stage process other principal, none⟩ ∧
        (store.stage codec process other principal).answer watched.disk = .ok ()) ∧
      Fits codec store next other := by
  obtain ⟨call, crash⟩ := attempt
  have hlog : ∀ w : StoreWrite, w.IsLog → w.Spares (store.library other).resolve :=
    fun _ h => h.spares
  have hcomplete (hrelinks : call.relinks = false) : crash = none := by
    cases crash with
    | none => rfl
    | some count => exact absurd (hlegal rfl) (by simp [hrelinks])
  have hspared (hspares : (call.program codec store).Only
      (StoreWrite.Spares (store.library other).resolve)) :
      (written watched.disk (Attempt.writes codec store ⟨call, crash⟩ watched.disk)).tree.sub
        (store.library other).resolve = watched.disk.tree.sub (store.library other).resolve := by
    cases crash with
    | none => exact StoreWrite.sub_settle hspares watched.disk
    | some count => exact StoreWrite.sub_crash hspares count watched.disk
  cases call with
  | receive process candidate principal =>
    left
    apply hspared
    apply only_receive hlog
    intro manifest hmanifest
    apply copy_received_spares _ hother
    exact hplain _ (by simp [CandidateCall.names, hmanifest, Except.toOption])
  | validate id principal => exact .inl (hspared (only_validate hlog))
  | stage process id principal =>
    cases hcomplete rfl
    by_cases heq : id = other
    · subst heq
      obtain hsame | ⟨hok, hfits⟩ := stage_library codec process watched.disk principal hother
      · exact .inl hsame
      · exact .inr ⟨⟨process, principal, rfl, hok⟩, hfits⟩
    · left
      apply hspared
      exact only_stage hlog fun _ => copy_library_spares (hplain id rfl) hother heq
  | activate id principal approved =>
    left
    apply hspared
    rw [resolve_library hother]
    exact activate_spares _ _
  | rollback principal => exact .inl (hspared (only_rollback hlog fun _ _ => trivial))

theorem rollback_current {disk : StoreDisk} {active : Path} (hid : SingleComponent id)
    (h : RollsBack codec store disk principal active (store.library id)) :
    ((store.rollback codec principal).answer disk).isOk = true ∧
      ((store.rollback codec principal).settle disk).links .current =
        some (store.library id) := by
  constructor
  · rw [Journaled.answer, rollback_apply hid h]
    have hanswer : (store.recordChange (some active) .rolledBack id principal (some "rollback")
        ((disk.relink .current (store.library id)).relink .previous active)).2 = .ok () :=
      recordChange_answer (some active) .rolledBack (some "rollback")
    simp only [hanswer]
    rfl
  · unfold Journaled.settle
    rw [rollback_apply hid h]
    exact congrFun (links_recordChange (some active) .rolledBack (some "rollback")) .current

theorem retains_iff (hlinked : Linked store watched.disk)
    (hfits : ∀ path, watched.disk.links .previous = some path →
      ∃ id, SingleComponent id ∧ path = store.library id ∧ Fits codec store watched.disk id)
    (hcurrent : ∀ path, watched.displaced = some path →
      ∃ active, watched.disk.links .current = some active) :
    Retains codec store watched ↔
      ∀ path, watched.displaced = some path → watched.disk.links .previous = some path := by
  constructor
  · intro hretains path hpath
    let principal : Principal := ⟨[], [.rollbackModel]⟩
    obtain ⟨hok, hrestored⟩ := hretains path hpath principal (by decide)
    cases hanswer : (store.rollback codec principal).answer watched.disk with
    | error e =>
      rw [hanswer] at hok
      cases hok
    | ok restored =>
      obtain ⟨active, previous, h⟩ := rollsBack_of_ok hanswer
      obtain ⟨id, hid, rfl⟩ := hlinked _ _ h.former
      rw [(rollback_current hid h).2] at hrestored
      rw [h.former, hrestored]
  · intro hprevious path hpath principal hscope
    obtain ⟨id, hid, rfl, hfit⟩ := hfits path (hprevious path hpath)
    obtain ⟨active, hactive⟩ := hcurrent _ hpath
    exact rollback_current hid ⟨hscope, hactive, hprevious _ hpath, hfit⟩

end Moves

section Invariant

variable {codec : Codec ModelCandidateManifest} {store : CandidateStore}
  {before attempts : List Attempt} {attempt : Attempt} {id : List Char} {path : Path}

theorem StagedIn.append (h : StagedIn codec store before id) (attempt : Attempt) :
    StagedIn codec store (before ++ [attempt]) id := by
  obtain ⟨earlier, process, principal, hearlier, hok⟩ := h
  exact ⟨earlier, process, principal, hearlier.trans (List.prefix_append _ _), hok⟩

theorem Fits.ne_empty {disk : StoreDisk} (h : Fits codec store disk id) :
    disk.tree.sub (store.library id).resolve ≠ Tree.empty := by
  intro hempty
  obtain ⟨manifest, hvalid⟩ := h
  rw [hempty] at hvalid
  cases hvalid

/-- What holds after every sequence of attempts. -/
structure Kept (codec : Codec ModelCandidateManifest) (store : CandidateStore)
    (attempts : List Attempt) : Prop where
  staged : ∀ id, SingleComponent id →
    (watch codec store attempts).disk.tree.sub (store.library id).resolve ≠ Tree.empty →
      StagedIn codec store attempts id
  sound : ∀ link path, (watch codec store attempts).disk.links link = some path →
    Sound codec store attempts path
  displaced : ∀ path, (watch codec store attempts).displaced = some path →
    Sound codec store attempts path ∧
      ∃ active, (watch codec store attempts).disk.links .current = some active ∧ active ≠ path

theorem Kept.linked (h : Kept codec store attempts) :
    Linked store (watch codec store attempts).disk := by
  intro link path hpath
  obtain ⟨id, hid, hlibrary, -⟩ := h.sound link path hpath
  exact ⟨id, hid, hlibrary⟩

theorem Kept.retains_iff (h : Kept codec store attempts) :
    Retains codec store (watch codec store attempts) ↔
      ∀ path, (watch codec store attempts).displaced = some path →
        (watch codec store attempts).disk.links .previous = some path := by
  apply HigherBrain.retains_iff h.linked
  · intro path hpath
    obtain ⟨id, hid, hlibrary, -, hfits⟩ := h.sound _ _ hpath
    exact ⟨id, hid, hlibrary, hfits⟩
  · intro path hpath
    obtain ⟨-, active, hactive, -⟩ := h.displaced path hpath
    exact ⟨active, hactive⟩

theorem kept_nil : Kept codec store [] where
  staged := fun _ _ h => absurd rfl h
  sound := fun _ _ h => nomatch h
  displaced := fun _ h => nomatch h

section Step

variable (hlegal : attempt.crash.isSome → attempt.call.relinks = true)
  (hplain : attempt.call.Plain codec)
include hlegal hplain

theorem fits_append (hid : SingleComponent id)
    (h : Fits codec store (watch codec store before).disk id) :
    Fits codec store (watch codec store (before ++ [attempt])).disk id := by
  rw [watch_append, disk_written]
  obtain hsame | ⟨-, hfits⟩ := library_kept store (watch codec store before) hlegal hplain hid
  · unfold Fits
    rw [hsame]
    exact h
  · exact hfits

theorem Sound.append (h : Sound codec store before path) :
    Sound codec store (before ++ [attempt]) path := by
  obtain ⟨id, hid, hlibrary, hstaged, hfits⟩ := h
  exact ⟨id, hid, hlibrary, hstaged.append attempt, fits_append hlegal hplain hid hfits⟩

theorem Kept.append (h : Kept codec store before) : Kept codec store (before ++ [attempt]) := by
  have hstaged : ∀ id, SingleComponent id →
      (watch codec store (before ++ [attempt])).disk.tree.sub (store.library id).resolve ≠
        Tree.empty → StagedIn codec store (before ++ [attempt]) id := by
    intro id hid hne
    rw [watch_append, disk_written] at hne
    obtain hsame | ⟨⟨process, principal, rfl, hok⟩, -⟩ :=
      library_kept store (watch codec store before) hlegal hplain hid
    · rw [hsame] at hne
      exact (h.staged id hid hne).append attempt
    · exact ⟨before, process, principal, List.prefix_refl _, hok⟩
  have hkeep : ∀ path, Sound codec store before path →
      Sound codec store (before ++ [attempt]) path := fun path hpath =>
    hpath.append hlegal hplain
  have hmoves : Moves codec store (watch codec store before)
      (watch codec store (before ++ [attempt])) attempt := by
    rw [watch_append]
    exact moves hlegal h.linked
  have hactivated : ∀ id principal approved, attempt.call = .activate id principal approved →
      Activates codec store (watch codec store before).disk id principal approved →
      Sound codec store (before ++ [attempt]) (store.library id) := by
    intro id principal approved hcall hallowed
    have hid : SingleComponent id := by
      apply hplain
      rw [hcall]
      rfl
    have hfits : Fits codec store (watch codec store before).disk id := hallowed.valid
    exact hkeep _ ⟨id, hid, rfl, h.staged id hid hfits.ne_empty, hfits⟩
  refine ⟨hstaged, ?_, ?_⟩
  · intro link path hpath
    cases hmoves with
    | still links => exact hkeep path (h.sound link path (links ▸ hpath))
    | copied _ _ _ _ _ _ current previous =>
      cases link with
      | current => exact hkeep path (h.sound .current path (current ▸ hpath))
      | previous => exact hkeep path (h.sound .current path (previous ▸ hpath))
    | activated id principal approved call allowed current previous =>
      cases link with
      | current =>
        rw [current] at hpath
        rw [← Option.some.inj hpath]
        exact hactivated id principal approved call allowed
      | previous =>
        rw [previous] at hpath
        obtain hcurrent | ⟨-, hprevious⟩ := Option.or_eq_some_iff.mp hpath
        · exact hkeep path (h.sound .current path hcurrent)
        · exact hkeep path (h.sound .previous path hprevious)
    | restored principal active previous halfway call allowed crash current former =>
      cases link with
      | current =>
        have hprevious := allowed.former.trans (current.symm.trans hpath)
        exact hkeep path (h.sound .previous path hprevious)
      | previous =>
        rw [former] at hpath
        cases halfway with
        | true => exact hkeep path (h.sound .previous path (allowed.former.trans hpath))
        | false => exact hkeep path (h.sound .current path (allowed.current.trans hpath))
  · intro path hpath
    cases hmoves with
    | still links displaced =>
      obtain ⟨hsound, hactive⟩ := h.displaced path (displaced ▸ hpath)
      rw [links]
      exact ⟨hkeep path hsound, hactive⟩
    | copied _ _ _ _ _ _ current _ displaced =>
      obtain ⟨hsound, hactive⟩ := h.displaced path (displaced ▸ hpath)
      rw [current]
      exact ⟨hkeep path hsound, hactive⟩
    | activated id principal approved call allowed current previous displaced =>
      rw [displaced] at hpath
      rw [current]
      split at hpath
      · rename_i heq
        obtain ⟨hsound, hactive⟩ := h.displaced path hpath
        rw [← heq] at hactive
        exact ⟨hkeep path hsound, hactive⟩
      · rename_i hne
        refine ⟨hkeep path (h.sound .current path hpath), _, rfl, ?_⟩
        intro heq
        exact hne (by rw [hpath, heq])
    | restored principal active previous halfway call allowed crash current former displaced =>
      rw [displaced] at hpath
      rw [current]
      split at hpath
      · rename_i heq
        obtain ⟨hsound, hactive⟩ := h.displaced path hpath
        rw [allowed.current, ← heq] at hactive
        exact ⟨hkeep path hsound, hactive⟩
      · rename_i hne
        refine ⟨hkeep path (h.sound .current path (allowed.current.trans hpath)), _, rfl, ?_⟩
        intro heq
        exact hne (by rw [hpath, heq])

theorem activates_append {principal : Principal} {approved : Bool} (hid : SingleComponent id)
    (h : Activates codec store (watch codec store before).disk id principal approved) :
    Activates codec store (watch codec store (before ++ [attempt])).disk id principal approved :=
  ⟨h.scope, h.policy, fits_append hlegal hplain hid h.valid⟩

end Step

/-- The link `previous` leads to what a rollback should restore, or a crashed activation that
passes its checks waits to be made again. -/
def Ready (codec : Codec ModelCandidateManifest) (store : CandidateStore)
    (attempts : List Attempt) : Prop :=
  (∀ path, (watch codec store attempts).displaced = some path →
    (watch codec store attempts).disk.links .previous = some path) ∨
  ∃ earlier last id principal approved, attempts = earlier ++ [last] ∧ last.crash.isSome ∧
    last.call = .activate id principal approved ∧
    Activates codec store (watch codec store attempts).disk id principal approved

theorem Ready.append (hlegal : attempt.crash.isSome → attempt.call.relinks = true)
    (hplain : attempt.call.Plain codec)
    (hfollows : ∀ earlier last, before = earlier ++ [last] → attempt.Follows last)
    (hkept : Kept codec store before) (h : Ready codec store before)
    (hkeeps : ¬ attempt.Forgets codec store (watch codec store before)) :
    Ready codec store (before ++ [attempt]) := by
  have hmoves : Moves codec store (watch codec store before)
      (watch codec store (before ++ [attempt])) attempt := by
    rw [watch_append]
    exact moves hlegal hkept.linked
  have hwaits : ∀ id principal approved, attempt.call = .activate id principal approved →
      attempt.crash.isSome →
      Activates codec store (watch codec store before).disk id principal approved →
      Ready codec store (before ++ [attempt]) := by
    intro id principal approved hcall hcrash hallowed
    have hid : SingleComponent id := by
      apply hplain
      rw [hcall]
      rfl
    exact .inr ⟨before, attempt, id, principal, approved, rfl, hcrash, hcall,
      activates_append hlegal hplain hid hallowed⟩
  -- A crashed activation that waits is made again by this attempt.
  have hagain : (∀ path, (watch codec store before).displaced = some path →
      (watch codec store before).disk.links .previous = some path) ∨
      ∃ id principal approved, attempt.call = .activate id principal approved ∧
        Activates codec store (watch codec store before).disk id principal approved := by
    obtain hprevious | ⟨earlier, last, id, principal, approved, rfl, hcrash, hcall, hallowed⟩ := h
    · exact .inl hprevious
    · exact .inr ⟨id, principal, approved, (hfollows earlier last rfl hcrash).trans hcall, hallowed⟩
  cases hmoves with
  | still links displaced keeps refused =>
    obtain hprevious | ⟨id, principal, approved, hcall, hallowed⟩ := hagain
    · left
      rw [links, displaced]
      exact hprevious
    · cases hcrash : attempt.crash with
      | none => exact absurd hallowed (refused hcrash id principal approved hcall)
      | some count => exact hwaits id principal approved hcall (by simp [hcrash]) hallowed
  | copied id principal approved call allowed crashed =>
    exact hwaits id principal approved call crashed allowed
  | activated id principal approved call allowed current previous displaced =>
    cases hcrash : attempt.crash with
    | some count => exact hwaits id principal approved call (by simp [hcrash]) allowed
    | none =>
      left
      intro path hpath
      rw [displaced] at hpath
      split at hpath
      · rename_i heq
        refine absurd ?_ hkeeps
        unfold Attempt.Forgets
        rw [call, hcrash]
        exact ⟨by simp [hpath], heq.symm, allowed⟩
      · rw [previous, hpath]
        rfl
  | restored principal active previous halfway call allowed crash current former displaced =>
    left
    obtain hprevious | ⟨id, principal', approved, hcall, -⟩ := hagain
    swap
    · rw [call] at hcall
      cases hcall
    intro path hpath
    rw [displaced] at hpath
    split at hpath
    · rename_i heq
      obtain ⟨-, other, hother, hne⟩ := hkept.displaced path hpath
      rw [allowed.current, ← heq, ← allowed.former, hprevious path hpath] at hother
      exact absurd (Option.some.inj hother).symm hne
    · rename_i hne
      cases halfway with
      | false =>
        rw [former, ← hpath]
        rfl
      | true =>
        refine absurd ?_ hkeeps
        unfold Attempt.Forgets
        rw [call, crash.mp rfl]
        exact ⟨active, previous, allowed, fun heq => hne (congrArg some heq)⟩

theorem not_retains_of_forgets (hlegal : attempt.crash.isSome → attempt.call.relinks = true)
    (hplain : attempt.call.Plain codec) (hkept : Kept codec store before)
    (hforgets : attempt.Forgets codec store (watch codec store before)) :
    ¬ Pending (before ++ [attempt]) ∧
      ¬ Retains codec store (watch codec store (before ++ [attempt])) := by
  have hmoves : Moves codec store (watch codec store before)
      (watch codec store (before ++ [attempt])) attempt := by
    rw [watch_append]
    exact moves hlegal hkept.linked
  rw [(hkept.append hlegal hplain).retains_iff]
  have hpending : attempt.crash = none ∨ attempt.call.activates = false →
      ¬ Pending (before ++ [attempt]) := by
    rintro hdone ⟨earlier, last, heq, hcrash, hactivates⟩
    obtain rfl : attempt = last := by simpa using (List.append_inj' heq rfl).2
    obtain hnone | hother := hdone
    · rw [hnone] at hcrash
      cases hcrash
    · rw [hother] at hactivates
      cases hactivates
  cases hmoves with
  | still links displaced keeps => exact absurd hforgets keeps
  | copied id principal approved call allowed crashed =>
    rw [(forgets_activate call hforgets).1] at crashed
    cases crashed
  | activated id principal approved call allowed current previous displaced =>
    obtain ⟨hcrash, hdisplaced, hcurrent, -⟩ := forgets_activate call hforgets
    refine ⟨hpending (.inl hcrash), ?_⟩
    intro hprevious
    obtain ⟨path, hpath⟩ := Option.isSome_iff_exists.mp hdisplaced
    rw [displaced, if_pos hcurrent.symm, previous, hcurrent] at hprevious
    obtain ⟨-, active, hactive, hne⟩ := hkept.displaced path hpath
    rw [hcurrent] at hactive
    rw [← Option.some.inj hactive] at hne
    exact hne (Option.some.inj (hprevious path hpath))
  | restored principal active previous halfway call allowed crash current former displaced =>
    obtain ⟨hone, active', previous', h, hne⟩ := forgets_rollback call hforgets
    have hactive : active' = active := Option.some.inj (h.current.symm.trans allowed.current)
    have hformer : previous' = previous := Option.some.inj (h.former.symm.trans allowed.former)
    rw [hactive, hformer] at hne
    constructor
    · apply hpending
      right
      rw [call]
      rfl
    · intro hprevious
      rw [displaced, if_neg fun heq => hne (Option.some.inj heq), former, crash.mpr hone]
        at hprevious
      exact hne (Option.some.inj (hprevious active rfl))

section Run

variable (hretried : Retried attempts) (hplain : ∀ attempt ∈ attempts, attempt.call.Plain codec)
include hretried hplain

theorem kept_before (hbefore : before <+: attempts) : Kept codec store before := by
  induction before using List.reverseRecOn with
  | nil => exact kept_nil
  | append_singleton before attempt ih =>
    have hmem : attempt ∈ attempts := hbefore.subset (by simp)
    have hkept := ih ((List.prefix_append before [attempt]).trans hbefore)
    exact hkept.append (hretried.relinks attempt hmem) (hplain attempt hmem)

/-- Over a sequence of calls, with crashes inside activations and rollbacks, the active link stays
sound and a rollback restores the candidate before the latest change, exactly when no attempt
forgets that candidate. -/
theorem retains_iff_never_forgets :
    RetainsThroughout codec store attempts ↔ NeverForgets codec store attempts := by
  constructor
  · intro hretains before attempt hbefore hforgets
    have hmem : attempt ∈ attempts := hbefore.subset (by simp)
    have hkept : Kept codec store before :=
      kept_before hretried hplain ((List.prefix_append before [attempt]).trans hbefore)
    obtain ⟨hpending, hnot⟩ := not_retains_of_forgets (hretried.relinks attempt hmem)
      (hplain attempt hmem) hkept hforgets
    exact hnot ((hretains _ hbefore).2 hpending)
  · intro hkeeps before hbefore
    have hkept : Kept codec store before := kept_before hretried hplain hbefore
    refine ⟨fun path hpath => hkept.sound .current path hpath, ?_⟩
    have hready : Ready codec store before := by
      clear hkept
      induction before using List.reverseRecOn with
      | nil => exact .inl fun _ h => nomatch h
      | append_singleton before attempt ih =>
        have hmem : attempt ∈ attempts := hbefore.subset (by simp)
        have hearlier := (List.prefix_append before [attempt]).trans hbefore
        apply Ready.append (hretried.relinks attempt hmem) (hplain attempt hmem) _
          (kept_before hretried hplain hearlier) (ih hearlier) (hkeeps before attempt hbefore)
        intro earlier last heq
        apply hretried.follows earlier last attempt
        rw [heq, List.append_assoc] at hbefore
        exact hbefore
    intro hpending
    rw [hkept.retains_iff]
    obtain hprevious | ⟨earlier, last, id, principal, approved, heq, hcrash, hcall, -⟩ := hready
    · exact hprevious
    · refine absurd ⟨earlier, last, heq, hcrash, ?_⟩ hpending
      rw [hcall]
      rfl

end Run

end Invariant

section Complete

variable {codec : Codec ModelCandidateManifest} {store : CandidateStore}
  {attempts : List Attempt} {id : List Char} {principal : Principal} {approved : Bool}

def complete (calls : List CandidateCall) : List Attempt := calls.map fun call => ⟨call, none⟩

theorem complete_append (calls : List CandidateCall) (call : CandidateCall) :
    complete (calls ++ [call]) = complete calls ++ [⟨call, none⟩] := by
  simp [complete]

theorem retried_complete (calls : List CandidateCall) : Retried (complete calls) := by
  have hcomplete : ∀ attempt ∈ complete calls, attempt.crash = none := by
    intro attempt hmem
    obtain ⟨call, -, rfl⟩ := List.mem_map.mp hmem
    rfl
  constructor
  · intro attempt hmem hcrash
    rw [hcomplete attempt hmem] at hcrash
    cases hcrash
  · intro before last next hbefore hcrash
    rw [hcomplete last (hbefore.subset (by simp))] at hcrash
    cases hcrash

theorem disk_watch_complete (calls : List CandidateCall) :
    (watch codec store (complete calls)).disk = settled codec store StoreDisk.empty calls := by
  induction calls using List.reverseRecOn with
  | nil => rfl
  | append_singleton calls call ih =>
    rw [complete_append, watch_append, disk_written, settled_append, ← ih]
    rfl

theorem watch_activate
    (h : Activates codec store (watch codec store attempts).disk id principal approved) :
    let next := watch codec store (attempts ++ [⟨.activate id principal approved, none⟩])
    next.disk.links .current = some (store.library id) ∧
      next.displaced =
        if some (store.library id) = (watch codec store attempts).disk.links .current then
          (watch codec store attempts).displaced
        else (watch codec store attempts).disk.links .current := by
  let attempt : Attempt := ⟨.activate id principal approved, none⟩
  have hmoves : Moves codec store (watch codec store attempts)
      (watch codec store (attempts ++ [attempt])) attempt := by
    rw [watch_append]
    exact moves_activate rfl
  cases hmoves with
  | still _ _ _ refused => exact absurd h (refused rfl id principal approved rfl)
  | copied _ _ _ _ _ crashed => cases crashed
  | activated id' principal' approved' call allowed current previous displaced =>
    cases call
    exact ⟨current, displaced⟩
  | restored _ _ _ _ call => cases call

theorem watch_quiet {call : CandidateCall} (h : call.relinks = false) :
    (watch codec store (attempts ++ [⟨call, none⟩])).disk.links =
        (watch codec store attempts).disk.links ∧
      (watch codec store (attempts ++ [⟨call, none⟩])).displaced =
        (watch codec store attempts).displaced := by
  let attempt : Attempt := ⟨call, none⟩
  have hmoves : Moves codec store (watch codec store attempts)
      (watch codec store (attempts ++ [attempt])) attempt := by
    rw [watch_append]
    exact moves_quiet rfl h
  cases hmoves with
  | still links displaced => exact ⟨links, displaced⟩
  | copied _ _ _ hcall =>
    cases (hcall : call = _)
    cases h
  | activated _ _ _ hcall =>
    cases (hcall : call = _)
    cases h
  | restored _ _ _ _ hcall =>
    cases (hcall : call = _)
    cases h

theorem activates_of_succeed {calls : List CandidateCall}
    (h : AllSucceed codec store StoreDisk.empty (calls ++ [.activate id principal approved])) :
    Activates codec store (watch codec store (complete calls)).disk id principal approved := by
  rw [disk_watch_complete]
  exact activates_of_ok (h.at (List.prefix_refl _))

theorem displaced_of_succeed {calls : List CandidateCall} {old : Path}
    (hid : SingleComponent id)
    (h : AllSucceed codec store StoreDisk.empty (calls ++ [.activate id principal approved]))
    (hold : (watch codec store (complete calls)).disk.links .current = some old)
    (hne : store.library id ≠ old) :
    let after := watch codec store (complete (calls ++ [.activate id principal approved]))
    after.disk.links .current = some (store.library id) ∧ after.displaced = some old ∧
      Activates codec store after.disk id principal approved := by
  have hallowed := activates_of_succeed h
  have hplain : (CandidateCall.activate id principal approved).Plain codec := by
    intro other hother
    rw [← Option.some.inj hother]
    exact hid
  obtain ⟨hcurrent, hdisplaced⟩ := watch_activate hallowed
  rw [hold, if_neg fun heq => hne (Option.some.inj heq)] at hdisplaced
  rw [complete_append]
  exact ⟨hcurrent, hdisplaced, activates_append (fun _ => rfl) hplain hid hallowed⟩

def fixtureBoth : List CandidateCall := fixtureInstall 'a' ++ fixtureInstall 'b'

theorem fixtureBoth_plain : ∀ attempt ∈ complete fixtureBoth, attempt.call.Plain fixtureCodec := by
  intro attempt hmem
  obtain ⟨call, hcall, rfl⟩ := List.mem_map.mp hmem
  obtain hfirst | hsecond := List.mem_append.mp hcall
  · exact fixture_plain (by decide) call hfirst
  · exact fixture_plain (by decide) call hsecond

/-- The installation of two candidates, one after the other. -/
theorem retains_installed :
    RetainsThroughout fixtureCodec fixtureStore (complete fixtureBoth) ↔
      NeverForgets fixtureCodec fixtureStore (complete fixtureBoth) :=
  retains_iff_never_forgets (retried_complete fixtureBoth) fixtureBoth_plain

theorem fixtureBoth_watch :
    let after := watch fixtureCodec fixtureStore (complete fixtureBoth)
    after.disk.links .current = some (fixtureStore.library ['b']) ∧
      after.displaced = some (fixtureStore.library ['a']) ∧
      Activates fixtureCodec fixtureStore after.disk ['b'] fixtureOperator true := by
  obtain ⟨prepared, hprepared⟩ : ∃ calls, calls = fixtureInstall 'a' ++
      [CandidateCall.receive 7 (fixtureCandidate 'b') fixtureOperator,
        CandidateCall.validate ['b'] fixtureOperator, CandidateCall.stage 7 ['b'] fixtureOperator] := ⟨_, rfl⟩
  have hboth : fixtureBoth = prepared ++ [CandidateCall.activate ['b'] fixtureOperator true] := by
    simp [fixtureBoth, hprepared, fixtureInstall, CandidateCall.install]
  have hfirst : (watch fixtureCodec fixtureStore (complete prepared)).disk.links .current =
      some (fixtureStore.library ['a']) := by
    have hattempts : complete prepared = complete (fixtureInstall 'a') ++
        [⟨.receive 7 (fixtureCandidate 'b') fixtureOperator, none⟩] ++
        [⟨.validate ['b'] fixtureOperator, none⟩] ++ [⟨.stage 7 ['b'] fixtureOperator, none⟩] := by
      simp [hprepared, complete]
    rw [hattempts, (watch_quiet rfl).1, (watch_quiet rfl).1, (watch_quiet rfl).1,
      disk_watch_complete]
    exact (fixture_install (by decide) rfl rfl).2.2
  have hne : fixtureStore.library ['b'] ≠ fixtureStore.library ['a'] := by
    intro heq
    exact absurd (CandidateStore.library_injective (by decide) (by decide) heq) (by decide)
  have hsucceed := fixture_install_both
  change AllSucceed _ _ _ fixtureBoth at hsucceed
  rw [hboth] at hsucceed ⊢
  exact displaced_of_succeed (by decide) hsucceed hfirst hne

/-- The candidate `b` is activated although it is current. A rollback then restores `b`, while `a`
was current before the latest change. -/
theorem activated_twice :
    let attempts := complete (fixtureBoth ++ [.activate ['b'] fixtureOperator true])
    Retried attempts ∧ ¬ RetainsThroughout fixtureCodec fixtureStore attempts := by
  refine ⟨retried_complete _, ?_⟩
  intro hretains
  rw [complete_append] at hretains
  obtain ⟨hcurrent, hdisplaced, hallowed⟩ := fixtureBoth_watch
  have hforgets : Attempt.Forgets fixtureCodec fixtureStore
      ⟨.activate ['b'] fixtureOperator true, none⟩
      (watch fixtureCodec fixtureStore (complete fixtureBoth)) :=
    ⟨by simp [hdisplaced], hcurrent, hallowed⟩
  have hkept : Kept fixtureCodec fixtureStore (complete fixtureBoth) :=
    kept_before (retried_complete fixtureBoth) fixtureBoth_plain (List.prefix_refl _)
  obtain ⟨hpending, hnot⟩ := not_retains_of_forgets (by decide) (by
    intro id hid
    rw [← Option.some.inj hid]
    decide) hkept hforgets
  exact hnot ((hretains _ (List.prefix_refl _)).2 hpending)

end Complete

end Netherwick.HigherBrain
