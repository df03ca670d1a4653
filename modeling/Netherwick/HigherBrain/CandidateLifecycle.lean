import Netherwick.HigherBrain.CandidateSteps

/-! # The logs of the candidates and the active link

The log of a candidate should end with its activation exactly when the link `current` points to
it. The calls that prepare a candidate add to its log whether or not it is active. -/

namespace Netherwick.HigherBrain

open Netherwick.Lib

/-- A call of the store with what it is given. -/
inductive CandidateCall
  | receive (process : Nat) (candidate : Tree) (principal : Principal)
  | validate (id : List Char) (principal : Principal)
  | stage (process : Nat) (id : List Char) (principal : Principal)
  | activate (id : List Char) (principal : Principal) (operatorApproved : Bool)
  | rollback (principal : Principal)

section Runs

variable (codec : Codec ModelCandidateManifest) (store : CandidateStore)

namespace CandidateCall

def program : CandidateCall → StoreCall Unit
  | receive process candidate principal =>
    (store.receive codec process candidate principal).discard
  | validate id principal => store.validate codec id principal
  | stage process id principal => store.stage codec process id principal
  | activate id principal approved => store.activate codec id principal approved
  | rollback principal => (store.rollback codec principal).discard

/-- The candidate that a call is about. A received candidate is named by its manifest. -/
def names : CandidateCall → Option (List Char)
  | receive _ candidate _ =>
    (validateCandidate codec candidate none).toOption.map (·.candidateId)
  | validate id _ | stage _ id _ | activate id _ _ => some id
  | rollback _ => none

def Plain (call : CandidateCall) : Prop := ∀ id ∈ call.names codec, SingleComponent id

/-- Does the call prepare a candidate once more that is active already? -/
def Revisits (call : CandidateCall) (disk : StoreDisk) : Prop :=
  match call with
  | receive .. | validate .. | stage .. =>
    ∃ id ∈ call.names codec, disk.links .current = some (store.library id)
  | activate .. | rollback .. => False

end CandidateCall

def settled (disk : StoreDisk) (calls : List CandidateCall) : StoreDisk :=
  calls.foldl (fun disk call => (call.program codec store).settle disk) disk

def AllSucceed : StoreDisk → List CandidateCall → Prop
  | _, [] => True
  | disk, call :: rest =>
    ((call.program codec store).answer disk).isOk = true ∧
      AllSucceed ((call.program codec store).settle disk) rest

/-- The logs agree with the active link. -/
structure Agrees (disk : StoreDisk) : Prop where
  activated_iff : ∀ id, SingleComponent id →
    (store.latest disk id = some .activated ↔ disk.links .current = some (store.library id))
  unique : ∀ id other, SingleComponent id → SingleComponent other →
    store.latest disk id = some .activated → store.latest disk other = some .activated → id = other

/-- The logs agree with the active link before, between and after the calls. -/
def AgreesThroughout (calls : List CandidateCall) : Prop :=
  ∀ before, before <+: calls → Agrees store (settled codec store StoreDisk.empty before)

/-- No call prepares a candidate that is active when the call is made. -/
def NeverRevisits (calls : List CandidateCall) : Prop :=
  ∀ before call, before ++ [call] <+: calls →
    ¬ call.Revisits codec store (settled codec store StoreDisk.empty before)

def Linked (disk : StoreDisk) : Prop :=
  ∀ link path, disk.links link = some path → ∃ id, SingleComponent id ∧ path = store.library id

@[simp] theorem settled_nil (disk : StoreDisk) : settled codec store disk [] = disk := rfl

@[simp] theorem settled_append (disk : StoreDisk) (calls : List CandidateCall)
    (call : CandidateCall) : settled codec store disk (calls ++ [call]) =
      (call.program codec store).settle (settled codec store disk calls) := by
  simp [settled]

variable {codec store} in
theorem AllSucceed.at {disk : StoreDisk} {calls before : List CandidateCall}
    {call : CandidateCall} (h : AllSucceed codec store disk calls)
    (hbefore : before ++ [call] <+: calls) :
    (call.program codec store).answer (settled codec store disk before) = .ok () := by
  induction before generalizing disk calls with
  | nil =>
    obtain ⟨rest, rfl⟩ := hbefore
    cases hanswer : (call.program codec store).answer disk with
    | ok _ => exact hanswer
    | error e =>
      have hok := h.1
      rw [hanswer] at hok
      cases hok
  | cons first before ih =>
    obtain ⟨rest, rfl⟩ := hbefore
    exact ih h.2 (List.prefix_append _ _)

end Runs

section Effects

variable {codec : Codec ModelCandidateManifest} {store : CandidateStore} {disk : StoreDisk}
  {id other : List Char} {principal : Principal}

theorem Records.latest {disk' : StoreDisk} {state : CandidateState}
    (h : Records store disk disk' id state principal) (hid : SingleComponent id)
    (hother : SingleComponent other) :
    store.latest disk' other = if other = id then some state else store.latest disk other := by
  obtain ⟨copied, hsame, rfl⟩ := h
  rw [CandidateStore.latest_logged hid hother, hsame.latest]

theorem Records.links {disk' : StoreDisk} {state : CandidateState}
    (h : Records store disk disk' id state principal) : disk'.links = disk.links := by
  obtain ⟨copied, hsame, rfl⟩ := h
  exact hsame.links

theorem settle_recordChange {former : List Char} (hformer : SingleComponent former)
    {state : CandidateState} {reason : Option String} :
    (store.recordChange (some (store.library former)) state id principal reason).settle disk =
      store.logged (store.logged disk former state principal none) id .activated principal
        reason := by
  unfold CandidateStore.recordChange CandidateStore.recordFormer
  rw [Option.bind_some, CandidateStore.candidateIdFromPath_library hformer]
  rfl

/-- What a successful call does to the links and to the ends of the logs. -/
inductive Effect (codec : Codec ModelCandidateManifest) (store : CandidateStore)
    (disk disk' : StoreDisk) : CandidateCall → Prop
  | prepared {call : CandidateCall} {id : List Char} {state : CandidateState}
      (names : call.names codec = some id) (kind : state ≠ .activated)
      (revisits : call.Revisits codec store disk ↔ disk.links .current = some (store.library id))
      (links : disk'.links = disk.links)
      (latest : ∀ other, SingleComponent id → SingleComponent other →
        store.latest disk' other = if other = id then some state else store.latest disk other) :
      Effect codec store disk disk' call
  | changed {call : CandidateCall} {id : List Char} (former : Option (List Char))
      (state : CandidateState) (plain : SingleComponent id)
      (plainFormer : ∀ f ∈ former, SingleComponent f) (kind : state ≠ .activated)
      (revisits : ¬ call.Revisits codec store disk)
      (before : disk.links .current = former.map store.library)
      (current : disk'.links .current = some (store.library id))
      (previous : disk'.links .previous = (former.map store.library).or (disk.links .previous))
      (latest : ∀ other, SingleComponent other → store.latest disk' other =
        if other = id then some .activated
        else if some other = former then some state else store.latest disk other) :
      Effect codec store disk disk' call

theorem activates_of_ok {approved : Bool}
    (h : (store.activate codec id principal approved).answer disk = .ok ()) :
    Activates codec store disk id principal approved := by
  by_contra hnot
  obtain ⟨error, hrefused⟩ := activate_refused hnot
  rw [Journaled.answer, hrefused] at h
  cases h

theorem effect_activate {approved : Bool} (hid : SingleComponent id) (hlinked : Linked store disk)
    (h : Activates codec store disk id principal approved) :
    Effect codec store disk ((store.activate codec id principal approved).settle disk)
      (.activate id principal approved) := by
  let ready := StoreDisk.write disk (.createDirAll (store.root.child "active".toList).resolve)
  cases hcurrent : disk.links .current with
  | none =>
    have hsettle : (store.activate codec id principal approved).settle disk =
        store.logged (ready.relink .current (store.library id)) id .activated principal none := by
      unfold Journaled.settle
      rw [activate_apply h, hcurrent]
      rfl
    rw [hsettle]
    apply Effect.changed none .superseded hid
    · intro f hf
      cases hf
    · exact fun h => nomatch h
    · exact fun h => h
    · exact hcurrent
    · rfl
    · rfl
    · intro other hother
      rw [CandidateStore.latest_logged hid hother]
      rfl
  | some path =>
    obtain ⟨former, hformer, rfl⟩ := hlinked _ _ hcurrent
    let linked := (ready.relink .previous (store.library former)).relink .current
      (store.library id)
    have hsettle : (store.activate codec id principal approved).settle disk =
        store.logged (store.logged linked former .superseded principal none) id .activated
          principal none := by
      rw [← settle_recordChange hformer]
      unfold Journaled.settle
      rw [activate_apply h, hcurrent]
      rfl
    rw [hsettle]
    apply Effect.changed (some former) .superseded hid
    · intro f hf
      rwa [← Option.some.inj hf]
    · exact fun h => nomatch h
    · exact fun h => h
    · exact hcurrent
    · rfl
    · rfl
    · intro other hother
      rw [CandidateStore.latest_logged hid hother, CandidateStore.latest_logged hformer hother]
      simp only [Option.some.injEq]
      rfl

theorem rollsBack_of_ok (h : (store.rollback codec principal).answer disk = .ok id) :
    ∃ active previous, RollsBack codec store disk principal active previous := by
  by_contra hnot
  push Not at hnot
  obtain ⟨error, hrefused⟩ := rollback_refused hnot
  rw [Journaled.answer, hrefused] at h
  cases h

theorem effect_rollback {active previous : Path} (hlinked : Linked store disk)
    (h : RollsBack codec store disk principal active previous) :
    Effect codec store disk ((store.rollback codec principal).settle disk)
      (.rollback principal) := by
  obtain ⟨former, hformer, rfl⟩ := hlinked _ _ h.current
  obtain ⟨restored, hrestored, rfl⟩ := hlinked _ _ h.former
  let linked := (disk.relink .current (store.library restored)).relink .previous
    (store.library former)
  have hsettle : (store.rollback codec principal).settle disk =
      store.logged (store.logged linked former .rolledBack principal none) restored .activated
        principal (some "rollback") := by
    rw [← settle_recordChange hformer]
    unfold Journaled.settle
    rw [rollback_apply hrestored h]
    rfl
  rw [hsettle]
  apply Effect.changed (some former) .rolledBack hrestored
  · intro f hf
    rwa [← Option.some.inj hf]
  · exact fun h => nomatch h
  · exact fun h => h
  · exact h.current
  · rfl
  · rfl
  · intro other hother
    rw [CandidateStore.latest_logged hrestored hother,
      CandidateStore.latest_logged hformer hother]
    simp only [Option.some.injEq]
    rfl

theorem Records.effect {disk' : StoreDisk} {state : CandidateState} {call : CandidateCall}
    (h : Records store disk disk' id state principal) (hkind : state ≠ .activated)
    (hnames : call.names codec = some id)
    (hrevisits : call.Revisits codec store disk ↔
      disk.links .current = some (store.library id)) : Effect codec store disk disk' call :=
  .prepared hnames hkind hrevisits h.links fun _ hid hother => h.latest hid hother

theorem effect_of_ok {call : CandidateCall} (hplain : call.Plain codec)
    (hlinked : Linked store disk) (h : (call.program codec store).answer disk = .ok ()) :
    Effect codec store disk ((call.program codec store).settle disk) call := by
  cases call with
  | receive process candidate principal =>
    obtain ⟨id, hreceive⟩ := Journaled.ok_of_discard h
    obtain ⟨⟨manifest, hmanifest, hid⟩, hrecords⟩ := receive_ok hreceive
    have hnames : (CandidateCall.receive process candidate principal).names codec = some id := by
      simp [CandidateCall.names, hmanifest, Except.toOption, hid]
    apply hrecords.effect (fun h => nomatch h) hnames
    simp [CandidateCall.Revisits, hnames]
  | validate id principal =>
    apply (validate_ok h).effect (fun h => nomatch h) rfl
    simp [CandidateCall.Revisits, CandidateCall.names]
  | stage process id principal =>
    apply (stage_ok h).effect (fun h => nomatch h) rfl
    simp [CandidateCall.Revisits, CandidateCall.names]
  | activate id principal approved =>
    exact effect_activate (hplain id rfl) hlinked (activates_of_ok h)
  | rollback principal =>
    obtain ⟨id, hrollback⟩ := Journaled.ok_of_discard h
    obtain ⟨active, previous, hrolls⟩ := rollsBack_of_ok hrollback
    exact effect_rollback hlinked hrolls

namespace Effect

variable {disk' : StoreDisk} {call : CandidateCall}

theorem linked (h : Effect codec store disk disk' call) (hlinked : Linked store disk) :
    Linked store disk' := by
  cases h with
  | prepared names kind revisits links latest =>
    intro link path hpath
    rw [links] at hpath
    exact hlinked link path hpath
  | changed former state plain plainFormer kind revisits before current previous latest =>
    intro link path hpath
    cases link with
    | current =>
      rw [current] at hpath
      exact ⟨_, plain, (Option.some.inj hpath).symm⟩
    | previous =>
      rw [previous] at hpath
      cases former with
      | none => exact hlinked .previous path hpath
      | some f => exact ⟨f, plainFormer f rfl, (Option.some.inj hpath).symm⟩

theorem not_agrees (h : Effect codec store disk disk' call) (hplain : call.Plain codec)
    (hrevisits : call.Revisits codec store disk) : ¬ Agrees store disk' := by
  intro hagrees
  cases h with
  | prepared names kind revisits links latest =>
    rename_i id state
    have hid : SingleComponent id := hplain id names
    have hcurrent : disk'.links .current = some (store.library id) := by
      rw [links]
      exact revisits.mp hrevisits
    have hactivated := (hagrees.activated_iff id hid).mpr hcurrent
    rw [latest id hid hid, if_pos rfl] at hactivated
    exact kind (Option.some.inj hactivated)
  | changed former state plain plainFormer kind revisits => exact revisits hrevisits

theorem agrees (h : Effect codec store disk disk' call) (hplain : call.Plain codec)
    (hagrees : Agrees store disk) (hrevisits : ¬ call.Revisits codec store disk) :
    Agrees store disk' := by
  have hiff : ∀ other, SingleComponent other → (store.latest disk' other = some .activated ↔
      disk'.links .current = some (store.library other)) := by
    intro other hother
    cases h with
    | prepared names kind revisits links latest =>
      rename_i id state
      have hid : SingleComponent id := hplain id names
      rw [latest other hid hother, links, ← hagrees.activated_iff other hother]
      by_cases heq : other = id
      · subst heq
        have hnot : store.latest disk other ≠ some .activated := by
          intro hactivated
          exact hrevisits (revisits.mpr ((hagrees.activated_iff other hother).mp hactivated))
        simp [kind, hnot]
      · simp [heq]
    | changed former state plain plainFormer kind revisits before current previous latest =>
      rename_i id
      rw [latest other hother, current]
      by_cases heq : other = id
      · simp [heq]
      · have hne : store.library id ≠ store.library other := by
          intro hlibrary
          exact heq (CandidateStore.library_injective plain hother hlibrary).symm
        by_cases hformer : some other = former
        · simp [heq, hformer, kind, hne]
        · have hnot : store.latest disk other ≠ some .activated := by
            intro hactivated
            have hcurrent := (hagrees.activated_iff other hother).mp hactivated
            rw [before] at hcurrent
            obtain ⟨f, hf, hlibrary⟩ := Option.map_eq_some_iff.mp hcurrent
            apply hformer
            rw [hf, CandidateStore.library_injective (plainFormer f hf) hother hlibrary]
          simp [heq, hformer, hnot, hne]
  refine ⟨hiff, ?_⟩
  intro id other hid hother hfirst hsecond
  have hcurrent := (hiff id hid).mp hfirst
  rw [(hiff other hother).mp hsecond] at hcurrent
  exact (CandidateStore.library_injective hother hid (Option.some.inj hcurrent)).symm

end Effect

theorem linked_empty : Linked store StoreDisk.empty := by
  intro link path hpath
  cases hpath

theorem agrees_empty : Agrees store StoreDisk.empty where
  activated_iff := fun _ _ => ⟨(fun h => nomatch h), (fun h => nomatch h)⟩
  unique := fun _ _ _ _ h => nomatch h

section Run

variable {calls before : List CandidateCall}

theorem linked_settled (hsucceed : AllSucceed codec store StoreDisk.empty calls)
    (hplain : ∀ call ∈ calls, call.Plain codec) (hbefore : before <+: calls) :
    Linked store (settled codec store StoreDisk.empty before) := by
  induction before using List.reverseRecOn with
  | nil => exact linked_empty
  | append_singleton before call ih =>
    have hlinked := ih ((List.prefix_append before [call]).trans hbefore)
    have hcall : call.Plain codec := hplain call (hbefore.subset (by simp))
    rw [settled_append]
    exact (effect_of_ok hcall hlinked (hsucceed.at hbefore)).linked hlinked

theorem effect_settled {call : CandidateCall}
    (hsucceed : AllSucceed codec store StoreDisk.empty calls)
    (hplain : ∀ call ∈ calls, call.Plain codec) (hbefore : before ++ [call] <+: calls) :
    call.Plain codec ∧ Effect codec store (settled codec store StoreDisk.empty before)
      (settled codec store StoreDisk.empty (before ++ [call])) call := by
  have hcall : call.Plain codec := hplain call (hbefore.subset (by simp))
  have hlinked := linked_settled hsucceed hplain ((List.prefix_append before [call]).trans hbefore)
  rw [settled_append]
  exact ⟨hcall, effect_of_ok hcall hlinked (hsucceed.at hbefore)⟩

theorem allSucceed_append {rest : List CandidateCall} (h : AllSucceed codec store disk calls)
    (hrest : AllSucceed codec store (settled codec store disk calls) rest) :
    AllSucceed codec store disk (calls ++ rest) := by
  induction calls generalizing disk with
  | nil => exact hrest
  | cons call calls ih => exact ⟨h.1, ih h.2 hrest⟩

/-- Over a sequence of successful calls the logs agree with the active link throughout exactly when
no call prepares the active candidate once more. -/
theorem lifecycle_agrees_iff (hsucceed : AllSucceed codec store StoreDisk.empty calls)
    (hplain : ∀ call ∈ calls, call.Plain codec) :
    AgreesThroughout codec store calls ↔ NeverRevisits codec store calls := by
  constructor
  · intro hagrees before call hbefore hrevisits
    obtain ⟨hcall, heffect⟩ := effect_settled hsucceed hplain hbefore
    exact heffect.not_agrees hcall hrevisits (hagrees _ hbefore)
  · intro hfresh before hbefore
    induction before using List.reverseRecOn with
    | nil => exact agrees_empty
    | append_singleton before call ih =>
      have hagrees := ih ((List.prefix_append before [call]).trans hbefore)
      obtain ⟨hcall, heffect⟩ := effect_settled hsucceed hplain hbefore
      exact heffect.agrees hcall hagrees (hfresh before call hbefore)

end Run

end Effects

section Installation

variable {codec : Codec ModelCandidateManifest} {store : CandidateStore} {disk : StoreDisk}
  {process : Nat} {candidate : Tree} {id : List Char} {principal : Principal}
  {manifest : ModelCandidateManifest}

theorem receive_succeeds (hscope : .returnCandidate ∈ principal.scopes)
    (hvalid : validateCandidate codec candidate none = .ok manifest)
    (habsent : disk.tree (store.received manifest.candidateId).resolve = none) :
    (store.receive codec process candidate principal).answer disk = .ok manifest.candidateId ∧
      ((store.receive codec process candidate principal).settle disk).tree.sub
        (store.received manifest.candidateId).resolve = candidate := by
  obtain ⟨hanswer, htarget⟩ : _ ∧ _ := copy_absent habsent hvalid
  unfold CandidateStore.receive
  rw [Principal.require_ok hscope, hvalid, Journaled.answer_check_ok_bind,
    Journaled.answer_check_ok_bind, Journaled.answer_bind hanswer,
    Journaled.settle_check_ok_bind, Journaled.settle_check_ok_bind, Journaled.settle_bind hanswer]
  exact ⟨rfl, htarget⟩

theorem validate_succeeds (hscope : .stageCandidate ∈ principal.scopes)
    (hvalid : validateCandidate codec (disk.tree.sub (store.received id).resolve)
      (some store.compatibility) = .ok manifest) :
    (store.validate codec id principal).answer disk = .ok () ∧
      ((store.validate codec id principal).settle disk).tree = disk.tree := by
  unfold CandidateStore.validate
  rw [Principal.require_ok hscope, Journaled.answer_check_ok_bind, Journaled.answer_get_bind,
    Journaled.settle_check_ok_bind, Journaled.settle_get_bind]
  simp only [hvalid]
  exact ⟨rfl, rfl⟩

theorem stage_succeeds (hscope : .stageCandidate ∈ principal.scopes)
    (hvalid : validateCandidate codec (disk.tree.sub (store.received id).resolve) none =
      .ok manifest)
    (haccepted : validateCandidate codec (disk.tree.sub (store.received id).resolve)
      (some store.compatibility) = .ok manifest)
    (habsent : disk.tree (store.library id).resolve = none) :
    (store.stage codec process id principal).answer disk = .ok () ∧
      ((store.stage codec process id principal).settle disk).tree.sub
        (store.library id).resolve = disk.tree.sub (store.received id).resolve := by
  obtain ⟨hanswer, htarget⟩ : _ ∧ _ := copy_absent habsent hvalid
  unfold CandidateStore.stage
  rw [Principal.require_ok hscope, Journaled.answer_check_ok_bind, Journaled.answer_get_bind,
    Journaled.settle_check_ok_bind, Journaled.settle_get_bind]
  simp only
  rw [haccepted, Journaled.answer_check_ok_bind, Journaled.answer_bind hanswer,
    Journaled.settle_check_ok_bind, Journaled.settle_bind hanswer]
  exact ⟨rfl, htarget⟩

theorem recordChange_answer (former : Option Path) (state : CandidateState)
    (reason : Option String) :
    (store.recordChange former state id principal reason).answer disk = .ok () := by
  unfold CandidateStore.recordChange CandidateStore.recordFormer
  cases former.bind candidateIdFromPath with
  | none => rfl
  | some _ => rfl

theorem activate_succeeds {approved : Bool}
    (h : Activates codec store disk id principal approved) :
    (store.activate codec id principal approved).answer disk = .ok () := by
  rw [Journaled.answer, activate_apply h]
  cases disk.links .current with
  | none => exact recordChange_answer none .superseded none
  | some old => exact recordChange_answer (some old) .superseded none

/-- The calls that bring a candidate from outside to the active link. -/
def CandidateCall.install (process : Nat) (candidate : Tree) (id : List Char)
    (principal : Principal) : List CandidateCall :=
  [.receive process candidate principal, .validate id principal, .stage process id principal,
    .activate id principal true]

theorem install_spares {other folder : List Char}
    (hname : ∀ manifest, validateCandidate codec candidate none = .ok manifest →
      manifest.candidateId = id) (hid : SingleComponent id) (hne : id ≠ other) :
    (settled codec store disk (CandidateCall.install process candidate id principal)).tree.sub
        (store.root.resolve ++ [folder, candidateFileName other]) =
      disk.tree.sub (store.root.resolve ++ [folder, candidateFileName other]) := by
  have hlog : ∀ w : StoreWrite, w.IsLog →
      w.Spares (store.root.resolve ++ [folder, candidateFileName other]) := fun _ h => h.spares
  have hreceive : (store.receive codec process candidate principal).Only
      (StoreWrite.Spares (store.root.resolve ++ [folder, candidateFileName other])) := by
    apply only_receive hlog
    intro manifest hmanifest
    rw [hname manifest hmanifest]
    exact copy_spares (resolve_received hid) (parent_received hid) (.inr (candidateFileName_ne hne))
  have hstage : (store.stage codec process id principal).Only
      (StoreWrite.Spares (store.root.resolve ++ [folder, candidateFileName other])) := by
    apply only_stage hlog
    intro source
    exact copy_spares (resolve_library hid) (parent_library hid) (.inr (candidateFileName_ne hne))
  refine (StoreWrite.sub_settle (activate_spares folder _) _).trans ?_
  refine (StoreWrite.sub_settle hstage _).trans ?_
  refine (StoreWrite.sub_settle (only_validate hlog) _).trans ?_
  exact StoreWrite.sub_settle hreceive disk

theorem install_succeeds (hid : SingleComponent manifest.candidateId)
    (hscopes : ∀ scope ∈ [Scope.returnCandidate, .stageCandidate, .activateCandidate],
      scope ∈ principal.scopes)
    (hvalid : validateCandidate codec candidate none = .ok manifest)
    (haccepted : validateCandidate codec candidate (some store.compatibility) = .ok manifest)
    (hreceived : disk.tree (store.received manifest.candidateId).resolve = none)
    (hlibrary : disk.tree (store.library manifest.candidateId).resolve = none) :
    let calls := CandidateCall.install process candidate manifest.candidateId principal
    AllSucceed codec store disk calls ∧
      (settled codec store disk calls).tree.sub (store.received manifest.candidateId).resolve =
        candidate ∧
      (settled codec store disk calls).links .current =
        some (store.library manifest.candidateId) := by
  let id := manifest.candidateId
  obtain ⟨hreceive, hcopy⟩ :
      (store.receive codec process candidate principal).answer disk = .ok id ∧ _ :=
    receive_succeeds (hscopes .returnCandidate (by decide)) hvalid hreceived
  let received := (store.receive codec process candidate principal).settle disk
  have habsent : received.tree (store.library id).resolve = none := by
    have hspares : (store.receive codec process candidate principal).Only
        (StoreWrite.Spares (store.library id).resolve) := by
      apply only_receive
      · exact fun _ hlog => hlog.spares
      · intro other hother
        rw [hvalid] at hother
        rw [← Except.ok.inj hother]
        exact copy_received_spares hid hid
    have hroot := congrFun (StoreWrite.sub_settle hspares disk) []
    simp only [Tree.sub, List.append_nil] at hroot
    rw [hroot]
    exact hlibrary
  have hstay (d : StoreDisk) (htree : d.tree = received.tree) :
      d.tree.sub (store.received id).resolve = candidate := by
    rw [htree]
    exact hcopy
  obtain ⟨hvalidate, htree⟩ :
      (store.validate codec id principal).answer received = .ok () ∧ _ :=
    validate_succeeds (hscopes .stageCandidate (by decide)) ((hstay received rfl).symm ▸ haccepted)
  let validated := (store.validate codec id principal).settle received
  have hsame : validated.tree.sub (store.received id).resolve = candidate := hstay validated htree
  obtain ⟨hstage, htarget⟩ :
      (store.stage codec process id principal).answer validated = .ok () ∧ _ :=
    stage_succeeds (hscopes .stageCandidate (by decide)) (hsame.symm ▸ hvalid)
      (hsame.symm ▸ haccepted) (htree.symm ▸ habsent)
  let staged := (store.stage codec process id principal).settle validated
  have hactivates : Activates codec store staged id principal true := by
    refine ⟨hscopes .activateCandidate (by decide), ?_, manifest, ?_⟩
    · exact fun h => absurd h.2 (by decide)
    · rw [htarget, hsame]
      exact haccepted
  refine ⟨?_, ?_, current_activate hactivates⟩
  · refine ⟨?_, ?_, ?_, ?_, trivial⟩
    · exact congrArg Except.isOk (Journaled.discard_ok hreceive)
    · exact congrArg Except.isOk hvalidate
    · exact congrArg Except.isOk hstage
    · exact congrArg Except.isOk (activate_succeeds hactivates)
  · have hspares : (store.stage codec process id principal).Only
        (StoreWrite.Spares (store.received id).resolve) := by
      apply only_stage
      · exact fun _ hlog => hlog.spares
      · exact fun source => copy_library_spares_received hid hid
    have hkept : (store.activate codec id principal true).Only
        (StoreWrite.Spares (store.received id).resolve) := by
      rw [resolve_received hid]
      exact activate_spares _ _
    exact (StoreWrite.sub_settle hkept staged).trans
      ((StoreWrite.sub_settle hspares validated).trans hsame)

end Installation

section Fixture

def fixtureManifestText (tag : Char) : List Char :=
  ["\x7b\"schema_version\":1,", "\"candidate_id\":\"", String.singleton tag, "\",",
    "\"algorithm_family\":", "\"fixture_digest_v1\",", "\"artifacts\":[],",
    "\"preprocessing_version\":", "\"fixture/1\",", "\"input_schema_version\":",
    "\"experience_bundle/1\",", "\"output_schema_version\":", "\"fixture_model/1\",",
    "\"training_build_identity\":", "\"", String.singleton tag, "\",",
    "\"source_experience_bundle_ids\":", "[],", "\"training_parameters\":\x7b\x7d,",
    "\"evaluation_results\":\x7b\x7d,", "\"hardware_requirements\":", "\x7b\x7d,",
    "\"runtime_requirements\":[],", "\"intended_deployment_target\":",
    "\"motherbrain_fixture\",", "\"rollback_compatibility\":", "\x7b\x7d,",
    "\"creation_status\":", "\"complete\"\x7d"].flatMap String.toList

def fixtureBytes (text : List Char) : List UInt8 := text.map fun c => c.val.toUInt8

def fixtureManifest (tag : Char) : ModelCandidateManifest where
  schemaVersion := 1
  candidateId := [tag]
  algorithmFamily := "fixture_digest_v1".toList
  artifacts := []
  preprocessingVersion := "fixture/1".toList
  inputSchemaVersion := "experience_bundle/1".toList
  outputSchemaVersion := "fixture_model/1".toList
  trainingBuildIdentity := [tag]
  sourceExperienceBundleIds := []
  trainingParameters := []
  evaluationResults := []
  hardwareRequirements := []
  runtimeRequirements := []
  intendedDeploymentTarget := "motherbrain_fixture".toList
  rollbackCompatibility := []
  creationStatus := "complete".toList

/-- The digest of the stored manifest. -/
def fixtureDigest (tag : Char) : List Char :=
  (if tag = 'a' then "e35fd47018404a313d2e7a5721befd3a4be17f3d76c84f81113c233f910702d2"
    else "e1b9791b9666d39461bfa64427dc7ec6da9c40435a1f0ea97fbb82aba0aaa44c").toList

/-- Digests and manifests of the two small candidates `a` and `b`. -/
def fixtureCodec : Codec ModelCandidateManifest where
  sha256 bytes :=
    if bytes = fixtureBytes (fixtureManifestText 'a') then fixtureDigest 'a'
    else if bytes = fixtureBytes (fixtureManifestText 'b') then fixtureDigest 'b'
    else []
  fromSlice bytes :=
    if bytes = fixtureBytes (fixtureManifestText 'a') then .ok (fixtureManifest 'a')
    else if bytes = fixtureBytes (fixtureManifestText 'b') then .ok (fixtureManifest 'b')
    else .error "expected value at line 1 column 1"

/-- The directory of a small candidate. -/
def fixtureCandidate (tag : Char) : Tree := fun location =>
  if location = [] then some .dir
  else if location = [candidateManifest] then
    some (.file (fixtureBytes (fixtureManifestText tag)))
  else if location = [candidateComplete] then
    some (.file (fixtureBytes (fixtureDigest tag ++ ['\n'])))
  else none

def fixtureStore : CandidateStore where
  root := [.rootDir, .normal "store".toList]
  compatibility := {}
  policy := .operatorApproval

def fixtureOperator : Principal where
  id := "operator".toList
  scopes := [.returnCandidate, .stageCandidate, .activateCandidate, .rollbackModel]

theorem fixture_bytes_ne : fixtureBytes (fixtureManifestText 'b') ≠
    fixtureBytes (fixtureManifestText 'a') := by decide +kernel

theorem utf8_fixtureBytes {text : List Char} (h : ∀ c ∈ text, c.utf8Size = 1) :
    utf8? (fixtureBytes text) = some text := by
  have hbytes : fixtureBytes text = text.flatMap String.utf8EncodeChar := by
    induction text with
    | nil => rfl
    | cons c rest ih =>
      rw [List.forall_mem_cons] at h
      rw [List.flatMap_cons, ← ih h.2, String.utf8EncodeChar_eq_singleton h.1]
      rfl
  have hencoded : (⟨(text.flatMap String.utf8EncodeChar).toArray⟩ : ByteArray) = text.utf8Encode :=
    ByteArray.ext List.data_toByteArray.symm
  rw [utf8?, hbytes, hencoded, String.fromUTF8?, dif_pos ByteArray.isValidUTF8_utf8Encode]
  have hstring : String.fromUTF8 text.utf8Encode ByteArray.isValidUTF8_utf8Encode =
      String.ofList text := String.toByteArray_inj.mp String.toByteArray_ofList.symm
  rw [hstring, Option.map_some, String.toList_ofList]

theorem fixture_marker {tag : Char} (htag : tag ∈ ['a', 'b']) :
    utf8? (fixtureBytes (fixtureDigest tag ++ ['\n'])) = some (fixtureDigest tag ++ ['\n']) ∧
      Text.trim (fixtureDigest tag ++ ['\n']) = fixtureDigest tag := by
  have hchars : ∃ chars, fixtureDigest tag = chars ∧
      ((chars ++ ['\n']).all fun c => c.utf8Size == 1) = true ∧
        Text.trim (chars ++ ['\n']) = chars := by
    simp only [List.mem_cons, List.not_mem_nil, or_false] at htag
    obtain rfl | rfl := htag
    · exact ⟨_, String.toList_ofList, by decide +kernel, by decide +kernel⟩
    · exact ⟨_, String.toList_ofList, by decide +kernel, by decide +kernel⟩
  obtain ⟨chars, hdigest, hsizes, htrim⟩ := hchars
  rw [hdigest]
  exact ⟨utf8_fixtureBytes fun c hc => beq_iff_eq.mp (List.all_eq_true.mp hsizes c hc), htrim⟩

theorem fixture_codec {tag : Char} (htag : tag ∈ ['a', 'b']) :
    fixtureCodec.fromSlice (fixtureBytes (fixtureManifestText tag)) = .ok (fixtureManifest tag) ∧
      fixtureCodec.sha256 (fixtureBytes (fixtureManifestText tag)) = fixtureDigest tag := by
  simp only [List.mem_cons, List.not_mem_nil, or_false] at htag
  obtain rfl | rfl := htag
  · simp [fixtureCodec]
  · simp [fixtureCodec, fixture_bytes_ne]

theorem fixture_validate {tag : Char} (htag : tag ∈ ['a', 'b'])
    (compatibility : Option CandidateCompatibility)
    (haccepts : compatibility.all (·.accepts (fixtureManifest tag)) = true) :
    validateCandidate fixtureCodec (fixtureCandidate tag) compatibility =
      .ok (fixtureManifest tag) := by
  obtain ⟨hslice, hdigest⟩ := fixture_codec htag
  obtain ⟨hutf8, htrim⟩ := fixture_marker htag
  have hmanifest : readFile (fixtureCandidate tag) [candidateManifest] =
      .ok (fixtureBytes (fixtureManifestText tag)) := by
    simp [readFile, Tree.read, fixtureCandidate]
  have hne : candidateComplete ≠ candidateManifest := by decide
  have hmarker : readText (fixtureCandidate tag) [candidateComplete] =
      .ok (fixtureDigest tag ++ ['\n']) := by
    have hfile : readFile (fixtureCandidate tag) [candidateComplete] =
        .ok (fixtureBytes (fixtureDigest tag ++ ['\n'])) := by
      simp [readFile, Tree.read, fixtureCandidate, hne]
    simp only [readText, hfile, bind, Except.bind, hutf8]
  have htarget : (fixtureManifest tag).intendedDeploymentTarget ≠ "brainstem".toList := by
    simp only [fixtureManifest]
    decide
  simp only [validateCandidate, hmanifest, hslice, hmarker, hdigest, htrim, bind, Except.bind]
  rw [if_neg (by simp [fixtureManifest, candidateSchemaVersion])]
  simp only [if_neg htarget, if_neg (not_not_intro rfl)]
  change (if _ then _ else _) = _
  rw [if_pos haccepts]

def fixtureInstall (tag : Char) : List CandidateCall :=
  CandidateCall.install 7 (fixtureCandidate tag) [tag] fixtureOperator

theorem fixture_install {tag : Char} {disk : StoreDisk} (htag : tag ∈ ['a', 'b'])
    (hreceived : disk.tree (fixtureStore.received [tag]).resolve = none)
    (hlibrary : disk.tree (fixtureStore.library [tag]).resolve = none) :
    AllSucceed fixtureCodec fixtureStore disk (fixtureInstall tag) ∧
      (settled fixtureCodec fixtureStore disk (fixtureInstall tag)).tree.sub
        (fixtureStore.received [tag]).resolve = fixtureCandidate tag ∧
      (settled fixtureCodec fixtureStore disk (fixtureInstall tag)).links .current =
        some (fixtureStore.library [tag]) := by
  have hname : (fixtureManifest tag).candidateId = [tag] := rfl
  have hid : SingleComponent (fixtureManifest tag).candidateId := by
    simp only [List.mem_cons, List.not_mem_nil, or_false] at htag
    obtain rfl | rfl := htag
    · decide
    · decide
  have haccepted : validateCandidate fixtureCodec (fixtureCandidate tag)
      (some fixtureStore.compatibility) = .ok (fixtureManifest tag) :=
    fixture_validate htag (some {}) rfl
  have hscopes : ∀ scope ∈ [Scope.returnCandidate, .stageCandidate, .activateCandidate],
      scope ∈ fixtureOperator.scopes := by decide
  rw [← hname] at hreceived hlibrary
  obtain ⟨hsucceed, hcopy, hcurrent⟩ : AllSucceed fixtureCodec fixtureStore disk
      (CandidateCall.install 7 (fixtureCandidate tag) (fixtureManifest tag).candidateId
        fixtureOperator) ∧ _ ∧ _ :=
    install_succeeds hid hscopes (fixture_validate htag none rfl) haccepted hreceived hlibrary
  unfold fixtureInstall
  rw [hname] at hsucceed hcopy hcurrent
  exact ⟨hsucceed, hcopy, hcurrent⟩

theorem Tree.eq_of_sub_eq {tree other : Tree} {location : Location}
    (h : tree.sub location = other.sub location) : tree location = other location := by
  have hroot := congrFun h []
  simp only [Tree.sub, List.append_nil] at hroot
  exact hroot

theorem fixture_install_both : AllSucceed fixtureCodec fixtureStore StoreDisk.empty
    (fixtureInstall 'a' ++ fixtureInstall 'b') := by
  have hfirst : AllSucceed fixtureCodec fixtureStore StoreDisk.empty (fixtureInstall 'a') :=
    (fixture_install (by decide) rfl rfl).1
  apply allSucceed_append hfirst
  have hkept (folder : List Char) :
      (settled fixtureCodec fixtureStore StoreDisk.empty (fixtureInstall 'a')).tree
        (fixtureStore.root.resolve ++ [folder, candidateFileName ['b']]) = none := by
    have hsub : (settled fixtureCodec fixtureStore StoreDisk.empty (fixtureInstall 'a')).tree.sub
        (fixtureStore.root.resolve ++ [folder, candidateFileName ['b']]) =
          StoreDisk.empty.tree.sub
            (fixtureStore.root.resolve ++ [folder, candidateFileName ['b']]) := by
      apply install_spares _ (by decide) (by decide)
      intro manifest hmanifest
      rw [fixture_validate (by decide) none rfl] at hmanifest
      rw [← Except.ok.inj hmanifest]
      rfl
    exact (Tree.eq_of_sub_eq hsub).trans rfl
  have hid : SingleComponent ['b'] := by decide
  apply (fixture_install (show 'b' ∈ ['a', 'b'] by decide) _ _).1
  · rw [resolve_received hid]
    exact hkept _
  · rw [resolve_library hid]
    exact hkept _

theorem fixture_plain {tag : Char} (htag : tag ∈ ['a', 'b']) :
    ∀ call ∈ fixtureInstall tag, call.Plain fixtureCodec := by
  have hname : (fixtureManifest tag).candidateId = [tag] := rfl
  intro call hcall id hid
  have heq : id = [tag] := by
    simp only [fixtureInstall, CandidateCall.install, List.mem_cons, List.not_mem_nil,
      or_false] at hcall
    obtain rfl | rfl | rfl | rfl := hcall
    all_goals
      simp_all [CandidateCall.names, fixture_validate htag, Except.toOption]
  rw [heq]
  simp only [List.mem_cons, List.not_mem_nil, or_false] at htag
  obtain rfl | rfl := htag
  · decide
  · decide

/-- The installation of one candidate. -/
theorem lifecycle_agrees_install : AgreesThroughout fixtureCodec fixtureStore (fixtureInstall 'a') ↔
    NeverRevisits fixtureCodec fixtureStore (fixtureInstall 'a') :=
  lifecycle_agrees_iff (fixture_install (by decide) rfl rfl).1 (fixture_plain (by decide))

/-- An operator validates the active candidate once more. -/
theorem validated_while_active :
    let calls := fixtureInstall 'a' ++ [.validate ['a'] fixtureOperator]
    AllSucceed fixtureCodec fixtureStore StoreDisk.empty calls ∧
      ¬ AgreesThroughout fixtureCodec fixtureStore calls := by
  obtain ⟨hinstall, hreceived, hcurrent⟩ :
      AllSucceed fixtureCodec fixtureStore StoreDisk.empty (fixtureInstall 'a') ∧ _ ∧ _ :=
    fixture_install (by decide) rfl rfl
  generalize hinstalled :
    settled fixtureCodec fixtureStore StoreDisk.empty (fixtureInstall 'a') = installed
    at hreceived hcurrent
  have hid : SingleComponent ['a'] := by decide
  have haccepted : validateCandidate fixtureCodec
      (installed.tree.sub (fixtureStore.received ['a']).resolve)
      (some fixtureStore.compatibility) = .ok (fixtureManifest 'a') :=
    hreceived.symm ▸ fixture_validate (by decide) (some {}) rfl
  obtain ⟨hvalidate, -⟩ :
      (fixtureStore.validate fixtureCodec ['a'] fixtureOperator).answer installed = .ok () ∧ _ :=
    validate_succeeds (by decide) haccepted
  constructor
  · apply allSucceed_append hinstall
    rw [hinstalled]
    exact ⟨congrArg Except.isOk hvalidate, trivial⟩
  · intro hagrees
    have hlast : Agrees fixtureStore
        ((fixtureStore.validate fixtureCodec ['a'] fixtureOperator).settle installed) := by
      have hlast := hagrees _ (List.prefix_refl _)
      rw [settled_append, hinstalled] at hlast
      exact hlast
    let call := CandidateCall.validate ['a'] fixtureOperator
    have hplain : call.Plain fixtureCodec := by
      intro id hname
      rw [← Option.some.inj hname]
      exact hid
    have hnames : call.names fixtureCodec = some ['a'] := rfl
    have hrevisits : call.Revisits fixtureCodec fixtureStore installed :=
      ⟨['a'], hnames, hcurrent⟩
    have hboth : call.Revisits fixtureCodec fixtureStore installed ↔
        installed.links .current = some (fixtureStore.library ['a']) :=
      ⟨fun _ => hcurrent, fun _ => hrevisits⟩
    have heffect := (validate_ok hvalidate).effect (fun h => nomatch h) hnames hboth
    exact heffect.not_agrees hplain hrevisits hlast

end Fixture

end Netherwick.HigherBrain
