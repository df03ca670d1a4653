import Netherwick.Skills.Release

/-! # Scopes of a running script

A script runs as a tree of children. Each child is a thread of its own with the scopes it has
opened; `together` gives a child new children and waits for them, `carefully` lets only a retreat
from its hazard through. What the threads do comes in any order in which threads can run; `try`
changes nothing but what the script does next. -/

namespace Netherwick.Skills

namespace Invocation

/-- The runtime leaves alone what the script keeps in the bridge. -/
structure Framed (before after : Invocation) : Prop where
  nextChild : after.bridge.nextChild = before.bridge.nextChild
  childHazard : after.bridge.childHazard = before.bridge.childHazard
  nextOperation : after.bridge.nextOperation = before.bridge.nextOperation
  queue : after.bridge.cancelledChildren = before.bridge.cancelledChildren

section Framed

variable {invocation : Invocation} {nowMs : Nat}

theorem Framed.refl (invocation : Invocation) : Framed invocation invocation :=
  ⟨rfl, rfl, rfl, rfl⟩

theorem Framed.trans {a b c : Invocation} (hab : Framed a b) (hbc : Framed b c) : Framed a c :=
  ⟨hbc.nextChild.trans hab.nextChild, hbc.childHazard.trans hab.childHazard,
    hbc.nextOperation.trans hab.nextOperation, hbc.queue.trans hab.queue⟩

theorem framed_note (invocation : Invocation) (happened : List Happening) :
    Framed invocation (invocation.note happened) := ⟨rfl, rfl, rfl, rfl⟩

theorem framed_finishOperation (invocation : Invocation) (id : Nat)
    (failure : Option SkillFailure) : Framed invocation (invocation.finishOperation id failure) := by
  unfold finishOperation
  split
  · exact .refl _
  · simp only
    split
    · exact ⟨rfl, rfl, rfl, rfl⟩
    · exact ⟨rfl, rfl, rfl, rfl⟩

theorem framed_finishAll {α : Type} (invocation : Invocation) (ended : List α) (id : α → Nat)
    (failure : α → Option SkillFailure) :
    Framed invocation (ended.foldl (fun invocation a =>
      invocation.finishOperation (id a) (failure a)) invocation) := by
  induction ended generalizing invocation with
  | nil => exact .refl _
  | cons a ended ih => exact (framed_finishOperation _ _ _).trans (ih _)

theorem framed_dropWaiting (invocation : Invocation) (drops : OperationRequest → Bool)
    (failure : OperationRequest → SkillFailure) :
    Framed invocation (invocation.dropWaiting drops failure) := ⟨rfl, rfl, rfl, rfl⟩

theorem framed_cancelInvocation (invocation : Invocation) (failure : SkillFailure) :
    Framed invocation (invocation.cancelInvocation failure) := by
  unfold cancelInvocation
  split
  · exact .refl _
  · have hfinished := framed_finishAll invocation
      (invocation.active.map fun active => active.request.id) (fun id => id) fun _ => some failure
    exact ⟨hfinished.nextChild, hfinished.childHazard, hfinished.nextOperation, hfinished.queue⟩

theorem framed_preempted (invocation : Invocation) (input : StepInput) :
    Framed invocation (invocation.preempted input) := by
  unfold preempted
  have hbegun : Framed invocation { invocation with
      bridge := { invocation.bridge with snapshot := some input.now }
      status := { invocation.status with phase := .running, updatedAtMs := input.now.tMs } } :=
    ⟨rfl, rfl, rfl, rfl⟩
  simp only
  split
  · split
    · exact (hbegun.trans (framed_cancelInvocation _ _)).trans (framed_cancelInvocation _ _)
    · exact hbegun.trans (framed_cancelInvocation _ _)
  · split
    · exact hbegun.trans (framed_cancelInvocation _ _)
    · exact hbegun

theorem framed_service (invocation : Invocation) :
    Framed { invocation with bridge := { invocation.bridge with cancelledChildren := [] } }
      invocation.serviceChildCancellations := by
  have hfold : ∀ (cancellations : List (List Nat × SkillFailure)) (invocation : Invocation),
      Framed invocation (cancellations.foldl (fun invocation cancellation =>
        invocation.serviceCancellation cancellation.1 cancellation.2) invocation) := by
    intro cancellations
    induction cancellations with
    | nil => exact fun invocation => .refl invocation
    | cons cancellation rest ih =>
      intro invocation
      refine Framed.trans ?_ (ih _)
      exact (framed_finishAll invocation _ (fun id => id) fun _ => some cancellation.2).trans
        (framed_dropWaiting _ _ _)
  exact hfold _ _

theorem framed_grant (invocation : Invocation) (nowMs : Nat) :
    Framed invocation (invocation.grantWaitingOperations nowMs) := by
  unfold grantWaitingOperations
  induction BodyResource.all generalizing invocation with
  | nil => exact .refl _
  | cons resource rest ih =>
    refine Framed.trans ?_ (ih _)
    unfold grantWaitingOperation
    split
    · exact ⟨rfl, rfl, rfl, rfl⟩
    · exact .refl _

theorem framed_drain (invocation : Invocation) (nowMs : Nat) :
    Framed invocation (invocation.drainNewRequests nowMs) := by
  have hfold : ∀ (requests : List OperationRequest) (invocation : Invocation),
      Framed invocation (requests.foldl (drainRequest nowMs) invocation) := by
    intro requests
    induction requests with
    | nil => exact fun invocation => .refl invocation
    | cons request rest ih =>
      intro invocation
      refine Framed.trans ?_ (ih _)
      unfold drainRequest
      repeat' split
      all_goals exact ⟨rfl, rfl, rfl, rfl⟩
  have hstart : Framed invocation
      { invocation with bridge := { invocation.bridge with requests := [] } } :=
    ⟨rfl, rfl, rfl, rfl⟩
  exact hstart.trans (hfold _ _)

theorem framed_prepared (invocation : Invocation) (config : LuaSkillConfig) (input : StepInput) :
    Framed { invocation with bridge := { invocation.bridge with cancelledChildren := [] } }
      (invocation.prepared config input) := by
  have hpreempted := framed_preempted invocation input
  have hservice := framed_service (invocation.preempted input)
  have hstart : Framed
      { invocation with bridge := { invocation.bridge with cancelledChildren := [] } }
      { invocation.preempted input with
        bridge := { (invocation.preempted input).bridge with cancelledChildren := [] } } :=
    ⟨hpreempted.nextChild, hpreempted.childHazard, hpreempted.nextOperation, rfl⟩
  unfold prepared
  apply Framed.trans _ (framed_grant _ _)
  unfold serviceActiveOperations
  refine Framed.trans ?_ (framed_finishAll _ _ _ _)
  refine Framed.trans ?_ (framed_note _ _)
  exact (hstart.trans hservice).trans (framed_dropWaiting _ _ _)

theorem framed_concluded (invocation : Invocation) (config : LuaSkillConfig)
    (ending : PollEnding) : Framed invocation (invocation.concluded config ending) := by
  cases ending with
  | panicked | overBudget | failed => exact framed_cancelInvocation _ _
  | returned | pending => exact ⟨rfl, rfl, rfl, rfl⟩

theorem framed_finishStatus (invocation : Invocation) (nowMs : Nat) :
    Framed invocation (invocation.finishStatus nowMs) := by
  unfold finishStatus
  repeat' split
  all_goals exact ⟨rfl, rfl, rfl, rfl⟩

theorem framed_end (invocation : Invocation) (nowMs : Nat) :
    Framed invocation (((invocation.drainNewRequests nowMs).grantWaitingOperations nowMs
      ).finishStatus nowMs) :=
  ((framed_drain _ _).trans (framed_grant _ _)).trans (framed_finishStatus _ _)

end Framed

/-- What happened is added to, and the driver is not polled meanwhile. -/
def Mute (before after : Invocation) : Prop :=
  ∃ more, after.log = before.log ++ more ∧ ∀ id operation, .polled id operation ∉ more

section Mute

variable {nowMs : Nat}

theorem Mute.refl (invocation : Invocation) : Mute invocation invocation :=
  ⟨[], by simp, by simp⟩

theorem Mute.trans {a b c : Invocation} (hab : Mute a b) (hbc : Mute b c) : Mute a c := by
  obtain ⟨first, hfirst, hmute⟩ := hab
  obtain ⟨second, hsecond, hmute'⟩ := hbc
  refine ⟨first ++ second, by rw [hsecond, hfirst, List.append_assoc], ?_⟩
  intro id operation hmem
  obtain hleft | hright := List.mem_append.mp hmem
  · exact hmute id operation hleft
  · exact hmute' id operation hright

theorem Mute.kept {before after : Invocation} (h : Mute before after) :
    before.log <+: after.log := by
  obtain ⟨more, heq, -⟩ := h
  exact ⟨more, heq.symm⟩

theorem Mute.polled {before after : Invocation} (h : Mute before after) {id : Nat}
    {operation : HostOperation} (hpolled : .polled id operation ∈ after.log) :
    .polled id operation ∈ before.log := by
  obtain ⟨more, heq, hmute⟩ := h
  rw [heq] at hpolled
  exact (List.mem_append.mp hpolled).resolve_right (hmute id operation)

theorem mute_finishOperation (invocation : Invocation) (id : Nat)
    (failure : Option SkillFailure) : Mute invocation (invocation.finishOperation id failure) := by
  unfold finishOperation
  split
  · exact .refl _
  · simp only
    split
    · refine ⟨_, rfl, ?_⟩
      split <;> simp
    · exact ⟨_, rfl, by simp⟩

theorem mute_finishAll {α : Type} (invocation : Invocation) (ended : List α) (id : α → Nat)
    (failure : α → Option SkillFailure) :
    Mute invocation (ended.foldl (fun invocation a =>
      invocation.finishOperation (id a) (failure a)) invocation) := by
  induction ended generalizing invocation with
  | nil => exact .refl _
  | cons a ended ih => exact (mute_finishOperation _ _ _).trans (ih _)

theorem mute_dropWaiting (invocation : Invocation) (drops : OperationRequest → Bool)
    (failure : OperationRequest → SkillFailure) :
    Mute invocation (invocation.dropWaiting drops failure) := ⟨_, rfl, by simp⟩

theorem mute_expired (invocation : Invocation) (nowMs : Nat) :
    Mute invocation (invocation.expireResourceWaits nowMs) := mute_dropWaiting _ _ _

theorem mute_cancelInvocation (invocation : Invocation) (failure : SkillFailure) :
    Mute invocation (invocation.cancelInvocation failure) := by
  unfold cancelInvocation
  split
  · exact .refl _
  · have hfinished := mute_finishAll invocation
      (invocation.active.map fun active => active.request.id) (fun id => id) fun _ => some failure
    have hdropped := hfinished.trans (mute_dropWaiting _ (fun _ => true) fun _ => failure)
    exact hdropped.trans ⟨_, rfl, by simp⟩

theorem mute_preempted (invocation : Invocation) (input : StepInput) :
    Mute invocation (invocation.preempted input) := by
  have hbegun : ∀ {after : Invocation}, Mute { invocation with
      bridge := { invocation.bridge with snapshot := some input.now }
      status := { invocation.status with phase := .running, updatedAtMs := input.now.tMs } } after →
      Mute invocation after := fun h => h
  unfold preempted
  simp only
  split
  · split
    · exact hbegun ((mute_cancelInvocation _ _).trans (mute_cancelInvocation _ _))
    · exact hbegun (mute_cancelInvocation _ _)
  · split
    · exact hbegun (mute_cancelInvocation _ _)
    · exact hbegun (.refl _)

theorem mute_serviceCancellation (invocation : Invocation) (children : List Nat)
    (failure : SkillFailure) :
    Mute invocation (invocation.serviceCancellation children failure) :=
  (mute_finishAll invocation _ (fun id => id) fun _ => some failure).trans
    (mute_dropWaiting _ _ _)

theorem mute_service (invocation : Invocation) :
    Mute invocation invocation.serviceChildCancellations := by
  have hfold : ∀ (cancellations : List (List Nat × SkillFailure)) (invocation : Invocation),
      Mute invocation (cancellations.foldl (fun invocation cancellation =>
        invocation.serviceCancellation cancellation.1 cancellation.2) invocation) := by
    intro cancellations
    induction cancellations with
    | nil => exact fun invocation => .refl invocation
    | cons cancellation rest ih =>
      exact fun invocation => (mute_serviceCancellation invocation _ _).trans (ih _)
  exact hfold invocation.bridge.cancelledChildren
    { invocation with bridge := { invocation.bridge with cancelledChildren := [] } }

theorem mute_grant (invocation : Invocation) (nowMs : Nat) :
    Mute invocation (invocation.grantWaitingOperations nowMs) := by
  unfold grantWaitingOperations
  induction BodyResource.all generalizing invocation with
  | nil => exact .refl _
  | cons resource rest ih =>
    refine Mute.trans ?_ (ih _)
    unfold grantWaitingOperation
    split
    · exact ⟨_, rfl, by simp⟩
    · exact .refl _

theorem mute_drain (invocation : Invocation) (nowMs : Nat) :
    Mute invocation (invocation.drainNewRequests nowMs) := by
  have hfold : ∀ (requests : List OperationRequest) (invocation : Invocation),
      Mute invocation (requests.foldl (drainRequest nowMs) invocation) := by
    intro requests
    induction requests with
    | nil => exact fun invocation => .refl invocation
    | cons request rest ih =>
      intro invocation
      refine Mute.trans ?_ (ih _)
      unfold drainRequest
      split
      · split
        · exact ⟨_, rfl, by simp⟩
        · split
          · exact ⟨[], by simp [setWaiters, log], by simp⟩
          · exact ⟨_, rfl, by simp⟩
      · exact ⟨[], by simp [log], by simp⟩
  exact hfold invocation.requests
    { invocation with bridge := { invocation.bridge with requests := [] } }

theorem mute_finishStatus (invocation : Invocation) (nowMs : Nat) :
    Mute invocation (invocation.finishStatus nowMs) := by
  refine ⟨[], ?_, by simp⟩
  unfold finishStatus
  repeat' split
  all_goals simp [log]

theorem mute_concluded (invocation : Invocation) (config : LuaSkillConfig)
    (ending : PollEnding) : Mute invocation (invocation.concluded config ending) := by
  cases ending with
  | panicked | overBudget | failed => exact mute_cancelInvocation _ _
  | returned | pending => exact ⟨[], by simp [concluded, log], by simp⟩

end Mute

end Invocation

/-- An open scope of a child. A careful scope is intact until one inside it, of the same child, is
left. -/
inductive Scope
  | careful (hazard : HazardKind) (intact : Bool)
  | together (ids : List Nat)
  deriving DecidableEq, Repr

/-- The threads of a script that have not ended, the scopes they have opened, innermost first, and
the line from each child to the foreground. The doomed are the children that a failed `together`
cancelled so far. The outside are the operations asked for although an enclosing careful scope
excludes them. -/
structure Scopes where
  threads : List Nat
  opened : Nat → List Scope
  lineage : Nat → List Nat
  doomed : List Nat
  outside : List Nat

/-- Something that a thread does. -/
inductive ScriptEvent
  | request (child : Nat) (operation : HostOperation)
  | carefully (child : Nat) (hazard : HazardKind)
  | leaveCarefully (child : Nat)
  | together (child count : Nat)
  | returns (child : Nat)
  | fails (child : Nat) (failure : SkillFailure)

namespace Scopes

def initial : Scopes where
  threads := [0]
  opened := fun _ => []
  lineage := fun child => [child]
  doomed := []
  outside := []

variable (scopes : Scopes)

def setOpened (child : Nat) (opened : List Scope) : Scopes :=
  { scopes with
    opened := fun other => if other = child then opened else scopes.opened other }

/-- The thread of the child has not ended and waits for no children of its own. -/
def running (child : Nat) : Bool :=
  child ∈ scopes.threads && match scopes.opened child with
    | .together _ :: _ => false
    | _ => true

def enclosing (child : Nat) : List HazardKind :=
  (scopes.lineage child).flatMap fun ancestor =>
    (scopes.opened ancestor).filterMap fun
      | .careful hazard _ => some hazard
      | .together _ => none

/-- The `together` that a child without open scopes belongs to: the child that waits and all its
siblings with itself. -/
def group (child : Nat) : Option (Nat × List Nat) :=
  if child ∈ scopes.threads ∧ scopes.opened child = [] then
    match scopes.lineage child with
    | _ :: parent :: _ =>
      match scopes.opened parent with
      | .together ids :: _ => if child ∈ ids then some (parent, ids) else none
      | _ => none
    | _ => none
  else none

def disturbed : List Scope → List Scope
  | .careful hazard _ :: rest => .careful hazard false :: rest
  | opened => opened

/-- The scopes after the child has opened a `together`. -/
def forked (bridge : Bridge) (child count : Nat) : Scopes :=
  { scopes.setOpened child (.together (bridge.childIds count) :: scopes.opened child) with
    threads := scopes.threads ++ bridge.childIds count
    lineage := fun other =>
      if other ∈ bridge.childIds count then other :: scopes.lineage child
      else scopes.lineage other }

/-- The scopes after the child has failed its `together`. -/
def failed (child parent : Nat) (ids : List Nat) : Scopes :=
  { scopes.setOpened parent (scopes.opened parent).tail with
    threads := scopes.threads.filter fun thread =>
      !(scopes.lineage thread).any fun ancestor => ancestor ∈ ids
    doomed := scopes.doomed ++ ids.filter fun id => id ≠ child }

/-- What an event does to the scopes and asks of the bridge. An event that no thread can make
does nothing. -/
def event (bridge : Bridge) : ScriptEvent → Scopes × List BridgeAction
  | .request child operation =>
    if scopes.running child then
      let excluded := (scopes.enclosing child).any fun hazard => !hazard.permits operation
      ({ scopes with
        outside := if excluded then scopes.outside ++ [bridge.nextOperation] else scopes.outside },
        [.enqueue child operation])
    else (scopes, [])
  | .carefully child hazard =>
    if scopes.running child ∧
        bridge.snapshot.any fun now => (validateHazardAcknowledged now hazard).isOk then
      (scopes.setOpened child (.careful hazard true :: scopes.opened child),
        [.setHazard child (some hazard)])
    else (scopes, [])
  | .leaveCarefully child =>
    match scopes.running child, scopes.opened child with
    | true, .careful _ _ :: rest =>
      (scopes.setOpened child (disturbed rest), [.setHazard child none])
    | _, _ => (scopes, [])
  | .together child count =>
    if scopes.running child ∧ 1 ≤ count ∧ count ≤ 32 then
      (scopes.forked bridge child count, [.allocateChildren child count])
    else (scopes, [])
  | .returns child =>
    match scopes.group child with
    | none => (scopes, [])
    | some (parent, ids) =>
      let threads := scopes.threads.filter fun thread => thread ≠ child
      if ids.any fun id => id ∈ threads then ({ scopes with threads }, [])
      else ({ scopes.setOpened parent (scopes.opened parent).tail with threads },
        [.finishChildren ids])
  | .fails child failure =>
    match scopes.group child with
    | none => (scopes, [])
    | some (parent, ids) =>
      (scopes.failed child parent ids,
        [.cancelChildren (ids.filter fun id => id ≠ child) failure, .finishChildren ids])

def performed (maximumOperationMs : Nat) (bridge : Bridge) (event : ScriptEvent) : Bridge :=
  (scopes.event bridge event).2.foldl (Bridge.perform maximumOperationMs) bridge

def poll (maximumOperationMs : Nat) :
    Bridge → Scopes → List ScriptEvent → Scopes × List BridgeAction
  | _, scopes, [] => (scopes, [])
  | bridge, scopes, event :: rest =>
    let (last, more) := poll maximumOperationMs
      (scopes.performed maximumOperationMs bridge event) (scopes.event bridge event).1 rest
    (last, (scopes.event bridge event).2 ++ more)

theorem poll_append (maximumOperationMs : Nat) (bridge : Bridge) (done : List ScriptEvent)
    (event : ScriptEvent) :
    let before := scopes.poll maximumOperationMs bridge done
    let bridge' := before.2.foldl (Bridge.perform maximumOperationMs) bridge
    scopes.poll maximumOperationMs bridge (done ++ [event]) =
      ((before.1.event bridge' event).1, before.2 ++ (before.1.event bridge' event).2) := by
  induction done generalizing bridge scopes with
  | nil => simp [poll]
  | cons first rest ih =>
    have hrest := ih (scopes.event bridge first).1 (scopes.performed maximumOperationMs bridge first)
    simp only [List.cons_append, poll, List.foldl_append, List.append_assoc] at hrest ⊢
    rw [hrest]
    rfl

inductive Effect (maximumOperationMs : Nat) (bridge : Bridge) (scopes : Scopes) :
    ScriptEvent → Bridge → Scopes → Prop
  | idle {event : ScriptEvent} (enabled : ∀ child operation, event = .request child operation →
      scopes.running child = false) : Effect maximumOperationMs bridge scopes event bridge scopes
  | request {child : Nat} {operation : HostOperation} {outside : List Nat}
      (running : scopes.running child = true)
      (excluded : outside = if (scopes.enclosing child).any fun hazard =>
        !hazard.permits operation then scopes.outside ++ [bridge.nextOperation]
        else scopes.outside) :
      Effect maximumOperationMs bridge scopes (.request child operation)
        (bridge.enqueue child operation maximumOperationMs) { scopes with outside }
  | carefully {child : Nat} {hazard : HazardKind} (running : scopes.running child = true) :
      Effect maximumOperationMs bridge scopes (.carefully child hazard)
        (bridge.setHazard child (some hazard))
        (scopes.setOpened child (.careful hazard true :: scopes.opened child))
  | leaves {child : Nat} {hazard : HazardKind} {intact : Bool} {rest : List Scope}
      (running : scopes.running child = true)
      (opened : scopes.opened child = .careful hazard intact :: rest) :
      Effect maximumOperationMs bridge scopes (.leaveCarefully child)
        (bridge.setHazard child none) (scopes.setOpened child (disturbed rest))
  | forks {child count : Nat} (running : scopes.running child = true) :
      Effect maximumOperationMs bridge scopes (.together child count)
        (bridge.allocateChildren child count) (scopes.forked bridge child count)
  | returns {child parent : Nat} {ids : List Nat} (group : scopes.group child = some (parent, ids)) :
      Effect maximumOperationMs bridge scopes (.returns child) bridge
        { scopes with threads := scopes.threads.filter fun thread => thread ≠ child }
  | joins {child parent : Nat} {ids : List Nat} (group : scopes.group child = some (parent, ids))
      (ended : ∀ id ∈ ids, id ∉ scopes.threads.filter fun thread => thread ≠ child) :
      Effect maximumOperationMs bridge scopes (.returns child) (bridge.finishChildren ids)
        { scopes.setOpened parent (scopes.opened parent).tail with
          threads := scopes.threads.filter fun thread => thread ≠ child }
  | fails {child parent : Nat} {ids : List Nat} {failure : SkillFailure}
      (group : scopes.group child = some (parent, ids)) :
      Effect maximumOperationMs bridge scopes (.fails child failure)
        ((bridge.cancelChildren (ids.filter fun id => id ≠ child) failure).finishChildren ids)
        (scopes.failed child parent ids)

theorem event_effect (maximumOperationMs : Nat) (bridge : Bridge) (event : ScriptEvent) :
    Effect maximumOperationMs bridge scopes event
      (scopes.performed maximumOperationMs bridge event) (scopes.event bridge event).1 := by
  unfold performed
  cases event with
  | request child operation =>
    unfold Scopes.event
    simp only
    split
    · rename_i hrunning
      exact .request hrunning rfl
    · rename_i hrunning
      refine .idle ?_
      intro other operation heq
      cases heq
      simpa using hrunning
  | carefully child hazard =>
    unfold Scopes.event
    simp only
    split
    · rename_i henabled
      exact .carefully henabled.1
    · exact .idle (by simp)
  | leaveCarefully child =>
    unfold Scopes.event
    simp only
    split
    · rename_i hrunning hopened
      exact .leaves hrunning hopened
    · exact .idle (by simp)
  | together child count =>
    unfold Scopes.event
    simp only
    split
    · rename_i henabled
      exact .forks henabled.1
    · exact .idle (by simp)
  | returns child =>
    unfold Scopes.event
    simp only
    split
    · exact .idle (by simp)
    · rename_i parent ids hgroup
      split
      · exact .returns hgroup
      · rename_i hended
        refine .joins hgroup ?_
        simpa using hended
  | fails child failure =>
    unfold Scopes.event
    simp only
    split
    · exact .idle (by simp)
    · rename_i parent ids hgroup
      exact .fails hgroup

end Scopes

theorem running_mem {scopes : Scopes} {child : Nat} (h : scopes.running child = true) :
    child ∈ scopes.threads := by
  unfold Scopes.running at h
  rw [Bool.and_eq_true, decide_eq_true_eq] at h
  exact h.1

theorem mem_childIds {bridge : Bridge} {count child : Nat} :
    child ∈ bridge.childIds count ↔
      bridge.nextChild ≤ child ∧ child < bridge.nextChild + count := by
  unfold Bridge.childIds
  rw [List.mem_range'_1]

theorem group_some {scopes : Scopes} {child parent : Nat} {ids : List Nat}
    (h : scopes.group child = some (parent, ids)) :
    child ∈ scopes.threads ∧ child ∈ ids ∧ ∃ rest, scopes.opened parent = .together ids :: rest := by
  unfold Scopes.group at h
  split at h
  · rename_i hthread
    split at h
    · split at h
      · rename_i rest hopened
        split at h
        · rename_i hmem
          cases h
          exact ⟨hthread.1, hmem, rest, hopened⟩
        · cases h
      · cases h
    · cases h
  · cases h

/-- What a step of a skill is given. -/
structure SkillInput where
  now : Now
  events : List Cockpit.CockpitEventKind
  driver : Nat → OrganPoll
  script : List ScriptEvent
  ending : PollEnding

/-- What the runtime is given when the script asks for these actions. -/
def SkillInput.stepInput (input : SkillInput) (actions : List BridgeAction) : StepInput :=
  ⟨input.now, input.events, input.driver, ⟨actions, input.ending⟩⟩

inductive SkillTurn
  | step (input : SkillInput)
  | cancel (failure : SkillFailure) (nowMs : Nat)

/-- A skill: the runtime and its script. The swept are the doomed children whose cancellations
have been serviced. -/
structure Skill where
  invocation : Invocation
  scopes : Scopes
  swept : List Nat

namespace Skill

def start (now : Now) (maximumDurationMs : Nat) : Skill :=
  ⟨Invocation.start now maximumDurationMs, .initial, []⟩

/-- The invocation when the script is polled. -/
def prepared (config : LuaSkillConfig) (skill : Skill) (input : SkillInput) : Invocation :=
  skill.invocation.prepared config (input.stepInput [])

def scripted (config : LuaSkillConfig) (skill : Skill) (input : SkillInput) :
    Scopes × List BridgeAction :=
  if (skill.prepared config input).result.isSome then (skill.scopes, [])
  else Scopes.poll config.maximumOperationMs (skill.prepared config input).bridge skill.scopes
    input.script

def turn (config : LuaSkillConfig) (skill : Skill) : SkillTurn → Skill
  | .step input =>
    let (scopes, actions) := skill.scripted config input
    ⟨skill.invocation.step config (input.stepInput actions), scopes, skill.scopes.doomed⟩
  | .cancel failure nowMs => { skill with invocation := skill.invocation.cancel failure nowMs }

def run (config : LuaSkillConfig) (now : Now) (maximumDurationMs : Nat)
    (turns : List SkillTurn) : Skill :=
  turns.foldl (turn config) (start now maximumDurationMs)

theorem run_append (config : LuaSkillConfig) (now : Now) (maximumDurationMs : Nat)
    (before : List SkillTurn) (last : SkillTurn) :
    run config now maximumDurationMs (before ++ [last]) =
      (run config now maximumDurationMs before).turn config last := by
  unfold run
  rw [List.foldl_append]
  rfl

theorem accounted_run (config : LuaSkillConfig) (now : Now) (maximumDurationMs : Nat)
    (turns : List SkillTurn) :
    (run config now maximumDurationMs turns).invocation.Accounted [] := by
  induction turns using List.reverseRecOn with
  | nil => exact Invocation.accounted_start now maximumDurationMs
  | append_singleton before last ih =>
    rw [run_append]
    cases last with
    | step input => exact ih.step
    | cancel failure nowMs => exact ih.cancel failure nowMs

end Skill

end Netherwick.Skills
