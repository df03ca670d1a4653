import Netherwick.Skills.Scopes

/-! # How far a cancellation reaches

A failed `together` cancels the siblings of the child that failed by their own identities. The
operations of children further down go on. -/

namespace Netherwick.Skills

namespace Invocation

/-- The operation is active or waits for an organ. -/
def Open (invocation : Invocation) (request : OperationRequest) : Prop :=
  (∃ active ∈ invocation.active, active.request = request) ∨
    ∃ resource, request ∈ invocation.waiters resource

/-- The child's cancellation is waiting for service. -/
def Cancelled (invocation : Invocation) (child : Nat) : Prop :=
  ∃ cancellation ∈ invocation.bridge.cancelledChildren, child ∈ cancellation.1

end Invocation

namespace Skill

def Descends (skill : Skill) (child : Nat) (doomed : List Nat) : Prop :=
  ∃ ancestor ∈ skill.scopes.lineage child, ancestor ∈ doomed

/-- Nothing of the doomed children or of their descendants is open or owns an organ. -/
structure Clean (skill : Skill) (invocation : Invocation) (doomed : List Nat) : Prop where
  shut : ∀ request, invocation.Open request → ¬ skill.Descends request.childId doomed
  owners : ∀ resource id, invocation.owners resource = some id →
    ∃ active ∈ invocation.active, active.request.id = id ∧
      ¬ skill.Descends active.request.childId doomed

structure Serves (skill : Skill) (input : SkillInput) : Prop where
  clean : skill.Clean (skill.invocation.preempted (input.stepInput [])).serviceChildCancellations
    skill.scopes.doomed
  stopped : ∀ active ∈ (skill.invocation.preempted (input.stepInput [])).active,
    ∀ resource, active.request.operation.resource = some resource →
    skill.Descends active.request.childId skill.scopes.doomed →
    .stopped active.request.id resource ∈
      (skill.invocation.preempted (input.stepInput [])).serviceChildCancellations.log
  untouched : ∀ request, (skill.invocation.preempted (input.stepInput [])).Open request →
    ¬ skill.Descends request.childId skill.scopes.doomed →
    (skill.invocation.preempted (input.stepInput [])).serviceChildCancellations.Open request

/-- An operation of a child further down is open when the cancellation of its ancestor is
serviced, and the child is not cancelled itself. -/
def Misses (skill : Skill) (input : SkillInput) : Prop :=
  ∃ request, (skill.invocation.preempted (input.stepInput [])).Open request ∧
    ¬ (skill.invocation.preempted (input.stepInput [])).Cancelled request.childId ∧
    ∃ ancestor ∈ skill.scopes.lineage request.childId,
      (skill.invocation.preempted (input.stepInput [])).Cancelled ancestor

end Skill

section Runs

variable (config : LuaSkillConfig) (now : Now) (maximumDurationMs : Nat)
  (turns : List SkillTurn)

/-- Every service of cancellations reaches all descendants of the cancelled children, and from
then on nothing of theirs is open. -/
structure CancellationReaches : Prop where
  serves : ∀ before input, before ++ [.step input] <+: turns →
    (Skill.run config now maximumDurationMs before).Serves input
  after : ∀ before, before <+: turns →
    (Skill.run config now maximumDurationMs before).Clean
      (Skill.run config now maximumDurationMs before).invocation
      (Skill.run config now maximumDurationMs before).swept

def NeverMisses : Prop :=
  ∀ before input, before ++ [.step input] <+: turns →
    ¬ (Skill.run config now maximumDurationMs before).Misses input

end Runs

namespace Invocation

variable {invocation : Invocation} {config : LuaSkillConfig} {nowMs : Nat}
  {request : OperationRequest}

theorem Shrinks.opened {before after : Invocation} (h : Shrinks before after)
    (hopen : after.Open request) : before.Open request := by
  obtain ⟨active, hactive, heq⟩ | ⟨resource, hwaiting⟩ := hopen
  · exact .inl ⟨active, h.active.subset hactive, heq⟩
  · exact .inr ⟨resource, (h.waiters resource).subset hwaiting⟩

theorem waiters_finishAll {α : Type} (invocation : Invocation) (ended : List α) (id : α → Nat)
    (failure : α → Option SkillFailure) :
    (ended.foldl (fun invocation a =>
      invocation.finishOperation (id a) (failure a)) invocation).waiters = invocation.waiters := by
  induction ended generalizing invocation with
  | nil => rfl
  | cons a ended ih =>
    rw [List.foldl_cons, ih]
    unfold finishOperation
    split
    · rfl
    · simp only
      split <;> rfl

theorem open_acquire {other : OperationRequest} {resource : BodyResource}
    (h : (invocation.acquire other resource nowMs).Open request) :
    request = other ∨ invocation.Open request := by
  obtain ⟨active, hactive, rfl⟩ | ⟨resource, hwaiting⟩ := h
  · obtain hold | hnew := List.mem_append.mp hactive
    · exact .inr (.inl ⟨active, hold, rfl⟩)
    · rw [List.mem_singleton.mp hnew]
      exact .inl rfl
  · exact .inr (.inr ⟨resource, hwaiting⟩)

theorem open_setWaiters {resource : BodyResource} {waiters : List OperationRequest}
    (h : (invocation.setWaiters resource waiters).Open request) :
    request ∈ waiters ∨ invocation.Open request := by
  obtain hactive | ⟨other, hwaiting⟩ := h
  · exact .inr (.inl hactive)
  · by_cases hother : other = resource
    · exact .inl (by simpa [setWaiters, hother] using hwaiting)
    · exact .inr (.inr ⟨other, by simpa [setWaiters, hother] using hwaiting⟩)

theorem open_grantWaitingOperation {resource : BodyResource}
    (h : (invocation.grantWaitingOperation nowMs resource).Open request) :
    invocation.Open request := by
  unfold grantWaitingOperation at h
  split at h
  · rename_i first waiting _ hwaiters
    have hmem : ∀ other ∈ first :: waiting, invocation.Open other := fun other hother =>
      .inr ⟨resource, by rwa [hwaiters]⟩
    obtain rfl | hold := open_acquire h
    · exact hmem _ List.mem_cons_self
    · obtain hrest | hold := open_setWaiters hold
      · exact hmem _ (List.mem_cons_of_mem _ hrest)
      · exact hold
  · exact h

theorem open_grant (h : (invocation.grantWaitingOperations nowMs).Open request) :
    invocation.Open request := by
  unfold grantWaitingOperations at h
  revert h
  induction BodyResource.all generalizing invocation with
  | nil => exact fun h => h
  | cons resource rest ih => exact fun h => open_grantWaitingOperation (ih h)

theorem open_drainRequest {other : OperationRequest}
    (h : (invocation.drainRequest nowMs other).Open request) :
    request = other ∨ invocation.Open request := by
  unfold drainRequest at h
  split at h
  · rename_i resource _
    split at h
    · exact .inr h
    · split at h
      · obtain hwaiting | hold := open_setWaiters h
        · obtain hold | hnew := List.mem_append.mp hwaiting
          · exact .inr (.inr ⟨resource, hold⟩)
          · exact .inl (List.mem_singleton.mp hnew)
        · exact .inr hold
      · exact open_acquire h
  · obtain ⟨active, hactive, rfl⟩ | ⟨resource, hwaiting⟩ := h
    · obtain hold | hnew := List.mem_append.mp hactive
      · exact .inr (.inl ⟨active, hold, rfl⟩)
      · rw [List.mem_singleton.mp hnew]
        exact .inl rfl
    · exact .inr (.inr ⟨resource, hwaiting⟩)

theorem open_drain (h : (invocation.drainNewRequests nowMs).Open request) :
    request ∈ invocation.requests ∨ invocation.Open request := by
  have hfold : ∀ (requests : List OperationRequest) (invocation : Invocation),
      (requests.foldl (drainRequest nowMs) invocation).Open request →
      request ∈ requests ∨ invocation.Open request := by
    intro requests
    induction requests with
    | nil =>
      intro invocation h
      exact .inr h
    | cons other rest ih =>
      intro invocation h
      obtain hrest | hone := ih _ h
      · exact .inl (List.mem_cons_of_mem _ hrest)
      · obtain rfl | hold := open_drainRequest hone
        · exact .inl List.mem_cons_self
        · exact .inr hold
  exact hfold invocation.requests
    { invocation with bridge := { invocation.bridge with requests := [] } } h

theorem open_serviceCancellation {children : List Nat} {failure : SkillFailure}
    (h : invocation.Accounted []) :
    (invocation.serviceCancellation children failure).Open request ↔
      invocation.Open request ∧ request.childId ∉ children := by
  have hactive : ∀ active, active ∈ (invocation.serviceCancellation children failure).active ↔
      active ∈ invocation.active ∧ active.request.childId ∉ children := by
    intro active
    have hall := active_finishAll invocation ((invocation.active.filter fun active =>
      active.request.childId ∈ children).map fun active => active.request.id) (fun id => id)
      fun _ => some failure
    have hsame : (invocation.serviceCancellation children failure).active =
        (((invocation.active.filter fun active => active.request.childId ∈ children).map
          fun active => active.request.id).foldl (fun invocation id =>
            invocation.finishOperation id (some failure)) invocation).active := rfl
    rw [hsame, hall, List.mem_filter]
    constructor
    · rintro ⟨hmem, hid⟩
      refine ⟨hmem, ?_⟩
      intro hchild
      simp only [decide_eq_true_eq, List.map_id'] at hid
      exact hid (List.mem_map_of_mem (List.mem_filter.mpr ⟨hmem, by simpa using hchild⟩))
    · rintro ⟨hmem, hchild⟩
      refine ⟨hmem, ?_⟩
      simp only [decide_eq_true_eq, List.map_id']
      intro hid
      obtain ⟨other, hother, heq⟩ := List.mem_map.mp hid
      obtain ⟨hother, hcancelled⟩ := List.mem_filter.mp hother
      rw [h.unique hother hmem heq] at hcancelled
      exact hchild (by simpa using hcancelled)
  have hwaiters : ∀ resource, (invocation.serviceCancellation children failure).waiters resource =
      (invocation.waiters resource).filter fun request => !decide (request.childId ∈ children) := by
    intro resource
    have hsame := waiters_finishAll invocation ((invocation.active.filter fun active =>
      active.request.childId ∈ children).map fun active => active.request.id) (fun id => id)
      fun _ => some failure
    unfold serviceCancellation dropWaiting keepWaiting note
    simp only
    rw [hsame]
  constructor
  · rintro (⟨active, hmem, rfl⟩ | ⟨resource, hmem⟩)
    · obtain ⟨hold, hchild⟩ := (hactive active).mp hmem
      exact ⟨.inl ⟨active, hold, rfl⟩, hchild⟩
    · rw [hwaiters, List.mem_filter] at hmem
      exact ⟨.inr ⟨resource, hmem.1⟩, by simpa using hmem.2⟩
  · rintro ⟨⟨active, hmem, rfl⟩ | ⟨resource, hmem⟩, hchild⟩
    · exact .inl ⟨active, (hactive active).mpr ⟨hmem, hchild⟩, rfl⟩
    · refine .inr ⟨resource, ?_⟩
      rw [hwaiters, List.mem_filter]
      exact ⟨hmem, by simpa using hchild⟩

theorem accounted_serviceCancellation {children : List Nat} {failure : SkillFailure}
    (h : invocation.Accounted []) :
    (invocation.serviceCancellation children failure).Accounted [] := by
  unfold serviceCancellation
  exact (h.finishAll _ (fun id => id) fun _ => some failure).dropWaiting _ _

theorem open_service (h : invocation.Accounted []) :
    invocation.serviceChildCancellations.Open request ↔
      invocation.Open request ∧ ¬ invocation.Cancelled request.childId := by
  have hfold : ∀ (cancellations : List (List Nat × SkillFailure)) (invocation : Invocation),
      invocation.Accounted [] →
      ((cancellations.foldl (fun invocation cancellation =>
        invocation.serviceCancellation cancellation.1 cancellation.2) invocation).Open request ↔
        invocation.Open request ∧ ¬ ∃ cancellation ∈ cancellations,
          request.childId ∈ cancellation.1) := by
    intro cancellations
    induction cancellations with
    | nil =>
      intro invocation _
      simp
    | cons cancellation rest ih =>
      intro invocation h
      rw [List.foldl_cons, ih _ (accounted_serviceCancellation h), open_serviceCancellation h]
      simp only [List.mem_cons, exists_eq_or_imp, not_or]
      exact and_assoc
  exact hfold invocation.bridge.cancelledChildren
    { invocation with bridge := { invocation.bridge with cancelledChildren := [] } }
    (h.congr rfl rfl rfl rfl rfl rfl)

theorem open_cancelInvocation {failure : SkillFailure}
    (h : (invocation.cancelInvocation failure).Open request) : invocation.Open request := by
  unfold cancelInvocation at h
  split at h
  · exact h
  · have hfinished := shrinks_finishAll invocation
      (invocation.active.map fun active => active.request.id) (fun id => id) fun _ => some failure
    apply hfinished.opened
    apply (shrinks_dropWaiting _ (fun _ => true) fun _ => failure).opened
    exact h

theorem open_preempted {input : StepInput} (h : (invocation.preempted input).Open request) :
    invocation.Open request := by
  have hbegun : ∀ {status : SkillStatus} {bridge : Bridge},
      Open { invocation with bridge, status } request → invocation.Open request := fun h => h
  unfold preempted at h
  simp only at h
  split at h
  · have hfirst := open_cancelInvocation h
    split at hfirst
    · exact hbegun (open_cancelInvocation hfirst)
    · exact hbegun hfirst
  · split at h
    · exact hbegun (open_cancelInvocation h)
    · exact hbegun h

theorem open_prepared {input : StepInput} (h : (invocation.prepared config input).Open request) :
    (invocation.preempted input).serviceChildCancellations.Open request := by
  unfold prepared at h
  exact (shrinks_expired _ config input).opened (open_grant h)

theorem requests_prepared {input : StepInput} (h : invocation.requests = []) :
    (invocation.prepared config input).requests = [] := by
  have hpreempted : (invocation.preempted input).requests = [] := by
    unfold preempted
    simp only
    split
    · split
      · exact requests_cancelInvocation _ _ (requests_cancelInvocation _ _ h)
      · exact requests_cancelInvocation _ _ h
    · split
      · exact requests_cancelInvocation _ _ h
      · exact h
  unfold prepared
  rw [(grant_cases _ _).2.1, (shrinks_serviced _ config input).requests, hpreempted]

theorem open_concluded {ending : PollEnding} (h : (invocation.concluded config ending).Open request) :
    invocation.Open request := by
  cases ending with
  | panicked | overBudget | failed => exact open_cancelInvocation h
  | returned | pending => exact h

theorem requests_concluded {ending : PollEnding}
    (h : request ∈ (invocation.concluded config ending).requests) :
    request ∈ invocation.requests := by
  have hcancelled : ∀ failure, request ∈ (invocation.cancelInvocation failure).requests →
      request ∈ invocation.requests := by
    intro failure hmem
    unfold cancelInvocation at hmem
    split at hmem
    · exact hmem
    · cases hmem
  cases ending with
  | panicked | overBudget | failed => exact hcancelled _ h
  | returned | pending => exact h

theorem open_finishStatus (h : (invocation.finishStatus nowMs).Open request) :
    invocation.Open request := by
  unfold finishStatus at h
  repeat' split at h
  all_goals exact h

/-- What is open after a step was open when the script was polled, or the script just asked for
it. -/
theorem open_end (h : (((invocation.drainNewRequests nowMs).grantWaitingOperations nowMs
    ).finishStatus nowMs).Open request) :
    request ∈ invocation.requests ∨ invocation.Open request :=
  open_drain (open_grant (open_finishStatus h))

theorem requests_finishStatus (invocation : Invocation) (nowMs : Nat) :
    (invocation.finishStatus nowMs).requests = invocation.requests := by
  unfold finishStatus
  repeat' split
  all_goals rfl

theorem requests_end (invocation : Invocation) (nowMs : Nat) :
    (((invocation.drainNewRequests nowMs).grantWaitingOperations nowMs).finishStatus nowMs
      ).requests = [] := by
  rw [requests_finishStatus, (grant_cases _ _).2.1, (drain_cases _ _).2.1]

theorem stopped_finishOperation {active : ActiveOperation} {resource : BodyResource}
    (h : invocation.Accounted []) (hactive : active ∈ invocation.active)
    (hneeds : active.request.operation.resource = some resource) (id : Nat)
    (failure : SkillFailure) :
    active ∈ (invocation.finishOperation id (some failure)).active ∨
      .stopped active.request.id resource ∈
        (invocation.finishOperation id (some failure)).log := by
  by_cases hid : active.request.id = id
  · subst hid
    refine .inr ?_
    have hfind : (invocation.active.find? fun other => other.request.id = active.request.id) =
        some active := by
      obtain ⟨other, hother⟩ : ∃ other, (invocation.active.find? fun other =>
          other.request.id = active.request.id) = some other := by
        rw [← Option.isSome_iff_exists, List.find?_isSome]
        exact ⟨active, hactive, by simp⟩
      have heq := h.unique (List.mem_of_find?_eq_some hother) hactive
        (by simpa using List.find?_some hother)
      rw [hother, heq]
    unfold finishOperation
    rw [hfind]
    simp only [hneeds]
    exact List.mem_append_right _ List.mem_cons_self
  · refine .inl ?_
    rw [active_finishOperation, List.mem_filter]
    exact ⟨hactive, by simpa using hid⟩

theorem stopped_finishAll {active : ActiveOperation} {resource : BodyResource}
    (h : invocation.Accounted []) (hactive : active ∈ invocation.active)
    (hneeds : active.request.operation.resource = some resource) (ids : List Nat)
    (failure : SkillFailure) :
    let after := ids.foldl (fun invocation id => invocation.finishOperation id (some failure))
      invocation
    active ∈ after.active ∨ .stopped active.request.id resource ∈ after.log := by
  induction ids generalizing invocation with
  | nil => exact .inl hactive
  | cons id rest ih =>
    obtain hstays | hstopped := stopped_finishOperation h hactive hneeds id failure
    · exact ih (h.finishOperation id (some failure)) hstays
    · have hmute := mute_finishAll (invocation.finishOperation id (some failure)) rest
        (fun id => id) fun _ => some failure
      exact .inr (hmute.kept.subset hstopped)

theorem stopped_service {active : ActiveOperation} {resource : BodyResource}
    (h : invocation.Accounted []) (hactive : active ∈ invocation.active)
    (hneeds : active.request.operation.resource = some resource) :
    active ∈ invocation.serviceChildCancellations.active ∨
      .stopped active.request.id resource ∈ invocation.serviceChildCancellations.log := by
  have hfold : ∀ (cancellations : List (List Nat × SkillFailure)) (invocation : Invocation),
      invocation.Accounted [] →
      (active ∈ invocation.active ∨ .stopped active.request.id resource ∈ invocation.log) →
      let after := cancellations.foldl (fun invocation cancellation =>
        invocation.serviceCancellation cancellation.1 cancellation.2) invocation
      active ∈ after.active ∨ .stopped active.request.id resource ∈ after.log := by
    intro cancellations
    induction cancellations with
    | nil => exact fun _ _ h => h
    | cons cancellation rest ih =>
      intro invocation h hstart
      apply ih _ (accounted_serviceCancellation h)
      obtain hactive | hstopped := hstart
      · obtain hstays | hstopped := stopped_finishAll h hactive hneeds
          ((invocation.active.filter fun active => active.request.childId ∈ cancellation.1).map
            fun active => active.request.id) cancellation.2
        · exact .inl hstays
        · exact .inr (List.mem_append_left _ hstopped)
      · exact .inr ((mute_serviceCancellation _ _ _).kept.subset hstopped)
  exact hfold _ _ (h.congr rfl rfl rfl rfl rfl rfl) (.inl hactive)

end Invocation

/-- What is true of the scopes of every running script. -/
structure Sane (bridge : Bridge) (scopes : Scopes) : Prop where
  own : ∀ child, child ∈ scopes.lineage child
  threads : ∀ thread ∈ scopes.threads, thread < bridge.nextChild
  groups : ∀ child ids, .together ids ∈ scopes.opened child → ∀ id ∈ ids, id < bridge.nextChild
  doomed : ∀ child ∈ scopes.doomed, child < bridge.nextChild
  alive : ∀ thread ∈ scopes.threads, ∀ ancestor ∈ scopes.lineage thread,
    ancestor ∉ scopes.doomed ∧ ancestor < bridge.nextChild

/-- The state of a script, told from the children whose cancellations were serviced. -/
structure Polling (swept : List Nat) (bridge : Bridge) (scopes : Scopes) : Prop where
  sane : Sane bridge scopes
  doomed : ∀ child, child ∈ scopes.doomed ↔ child ∈ swept ∨
    ∃ cancellation ∈ bridge.cancelledChildren, child ∈ cancellation.1
  requests : ∀ request ∈ bridge.requests, request.childId < bridge.nextChild ∧
    ∀ ancestor ∈ scopes.lineage request.childId, ancestor ∉ swept

/-- The lines of the children that exist already do not change. -/
structure Grows (bridge : Bridge) (scopes : Scopes) (bridge' : Bridge) (scopes' : Scopes) :
    Prop where
  next : bridge.nextChild ≤ bridge'.nextChild
  lineage : ∀ child < bridge.nextChild, scopes'.lineage child = scopes.lineage child

theorem Grows.refl (bridge : Bridge) (scopes : Scopes) : Grows bridge scopes bridge scopes :=
  ⟨Nat.le_refl _, fun _ _ => rfl⟩

theorem Grows.trans {a b c : Bridge} {s t u : Scopes} (hab : Grows a s b t)
    (hbc : Grows b t c u) : Grows a s c u := by
  refine ⟨hab.next.trans hbc.next, ?_⟩
  intro child hchild
  rw [hbc.lineage child (Nat.lt_of_lt_of_le hchild hab.next), hab.lineage child hchild]

section Script

variable {maximumOperationMs : Nat} {swept : List Nat} {bridge bridge' : Bridge}
  {scopes scopes' : Scopes} {event : ScriptEvent}

variable (scopes) in
theorem mem_setOpened {child other : Nat} {opened : List Scope} {scope : Scope}
    (h : scope ∈ (scopes.setOpened child opened).opened other) :
    scope ∈ opened ∨ scope ∈ scopes.opened other := by
  unfold Scopes.setOpened at h
  simp only at h
  split at h
  · exact .inl h
  · exact .inr h

theorem mem_disturbed {opened : List Scope} {ids : List Nat}
    (h : .together ids ∈ Scopes.disturbed opened) : .together ids ∈ opened := by
  unfold Scopes.disturbed at h
  split at h
  · obtain hfirst | hrest := List.mem_cons.mp h
    · cases hfirst
    · exact List.mem_cons_of_mem _ hrest
  · exact h

theorem grows_effect (h : Scopes.Effect maximumOperationMs bridge scopes event bridge' scopes') :
    Grows bridge scopes bridge' scopes' := by
  cases h with
  | idle | carefully | leaves | returns | joins | fails => exact ⟨Nat.le_refl _, fun _ _ => rfl⟩
  | request =>
    refine ⟨?_, fun _ _ => rfl⟩
    unfold Bridge.enqueue
    simp only
    split <;> exact Nat.le_refl _
  | @forks child count =>
    refine ⟨Nat.le_add_right _ _, ?_⟩
    intro other hother
    unfold Scopes.forked
    simp only
    rw [if_neg]
    rw [mem_childIds]
    omega

theorem Sane.congr (h : Sane bridge scopes) (hnext : bridge'.nextChild = bridge.nextChild) :
    Sane bridge' scopes := by
  obtain ⟨hown, hthreads, hgroups, hdoomed, halive⟩ := h
  refine ⟨hown, ?_, ?_, ?_, ?_⟩ <;> rwa [hnext]

theorem Polling.congr (h : Polling swept bridge scopes)
    (hnext : bridge'.nextChild = bridge.nextChild)
    (hqueue : bridge'.cancelledChildren = bridge.cancelledChildren)
    (hrequests : ∀ request ∈ bridge'.requests, request ∈ bridge.requests) :
    Polling swept bridge' scopes := by
  refine ⟨h.sane.congr hnext, ?_, ?_⟩
  · rw [hqueue]
    exact h.doomed
  · intro request hrequest
    rw [hnext]
    exact h.requests request (hrequests request hrequest)

theorem Polling.requests_grow (h : Polling swept bridge scopes)
    (hgrows : Grows bridge scopes bridge' scopes') :
    ∀ request ∈ bridge.requests, request.childId < bridge'.nextChild ∧
      ∀ ancestor ∈ scopes'.lineage request.childId, ancestor ∉ swept := by
  intro request hrequest
  obtain ⟨hchild, hclean⟩ := h.requests request hrequest
  refine ⟨Nat.lt_of_lt_of_le hchild hgrows.next, ?_⟩
  rw [hgrows.lineage _ hchild]
  exact hclean

theorem sane_setOpened {child : Nat} {opened : List Scope} (h : Sane bridge scopes)
    (hnext : bridge'.nextChild = bridge.nextChild)
    (hopened : ∀ ids, .together ids ∈ opened → ∃ other, .together ids ∈ scopes.opened other) :
    Sane bridge' (scopes.setOpened child opened) := by
  refine ⟨h.own, ?_, ?_, ?_, ?_⟩
  · rw [hnext]
    exact h.threads
  · intro other ids hmem
    rw [hnext]
    obtain hnew | hold := mem_setOpened scopes hmem
    · obtain ⟨other, hother⟩ := hopened ids hnew
      exact h.groups other ids hother
    · exact h.groups other ids hold
  · rw [hnext]
    exact h.doomed
  · rw [hnext]
    exact h.alive

theorem Sane.fewer (h : Sane bridge scopes) {threads : List Nat}
    (hthreads : ∀ thread ∈ threads, thread ∈ scopes.threads) :
    Sane bridge { scopes with threads } :=
  ⟨h.own, fun thread hthread => h.threads thread (hthreads thread hthread), h.groups, h.doomed,
    fun thread hthread => h.alive thread (hthreads thread hthread)⟩

theorem sane_forked {child count : Nat} (h : Sane bridge scopes)
    (hrunning : scopes.running child = true) :
    Sane (bridge.allocateChildren child count) (scopes.forked bridge child count) := by
  have hchild := running_mem hrunning
  have hnext : (bridge.allocateChildren child count).nextChild = bridge.nextChild + count := rfl
  refine ⟨?_, ?_, ?_, ?_, ?_⟩
  · intro other
    change other ∈ if other ∈ bridge.childIds count then other :: scopes.lineage child
      else scopes.lineage other
    split
    · exact List.mem_cons_self
    · exact h.own other
  · intro thread hthread
    rw [hnext]
    obtain hold | hnew := List.mem_append.mp hthread
    · have hlt := h.threads thread hold
      omega
    · have hlt := mem_childIds.mp hnew
      omega
  · intro other ids hmem id hid
    rw [hnext]
    obtain hnew | hold := mem_setOpened scopes hmem
    · obtain heq | hold := List.mem_cons.mp hnew
      · cases heq
        have hlt := mem_childIds.mp hid
        omega
      · have hlt := h.groups child ids hold id hid
        omega
    · have hlt := h.groups other ids hold id hid
      omega
  · intro doomed hdoomed
    have hlt := h.doomed doomed hdoomed
    omega
  · intro thread hthread ancestor hancestor
    change ancestor ∉ scopes.doomed ∧ _
    rw [hnext]
    change ancestor ∈ (if thread ∈ bridge.childIds count then thread :: scopes.lineage child
      else scopes.lineage thread) at hancestor
    by_cases hnew : thread ∈ bridge.childIds count
    · rw [if_pos hnew] at hancestor
      have hrange := mem_childIds.mp hnew
      obtain rfl | hline := List.mem_cons.mp hancestor
      · refine ⟨?_, hrange.2⟩
        intro hdoomed
        have hlt := h.doomed _ hdoomed
        omega
      · obtain ⟨hclean, hlt⟩ := h.alive child hchild ancestor hline
        exact ⟨hclean, by omega⟩
    · rw [if_neg hnew] at hancestor
      obtain hold | hnone := List.mem_append.mp hthread
      · obtain ⟨hclean, hlt⟩ := h.alive thread hold ancestor hancestor
        exact ⟨hclean, by omega⟩
      · exact absurd hnone hnew

theorem sane_failed {child parent : Nat} {ids : List Nat} (h : Sane bridge scopes)
    (hgroup : scopes.group child = some (parent, ids))
    (hnext : bridge'.nextChild = bridge.nextChild) :
    Sane bridge' (scopes.failed child parent ids) := by
  obtain ⟨-, -, rest, hopened⟩ := group_some hgroup
  have hids := h.groups parent ids (by rw [hopened]; exact List.mem_cons_self)
  refine ⟨h.own, ?_, ?_, ?_, ?_⟩
  · intro thread hthread
    rw [hnext]
    exact h.threads thread (List.mem_filter.mp hthread).1
  · intro other others hmem
    rw [hnext]
    obtain hnew | hold := mem_setOpened scopes hmem
    · exact h.groups parent others (List.mem_of_mem_tail hnew)
    · exact h.groups other others hold
  · intro doomed hdoomed
    rw [hnext]
    obtain hold | hnew := List.mem_append.mp hdoomed
    · exact h.doomed doomed hold
    · exact hids doomed (List.mem_filter.mp hnew).1
  · intro thread hthread ancestor hancestor
    rw [hnext]
    obtain ⟨hthread, houtside⟩ := List.mem_filter.mp hthread
    obtain ⟨hclean, hlt⟩ := h.alive thread hthread ancestor hancestor
    refine ⟨?_, hlt⟩
    intro hdoomed
    obtain hold | hnew := List.mem_append.mp hdoomed
    · exact hclean hold
    · have hnone : ancestor ∉ ids := by
        simp only [Bool.not_eq_true', List.any_eq_false, decide_eq_true_eq] at houtside
        exact houtside ancestor hancestor
      exact hnone (List.mem_filter.mp hnew).1

theorem polling_effect (h : Polling swept bridge scopes)
    (heffect : Scopes.Effect maximumOperationMs bridge scopes event bridge' scopes') :
    Polling swept bridge' scopes' := by
  have hrequests := h.requests_grow (grows_effect heffect)
  cases heffect with
  | idle => exact h
  | @request child operation outside running excluded =>
    have hthread := running_mem running
    obtain ⟨hnext, hqueue, hnew⟩ : (bridge.enqueue child operation maximumOperationMs).nextChild =
        bridge.nextChild ∧
        (bridge.enqueue child operation maximumOperationMs).cancelledChildren =
          bridge.cancelledChildren ∧
        ∀ request ∈ (bridge.enqueue child operation maximumOperationMs).requests,
          request ∈ bridge.requests ∨ request.childId = child := by
      unfold Bridge.enqueue
      simp only
      split
      · exact ⟨rfl, rfl, fun _ h => .inl h⟩
      · refine ⟨rfl, rfl, ?_⟩
        intro request hrequest
        obtain hold | hnew := List.mem_append.mp hrequest
        · exact .inl hold
        · rw [List.mem_singleton.mp hnew]
          exact .inr rfl
    refine ⟨⟨h.sane.own, ?_, ?_, ?_, ?_⟩, ?_, ?_⟩
    · rw [hnext]
      exact h.sane.threads
    · rw [hnext]
      exact h.sane.groups
    · rw [hnext]
      exact h.sane.doomed
    · rw [hnext]
      exact h.sane.alive
    · rw [hqueue]
      exact h.doomed
    · intro request hrequest
      obtain hold | rfl := hnew request hrequest
      · exact hrequests request hold
      · rw [hnext]
        refine ⟨h.sane.threads _ hthread, ?_⟩
        intro ancestor hancestor hswept
        exact (h.sane.alive _ hthread ancestor hancestor).1 ((h.doomed _).mpr (.inl hswept))
  | @carefully child hazard running =>
    refine ⟨sane_setOpened h.sane rfl ?_, h.doomed, hrequests⟩
    intro ids hmem
    obtain hfirst | hold := List.mem_cons.mp hmem
    · cases hfirst
    · exact ⟨child, hold⟩
  | @leaves child hazard intact rest running opened =>
    refine ⟨sane_setOpened h.sane rfl ?_, h.doomed, hrequests⟩
    intro ids hmem
    exact ⟨child, by rw [opened]; exact List.mem_cons_of_mem _ (mem_disturbed hmem)⟩
  | forks running => exact ⟨sane_forked h.sane running, h.doomed, hrequests⟩
  | returns =>
    refine ⟨h.sane.fewer ?_, h.doomed, hrequests⟩
    intro thread hthread
    exact (List.mem_filter.mp hthread).1
  | @joins child parent ids group =>
    have hopened : Sane (bridge.finishChildren ids)
        (scopes.setOpened parent (scopes.opened parent).tail) :=
      sane_setOpened h.sane rfl fun _ hmem => ⟨parent, List.mem_of_mem_tail hmem⟩
    refine ⟨hopened.fewer ?_, h.doomed, hrequests⟩
    intro thread hthread
    exact (List.mem_filter.mp hthread).1
  | @fails child parent ids failure group =>
    refine ⟨sane_failed h.sane group rfl, ?_, hrequests⟩
    intro doomed
    have hold := h.doomed doomed
    simp only [Scopes.failed, Bridge.cancelChildren, Bridge.finishChildren, List.mem_append,
      List.mem_singleton, or_and_right, exists_or, exists_eq_left] at hold ⊢
    rw [hold, or_assoc]

variable (maximumOperationMs) in
theorem polling_poll (events : List ScriptEvent) (h : Polling swept bridge scopes) :
    let poll := scopes.poll maximumOperationMs bridge events
    let bridge' := poll.2.foldl (Bridge.perform maximumOperationMs) bridge
    Polling swept bridge' poll.1 ∧ Grows bridge scopes bridge' poll.1 := by
  induction events generalizing bridge scopes with
  | nil => exact ⟨h, .refl _ _⟩
  | cons event rest ih =>
    have heffect := scopes.event_effect maximumOperationMs bridge event
    obtain ⟨hlast, hgrows⟩ := ih (polling_effect h heffect)
    unfold Scopes.poll
    simp only [List.foldl_append]
    exact ⟨hlast, (grows_effect heffect).trans hgrows⟩

end Script

namespace Skill

variable {config : LuaSkillConfig} {skill : Skill} {input : SkillInput}

/-- What holds after every turn. -/
structure Tracked (skill : Skill) : Prop where
  polling : Polling skill.swept skill.invocation.bridge skill.scopes
  accounted : skill.invocation.Accounted []
  requests : skill.invocation.requests = []
  known : ∀ request, skill.invocation.Open request →
    request.childId < skill.invocation.bridge.nextChild

theorem tracked_start (now : Now) (maximumDurationMs : Nat) :
    (start now maximumDurationMs).Tracked := by
  refine ⟨⟨⟨?_, ?_, ?_, ?_, ?_⟩, ?_, ?_⟩, Invocation.accounted_start now maximumDurationMs, rfl, ?_⟩
  · intro child
    exact List.mem_singleton_self child
  · intro thread hthread
    rw [List.mem_singleton.mp hthread]
    exact Nat.one_pos
  · intro child ids hmem
    cases hmem
  · intro child hchild
    cases hchild
  · intro thread hthread ancestor hancestor
    rw [List.mem_singleton.mp hthread] at hancestor
    rw [List.mem_singleton.mp hancestor]
    exact ⟨List.not_mem_nil, Nat.one_pos⟩
  · intro child
    simp [start, Scopes.initial, Invocation.start, Bridge.initial]
  · intro request hrequest
    cases hrequest
  · rintro request (⟨active, hactive, -⟩ | ⟨resource, hwaiting⟩)
    · cases hactive
    · cases hwaiting

theorem clean_of_shut {invocation : Invocation} {doomed : List Nat}
    (haccounted : invocation.Accounted [])
    (hshut : ∀ request, invocation.Open request → ¬ skill.Descends request.childId doomed) :
    skill.Clean invocation doomed := by
  refine ⟨hshut, ?_⟩
  intro resource id howner
  obtain ⟨active, hactive, hid, -⟩ := (haccounted.owned resource id).mp howner
  exact ⟨active, hactive, hid, hshut _ (.inl ⟨active, hactive, rfl⟩)⟩

theorem Tracked.doomed (h : skill.Tracked) (input : SkillInput) (child : Nat) :
    child ∈ skill.scopes.doomed ↔ child ∈ skill.swept ∨
      (skill.invocation.preempted (input.stepInput [])).Cancelled child := by
  have hqueue := (Invocation.framed_preempted skill.invocation (input.stepInput [])).queue
  unfold Invocation.Cancelled
  rw [hqueue]
  exact h.polling.doomed child

theorem Tracked.service_shut (h : skill.Tracked)
    (hclean : skill.Clean skill.invocation skill.swept) (hnot : ¬ skill.Misses input) :
    ∀ request, (skill.invocation.preempted (input.stepInput [])).serviceChildCancellations.Open
      request → ¬ skill.Descends request.childId skill.scopes.doomed := by
  rintro request hopen ⟨ancestor, hline, hdoomed⟩
  obtain ⟨hbefore, hkept⟩ := (Invocation.open_service h.accounted.preempted).mp hopen
  obtain hswept | hcancelled := (h.doomed input ancestor).mp hdoomed
  · exact hclean.shut request (Invocation.open_preempted hbefore) ⟨ancestor, hline, hswept⟩
  · exact hnot ⟨request, hbefore, hkept, ancestor, hline, hcancelled⟩

theorem Tracked.serves (h : skill.Tracked) (hclean : skill.Clean skill.invocation skill.swept)
    (hnot : ¬ skill.Misses input) : skill.Serves input := by
  have haccounted : (skill.invocation.preempted (input.stepInput [])).Accounted [] :=
    h.accounted.preempted
  have hshut := h.service_shut hclean hnot
  refine ⟨clean_of_shut haccounted.serviceChildCancellations hshut, ?_, ?_⟩
  · intro active hactive resource hneeds hdescends
    obtain hstays | hstopped := Invocation.stopped_service haccounted hactive hneeds
    · exact absurd hdescends (hshut _ (.inl ⟨active, hstays, rfl⟩))
    · exact hstopped
  · intro request hopen hdescends
    refine (Invocation.open_service haccounted).mpr ⟨hopen, ?_⟩
    intro hcancelled
    have hdoomed := (h.doomed input request.childId).mpr (.inr hcancelled)
    exact hdescends ⟨request.childId, h.polling.sane.own _, hdoomed⟩

theorem Tracked.not_serves (h : skill.Tracked) (hmisses : skill.Misses input) :
    ¬ skill.Serves input := by
  intro hserves
  obtain ⟨request, hopen, hkept, ancestor, hline, hcancelled⟩ := hmisses
  have hafter := (Invocation.open_service h.accounted.preempted).mpr ⟨hopen, hkept⟩
  have hdoomed := (h.doomed input ancestor).mpr (.inr hcancelled)
  exact hserves.clean.shut request hafter ⟨ancestor, hline, hdoomed⟩

def polled (config : LuaSkillConfig) (skill : Skill) (input : SkillInput) : Invocation :=
  (skill.prepared config input).polled config ⟨(skill.scripted config input).2, input.ending⟩

theorem Tracked.prepared (h : skill.Tracked) (config : LuaSkillConfig) (input : SkillInput) :
    Polling skill.scopes.doomed (skill.prepared config input).bridge skill.scopes ∧
      (skill.prepared config input).bridge.nextChild = skill.invocation.bridge.nextChild := by
  have hframed := Invocation.framed_prepared skill.invocation config (input.stepInput [])
  have hempty : (skill.prepared config input).requests = [] :=
    Invocation.requests_prepared h.requests
  have hnext : (skill.prepared config input).bridge.nextChild = skill.invocation.bridge.nextChild :=
    hframed.nextChild
  have hqueue : (skill.prepared config input).bridge.cancelledChildren = [] := hframed.queue
  refine ⟨⟨h.polling.sane.congr hnext, ?_, ?_⟩, hnext⟩
  · intro child
    simp [hqueue]
  · intro request hrequest
    have hnone : request ∈ (skill.prepared config input).requests := hrequest
    rw [hempty] at hnone
    cases hnone

theorem Tracked.polled (h : skill.Tracked) (config : LuaSkillConfig) (input : SkillInput) :
    Polling skill.scopes.doomed (skill.polled config input).bridge
        (skill.scripted config input).1 ∧
      Grows skill.invocation.bridge skill.scopes (skill.polled config input).bridge
        (skill.scripted config input).1 := by
  obtain ⟨hstart, hnext⟩ := h.prepared config input
  unfold Skill.polled Skill.scripted Invocation.polled
  by_cases hresult : (skill.prepared config input).result.isSome
  · rw [if_pos hresult, if_pos hresult]
    exact ⟨hstart, hnext.ge, fun _ _ => rfl⟩
  · rw [if_neg hresult, if_neg hresult]
    obtain ⟨hpolling, hgrows⟩ := polling_poll config.maximumOperationMs input.script hstart
    have hframed := fun invocation => Invocation.framed_concluded invocation config input.ending
    refine ⟨hpolling.congr (hframed _).nextChild (hframed _).queue ?_, ?_, ?_⟩
    · exact fun request => Invocation.requests_concluded
    · rw [(hframed _).nextChild, ← hnext]
      exact hgrows.next
    · rw [← hnext]
      exact hgrows.lineage

/-- What is open or asked for after a poll was open after the services, or was asked for by a
child that is not doomed. -/
theorem open_polled {request : OperationRequest}
    (h : (skill.polled config input).Open request) :
    (skill.invocation.preempted (input.stepInput [])).serviceChildCancellations.Open request := by
  unfold Skill.polled Invocation.polled at h
  split at h
  · exact Invocation.open_prepared h
  · have hscripted := Invocation.open_concluded h
    have hprepared : (skill.prepared config input).Open request := hscripted
    exact Invocation.open_prepared hprepared

/-- What is open after a step was open after its services, or was asked for by a child that is
not doomed. -/
theorem open_step {request : OperationRequest}
    (hopen : (skill.turn config (.step input)).invocation.Open request) :
    (skill.invocation.preempted (input.stepInput [])).serviceChildCancellations.Open request ∨
      request ∈ (skill.polled config input).requests := by
  obtain hrequest | hpolled := Invocation.open_end hopen
  · exact .inr hrequest
  · exact .inl (open_polled hpolled)

theorem Tracked.known_service {request : OperationRequest} (h : skill.Tracked)
    (hopen : (skill.invocation.preempted (input.stepInput [])).serviceChildCancellations.Open
      request) : request.childId < skill.invocation.bridge.nextChild := by
  obtain ⟨hbefore, -⟩ := (Invocation.open_service h.accounted.preempted).mp hopen
  exact h.known request (Invocation.open_preempted hbefore)

theorem Tracked.step (h : skill.Tracked) (config : LuaSkillConfig) (input : SkillInput) :
    (skill.turn config (.step input)).Tracked := by
  obtain ⟨hpolling, hgrows⟩ := h.polled config input
  have hframed := Invocation.framed_end (skill.polled config input) input.now.tMs
  have hempty : (skill.turn config (.step input)).invocation.bridge.requests = [] :=
    Invocation.requests_end (skill.polled config input) input.now.tMs
  have hnext : (skill.turn config (.step input)).invocation.bridge.nextChild =
      (skill.polled config input).bridge.nextChild := hframed.nextChild
  have hqueue : (skill.turn config (.step input)).invocation.bridge.cancelledChildren =
      (skill.polled config input).bridge.cancelledChildren := hframed.queue
  refine ⟨hpolling.congr hnext hqueue ?_, h.accounted.step, hempty, ?_⟩
  · intro request hrequest
    rw [hempty] at hrequest
    cases hrequest
  · intro request hopen
    rw [hnext]
    obtain hold | hnew := open_step hopen
    · exact Nat.lt_of_lt_of_le (h.known_service hold) hgrows.next
    · exact (hpolling.requests request hnew).1

theorem Tracked.clean_step (h : skill.Tracked)
    (hshut : ∀ request,
      (skill.invocation.preempted (input.stepInput [])).serviceChildCancellations.Open request →
      ¬ skill.Descends request.childId skill.scopes.doomed) :
    (skill.turn config (.step input)).Clean (skill.turn config (.step input)).invocation
      (skill.turn config (.step input)).swept := by
  obtain ⟨hpolling, hgrows⟩ := h.polled config input
  apply clean_of_shut h.accounted.step
  rintro request hopen ⟨ancestor, hline, hdoomed⟩
  obtain hold | hnew := open_step hopen
  · have hsame := hgrows.lineage request.childId (h.known_service hold)
    exact hshut request hold ⟨ancestor, hsame ▸ hline, hdoomed⟩
  · exact (hpolling.requests request hnew).2 ancestor hline hdoomed

theorem open_cancel {request : OperationRequest} {failure : SkillFailure} {nowMs : Nat}
    (h : (skill.invocation.cancel failure nowMs).Open request) :
    skill.invocation.Open request :=
  Invocation.open_cancelInvocation (Invocation.open_finishStatus h)

theorem Tracked.cancel (h : skill.Tracked) (config : LuaSkillConfig) (failure : SkillFailure)
    (nowMs : Nat) : (skill.turn config (.cancel failure nowMs)).Tracked := by
  have hframed := (Invocation.framed_cancelInvocation skill.invocation failure).trans
    (Invocation.framed_finishStatus _ nowMs)
  have hempty : (skill.turn config (.cancel failure nowMs)).invocation.bridge.requests = [] :=
    (Invocation.requests_finishStatus _ _).trans
      (Invocation.requests_cancelInvocation _ _ h.requests)
  have hnext : (skill.turn config (.cancel failure nowMs)).invocation.bridge.nextChild =
      skill.invocation.bridge.nextChild := hframed.nextChild
  have hqueue : (skill.turn config (.cancel failure nowMs)).invocation.bridge.cancelledChildren =
      skill.invocation.bridge.cancelledChildren := hframed.queue
  refine ⟨h.polling.congr hnext hqueue ?_, h.accounted.cancel failure nowMs, hempty, ?_⟩
  · intro request hrequest
    rw [hempty] at hrequest
    cases hrequest
  · intro request hopen
    rw [hnext]
    exact h.known request (open_cancel hopen)

theorem Tracked.turn (h : skill.Tracked) (config : LuaSkillConfig) (turn : SkillTurn) :
    (skill.turn config turn).Tracked := by
  cases turn with
  | step input => exact h.step config input
  | cancel failure nowMs => exact h.cancel config failure nowMs

end Skill

section Results

variable (config : LuaSkillConfig) (now : Now) (maximumDurationMs : Nat)

theorem tracked_run (turns : List SkillTurn) :
    (Skill.run config now maximumDurationMs turns).Tracked := by
  induction turns using List.reverseRecOn with
  | nil => exact Skill.tracked_start now maximumDurationMs
  | append_singleton before last ih =>
    rw [Skill.run_append]
    exact ih.turn config last

theorem clean_run (turns : List SkillTurn) (h : NeverMisses config now maximumDurationMs turns) :
    (Skill.run config now maximumDurationMs turns).Clean
      (Skill.run config now maximumDurationMs turns).invocation
      (Skill.run config now maximumDurationMs turns).swept := by
  induction turns using List.reverseRecOn with
  | nil =>
    refine Skill.clean_of_shut (Invocation.accounted_start now maximumDurationMs) ?_
    rintro request - ⟨ancestor, -, hswept⟩
    cases hswept
  | append_singleton before last ih =>
    have hclean := ih fun earlier input hearlier =>
      h earlier input (hearlier.trans (List.prefix_append _ _))
    have htracked := tracked_run config now maximumDurationMs before
    rw [Skill.run_append]
    cases last with
    | step input =>
      exact htracked.clean_step (htracked.service_shut hclean (h before input (List.prefix_refl _)))
    | cancel failure nowMs =>
      apply Skill.clean_of_shut (htracked.accounted.cancel failure nowMs)
      intro request hopen
      exact hclean.shut request (Skill.open_cancel hopen)

/-- Cancellations reach all descendants exactly when no service finds an open operation of a
descendant that is not itself cancelled. -/
theorem cancellation_reaches_iff (turns : List SkillTurn) :
    CancellationReaches config now maximumDurationMs turns ↔
      NeverMisses config now maximumDurationMs turns := by
  constructor
  · intro h before input hturn hmisses
    have htracked := tracked_run config now maximumDurationMs before
    exact htracked.not_serves hmisses (h.serves before input hturn)
  · intro h
    have hpart : ∀ before, before <+: turns →
        NeverMisses config now maximumDurationMs before := fun before hbefore earlier input hturn =>
      h earlier input (hturn.trans hbefore)
    refine ⟨?_, ?_⟩
    · intro before input hturn
      have htracked := tracked_run config now maximumDurationMs before
      have hclean := clean_run config now maximumDurationMs before
        (hpart before ((List.prefix_append _ _).trans hturn))
      exact htracked.serves hclean (h before input hturn)
    · intro before hbefore
      exact clean_run config now maximumDurationMs before (hpart before hbefore)

end Results

section Fixture

private def still : Now := ⟨0, false, false, false, false, false, false, false, false⟩

private def usualLimits : LuaSkillConfig := ⟨30000, 20⟩

private def stumbled : SkillFailure := ⟨.failed, "script_error", "stumbled", none, none⟩

/-- A `together` within a `together`: a grandchild drives when its parent is cancelled, and the
script goes on waiting. -/
private def nestedDrive : SkillTurn :=
  .step ⟨still, [], fun _ => .pending, [.together 0 2, .together 1 2, .request 3 .drive,
    .request 4 .observe, .fails 2 stumbled, .request 0 .observe], .pending⟩

private def nextStep : SkillTurn := .step ⟨still, [], fun _ => .pending, [], .pending⟩

theorem grandchild_drives_on :
    let skill := Skill.run usualLimits still 0 [nestedDrive, nextStep]
    skill.swept = [1] ∧ skill.scopes.lineage 3 = [3, 1, 0] ∧
      (skill.invocation.active.map fun active => (active.request.childId, active.request.operation)
        ) = [(3, .drive), (4, .observe), (0, .observe)] ∧
      skill.invocation.owners .locomotion = some 1 := by
  decide

theorem cancellation_misses_grandchild :
    ¬ ∀ (config : LuaSkillConfig) (now : Now) (maximumDurationMs : Nat) (turns : List SkillTurn),
      CancellationReaches config now maximumDurationMs turns := by
  intro h
  obtain ⟨hswept, hline, hactive, howner⟩ := grandchild_drives_on
  have hclean := (h usualLimits still 0 [nestedDrive, nextStep]).after _ (List.prefix_refl _)
  have hmem : (3, HostOperation.drive) ∈ (Skill.run usualLimits still 0 [nestedDrive, nextStep]
      ).invocation.active.map fun active => (active.request.childId, active.request.operation) := by
    rw [hactive]
    exact List.mem_cons_self
  obtain ⟨active, hmem, heq⟩ := List.mem_map.mp hmem
  obtain ⟨hchild, -⟩ := Prod.mk.inj heq
  apply hclean.shut active.request (.inl ⟨active, hmem, rfl⟩)
  refine ⟨1, ?_, ?_⟩
  · rw [hchild, hline]
    decide
  · rw [hswept]
    exact List.mem_singleton_self 1

end Fixture

end Netherwick.Skills
