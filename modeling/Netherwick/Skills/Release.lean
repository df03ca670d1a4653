import Netherwick.Skills.Accounts

/-! # What a skill leaves behind when it ends

Every way to end a skill but one sweeps its operations away. A script that returns is taken at
its word. -/

namespace Netherwick.Skills

inductive SkillEvent
  | step (input : StepInput)
  | cancel (failure : SkillFailure) (nowMs : Nat)

namespace Invocation

def event (config : LuaSkillConfig) (invocation : Invocation) : SkillEvent → Invocation
  | .step input => invocation.step config input
  | .cancel failure nowMs => invocation.cancel failure nowMs

def run (config : LuaSkillConfig) (now : Now) (maximumDurationMs : Nat)
    (events : List SkillEvent) : Invocation :=
  events.foldl (event config) (start now maximumDurationMs)

/-- No operation is active, waiting or queued. -/
structure Quiet (invocation : Invocation) : Prop where
  active : invocation.active = []
  waiters : ∀ resource, invocation.waiters resource = []
  requests : invocation.requests = []

/-- What should hold when a skill has ended. -/
structure Released (invocation : Invocation) : Prop where
  quiet : invocation.Quiet
  owners : ∀ resource, invocation.owners resource = none
  finished : ∀ id, .enqueued id ∈ invocation.log → finishes invocation.log id = 1
  stopped : ∀ id resource, .granted id resource ∈ invocation.log →
    .finished id none ∈ invocation.log ∨ .stopped id resource ∈ invocation.log

/-- The poll of the script returns a result while operations are open. -/
def Abandons (config : LuaSkillConfig) (invocation : Invocation) : SkillEvent → Prop
  | .step input =>
    (invocation.prepared config input).result = none ∧
      (∃ conversion, input.poll.ending = .returned conversion) ∧
      ¬ ((invocation.prepared config input).scripted config input.poll.actions).Quiet
  | .cancel .. => False

end Invocation

section Runs

variable (config : LuaSkillConfig) (now : Now) (maximumDurationMs : Nat)
  (events : List SkillEvent)

/-- Whenever the status that is returned is terminal, everything has been released. -/
def TerminalReleases : Prop :=
  ∀ before event, before ++ [event] <+: events →
    (Invocation.run config now maximumDurationMs (before ++ [event])).status.phase = .terminal →
    (Invocation.run config now maximumDurationMs (before ++ [event])).Released

def NeverAbandons : Prop :=
  ∀ before event, before ++ [event] <+: events →
    ¬ (Invocation.run config now maximumDurationMs before).Abandons config event

end Runs

namespace Invocation

section Quiet

variable {invocation : Invocation} {config : LuaSkillConfig} {input : StepInput} {nowMs : Nat}

theorem Released.of_quiet (h : Accounted invocation []) (hquiet : invocation.Quiet) :
    invocation.Released := by
  have hlive : invocation.live = [] := by
    have hwaiting : invocation.waiting = [] := by
      unfold waiting
      rw [List.flatMap_eq_nil_iff]
      intro resource _
      exact hquiet.waiters resource
    simp [live, activeIds, hquiet.active, hwaiting, hquiet.requests]
  refine ⟨hquiet, ?_, ?_, ?_⟩
  · intro resource
    cases howner : invocation.owners resource with
    | none => rfl
    | some id =>
      obtain ⟨active, hactive, -⟩ := (h.owned resource id).mp howner
      rw [hquiet.active] at hactive
      cases hactive
  · intro id henqueued
    have haccount := h.account id
    have honce := h.once id
    have hpositive := List.count_pos_iff.mpr henqueued
    rw [hlive] at haccount
    simp only [List.count_nil] at haccount
    omega
  · intro id resource hgranted
    obtain ⟨active, hactive, -⟩ | hsettled := h.settled id resource hgranted
    · rw [hquiet.active] at hactive
      cases hactive
    · exact hsettled

theorem Quiet.congr {other : Invocation} (h : invocation.Quiet)
    (hactive : other.active = invocation.active) (hwaiters : other.waiters = invocation.waiters)
    (hrequests : other.requests = invocation.requests) : other.Quiet :=
  ⟨hactive.trans h.active, fun resource => by rw [hwaiters, h.waiters],
    hrequests.trans h.requests⟩

/-- Operations end and nothing else happens. -/
structure Shrinks (before after : Invocation) : Prop where
  active : after.active.Sublist before.active
  waiters : ∀ resource, (after.waiters resource).Sublist (before.waiters resource)
  requests : after.requests = before.requests
  result : after.result = before.result
  phase : after.status.phase = before.status.phase

theorem Shrinks.refl (invocation : Invocation) : Shrinks invocation invocation :=
  ⟨List.Sublist.refl _, fun _ => List.Sublist.refl _, rfl, rfl, rfl⟩

theorem Shrinks.trans {a b c : Invocation} (hab : Shrinks a b) (hbc : Shrinks b c) :
    Shrinks a c :=
  ⟨hbc.active.trans hab.active, fun resource => (hbc.waiters resource).trans (hab.waiters resource),
    hbc.requests.trans hab.requests, hbc.result.trans hab.result, hbc.phase.trans hab.phase⟩

theorem Shrinks.quiet {before after : Invocation} (h : Shrinks before after)
    (hquiet : before.Quiet) : after.Quiet := by
  refine ⟨?_, ?_, h.requests.trans hquiet.requests⟩
  · have hactive := h.active
    rw [hquiet.active] at hactive
    exact List.sublist_nil.mp hactive
  · intro resource
    have hwaiters := h.waiters resource
    rw [hquiet.waiters] at hwaiters
    exact List.sublist_nil.mp hwaiters

theorem shrinks_note (invocation : Invocation) (happened : List Happening) :
    Shrinks invocation (invocation.note happened) :=
  ⟨List.Sublist.refl _, fun _ => List.Sublist.refl _, rfl, rfl, rfl⟩

theorem active_finishOperation (invocation : Invocation) (id : Nat)
    (failure : Option SkillFailure) :
    (invocation.finishOperation id failure).active =
      invocation.active.filter fun active => active.request.id ≠ id := by
  unfold finishOperation
  split
  · rename_i hnone
    rw [eq_comm, List.filter_eq_self]
    simpa using hnone
  · simp only
    split
    · rfl
    · rfl

theorem shrinks_finishOperation (invocation : Invocation) (id : Nat)
    (failure : Option SkillFailure) : Shrinks invocation (invocation.finishOperation id failure) := by
  have hactive := active_finishOperation invocation id failure
  unfold finishOperation at hactive ⊢
  split
  · exact .refl _
  · simp only
    split
    · exact ⟨List.filter_sublist, fun _ => List.Sublist.refl _, rfl, rfl, rfl⟩
    · exact ⟨List.filter_sublist, fun _ => List.Sublist.refl _, rfl, rfl, rfl⟩

theorem shrinks_finishAll {α : Type} (invocation : Invocation) (ended : List α) (id : α → Nat)
    (failure : α → Option SkillFailure) :
    Shrinks invocation (ended.foldl (fun invocation a =>
      invocation.finishOperation (id a) (failure a)) invocation) := by
  induction ended generalizing invocation with
  | nil => exact .refl _
  | cons a ended ih => exact (shrinks_finishOperation invocation _ _).trans (ih _)

theorem active_finishAll {α : Type} (invocation : Invocation) (ended : List α) (id : α → Nat)
    (failure : α → Option SkillFailure) :
    (ended.foldl (fun invocation a =>
      invocation.finishOperation (id a) (failure a)) invocation).active =
      invocation.active.filter fun active => active.request.id ∉ ended.map id := by
  induction ended generalizing invocation with
  | nil => simp
  | cons a ended ih =>
    rw [List.foldl_cons, ih, active_finishOperation, List.filter_filter]
    apply List.filter_congr
    intro active _
    rw [List.map_cons]
    by_cases hid : active.request.id = id a
    · simp [hid]
    · simp [hid]

theorem shrinks_dropWaiting (invocation : Invocation) (drops : OperationRequest → Bool)
    (failure : OperationRequest → SkillFailure) :
    Shrinks invocation (invocation.dropWaiting drops failure) :=
  ⟨List.Sublist.refl _, fun _ => List.filter_sublist, rfl, rfl, rfl⟩

theorem shrinks_serviceCancellation (invocation : Invocation) (children : List Nat)
    (failure : SkillFailure) :
    Shrinks invocation (invocation.serviceCancellation children failure) := by
  unfold serviceCancellation
  exact (shrinks_finishAll invocation _ (fun id => id) fun _ => some failure).trans
    (shrinks_dropWaiting _ _ _)

theorem shrinks_serviceChildCancellations (invocation : Invocation) :
    Shrinks invocation invocation.serviceChildCancellations := by
  have hfold : ∀ (cancellations : List (List Nat × SkillFailure)) (invocation : Invocation),
      Shrinks invocation (cancellations.foldl (fun invocation cancellation =>
        invocation.serviceCancellation cancellation.1 cancellation.2) invocation) := by
    intro cancellations
    induction cancellations with
    | nil => exact fun invocation => .refl invocation
    | cons cancellation rest ih =>
      intro invocation
      exact (shrinks_serviceCancellation invocation _ _).trans (ih _)
  have hstart : Shrinks invocation { invocation with
      bridge := { invocation.bridge with cancelledChildren := [] } } :=
    ⟨List.Sublist.refl _, fun _ => List.Sublist.refl _, rfl, rfl, rfl⟩
  exact hstart.trans (hfold _ _)

theorem shrinks_expired (invocation : Invocation) (config : LuaSkillConfig)
    (input : StepInput) :
    Shrinks invocation
      ((invocation.expireResourceWaits input.now.tMs
        ).serviceActiveOperations input.now.tMs config.maximumOperationMs input.driver) := by
  apply (shrinks_dropWaiting _ _ _).trans
  unfold serviceActiveOperations
  apply (shrinks_note _ _).trans
  exact shrinks_finishAll _ _ _ _

theorem shrinks_serviced (invocation : Invocation) (config : LuaSkillConfig)
    (input : StepInput) :
    Shrinks invocation
      ((invocation.serviceChildCancellations.expireResourceWaits input.now.tMs
        ).serviceActiveOperations input.now.tMs config.maximumOperationMs input.driver) :=
  (shrinks_serviceChildCancellations invocation).trans (shrinks_expired _ config input)

theorem quiet_cancelInvocation (invocation : Invocation) (failure : SkillFailure)
    (h : invocation.result = none) :
    (invocation.cancelInvocation failure).Quiet ∧
      (invocation.cancelInvocation failure).result = some (.error failure) := by
  unfold cancelInvocation
  rw [h, if_neg (by simp)]
  refine ⟨⟨?_, ?_, rfl⟩, rfl⟩
  · have hactive := active_finishAll invocation
      (invocation.active.map fun active => active.request.id) (fun id => id)
      fun _ => some failure
    refine hactive.trans ?_
    rw [List.filter_eq_nil_iff]
    intro active hmem
    simpa using ⟨active, hmem, rfl⟩
  · intro resource
    simp [dropRequests, dropWaiting, keepWaiting, note]

theorem cancelInvocation_ended (failure : SkillFailure) (h : invocation.result.isSome) :
    invocation.cancelInvocation failure = invocation := if_pos h

theorem phase_cancelInvocation (invocation : Invocation) (failure : SkillFailure) :
    (invocation.cancelInvocation failure).status.phase = invocation.status.phase := by
  unfold cancelInvocation
  split
  · rfl
  · exact (shrinks_finishAll invocation _ (fun id => id) fun _ => some failure).phase

theorem requests_cancelInvocation (invocation : Invocation) (failure : SkillFailure)
    (h : invocation.requests = []) : (invocation.cancelInvocation failure).requests = [] := by
  unfold cancelInvocation
  split
  · exact h
  · rfl

structure Settled (invocation : Invocation) : Prop where
  requests : invocation.requests = []
  quiet : invocation.result.isSome → invocation.Quiet

theorem Settled.shrinks {after : Invocation} (h : invocation.Settled)
    (hshrinks : Shrinks invocation after) : after.Settled :=
  ⟨hshrinks.requests.trans h.requests, fun hresult =>
    hshrinks.quiet (h.quiet (hshrinks.result ▸ hresult))⟩

theorem Settled.cancelInvocation (h : invocation.Settled) (failure : SkillFailure) :
    (invocation.cancelInvocation failure).Settled := by
  cases hresult : invocation.result with
  | none =>
    have hquiet := (quiet_cancelInvocation invocation failure hresult).1
    exact ⟨hquiet.requests, fun _ => hquiet⟩
  | some result =>
    rw [cancelInvocation_ended failure (by simp [hresult])]
    exact h

variable (input) in
theorem Settled.preempted (h : invocation.Settled) : (invocation.preempted input).Settled := by
  unfold Invocation.preempted
  have hbegun : Settled { invocation with
      bridge := { invocation.bridge with snapshot := some input.now }
      status := { invocation.status with phase := .running, updatedAtMs := input.now.tMs } } :=
    ⟨h.requests, fun hresult => (h.quiet hresult).congr rfl rfl rfl⟩
  split
  · simp only
    split
    · exact (hbegun.cancelInvocation _).cancelInvocation _
    · exact hbegun.cancelInvocation _
  · simp only
    split
    · exact hbegun.cancelInvocation _
    · exact hbegun

theorem phase_preempted : (invocation.preempted input).status.phase = .running := by
  unfold Invocation.preempted
  simp only
  split
  · split
    · rw [phase_cancelInvocation, phase_cancelInvocation]
    · rw [phase_cancelInvocation]
  · split
    · rw [phase_cancelInvocation]
    · rfl

/-- Granting and draining leave the end of the invocation alone. -/
structure SameEnd (before after : Invocation) : Prop where
  result : after.result = before.result
  phase : after.status.phase = before.status.phase

theorem SameEnd.trans {a b c : Invocation} (hab : SameEnd a b) (hbc : SameEnd b c) :
    SameEnd a c := ⟨hbc.result.trans hab.result, hbc.phase.trans hab.phase⟩

/-- Something is active or waits. -/
def Busy (invocation : Invocation) : Prop :=
  invocation.active ≠ [] ∨ ∃ resource, invocation.waiters resource ≠ []

theorem busy_acquire (invocation : Invocation) (request : OperationRequest)
    (resource : BodyResource) : (invocation.acquire request resource nowMs).Busy :=
  .inl (by simp [acquire, note])

theorem quiet_iff : invocation.Quiet ↔ ¬ invocation.Busy ∧ invocation.requests = [] := by
  unfold Busy
  constructor
  · intro h
    refine ⟨?_, h.requests⟩
    rintro (hactive | ⟨resource, hwaiters⟩)
    · exact hactive h.active
    · exact hwaiters (h.waiters resource)
  · rintro ⟨hbusy, hrequests⟩
    push Not at hbusy
    exact ⟨hbusy.1, hbusy.2, hrequests⟩

theorem busy_of_awaits {child : Nat} (h : invocation.awaits child = true) : invocation.Busy := by
  unfold awaits at h
  rw [Bool.or_eq_true, List.any_eq_true, List.any_eq_true] at h
  obtain ⟨active, hactive, -⟩ | ⟨resource, -, hwaiters⟩ := h
  · exact .inl (List.ne_nil_of_mem hactive)
  · obtain ⟨request, hrequest, -⟩ := List.any_eq_true.mp hwaiters
    exact .inr ⟨resource, List.ne_nil_of_mem hrequest⟩

theorem busy_drainRequest (invocation : Invocation) (request : OperationRequest) :
    (invocation.drainRequest nowMs request).Busy := by
  unfold drainRequest
  split
  · rename_i resource _
    split
    · rename_i hawaits
      exact busy_of_awaits hawaits
    · split
      · exact .inr ⟨resource, by simp [setWaiters]⟩
      · exact busy_acquire _ _ _
  · exact .inl (by simp)

variable (nowMs) in
theorem sameEnd_drainRequest (invocation : Invocation) (request : OperationRequest) :
    SameEnd invocation (invocation.drainRequest nowMs request) ∧
      (invocation.drainRequest nowMs request).requests = invocation.requests := by
  unfold drainRequest
  repeat' split
  all_goals exact ⟨⟨rfl, rfl⟩, rfl⟩

theorem drain_cases (invocation : Invocation) (nowMs : Nat) :
    SameEnd invocation (invocation.drainNewRequests nowMs) ∧
      (invocation.drainNewRequests nowMs).requests = [] ∧
      (invocation.Quiet → (invocation.drainNewRequests nowMs).Quiet) ∧
      (¬ invocation.Quiet → (invocation.drainNewRequests nowMs).Busy) := by
  have hfold : ∀ (requests : List OperationRequest) (invocation : Invocation),
      SameEnd invocation (requests.foldl (drainRequest nowMs) invocation) ∧
        (requests.foldl (drainRequest nowMs) invocation).requests = invocation.requests ∧
        (invocation.Busy ∨ requests ≠ [] →
          (requests.foldl (drainRequest nowMs) invocation).Busy) := by
    intro requests
    induction requests with
    | nil =>
      intro invocation
      exact ⟨⟨rfl, rfl⟩, rfl, by simp⟩
    | cons request rest ih =>
      intro invocation
      obtain ⟨hend, hrequests⟩ := sameEnd_drainRequest nowMs invocation request
      obtain ⟨hend', hrequests', hbusy⟩ := ih (invocation.drainRequest nowMs request)
      exact ⟨hend.trans hend', hrequests'.trans hrequests, fun _ =>
        hbusy (.inl (busy_drainRequest _ _))⟩
  unfold drainNewRequests
  obtain ⟨hend, hrequests, hbusy⟩ := hfold invocation.requests
    { invocation with bridge := { invocation.bridge with requests := [] } }
  refine ⟨⟨hend.result, hend.phase⟩, hrequests, ?_, ?_⟩
  · intro hquiet
    rw [hquiet.requests]
    exact hquiet.congr rfl rfl hquiet.requests.symm
  · intro hnot
    apply hbusy
    by_contra hnone
    push Not at hnone
    exact hnot (quiet_iff.mpr hnone)

theorem grant_cases (invocation : Invocation) (nowMs : Nat) :
    SameEnd invocation (invocation.grantWaitingOperations nowMs) ∧
      (invocation.grantWaitingOperations nowMs).requests = invocation.requests ∧
      (invocation.Quiet → (invocation.grantWaitingOperations nowMs).Quiet) ∧
      (invocation.Busy → (invocation.grantWaitingOperations nowMs).Busy) := by
  unfold grantWaitingOperations
  induction BodyResource.all generalizing invocation with
  | nil => exact ⟨⟨rfl, rfl⟩, rfl, fun h => h, fun h => h⟩
  | cons resource rest ih =>
    have hone : SameEnd invocation (invocation.grantWaitingOperation nowMs resource) ∧
        (invocation.grantWaitingOperation nowMs resource).requests = invocation.requests ∧
        (invocation.Quiet → (invocation.grantWaitingOperation nowMs resource).Quiet) ∧
        (invocation.Busy → (invocation.grantWaitingOperation nowMs resource).Busy) := by
      unfold grantWaitingOperation
      split
      · rename_i request waiting _ hwaiters
        refine ⟨⟨rfl, rfl⟩, rfl, ?_, fun _ => busy_acquire _ _ _⟩
        intro hquiet
        rw [hquiet.waiters] at hwaiters
        cases hwaiters
      · exact ⟨⟨rfl, rfl⟩, rfl, fun h => h, fun h => h⟩
    obtain ⟨hend, hrequests, hquiet, hbusy⟩ := hone
    obtain ⟨hend', hrequests', hquiet', hbusy'⟩ :=
      ih (invocation.grantWaitingOperation nowMs resource)
    exact ⟨hend.trans hend', hrequests'.trans hrequests, fun h => hquiet' (hquiet h),
      fun h => hbusy' (hbusy h)⟩

theorem Settled.grant (h : invocation.Settled) :
    (invocation.grantWaitingOperations nowMs).Settled := by
  obtain ⟨hend, hrequests, hquiet, -⟩ := grant_cases invocation nowMs
  exact ⟨hrequests.trans h.requests, fun hresult => hquiet (h.quiet (hend.result ▸ hresult))⟩

theorem Settled.prepared (h : invocation.Settled) :
    (invocation.prepared config input).Settled := by
  unfold Invocation.prepared
  exact ((h.preempted input).shrinks (shrinks_serviced _ config input)).grant

theorem phase_prepared : (invocation.prepared config input).status.phase = .running := by
  unfold Invocation.prepared
  rw [(grant_cases _ _).1.phase, (shrinks_serviced _ config input).phase, phase_preempted]

theorem phase_scripted (actions : List BridgeAction) :
    (invocation.scripted config actions).status = invocation.status := rfl

theorem phase_concluded (ending : PollEnding) :
    (invocation.concluded config ending).status.phase = invocation.status.phase := by
  cases ending with
  | panicked | overBudget | failed => exact phase_cancelInvocation _ _
  | returned | pending => rfl

theorem phase_polled (poll : ScriptPoll) :
    (invocation.polled config poll).status.phase = invocation.status.phase := by
  unfold polled
  split
  · rfl
  · rw [phase_concluded, phase_scripted]

theorem quiet_concluded (ending : PollEnding) (hresult : invocation.result = none)
    (hquiet : (∃ conversion, ending = .returned conversion) → invocation.Quiet)
    (hended : (invocation.concluded config ending).result.isSome) :
    (invocation.concluded config ending).Quiet := by
  cases ending with
  | panicked | overBudget | failed => exact (quiet_cancelInvocation _ _ hresult).1
  | returned conversion => exact (hquiet ⟨conversion, rfl⟩).congr rfl rfl rfl
  | pending =>
    change invocation.result.isSome = true at hended
    simp [hresult] at hended

theorem quiet_polled (h : invocation.Settled)
    (hnot : ¬ invocation.Abandons config (.step input))
    (hended : ((invocation.prepared config input).polled config input.poll).result.isSome) :
    ((invocation.prepared config input).polled config input.poll).Quiet := by
  unfold polled at hended ⊢
  split
  · rename_i hresult
    exact h.prepared.quiet hresult
  · rename_i hresult
    rw [if_neg hresult] at hended
    have hnone : (invocation.prepared config input).result = none := by simpa using hresult
    refine quiet_concluded input.poll.ending hnone ?_ hended
    intro hreturned
    by_contra hopen
    exact hnot ⟨hnone, hreturned, hopen⟩

theorem same_finishStatus (invocation : Invocation) (nowMs : Nat) :
    (invocation.finishStatus nowMs).active = invocation.active ∧
      (invocation.finishStatus nowMs).waiters = invocation.waiters ∧
      (invocation.finishStatus nowMs).log = invocation.log ∧
      (invocation.finishStatus nowMs).owners = invocation.owners := by
  unfold finishStatus
  repeat' split
  all_goals exact ⟨rfl, rfl, rfl, rfl⟩

variable (nowMs) in
theorem step_end (h : invocation.status.phase = .running) :
    let after := ((invocation.drainNewRequests nowMs).grantWaitingOperations nowMs).finishStatus
      nowMs
    after.result = invocation.result ∧ after.requests = [] ∧
      (invocation.Quiet → after.Quiet) ∧ (¬ invocation.Quiet → ¬ after.Quiet) ∧
      (after.status.phase = .terminal ↔ invocation.result.isSome) := by
  intro after
  obtain ⟨hdrain, hempty, hquiet, hbusy⟩ := drain_cases invocation nowMs
  obtain ⟨hgrant, hrequests, hquiet', hbusy'⟩ :=
    grant_cases (invocation.drainNewRequests nowMs) nowMs
  have hend := hdrain.trans hgrant
  unfold after
  generalize (invocation.drainNewRequests nowMs).grantWaitingOperations nowMs = granted at *
  have hphase : granted.status.phase = .running := hend.phase.trans h
  have hsame : (granted.finishStatus nowMs).active = granted.active ∧
      (granted.finishStatus nowMs).waiters = granted.waiters ∧
      (granted.finishStatus nowMs).requests = granted.requests ∧
      (granted.finishStatus nowMs).result = granted.result := by
    unfold finishStatus
    repeat' split
    all_goals exact ⟨rfl, rfl, rfl, rfl⟩
  obtain ⟨hactive, hwaiters, hqueued, hresult⟩ := hsame
  refine ⟨hresult.trans hend.result, hqueued.trans (hrequests.trans hempty), ?_, ?_, ?_⟩
  · intro hstart
    exact (hquiet' (hquiet hstart)).congr hactive hwaiters hqueued
  · intro hstart hafter
    have hgranted : granted.Quiet := hafter.congr hactive.symm hwaiters.symm hqueued.symm
    exact (quiet_iff.mp hgranted).1 (hbusy' (hbusy hstart))
  · rw [← hend.result]
    unfold finishStatus
    rw [if_neg (by simp [hphase])]
    split
    · rename_i hnone
      simp [hnone, hphase]
    · rename_i hok
      simp [hok]
    · rename_i herror
      simp [herror]

theorem Settled.step (h : invocation.Settled)
    (hnot : ¬ invocation.Abandons config (.step input)) :
    (invocation.step config input).Settled ∧
      ((invocation.step config input).status.phase = .terminal →
        (invocation.step config input).Quiet) := by
  have hphase : ((invocation.prepared config input).polled config input.poll).status.phase =
      .running := by rw [phase_polled, phase_prepared]
  obtain ⟨hresult, hrequests, hquiet, -, hterminal⟩ := step_end input.now.tMs hphase
  have hended := quiet_polled h hnot
  refine ⟨⟨hrequests, ?_⟩, ?_⟩
  · intro hsome
    exact hquiet (hended (hresult ▸ hsome))
  · intro hphase
    exact hquiet (hended (hterminal.mp hphase))

theorem Settled.cancel (h : invocation.Settled) (failure : SkillFailure) :
    (invocation.cancel failure nowMs).Settled ∧ (invocation.cancel failure nowMs).Quiet := by
  have hcancelled := h.cancelInvocation failure
  have hquiet : (invocation.cancelInvocation failure).Quiet := by
    cases hresult : invocation.result with
    | none => exact (quiet_cancelInvocation _ _ hresult).1
    | some result =>
      rw [cancelInvocation_ended failure (by simp [hresult])]
      exact h.quiet (by simp [hresult])
  have hfinished : (invocation.cancel failure nowMs).Quiet := by
    unfold Invocation.cancel finishStatus
    repeat' split
    all_goals exact hquiet.congr rfl rfl rfl
  exact ⟨⟨hfinished.requests, fun _ => hfinished⟩, hfinished⟩

theorem abandons_step (h : invocation.Abandons config (.step input)) :
    (invocation.step config input).status.phase = .terminal ∧
      ¬ (invocation.step config input).Quiet := by
  obtain ⟨hnone, ⟨conversion, hending⟩, hopen⟩ := h
  have hphase : ((invocation.prepared config input).polled config input.poll).status.phase =
      .running := by rw [phase_polled, phase_prepared]
  obtain ⟨-, -, -, hbusy, hterminal⟩ := step_end input.now.tMs hphase
  have hpolled : (invocation.prepared config input).polled config input.poll =
      { (invocation.prepared config input).scripted config input.poll.actions with
        result := some (conversion.mapError resultConversion) } := by
    unfold polled
    rw [if_neg (by simp [hnone]), hending]
    rfl
  refine ⟨hterminal.mpr (by rw [hpolled]; rfl), hbusy ?_⟩
  intro hquiet
  rw [hpolled] at hquiet
  exact hopen (hquiet.congr rfl rfl rfl)

end Quiet

end Invocation

section Results

variable (config : LuaSkillConfig) (now : Now) (maximumDurationMs : Nat)

theorem run_append (before : List SkillEvent) (event : SkillEvent) :
    Invocation.run config now maximumDurationMs (before ++ [event]) =
      (Invocation.run config now maximumDurationMs before).event config event := by
  unfold Invocation.run
  rw [List.foldl_append]
  rfl

theorem accounted_run (events : List SkillEvent) :
    (Invocation.run config now maximumDurationMs events).Accounted [] := by
  induction events using List.reverseRecOn with
  | nil => exact Invocation.accounted_start now maximumDurationMs
  | append_singleton before event ih =>
    rw [run_append]
    cases event with
    | step input => exact ih.step
    | cancel failure nowMs => exact ih.cancel failure nowMs

theorem settled_run (events : List SkillEvent)
    (h : NeverAbandons config now maximumDurationMs events) :
    (Invocation.run config now maximumDurationMs events).Settled := by
  induction events using List.reverseRecOn with
  | nil =>
    refine ⟨rfl, ?_⟩
    intro hresult
    cases hresult
  | append_singleton before event ih =>
    have hbefore := ih fun earlier event' hearlier =>
      h earlier event' (hearlier.trans (List.prefix_append _ _))
    rw [run_append]
    cases event with
    | step input => exact (hbefore.step (h before _ (List.prefix_refl _))).1
    | cancel failure nowMs => exact (hbefore.cancel failure).1

/-- A terminal status always finds everything released exactly when no script returns while
operations are open. -/
theorem terminal_releases_iff (events : List SkillEvent) :
    TerminalReleases config now maximumDurationMs events ↔
      NeverAbandons config now maximumDurationMs events := by
  constructor
  · intro h before event hevent habandons
    cases event with
    | cancel => exact habandons
    | step input =>
      obtain ⟨hterminal, hopen⟩ := Invocation.abandons_step habandons
      have hreleased := h before (.step input) hevent
      rw [run_append] at hreleased
      exact hopen (hreleased hterminal).quiet
  · intro h before event hevent hterminal
    apply Invocation.Released.of_quiet (accounted_run config now maximumDurationMs _)
    have hbefore : (Invocation.run config now maximumDurationMs before).Settled :=
      settled_run config now maximumDurationMs before fun earlier event' hearlier =>
        h earlier event' (hearlier.trans ((List.prefix_append _ _).trans hevent))
    rw [run_append] at hterminal ⊢
    cases event with
    | step input => exact (hbefore.step (h before _ hevent)).2 hterminal
    | cancel failure nowMs => exact (hbefore.cancel failure).2

end Results

section Fixture

private def calm : Now := ⟨0, false, false, false, false, false, false, false, false⟩

private def shortLimits : LuaSkillConfig := ⟨30000, 20⟩

private def tripped : SkillFailure := ⟨.failed, "script_error", "tripped", none, none⟩

/-- One child of `together` drives, the other fails; the script catches the failure and returns. -/
private def returnsOverDrive : SkillEvent :=
  .step ⟨calm, [], fun _ => .pending, ⟨[.allocateChildren 0 2, .enqueue 1 .drive,
    .cancelChildren [1] tripped, .finishChildren [1, 2]], .returned (.ok ())⟩⟩

theorem returned_over_drive :
    (Invocation.run shortLimits calm 0 [returnsOverDrive]).status.phase = .terminal ∧
      (Invocation.run shortLimits calm 0 [returnsOverDrive]).owners .locomotion = some 1 := by
  decide

theorem terminal_keeps_organ :
    ¬ ∀ (config : LuaSkillConfig) (now : Now) (maximumDurationMs : Nat)
      (events : List SkillEvent), TerminalReleases config now maximumDurationMs events := by
  intro h
  obtain ⟨hterminal, howner⟩ := returned_over_drive
  have hreleased := h shortLimits calm 0 [returnsOverDrive] [] returnsOverDrive (List.prefix_refl _)
    hterminal
  cases howner.symm.trans (hreleased.owners .locomotion)

end Fixture

end Netherwick.Skills
