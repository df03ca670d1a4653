import Netherwick.Skills.Cancellation
import Mathlib.Data.List.Pairwise

/-! # Who gets an organ

The table of owners follows the active operations, a child has at most one claim, and the requests
for one organ go through one line: granted, waiting, queued. -/

namespace Netherwick.Skills

/-- The operations that were given the organ, in order. -/
def granted (log : List Happening) (resource : BodyResource) : List Nat :=
  log.filterMap fun
    | .granted id other => if other = resource then some id else none
    | _ => none

/-- The operations that were asked for, in order. -/
def asked (log : List Happening) : List Nat :=
  log.filterMap fun
    | .enqueued id => some id
    | _ => none

theorem granted_append (log more : List Happening) (resource : BodyResource) :
    granted (log ++ more) resource = granted log resource ++ granted more resource :=
  List.filterMap_append

theorem asked_append (log more : List Happening) : asked (log ++ more) = asked log ++ asked more :=
  List.filterMap_append

section Endings

variable {α : Type} (items : List α) (id : α → Nat)

@[simp] theorem granted_finished (failure : α → Option SkillFailure) (resource : BodyResource) :
    granted (items.map fun item => .finished (id item) (failure item)) resource = [] := by
  simp [granted]

@[simp] theorem asked_finished (failure : α → Option SkillFailure) :
    asked (items.map fun item => .finished (id item) (failure item)) = [] := by
  simp [asked]

@[simp] theorem granted_polled (operation : α → HostOperation) (resource : BodyResource) :
    granted (items.map fun item => .polled (id item) (operation item)) resource = [] := by
  simp [granted]

@[simp] theorem asked_polled (operation : α → HostOperation) :
    asked (items.map fun item => .polled (id item) (operation item)) = [] := by
  simp [asked]

end Endings

namespace Invocation

/-- No organ is free while a request waits for it. -/
def Prompt (invocation : Invocation) : Prop :=
  ∀ resource, invocation.owners resource = none → invocation.waiters resource = []

def drainPoints (invocation : Invocation) (nowMs : Nat) : List Invocation :=
  invocation.requests.scanl (drainRequest nowMs)
    { invocation with bridge := { invocation.bridge with requests := [] } }

end Invocation

section Runs

variable (config : LuaSkillConfig) (now : Now) (maximumDurationMs : Nat)
  (events : List SkillEvent)

end Runs

theorem scanl_invariant {α β : Type} {P : List β → α → Prop} {f : α → β → α}
    (hstep : ∀ a b rest, P (b :: rest) a → P rest (f a b)) {items : List β} {a : α}
    (h : P items a) : ∀ point ∈ items.scanl f a, ∃ rest, P rest point := by
  induction items generalizing a with
  | nil =>
    intro point hpoint
    rw [List.scanl_nil, List.mem_singleton] at hpoint
    exact ⟨[], hpoint ▸ h⟩
  | cons b rest ih =>
    intro point hpoint
    rw [List.scanl_cons] at hpoint
    obtain rfl | hrest := List.mem_cons.mp hpoint
    · exact ⟨b :: rest, h⟩
    · exact ih (hstep a b rest h) point hrest

theorem foldl_invariant {α β : Type} {P : List β → α → Prop} {f : α → β → α}
    (hstep : ∀ a b rest, P (b :: rest) a → P rest (f a b)) {items : List β} {a : α}
    (h : P items a) : P [] (items.foldl f a) := by
  induction items generalizing a with
  | nil => exact h
  | cons b rest ih => exact ih (hstep a b rest h)

namespace Invocation

/-- The line for an organ: what was given it, what waits, and what is queued. -/
def line (invocation : Invocation) (queue : List OperationRequest) (resource : BodyResource) :
    List Nat :=
  granted invocation.log resource ++ (invocation.waiters resource).map OperationRequest.id ++
    (queue.filter fun request => request.operation.resource = some resource).map
      OperationRequest.id

/-- The lines are in order, and no child has two claims. -/
structure Arranged (invocation : Invocation) (queue : List OperationRequest) : Prop where
  child : ∀ a b, invocation.Open a → invocation.Open b → a.operation.resource.isSome →
    b.operation.resource.isSome → a.childId = b.childId → a = b
  lines : ∀ resource, (invocation.line queue resource).Pairwise (· < ·)
  below : ∀ resource, ∀ id ∈ invocation.line queue resource, id < invocation.bridge.nextOperation
  asks : (asked invocation.log).Pairwise (· < ·)
  asksBelow : ∀ id ∈ asked invocation.log, id < invocation.bridge.nextOperation

/-- Nobody comes to the lines or changes places. -/
structure Thins (before : Invocation) (queue : List OperationRequest) (after : Invocation)
    (queue' : List OperationRequest) : Prop where
  opened : ∀ request, after.Open request → before.Open request
  lines : ∀ resource, (after.line queue' resource).Sublist (before.line queue resource)
  asks : asked after.log = asked before.log
  next : after.bridge.nextOperation = before.bridge.nextOperation

section Arranged

variable {invocation after : Invocation} {queue queue' : List OperationRequest} {nowMs : Nat}

theorem Arranged.moves (h : invocation.Arranged queue)
    (hchild : ∀ a b, after.Open a → after.Open b → a.operation.resource.isSome →
      b.operation.resource.isSome → a.childId = b.childId → a = b)
    (hlines : ∀ resource, (after.line queue' resource).Sublist (invocation.line queue resource))
    (hasks : Skills.asked after.log = Skills.asked invocation.log)
    (hnext : after.bridge.nextOperation = invocation.bridge.nextOperation) :
    after.Arranged queue' := by
  refine ⟨hchild, ?_, ?_, ?_, ?_⟩
  · intro resource
    exact (h.lines resource).sublist (hlines resource)
  · intro resource id hid
    rw [hnext]
    exact h.below resource id ((hlines resource).subset hid)
  · rw [hasks]
    exact h.asks
  · rw [hasks, hnext]
    exact h.asksBelow

theorem Arranged.thins (h : invocation.Arranged queue)
    (hthins : Thins invocation queue after queue') : after.Arranged queue' := by
  refine h.moves ?_ hthins.lines hthins.asks hthins.next
  intro a b ha hb
  exact h.child a b (hthins.opened a ha) (hthins.opened b hb)

theorem Thins.refl (invocation : Invocation) (queue : List OperationRequest) :
    Thins invocation queue invocation queue :=
  ⟨fun _ h => h, fun _ => List.Sublist.refl _, rfl, rfl⟩

theorem Thins.trans {a b c : Invocation} {p q r : List OperationRequest} (hab : Thins a p b q)
    (hbc : Thins b q c r) : Thins a p c r :=
  ⟨fun request h => hab.opened request (hbc.opened request h),
    fun resource => (hbc.lines resource).trans (hab.lines resource), hbc.asks.trans hab.asks,
    hbc.next.trans hab.next⟩

theorem line_waiters (hlog : ∀ resource, granted after.log resource = granted invocation.log resource)
    (hwaiters : ∀ resource, (after.waiters resource).Sublist (invocation.waiters resource))
    (resource : BodyResource) :
    (after.line queue resource).Sublist (invocation.line queue resource) := by
  unfold line
  rw [hlog]
  exact ((List.Sublist.refl _).append ((hwaiters resource).map _)).append (List.Sublist.refl _)

theorem thins_finishOperation (id : Nat) (failure : Option SkillFailure) :
    Thins invocation queue (invocation.finishOperation id failure) queue := by
  have hshrinks := shrinks_finishOperation invocation id failure
  have hframed := framed_finishOperation invocation id failure
  have hlog : ∀ resource, granted (invocation.finishOperation id failure).log resource =
      granted invocation.log resource ∧
      asked (invocation.finishOperation id failure).log = asked invocation.log := by
    intro resource
    unfold finishOperation
    split
    · exact ⟨rfl, rfl⟩
    · simp only
      split
      · simp only [note, log, granted_append, asked_append]
        split <;> simp [granted, asked, setOwner, removeActive]
      · simp [note, log, granted, asked, removeActive]
  exact ⟨fun request => hshrinks.opened, line_waiters (fun resource => (hlog resource).1)
    hshrinks.waiters, (hlog .locomotion).2, hframed.nextOperation⟩

theorem thins_finishAll {α : Type} (ended : List α) (id : α → Nat)
    (failure : α → Option SkillFailure) :
    Thins invocation queue (ended.foldl (fun invocation a =>
      invocation.finishOperation (id a) (failure a)) invocation) queue := by
  induction ended generalizing invocation with
  | nil => exact .refl _ _
  | cons a ended ih => exact (thins_finishOperation _ _).trans ih

theorem thins_dropWaiting (drops : OperationRequest → Bool)
    (failure : OperationRequest → SkillFailure) :
    Thins invocation queue (invocation.dropWaiting drops failure) queue := by
  have hshrinks := shrinks_dropWaiting invocation drops failure
  have hlog : (invocation.dropWaiting drops failure).log = invocation.log ++
      (BodyResource.all.flatMap fun resource => (invocation.waiters resource).filter drops).map
        fun request => Happening.finished request.id (some (failure request)) := rfl
  refine ⟨fun request => hshrinks.opened, line_waiters ?_ hshrinks.waiters, ?_, rfl⟩
  · intro resource
    rw [hlog, granted_append, granted_finished, List.append_nil]
  · rw [hlog, asked_append, asked_finished, List.append_nil]

theorem thins_dropRequests (failure : SkillFailure) :
    Thins invocation queue (invocation.dropRequests failure) [] := by
  have hlog : (invocation.dropRequests failure).log = invocation.log ++
      invocation.requests.map fun request => Happening.finished request.id (some failure) := rfl
  refine ⟨fun _ h => h, ?_, ?_, rfl⟩
  · intro resource
    unfold line
    rw [hlog, granted_append, granted_finished, List.append_nil]
    exact (List.Sublist.refl _).append (List.nil_sublist _)
  · rw [hlog, asked_append, asked_finished, List.append_nil]

theorem thins_polled (polled : List ActiveOperation) :
    Thins invocation queue (invocation.note (polled.map fun active =>
      .polled active.request.id active.request.operation)) queue := by
  have hlog : (invocation.note (polled.map fun active =>
      .polled active.request.id active.request.operation)).log = invocation.log ++
      polled.map fun active => Happening.polled active.request.id active.request.operation := rfl
  refine ⟨fun _ h => h, line_waiters ?_ fun _ => List.Sublist.refl _, ?_, rfl⟩
  · intro resource
    rw [hlog, granted_append, granted_polled, List.append_nil]
  · rw [hlog, asked_append, asked_polled, List.append_nil]

theorem thins_serviceCancellation (children : List Nat) (failure : SkillFailure) :
    Thins invocation queue (invocation.serviceCancellation children failure) queue :=
  (thins_finishAll _ (fun id => id) fun _ => some failure).trans (thins_dropWaiting _ _)

theorem thins_forget (invocation : Invocation) (queue : List OperationRequest) :
    Thins invocation queue invocation [] := by
  refine ⟨fun _ h => h, ?_, rfl, rfl⟩
  intro resource
  exact (List.Sublist.refl _).append (List.nil_sublist _)

theorem thins_cancelInvocation (failure : SkillFailure) :
    Thins invocation queue (invocation.cancelInvocation failure) [] := by
  unfold cancelInvocation
  split
  · exact thins_forget _ _
  · have hfinished : Thins invocation queue _ queue := thins_finishAll
      (invocation.active.map fun active => active.request.id) (fun id => id) fun _ => some failure
    have hdropped := (hfinished.trans (thins_dropWaiting (fun _ => true) fun _ => failure)).trans
      (thins_dropRequests failure)
    exact ⟨hdropped.opened, hdropped.lines, hdropped.asks, hdropped.next⟩

theorem granted_acquire (request : OperationRequest) (resource other : BodyResource) :
    granted (invocation.acquire request resource nowMs).log other =
      granted invocation.log other ++ if other = resource then [request.id] else [] := by
  have hlog : (invocation.acquire request resource nowMs).log =
      invocation.log ++ [Happening.granted request.id resource] := rfl
  rw [hlog, granted_append]
  by_cases hother : other = resource
  · simp [granted, hother]
  · simp [granted, hother, Ne.symm hother]

theorem asked_acquire (request : OperationRequest) (resource : BodyResource) :
    asked (invocation.acquire request resource nowMs).log = asked invocation.log := by
  have hlog : (invocation.acquire request resource nowMs).log =
      invocation.log ++ [Happening.granted request.id resource] := rfl
  rw [hlog, asked_append]
  exact List.append_nil _

theorem thins_grantWaitingOperation (resource : BodyResource) :
    Thins invocation queue (invocation.grantWaitingOperation nowMs resource) queue := by
  refine ⟨fun request => open_grantWaitingOperation, ?_, ?_, ?_⟩
  · intro other
    unfold grantWaitingOperation
    split
    · rename_i request rest hfree hwaiters
      unfold line
      rw [granted_acquire]
      by_cases hother : other = resource
      · subst hother
        rw [if_pos rfl, hwaiters]
        simp [setWaiters, acquire, setOwner, note, log]
      · rw [if_neg hother]
        simp [setWaiters, acquire, setOwner, note, log, hother]
    · exact List.Sublist.refl _
  · unfold grantWaitingOperation
    split
    · exact asked_acquire _ _
    · rfl
  · unfold grantWaitingOperation
    split
    · rfl
    · rfl

theorem thins_acquire {request : OperationRequest} {resource : BodyResource}
    (hneeds : request.operation.resource = some resource)
    (hwaiters : invocation.waiters resource = []) (other : BodyResource) :
    ((invocation.acquire request resource nowMs).line queue other) =
      invocation.line (request :: queue) other := by
  unfold line
  rw [granted_acquire]
  by_cases hother : other = resource
  · subst hother
    have hafter : (invocation.acquire request other nowMs).waiters other = [] := hwaiters
    rw [if_pos rfl, hafter, hwaiters, List.filter_cons_of_pos (by simpa using hneeds)]
    simp
  · rw [if_neg hother, List.filter_cons_of_neg (by simpa [hneeds] using Ne.symm hother)]
    simp [acquire, setOwner, note]

theorem line_wait {request : OperationRequest} {resource : BodyResource}
    (hneeds : request.operation.resource = some resource) (other : BodyResource) :
    (invocation.setWaiters resource (invocation.waiters resource ++ [request])).line queue other =
      invocation.line (request :: queue) other := by
  unfold line
  by_cases hother : other = resource
  · subst hother
    rw [List.filter_cons_of_pos (by simpa using hneeds)]
    simp [setWaiters, log]
  · rw [List.filter_cons_of_neg (by simpa [hneeds] using Ne.symm hother)]
    simp [setWaiters, log, hother]

theorem line_tail (request : OperationRequest) (other : BodyResource) :
    (invocation.line queue other).Sublist (invocation.line (request :: queue) other) := by
  unfold line
  refine (List.Sublist.refl _).append (List.Sublist.map _ ?_)
  exact (List.sublist_cons_self _ _).filter _

theorem child_claims {request : OperationRequest} (h : invocation.Arranged queue)
    (hawaits : invocation.awaits request.childId = false)
    (hopened : ∀ other, after.Open other → other = request ∨ invocation.Open other) :
    ∀ a b, after.Open a → after.Open b → a.operation.resource.isSome →
      b.operation.resource.isSome → a.childId = b.childId → a = b := by
  have hnone : ∀ other, invocation.Open other → other.childId ≠ request.childId := by
    intro other hopen heq
    have hall : invocation.awaits request.childId = true := by
      unfold awaits
      rw [Bool.or_eq_true, List.any_eq_true, List.any_eq_true]
      obtain ⟨active, hactive, rfl⟩ | ⟨resource, hwaiting⟩ := hopen
      · exact .inl ⟨active, hactive, by simpa using heq⟩
      · exact .inr ⟨resource, resource.mem_all, List.any_eq_true.mpr ⟨other, hwaiting, by simpa using heq⟩⟩
    rw [hawaits] at hall
    cases hall
  intro a b ha hb hneedsA hneedsB heq
  obtain rfl | holdA := hopened a ha
  · obtain rfl | holdB := hopened b hb
    · rfl
    · exact absurd heq.symm (hnone b holdB)
  · obtain rfl | holdB := hopened b hb
    · exact absurd heq (hnone a holdA)
    · exact h.child a b holdA holdB hneedsA hneedsB heq

theorem Arranged.drainRequest {request : OperationRequest}
    (h : invocation.Arranged (request :: queue)) (hprompt : invocation.Prompt) :
    (invocation.drainRequest nowMs request).Arranged queue := by
  have hopened : ∀ other, (invocation.drainRequest nowMs request).Open other →
      other = request ∨ invocation.Open other := fun other => open_drainRequest
  revert hopened
  unfold Invocation.drainRequest
  cases hneeds : request.operation.resource with
  | none =>
    intro hopened
    refine h.moves ?_ (fun resource => line_tail request resource) rfl rfl
    intro a b ha hb hneedsA hneedsB
    have hold : ∀ other, Open { invocation with active := invocation.active ++ [⟨request, nowMs⟩] }
        other → other.operation.resource.isSome → invocation.Open other := by
      intro other hother hsome
      obtain rfl | hold := hopened other hother
      · simp [hneeds] at hsome
      · exact hold
    exact h.child a b (hold a ha hneedsA) (hold b hb hneedsB) hneedsA hneedsB
  | some resource =>
    simp only
    split
    · intro _
      refine h.thins ⟨fun _ h => h, ?_, ?_, rfl⟩
      · intro other
        refine List.Sublist.trans ?_ (line_tail request other)
        unfold line
        simp [note, log, granted]
      · simp [note, log, asked]
    · rename_i hawaits
      have hawaits : invocation.awaits request.childId = false := by simpa using hawaits
      split
      · intro hopened
        refine h.moves (child_claims h hawaits hopened) ?_ rfl rfl
        intro other
        rw [line_wait hneeds other]
      · rename_i howner
        intro hopened
        refine h.moves (child_claims h hawaits hopened) ?_ (asked_acquire _ _) rfl
        intro other
        rw [thins_acquire hneeds (hprompt resource (by simpa using howner)) other]

theorem pairwise_concat {l : List Nat} {next : Nat} (h : l.Pairwise (· < ·))
    (hbelow : ∀ id ∈ l, id < next) : (l ++ [next]).Pairwise (· < ·) := by
  rw [List.pairwise_append]
  refine ⟨h, List.pairwise_singleton _ _, ?_⟩
  intro id hid last hlast
  rw [List.mem_singleton.mp hlast]
  exact hbelow id hid

theorem Arranged.enqueue {maximumOperationMs child : Nat} {operation : HostOperation}
    (h : invocation.Arranged invocation.requests) :
    Arranged { invocation with
        bridge := invocation.bridge.enqueue child operation maximumOperationMs }
      (invocation.bridge.enqueue child operation maximumOperationMs).requests := by
  have hasked : asked (invocation.bridge.enqueue child operation maximumOperationMs).log =
      asked invocation.log ++ [invocation.bridge.nextOperation] := by
    unfold Bridge.enqueue
    simp only
    split
    · rw [asked_append]
      rfl
    · rw [asked_append]
      rfl
  have hgranted : ∀ resource, granted
      (invocation.bridge.enqueue child operation maximumOperationMs).log resource =
      granted invocation.log resource := by
    intro resource
    unfold Bridge.enqueue
    simp only
    split
    · rw [granted_append]
      exact List.append_nil _
    · rw [granted_append]
      exact List.append_nil _
  have hline : ∀ resource, (line { invocation with
        bridge := invocation.bridge.enqueue child operation maximumOperationMs }
      (invocation.bridge.enqueue child operation maximumOperationMs).requests resource) =
      invocation.line invocation.requests resource ∨
      (line { invocation with
        bridge := invocation.bridge.enqueue child operation maximumOperationMs }
      (invocation.bridge.enqueue child operation maximumOperationMs).requests resource) =
      invocation.line invocation.requests resource ++ [invocation.bridge.nextOperation] := by
    intro resource
    unfold line
    change granted (invocation.bridge.enqueue child operation maximumOperationMs).log resource ++ _ ++
      _ = _ ∨ granted (invocation.bridge.enqueue child operation maximumOperationMs).log resource ++
      _ ++ _ = _
    rw [hgranted]
    unfold Bridge.enqueue
    simp only
    split
    · exact .inl rfl
    · by_cases hneeds : operation.resource = some resource
      · refine .inr ?_
        simp [requests, List.filter_append, hneeds]
      · refine .inl ?_
        simp [requests, List.filter_append, hneeds]
  have hnext : (invocation.bridge.enqueue child operation maximumOperationMs).nextOperation =
      invocation.bridge.nextOperation + 1 := by
    unfold Bridge.enqueue
    simp only
    split
    · rfl
    · rfl
  refine ⟨h.child, ?_, ?_, ?_, ?_⟩
  · intro resource
    obtain hsame | hnew := hline resource
    · rw [hsame]
      exact h.lines resource
    · rw [hnew]
      exact pairwise_concat (h.lines resource) (h.below resource)
  · intro resource id hid
    change id < (invocation.bridge.enqueue child operation maximumOperationMs).nextOperation
    rw [hnext]
    obtain hsame | hnew := hline resource
    · rw [hsame] at hid
      exact Nat.lt_succ_of_lt (h.below resource id hid)
    · rw [hnew] at hid
      obtain hold | hlast := List.mem_append.mp hid
      · exact Nat.lt_succ_of_lt (h.below resource id hold)
      · rw [List.mem_singleton.mp hlast]
        exact Nat.lt_succ_self _
  · change (asked (invocation.bridge.enqueue child operation maximumOperationMs).log).Pairwise _
    rw [hasked]
    exact pairwise_concat h.asks h.asksBelow
  · intro id hid
    change id ∈ asked (invocation.bridge.enqueue child operation maximumOperationMs).log at hid
    change id < (invocation.bridge.enqueue child operation maximumOperationMs).nextOperation
    rw [hasked] at hid
    rw [hnext]
    obtain hold | hlast := List.mem_append.mp hid
    · exact Nat.lt_succ_of_lt (h.asksBelow id hold)
    · rw [List.mem_singleton.mp hlast]
      exact Nat.lt_succ_self _

theorem Arranged.congr (h : invocation.Arranged queue) (hactive : after.active = invocation.active)
    (hwaiters : after.waiters = invocation.waiters) (hlog : after.log = invocation.log)
    (hnext : after.bridge.nextOperation = invocation.bridge.nextOperation) :
    after.Arranged queue := by
  refine h.thins ⟨?_, ?_, by rw [hlog], hnext⟩
  · intro request hopen
    unfold Open at hopen ⊢
    rwa [hactive, hwaiters] at hopen
  · intro resource
    unfold line
    rw [hlog, hwaiters]

theorem Arranged.scripted (config : LuaSkillConfig)
    (h : invocation.Arranged invocation.requests) (actions : List BridgeAction) :
    (invocation.scripted config actions).Arranged (invocation.scripted config actions).requests := by
  induction actions generalizing invocation with
  | nil => exact h
  | cons action rest ih =>
    have hfirst : Arranged { invocation with
        bridge := invocation.bridge.perform config.maximumOperationMs action }
        (invocation.bridge.perform config.maximumOperationMs action).requests := by
      cases action with
      | enqueue => exact h.enqueue
      | allocateChildren | cancelChildren | finishChildren | setHazard =>
        exact h.congr rfl rfl rfl rfl
    exact ih hfirst

end Arranged

section Prompt

variable {invocation : Invocation} {nowMs : Nat}

theorem Prompt.drainRequest (h : invocation.Prompt) (request : OperationRequest) :
    (invocation.drainRequest nowMs request).Prompt := by
  unfold Invocation.drainRequest
  split
  · rename_i resource _
    split
    · exact h
    · split
      · rename_i howner
        intro other hnone
        have hne : other ≠ resource := by
          rintro rfl
          change invocation.owners other = none at hnone
          simp [hnone] at howner
        have hold := h other hnone
        simpa [setWaiters, hne] using hold
      · intro other hnone
        by_cases hother : other = resource
        · simp [acquire, setOwner, note, hother] at hnone
        · have howner : invocation.owners other = none := by
            simpa [acquire, setOwner, note, hother] using hnone
          exact h other howner
  · exact h

theorem prompt_grant (invocation : Invocation) (nowMs : Nat) :
    (invocation.grantWaitingOperations nowMs).Prompt := by
  have hone : ∀ (invocation : Invocation) (resource : BodyResource),
      let after := invocation.grantWaitingOperation nowMs resource
      (after.owners resource = none → after.waiters resource = []) ∧
        ∀ other, (invocation.owners other = none → invocation.waiters other = []) →
          after.owners other = none → after.waiters other = [] := by
    intro invocation resource after
    unfold after grantWaitingOperation
    split
    · rename_i request rest hfree hwaiters
      refine ⟨by simp [acquire, setOwner, note], ?_⟩
      intro other hold hnone
      by_cases hother : other = resource
      · simp [acquire, setOwner, note, hother] at hnone
      · have howner : invocation.owners other = none := by
          simpa [acquire, setOwner, setWaiters, note, hother] using hnone
        simpa [acquire, setOwner, setWaiters, note, hother] using hold howner
    · rename_i hnot
      refine ⟨?_, fun _ hold => hold⟩
      intro hnone
      cases hwaiters : invocation.waiters resource with
      | nil => rfl
      | cons request rest => exact absurd hwaiters (hnot request rest hnone)
  have hfold : ∀ (resources : List BodyResource) (invocation : Invocation),
      let after := resources.foldl (grantWaitingOperation nowMs) invocation
      ∀ resource, resource ∈ resources ∨
        (invocation.owners resource = none → invocation.waiters resource = []) →
        after.owners resource = none → after.waiters resource = [] := by
    intro resources
    induction resources with
    | nil =>
      intro invocation after resource h
      exact h.resolve_left List.not_mem_nil
    | cons first rest ih =>
      intro invocation after resource h
      obtain ⟨hfirst, hothers⟩ := hone invocation first
      apply ih (invocation.grantWaitingOperation nowMs first) resource
      obtain hmem | hold := h
      · obtain rfl | hrest := List.mem_cons.mp hmem
        · exact .inr hfirst
        · exact .inl hrest
      · exact .inr (hothers resource hold)
  intro resource
  exact hfold BodyResource.all invocation resource (.inl resource.mem_all)

theorem Prompt.cancelInvocation (h : invocation.Prompt) (failure : SkillFailure) :
    (invocation.cancelInvocation failure).Prompt := by
  cases hresult : invocation.result with
  | none =>
    intro resource _
    exact (quiet_cancelInvocation invocation failure hresult).1.waiters resource
  | some result =>
    rw [cancelInvocation_ended failure (by simp [hresult])]
    exact h

end Prompt

/-- The organs are accounted for and the lines arranged, whatever is just being moved. -/
def Orderly (invocation : Invocation) : Prop :=
  ∃ loose queue, invocation.Accounted loose ∧ invocation.Arranged queue

section Points

variable {invocation : Invocation} {loose : List Nat} {queue : List OperationRequest} {nowMs : Nat}

end Points

/-- What holds between the events. -/
structure Governed (invocation : Invocation) : Prop where
  accounted : invocation.Accounted []
  arranged : invocation.Arranged []
  prompt : invocation.Prompt
  requests : invocation.requests = []

/-- What holds while the rest of the queue is still to be drained. -/
structure Draining (queue : List OperationRequest) (invocation : Invocation) : Prop where
  accounted : invocation.Accounted (queue.map OperationRequest.id)
  arranged : invocation.Arranged queue
  prompt : invocation.Prompt

section Events

variable {invocation : Invocation} {config : LuaSkillConfig} {input : StepInput}
  {queue : List OperationRequest} {nowMs : Nat}

variable (input) in
theorem preempted_cases {P : Invocation → Prop}
    (hbegun : P { invocation with
      bridge := { invocation.bridge with snapshot := some input.now }
      status := { invocation.status with phase := .running, updatedAtMs := input.now.tMs } })
    (hcancels : ∀ invocation failure, P invocation → P (invocation.cancelInvocation failure)) :
    P (invocation.preempted input) := by
  unfold preempted
  simp only
  split
  · split
    · exact hcancels _ _ (hcancels _ _ hbegun)
    · exact hcancels _ _ hbegun
  · split
    · exact hcancels _ _ hbegun
    · exact hbegun

variable (input) in
theorem Arranged.preempted (h : invocation.Arranged []) : (invocation.preempted input).Arranged [] := by
  apply preempted_cases input (P := fun invocation => invocation.Arranged [])
  · exact h.congr rfl rfl rfl rfl
  · intro other failure hother
    exact hother.thins (thins_cancelInvocation failure)

theorem Arranged.service (h : invocation.Arranged queue) :
    invocation.serviceChildCancellations.Arranged queue := by
  have hfold : ∀ (cancellations : List (List Nat × SkillFailure)) (invocation : Invocation),
      invocation.Arranged queue →
      Arranged (cancellations.foldl (fun invocation cancellation =>
        invocation.serviceCancellation cancellation.1 cancellation.2) invocation) queue := by
    intro cancellations
    induction cancellations with
    | nil => exact fun _ h => h
    | cons cancellation rest ih =>
      exact fun invocation h => ih _ (h.thins (thins_serviceCancellation _ _))
  exact hfold _ _ (h.congr rfl rfl rfl rfl)

variable (nowMs) in
theorem Arranged.expired (h : invocation.Arranged queue) :
    (invocation.expireResourceWaits nowMs).Arranged queue := h.thins (thins_dropWaiting _ _)

theorem Arranged.driven (h : invocation.Arranged queue) (driver : Nat → OrganPoll)
    (maximumOperationMs : Nat) :
    (invocation.serviceActiveOperations nowMs maximumOperationMs driver).Arranged queue := by
  unfold serviceActiveOperations
  exact (h.thins (thins_polled _)).thins (thins_finishAll _ _ _)

theorem Arranged.grants (h : invocation.Arranged queue) :
    (invocation.grantWaitingOperations nowMs).Arranged queue := by
  unfold grantWaitingOperations
  induction BodyResource.all generalizing invocation with
  | nil => exact h
  | cons resource rest ih => exact ih (h.thins (thins_grantWaitingOperation resource))

theorem Arranged.prepared (h : invocation.Arranged []) :
    (invocation.prepared config input).Arranged [] := by
  unfold Invocation.prepared
  have hserved := (h.preempted input).service
  exact ((hserved.expired _).driven _ _).grants

variable (config input) in
theorem Governed.polled (h : invocation.Governed) :
    ((invocation.prepared config input).scripted config input.poll.actions).Orderly ∧
      ((invocation.prepared config input).polled config input.poll).Accounted [] ∧
      ((invocation.prepared config input).polled config input.poll).Arranged
        ((invocation.prepared config input).polled config input.poll).requests ∧
      ((invocation.prepared config input).polled config input.poll).Prompt := by
  have haccounted : (invocation.prepared config input).Accounted [] := h.accounted.prepared
  have hempty : (invocation.prepared config input).requests = [] := requests_prepared h.requests
  have harranged : (invocation.prepared config input).Arranged
      (invocation.prepared config input).requests := by
    rw [hempty]
    exact h.arranged.prepared
  have hprompt : (invocation.prepared config input).Prompt := prompt_grant _ _
  have hscripted := harranged.scripted config input.poll.actions
  have haccounted' : ((invocation.prepared config input).scripted config input.poll.actions
      ).Accounted [] := haccounted.scripted input.poll.actions
  refine ⟨⟨_, _, haccounted', hscripted⟩, ?_⟩
  unfold Invocation.polled
  split
  · exact ⟨haccounted, harranged, hprompt⟩
  · rename_i hresult
    have hnone : ((invocation.prepared config input).scripted config input.poll.actions).result =
        none := by
      change (invocation.prepared config input).result = none
      simpa using hresult
    have hprompt' : ((invocation.prepared config input).scripted config
        input.poll.actions).Prompt := hprompt
    have hcancelled : ∀ failure, Arranged
        (((invocation.prepared config input).scripted config input.poll.actions).cancelInvocation
          failure)
        (((invocation.prepared config input).scripted config input.poll.actions).cancelInvocation
          failure).requests := by
      intro failure
      rw [(quiet_cancelInvocation _ failure hnone).1.requests]
      exact hscripted.thins (thins_cancelInvocation failure)
    refine ⟨haccounted'.concluded _, ?_, ?_⟩
    · cases input.poll.ending with
      | panicked | overBudget | failed => exact hcancelled _
      | returned => exact hscripted.congr rfl rfl rfl rfl
      | pending => exact hscripted
    · cases input.poll.ending with
      | panicked | overBudget | failed => exact hprompt'.cancelInvocation _
      | returned | pending => exact hprompt'

variable (nowMs) in
theorem governed_end (haccounted : invocation.Accounted [])
    (harranged : invocation.Arranged invocation.requests) (hprompt : invocation.Prompt) :
    (∀ point ∈ invocation.drainPoints nowMs, point.Orderly) ∧
      (invocation.drainNewRequests nowMs).Arranged [] ∧
      (((invocation.drainNewRequests nowMs).grantWaitingOperations nowMs).finishStatus nowMs
        ).Governed := by
  have hstep : ∀ (invocation : Invocation) (request : OperationRequest)
      (rest : List OperationRequest), Draining (request :: rest) invocation →
      Draining rest (invocation.drainRequest nowMs request) := by
    rintro invocation request rest ⟨haccounted, harranged, hprompt⟩
    exact ⟨haccounted.drainRequest nowMs, harranged.drainRequest hprompt,
      hprompt.drainRequest request⟩
  have hstart : Draining invocation.requests
      { invocation with bridge := { invocation.bridge with requests := [] } } :=
    ⟨haccounted.dequeued, harranged.congr rfl rfl rfl rfl, hprompt⟩
  have hdrained : Draining [] (invocation.drainNewRequests nowMs) :=
    foldl_invariant hstep hstart
  refine ⟨?_, hdrained.arranged, ?_⟩
  · intro point hpoint
    obtain ⟨rest, hdraining⟩ := scanl_invariant hstep hstart point hpoint
    exact ⟨_, rest, hdraining.accounted, hdraining.arranged⟩
  · have hgranted : ((invocation.drainNewRequests nowMs).grantWaitingOperations nowMs).Arranged [] :=
      hdrained.arranged.grants
    have hprompt' := prompt_grant (invocation.drainNewRequests nowMs) nowMs
    have hframed := framed_finishStatus
      ((invocation.drainNewRequests nowMs).grantWaitingOperations nowMs) nowMs
    have hsame := same_finishStatus
      ((invocation.drainNewRequests nowMs).grantWaitingOperations nowMs) nowMs
    refine ⟨(haccounted.drainNewRequests nowMs |>.grantWaitingOperations nowMs).finishStatus nowMs,
      hgranted.congr hsame.1 hsame.2.1 hsame.2.2.1 hframed.nextOperation, ?_, requests_end _ _⟩
    intro resource hnone
    rw [hsame.2.1]
    rw [hsame.2.2.2] at hnone
    exact hprompt' resource hnone

theorem Governed.step (h : invocation.Governed) : (invocation.step config input).Governed := by
  obtain ⟨-, haccounted, harranged, hprompt⟩ := h.polled config input
  exact (governed_end _ haccounted harranged hprompt).2.2

theorem Governed.cancel (h : invocation.Governed) (failure : SkillFailure) :
    (invocation.cancel failure nowMs).Governed := by
  have hsame := same_finishStatus (invocation.cancelInvocation failure) nowMs
  have hframed := framed_finishStatus (invocation.cancelInvocation failure) nowMs
  have harranged := h.arranged.thins (thins_cancelInvocation failure)
  refine ⟨h.accounted.cancel failure nowMs,
    harranged.congr hsame.1 hsame.2.1 hsame.2.2.1 hframed.nextOperation, ?_, ?_⟩
  · intro resource hnone
    have hprompt := h.prompt.cancelInvocation failure
    unfold Invocation.cancel at hnone ⊢
    rw [hsame.2.1]
    rw [hsame.2.2.2] at hnone
    exact hprompt resource hnone
  · exact (requests_finishStatus _ _).trans (requests_cancelInvocation _ _ h.requests)

end Events

section Results

variable (config : LuaSkillConfig) (now : Now) (maximumDurationMs : Nat)

end Results

end Invocation

end Netherwick.Skills
