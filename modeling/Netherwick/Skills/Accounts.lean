import Netherwick.Skills.Runtime
import Mathlib.Data.List.Nodup

/-! # What became of every operation

Each operation that was ever asked for is in one place, or its slot was finished once. An organ
belongs to the one active operation that needs it. -/

namespace Netherwick.Skills

/-- How often the slot of an operation was finished. -/
def finishes (log : List Happening) (id : Nat) : Nat :=
  log.countP fun
    | .finished other _ => other = id
    | _ => false

@[simp] theorem finishes_nil (id : Nat) : finishes [] id = 0 := rfl

@[simp] theorem finishes_append (log more : List Happening) (id : Nat) :
    finishes (log ++ more) id = finishes log id + finishes more id := List.countP_append

@[simp] theorem finishes_enqueued (other id : Nat) : finishes [.enqueued other] id = 0 := by
  simp [finishes]

@[simp] theorem finishes_granted (other id : Nat) (resource : BodyResource) :
    finishes [.granted other resource] id = 0 := by
  simp [finishes]

@[simp] theorem finishes_finished (other id : Nat) (failure : Option SkillFailure) :
    finishes [.finished other failure] id = [other].count id := by
  simp [finishes, List.countP_cons, List.count_cons]

theorem finishes_map {α : Type} (l : List α) (f : α → Nat) (g : α → Option SkillFailure)
    (id : Nat) :
    finishes (l.map fun a => .finished (f a) (g a)) id = (l.map f).count id := by
  induction l with
  | nil => rfl
  | cons a l ih =>
    rw [List.map_cons, List.map_cons, List.count_cons, ← ih]
    simp [finishes, List.countP_cons]

theorem count_filter_add {α : Type} (l : List α) (p : α → Bool) (f : α → Nat) (id : Nat) :
    (l.map f).count id = ((l.filter fun a => !p a).map f).count id +
      ((l.filter p).map f).count id := by
  induction l with
  | nil => rfl
  | cons a l ih =>
    cases hp : p a with
    | true =>
      simp [hp, List.count_cons, ih]
      omega
    | false =>
      simp [hp, List.count_cons, ih]
      omega

theorem count_remove {α : Type} {l : List α} {f : α → Nat} (hl : (l.map f).Nodup) {a : α}
    (ha : a ∈ l) (id : Nat) :
    (l.map f).count id = ((l.filter fun b => f b ≠ f a).map f).count id + [f a].count id := by
  have hfilter : (l.filter fun b => f b ≠ f a).map f = (l.map f).filter (· ≠ f a) := by
    rw [List.filter_map]
    rfl
  rw [hfilter]
  by_cases hid : id = f a
  · subst hid
    rw [List.count_eq_one_of_mem hl (List.mem_map_of_mem ha), List.count_eq_zero.mpr (by simp)]
    simp
  · have hother : [f a].count id = 0 := List.count_eq_zero.mpr (by simpa using hid)
    rw [List.count_filter (by simpa using hid), hother]
    rfl

namespace Invocation

/-- The requests that wait for an organ. -/
def waiting (invocation : Invocation) : List OperationRequest :=
  BodyResource.all.flatMap invocation.waiters

def activeIds (invocation : Invocation) : List Nat :=
  invocation.active.map fun active => active.request.id

/-- The operations whose slots are open. -/
def live (invocation : Invocation) : List Nat :=
  invocation.activeIds ++ invocation.waiting.map OperationRequest.id ++
    invocation.requests.map OperationRequest.id

/-- The account of all operations. The loose ones are those that are just being moved. -/
structure Accounted (invocation : Invocation) (loose : List Nat) : Prop where
  account : ∀ id, invocation.log.count (.enqueued id) =
    invocation.live.count id + loose.count id + finishes invocation.log id
  once : ∀ id, invocation.log.count (.enqueued id) ≤ 1
  fresh : ∀ id, invocation.bridge.nextOperation ≤ id → invocation.log.count (.enqueued id) = 0
  owned : ∀ resource id, invocation.owners resource = some id ↔
    ∃ active ∈ invocation.active, active.request.id = id ∧
      active.request.operation.resource = some resource
  waits : ∀ resource, ∀ request ∈ invocation.waiters resource,
    request.operation.resource = some resource
  settled : ∀ id resource, .granted id resource ∈ invocation.log →
    (∃ active ∈ invocation.active, active.request.id = id ∧
      active.request.operation.resource = some resource) ∨
    .finished id none ∈ invocation.log ∨ .stopped id resource ∈ invocation.log

section Accounts

variable {invocation : Invocation} {loose : List Nat}

theorem Accounted.nodup (h : Accounted invocation loose) : invocation.activeIds.Nodup := by
  rw [List.nodup_iff_count_le_one]
  intro id
  have haccount := h.account id
  have honce := h.once id
  simp only [live, List.count_append] at haccount
  omega

theorem Accounted.unique (h : Accounted invocation loose) {a b : ActiveOperation}
    (ha : a ∈ invocation.active) (hb : b ∈ invocation.active)
    (heq : a.request.id = b.request.id) : a = b :=
  List.inj_on_of_nodup_map h.nodup ha hb heq

theorem Accounted.congr {other : Invocation} (h : Accounted invocation loose)
    (hactive : other.active = invocation.active) (howners : other.owners = invocation.owners)
    (hwaiters : other.waiters = invocation.waiters)
    (hrequests : other.requests = invocation.requests) (hlog : other.log = invocation.log)
    (hnext : other.bridge.nextOperation = invocation.bridge.nextOperation) :
    Accounted other loose := by
  have hlive : other.live = invocation.live := by
    simp only [live, activeIds, waiting, hactive, hwaiters, hrequests]
  refine ⟨?_, ?_, ?_, ?_, ?_, ?_⟩
  · rw [hlog, hlive]
    exact h.account
  · rw [hlog]
    exact h.once
  · rw [hlog, hnext]
    exact h.fresh
  · rw [howners, hactive]
    exact h.owned
  · rw [hwaiters]
    exact h.waits
  · rw [hlog, hactive]
    exact h.settled

theorem Accounted.write {other : Invocation} {loose' : List Nat} {happened : List Happening}
    (h : Accounted invocation loose) (hlog : other.log = invocation.log ++ happened)
    (hnext : other.bridge.nextOperation = invocation.bridge.nextOperation)
    (hnone : ∀ id, .enqueued id ∉ happened)
    (hlive : ∀ id, invocation.live.count id + loose.count id =
      other.live.count id + loose'.count id + finishes happened id)
    (howned : ∀ resource id, other.owners resource = some id ↔
      ∃ active ∈ other.active, active.request.id = id ∧
        active.request.operation.resource = some resource)
    (hwaits : ∀ resource, ∀ request ∈ other.waiters resource,
      request.operation.resource = some resource)
    (hkept : ∀ active ∈ invocation.active, ∀ resource,
      active.request.operation.resource = some resource →
      active ∈ other.active ∨ .finished active.request.id none ∈ happened ∨
        .stopped active.request.id resource ∈ happened)
    (hgranted : ∀ id resource, .granted id resource ∈ happened →
      ∃ active ∈ other.active, active.request.id = id ∧
        active.request.operation.resource = some resource) :
    Accounted other loose' := by
  have hcount : ∀ id, other.log.count (.enqueued id) = invocation.log.count (.enqueued id) := by
    intro id
    rw [hlog, List.count_append, List.count_eq_zero.mpr (hnone id), Nat.add_zero]
  refine ⟨?_, ?_, ?_, howned, hwaits, ?_⟩
  · intro id
    rw [hcount, h.account, hlog, finishes_append]
    have hmoved := hlive id
    omega
  · intro id
    rw [hcount]
    exact h.once id
  · intro id hid
    rw [hcount]
    exact h.fresh id (hnext ▸ hid)
  · intro id resource hmem
    rw [hlog] at hmem ⊢
    obtain hold | hnew := List.mem_append.mp hmem
    · obtain ⟨active, hactive, rfl, hresource⟩ | hfinished | hstopped := h.settled id resource hold
      · obtain hstays | hfinished | hstopped := hkept active hactive resource hresource
        · exact .inl ⟨active, hstays, rfl, hresource⟩
        · exact .inr (.inl (List.mem_append_right _ hfinished))
        · exact .inr (.inr (List.mem_append_right _ hstopped))
      · exact .inr (.inl (List.mem_append_left _ hfinished))
      · exact .inr (.inr (List.mem_append_left _ hstopped))
    · exact .inl (hgranted id resource hnew)

theorem Accounted.polled (h : Accounted invocation loose) (operations : List ActiveOperation) :
    Accounted (invocation.note (operations.map fun active =>
      .polled active.request.id active.request.operation)) loose := by
  have hlog : (invocation.note (operations.map fun active =>
      .polled active.request.id active.request.operation)).log = invocation.log ++
        operations.map fun active => Happening.polled active.request.id active.request.operation := rfl
  apply h.write hlog rfl
  · simp
  · intro id
    have hnone : finishes (operations.map fun active =>
        .polled active.request.id active.request.operation) id = 0 := by
      simp [finishes]
    rw [hnone]
    rfl
  · exact h.owned
  · exact h.waits
  · intro active hactive _ _
    exact .inl hactive
  · simp

theorem Accounted.count_removeActive (h : Accounted invocation loose) {ended : ActiveOperation}
    (hended : ended ∈ invocation.active) (id : Nat) :
    invocation.live.count id = (invocation.removeActive ended.request.id).live.count id +
      [ended.request.id].count id := by
  have hactive := count_remove h.nodup hended id
  simp only [live, activeIds, waiting, requests, removeActive, List.count_append] at hactive ⊢
  omega

theorem Accounted.mem_removeActive (h : Accounted invocation loose) {ended active : ActiveOperation}
    (hended : ended ∈ invocation.active) :
    active ∈ (invocation.removeActive ended.request.id).active ↔
      active ∈ invocation.active ∧ active ≠ ended := by
  unfold removeActive
  rw [List.mem_filter]
  constructor
  · rintro ⟨hactive, hid⟩
    refine ⟨hactive, ?_⟩
    rintro rfl
    simp at hid
  · rintro ⟨hactive, hne⟩
    refine ⟨hactive, ?_⟩
    simpa using fun heq => hne (h.unique hactive hended heq)

theorem Accounted.owned_removeActive (h : Accounted invocation loose) {ended : ActiveOperation}
    (hended : ended ∈ invocation.active) {resource : BodyResource}
    (hother : ended.request.operation.resource ≠ some resource) (id : Nat) :
    invocation.owners resource = some id ↔
      ∃ active ∈ (invocation.removeActive ended.request.id).active, active.request.id = id ∧
        active.request.operation.resource = some resource := by
  rw [h.owned]
  constructor
  · rintro ⟨active, hactive, hid, hresource⟩
    refine ⟨active, (h.mem_removeActive hended).mpr ⟨hactive, ?_⟩, hid, hresource⟩
    rintro rfl
    exact hother hresource
  · rintro ⟨active, hactive, hid, hresource⟩
    exact ⟨active, ((h.mem_removeActive hended).mp hactive).1, hid, hresource⟩

theorem Accounted.finishOperation (h : Accounted invocation loose) (id : Nat)
    (failure : Option SkillFailure) : Accounted (invocation.finishOperation id failure) loose := by
  unfold Invocation.finishOperation
  cases hfind : invocation.active.find? fun active => active.request.id = id with
  | none => exact h
  | some ended =>
    have hended : ended ∈ invocation.active := List.mem_of_find?_eq_some hfind
    have hid : ended.request.id = id := by simpa using List.find?_some hfind
    subst hid
    have hstays : ∀ active ∈ invocation.active, active ≠ ended →
        active ∈ (invocation.removeActive ended.request.id).active := fun active hactive hne =>
      (h.mem_removeActive hended).mpr ⟨hactive, hne⟩
    simp only
    cases hresource : ended.request.operation.resource with
    | none =>
      have hlog : ((invocation.removeActive ended.request.id).note
          [.finished ended.request.id failure]).log =
          invocation.log ++ [Happening.finished ended.request.id failure] := rfl
      apply h.write hlog rfl
      · simp
      · intro id
        rw [h.count_removeActive hended, finishes_finished]
        simp only [live, activeIds, waiting, requests, note]
        omega
      · intro resource id
        exact h.owned_removeActive hended (by simp [hresource]) id
      · exact h.waits
      · intro active hactive resource hneeds
        refine .inl (hstays active hactive ?_)
        rintro rfl
        cases hneeds.symm.trans hresource
      · simp
    | some resource =>
      simp only
      generalize hhappened : (if failure.isSome then
        [Happening.stopped ended.request.id resource, .finished ended.request.id failure]
        else [.finished ended.request.id failure]) = happened
      have hlog : (((invocation.removeActive ended.request.id).setOwner resource none).note
          happened).log = invocation.log ++ happened := rfl
      have hends : ∀ id, finishes happened id = [ended.request.id].count id := by
        intro id
        subst hhappened
        cases failure <;> simp [finishes, List.countP_cons, List.count_cons]
      apply h.write hlog rfl
      · subst hhappened
        cases failure <;> simp
      · intro id
        rw [h.count_removeActive hended, hends]
        simp only [live, activeIds, waiting, requests, note, setOwner]
        omega
      · intro other id
        change (if other = resource then none else invocation.owners other) = some id ↔ _
        by_cases hother : other = resource
        · subst hother
          simp only [if_true, reduceCtorEq, false_iff]
          rintro ⟨active, hactive, -, hneeds⟩
          obtain ⟨hactive, hne⟩ := (h.mem_removeActive hended).mp hactive
          have hfirst := (h.owned other _).mpr ⟨active, hactive, rfl, hneeds⟩
          have hsecond := (h.owned other _).mpr ⟨ended, hended, rfl, hresource⟩
          exact hne (h.unique hactive hended (Option.some.inj (hfirst.symm.trans hsecond)))
        · rw [if_neg hother]
          refine h.owned_removeActive hended ?_ id
          rw [hresource]
          exact fun heq => hother (Option.some.inj heq).symm
      · exact h.waits
      · intro active hactive other hneeds
        by_cases hne : active = ended
        · subst hne
          cases hresource.symm.trans hneeds
          subst hhappened
          cases failure with
          | none => exact .inr (.inl (by simp))
          | some failure => exact .inr (.inr (by simp))
        · exact .inl (hstays active hactive hne)
      · subst hhappened
        cases failure <;> simp

theorem Accounted.finishAll {α : Type} (h : Accounted invocation loose) (ended : List α)
    (id : α → Nat) (failure : α → Option SkillFailure) :
    Accounted (ended.foldl (fun invocation a =>
      invocation.finishOperation (id a) (failure a)) invocation) loose := by
  induction ended generalizing invocation with
  | nil => exact h
  | cons a ended ih => exact ih (h.finishOperation (id a) (failure a))

theorem waiting_keepWaiting (keeps : OperationRequest → Bool) :
    (invocation.keepWaiting keeps).waiting = invocation.waiting.filter keeps :=
  List.filter_flatMap.symm

theorem Accounted.dropWaiting (h : Accounted invocation loose)
    (drops : OperationRequest → Bool) (failure : OperationRequest → SkillFailure) :
    Accounted (invocation.dropWaiting drops failure) loose := by
  have hdropped : (BodyResource.all.flatMap fun resource =>
      (invocation.waiters resource).filter drops) = invocation.waiting.filter drops :=
    List.filter_flatMap.symm
  unfold Invocation.dropWaiting
  simp only
  rw [hdropped]
  have hlog : ((invocation.keepWaiting fun request => !drops request).note
      ((invocation.waiting.filter drops).map fun request =>
        .finished request.id (some (failure request)))).log = invocation.log ++
          (invocation.waiting.filter drops).map fun request =>
            Happening.finished request.id (some (failure request)) := rfl
  apply h.write hlog rfl
  · simp
  · intro id
    rw [finishes_map]
    have hcount := count_filter_add invocation.waiting drops OperationRequest.id id
    have hlive : ((invocation.keepWaiting fun request => !drops request).note
        ((invocation.waiting.filter drops).map fun request =>
          .finished request.id (some (failure request)))).live = invocation.activeIds ++
        (invocation.waiting.filter fun request => !drops request).map OperationRequest.id ++
        invocation.requests.map OperationRequest.id := by
      rw [← waiting_keepWaiting fun request => !drops request]
      rfl
    rw [hlive]
    simp only [live, List.count_append]
    omega
  · exact h.owned
  · intro resource request hrequest
    exact h.waits resource request (List.mem_filter.mp hrequest).1
  · intro active hactive _ _
    exact .inl hactive
  · simp

theorem Accounted.expireResourceWaits (h : Accounted invocation loose) (nowMs : Nat) :
    Accounted (invocation.expireResourceWaits nowMs) loose := h.dropWaiting _ _

theorem Accounted.dropRequests (h : Accounted invocation loose) (failure : SkillFailure) :
    Accounted (invocation.dropRequests failure) loose := by
  have hlog : (invocation.dropRequests failure).log = invocation.log ++
      invocation.requests.map fun request => Happening.finished request.id (some failure) := rfl
  apply h.write hlog rfl
  · simp
  · intro id
    rw [finishes_map]
    simp only [live, activeIds, waiting, requests, Invocation.dropRequests, note,
      List.count_append, List.map_nil, List.count_nil]
    omega
  · exact h.owned
  · exact h.waits
  · intro active hactive _ _
    exact .inl hactive
  · simp

theorem Accounted.acquire {request : OperationRequest} {resource : BodyResource} {nowMs : Nat}
    (h : Accounted invocation (request.id :: loose)) (hfree : invocation.owners resource = none)
    (hneeds : request.operation.resource = some resource) :
    Accounted (invocation.acquire request resource nowMs) loose := by
  have hlog : (invocation.acquire request resource nowMs).log =
      invocation.log ++ [Happening.granted request.id resource] := rfl
  have hactive : (invocation.acquire request resource nowMs).active =
      invocation.active ++ [⟨request, nowMs⟩] := rfl
  apply h.write hlog rfl
  · simp
  · intro id
    have hlive : (invocation.acquire request resource nowMs).live =
        (invocation.activeIds ++ [request.id]) ++ invocation.waiting.map OperationRequest.id ++
          invocation.requests.map OperationRequest.id := by
      unfold live activeIds
      rw [hactive, List.map_append]
      rfl
    rw [hlive, finishes_granted, List.count_cons]
    simp only [live, List.count_append, List.count_singleton]
    omega
  · intro other id
    change (if other = resource then some request.id else invocation.owners other) = some id ↔ _
    rw [hactive]
    by_cases hother : other = resource
    · subst hother
      rw [if_pos rfl]
      constructor
      · intro heq
        exact ⟨⟨request, nowMs⟩, by simp, Option.some.inj heq, hneeds⟩
      · rintro ⟨active, hmem, hid, hresource⟩
        obtain hold | hnew := List.mem_append.mp hmem
        · have howner := (h.owned other _).mpr ⟨active, hold, rfl, hresource⟩
          cases hfree.symm.trans howner
        · rw [List.mem_singleton.mp hnew] at hid
          exact congrArg some hid
    · rw [if_neg hother, h.owned]
      constructor
      · rintro ⟨active, hmem, hid, hresource⟩
        exact ⟨active, List.mem_append_left _ hmem, hid, hresource⟩
      · rintro ⟨active, hmem, hid, hresource⟩
        obtain hold | hnew := List.mem_append.mp hmem
        · exact ⟨active, hold, hid, hresource⟩
        · rw [List.mem_singleton.mp hnew] at hresource
          exact absurd (Option.some.inj (hneeds.symm.trans hresource)).symm hother
  · exact h.waits
  · intro active hmem _ _
    exact .inl (List.mem_append_left _ hmem)
  · intro id other hgranted
    rw [List.mem_singleton] at hgranted
    cases hgranted
    exact ⟨⟨request, nowMs⟩, by simp [hactive], rfl, hneeds⟩

theorem Accounted.activate {request : OperationRequest} {nowMs : Nat}
    (h : Accounted invocation (request.id :: loose)) (hneeds : request.operation.resource = none) :
    Accounted { invocation with active := invocation.active ++ [⟨request, nowMs⟩] } loose := by
  generalize hother : ({ invocation with active := invocation.active ++ [⟨request, nowMs⟩] } :
    Invocation) = other
  have hactive : other.active = invocation.active ++ [⟨request, nowMs⟩] := by
    rw [← hother]
  have hlog : other.log = invocation.log ++ [] := by
    rw [← hother, List.append_nil]
    rfl
  apply h.write hlog (by rw [← hother])
  · simp
  · intro id
    have hlive : other.live = (invocation.activeIds ++ [request.id]) ++
        invocation.waiting.map OperationRequest.id ++
          invocation.requests.map OperationRequest.id := by
      unfold live activeIds
      rw [hactive, List.map_append, ← hother]
      rfl
    rw [hlive, finishes_nil, List.count_cons]
    simp only [live, List.count_append, List.count_singleton]
    omega
  · intro resource id
    rw [hactive, ← hother, h.owned]
    constructor
    · rintro ⟨active, hmem, hid, hresource⟩
      exact ⟨active, List.mem_append_left _ hmem, hid, hresource⟩
    · rintro ⟨active, hmem, hid, hresource⟩
      obtain hold | hnew := List.mem_append.mp hmem
      · exact ⟨active, hold, hid, hresource⟩
      · rw [List.mem_singleton.mp hnew] at hresource
        cases hneeds.symm.trans hresource
  · rw [← hother]
    exact h.waits
  · intro active hmem _ _
    rw [hactive]
    exact .inl (List.mem_append_left _ hmem)
  · simp

theorem count_setWaiters (invocation : Invocation) (resource : BodyResource)
    (waiters : List OperationRequest) (id : Nat) :
    ((invocation.setWaiters resource waiters).waiting.map OperationRequest.id).count id +
        ((invocation.waiters resource).map OperationRequest.id).count id =
      (invocation.waiting.map OperationRequest.id).count id +
        (waiters.map OperationRequest.id).count id := by
  cases resource <;> simp [waiting, BodyResource.all, setWaiters] <;> omega

theorem count_live_setWaiters (invocation : Invocation) (resource : BodyResource)
    (waiters : List OperationRequest) (id : Nat) :
    (invocation.setWaiters resource waiters).live.count id +
        ((invocation.waiters resource).map OperationRequest.id).count id =
      invocation.live.count id + (waiters.map OperationRequest.id).count id := by
  have hcount := count_setWaiters invocation resource waiters id
  have hactive : (invocation.setWaiters resource waiters).activeIds = invocation.activeIds := rfl
  have hrequests : (invocation.setWaiters resource waiters).requests = invocation.requests := rfl
  simp only [live, hactive, hrequests, List.count_append]
  omega

theorem Accounted.setWaiters {loose' : List Nat} {resource : BodyResource}
    {waiters : List OperationRequest} (h : Accounted invocation loose)
    (hcount : ∀ id, ((invocation.waiters resource).map OperationRequest.id).count id +
      loose.count id = (waiters.map OperationRequest.id).count id + loose'.count id)
    (hneeds : ∀ request ∈ waiters, request.operation.resource = some resource) :
    Accounted (invocation.setWaiters resource waiters) loose' := by
  have hlog : (invocation.setWaiters resource waiters).log = invocation.log ++ [] := by
    rw [List.append_nil]
    rfl
  apply h.write hlog rfl
  · simp
  · intro id
    have hlive := count_live_setWaiters invocation resource waiters id
    have hmoved := hcount id
    rw [finishes_nil]
    omega
  · exact h.owned
  · intro other request hrequest
    by_cases hother : other = resource
    · subst hother
      apply hneeds
      simpa [Invocation.setWaiters] using hrequest
    · apply h.waits
      simpa [Invocation.setWaiters, hother] using hrequest
  · intro active hmem _ _
    exact .inl hmem
  · simp

theorem Accounted.grantWaitingOperation (h : Accounted invocation loose) (nowMs : Nat)
    (resource : BodyResource) :
    Accounted (invocation.grantWaitingOperation nowMs resource) loose := by
  unfold Invocation.grantWaitingOperation
  split
  · rename_i request rest hfree hwaiters
    have hneeds := h.waits resource
    rw [hwaiters] at hneeds
    have hloose : Accounted (invocation.setWaiters resource rest) (request.id :: loose) := by
      apply h.setWaiters
      · intro id
        rw [hwaiters, List.map_cons, List.count_cons, List.count_cons]
        omega
      · intro other hother
        exact hneeds other (List.mem_cons_of_mem _ hother)
    exact hloose.acquire hfree (hneeds request List.mem_cons_self)
  · exact h

theorem Accounted.grantWaitingOperations (h : Accounted invocation loose) (nowMs : Nat) :
    Accounted (invocation.grantWaitingOperations nowMs) loose := by
  unfold Invocation.grantWaitingOperations
  induction BodyResource.all generalizing invocation with
  | nil => exact h
  | cons resource rest ih => exact ih (h.grantWaitingOperation nowMs resource)

theorem Accounted.refuse {id : Nat} (h : Accounted invocation (id :: loose))
    (failure : SkillFailure) :
    Accounted (invocation.note [.finished id (some failure)]) loose := by
  have hlog : (invocation.note [.finished id (some failure)]).log =
      invocation.log ++ [Happening.finished id (some failure)] := rfl
  apply h.write hlog rfl
  · simp
  · intro other
    rw [finishes_finished, List.count_cons, List.count_singleton]
    change _ = invocation.live.count other + _ + _
    omega
  · exact h.owned
  · exact h.waits
  · intro active hmem _ _
    exact .inl hmem
  · simp

theorem Accounted.drainRequest {request : OperationRequest}
    (h : Accounted invocation (request.id :: loose)) (nowMs : Nat) :
    Accounted (invocation.drainRequest nowMs request) loose := by
  unfold Invocation.drainRequest
  cases hneeds : request.operation.resource with
  | none => exact h.activate hneeds
  | some resource =>
    simp only
    split
    · exact h.refuse _
    · split
      · apply h.setWaiters
        · intro id
          rw [List.map_append, List.count_append, List.count_cons, List.map_singleton,
            List.count_singleton]
          omega
        · intro other hother
          obtain hold | hnew := List.mem_append.mp hother
          · exact h.waits resource other hold
          · rw [List.mem_singleton.mp hnew]
            exact hneeds
      · rename_i howner
        exact h.acquire (by simpa using howner) hneeds

theorem Accounted.dequeued (h : Accounted invocation []) :
    Accounted { invocation with bridge := { invocation.bridge with requests := [] } }
      (invocation.requests.map OperationRequest.id) := by
  have hlog : Invocation.log { invocation with
      bridge := { invocation.bridge with requests := [] } } = invocation.log ++ [] := by
    rw [List.append_nil]
    rfl
  apply h.write hlog rfl
  · simp
  · intro id
    rw [finishes_nil]
    simp only [live, activeIds, waiting, requests, List.count_append, List.map_nil, List.count_nil]
    omega
  · exact h.owned
  · exact h.waits
  · intro active hmem _ _
    exact .inl hmem
  · simp

theorem Accounted.drainNewRequests (h : Accounted invocation []) (nowMs : Nat) :
    Accounted (invocation.drainNewRequests nowMs) [] := by
  have hfold : ∀ (requests : List OperationRequest) (invocation : Invocation),
      Accounted invocation (requests.map OperationRequest.id) →
      Accounted (requests.foldl (Invocation.drainRequest nowMs) invocation) [] := by
    intro requests
    induction requests with
    | nil =>
      intro invocation hstart
      exact hstart
    | cons request rest ih =>
      intro invocation hstart
      exact ih _ (Accounted.drainRequest hstart nowMs)
  exact hfold _ _ h.dequeued

theorem Accounted.enqueue {maximumOperationMs child : Nat} {operation : HostOperation}
    (h : Accounted invocation loose) :
    Accounted { invocation with
      bridge := invocation.bridge.enqueue child operation maximumOperationMs } loose := by
  generalize hother : ({ invocation with
    bridge := invocation.bridge.enqueue child operation maximumOperationMs } : Invocation) = other
  have hnew := h.fresh invocation.bridge.nextOperation (Nat.le_refl _)
  have hnext : other.bridge.nextOperation = invocation.bridge.nextOperation + 1 := by
    rw [← hother]
    unfold Bridge.enqueue
    simp only
    split <;> rfl
  have hactive : other.active = invocation.active := by rw [← hother]
  have hwaiting : other.waiting = invocation.waiting := by
    rw [← hother]
    rfl
  -- The number of the new operation is written once; it is queued, or finished at once.
  obtain ⟨happened, hlog, hcount, hfinishes, hsilent⟩ : ∃ happened,
      other.log = invocation.log ++ happened ∧
      (∀ id, happened.count (.enqueued id) = [invocation.bridge.nextOperation].count id) ∧
      (∀ id, (other.requests.map OperationRequest.id).count id + finishes happened id =
        (invocation.requests.map OperationRequest.id).count id +
          [invocation.bridge.nextOperation].count id) ∧
      ∀ id resource, .granted id resource ∉ happened := by
    rw [← hother]
    unfold Bridge.enqueue log requests
    simp only
    split
    · refine ⟨_, rfl, ?_, ?_, ?_⟩
      · intro id
        simp [List.count_cons]
      · intro id
        simp [finishes, List.countP_cons, List.count_cons]
      · simp
    · refine ⟨_, rfl, ?_, ?_, ?_⟩
      · intro id
        simp [List.count_cons]
      · intro id
        simp
      · simp
  refine ⟨?_, ?_, ?_, ?_, ?_, ?_⟩
  · intro id
    have haccount := h.account id
    have hmoved := hfinishes id
    rw [hlog, List.count_append, hcount, finishes_append]
    simp only [live, activeIds, hactive, hwaiting, List.count_append] at haccount ⊢
    omega
  · intro id
    have honce := h.once id
    rw [hlog, List.count_append, hcount, List.count_singleton]
    by_cases hid : invocation.bridge.nextOperation = id
    · subst hid
      simp [hnew]
    · simpa [hid] using honce
  · intro id hid
    rw [hnext] at hid
    rw [hlog, List.count_append, hcount, h.fresh id (by omega), List.count_singleton]
    have hne : invocation.bridge.nextOperation ≠ id := by omega
    simp [hne]
  · rw [hactive, ← hother]
    exact h.owned
  · rw [← hother]
    exact h.waits
  · intro id resource hgranted
    rw [hlog] at hgranted ⊢
    rw [hactive]
    obtain hold | hnone := List.mem_append.mp hgranted
    · obtain hmem | hfinished | hstopped := h.settled id resource hold
      · exact .inl hmem
      · exact .inr (.inl (List.mem_append_left _ hfinished))
      · exact .inr (.inr (List.mem_append_left _ hstopped))
    · exact absurd hnone (hsilent id resource)

theorem Accounted.scripted {config : LuaSkillConfig} (h : Accounted invocation loose)
    (actions : List BridgeAction) : Accounted (invocation.scripted config actions) loose := by
  induction actions generalizing invocation with
  | nil => exact h
  | cons action rest ih =>
    have hfirst : Accounted { invocation with
        bridge := invocation.bridge.perform config.maximumOperationMs action } loose := by
      cases action with
      | enqueue => exact h.enqueue
      | allocateChildren | cancelChildren | finishChildren | setHazard =>
        exact h.congr rfl rfl rfl rfl rfl rfl
    exact ih hfirst

theorem Accounted.cancelInvocation (h : Accounted invocation loose) (failure : SkillFailure) :
    Accounted (invocation.cancelInvocation failure) loose := by
  unfold Invocation.cancelInvocation
  split
  · exact h
  · have hfinished := h.finishAll (invocation.active.map fun active => active.request.id)
      (fun id => id) fun _ => some failure
    have hdropped := (hfinished.dropWaiting (fun _ => true) fun _ => failure).dropRequests failure
    exact hdropped.congr rfl rfl rfl rfl rfl rfl

theorem Accounted.serviceChildCancellations (h : Accounted invocation loose) :
    Accounted invocation.serviceChildCancellations loose := by
  have hfold : ∀ (cancellations : List (List Nat × SkillFailure)) (invocation : Invocation),
      Accounted invocation loose →
      Accounted (cancellations.foldl (fun invocation cancellation =>
        invocation.serviceCancellation cancellation.1 cancellation.2) invocation) loose := by
    intro cancellations
    induction cancellations with
    | nil =>
      intro invocation hstart
      exact hstart
    | cons cancellation rest ih =>
      intro invocation hstart
      apply ih
      unfold Invocation.serviceCancellation
      exact (Accounted.finishAll hstart _ (fun id => id) fun _ =>
        some cancellation.2).dropWaiting _ _
  exact hfold _ _ (h.congr rfl rfl rfl rfl rfl rfl)

theorem Accounted.preempted {input : StepInput} (h : Accounted invocation loose) :
    Accounted (invocation.preempted input) loose := by
  unfold Invocation.preempted
  have hbegun : Accounted { invocation with
      bridge := { invocation.bridge with snapshot := some input.now }
      status :=
        { invocation.status with phase := .running, updatedAtMs := input.now.tMs } } loose :=
    h.congr rfl rfl rfl rfl rfl rfl
  split
  · simp only
    split
    · exact (hbegun.cancelInvocation _).cancelInvocation _
    · exact hbegun.cancelInvocation _
  · simp only
    split
    · exact hbegun.cancelInvocation _
    · exact hbegun

theorem Accounted.prepared {config : LuaSkillConfig} {input : StepInput}
    (h : Accounted invocation loose) : Accounted (invocation.prepared config input) loose := by
  unfold Invocation.prepared Invocation.serviceActiveOperations
  apply Accounted.grantWaitingOperations
  apply Accounted.finishAll
  apply Accounted.polled
  unfold Invocation.expireResourceWaits
  apply Accounted.dropWaiting
  exact h.preempted.serviceChildCancellations

theorem Accounted.concluded {config : LuaSkillConfig} (h : Accounted invocation loose)
    (ending : PollEnding) : Accounted (invocation.concluded config ending) loose := by
  cases ending with
  | panicked | overBudget | failed => exact h.cancelInvocation _
  | returned => exact h.congr rfl rfl rfl rfl rfl rfl
  | pending => exact h

theorem Accounted.finishStatus (h : Accounted invocation loose) (nowMs : Nat) :
    Accounted (invocation.finishStatus nowMs) loose := by
  unfold Invocation.finishStatus
  repeat' split
  all_goals first | exact h | exact h.congr rfl rfl rfl rfl rfl rfl

theorem Accounted.step {config : LuaSkillConfig} {input : StepInput}
    (h : Accounted invocation []) : Accounted (invocation.step config input) [] := by
  unfold Invocation.step
  apply Accounted.finishStatus
  apply Accounted.grantWaitingOperations
  apply Accounted.drainNewRequests
  unfold Invocation.polled
  split
  · exact h.prepared
  · exact (h.prepared.scripted _).concluded _

theorem Accounted.cancel (h : Accounted invocation loose) (failure : SkillFailure) (nowMs : Nat) :
    Accounted (invocation.cancel failure nowMs) loose :=
  (h.cancelInvocation failure).finishStatus nowMs

theorem accounted_start (now : Now) (maximumDurationMs : Nat) :
    Accounted (start now maximumDurationMs) [] := by
  refine ⟨?_, ?_, ?_, ?_, ?_, ?_⟩ <;>
    simp [start, Bridge.initial, log, live, activeIds, waiting, requests, finishes,
      BodyResource.all]

end Accounts

end Invocation

end Netherwick.Skills
