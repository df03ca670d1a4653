import Netherwick.Observatory.Ingress

/-! # What the hub keeps

An entry into the ingress queue and a retention leave the loss-intolerant events as they are; the
invariant says where every accepted event and every claimed identity is, and each orderly step of
the publishers, the worker and the writer keeps it. -/

namespace Netherwick.Observatory

open Netherwick.Lib

theorem coalescible_of_hasKey {key : String} {pending : BrainEvent}
    (h : pending.hasKey key = true) : pending.isCoalescible = true := by
  cases hpolicy : pending.lossPolicy <;>
    simp_all [BrainEvent.hasKey, BrainEvent.coalescingKey, BrainEvent.isCoalescible]

theorem coalescible_of_key {key : String} {event : BrainEvent}
    (h : event.coalescingKey = some key) : event.isCoalescible = true :=
  @coalescible_of_hasKey key _ (by simp [BrainEvent.hasKey, h])

theorem lossIntolerant_of_coalescible {event : BrainEvent} (hvalid : event.validate = .ok ())
    (h : event.isCoalescible = true) : event.lossIntolerant = false := by
  cases hcritical : event.lossIntolerant with
  | false => rfl
  | true => simp [(BrainEvent.lossIntolerant_of_valid hvalid).mp hcritical] at h

def AllValid (queue : List BrainEvent) : Prop := ∀ event ∈ queue, event.validate = .ok ()

def critical (queue : List BrainEvent) : List BrainEvent := queue.filter BrainEvent.lossIntolerant

@[simp] theorem critical_append (queue more : List BrainEvent) :
    critical (queue ++ more) = critical queue ++ critical more := List.filter_append ..

theorem length_replacePending (key : String) (event : BrainEvent) (queue : List BrainEvent) :
    (replacePending key event queue).length = queue.length := by
  induction queue with
  | nil => rfl
  | cons pending rest ih =>
    simp only [replacePending]
    split <;> simp [ih]

theorem mem_replacePending {key : String} {event other : BrainEvent} {queue : List BrainEvent}
    (h : other ∈ replacePending key event queue) : other ∈ queue ∨ other = event := by
  induction queue with
  | nil => exact .inl h
  | cons pending rest ih =>
    simp only [replacePending] at h
    split at h <;> grind

theorem critical_replacePending {key : String} {event : BrainEvent} {queue : List BrainEvent}
    (hqueue : AllValid queue) (hevent : event.lossIntolerant = false) :
    critical (replacePending key event queue) = critical queue := by
  induction queue with
  | nil => rfl
  | cons pending rest ih =>
    have hpending := hqueue pending (by simp)
    by_cases hkey : pending.hasKey key = true
    · have hcoalescible := lossIntolerant_of_coalescible hpending (coalescible_of_hasKey hkey)
      simp [replacePending, hkey, critical, hcoalescible, hevent]
    · have hrest := ih fun other hother => hqueue other (by simp [hother])
      simp only [critical] at hrest
      simp [replacePending, hkey, critical, List.filter_cons, hrest]

theorem critical_eraseP {queue : List BrainEvent} (hqueue : AllValid queue) :
    critical (queue.eraseP BrainEvent.isCoalescible) = critical queue := by
  induction queue with
  | nil => rfl
  | cons pending rest ih =>
    by_cases hcoalescible : pending.isCoalescible = true
    · have hpending := lossIntolerant_of_coalescible (hqueue pending (by simp)) hcoalescible
      simp [hcoalescible, critical, hpending]
    · have hrest := ih fun other hother => hqueue other (by simp [hother])
      simp only [critical] at hrest
      simp [hcoalescible, critical, List.filter_cons, hrest]

/-- What an entry that succeeds does to the queue. -/
structure Enters (capacity : Nat) (queue : List BrainEvent) (event : BrainEvent)
    (next : List BrainEvent) (outcome : PublishOutcome) : Prop where
  critical : critical next = critical queue
    ++ if event.lossIntolerant && outcome = .queued then [event] else []
  queued : event.lossIntolerant = true → outcome = .queued
  valid : AllValid next
  length_le : queue.length ≤ capacity → next.length ≤ capacity

theorem pushIngress_ok {capacity : Nat} {queue next : List BrainEvent} {event : BrainEvent}
    {outcome : PublishOutcome} (hcapacity : 0 < capacity) (hqueue : AllValid queue)
    (hevent : event.validate = .ok ())
    (h : pushIngress capacity queue event = .ok (next, outcome)) :
    Enters capacity queue event next outcome := by
  have hone : critical [event] = if event.lossIntolerant = true then [event] else [] := by
    simp [critical, List.filter_cons]
  cases hkey : event.coalescingKey with
  | some key =>
    have htelemetry := lossIntolerant_of_coalescible hevent (coalescible_of_key hkey)
    simp only [pushIngress, hkey] at h
    split at h
    · obtain ⟨rfl, rfl⟩ := Prod.mk.inj (Except.ok.inj h)
      refine ⟨by simp [critical_replacePending hqueue htelemetry, htelemetry], by simp [htelemetry],
        ?_, by simp [length_replacePending]⟩
      intro other hother
      obtain hold | rfl := mem_replacePending hother
      · exact hqueue other hold
      · exact hevent
    · split at h
      · obtain ⟨rfl, rfl⟩ := Prod.mk.inj (Except.ok.inj h)
        exact ⟨by simp [htelemetry], by simp [htelemetry], hqueue, id⟩
      · obtain ⟨rfl, rfl⟩ := Prod.mk.inj (Except.ok.inj h)
        refine ⟨by simp [hone, htelemetry], by simp, ?_, by simp; omega⟩
        intro other hother
        obtain hold | rfl := by simpa using hother
        · exact hqueue other hold
        · exact hevent
  | none =>
    simp only [pushIngress, hkey] at h
    split at h
    · split at h
      · rename_i hany
        obtain ⟨rfl, rfl⟩ := Prod.mk.inj (Except.ok.inj h)
        obtain ⟨pending, hmem, hcoalescible⟩ := List.any_eq_true.mp hany
        have hlength := List.length_eraseP_of_mem hmem hcoalescible
        refine ⟨by simp [critical_eraseP hqueue, hone], by simp, ?_, ?_⟩
        · intro other hother
          obtain hold | rfl := by simpa using hother
          · exact hqueue other (List.mem_of_mem_eraseP hold)
          · exact hevent
        · simp only [List.length_append, List.length_singleton, hlength]
          omega
      · cases h
    · obtain ⟨rfl, rfl⟩ := Prod.mk.inj (Except.ok.inj h)
      refine ⟨by simp [hone], by simp, ?_, by simp; omega⟩
      intro other hother
      obtain hold | rfl := by simpa using hother
      · exact hqueue other hold
      · exact hevent

theorem pushIngress_error {capacity : Nat} {queue : List BrainEvent} {event : BrainEvent}
    {error : BrainEventPublishError} (h : pushIngress capacity queue event = .error error) :
    ∀ pending ∈ queue, pending.isCoalescible = false := by
  simp only [pushIngress] at h
  split at h
  · split at h
    · cases h
    · split at h <;> cases h
  · split at h
    · split at h
      · cases h
      · rename_i hany
        simpa only [List.any_eq_true, not_exists, not_and, Bool.not_eq_true] using hany
    · cases h

theorem evicted_of_full {capacity : Nat} {history : HistoryState}
    {envelope prior : SequencedBrainEvent} (hlength : history.events.length ≤ capacity)
    (hprior : prior ∈ history.events) (hkept : prior.event.isCoalescible = false)
    (hgone : prior ∉ (history.retain capacity envelope).events) :
    ∀ other ∈ history.events, other.event.isCoalescible = false := by
  have hstays : ∀ key, prior.hasKey key = false := by
    intro key
    cases hkey : prior.hasKey key with
    | false => rfl
    | true =>
      have hcoalescible := @coalescible_of_hasKey key prior.event hkey
      simp [hkept] at hcoalescible
  have hgone' : prior ∉ expire capacity (history.coalesce capacity envelope).events :=
    fun h => hgone (by simp [HistoryState.retain, h])
  have hsame : (history.coalesce capacity envelope).events = history.events := by
    simp only [HistoryState.coalesce] at hgone' ⊢
    split
    · rename_i key hkey
      split
      · rename_i replaced hfound
        -- with one event replaced there is room, and the loop does not turn
        exfalso
        have hmem := List.mem_of_find?_eq_some hfound
        have hfoundKey := List.find?_some hfound
        have hshort := List.length_eraseP_of_mem hmem hfoundKey
        have hpos := List.length_pos_of_mem hmem
        simp only [hkey, hfound, expire] at hgone'
        rw [hshort, show history.events.length - 1 + 1 - capacity = 0 by omega] at hgone'
        exact hgone' ((List.mem_eraseP_of_neg (by simp [hstays key])).mpr hprior)
      · rfl
    · rfl
  rw [hsame, expire] at hgone'
  by_cases hfull : history.events.length = capacity
  · rw [show history.events.length + 1 - capacity = 1 by omega] at hgone'
    simp only [Function.iterate_one, expireOne] at hgone'
    split at hgone'
    · exact absurd ((List.mem_eraseP_of_neg (by simp [hkept])).mpr hprior) hgone'
    · rename_i hany
      simpa only [List.any_eq_true, not_exists, not_and, Bool.not_eq_true] using hany
  · rw [show history.events.length + 1 - capacity = 0 by omega] at hgone'
    exact absurd hprior hgone'

theorem mem_set_of_mem {α : Type} {l : List α} {index : Nat} {a b c : α} (ha : a ∈ l)
    (hb : l[index]? = some b) (hne : a ≠ b) : a ∈ l.set index c := by
  obtain ⟨other, hother⟩ := List.mem_iff_getElem?.mp ha
  have hindex : index ≠ other := by
    rintro rfl
    exact hne (Option.some.inj (hother.symm.trans hb))
  exact List.mem_iff_getElem?.mpr ⟨other, by rw [List.getElem?_set_ne hindex, hother]⟩

theorem mem_eraseIdx_of_mem {α : Type} {l : List α} {index : Nat} {a b : α} (ha : a ∈ l)
    (hb : l[index]? = some b) (hne : a ≠ b) : a ∈ l.eraseIdx index := by
  obtain ⟨other, hother⟩ := List.mem_iff_getElem?.mp ha
  have hindex : other ≠ index := by
    rintro rfl
    exact hne (Option.some.inj (hother.symm.trans hb))
  exact List.mem_eraseIdx_iff_getElem?.mpr ⟨other, hindex, hother⟩

namespace DurableSeenEventIds

theorem mem_insert {seen next : DurableSeenEventIds} {eventId other : String}
    (h : seen.insert eventId = some next) (hother : other ∈ next.order) :
    other ∈ seen.order ∨ other = eventId := by
  simp only [insert] at h
  split at h
  · cases h
  · obtain rfl := Option.some.inj h
    simpa using List.mem_of_mem_drop hother

theorem insert_eq_none {seen : DurableSeenEventIds} {eventId : String}
    (h : seen.insert eventId = none) : eventId ∈ seen.order := by
  simp only [insert] at h
  split at h
  · assumption
  · cases h

theorem mem_remove {seen : DurableSeenEventIds} {eventId other : String}
    (h : other ∈ (seen.remove eventId).order) : other ∈ seen.order ∧ other ≠ eventId := by
  have hmem := (seen.nodup.mem_erase_iff (a := other) (b := eventId)).mp h
  exact ⟨hmem.2, hmem.1⟩

end DurableSeenEventIds

namespace IngressHub

/-- All events in the order they came into the queue, numbered or not. -/
def arrived (hub : IngressHub) : List BrainEvent :=
  hub.log.map SequencedBrainEvent.event ++ hub.worker.event?.toList ++ hub.ingress

/-- Nothing that was accepted is lost or doubled, and nothing outgrows its bound. -/
structure Sound (start : Nat) (hub : IngressHub) : Prop where
  accounted : hub.accepted = critical hub.arrived
  numbers : hub.log.map SequencedBrainEvent.sequence = List.range' (start + 1) hub.log.length
  /-- A worker that has stopped has left nothing but telemetry behind. -/
  drained : hub.worker = .stopped → critical hub.ingress = []
  /-- A worker that sleeps has nothing to do, unless it is about to be notified. -/
  awake : hub.worker = .awaiting → hub.permit = false → .notifying ∉ hub.calls →
    hub.closing = 0 → hub.ingress = [] ∧ hub.closed = false
  /-- Otherwise the worker's own steps append whatever was accepted. -/
  drains : hub.worker ≠ .stopped → ¬ (hub.worker = .foundEmpty ∧ hub.closed = true) →
    .notifying ∉ hub.calls →
    ∃ inputs, (∀ input ∈ inputs, IngressInput.isWorker input = true) ∧
      hub.accepted = critical ((after step hub inputs).log.map SequencedBrainEvent.event)
  ingress_le : hub.ingress.length ≤ hub.config.ingressCapacity
  history_le : hub.history.events.length ≤ hub.config.historyCapacity

/-- What is claimed of one step. -/
structure Lawful (hub : IngressHub) (input : IngressInput) : Prop where
  ordered : input.isWorker = true → (hub.step input).arrived = hub.arrived
  evicts : ∀ prior ∈ hub.history.events, prior.event.isCoalescible = false →
    prior ∉ (hub.step input).history.events →
    ∀ other ∈ hub.history.events, other.event.isCoalescible = false
  refuses : ∀ index event durableClaimed error, input = .enter index →
    hub.calls[index]? = some (.entering event durableClaimed) →
    pushIngress hub.config.ingressCapacity hub.ingress event = .error error →
    ∀ pending ∈ hub.ingress, pending.isCoalescible = false
  /-- An event is called a duplicate only of one that is there or was handed to the writer. -/
  duplicates : ∀ index event intake, input = .claim index →
    hub.calls[index]? = some (.checked event) → hub.durable = some intake →
    intake.seen.insert event.eventId = none →
    (∃ pending ∈ hub.ingress, pending.eventId = event.eventId)
      ∨ (∃ retained, hub.worker.event? = some retained ∧ retained.eventId = event.eventId)
      ∨ event.eventId ∈ intake.handed

/-- The worker does not stop over a queue with a loss-intolerant event, and none enters once it has
stopped; no identity is claimed while another call holds it; the writer takes what it is handed. -/
structure Orderly (hub : IngressHub) (input : IngressInput) : Prop where
  stops : input = .testClosed → hub.worker = .foundEmpty → hub.closed = true →
    critical hub.ingress = []
  enters : ∀ index event durableClaimed, input = .enter index →
    hub.calls[index]? = some (.entering event durableClaimed) → event.lossIntolerant = true →
    hub.worker ≠ .stopped
  claims : ∀ index event other, input = .claim index →
    hub.calls[index]? = some (.checked event) → .entering other true ∈ hub.calls →
    other.eventId ≠ event.eventId
  takes : ∀ envelope intake, input = .handOver → hub.worker = .numbered envelope →
    envelope.event.lossIntolerant = true → hub.durable = some intake → intake.accepts = true

/-- Where the event of a claimed identity is. -/
inductive Held (hub : IngressHub) (intake : DurableIntake) (eventId : String) : Prop
  | entering (event : BrainEvent) (hcall : .entering event true ∈ hub.calls)
      (hid : event.eventId = eventId)
  | pending (event : BrainEvent) (hmem : event ∈ critical hub.ingress)
      (hid : event.eventId = eventId)
  | retained (event : BrainEvent) (hworker : hub.worker.event? = some event)
      (hcritical : event.lossIntolerant = true) (hid : event.eventId = eventId)
  | handed (hmem : eventId ∈ intake.handed)

structure Invariant (start : Nat) (hub : IngressHub) : Prop where
  ingress_pos : 0 < hub.config.ingressCapacity
  history_pos : 0 < hub.config.historyCapacity
  ingress_le : hub.ingress.length ≤ hub.config.ingressCapacity
  history_le : hub.history.events.length ≤ hub.config.historyCapacity
  valid : AllValid hub.ingress
  callsValid : ∀ event, .checked event ∈ hub.calls ∨ (∃ claimed, .entering event claimed ∈ hub.calls) →
    event.validate = .ok ()
  claimed : ∀ event, .checked event ∈ hub.calls ∨ .entering event true ∈ hub.calls →
    event.lossIntolerant = true
  accounted : hub.accepted = critical hub.arrived
  numbers : hub.log.map SequencedBrainEvent.sequence = List.range' (start + 1) hub.log.length
  next : (∃ event, hub.worker = .popped event) ∨ hub.worker.event? = none →
    hub.nextSequence = start + hub.log.length
  current : ∀ envelope, hub.worker = .numbered envelope ∨ hub.worker = .handed envelope →
    envelope.sequence = start + hub.log.length + 1 ∧ hub.nextSequence = start + hub.log.length + 1
  drained : hub.worker = .stopped → critical hub.ingress = []
  awake : hub.worker = .foundEmpty ∨ hub.worker = .awaiting → hub.permit = false →
    hub.ingress = [] ∨ .notifying ∈ hub.calls
  closes : hub.worker = .awaiting → hub.permit = false → hub.closed = true → 0 < hub.closing
  held : ∀ intake, hub.durable = some intake → ∀ eventId ∈ intake.seen.order,
    hub.Held intake eventId
  handedOver : ∀ envelope intake, hub.worker = .handed envelope →
    envelope.event.lossIntolerant = true → hub.durable = some intake →
    envelope.event.eventId ∈ intake.handed

variable {start : Nat} {hub : IngressHub}

theorem Held.mono {next : IngressHub} {intake nextIntake : DurableIntake} {eventId : String}
    (h : hub.Held intake eventId)
    (hcalls : ∀ event, .entering event true ∈ hub.calls → event.eventId = eventId →
      .entering event true ∈ next.calls)
    (hingress : ∀ event ∈ critical hub.ingress, event ∈ critical next.ingress)
    (hworker : ∀ event, hub.worker.event? = some event → next.worker.event? = some event)
    (hhanded : ∀ other ∈ intake.handed, other ∈ nextIntake.handed) :
    next.Held nextIntake eventId := by
  cases h with
  | entering event hcall hid => exact .entering event (hcalls event hcall hid) hid
  | pending event hmem hid => exact .pending event (hingress event hmem) hid
  | retained event hevent hcritical hid => exact .retained event (hworker event hevent) hcritical hid
  | handed hmem => exact .handed (hhanded _ hmem)

theorem Held.congr {next : IngressHub} {intake : DurableIntake} {eventId : String}
    (h : hub.Held intake eventId) (hcalls : next.calls = hub.calls)
    (hingress : next.ingress = hub.ingress) (hworker : next.worker.event? = hub.worker.event?) :
    next.Held intake eventId :=
  h.mono (fun _ hcall _ => hcalls ▸ hcall) (fun _ hmem => hingress ▸ hmem)
    (fun _ hevent => hworker ▸ hevent) fun _ => id

/-- What holds of the calls holds of those that are left. -/
theorem Invariant.callsLeft (h : Invariant start hub) {calls : List PublishCall}
    (hcalls : ∀ call ∈ calls, call ∈ hub.calls ∨ call = .notifying) :
    (∀ event, .checked event ∈ calls ∨ (∃ claimed, .entering event claimed ∈ calls) →
      event.validate = .ok ()) ∧
    ∀ event, .checked event ∈ calls ∨ .entering event true ∈ calls →
      event.lossIntolerant = true := by
  have hold : ∀ call, call ≠ .notifying → call ∈ calls → call ∈ hub.calls :=
    fun call hne hcall => (hcalls call hcall).resolve_right hne
  constructor
  · rintro event (hcall | ⟨claimed, hcall⟩)
    · exact h.callsValid event (.inl (hold _ (by simp) hcall))
    · exact h.callsValid event (.inr ⟨claimed, hold _ (by simp) hcall⟩)
  · rintro event (hcall | hcall)
    · exact h.claimed event (.inl (hold _ (by simp) hcall))
    · exact h.claimed event (.inr (hold _ (by simp) hcall))

theorem Invariant.callsErased (h : Invariant start hub) (index : Nat) :
    (∀ event, .checked event ∈ hub.calls.eraseIdx index ∨
      (∃ claimed, .entering event claimed ∈ hub.calls.eraseIdx index) →
      event.validate = .ok ()) ∧
    ∀ event, .checked event ∈ hub.calls.eraseIdx index ∨
      .entering event true ∈ hub.calls.eraseIdx index → event.lossIntolerant = true :=
  h.callsLeft fun _ hcall => .inl (List.mem_of_mem_eraseIdx hcall)

theorem Invariant.publish (h : Invariant start hub) (event : BrainEvent) :
    Invariant start (hub.step (.publish event)) := by
  simp only [step]
  split
  · exact h
  split
  · exact h
  rename_i hvalid
  have hfirst : ∀ other, (.checked other = hub.firstStage event
      ∨ (∃ claimed, .entering other claimed = hub.firstStage event) → other = event)
      ∧ (.checked other = hub.firstStage event ∨ .entering other true = hub.firstStage event →
        other.lossIntolerant = true) := by
    intro other
    simp only [firstStage]
    split <;> simp_all
  exact
    { h with
      callsValid := by
        intro other hcall
        simp only [List.mem_append, List.mem_singleton] at hcall
        by_cases hnew : .checked other = hub.firstStage event
            ∨ ∃ claimed, .entering other claimed = hub.firstStage event
        · rw [(hfirst other).1 hnew]
          exact hvalid
        · exact h.callsValid other (by grind)
      claimed := by
        intro other hcall
        simp only [List.mem_append, List.mem_singleton] at hcall
        by_cases hnew : .checked other = hub.firstStage event
            ∨ .entering other true = hub.firstStage event
        · exact (hfirst other).2 hnew
        · exact h.claimed other (by grind)
      awake := fun hworker hpermit =>
        (h.awake hworker hpermit).imp_right fun hcall => List.mem_append_left _ hcall
      held := fun intake hintake eventId hseen =>
        (h.held intake hintake eventId hseen).mono
          (fun _ hcall _ => List.mem_append_left _ hcall) (fun _ => id) (fun _ => id) fun _ => id }

theorem Invariant.claim (h : Invariant start hub) (index : Nat) :
    Invariant start (hub.step (.claim index)) := by
  simp only [step]
  split
  · rename_i event intake hcall hintake
    have hevent := h.callsValid event (.inl (List.mem_of_getElem? hcall))
    have hcritical := h.claimed event (.inl (List.mem_of_getElem? hcall))
    split
    · rename_i seen hseen
      exact
        { h with
          callsValid := by
            intro other hother
            by_cases hnew : other = event
            · exact hnew ▸ hevent
            · exact h.callsValid other (by
                obtain hother | ⟨claimed, hother⟩ := hother
                · exact .inl (by have := List.mem_or_eq_of_mem_set hother; grind)
                · exact .inr ⟨claimed, by have := List.mem_or_eq_of_mem_set hother; grind⟩)
          claimed := by
            intro other hother
            by_cases hnew : other = event
            · exact hnew ▸ hcritical
            · exact h.claimed other (by
                obtain hother | hother := hother
                · exact .inl (by have := List.mem_or_eq_of_mem_set hother; grind)
                · exact .inr (by have := List.mem_or_eq_of_mem_set hother; grind))
          awake := fun hworker hpermit =>
            (h.awake hworker hpermit).imp_right fun hmem => mem_set_of_mem hmem hcall (by simp)
          held := by
            intro next hnext eventId hmem
            obtain rfl := Option.some.inj hnext
            obtain hold | rfl := DurableSeenEventIds.mem_insert hseen hmem
            · exact (h.held intake hintake eventId hold).mono
                (fun _ hother _ => mem_set_of_mem hother hcall (by simp)) (fun _ => id)
                (fun _ => id) fun _ => id
            · exact .entering event (List.mem_set (List.getElem?_eq_some_iff.mp hcall).1 _) rfl
          handedOver := by
            intro envelope next hworker henvelope hnext
            obtain rfl := Option.some.inj hnext
            exact h.handedOver envelope intake hworker henvelope hintake }
    · exact
        { h with
          callsValid := (h.callsErased index).1
          claimed := (h.callsErased index).2
          awake := fun hworker hpermit =>
            (h.awake hworker hpermit).imp_right fun hmem => mem_eraseIdx_of_mem hmem hcall (by simp)
          held := fun next hnext eventId hmem =>
            (h.held next hnext eventId hmem).mono
              (fun _ hother _ => mem_eraseIdx_of_mem hother hcall (by simp)) (fun _ => id)
              (fun _ => id) fun _ => id }
  · exact h

theorem Invariant.notify (h : Invariant start hub) (index : Nat) :
    Invariant start (hub.step (.notify index)) := by
  simp only [step]
  split
  · rename_i hcall
    exact
      { h with
        callsValid := (h.callsErased index).1
        claimed := (h.callsErased index).2
        awake := by simp
        closes := by simp
        held := fun next hnext eventId hmem =>
          (h.held next hnext eventId hmem).mono
            (fun _ hother _ => mem_eraseIdx_of_mem hother hcall (by simp)) (fun _ => id)
            (fun _ => id) fun _ => id }
  · exact h

theorem Invariant.close (h : Invariant start hub) : Invariant start (hub.step .close) :=
  { h with
    closes := fun _ _ _ => Nat.succ_pos _
    held := fun next hnext eventId hmem => (h.held next hnext eventId hmem).congr rfl rfl rfl }

theorem Invariant.closeNotify (h : Invariant start hub) :
    Invariant start (hub.step .closeNotify) := by
  simp only [step]
  split
  · exact h
  · exact
      { h with
        awake := by simp
        closes := by simp
        held := fun next hnext eventId hmem => (h.held next hnext eventId hmem).congr rfl rfl rfl }

theorem Invariant.look (h : Invariant start hub) : Invariant start (hub.step .look) := by
  simp only [step]
  split
  · rename_i event rest hworker hingress
    have hlength := h.ingress_le
    simp only [hingress, List.length_cons] at hlength
    have hvalid := h.valid
    rw [hingress] at hvalid
    exact
      { h with
        ingress_le := by simp; omega
        valid := fun other hother => hvalid other (List.mem_cons_of_mem _ hother)
        accounted := by
          have haccounted := h.accounted
          simpa [arrived, DrainStage.event?, hworker, hingress] using haccounted
        next := by
          intro _
          exact h.next (by simp [hworker, DrainStage.event?])
        current := by simp
        drained := by simp
        awake := by simp
        closes := by simp
        handedOver := by simp
        held := by
          intro next hnext eventId hmem
          cases h.held next hnext eventId hmem with
          | entering other hcall hid => exact .entering other hcall hid
          | pending other hpending hid =>
            simp only [hingress, critical, List.filter_cons] at hpending
            by_cases hcritical : event.lossIntolerant = true
            · simp only [hcritical, if_true, List.mem_cons] at hpending
              obtain rfl | hpending := hpending
              · exact .retained other rfl hcritical hid
              · exact .pending other hpending hid
            · simp only [hcritical] at hpending
              exact .pending other hpending hid
          | retained other hevent hcritical hid =>
            simp [hworker, DrainStage.event?] at hevent
          | handed hhanded => exact .handed hhanded }
  · rename_i hworker hingress
    exact
      { h with
        accounted := by
          have haccounted := h.accounted
          simpa [arrived, DrainStage.event?, hworker] using haccounted
        next := fun _ => h.next (by simp [hworker, DrainStage.event?])
        current := by simp
        drained := by simp
        awake := fun _ _ => .inl hingress
        closes := by simp
        handedOver := by simp
        held := fun next hnext eventId hmem =>
          (h.held next hnext eventId hmem).congr rfl rfl (by simp [hworker, DrainStage.event?]) }
  · exact h

theorem Invariant.testClosed (h : Invariant start hub)
    (hstops : hub.worker = .foundEmpty → hub.closed = true → critical hub.ingress = []) :
    Invariant start (hub.step .testClosed) := by
  simp only [step]
  split
  · rename_i hworker
    have hnone : (if hub.closed then DrainStage.stopped else .awaiting).event? = none := by
      split <;> rfl
    exact
      { h with
        accounted := by
          have haccounted := h.accounted
          simp only [arrived, hworker, DrainStage.event?] at haccounted
          simpa only [arrived, hnone] using haccounted
        next := fun _ => h.next (by simp [hworker, DrainStage.event?])
        current := by
          intro envelope hcurrent
          by_cases hclosed : hub.closed = true <;> simp [hclosed] at hcurrent
        drained := by
          intro hstopped
          by_cases hclosed : hub.closed = true
          · exact hstops hworker hclosed
          · simp [hclosed] at hstopped
        awake := fun _ hpermit => h.awake (.inl hworker) hpermit
        closes := by
          intro hawaiting _ hclosed
          simp only at hclosed hawaiting
          simp [hclosed] at hawaiting
        handedOver := by
          intro envelope next hhanded
          by_cases hclosed : hub.closed = true <;> simp [hclosed] at hhanded
        held := fun next hnext eventId hmem =>
          (h.held next hnext eventId hmem).congr rfl rfl
            (by rw [hworker]; exact hnone) }
  · exact h

theorem Invariant.wake (h : Invariant start hub) : Invariant start (hub.step .wake) := by
  simp only [step]
  split
  · rename_i hworker
    split
    · exact
        { h with
          accounted := by
            have haccounted := h.accounted
            simpa [arrived, DrainStage.event?, hworker] using haccounted
          next := fun _ => h.next (by simp [hworker, DrainStage.event?])
          current := by simp
          drained := by simp
          awake := by simp
          closes := by simp
          handedOver := by simp
          held := fun next hnext eventId hmem =>
            (h.held next hnext eventId hmem).congr rfl rfl (by simp [hworker, DrainStage.event?]) }
    · exact h
  · exact h

theorem Invariant.number (h : Invariant start hub) : Invariant start (hub.step .number) := by
  simp only [step]
  split
  · rename_i event hworker
    have hnext := h.next (.inl ⟨event, hworker⟩)
    exact
      { h with
        accounted := by
          have haccounted := h.accounted
          simpa [arrived, DrainStage.event?, hworker] using haccounted
        next := by simp [DrainStage.event?]
        current := by
          intro envelope henvelope
          obtain rfl : ⟨hub.nextSequence + 1, event⟩ = envelope := by simpa using henvelope
          simp [hnext]
        drained := by simp
        awake := by simp
        closes := by simp
        handedOver := by simp
        held := fun next hnext eventId hmem =>
          (h.held next hnext eventId hmem).congr rfl rfl (by simp [hworker, DrainStage.event?]) }
  · exact h

theorem handed_enqueue {intake : DurableIntake} {envelope : SequencedBrainEvent} {eventId : String}
    (h : eventId ∈ intake.handed) : eventId ∈ (intake.enqueue envelope).handed := by
  simp only [DurableIntake.enqueue]
  split
  · exact List.mem_cons_of_mem _ h
  · exact h

@[simp] theorem seen_enqueue {intake : DurableIntake} {envelope : SequencedBrainEvent} :
    (intake.enqueue envelope).seen = intake.seen := by
  simp only [DurableIntake.enqueue]
  split <;> rfl

theorem Invariant.handOver (h : Invariant start hub)
    (htakes : ∀ envelope intake, hub.worker = .numbered envelope →
      envelope.event.lossIntolerant = true → hub.durable = some intake → intake.accepts = true) :
    Invariant start (hub.step .handOver) := by
  simp only [step]
  split
  · rename_i envelope hworker
    have hheld : ∀ next, hub.durable.map (fun intake => intake.enqueue envelope) = some next →
        ∃ intake, hub.durable = some intake ∧ next = intake.enqueue envelope := by
      intro next hnext
      obtain ⟨intake, hintake, hnext⟩ := Option.map_eq_some_iff.mp hnext
      exact ⟨intake, hintake, hnext.symm⟩
    exact
      { h with
        accounted := by
          have haccounted := h.accounted
          simpa [arrived, DrainStage.event?, hworker] using haccounted
        next := by simp [DrainStage.event?]
        current := by
          intro other hother
          obtain rfl : envelope = other := by simpa using hother
          exact h.current envelope (.inl hworker)
        drained := by simp
        awake := by simp
        closes := by simp
        handedOver := by
          intro other next hother hcritical hnext
          obtain rfl : envelope = other := by simpa using hother
          simp only [hcritical, if_true] at hnext
          obtain ⟨intake, hintake, rfl⟩ := hheld next hnext
          simp [DurableIntake.enqueue, htakes envelope intake hworker hcritical hintake]
        held := by
          intro next hnext eventId hmem
          have hworker' : ∀ event, hub.worker.event? = some event →
              DrainStage.event? (.handed envelope) = some event := by
            simp [hworker, DrainStage.event?]
          by_cases hcritical : envelope.event.lossIntolerant = true
          · simp only [hcritical, if_true] at hnext
            obtain ⟨intake, hintake, rfl⟩ := hheld next hnext
            exact (h.held intake hintake eventId (by simpa using hmem)).mono
              (fun _ hcall _ => hcall) (fun _ => id) hworker' fun _ => handed_enqueue
          · simp only [hcritical] at hnext
            exact (h.held next hnext eventId hmem).mono (fun _ hcall _ => hcall) (fun _ => id)
              hworker' fun _ => id }
  · exact h

theorem Invariant.append (h : Invariant start hub) : Invariant start (hub.step .append) := by
  simp only [step]
  split
  · rename_i envelope hworker
    have hcurrent := h.current envelope (.inr hworker)
    exact
      { h with
        history_le := length_retain h.history_pos hub.history envelope
        accounted := by
          have haccounted := h.accounted
          simpa [arrived, DrainStage.event?, hworker] using haccounted
        numbers := by
          simp only [List.map_append, List.map_cons, List.map_nil, h.numbers, List.length_append,
            List.length_singleton, List.range'_concat, hcurrent.1]
          simp
          omega
        next := fun _ => by
          simp only [List.length_append, List.length_singleton, hcurrent.2]
          omega
        current := by simp
        drained := by simp
        awake := by simp
        closes := by simp
        handedOver := by simp
        held := by
          intro next hnext eventId hmem
          cases h.held next hnext eventId hmem with
          | entering other hcall hid => exact .entering other hcall hid
          | pending other hpending hid => exact .pending other hpending hid
          | retained other hevent hcritical hid =>
            obtain rfl : envelope.event = other := by
              simpa [hworker, DrainStage.event?] using hevent
            exact .handed (hid ▸ h.handedOver envelope next hworker hcritical hnext)
          | handed hhanded => exact .handed hhanded }
  · exact h

theorem Invariant.ofDurable (h : Invariant start hub) {change : DurableIntake → DurableIntake}
    (hseen : ∀ intake, (change intake).seen = intake.seen)
    (hhanded : ∀ intake, (change intake).handed = intake.handed) :
    Invariant start { hub with durable := hub.durable.map change } :=
  { h with
    handedOver := by
      intro envelope next hworker hcritical hnext
      obtain ⟨intake, hintake, rfl⟩ := Option.map_eq_some_iff.mp hnext
      rw [hhanded]
      exact h.handedOver envelope intake hworker hcritical hintake
    held := by
      intro next hnext eventId hmem
      obtain ⟨intake, hintake, rfl⟩ := Option.map_eq_some_iff.mp hnext
      rw [hseen] at hmem
      exact (h.held intake hintake eventId hmem).mono (fun _ hcall _ => hcall) (fun _ => id)
        (fun _ => id) fun other hother => by rwa [hhanded] }

theorem Invariant.closeDurable (h : Invariant start hub) :
    Invariant start (hub.step .closeDurable) := by
  simp only [step]
  split
  · exact h.ofDurable (fun _ => rfl) fun _ => rfl
  · exact h

theorem Invariant.write (h : Invariant start hub) : Invariant start (hub.step .write) :=
  h.ofDurable (fun _ => rfl) fun _ => rfl

theorem Invariant.turnedAway (h : Invariant start hub) {index : Nat} {event : BrainEvent}
    {durableClaimed : Bool} (hcall : hub.calls[index]? = some (.entering event durableClaimed)) :
    Invariant start
      { hub.released event durableClaimed with calls := hub.calls.eraseIdx index } := by
  have hgone : Invariant start { hub with calls := hub.calls.eraseIdx index, durable := none } :=
    { h with
      callsValid := (h.callsErased index).1
      claimed := (h.callsErased index).2
      awake := fun hworker hpermit =>
        (h.awake hworker hpermit).imp_right fun hmem => mem_eraseIdx_of_mem hmem hcall (by simp)
      handedOver := by simp
      held := by simp }
  cases durableClaimed with
  | false =>
    exact
      { hgone with
        handedOver := h.handedOver
        held := fun intake hintake eventId hmem =>
          (h.held intake hintake eventId hmem).mono
            (fun _ hother _ => mem_eraseIdx_of_mem hother hcall (by simp)) (fun _ => id)
            (fun _ => id) fun _ => id }
  | true =>
    exact
      { hgone with
        handedOver := by
          intro envelope next hworker hcritical hnext
          obtain ⟨intake, hintake, rfl⟩ := Option.map_eq_some_iff.mp hnext
          exact h.handedOver envelope intake hworker hcritical hintake
        held := by
          intro next hnext eventId hmem
          obtain ⟨intake, hintake, rfl⟩ := Option.map_eq_some_iff.mp hnext
          obtain ⟨hold, hne⟩ := DurableSeenEventIds.mem_remove hmem
          refine (h.held intake hintake eventId hold).mono (fun other hother hid => ?_)
            (fun _ => id) (fun _ => id) fun _ => id
          refine mem_eraseIdx_of_mem hother hcall fun hsame => hne ?_
          rw [← hid, (PublishCall.entering.inj hsame).1] }

theorem Invariant.enter (h : Invariant start hub) (index : Nat)
    (henters : ∀ event durableClaimed, hub.calls[index]? = some (.entering event durableClaimed) →
      event.lossIntolerant = true → hub.worker ≠ .stopped) :
    Invariant start (hub.step (.enter index)) := by
  simp only [step]
  split
  · rename_i event durableClaimed hcall
    have hmem := List.mem_of_getElem? hcall
    have hvalid := h.callsValid event (.inr ⟨durableClaimed, hmem⟩)
    split
    · rename_i queue outcome hpush
      have hpushed := pushIngress_ok h.ingress_pos h.valid hvalid hpush
      have hgrows : ∀ other ∈ critical hub.ingress, other ∈ critical queue := by
        intro other hother
        rw [hpushed.critical]
        exact List.mem_append_left _ hother
      exact
        { h with
          ingress_le := hpushed.length_le h.ingress_le
          valid := hpushed.valid
          callsValid := (h.callsLeft fun _ => List.mem_or_eq_of_mem_set).1
          claimed := (h.callsLeft fun _ => List.mem_or_eq_of_mem_set).2
          accounted := by
            have haccounted := h.accounted
            simp only [arrived, critical_append] at haccounted ⊢
            rw [hpushed.critical, haccounted]
            split <;> simp
          drained := by
            intro hstopped
            have hold := h.drained hstopped
            cases hcritical : event.lossIntolerant with
            | true => exact absurd hstopped (henters event durableClaimed hcall hcritical)
            | false => simp [hpushed.critical, hold, hcritical]
          awake := fun _ _ => .inr (List.mem_set (List.getElem?_eq_some_iff.mp hcall).1 _)
          held := by
            intro intake hintake eventId hseen
            cases h.held intake hintake eventId hseen with
            | entering other hother hid =>
              by_cases hsame : PublishCall.entering other true = .entering event durableClaimed
              · obtain ⟨rfl, rfl⟩ := PublishCall.entering.inj hsame
                have hcritical := h.claimed other (.inr hmem)
                refine .pending other ?_ hid
                rw [hpushed.critical, hcritical, hpushed.queued hcritical]
                simp
              · exact .entering other (mem_set_of_mem hother hcall hsame) hid
            | pending other hpending hid => exact .pending other (hgrows other hpending) hid
            | retained other hevent hcritical hid => exact .retained other hevent hcritical hid
            | handed hhanded => exact .handed hhanded }
    · exact h.turnedAway hcall
  · exact h

theorem Invariant.step (h : Invariant start hub) {input : IngressInput}
    (horderly : hub.Orderly input) : Invariant start (hub.step input) := by
  cases input with
  | publish event => exact h.publish event
  | claim index => exact h.claim index
  | enter index =>
    exact h.enter index fun event claimed hcall => horderly.enters index event claimed rfl hcall
  | notify index => exact h.notify index
  | close => exact h.close
  | closeNotify => exact h.closeNotify
  | look => exact h.look
  | testClosed => exact h.testClosed (horderly.stops rfl)
  | wake => exact h.wake
  | number => exact h.number
  | handOver => exact h.handOver fun envelope intake => horderly.takes envelope intake rfl
  | append => exact h.append
  | closeDurable => exact h.closeDurable
  | write => exact h.write

end IngressHub

end Netherwick.Observatory
