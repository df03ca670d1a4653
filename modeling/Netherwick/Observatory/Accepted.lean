import Netherwick.Observatory.IngressInvariant

/-! # Accepted events

What becomes of the events that found a place in the ingress queue: the loss-intolerant ones are
numbered once and appended to the history, as long as none of them enters behind the back of a
worker that stops, and no claim outlives the event it was made for. -/

namespace Netherwick.Observatory

open Netherwick.Lib

namespace IngressHub

variable {start : Nat} {hub : IngressHub}

theorem arrived_worker {input : IngressInput} (hinput : input.isWorker = true) :
    (hub.step input).arrived = hub.arrived := by
  cases input with
  | look =>
    simp only [IngressHub.step]
    split <;> simp_all [arrived, DrainStage.event?]
  | testClosed =>
    simp only [IngressHub.step]
    split
    · cases hub.closed <;> simp_all [arrived, DrainStage.event?]
    · rfl
  | wake =>
    simp only [IngressHub.step]
    split
    · split <;> simp_all [arrived, DrainStage.event?]
    · rfl
  | number =>
    simp only [IngressHub.step]
    split <;> simp_all [arrived, DrainStage.event?]
  | handOver =>
    simp only [IngressHub.step]
    split <;> simp_all [arrived, DrainStage.event?]
  | append =>
    simp only [IngressHub.step]
    split <;> simp_all [arrived, DrainStage.event?]
  | _ => cases hinput

theorem accepted_worker {input : IngressInput} (hinput : input.isWorker = true) :
    (hub.step input).accepted = hub.accepted := by
  cases input with
  | look | testClosed | number | handOver | append =>
    simp only [IngressHub.step]
    split <;> rfl
  | wake =>
    simp only [IngressHub.step]
    split
    · split <;> rfl
    · rfl
  | _ => cases hinput

theorem history_step {input : IngressInput} (hinput : input ≠ .append) :
    (hub.step input).history = hub.history := by
  cases input with
  | append => exact absurd rfl hinput
  | enter index =>
    simp only [IngressHub.step]
    split
    · split
      · rfl
      · rename_i event claimed _ _ _ _
        cases claimed <;> rfl
    · rfl
  | publish event => simp only [IngressHub.step]; split <;> [rfl; split <;> rfl]
  | claim index => simp only [IngressHub.step]; split <;> [split <;> rfl; rfl]
  | wake => simp only [IngressHub.step]; split <;> [split <;> rfl; rfl]
  | look => simp only [IngressHub.step]; split <;> rfl
  | notify _ | closeNotify | testClosed | number | handOver | closeDurable =>
    simp only [IngressHub.step]; split <;> rfl
  | close | write => rfl

theorem Invariant.lawful (h : Invariant start hub) {input : IngressInput}
    (horderly : hub.Orderly input) : hub.Lawful input where
  ordered := arrived_worker
  evicts := by
    intro prior hprior hkept hgone
    by_cases happend : input = .append
    · subst happend
      simp only [IngressHub.step] at hgone
      split at hgone
      · exact evicted_of_full h.history_le hprior hkept hgone
      · exact absurd hprior hgone
    · rw [history_step happend] at hgone
      exact absurd hprior hgone
  refuses := fun _ _ _ _ _ _ hpush => pushIngress_error hpush
  duplicates := by
    intro index event intake hinput hcall hintake hseen
    cases h.held intake hintake event.eventId (DurableSeenEventIds.insert_eq_none hseen) with
    | entering other hother hid => exact absurd hid (horderly.claims index event other hinput hcall hother)
    | pending other hmem hid => exact .inl ⟨other, (List.mem_filter.mp hmem).1, hid⟩
    | retained other hworker _ hid => exact .inr (.inl ⟨other, hworker, hid⟩)
    | handed hmem => exact .inr (.inr hmem)

theorem after_worker {inputs : List IngressInput}
    (hinputs : ∀ input ∈ inputs, IngressInput.isWorker input = true) :
    (after IngressHub.step hub inputs).arrived = hub.arrived
      ∧ (after IngressHub.step hub inputs).accepted = hub.accepted := by
  induction inputs generalizing hub with
  | nil => exact ⟨rfl, rfl⟩
  | cons input inputs ih =>
    have hothers : ∀ other ∈ inputs, IngressInput.isWorker other = true :=
      fun other hother => hinputs other (by simp [hother])
    have hrest := @ih (hub.step input) hothers
    have hinput := hinputs input (by simp)
    exact ⟨hrest.1.trans (arrived_worker hinput), hrest.2.trans (accepted_worker hinput)⟩

/-- The worker's own steps bring it to a hub with nothing left to append. -/
def Empties (hub : IngressHub) : Prop :=
  ∃ inputs, (∀ input ∈ inputs, IngressInput.isWorker input = true)
    ∧ (after IngressHub.step hub inputs).ingress = []
    ∧ (after IngressHub.step hub inputs).worker.event? = none

theorem Empties.of_step (input : IngressInput) (hinput : input.isWorker = true)
    (h : (hub.step input).Empties) : hub.Empties := by
  obtain ⟨inputs, hworker, hingress, hevent⟩ := h
  refine ⟨input :: inputs, ?_, hingress, hevent⟩
  intro other hother
  obtain rfl | hother := List.mem_cons.mp hother
  · exact hinput
  · exact hworker other hother

theorem empties_of_done (hingress : hub.ingress = []) (hevent : hub.worker.event? = none) :
    hub.Empties := ⟨[], by simp, hingress, hevent⟩

theorem empties_of_idle (queue : List BrainEvent) :
    ∀ {hub : IngressHub}, hub.ingress = queue → hub.worker = .idle → hub.Empties := by
  induction queue with
  | nil =>
    intro hub hingress hworker
    exact empties_of_done hingress (by simp [hworker, DrainStage.event?])
  | cons event rest ih =>
    intro hub hingress hworker
    -- one turn of the loop: look, number, hand over, append
    apply Empties.of_step .look rfl
    apply Empties.of_step .number rfl
    apply Empties.of_step .handOver rfl
    apply Empties.of_step .append rfl
    apply ih <;> simp [IngressHub.step, hingress, hworker]

theorem Invariant.empties (h : Invariant start hub) (hrunning : hub.worker ≠ .stopped)
    (hstopping : ¬ (hub.worker = .foundEmpty ∧ hub.closed = true))
    (hnotified : .notifying ∉ hub.calls) : hub.Empties := by
  have hdone : hub.worker.event? = none → hub.permit = false →
      hub.worker = .foundEmpty ∨ hub.worker = .awaiting → hub.Empties := by
    intro hevent hpermit hworker
    exact empties_of_done ((h.awake hworker hpermit).resolve_right hnotified) hevent
  cases hworker : hub.worker with
  | idle => exact empties_of_idle hub.ingress rfl hworker
  | stopped => exact absurd hworker hrunning
  | popped event =>
    apply Empties.of_step .number rfl
    apply Empties.of_step .handOver rfl
    apply Empties.of_step .append rfl
    apply empties_of_idle hub.ingress <;> simp [IngressHub.step, hworker]
  | numbered envelope =>
    apply Empties.of_step .handOver rfl
    apply Empties.of_step .append rfl
    apply empties_of_idle hub.ingress <;> simp [IngressHub.step, hworker]
  | handed envelope =>
    apply Empties.of_step .append rfl
    apply empties_of_idle hub.ingress <;> simp [IngressHub.step, hworker]
  | awaiting =>
    cases hpermit : hub.permit with
    | false => exact hdone (by simp [hworker, DrainStage.event?]) hpermit (.inr hworker)
    | true =>
      apply Empties.of_step .wake rfl
      apply empties_of_idle hub.ingress <;> simp [IngressHub.step, hworker, hpermit]
  | foundEmpty =>
    cases hpermit : hub.permit with
    | false => exact hdone (by simp [hworker, DrainStage.event?]) hpermit (.inl hworker)
    | true =>
      have hopen : hub.closed = false := by
        by_contra hclosed
        exact hstopping ⟨hworker, by simpa using hclosed⟩
      apply Empties.of_step .testClosed rfl
      apply Empties.of_step .wake rfl
      apply empties_of_idle hub.ingress <;> simp [IngressHub.step, hworker, hpermit, hopen]

theorem Invariant.sound (h : Invariant start hub) : Sound start hub where
  accounted := h.accounted
  numbers := h.numbers
  drained := h.drained
  awake := by
    intro hworker hpermit hnotified hclosing
    refine ⟨(h.awake (.inr hworker) hpermit).resolve_right hnotified, ?_⟩
    cases hclosed : hub.closed with
    | false => rfl
    | true =>
      have hpos := h.closes hworker hpermit hclosed
      omega
  drains := by
    intro hrunning hstopping hnotified
    obtain ⟨inputs, hinputs, hingress, hevent⟩ := h.empties hrunning hstopping hnotified
    have hsame := @after_worker hub _ hinputs
    refine ⟨inputs, hinputs, ?_⟩
    rw [h.accounted, ← hsame.1]
    simp [arrived, hingress, hevent]
  ingress_le := h.ingress_le
  history_le := h.history_le

/-- A hub that was just opened on what was recovered up to the number `start`. -/
structure Opened (start : Nat) (hub : IngressHub) : Prop where
  config : ∃ given, hub.config = BrainEventHubConfig.normalized given
  history_le : hub.history.events.length ≤ hub.config.historyCapacity
  next : hub.nextSequence = start
  ingress : hub.ingress = []
  calls : hub.calls = []
  worker : hub.worker = .idle
  log : hub.log = []
  accepted : hub.accepted = []
  seen : ∀ intake, hub.durable = some intake → ∀ eventId ∈ intake.seen.order,
    eventId ∈ intake.handed

theorem Opened.invariant (h : Opened start hub) : Invariant start hub := by
  obtain ⟨given, hconfig⟩ := h.config
  exact
    { ingress_pos := hconfig ▸ Nat.le_max_right ..
      history_pos := hconfig ▸ Nat.le_max_right ..
      ingress_le := by simp [h.ingress]
      history_le := h.history_le
      valid := by simp [h.ingress, AllValid]
      callsValid := by simp [h.calls]
      claimed := by simp [h.calls]
      accounted := by
        simp [h.accepted, arrived, h.log, h.worker, h.ingress, DrainStage.event?, critical]
      numbers := by simp [h.log]
      next := by simp [h.next, h.log]
      current := by simp [h.worker]
      drained := by simp [h.worker]
      awake := by simp [h.worker]
      closes := by simp [h.worker]
      held := fun intake hintake eventId hseen => .handed (h.seen intake hintake eventId hseen)
      handedOver := by simp [h.worker] }

/-- Along every orderly run the accepted events are accounted for, and every step is lawful. -/
theorem accepted_once (hopened : Opened start hub) {inputs : List IngressInput}
    (hinputs : EachStep IngressHub.step hub Orderly inputs) :
    EachStep IngressHub.step hub Lawful inputs
      ∧ Sound start (after IngressHub.step hub inputs) := by
  have hinvariant : ∀ past, past <+: inputs → Invariant start (after IngressHub.step hub past) :=
    fun past hpast => (hinputs.of_isPrefix hpast).invariant hopened.invariant
      fun _ _ h horderly => h.step horderly
  refine ⟨fun past input hpast => ?_, (hinvariant inputs (List.prefix_refl _)).sound⟩
  exact (hinvariant past ((List.prefix_append past [input]).trans hpast)).lawful
    (hinputs past input hpast)

def commandEvent : BrainEvent where
  eventId := "event:command"
  eventType := .command
  kind := "drive.stop"
  producer := { brain := .motherbrain, component := "conductor" }
  times := { occurred := { tMs := 0 }, observed := { tMs := 0 } }

def openedHub : IngressHub where
  config := BrainEventHubConfig.normalized {}
  ingress := []
  history := .empty
  nextSequence := 0
  closed := false
  permit := false
  worker := .idle
  calls := []
  closing := 0
  durable := some
    { seen := { order := [], capacity := 4, nodup := List.nodup_nil }
      isOpen := true
      writerQueue := []
      writerQueueCapacity := 4
      handed := [] }
  log := []
  accepted := []

theorem opened_openedHub : Opened 0 openedHub where
  config := ⟨{}, rfl⟩
  history_le := by decide
  next := rfl
  ingress := rfl
  calls := rfl
  worker := rfl
  log := rfl
  accepted := rfl
  seen := by
    intro intake hintake
    obtain rfl := Option.some.inj hintake
    simp

theorem orderly_of_other {input : IngressInput} (hstop : input ≠ .testClosed)
    (henter : ∀ index, input ≠ .enter index) (hclaim : ∀ index, input ≠ .claim index)
    (hhandOver : input ≠ .handOver) : hub.Orderly input where
  stops h := absurd h hstop
  enters index _ _ h := absurd h (henter index)
  claims index _ _ h := absurd h (hclaim index)
  takes _ _ h := absurd h hhandOver

def orderlyRun : List IngressInput :=
  [.publish commandEvent, .claim 0, .enter 0, .notify 0, .look, .number, .handOver, .append]

/-- A command is published, numbered, handed to the writer and appended. -/
theorem accepted_once_command :
    EachStep IngressHub.step openedHub Lawful orderlyRun
      ∧ Sound 0 (after IngressHub.step openedHub orderlyRun) := by
  refine accepted_once opened_openedHub ?_
  simp only [orderlyRun, eachStep_cons, eachStep_nil, and_true]
  refine ⟨orderly_of_other (by simp) (by simp) (by simp) (by simp),
    ⟨by simp, by simp, ?_, by simp⟩, ⟨by simp, ?_, by simp, by simp⟩,
    orderly_of_other (by simp) (by simp) (by simp) (by simp),
    orderly_of_other (by simp) (by simp) (by simp) (by simp),
    orderly_of_other (by simp) (by simp) (by simp) (by simp), ⟨by simp, by simp, by simp, ?_⟩,
    orderly_of_other (by simp) (by simp) (by simp) (by simp)⟩
  · intro index event other _ _ hother
    have hcalls : (openedHub.step (.publish commandEvent)).calls = [.checked commandEvent] := by
      decide +kernel
    simp [hcalls] at hother
  · intro index event claimed _ _ _
    decide +kernel
  · intro envelope intake _ _ _ hintake
    have haccepts : ((after IngressHub.step openedHub
        [.publish commandEvent, .claim 0, .enter 0, .notify 0, .look, .number]).durable).map
          DurableIntake.accepts = some true := by decide +kernel
    simp only [after_cons, after_nil] at haccepts
    simpa [hintake] using haccepts

/-- The publisher saw an open hub; when it puts its command into the queue the worker is gone. -/
def lateRun : List IngressInput :=
  [.publish commandEvent, .claim 0, .close, .look, .testClosed, .enter 0]

theorem late_command_lost :
    ¬ (EachStep IngressHub.step openedHub Lawful lateRun
      ∧ Sound 0 (after IngressHub.step openedHub lateRun)) := by
  rintro ⟨-, hsound⟩
  have hleft := hsound.drained (by decide +kernel)
  revert hleft
  decide +kernel

end IngressHub

end Netherwick.Observatory
