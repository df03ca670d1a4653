import Netherwick.Cognition.Exchange
import Netherwick.Lib.Run

/-! # The life of a request

The pending request is the one that the events leave open. A task that is finished and a request
that is late are closed by the next tick, and a sense that is too old is not published. -/

namespace Netherwick.Cognition

open Netherwick.Lib
open Observatory (EventDisposition)

variable {FrameId Sense Decision Combobulation : Type}

namespace RuntimeCognition

section Steps

variable {cognition : RuntimeCognition FrameId Sense Decision Combobulation} {nowMs : Nat}
  {tick : Tick FrameId Sense Decision Combobulation}

theorem pending_settle (pending : PendingLlmCognition FrameId)
    (outcome : TaskOutcome Sense Decision Combobulation) :
    (cognition.settle nowMs pending outcome).1.pending = none := by
  cases outcome with
  | joinError cancelled error => rfl
  | failed error => rfl
  | finished reflection result =>
    rw [settle]
    by_cases hlate : pending.deadlineMs < nowMs
    · rw [if_pos hlate]
      rfl
    · rw [if_neg hlate]
      rfl

theorem pending_poll_of_none (h : cognition.pending = none)
    (task : Option (TaskOutcome Sense Decision Combobulation)) :
    (cognition.poll nowMs task).1.pending = none := by
  simp [poll, h]

theorem grows_close (pending : PendingLlmCognition FrameId) (outcome : CognitionOutcome)
    (disposition : EventDisposition) (payload : ResponsePayload Sense Decision Combobulation) :
    cognition.brainEvents <+:
      (cognition.close nowMs pending outcome disposition payload).brainEvents :=
  List.prefix_append _ _

theorem grows_settle (pending : PendingLlmCognition FrameId)
    (outcome : TaskOutcome Sense Decision Combobulation) :
    cognition.brainEvents <+: (cognition.settle nowMs pending outcome).1.brainEvents := by
  cases outcome with
  | joinError cancelled error => exact grows_close _ _ _ _
  | failed error => exact grows_close _ _ _ _
  | finished reflection result =>
    rw [settle]
    by_cases hlate : pending.deadlineMs < nowMs
    · rw [if_pos hlate]
      exact grows_close _ _ _ _
    · rw [if_neg hlate]
      exact List.prefix_append _ _

theorem grows_poll (task : Option (TaskOutcome Sense Decision Combobulation)) :
    cognition.brainEvents <+: (cognition.poll nowMs task).1.brainEvents := by
  cases hpending : cognition.pending with
  | none => simp [poll, hpending]
  | some pending =>
    cases task with
    | none => simp [poll, hpending]
    | some outcome => simpa [poll, hpending] using grows_settle pending outcome

theorem grows_expire : cognition.brainEvents <+: (cognition.expire nowMs).brainEvents := by
  cases hpending : cognition.pending with
  | none => simp [expire, hpending]
  | some pending =>
    by_cases hlate : pending.deadlineMs < nowMs
    · simpa [expire, hpending, hlate] using grows_close pending _ _ _
    · simp [expire, hpending, hlate]

theorem grows_ask : cognition.brainEvents <+: (cognition.ask tick).brainEvents := by
  rw [ask]
  split
  · exact List.prefix_append _ _
  · split
    · exact List.prefix_append _ _
    · exact List.prefix_refl _

theorem sorted_concat {past : List (Tick FrameId Sense Decision Combobulation)}
    (hsorted : ((past ++ [tick]).map Tick.nowMs).Pairwise (· ≤ ·)) :
    (past.map Tick.nowMs).Pairwise (· ≤ ·) ∧ ∀ other ∈ past, other.nowMs ≤ tick.nowMs := by
  rw [List.map_append, List.pairwise_append] at hsorted
  exact ⟨hsorted.1, fun other hother =>
    hsorted.2.2 _ (List.mem_map_of_mem hother) _ (by simp)⟩

end Steps

variable [Inhabited Sense] {cognition : RuntimeCognition FrameId Sense Decision Combobulation}
  {lastMs nowMs : Nat} {tick : Tick FrameId Sense Decision Combobulation}

structure Tracked (cognition : RuntimeCognition FrameId Sense Decision Combobulation)
    (lastMs : Nat) : Prop where
  exchanged : Exchanged cognition.brainEvents cognition.pending
  quiet : ∀ event ∈ responses cognition.brainEvents,
    event.observedAtMs + cooldownMs ≤ cognition.nextRequestAtMs
  past : ∀ event ∈ responses cognition.brainEvents, event.observedAtMs ≤ lastMs
  sensed : cognition.lastSense = default ∨ ∃ event ∈ responses cognition.brainEvents,
    event.disposition = .accepted ∧
      cognition.lastSenseValidUntilMs = event.observedAtMs + deadlineMs

theorem tracked_fromAgent : (fromAgent : RuntimeCognition FrameId Sense Decision
    Combobulation).Tracked lastMs where
  exchanged := .start
  quiet := by simp [fromAgent, responses]
  past := by simp [fromAgent, responses]
  sensed := .inl rfl

theorem Tracked.mono (h : cognition.Tracked lastMs) (hle : lastMs ≤ nowMs) :
    cognition.Tracked nowMs :=
  ⟨h.exchanged, h.quiet, fun event hevent => (h.past event hevent).trans hle, h.sensed⟩

theorem Tracked.forget (h : cognition.Tracked lastMs) : (cognition.forget nowMs).Tracked lastMs := by
  rw [RuntimeCognition.forget]
  by_cases hlate : cognition.lastSenseValidUntilMs < nowMs
  · rw [if_pos hlate]
    exact ⟨h.exchanged, h.quiet, h.past, .inl rfl⟩
  · rwa [if_neg hlate]

theorem Tracked.close (h : cognition.Tracked nowMs) {pending : PendingLlmCognition FrameId}
    (hpending : cognition.pending = some pending) (outcome : CognitionOutcome)
    (disposition : EventDisposition)
    (htimely : disposition = .accepted → nowMs ≤ pending.deadlineMs)
    (payload : ResponsePayload Sense Decision Combobulation) :
    (cognition.close nowMs pending outcome disposition payload).Tracked nowMs where
  exchanged := .response _ (hpending ▸ h.exchanged) rfl rfl htimely
  quiet event hevent := by
    rw [RuntimeCognition.close, responses_append, responses_response] at hevent
    rcases List.mem_append.mp hevent with hevent | hevent
    · exact Nat.add_le_add_right (h.past event hevent) cooldownMs
    · obtain rfl := List.mem_singleton.mp hevent
      exact le_refl _
  past event hevent := by
    rw [RuntimeCognition.close, responses_append, responses_response] at hevent
    rcases List.mem_append.mp hevent with hevent | hevent
    · exact h.past event hevent
    · obtain rfl := List.mem_singleton.mp hevent
      exact le_refl _
  sensed := by
    rcases h.sensed with hdefault | ⟨event, hevent, haccepted⟩
    · exact .inl hdefault
    · refine .inr ⟨event, ?_, haccepted⟩
      rw [RuntimeCognition.close, responses_append]
      exact List.mem_append_left _ hevent

theorem Tracked.expire (h : cognition.Tracked nowMs) : (cognition.expire nowMs).Tracked nowMs := by
  rw [RuntimeCognition.expire]
  cases hpending : cognition.pending with
  | none => exact h
  | some pending =>
    by_cases hlate : pending.deadlineMs < nowMs
    · simp only [if_pos hlate]
      exact h.close hpending _ _ (fun hfalse => by cases hfalse) _
    · simpa only [if_neg hlate] using h

theorem Tracked.accept (h : cognition.Tracked nowMs) {pending : PendingLlmCognition FrameId}
    (hpending : cognition.pending = some pending) (htimely : nowMs ≤ pending.deadlineMs)
    (reflection : Option Combobulation) (result : LlmTickResult Sense Decision) :
    (cognition.accept nowMs pending reflection result).Tracked nowMs := by
  have hclosed := h.close hpending .accepted .accepted (fun _ => htimely)
    (.result result reflection)
  refine ⟨hclosed.exchanged, hclosed.quiet, hclosed.past, .inr ⟨⟨pending.requestFrameId,
    pending.requestedAtMs, nowMs, .accepted, .result result reflection⟩, ?_, rfl, rfl⟩⟩
  simp [RuntimeCognition.accept, RuntimeCognition.close]

theorem Tracked.settle (h : cognition.Tracked nowMs) {pending : PendingLlmCognition FrameId}
    (hpending : cognition.pending = some pending)
    (outcome : TaskOutcome Sense Decision Combobulation) :
    (cognition.settle nowMs pending outcome).1.Tracked nowMs := by
  cases outcome with
  | joinError cancelled error =>
    exact h.close hpending _ _ (by cases cancelled <;> simp) _
  | failed error => exact h.close hpending _ _ (fun hfalse => by cases hfalse) _
  | finished reflection result =>
    rw [RuntimeCognition.settle]
    by_cases hlate : pending.deadlineMs < nowMs
    · rw [if_pos hlate]
      exact h.close hpending _ _ (fun hfalse => by cases hfalse) _
    · rw [if_neg hlate]
      exact h.accept hpending (not_lt.mp hlate) reflection result

theorem Tracked.poll (h : cognition.Tracked nowMs)
    (task : Option (TaskOutcome Sense Decision Combobulation)) :
    (cognition.poll nowMs task).1.Tracked nowMs := by
  cases hpending : cognition.pending with
  | none => simpa [RuntimeCognition.poll, hpending] using h
  | some pending =>
    cases task with
    | none => simpa [RuntimeCognition.poll, hpending] using h
    | some outcome =>
      simpa [RuntimeCognition.poll, hpending] using h.settle hpending outcome

theorem Tracked.ask (h : cognition.Tracked tick.nowMs) : (cognition.ask tick).Tracked tick.nowMs := by
  rw [RuntimeCognition.ask]
  by_cases hasks : (tick.providerDeclaredAvailable && cognition.pending.isNone &&
      decide (cognition.nextRequestAtMs ≤ tick.nowMs)) = true
  · rw [if_pos hasks]
    have hparts : (tick.providerDeclaredAvailable = true ∧ cognition.pending = none) ∧
        cognition.nextRequestAtMs ≤ tick.nowMs := by
      simpa using hasks
    have hexchanged := h.exchanged
    rw [hparts.1.2] at hexchanged
    exact {
      exchanged := hexchanged.request tick.frameId tick.nowMs fun event hevent =>
        (h.quiet event hevent).trans hparts.2
      quiet := by simpa [request] using h.quiet
      past := by simpa [request] using h.past
      sensed := by simpa [request] using h.sensed }
  · rw [if_neg hasks]
    by_cases hunavailable : (!tick.providerDeclaredAvailable && cognition.pending.isNone) = true
    · rw [if_pos hunavailable]
      exact {
        exchanged := h.exchanged.unavailable tick.frameId tick.nowMs _
        quiet := by simpa [push] using h.quiet
        past := by simpa [push] using h.past
        sensed := by simpa [push] using h.sensed }
    · rwa [if_neg hunavailable]

theorem Tracked.step (h : cognition.Tracked lastMs) (hle : lastMs ≤ tick.nowMs) :
    (cognition.step tick).Tracked tick.nowMs := by
  have hforgotten : (cognition.forget tick.nowMs).Tracked tick.nowMs := (h.mono hle).forget
  have hasked := (hforgotten.expire.poll tick.task).ask
  exact ⟨hasked.exchanged, hasked.quiet, hasked.past, hasked.sensed⟩

theorem tracked_run (ticks : List (Tick FrameId Sense Decision Combobulation))
    (hsorted : (ticks.map Tick.nowMs).Pairwise (· ≤ ·)) (nowMs : Nat)
    (hlast : ∀ tick ∈ ticks, tick.nowMs ≤ nowMs) :
    (after step fromAgent ticks).Tracked nowMs := by
  induction ticks using List.reverseRecOn generalizing nowMs with
  | nil => exact tracked_fromAgent
  | append_singleton ticks tick ih =>
    obtain ⟨hbefore, hpast⟩ := sorted_concat hsorted
    rw [after_append]
    exact ((ih hbefore tick.nowMs hpast).step (le_refl _)).mono (hlast tick (by simp))

theorem exchanged_run (ticks : List (Tick FrameId Sense Decision Combobulation))
    (hsorted : (ticks.map Tick.nowMs).Pairwise (· ≤ ·)) :
    Exchanged (after step fromAgent ticks).brainEvents (after step fromAgent ticks).pending := by
  cases ticks using List.reverseRecOn with
  | nil => exact .start
  | append_singleton ticks tick =>
    obtain ⟨hbefore, hpast⟩ := sorted_concat hsorted
    rw [after_append]
    exact ((tracked_run ticks hbefore tick.nowMs hpast).step (le_refl _)).exchanged

def polled (cognition : RuntimeCognition FrameId Sense Decision Combobulation)
    (tick : Tick FrameId Sense Decision Combobulation) :
    RuntimeCognition FrameId Sense Decision Combobulation :=
  (((cognition.forget tick.nowMs).expire tick.nowMs).poll tick.nowMs tick.task).1

theorem Tracked.polled (h : cognition.Tracked lastMs) (hle : lastMs ≤ tick.nowMs) :
    (cognition.polled tick).Tracked tick.nowMs :=
  have hforgotten : (cognition.forget tick.nowMs).Tracked tick.nowMs := (h.mono hle).forget
  hforgotten.expire.poll tick.task

theorem pending_forget : (cognition.forget nowMs).pending = cognition.pending := by
  rw [forget]
  by_cases hlate : cognition.lastSenseValidUntilMs < nowMs <;> simp [hlate]

theorem pending_polled {pending : PendingLlmCognition FrameId}
    (hpending : cognition.pending = some pending)
    (hdone : tick.task.isSome = true ∨ pending.deadlineMs < tick.nowMs) :
    (cognition.polled tick).pending = none := by
  have hforgotten : (cognition.forget tick.nowMs).pending = some pending :=
    pending_forget.trans hpending
  rw [polled, expire]
  simp only [hforgotten]
  by_cases hlate : pending.deadlineMs < tick.nowMs
  · rw [if_pos hlate]
    exact pending_poll_of_none rfl tick.task
  · rw [if_neg hlate]
    obtain ⟨outcome, houtcome⟩ := Option.isSome_iff_exists.mp (hdone.resolve_right hlate)
    simp only [poll, hforgotten, houtcome]
    exact pending_settle pending outcome

theorem brainEvents_forget : (cognition.forget nowMs).brainEvents = cognition.brainEvents := by
  rw [forget]
  by_cases hlate : cognition.lastSenseValidUntilMs < nowMs <;> simp [hlate]

theorem grows_polled : cognition.brainEvents <+: (cognition.polled tick).brainEvents := by
  have hforgotten : (cognition.forget tick.nowMs).brainEvents <+:
      ((cognition.forget tick.nowMs).expire tick.nowMs).brainEvents := grows_expire
  rw [brainEvents_forget] at hforgotten
  exact hforgotten.trans (grows_poll tick.task)

theorem polled_prefix_step :
    (cognition.polled tick).brainEvents <+: (cognition.step tick).brainEvents :=
  grows_ask

theorem grows_step : cognition.brainEvents <+: (cognition.step tick).brainEvents :=
  grows_polled.trans polled_prefix_step

theorem grows_run (ticks : List (Tick FrameId Sense Decision Combobulation)) :
    cognition.brainEvents <+: (after step cognition ticks).brainEvents := by
  induction ticks using List.reverseRecOn with
  | nil => exact List.prefix_refl _
  | append_singleton ticks tick ih =>
    rw [after_append]
    exact ih.trans grows_step

def Fresh (cognition : RuntimeCognition FrameId Sense Decision Combobulation) (nowMs : Nat) : Prop :=
  cognition.lastSense = default ∨ nowMs ≤ cognition.lastSenseValidUntilMs

theorem fresh_forget : (cognition.forget nowMs).Fresh nowMs := by
  rw [forget]
  by_cases hlate : cognition.lastSenseValidUntilMs < nowMs
  · rw [if_pos hlate]
    exact .inl rfl
  · rw [if_neg hlate]
    exact .inr (not_lt.mp hlate)

theorem Fresh.expire (h : cognition.Fresh nowMs) : (cognition.expire nowMs).Fresh nowMs := by
  rw [RuntimeCognition.expire]
  split
  · split
    · exact h
    · exact h
  · exact h

theorem Fresh.settle (h : cognition.Fresh nowMs) (pending : PendingLlmCognition FrameId)
    (outcome : TaskOutcome Sense Decision Combobulation) :
    (cognition.settle nowMs pending outcome).1.Fresh nowMs := by
  cases outcome with
  | joinError cancelled error => exact h
  | failed error => exact h
  | finished reflection result =>
    rw [RuntimeCognition.settle]
    by_cases hlate : pending.deadlineMs < nowMs
    · rw [if_pos hlate]
      exact h
    · rw [if_neg hlate]
      exact .inr (Nat.le_add_right nowMs deadlineMs)

theorem Fresh.poll (h : cognition.Fresh nowMs)
    (task : Option (TaskOutcome Sense Decision Combobulation)) :
    (cognition.poll nowMs task).1.Fresh nowMs := by
  cases hpending : cognition.pending with
  | none => simpa [RuntimeCognition.poll, hpending] using h
  | some pending =>
    cases task with
    | none => simpa [RuntimeCognition.poll, hpending] using h
    | some outcome => simpa [RuntimeCognition.poll, hpending] using h.settle pending outcome

theorem Fresh.ask (h : cognition.Fresh tick.nowMs) : (cognition.ask tick).Fresh tick.nowMs := by
  rw [RuntimeCognition.ask]
  split
  · exact h
  · split
    · exact h
    · exact h

theorem fresh_step : (cognition.step tick).Fresh tick.nowMs :=
  (fresh_forget.expire.poll tick.task).ask

theorem sense_run {past : List (Tick FrameId Sense Decision Combobulation)}
    {last : Tick FrameId Sense Decision Combobulation}
    (hsorted : ((past ++ [last]).map Tick.nowMs).Pairwise (· ≤ ·))
    (hold : ∀ event ∈ responses (after step fromAgent (past ++ [last])).brainEvents,
      event.disposition = .accepted → event.observedAtMs + deadlineMs < last.nowMs) :
    (after step fromAgent (past ++ [last])).lastSense = default := by
  obtain ⟨hbefore, hpast⟩ := sorted_concat hsorted
  have htracked : ((after step fromAgent past).step last).Tracked last.nowMs :=
    (tracked_run past hbefore last.nowMs hpast).step (le_refl _)
  have hfresh : ((after step fromAgent past).step last).Fresh last.nowMs := fresh_step
  rw [after_append] at hold ⊢
  rcases hfresh with hdefault | hfresh
  · exact hdefault
  · rcases htracked.sensed with hdefault | ⟨event, hevent, haccepted, huntil⟩
    · exact hdefault
    · have hlate := hold event hevent haccepted
      rw [huntil] at hfresh
      exact absurd hfresh (not_le.mpr hlate)

section Runs

variable [DecidableEq FrameId]

/-- What a run of ticks keeps. The requests and responses are counted by the frame that names them, so
that a frame that is used twice counts twice. -/
structure Lifecycle (ticks : List (Tick FrameId Sense Decision Combobulation)) : Prop where
  outstanding : requested (after step fromAgent ticks).brainEvents ≤
    (responses (after step fromAgent ticks).brainEvents).length + 1
  once : ∀ part, part <+: (after step fromAgent ticks).brainEvents →
    ∀ frame, answered frame part ≤ asked frame part
  closed : ∀ past between later, ticks = past ++ between ++ [later] →
    ∀ before request rest,
      (after step fromAgent past).brainEvents = before ++ .request request :: rest →
        later.task.isSome = true ∨ request.deadlineMs < later.nowMs →
          asked request.frameId (before ++ [.request request]) ≤
            answered request.frameId (after step fromAgent ticks).brainEvents
  timely : ∀ event ∈ responses (after step fromAgent ticks).brainEvents,
    ∃ request, .request request ∈ (after step fromAgent ticks).brainEvents ∧
      request.frameId = event.requestFrameId ∧ request.tMs = event.requestedAtMs ∧
        (event.disposition = .accepted → event.observedAtMs ≤ request.deadlineMs)
  cooled : ∀ before request rest,
    (after step fromAgent ticks).brainEvents = before ++ .request request :: rest →
      ∀ event ∈ responses before, event.observedAtMs + cooldownMs ≤ request.tMs
  sense : ∀ past last, ticks = past ++ [last] →
    (∀ event ∈ responses (after step fromAgent ticks).brainEvents,
      event.disposition = .accepted → event.observedAtMs + deadlineMs < last.nowMs) →
    (after step fromAgent ticks).lastSense = default

theorem closed_run {past between : List (Tick FrameId Sense Decision Combobulation)}
    {later : Tick FrameId Sense Decision Combobulation}
    (hsorted : ((past ++ between ++ [later]).map Tick.nowMs).Pairwise (· ≤ ·))
    {before rest : List (BrainEvent FrameId Sense Decision Combobulation)}
    {request : RequestEvent FrameId}
    (hevents : (after step fromAgent past).brainEvents = before ++ .request request :: rest)
    (hdone : later.task.isSome = true ∨ request.deadlineMs < later.nowMs) :
    asked request.frameId (before ++ [.request request]) ≤ answered request.frameId
      (after step fromAgent (past ++ between ++ [later])).brainEvents := by
  obtain ⟨hbefore, hpast⟩ := sorted_concat hsorted
  have htracked := tracked_run (past ++ between) hbefore later.nowMs hpast
  have hgrown : (after step fromAgent past).brainEvents <+:
      (after step fromAgent (past ++ between)).brainEvents := by
    rw [after_append]
    exact grows_run between
  obtain ⟨more, hmore⟩ := hgrown
  have hsplit : (after step fromAgent (past ++ between)).brainEvents =
      before ++ .request request :: (rest ++ more) := by
    rw [← hmore, hevents, List.append_assoc, List.cons_append]
  rw [after_append]
  rcases htracked.exchanged.settled hsplit with hsettled | hopen
  · exact hsettled.trans (answered_le grows_step)
  · have hpolled : ((after step fromAgent (past ++ between)).polled later).Tracked
        later.nowMs := htracked.polled (le_refl _)
    have hnone := pending_polled hopen hdone
    have hbalanced := hpolled.exchanged.asked_eq request.frameId
    rw [hnone] at hbalanced
    have hpart : before ++ [BrainEvent.request request] <+:
        (after step fromAgent (past ++ between)).brainEvents := by
      rw [hsplit]
      exact ⟨rest ++ more, by simp⟩
    calc
      asked request.frameId (before ++ [.request request]) ≤ asked request.frameId
          ((after step fromAgent (past ++ between)).polled later).brainEvents :=
        asked_le (hpart.trans grows_polled)
      _ = answered request.frameId
          ((after step fromAgent (past ++ between)).polled later).brainEvents := hbalanced
      _ ≤ answered request.frameId
          (after step (after step fromAgent (past ++ between)) [later]).brainEvents :=
        answered_le polled_prefix_step

theorem lifecycle (ticks : List (Tick FrameId Sense Decision Combobulation))
    (hsorted : (ticks.map Tick.nowMs).Pairwise (· ≤ ·)) : Lifecycle ticks := by
  have hexchanged := exchanged_run ticks hsorted
  exact {
    outstanding := by
      rw [hexchanged.requested_eq]
      by_cases hopen : (after step fromAgent ticks).pending.isSome = true <;> simp [hopen]
    once := fun part hpart frame => by
      obtain ⟨pending, hbefore⟩ := hexchanged.of_isPrefix hpart
      rw [hbefore.asked_eq]
      exact Nat.le_add_right _ _
    closed := fun past between later heq before request rest hevents hdone => by
      subst heq
      exact closed_run hsorted hevents hdone
    timely := fun event hevent => hexchanged.answers_request hevent
    cooled := fun before request rest heq => by
      rw [heq] at hexchanged
      exact hexchanged.cooled
    sense := fun past last heq hold => by
      subst heq
      exact sense_run hsorted hold }

/-- Two requests, the first answered in time and the second late. -/
theorem lifecycle_answered_late : Lifecycle
    ([⟨100, 1, none, true, none⟩, ⟨200, 2, some (.finished none ⟨"a wall", ()⟩), true, none⟩,
      ⟨2200, 3, none, true, none⟩, ⟨4201, 4, none, false, none⟩] :
      List (Tick Nat String Unit Unit)) :=
  lifecycle _ (by decide)

end Runs

end RuntimeCognition

end Netherwick.Cognition
