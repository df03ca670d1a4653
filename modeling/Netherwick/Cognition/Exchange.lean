import Netherwick.Cognition.Advance

/-! # Requests and responses in turn

Every request is closed by one response before the next one is made, and at most one is open. -/

namespace Netherwick.Cognition

variable {FrameId Sense Decision Combobulation : Type}

section Events

variable {log first second : List (BrainEvent FrameId Sense Decision Combobulation)}

def responses : List (BrainEvent FrameId Sense Decision Combobulation) →
    List (ResponseEvent FrameId Sense Decision Combobulation) :=
  List.filterMap fun
    | .response event => some event
    | _ => none

@[simp] theorem responses_append : responses (first ++ second) = responses first ++ responses second :=
  List.filterMap_append

@[simp] theorem responses_request (event : RequestEvent FrameId) :
    responses [(.request event : BrainEvent FrameId Sense Decision Combobulation)] = [] := rfl

@[simp] theorem responses_response
    (event : ResponseEvent FrameId Sense Decision Combobulation) :
    responses [.response event] = [event] := rfl

@[simp] theorem responses_unavailable (frameId : FrameId) (tMs : Nat) (reason : String) :
    responses [(.unavailable frameId tMs reason :
      BrainEvent FrameId Sense Decision Combobulation)] = [] := rfl

def BrainEvent.isRequest : BrainEvent FrameId Sense Decision Combobulation → Bool
  | .request _ => true
  | _ => false

/-- How many requests were made. -/
def requested (log : List (BrainEvent FrameId Sense Decision Combobulation)) : Nat :=
  log.countP BrainEvent.isRequest

variable [DecidableEq FrameId] {frame : FrameId}

def BrainEvent.asks (frame : FrameId) : BrainEvent FrameId Sense Decision Combobulation → Bool
  | .request event => event.frameId = frame
  | _ => false

def BrainEvent.answers (frame : FrameId) : BrainEvent FrameId Sense Decision Combobulation → Bool
  | .response event => event.requestFrameId = frame
  | _ => false

def asked (frame : FrameId) (log : List (BrainEvent FrameId Sense Decision Combobulation)) : Nat :=
  log.countP (BrainEvent.asks frame)

/-- The responses that name the request from that frame. -/
def answered (frame : FrameId) (log : List (BrainEvent FrameId Sense Decision Combobulation)) :
    Nat :=
  log.countP (BrainEvent.answers frame)

theorem asked_le (h : first <+: second) : asked frame first ≤ asked frame second :=
  h.sublist.countP_le

theorem answered_le (h : first <+: second) : answered frame first ≤ answered frame second :=
  h.sublist.countP_le

end Events

/-- Requests and responses in turn, and the request that is still open. -/
inductive Exchanged : List (BrainEvent FrameId Sense Decision Combobulation) →
    Option (PendingLlmCognition FrameId) → Prop
  | start : Exchanged [] none
  | request {log} (frame : FrameId) (tMs : Nat) (h : Exchanged log none)
      (hcooled : ∀ event ∈ responses log, event.observedAtMs + cooldownMs ≤ tMs) :
      Exchanged (log ++ [.request (higherBrainRequestEvent frame tMs)])
        (some ⟨frame, tMs, tMs + deadlineMs⟩)
  | response {log} {pending : PendingLlmCognition FrameId}
      (event : ResponseEvent FrameId Sense Decision Combobulation)
      (h : Exchanged log (some pending)) (hnamed : event.requestFrameId = pending.requestFrameId)
      (hrequested : event.requestedAtMs = pending.requestedAtMs)
      (htimely : event.disposition = .accepted → event.observedAtMs ≤ pending.deadlineMs) :
      Exchanged (log ++ [.response event]) none
  | unavailable {log} {pending} (frame : FrameId) (tMs : Nat) (reason : String)
      (h : Exchanged log pending) :
      Exchanged (log ++ [.unavailable frame tMs reason]) pending

namespace Exchanged

variable {log part : List (BrainEvent FrameId Sense Decision Combobulation)}
  {pending : Option (PendingLlmCognition FrameId)}

theorem asked_eq [DecidableEq FrameId] (h : Exchanged log pending) (frame : FrameId) :
    asked frame log = answered frame log +
      if pending.any (fun waiting => waiting.requestFrameId = frame) then 1 else 0 := by
  induction h with
  | start => rfl
  | request other tMs h hcooled ih =>
    by_cases heq : other = frame <;>
      simp_all [asked, answered, BrainEvent.asks, BrainEvent.answers, higherBrainRequestEvent]
  | response event h hnamed hrequested htimely ih =>
    rename_i pending
    by_cases heq : pending.requestFrameId = frame <;>
      simp_all [asked, answered, BrainEvent.asks, BrainEvent.answers]
  | unavailable other tMs reason h ih =>
    simpa [asked, answered, BrainEvent.asks, BrainEvent.answers] using ih

theorem requested_eq (h : Exchanged log pending) :
    requested log = (responses log).length + if pending.isSome then 1 else 0 := by
  induction h with
  | start => rfl
  | request frame tMs h hcooled ih => simpa [requested, BrainEvent.isRequest] using ih
  | response event h hnamed hrequested htimely ih =>
    simpa [requested, BrainEvent.isRequest] using ih
  | unavailable frame tMs reason h ih => simpa [requested, BrainEvent.isRequest] using ih

theorem of_isPrefix (h : Exchanged log pending) (hpart : part <+: log) :
    ∃ before, Exchanged part before := by
  induction h with
  | start =>
    rw [List.prefix_nil.mp hpart]
    exact ⟨none, .start⟩
  | request frame tMs h hcooled ih =>
    rcases List.prefix_concat_iff.mp hpart with rfl | hpart
    · exact ⟨_, .request frame tMs h hcooled⟩
    · exact ih hpart
  | response event h hnamed hrequested htimely ih =>
    rcases List.prefix_concat_iff.mp hpart with rfl | hpart
    · exact ⟨none, .response event h hnamed hrequested htimely⟩
    · exact ih hpart
  | unavailable frame tMs reason h ih =>
    rcases List.prefix_concat_iff.mp hpart with rfl | hpart
    · exact ⟨_, .unavailable frame tMs reason h⟩
    · exact ih hpart

theorem request_mem {waiting : PendingLlmCognition FrameId} (h : Exchanged log (some waiting)) :
    ∃ event, .request event ∈ log ∧ event.frameId = waiting.requestFrameId ∧
      event.tMs = waiting.requestedAtMs ∧ event.deadlineMs = waiting.deadlineMs := by
  generalize hopen : some waiting = pending at h
  induction h with
  | start => cases hopen
  | request frame tMs h hcooled ih =>
    obtain rfl := Option.some.inj hopen
    exact ⟨higherBrainRequestEvent frame tMs, by simp, rfl, rfl, rfl⟩
  | response event h hnamed hrequested htimely ih => cases hopen
  | unavailable frame tMs reason h ih =>
    obtain ⟨event, hmem, hfacts⟩ := ih hopen
    exact ⟨event, List.mem_append_left _ hmem, hfacts⟩

theorem answers_request (h : Exchanged log pending)
    {event : ResponseEvent FrameId Sense Decision Combobulation} (hevent : event ∈ responses log) :
    ∃ request, .request request ∈ log ∧ request.frameId = event.requestFrameId ∧
      request.tMs = event.requestedAtMs ∧
      (event.disposition = .accepted → event.observedAtMs ≤ request.deadlineMs) := by
  induction h with
  | start => cases hevent
  | request frame tMs h hcooled ih =>
    obtain ⟨request, hmem, hfacts⟩ := ih (by simpa using hevent)
    exact ⟨request, List.mem_append_left _ hmem, hfacts⟩
  | response answer h hnamed hrequested htimely ih =>
    rw [responses_append, responses_response] at hevent
    rcases List.mem_append.mp hevent with hevent | hevent
    · obtain ⟨request, hmem, hfacts⟩ := ih hevent
      exact ⟨request, List.mem_append_left _ hmem, hfacts⟩
    · obtain rfl := List.mem_singleton.mp hevent
      obtain ⟨request, hmem, hframe, htMs, hdeadline⟩ := h.request_mem
      exact ⟨request, List.mem_append_left _ hmem, hframe.trans hnamed.symm,
        htMs.trans hrequested.symm, fun haccepted => hdeadline ▸ htimely haccepted⟩
  | unavailable frame tMs reason h ih =>
    obtain ⟨request, hmem, hfacts⟩ := ih (by simpa using hevent)
    exact ⟨request, List.mem_append_left _ hmem, hfacts⟩

theorem request_inv {request : RequestEvent FrameId}
    (h : Exchanged (log ++ [.request request]) pending) :
    pending = some ⟨request.frameId, request.tMs, request.deadlineMs⟩ ∧
      ∀ event ∈ responses log, event.observedAtMs + cooldownMs ≤ request.tMs := by
  generalize hwhole : log ++ [BrainEvent.request request] = whole at h
  cases h with
  | start => simp at hwhole
  | request frame tMs h hcooled =>
    obtain ⟨rfl, hlast⟩ := List.append_inj' hwhole rfl
    obtain rfl : request = higherBrainRequestEvent frame tMs := by simpa using hlast
    exact ⟨rfl, hcooled⟩
  | response event h hnamed hrequested htimely =>
    have hlast := (List.append_inj' hwhole rfl).2
    simp at hlast
  | unavailable frame tMs reason h =>
    have hlast := (List.append_inj' hwhole rfl).2
    simp at hlast

theorem cooled {before rest : List (BrainEvent FrameId Sense Decision Combobulation)}
    {request : RequestEvent FrameId} (h : Exchanged (before ++ .request request :: rest) pending) :
    ∀ event ∈ responses before, event.observedAtMs + cooldownMs ≤ request.tMs := by
  have hpart : before ++ [BrainEvent.request request] <+: before ++ BrainEvent.request request :: rest :=
    ⟨rest, by simp⟩
  obtain ⟨opened, hexchanged⟩ := h.of_isPrefix hpart
  exact hexchanged.request_inv.2

theorem split_concat {event : BrainEvent FrameId Sense Decision Combobulation}
    {request : RequestEvent FrameId}
    {before rest : List (BrainEvent FrameId Sense Decision Combobulation)}
    (heq : log ++ [event] = before ++ .request request :: rest) :
    log = before ∧ event = .request request ∨
      ∃ rest', log = before ++ .request request :: rest' := by
  cases rest using List.reverseRecOn with
  | nil =>
    obtain ⟨hlog, hlast⟩ := List.append_inj' heq rfl
    exact .inl ⟨hlog, by simpa using hlast⟩
  | append_singleton rest last =>
    rw [← List.cons_append, ← List.append_assoc] at heq
    exact .inr ⟨rest, (List.append_inj' heq rfl).1⟩

theorem settled [DecidableEq FrameId]
    {before rest : List (BrainEvent FrameId Sense Decision Combobulation)}
    {request : RequestEvent FrameId} (h : Exchanged log pending)
    (heq : log = before ++ .request request :: rest) :
    asked request.frameId (before ++ [.request request]) ≤ answered request.frameId log ∨
      pending = some ⟨request.frameId, request.tMs, request.deadlineMs⟩ := by
  induction h generalizing rest with
  | start => simp at heq
  | request frame tMs h hcooled ih =>
    rcases split_concat heq with ⟨-, hlast⟩ | ⟨rest', hrest⟩
    · obtain rfl : higherBrainRequestEvent frame tMs = request := by simpa using hlast
      exact .inr rfl
    · rcases ih hrest with hsettled | hopened
      · exact .inl (hsettled.trans (answered_le (List.prefix_append _ _)))
      · cases hopened
  | response event h hnamed hrequested htimely ih =>
    have hbalanced := (Exchanged.response event h hnamed hrequested htimely).asked_eq
      request.frameId
    have hpart : before ++ [BrainEvent.request request] <+:
        before ++ BrainEvent.request request :: rest :=
      ⟨rest, by simp⟩
    have hasked : asked request.frameId (before ++ [BrainEvent.request request]) ≤ _ := asked_le hpart
    rw [← heq, hbalanced] at hasked
    exact .inl hasked
  | unavailable frame tMs reason h ih =>
    rcases split_concat heq with ⟨-, hlast⟩ | ⟨rest', hrest⟩
    · cases hlast
    · rcases ih hrest with hsettled | hopened
      · exact .inl (hsettled.trans (answered_le (List.prefix_append _ _)))
      · exact .inr hopened

end Exchanged

end Netherwick.Cognition
