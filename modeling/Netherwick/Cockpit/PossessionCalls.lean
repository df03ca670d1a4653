import Netherwick.Cockpit.Possession

/-! # The calls of a possession

What each operation of a possession may send, and that none but the reopening of the gate after a
safety clear ever opens it. -/

namespace Netherwick.Cockpit

open Netherwick.Lib

/-- Every exchange that `new` adds to `old` satisfies `P`. -/
def Sent (P : Exchange → Prop) (old new : List Exchange) : Prop :=
  ∃ recent, new = recent ++ old ∧ ∀ e ∈ recent, P e

section Sent

variable {P Q : Exchange → Prop} {a b c : List Exchange}

theorem Sent.refl : Sent P a a := ⟨[], rfl, by simp⟩

theorem Sent.one {e : Exchange} (h : P e) : Sent P a (e :: a) := ⟨[e], rfl, by simpa using h⟩

theorem Sent.trans (hab : Sent P a b) (hbc : Sent P b c) : Sent P a c := by
  obtain ⟨first, rfl, hfirst⟩ := hab
  obtain ⟨second, rfl, hsecond⟩ := hbc
  refine ⟨second ++ first, by simp, ?_⟩
  intro e he
  cases List.mem_append.mp he with
  | inl h => exact hsecond e h
  | inr h => exact hfirst e h

theorem Sent.imp (himp : ∀ e, P e → Q e) (h : Sent P a b) : Sent Q a b := by
  obtain ⟨recent, rfl, hrecent⟩ := h
  exact ⟨recent, rfl, fun e he => himp e (hrecent e he)⟩

end Sent

/-- What a possession is set up with and keeps. -/
structure SameTerms (p p' : MotherbrainPossession) : Prop where
  outcome : p'.session.outcome = p.session.outcome
  motionTtlMs : p'.motionTtlMs = p.motionTtlMs
  heartbeatTimeoutMs : p'.heartbeatTimeoutMs = p.heartbeatTimeoutMs
  maxLinearMmS : p'.maxLinearMmS = p.maxLinearMmS
  maxAngularMradS : p'.maxAngularMradS = p.maxAngularMradS

theorem SameTerms.refl (p : MotherbrainPossession) : SameTerms p p := by
  constructor <;> rfl

theorem SameTerms.trans {p q r : MotherbrainPossession} (hpq : SameTerms p q)
    (hqr : SameTerms q r) : SameTerms p r := by
  constructor
  · rw [hqr.outcome, hpq.outcome]
  · rw [hqr.motionTtlMs, hpq.motionTtlMs]
  · rw [hqr.heartbeatTimeoutMs, hpq.heartbeatTimeoutMs]
  · rw [hqr.maxLinearMmS, hpq.maxLinearMmS]
  · rw [hqr.maxAngularMradS, hpq.maxAngularMradS]

abbrev MotherbrainPossession.exchanges (p : MotherbrainPossession) : List Exchange :=
  p.session.connector.exchanges

/-- The terms stay and the new exchanges satisfy `P`. -/
structure Keeps (P : Exchange → Prop) (p p' : MotherbrainPossession) : Prop where
  terms : SameTerms p p'
  sent : Sent P p.exchanges p'.exchanges

structure Calls (P : Exchange → Prop) (p p' : MotherbrainPossession) : Prop extends
    Keeps P p p' where
  gate : p'.motorGateOpen = true → p.motorGateOpen = true

section Calls

variable {P Q : Exchange → Prop} {p q r : MotherbrainPossession}

theorem Keeps.refl (p : MotherbrainPossession) : Keeps P p p := ⟨.refl p, .refl⟩

theorem Keeps.trans (hpq : Keeps P p q) (hqr : Keeps P q r) : Keeps P p r :=
  ⟨hpq.terms.trans hqr.terms, hpq.sent.trans hqr.sent⟩

theorem Calls.refl (p : MotherbrainPossession) : Calls P p p := ⟨.refl p, id⟩

theorem Calls.trans (hpq : Calls P p q) (hqr : Calls P q r) : Calls P p r :=
  ⟨hpq.toKeeps.trans hqr.toKeeps, fun h => hpq.gate (hqr.gate h)⟩

theorem Calls.imp (himp : ∀ e, P e → Q e) (h : Calls P p q) : Calls Q p q :=
  ⟨⟨h.terms, h.sent.imp himp⟩, h.gate⟩

end Calls

section Rules

variable {α β : Type} {P Q : Exchange → Prop} {m : Possessed α} {k : α → Possessed β}

abbrev Calling (P : Exchange → Prop) (m : Possessed α) : Prop := Prog.Stays (Calls P) m

theorem Calling.bind (hm : Calling P m) (hk : ∀ a, Calling P (k a)) : Calling P (m >>= k) :=
  Prog.Stays.bind (fun _ _ _ => Calls.trans) hm hk

theorem Calling.pure (a : α) : Calling P (Pure.pure a : Possessed α) := Prog.Stays.pure .refl a

theorem Calling.get : Calling P (Prog.get : Possessed MotherbrainPossession) :=
  Prog.Stays.get .refl

theorem Calling.fail (error : CockpitError) : Calling P (failWith error : Possessed α) :=
  Prog.Stays.fail .refl _

theorem Calling.when {c : Prop} [Decidable c] {m : Possessed Unit} (h : Calling P m) :
    Calling P (Prog.when c m) :=
  Prog.Stays.when .refl h

theorem attempt_snd {σ : Type} (m : Prog σ Abort α) (s : σ) : (attempt m s).2 = (m s).2 := by
  unfold attempt
  split
  · rename_i h; rw [h]
  · rename_i h; rw [h]
  · rename_i h; rw [h]

theorem Calling.attempt (h : Calling P m) : Calling P (Cockpit.attempt m) := by
  intro p
  rw [attempt_snd]
  exact h p

end Rules

section Operations

variable {α : Type} {P : Exchange → Prop} (env : Surroundings)

/-- Sessions change their leases and their connector only. -/
structure SessionCalls (P : Exchange → Prop) (s s' : SessionCockpit) : Prop where
  outcome : s'.outcome = s.outcome
  sent : Sent P s.connector.exchanges s'.connector.exchanges

theorem SessionCalls.refl (s : SessionCockpit) : SessionCalls P s s := ⟨rfl, .refl⟩

theorem SessionCalls.trans {s t u : SessionCockpit} (hst : SessionCalls P s t)
    (htu : SessionCalls P t u) : SessionCalls P s u :=
  ⟨htu.outcome.trans hst.outcome, hst.sent.trans htu.sent⟩

theorem Calling.onSession {m : Sessional α} (h : Prog.Stays (SessionCalls P) m) :
    Calling P (Cockpit.onSession m) := by
  intro p
  refine ⟨⟨?_, (h p.session).sent⟩, id⟩
  constructor
  · exact (h p.session).outcome
  all_goals rfl

theorem call_stays {scope : Scope} {request : CockpitRequest}
    (h : ∀ e : Exchange, e.call.request = request → P e) :
    Prog.Stays (SessionCalls P) (env.call scope request) :=
  fun _ => ⟨rfl, .one (h _ rfl)⟩

def Admits (overflowChecks : Bool) (contract : CockpitContract) (request : CockpitRequest) : Prop :=
  contract.validateRequest overflowChecks request = .ok ()

theorem executeSession_calls (request : CockpitRequest) (s : SessionCockpit) :
    SessionCalls
      (fun e => e.call.request = request ∧ Admits env.overflowChecks s.outcome.contract request)
      s (env.executeSession request s).2 := by
  unfold Surroundings.executeSession
  rw [Prog.get_bind, Prog.bind_apply]
  unfold lift
  cases hvalid : s.outcome.contract.validateRequest env.overflowChecks request with
  | error abort => exact .refl s
  | ok _ =>
    have hcall : ∀ scope, Prog.Stays (SessionCalls fun e => e.call.request = request ∧
        Admits env.overflowChecks s.outcome.contract request) (env.call scope request) :=
      fun scope => call_stays env fun e he => ⟨he, hvalid⟩
    have hfail : ∀ error, Prog.Stays (SessionCalls fun e => e.call.request = request ∧
        Admits env.overflowChecks s.outcome.contract request)
        (failWith error : Sessional CockpitResponse) :=
      fun _ => Prog.Stays.fail .refl _
    cases request.authorizationClass with
    | controlLease =>
      cases s.controlLease with
      | none => exact hfail _ s
      | some lease => exact Prog.Stays.ite (hfail _) (hcall _) s
    | serviceLease =>
      cases s.serviceLease with
      | none => exact hfail _ s
      | some lease => exact Prog.Stays.ite (hfail _) (hcall _) s
    | readOnly => exact hcall _ s
    | emergency => exact hcall _ s
    | session => exact hcall _ s

theorem acquireControl_stays {authority : ControlAuthority} {ttlMs : UInt32}
    (h : ∀ e : Exchange, e.call.request = .acquireControlLease authority ttlMs → P e) :
    Prog.Stays (SessionCalls P) (env.acquireControl authority ttlMs) := by
  refine Prog.Stays.bind (fun _ _ _ => SessionCalls.trans) (call_stays env h) ?_
  intro response
  split
  · exact Prog.Stays.act fun s => ⟨rfl, .refl⟩
  · exact Prog.Stays.fail .refl _

/-- The requests a possession makes of its own accord. -/
def SelfMade (request : CockpitRequest) : Prop :=
  request = .getStatus ∨ ∃ ttlMs, request = .acquireControlLease .motherbrain ttlMs

variable {env}

theorem closeGate_calling (reason : String) : Calling P (Surroundings.closeGate reason) := by
  intro p
  exact ⟨⟨⟨rfl, rfl, rfl, rfl, rfl⟩, .refl⟩, fun h => nomatch h⟩

theorem stampLease_calling : Calling P Surroundings.stampLease := by
  intro p
  exact ⟨⟨⟨rfl, rfl, rfl, rfl, rfl⟩, .refl⟩, id⟩

theorem renewControlLease_calling (h : ∀ e : Exchange, SelfMade e.call.request → P e) :
    Calling P env.renewControlLease := by
  refine Calling.get.bind fun p => ?_
  refine Calling.bind (Calling.attempt (Calling.onSession (acquireControl_stays env ?_))) ?_
  · intro e he
    exact h e (.inr ⟨_, he⟩)
  · intro result
    cases result with
    | error error => exact (closeGate_calling _).bind fun _ => .fail _
    | ok _ => exact stampLease_calling

theorem maintain_calling (h : ∀ e : Exchange, SelfMade e.call.request → P e) :
    Calling P env.maintain := by
  refine Calling.get.bind fun p => ?_
  apply Prog.Stays.ite
  · exact Calling.fail _
  · exact Prog.Stays.ite (Calling.pure _) (renewControlLease_calling h)

theorem maintain_closed {p : MotherbrainPossession} (h : p.motorGateOpen = false) :
    env.maintain p =
      (.error (.failed (.policy (p.refusalReason.getD "not possessed"))), p) := by
  unfold Surroundings.maintain
  rw [Prog.get_bind, h]
  rfl

theorem executeSession_calling {request : CockpitRequest}
    (h : ∀ (contract : CockpitContract) (e : Exchange),
      Admits env.overflowChecks contract request → e.call.request = request → P e) :
    Calling P (onSession (env.executeSession request)) :=
  Calling.onSession fun s =>
    ⟨(executeSession_calls env request s).outcome,
      (executeSession_calls env request s).sent.imp fun e he => h _ e he.2 he.1⟩

theorem annotateBusyRejection_calling (h : ∀ e : Exchange, SelfMade e.call.request → P e)
    (commandId : UInt32) (name : String) :
    Calling P (env.annotateBusyRejection commandId name) := by
  refine Calling.bind (Calling.attempt (executeSession_calling fun _ e _ he => h e (.inl he))) ?_
  intro result
  split
  · exact .pure _
  · exact .pure _

theorem sleep_calling : Calling P (Prog.act fun p : MotherbrainPossession =>
    { p with session.connector.nowMs :=
      p.session.connector.nowMs + possessionBusyRetryDelayMs }) := by
  intro p
  exact ⟨⟨⟨rfl, rfl, rfl, rfl, rfl⟩, .refl⟩, id⟩

end Operations

section Attending

variable {α : Type} {env : Surroundings} {request : CockpitRequest}

/-- The calls made for the sake of one request, which the contract must admit to be sent. -/
def Attends (overflowChecks : Bool) (contract : CockpitContract) (request : CockpitRequest)
    (e : Exchange) : Prop :=
  (e.call.request = request ∧ Admits overflowChecks contract request) ∨ SelfMade e.call.request

def Attending (overflowChecks : Bool) (request : CockpitRequest)
    (p p' : MotherbrainPossession) : Prop :=
  Calls (Attends overflowChecks p.session.outcome.contract request) p p'

theorem Attending.trans {overflowChecks : Bool} {p q r : MotherbrainPossession}
    (hpq : Attending overflowChecks request p q) (hqr : Attending overflowChecks request q r) :
    Attending overflowChecks request p r := by
  unfold Attending at hqr
  rw [hpq.terms.outcome] at hqr
  exact Calls.trans hpq hqr

theorem Attending.bind {β : Type} {overflowChecks : Bool} {m : Possessed α} {k : α → Possessed β}
    (hm : Prog.Stays (Attending overflowChecks request) m)
    (hk : ∀ a, Prog.Stays (Attending overflowChecks request) (k a)) :
    Prog.Stays (Attending overflowChecks request) (m >>= k) :=
  Prog.Stays.bind (fun _ _ _ hpq hqr => hpq.trans hqr) hm hk

theorem Calling.attending {m : Possessed α}
    (h : ∀ P : Exchange → Prop, (∀ e, SelfMade e.call.request → P e) → Calling P m) :
    Prog.Stays (Attending env.overflowChecks request) m :=
  fun p => h _ (fun _ he => .inr he) p

theorem busyRetry_attending (request : CockpitRequest) (remaining : Nat) (renewed : Bool) :
    Prog.Stays (Attending env.overflowChecks request) (env.busyRetry request remaining renewed) := by
  induction remaining generalizing renewed with
  | zero => exact Prog.Stays.fail (fun p => Calls.refl p) _
  | succ remaining ih =>
    apply Attending.bind
    · intro p
      rw [attempt_snd]
      have hcalls := executeSession_calls env request p.session
      exact ⟨⟨⟨hcalls.outcome, rfl, rfl, rfl, rfl⟩, hcalls.sent.imp fun _ he => .inl he⟩, id⟩
    · intro result
      have hrenew : ∀ error : CockpitError, Prog.Stays (Attending env.overflowChecks request)
          (if request.authorizationClass = .controlLease ∧ !renewed ∧
              isControlLeaseRejection error then do
            env.renewControlLease
            env.busyRetry request remaining true
          else failWith error) := by
        intro error
        apply Prog.Stays.ite
        · apply Attending.bind
          · exact Calling.attending fun P hP => renewControlLease_calling hP
          · exact fun _ => ih true
        · exact Prog.Stays.fail (fun p => Calls.refl p) _
      cases result with
      | ok response => exact Prog.Stays.pure (fun p => Calls.refl p) _
      | error error =>
        dsimp only
        split
        · apply Prog.Stays.ite
          · apply Attending.bind
            · exact Calling.attending fun P _ => sleep_calling
            · exact fun _ => ih renewed
          · apply Attending.bind
            · exact Calling.attending fun P hP => annotateBusyRejection_calling hP _ _
            · exact fun _ => Prog.Stays.fail (fun p => Calls.refl p) _
        · exact hrenew _

theorem executeWithBusyRetry_attending (request : CockpitRequest) :
    Prog.Stays (Attending env.overflowChecks request) (env.executeWithBusyRetry request) :=
  busyRetry_attending request _ _

theorem expectAccepted_calling {P : Exchange → Prop} (response : CockpitResponse) :
    Calling P (env.expectAccepted response) := by
  unfold Surroundings.expectAccepted
  split
  · exact .pure _
  · exact .fail _
  · exact .fail _

theorem submit_attending (request : CockpitRequest) :
    Prog.Stays (Attending env.overflowChecks request) (env.submit request) := by
  apply Attending.bind
  · intro p
    rw [attempt_snd]
    exact executeWithBusyRetry_attending request p
  · intro result
    cases result with
    | ok response => exact Prog.Stays.pure (fun p => Calls.refl p) _
    | error error =>
      apply Attending.bind
      · exact Calling.attending fun P _ => Calling.when (closeGate_calling _)
      · exact fun _ => Prog.Stays.fail (fun p => Calls.refl p) _

theorem heartbeat_calling {P : Exchange → Prop} (request : CockpitRequest)
    (hself : ∀ e, SelfMade e.call.request → P e)
    (hbeat : ∀ e timeoutMs, e.call.request = .heartbeatStop timeoutMs → P e) :
    Calling P (env.heartbeat request) := by
  refine Calling.get.bind fun p => ?_
  split
  · rename_i timeoutMs _
    refine Calling.bind (fun q => ?_) fun response => expectAccepted_calling response
    apply (executeWithBusyRetry_attending (.heartbeatStop timeoutMs) q).imp
    intro e he
    cases he with
    | inl h => exact hbeat e timeoutMs h.1
    | inr h => exact hself e h
  · exact .pure _

theorem executeScoped_calling {P : Exchange → Prop} (request : CockpitRequest)
    (hself : ∀ e, SelfMade e.call.request → P e)
    (hbeat : ∀ e timeoutMs, e.call.request = .heartbeatStop timeoutMs → P e)
    (hrequest : ∀ p contract request' e, Surroundings.rewrite p request = .ok request' →
      Admits env.overflowChecks contract request' → e.call.request = request' → P e) :
    Calling P (env.executeScoped request) := by
  refine Calling.bind (Calling.when (maintain_calling hself)) fun _ => ?_
  split
  · exact .fail _
  · intro p
    rw [Prog.get_bind, Prog.bind_apply]
    unfold lift
    cases hrewrite : Surroundings.rewrite p request with
    | error abort => exact Calls.refl p
    | ok request' =>
      refine Calling.bind (heartbeat_calling request' hself hbeat) (fun _ q => ?_) p
      apply (submit_attending request' q).imp
      intro e he
      cases he with
      | inl h => exact hrequest p _ request' e hrewrite h.2 h.1
      | inr h => exact hself e h

theorem executeReadOnly_calling {P : Exchange → Prop} (request : CockpitRequest)
    (hself : ∀ e, SelfMade e.call.request → P e)
    (hrequest : ∀ contract e, Admits env.overflowChecks contract request →
      e.call.request = request → P e) :
    Calling P (env.executeReadOnly request) := by
  refine Calling.get.bind fun p => ?_
  refine Calling.bind (Calling.when (maintain_calling hself)) fun _ => ?_
  refine Calling.bind (Calling.attempt (executeSession_calling hrequest)) fun result => ?_
  cases result with
  | error error => exact (closeGate_calling _).bind fun _ => .fail _
  | ok response =>
    cases response with
    | status status =>
      refine Calling.bind (fun q => ?_) fun _ =>
        Calling.bind (Calling.when (closeGate_calling _)) fun _ => .pure _
      exact ⟨⟨⟨rfl, rfl, rfl, rfl, rfl⟩, .refl⟩, id⟩
    | _ => exact .pure _

theorem reopenGateIfSafetyClear_keeps {P : Exchange → Prop}
    (hself : ∀ e, SelfMade e.call.request → P e) :
    Prog.Stays (Keeps P) env.reopenGateIfSafetyClear := by
  have htrans : ∀ p q r : MotherbrainPossession, Keeps P p q → Keeps P q r → Keeps P p r :=
    fun _ _ _ => Keeps.trans
  have hset : ∀ f : MotherbrainPossession → MotherbrainPossession,
      (∀ p, SameTerms p (f p)) → (∀ p, (f p).exchanges = p.exchanges) →
      Prog.Stays (Keeps P) (Prog.act f : Possessed Unit) := by
    intro f hterms hexchanges p
    refine ⟨hterms p, ?_⟩
    change Sent P p.exchanges (f p).exchanges
    rw [hexchanges p]
    exact .refl
  refine Prog.Stays.bind htrans ?_ ?_
  · exact fun p => (executeSession_calling (fun _ e _ he => hself e (.inl he)) p).toKeeps
  · intro response
    cases response with
    | status status =>
      refine Prog.Stays.bind htrans (hset _ (fun _ => ⟨rfl, rfl, rfl, rfl, rfl⟩) fun _ => rfl) ?_
      intro _
      apply Prog.Stays.ite
      · exact Prog.Stays.pure .refl _
      · refine Prog.Stays.bind htrans (Prog.Stays.get .refl) fun p => ?_
        refine Prog.Stays.bind htrans ?_ ?_
        · intro q
          exact (Calling.attempt (Calling.onSession
            (acquireControl_stays env fun e he => hself e (.inr ⟨_, he⟩))) q).toKeeps
        · intro result
          cases result with
          | error error =>
            exact fun q => (((closeGate_calling _).bind fun _ => .fail _) q).toKeeps
          | ok _ =>
            refine Prog.Stays.bind htrans (fun q => (stampLease_calling q).toKeeps) fun _ => ?_
            exact hset _ (fun _ => ⟨rfl, rfl, rfl, rfl, rfl⟩) fun _ => rfl
    | _ => exact Prog.Stays.fail .refl _

theorem rewrite_of_readOnly (p : MotherbrainPossession)
    (h : request.authorizationClass = .readOnly) :
    Surroundings.rewrite p request = .ok request := by
  cases request with
  | cmdVel => cases h
  | bumpEscape => cases h
  | _ => rfl

theorem execute_keeps {P : Exchange → Prop} (request : CockpitRequest)
    (hself : ∀ e, SelfMade e.call.request → P e)
    (hbeat : ∀ e timeoutMs, e.call.request = .heartbeatStop timeoutMs → P e)
    (hrequest : ∀ p contract request' e, Surroundings.rewrite p request = .ok request' →
      Admits env.overflowChecks contract request' → e.call.request = request' → P e) :
    Prog.Stays (Keeps P) (env.execute request) := by
  have hscoped : Prog.Stays (Keeps P) (do
      let response ← env.executeScoped request
      Prog.when (Surroundings.reopensAfterClear request = true) env.reopenGateIfSafetyClear
      pure response) := by
    refine Prog.Stays.bind (fun _ _ _ => Keeps.trans) ?_ fun response => ?_
    · exact fun p => (executeScoped_calling request hself hbeat hrequest p).toKeeps
    · refine Prog.Stays.bind (fun _ _ _ => Keeps.trans) ?_ fun _ => Prog.Stays.pure .refl _
      exact Prog.Stays.when .refl (reopenGateIfSafetyClear_keeps hself)
  unfold Surroundings.execute
  cases hclass : request.authorizationClass with
  | readOnly =>
    intro p
    refine (executeReadOnly_calling request hself (fun contract e hadmits he => ?_) p).toKeeps
    exact hrequest p contract request e (rewrite_of_readOnly p hclass) hadmits he
  | serviceLease => exact Prog.Stays.fail .refl _
  | emergency => exact hscoped
  | session => exact hscoped
  | controlLease => exact hscoped

end Attending

section Answers

variable {env : Surroundings} {request : CockpitRequest}

def Answered (request : CockpitRequest) (response : CockpitResponse) (old new : List Exchange) :
    Prop :=
  ∃ e recent, new = e :: (recent ++ old) ∧ e.call.request = request ∧ e.answer = .ok response

theorem Answered.after {P : Exchange → Prop} {response : CockpitResponse} {a b c : List Exchange}
    (hbc : Answered request response b c) (hab : Sent P a b) : Answered request response a c := by
  obtain ⟨first, rfl, _⟩ := hab
  obtain ⟨e, recent, rfl, hrequest, hanswer⟩ := hbc
  exact ⟨e, recent ++ first, by simp, hrequest, hanswer⟩

theorem call_ok {scope : Scope} {s s' : SessionCockpit} {response : CockpitResponse}
    (h : env.call scope request s = (.ok response, s')) :
    Answered request response s.connector.exchanges s'.connector.exchanges := by
  have hanswer := congrArg Prod.fst h
  have hstate : (env.call scope request s).2 = s' := congrArg Prod.snd h
  rw [← hstate]
  refine ⟨_, [], rfl, rfl, ?_⟩
  dsimp only [Surroundings.call] at hanswer ⊢
  revert hanswer
  cases env.answer s.connector.exchanges _ with
  | error error => exact fun h => nomatch h
  | ok answer => exact fun h => congrArg Except.ok (Except.ok.inj h)

theorem executeSession_ok {s s' : SessionCockpit} {response : CockpitResponse}
    (h : env.executeSession request s = (.ok response, s')) :
    Answered request response s.connector.exchanges s'.connector.exchanges := by
  unfold Surroundings.executeSession at h
  rw [Prog.get_bind, Prog.bind_apply] at h
  unfold lift at h
  cases hvalid : s.outcome.contract.validateRequest env.overflowChecks request with
  | error abort =>
    rw [hvalid] at h
    cases h
  | ok _ =>
    rw [hvalid] at h
    cases hclass : request.authorizationClass with
    | controlLease =>
      simp only [hclass] at h
      cases hlease : s.controlLease with
      | none => rw [hlease] at h; cases h
      | some lease =>
        simp only [hlease] at h
        split at h
        · cases h
        · exact call_ok h
    | serviceLease =>
      simp only [hclass] at h
      cases hlease : s.serviceLease with
      | none => rw [hlease] at h; cases h
      | some lease =>
        simp only [hlease] at h
        split at h
        · cases h
        · exact call_ok h
    | readOnly => simp only [hclass] at h; exact call_ok h
    | emergency => simp only [hclass] at h; exact call_ok h
    | session => simp only [hclass] at h; exact call_ok h

theorem onSession_ok {α : Type} {m : Sessional α} {p p' : MotherbrainPossession} {a : α}
    (h : onSession m p = (.ok a, p')) : m p.session = (.ok a, p'.session) := by
  have hvalue := congrArg Prod.fst h
  have hstate := congrArg (fun r => r.2.session) h
  exact Prod.ext hvalue hstate

theorem attempt_ok {σ α : Type} {m : Prog σ Abort α} {s s' : σ} {a : α}
    (h : attempt m s = (.ok (.ok a), s')) : m s = (.ok a, s') := by
  unfold attempt at h
  split at h
  · rename_i hm
    cases h
    exact hm
  · cases h
  · cases h

theorem Calling.sent {α : Type} {P : Exchange → Prop} {m : Possessed α} (h : Calling P m)
    {p p' : MotherbrainPossession} {result : Except Abort α} (hm : m p = (result, p')) :
    Sent P p.exchanges p'.exchanges := by
  have hs := (h p).sent
  rwa [hm] at hs

theorem busyRetry_ok {remaining : Nat} {renewed : Bool} {p p' : MotherbrainPossession}
    {response : CockpitResponse}
    (h : env.busyRetry request remaining renewed p = (.ok response, p')) :
    Answered request response p.exchanges p'.exchanges := by
  induction remaining generalizing renewed p with
  | zero => cases h
  | succ remaining ih =>
    obtain ⟨result, q, hattempt, h⟩ := Prog.bind_eq_ok.mp h
    have hfirst : Sent (fun _ => True) p.exchanges q.exchanges :=
      (Calling.attempt (executeSession_calling fun _ _ _ _ => trivial)).sent hattempt
    cases result with
    | ok answer =>
      cases h
      exact executeSession_ok (onSession_ok (attempt_ok hattempt))
    | error error =>
      dsimp only at h
      split at h
      · split at h
        · obtain ⟨_, r, hsleep, h⟩ := Prog.bind_eq_ok.mp h
          have hsecond : Sent (fun _ => True) q.exchanges r.exchanges :=
            sleep_calling.sent hsleep
          exact ((ih h).after hsecond).after hfirst
        · obtain ⟨_, _, _, h⟩ := Prog.bind_eq_ok.mp h
          cases h
      · split at h
        · obtain ⟨_, r, hrenew, h⟩ := Prog.bind_eq_ok.mp h
          have hsecond : Sent (fun _ => True) q.exchanges r.exchanges :=
            (renewControlLease_calling fun _ _ => trivial).sent hrenew
          exact ((ih h).after hsecond).after hfirst
        · cases h

theorem expectAccepted_ok {σ : Type} {s s' : σ} {response : CockpitResponse}
    (h : (env.expectAccepted response : Prog σ Abort Unit) s = (.ok (), s')) :
    response = .accepted ∧ s' = s := by
  unfold Surroundings.expectAccepted at h
  split at h
  · cases h
    exact ⟨rfl, rfl⟩
  · cases h
  · cases h

theorem heartbeat_ok {p p' : MotherbrainPossession} {timeoutMs : UInt32}
    (htimeout : Surroundings.heartbeatTimeout p request = some timeoutMs)
    (h : env.heartbeat request p = (.ok (), p')) :
    Answered (.heartbeatStop timeoutMs) .accepted p.exchanges p'.exchanges := by
  unfold Surroundings.heartbeat at h
  rw [Prog.get_bind, htimeout] at h
  obtain ⟨response, q, hretry, haccepted⟩ := Prog.bind_eq_ok.mp h
  obtain ⟨rfl, rfl⟩ := expectAccepted_ok haccepted
  exact busyRetry_ok hretry

end Answers

end Netherwick.Cockpit
