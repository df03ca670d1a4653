import Netherwick.Cockpit.MotionReach

/-! # The motor gate over a run

The gate closes on many paths and opens on one, the safety clear. A run is kept with its history,
so that what was surrendered or confirmed earlier can be told. -/

namespace Netherwick.Cockpit

open Netherwick.Lib

section History

structure Step where
  operation : Surroundings.Operation
  before : MotherbrainPossession
  after : MotherbrainPossession

/-- A possession and what was done with it, the newest step first. -/
structure Holding where
  possession : MotherbrainPossession
  history : List Step := []

def Surroundings.hold (env : Surroundings) (h : Holding) (operation : Surroundings.Operation) :
    Holding where
  possession := env.perform operation h.possession
  history :=
    { operation := operation, before := h.possession
      after := env.perform operation h.possession } :: h.history

def Surroundings.holdAll (env : Surroundings) (operations : List Surroundings.Operation)
    (h : Holding) : Holding :=
  operations.foldl env.hold h

def Surroundings.Operation.request? : Surroundings.Operation → Option CockpitRequest
  | .execute request | .executeInSession _ request | .executeWithLease _ _ request => some request
  | .exorcize | .maintain | .elapse _ => none

end History

section Law

variable (env : Surroundings)

/-- An exorcism has returned, with or without an error. -/
def Surrendered (past : List Step) : Prop :=
  ∃ step ∈ past, step.operation = .exorcize ∧ (env.exorcize step.before).1 ≠ .error .panicked

/-- The status shows neither an e-stop nor a safety latch, and says so. -/
def Surroundings.ShowsClear (status : CockpitStatus) : Prop :=
  (env.summary status).estopLatched = some false ∧ (env.summary status).safetyTripped = some false

def Surroundings.ShowsLatch (status : CockpitStatus) : Prop :=
  (env.summary status).estopLatched = some true ∨ (env.summary status).safetyTripped = some true

/-- The brainstem confirmed that nothing is latched, and then granted the lease that is held. -/
def Surroundings.Reconfirmed (step : Step) : Prop :=
  ∃ middle status ttlMs lease,
    Answered .getStatus (.status status) step.before.exchanges middle ∧
    env.ShowsClear status ∧
    Answered (.acquireControlLease .motherbrain ttlMs) (.controlLeaseGranted lease) middle
      step.after.exchanges ∧
    step.after.session.controlLease = some lease

/-- Once surrendered, a possession moves nothing and its gate stays closed; a closed gate opens on
a confirmation only. -/
structure GateLaw (step : Step) (past : List Step) : Prop where
  still : Surrendered env past →
    Sent (fun e => e.call.request.commandsMotion = false) step.before.exchanges
      step.after.exchanges
  closed : Surrendered env (step :: past) → step.after.motorGateOpen = false
  reopened : step.before.motorGateOpen = false → step.after.motorGateOpen = true →
    env.Reconfirmed step

/-- The requests that pass a closed gate and move the robot or may open the gate. -/
def CockpitRequest.revives (request : CockpitRequest) : Bool :=
  request.bypassesClosedMotorGate &&
    (request.commandsMotion || Surroundings.reopensAfterClear request)

/-- Nothing that passes the closed gate follows a surrender, and a status that is read after a
clear shows a latch or says that there is none. -/
structure Careful (step : Step) (past : List Step) : Prop where
  surrendered : Surrendered env past → ∀ request, step.operation.request? = some request →
    request.revives = false
  explicit : ∀ request, step.operation.request? = some request →
    Surroundings.reopensAfterClear request = true →
    Sent (fun e => ∀ status, e.answer = .ok (.status status) →
      env.ShowsLatch status ∨ env.ShowsClear status) step.before.exchanges step.after.exchanges

end Law

section Reopening

variable {env : Surroundings} {p q : MotherbrainPossession} {request : CockpitRequest}

theorem acquireControl_ok {authority : ControlAuthority} {ttlMs : UInt32} {s s' : SessionCockpit}
    (h : env.acquireControl authority ttlMs s = (.ok (), s')) :
    ∃ lease, Answered (.acquireControlLease authority ttlMs) (.controlLeaseGranted lease)
      s.connector.exchanges s'.connector.exchanges ∧ s'.controlLease = some lease := by
  obtain ⟨response, t, hcall, h⟩ := Prog.bind_eq_ok.mp h
  cases response with
  | controlLeaseGranted lease =>
    have hgranted := call_ok hcall
    cases h
    exact ⟨lease, hgranted, rfl⟩
  | _ => cases h

theorem Calling.keeps_closed {α : Type} {P : Exchange → Prop} {m : Possessed α}
    (h : Calling P m) {result : Except Abort α} (hm : m p = (result, q))
    (hclosed : p.motorGateOpen = false) : q.motorGateOpen = false := by
  have hgate := (h p).gate
  rw [hm] at hgate
  cases hq : q.motorGateOpen with
  | false => rfl
  | true =>
    have hopen := hgate hq
    rw [hclosed] at hopen
    cases hopen

theorem reopen_opens (hclosed : p.motorGateOpen = false)
    (hopen : (env.reopenGateIfSafetyClear.exec p).motorGateOpen = true) :
    ∃ middle status ttlMs lease,
      Answered .getStatus (.status status) p.exchanges middle ∧ ¬env.ShowsLatch status ∧
      Answered (.acquireControlLease .motherbrain ttlMs) (.controlLeaseGranted lease) middle
        (env.reopenGateIfSafetyClear.exec p).exchanges ∧
      (env.reopenGateIfSafetyClear.exec p).session.controlLease = some lease := by
  unfold Surroundings.reopenGateIfSafetyClear at hopen ⊢
  rw [Prog.exec_bind] at hopen ⊢
  have hstatus : Calling (fun _ => True) (onSession (env.executeSession .getStatus)) :=
    executeSession_calling fun _ _ _ _ => trivial
  rcases hread : onSession (env.executeSession .getStatus) p with ⟨error | response, q⟩
  · rw [hread] at hopen
    have hq := hstatus.keeps_closed hread hclosed
    rw [hq] at hopen
    cases hopen
  · have hq := hstatus.keeps_closed hread hclosed
    have hanswered := executeSession_ok (onSession_ok hread)
    rw [hread] at hopen
    dsimp only at hopen ⊢
    cases response with
    | status status =>
      dsimp only at hopen ⊢
      rw [Prog.exec_bind, Prog.act_apply] at hopen ⊢
      dsimp only at hopen ⊢
      split at hopen
      · exact absurd (hq.symm.trans hopen) (by decide)
      · rename_i hlatch
        rw [if_neg hlatch]
        rw [Prog.exec_bind, Prog.get_apply] at hopen ⊢
        dsimp only at hopen ⊢
        rw [Prog.exec_bind] at hopen ⊢
        rcases hacquire : attempt (onSession (env.acquireControl .motherbrain q.leaseTtlMs))
          { q with lastStatus := some (env.summary status) } with ⟨abort | result, r⟩
        · rw [hacquire] at hopen
          have hcalls : Calling (fun _ => True)
              (attempt (onSession (env.acquireControl .motherbrain q.leaseTtlMs))) :=
            Calling.attempt (Calling.onSession (acquireControl_stays env fun _ _ => trivial))
          have hr := hcalls.keeps_closed hacquire hq
          rw [hr] at hopen
          cases hopen
        · rw [hacquire] at hopen
          cases result with
          | error error => cases hopen
          | ok granted =>
            obtain ⟨lease, hlease, hheld⟩ :=
              acquireControl_ok (onSession_ok (attempt_ok hacquire))
            exact ⟨q.exchanges, status, q.leaseTtlMs, lease, hanswered, hlatch, hlease, hheld⟩
    | _ =>
      have hopen' : q.motorGateOpen = true := hopen
      rw [hq] at hopen'
      cases hopen'

theorem execute_closed (hreopens : Surroundings.reopensAfterClear request = false)
    (hclosed : p.motorGateOpen = false) :
    ((env.execute request).exec p).motorGateOpen = false := by
  have hscoped : ∀ p : MotherbrainPossession, p.motorGateOpen = false →
      ((do let response ← env.executeScoped request
           Prog.when (Surroundings.reopensAfterClear request = true) env.reopenGateIfSafetyClear
           pure response : Possessed CockpitResponse).exec p).motorGateOpen = false := by
    intro p hclosed
    have hcalls : Calling (fun _ => True) (env.executeScoped request) :=
      executeScoped_calling request (fun _ _ => trivial) (fun _ _ _ => trivial)
        fun _ _ _ _ _ _ _ => trivial
    rw [Prog.exec_bind]
    rcases hexecute : env.executeScoped request p with ⟨error | response, q⟩
    · exact hcalls.keeps_closed hexecute hclosed
    · dsimp only
      rw [hreopens]
      exact hcalls.keeps_closed hexecute hclosed
  unfold Surroundings.execute
  cases request.authorizationClass with
  | readOnly =>
    have hcalls : Calling (fun _ => True) (env.executeReadOnly request) :=
      executeReadOnly_calling request (fun _ _ => trivial) fun _ _ _ _ => trivial
    exact hcalls.keeps_closed rfl hclosed
  | serviceLease => exact hclosed
  | emergency => exact hscoped p hclosed
  | session => exact hscoped p hclosed
  | controlLease => exact hscoped p hclosed

theorem execute_gated (hbypass : request.bypassesClosedMotorGate = false)
    (hscope : request.authorizationClass = .controlLease) (hclosed : p.motorGateOpen = false) :
    (env.execute request).exec p = p := by
  have hstopped : env.executeScoped request p = (.error (.failed
      (.policy (p.refusalReason.getD "not possessed"))), p) := by
    unfold Surroundings.executeScoped
    unfold Prog.when
    rw [if_pos hbypass]
    exact Prog.bind_error (maintain_closed hclosed)
  unfold Surroundings.execute
  rw [hscope]
  dsimp only
  rw [Prog.exec_bind, hstopped]

theorem execute_still (hstill : request.commandsMotion = false) :
    Prog.Stays (Keeps fun e => e.call.request.commandsMotion = false) (env.execute request) := by
  apply execute_keeps request
  · exact fun e => CockpitRequest.commandsMotion_of_selfMade
  · intro e timeoutMs he
    rw [he]
    rfl
  · intro q contract request' e hrewrite _ he
    rw [rewrite_of_plain (fun l a t hr => by rw [hr] at hstill; cases hstill)
      (fun d b t hr => by rw [hr] at hstill; cases hstill)] at hrewrite
    cases hrewrite
    rw [he]
    exact hstill

theorem execute_unrevived (hrevives : request.revives = false) (hclosed : p.motorGateOpen = false) :
    Sent (fun e => e.call.request.commandsMotion = false) p.exchanges
        ((env.execute request).exec p).exchanges ∧
      ((env.execute request).exec p).motorGateOpen = false := by
  cases hmotion : request.commandsMotion with
  | true =>
    have hbypass : request.bypassesClosedMotorGate = false := by
      simpa [CockpitRequest.revives, hmotion] using hrevives
    rw [execute_gated hbypass (drives_of_commandsMotion hmotion).scope hclosed]
    exact ⟨.refl, hclosed⟩
  | false =>
    refine ⟨(execute_still hmotion p).sent, ?_⟩
    cases hreopens : Surroundings.reopensAfterClear request with
    | false => exact execute_closed hreopens hclosed
    | true =>
      -- A request that asks for the gate bypasses it, so it would revive the possession.
      have hbypass : request.bypassesClosedMotorGate = true := by
        cases request <;> first | rfl | cases hreopens
      rw [CockpitRequest.revives, hbypass, hreopens, Bool.or_true] at hrevives
      cases hrevives

theorem execute_opens (hclosed : p.motorGateOpen = false)
    (hopen : ((env.execute request).exec p).motorGateOpen = true) :
    Surroundings.reopensAfterClear request = true ∧
    ∃ middle status ttlMs lease,
      Answered .getStatus (.status status) p.exchanges middle ∧ ¬env.ShowsLatch status ∧
      Answered (.acquireControlLease .motherbrain ttlMs) (.controlLeaseGranted lease) middle
        ((env.execute request).exec p).exchanges ∧
      ((env.execute request).exec p).session.controlLease = some lease := by
  cases hreopens : Surroundings.reopensAfterClear request with
  | false =>
    rw [execute_closed hreopens hclosed] at hopen
    cases hopen
  | true =>
    have hscope : request.authorizationClass = .controlLease := by
      cases request <;> first | rfl | cases hreopens
    have hcalls : Calling (fun _ => True) (env.executeScoped request) :=
      executeScoped_calling request (fun _ _ => trivial) (fun _ _ _ => trivial)
        fun _ _ _ _ _ _ _ => trivial
    refine ⟨rfl, ?_⟩
    unfold Surroundings.execute at hopen ⊢
    rw [hscope] at hopen ⊢
    dsimp only at hopen ⊢
    rw [Prog.exec_bind] at hopen ⊢
    rcases hexecute : env.executeScoped request p with ⟨error | response, q⟩
    · rw [hexecute] at hopen
      have hq := hcalls.keeps_closed hexecute hclosed
      rw [hq] at hopen
      cases hopen
    · have hq := hcalls.keeps_closed hexecute hclosed
      have hsent := hcalls.sent hexecute
      have hwhen : Prog.when (Surroundings.reopensAfterClear request = true)
          env.reopenGateIfSafetyClear = env.reopenGateIfSafetyClear := if_pos hreopens
      rw [hexecute] at hopen
      dsimp only at hopen ⊢
      rw [hwhen, Prog.exec_then_pure] at hopen ⊢
      obtain ⟨middle, status, ttlMs, lease, hstatus, hclear, hlease⟩ := reopen_opens hq hopen
      exact ⟨middle, status, ttlMs, lease, hstatus.after hsent, hclear, hlease⟩

end Reopening

section Run

variable {env : Surroundings}

theorem attempt_error {σ α : Type} {m : Prog σ Abort α} {s s' : σ} {abort : Abort}
    (h : attempt m s = (.error abort, s')) : abort = .panicked := by
  unfold attempt at h
  split at h
  · cases h
  · cases h
  · cases h
    rfl

theorem exorcize_closes {p : MotherbrainPossession}
    (h : (env.exorcize p).1 ≠ .error .panicked) : (env.exorcize.exec p).motorGateOpen = false := by
  unfold Surroundings.exorcize at h ⊢
  rw [Prog.bind_apply] at h
  rw [Prog.exec_bind]
  rcases hstop : attempt (env.executeWithBusyRetry .stop >>= env.expectAccepted) p with
    ⟨abort | result, q⟩
  · rw [hstop, attempt_error hstop] at h
    exact absurd rfl h
  · cases result with
    | error error => rfl
    | ok _ => rfl

theorem perform_cases (operation : Surroundings.Operation) (p : MotherbrainPossession) :
    (∃ request, operation.request? = some request ∧
      env.perform operation p = (env.execute request).exec p) ∨
    Calls (fun e => e.call.request.commandsMotion = false) p (env.perform operation p) := by
  have hself : ∀ e : Exchange, SelfMade e.call.request → e.call.request.commandsMotion = false :=
    fun _ => CockpitRequest.commandsMotion_of_selfMade
  cases operation with
  | execute request => exact .inl ⟨request, rfl, rfl⟩
  | executeInSession session request =>
    by_cases h : session.sessionId ≠ p.session.outcome.session.sessionId
    · right
      have hrefused : env.perform (.executeInSession session request) p = p := by
        change ((if session.sessionId ≠ p.session.outcome.session.sessionId then _
          else env.execute request : Possessed CockpitResponse).exec p) = p
        rw [if_pos h]
        rfl
      rw [hrefused]
      exact .refl p
    · left
      refine ⟨request, rfl, ?_⟩
      change ((if session.sessionId ≠ p.session.outcome.session.sessionId then _
        else env.execute request : Possessed CockpitResponse).exec p) = _
      rw [if_neg h]
  | executeWithLease session lease request =>
    by_cases h : session.sessionId ≠ p.session.outcome.session.sessionId ∨
        p.session.controlLease.map (fun value => (value.leaseId, value.generation)) ≠
          some (lease.leaseId, lease.generation)
    · right
      have hrefused : env.perform (.executeWithLease session lease request) p = p := by
        change ((if _ ∨ _ then _ else env.execute request :
          Possessed CockpitResponse).exec p) = p
        rw [if_pos h]
        rfl
      rw [hrefused]
      exact .refl p
    · left
      refine ⟨request, rfl, ?_⟩
      change ((if _ ∨ _ then _ else env.execute request : Possessed CockpitResponse).exec p) = _
      rw [if_neg h]
  | exorcize =>
    right
    exact exorcize_calling hself (fun e he => by rw [he]; rfl) p
  | maintain =>
    right
    exact maintain_calling hself p
  | elapse ms => exact .inr ⟨⟨⟨rfl, rfl, rfl, rfl, rfl⟩, .refl⟩, id⟩

theorem answered_explicit {status : CockpitStatus} {old middle new : List Exchange}
    {P : Exchange → Prop} (hstatus : Answered .getStatus (.status status) old middle)
    (hlater : Sent (fun _ => True) middle new) (hall : Sent P old new) :
    ∃ e : Exchange, e.answer = .ok (.status status) ∧ P e := by
  obtain ⟨e, recent, rfl, _, hanswer⟩ := hstatus
  obtain ⟨later, rfl, _⟩ := hlater
  obtain ⟨sent, hsent, hP⟩ := hall
  refine ⟨e, hanswer, hP e ?_⟩
  have hsame : later ++ e :: recent = sent :=
    List.append_cancel_right (by simpa using hsent)
  rw [← hsame]
  simp

theorem Answered.sent {request : CockpitRequest} {response : CockpitResponse}
    {old new : List Exchange} (h : Answered request response old new) :
    Sent (fun _ => True) old new := by
  obtain ⟨e, recent, rfl, _⟩ := h
  exact ⟨e :: recent, rfl, fun _ _ => trivial⟩

theorem hold_lawful (h : Holding) (operation : Surroundings.Operation)
    (hinv : Surrendered env h.history → h.possession.motorGateOpen = false)
    (hcareful : Careful env
      { operation := operation, before := h.possession
        after := env.perform operation h.possession } h.history) :
    GateLaw env
      { operation := operation, before := h.possession
        after := env.perform operation h.possession } h.history := by
  have hperform := @perform_cases env operation h.possession
  refine ⟨?_, ?_, ?_⟩
  · intro hpast
    cases hperform with
    | inl hrequest =>
      obtain ⟨request, hsome, heq⟩ := hrequest
      dsimp only
      rw [heq]
      exact (execute_unrevived (hcareful.surrendered hpast request hsome) (hinv hpast)).1
    | inr hcalls => exact hcalls.sent
  · intro hnow
    obtain ⟨step, hmem, hexorcize, hreturned⟩ := hnow
    cases List.mem_cons.mp hmem with
    | inl hself =>
      rw [hself] at hexorcize hreturned
      dsimp only at hexorcize hreturned ⊢
      rw [hexorcize]
      exact exorcize_closes hreturned
    | inr hpast =>
      have hpast : Surrendered env h.history := ⟨step, hpast, hexorcize, hreturned⟩
      cases hperform with
      | inl hrequest =>
        obtain ⟨request, hsome, heq⟩ := hrequest
        dsimp only
        rw [heq]
        exact (execute_unrevived (hcareful.surrendered hpast request hsome) (hinv hpast)).2
      | inr hcalls =>
        by_contra hopen
        have hgate := hcalls.gate (by simpa using hopen)
        rw [hinv hpast] at hgate
        cases hgate
  · intro hclosed hopen
    cases hperform with
    | inl hrequest =>
      obtain ⟨request, hsome, heq⟩ := hrequest
      dsimp only at hclosed hopen
      rw [heq] at hopen
      obtain ⟨hreopens, middle, status, ttlMs, lease, hstatus, hclear, hlease, hheld⟩ :=
        execute_opens hclosed hopen
      rw [← heq] at hlease hheld
      obtain ⟨e, hanswer, hexplicit⟩ := answered_explicit hstatus hlease.sent
        (hcareful.explicit request hsome hreopens)
      have hshown := (hexplicit status hanswer).resolve_left hclear
      exact ⟨middle, status, ttlMs, lease, hstatus, hshown, hlease, hheld⟩
    | inr hcalls =>
      have hgate := hcalls.gate hopen
      dsimp only at hclosed
      rw [hclosed] at hgate
      cases hgate

def GateKept (env : Surroundings) (h : Holding) : Prop :=
  Annals (GateLaw env) h.history ∧
    (Surrendered env h.history → h.possession.motorGateOpen = false)

theorem hold_kept (h : Holding) (operation : Surroundings.Operation)
    (hcareful : Annals (Careful env) (env.hold h operation).history) (hkept : GateKept env h) :
    GateKept env (env.hold h operation) := by
  have hlaw := hold_lawful h operation hkept.2 hcareful.1
  exact ⟨⟨hlaw, hkept.1⟩, hlaw.closed⟩

/-- As long as nothing that passes the closed gate follows a surrender and the statuses after a
clear are explicit, the gate keeps its law throughout the run. -/
theorem run_gated (env : Surroundings) (p : MotherbrainPossession)
    (operations : List Surroundings.Operation)
    (hcareful : Annals (Careful env) (env.holdAll operations { possession := p }).history) :
    Annals (GateLaw env) (env.holdAll operations { possession := p }).history := by
  have hstart : GateKept env { possession := p } := ⟨trivial, fun ⟨_, hmem, _⟩ => nomatch hmem⟩
  have hgrow : ∀ h operation, h.history <:+ (env.hold h operation).history :=
    fun h operation => List.suffix_cons _ h.history
  have hgood : ∀ old new : List Step, old <:+ new → Annals (Careful env) new →
      Annals (Careful env) old := fun _ _ hsuffix hnew => hnew.of_suffix hsuffix
  exact (run_preserves hgrow hgood hold_kept operations hcareful hstart).1

end Run

section Runs

/-- A brainstem that grants and accepts everything and reports one text as its status. -/
def reporting (raw : String) : Surroundings where
  answer := fun _ call =>
    match call.request with
    | .acquireControlLease .. => .ok (.controlLeaseGranted obligingLease)
    | .getStatus => .ok (.status { raw := raw })
    | _ => .ok .accepted
  latencyMs := fun _ _ => 0
  summary := fun status =>
    { raw := status.raw
      estopLatched := boolFor status.raw "estop"
      safetyTripped := boolFor status.raw "safety_tripped" }
  display := fun _ => ""
  debug := fun _ => ""
  overflowChecks := true

/-- A possession as `acquire` leaves it. -/
def granted (verbs : List String) : MotherbrainPossession where
  session := { willingSession verbs with controlLease := some obligingLease }
  leaseAcquiredAt := 0
  leaseTtlMs := 1000
  renewMarginMs := 500
  motionTtlMs := 300
  heartbeatTimeoutMs := 750
  maxLinearMmS := 50
  maxAngularMradS := 500
  motorGateOpen := true
  refusalReason := none
  lastStatus := none

/-- The exchange is not one that shows anything but a clear status. -/
def Surroundings.clearAnswer (env : Surroundings) (e : Exchange) : Bool :=
  match e.answer with
  | .ok (.status status) =>
    (env.summary status).estopLatched == some false &&
      (env.summary status).safetyTripped == some false
  | _ => true

theorem Surroundings.showsClear_of_clearAnswer {env : Surroundings} {e : Exchange}
    {status : CockpitStatus} (h : env.clearAnswer e = true) (hanswer : e.answer = .ok (.status status)) :
    env.ShowsClear status := by
  unfold Surroundings.clearAnswer at h
  rw [hanswer] at h
  simpa [Surroundings.ShowsClear] using h

/-- A clear, then a surrender and a stop. -/
theorem run_gated_surrendered :
    Annals (GateLaw (reporting "estop=false safety_tripped=false"))
      ((reporting "estop=false safety_tripped=false").holdAll
        [.execute .clearEStop, .exorcize, .execute .stop]
        { possession := granted ["stop", "clear_estop", "status"] }).history := by
  apply run_gated
  refine ⟨⟨?_, ?_⟩, ⟨?_, ?_⟩, ⟨?_, ?_⟩, trivial⟩
  · intro _ request hrequest
    cases hrequest
    rfl
  · intro request hrequest hreopens
    cases hrequest
    cases hreopens
  · exact fun _ request hrequest => nomatch hrequest
  · exact fun request hrequest => nomatch hrequest
  · exact fun ⟨_, hmem, _⟩ => nomatch hmem
  · intro _ _ _
    refine ⟨_, (List.append_nil _).symm, ?_⟩
    intro e he status hanswer
    have hclear : (((reporting "estop=false safety_tripped=false").run [.execute .clearEStop]
        (granted ["stop", "clear_estop", "status"])).exchanges.all
        (reporting "estop=false safety_tripped=false").clearAnswer) = true := by decide
    exact .inr (Surroundings.showsClear_of_clearAnswer
      (List.all_eq_true.mp hclear e he) hanswer)

/-- A clear undoes the exorcism: the brainstem is asked, grants a lease, and the gate is open
again. -/
theorem exorcism_undone :
    ¬∀ (env : Surroundings) (session : SessionCockpit) (leaseTtlMs : UInt32)
      (p : MotherbrainPossession) (operations : List Surroundings.Operation),
      env.acquire session leaseTtlMs = .ok p →
      Annals (GateLaw env) (env.holdAll operations { possession := p }).history := by
  intro h
  have hlaw := h (reporting "estop=false safety_tripped=false")
    (willingSession ["stop", "clear_estop", "status"]) 1000 _ [.exorcize, .execute .clearEStop] rfl
  have hclosed := hlaw.1.closed ⟨_, List.mem_cons_of_mem _ List.mem_cons_self, rfl,
    fun hpanic => nomatch hpanic⟩
  exact absurd hclosed (by decide)

/-- A status that says nothing of the latches opens the gate as well. -/
example : ((reporting "runtime=idle").run [.exorcize, .execute .clearEStop]
    (granted ["stop", "clear_estop", "status"])).motorGateOpen = true := by decide

end Runs

end Netherwick.Cockpit
