import Netherwick.Cockpit.MotionReach

/-! # The bounded busy retry

`execute_with_busy_retry` submits a request again while the brainstem is busy, and once more after a
lost lease has been renewed. The loop is written so that its last attempt returns. It does not where
that attempt is the one that renews the lease. -/

namespace Netherwick.Cockpit

open Netherwick.Lib

namespace Surroundings

variable (env : Surroundings) (request : CockpitRequest)

def submission (p : MotherbrainPossession) : Except Abort CockpitResponse :=
  (env.executeSession request p.session).1

def submitted (p : MotherbrainPossession) : MotherbrainPossession :=
  { p with session := (env.executeSession request p.session).2 }

def busyPause (p : MotherbrainPossession) : MotherbrainPossession :=
  { p with session.connector.nowMs := p.session.connector.nowMs + possessionBusyRetryDelayMs }

/-- A submission that is refused as busy, and the pause after it, `n` times. -/
def afterBusy : Nat → MotherbrainPossession → MotherbrainPossession
  | 0, p => p
  | n + 1, p => afterBusy n (busyPause (env.submitted request p))

/-- The brainstem is busy for `n` submissions, refuses the next for its lease, and grants another. -/
structure LosesLeaseAfter (n : Nat) (p : MotherbrainPossession) : Prop where
  controlled : request.authorizationClass = .controlLease
  busy : ∀ i < n, ∃ commandId, env.submission request (env.afterBusy request i p) =
    .error (.failed (.rejected commandId "busy"))
  lost : ∃ error, env.submission request (env.afterBusy request n p) = .error (.failed error) ∧
    isControlLeaseRejection error = true
  renewed : (env.acquireControl .motherbrain p.leaseTtlMs
    (env.submitted request (env.afterBusy request n p)).session).1 = .ok ()

end Surroundings

open Surroundings

def submissions (request : CockpitRequest) (exchanges : List Exchange) : Nat :=
  exchanges.countP fun exchange => exchange.call.request == request

/-- The exchanges for a request, of which at most `n` submit it, and then at most the status query
that a refusal is reported with. -/
def SubmitsAtMost (request : CockpitRequest) (n : Nat) (p p' : MotherbrainPossession) : Prop :=
  ∃ reported asked, p'.exchanges = reported ++ asked ++ p.exchanges ∧
    submissions request asked ≤ n ∧ reported.length ≤ 1 ∧
    ∀ exchange ∈ reported, exchange.call.request = .getStatus

section Validation

variable {overflowChecks : Bool} {maxLinear maxAngular : Int16} {error : CockpitError}

theorem except_bind_failed {α β : Type} {x : Except Abort α} {k : α → Except Abort β}
    {abort : Abort} (h : (x >>= k) = .error abort) :
    x = .error abort ∨ ∃ a, x = .ok a ∧ k a = .error abort := by
  cases x with
  | error _ =>
    cases h
    exact .inl rfl
  | ok a => exact .inr ⟨a, rfl, h⟩

theorem absI16_not_failed {value : Int16} : absI16 overflowChecks value ≠ .error (.failed error) := by
  unfold absI16
  split <;> simp

theorem checkSpeed_failed {unit limitName name : String} {limit value : Int16}
    (h : CockpitContract.checkSpeed overflowChecks unit limitName limit value name =
      .error (.failed error)) : ∃ message, error = .policy message := by
  obtain habs | ⟨magnitude, -, h⟩ := except_bind_failed h
  · exact absurd habs absI16_not_failed
  · split at h
    · cases h
      exact ⟨_, rfl⟩
    · cases h

theorem runChecks_failed {checks : List SpeedCheck}
    (h : runChecks overflowChecks maxLinear maxAngular checks = .error (.failed error)) :
    ∃ message, error = .policy message := by
  have hone : ∀ check : SpeedCheck,
      check.run overflowChecks maxLinear maxAngular = .error (.failed error) →
      ∃ message, error = .policy message := by
    intro check hcheck
    cases check with
    | linear value name => exact checkSpeed_failed hcheck
    | angular value name => exact checkSpeed_failed hcheck
  induction checks with
  | nil => cases h
  | cons check checks ih =>
    cases checks with
    | nil => exact hone check h
    | cons next rest =>
      obtain hcheck | ⟨_, -, h⟩ := except_bind_failed h
      · exact hone check hcheck
      · exact ih h

theorem validateRequest_failed {contract : CockpitContract} {request : CockpitRequest}
    (h : contract.validateRequest overflowChecks request = .error (.failed error)) :
    ∃ message, error = .policy message := by
  obtain hverb | ⟨_, -, h⟩ := except_bind_failed h
  · unfold CockpitContract.validateVerb at hverb
    split at hverb
    · split at hverb
      · cases hverb
      · cases hverb
        exact ⟨_, rfl⟩
    · cases hverb
  · obtain hlimits | ⟨_, -, h⟩ := except_bind_failed h
    · rw [validateMotionLimits_eq] at hlimits
      obtain habs | ⟨_, -, hlimits⟩ := except_bind_failed hlimits
      · exact absurd habs absI16_not_failed
      obtain habs | ⟨_, -, hlimits⟩ := except_bind_failed hlimits
      · exact absurd habs absI16_not_failed
      exact runChecks_failed hlimits
    · unfold CockpitContract.validateTtlLimits at h
      split at h
      · cases h
      · dsimp only at h
        split at h
        · cases h
          exact ⟨_, rfl⟩
        · cases h

theorem status_not_panicked {contract : CockpitContract} {request : CockpitRequest}
    (h : Admits overflowChecks contract request) :
    contract.validateRequest overflowChecks .getStatus ≠ .error .panicked := by
  obtain ⟨_, -, h⟩ := except_bind_ok h
  obtain ⟨_, hlimits, -⟩ := except_bind_ok h
  rw [validateMotionLimits_eq] at hlimits
  obtain ⟨maxLinear, hlinear, hlimits⟩ := except_bind_ok hlimits
  obtain ⟨maxAngular, hangular, -⟩ := except_bind_ok hlimits
  intro hpanic
  obtain hverb | ⟨_, -, hpanic⟩ := except_bind_failed hpanic
  · simp only [CockpitContract.validateVerb, CockpitRequest.requiredCapability] at hverb
    split at hverb <;> cases hverb
  · obtain hmotion | ⟨_, -, httl⟩ := except_bind_failed hpanic
    · rw [validateMotionLimits_eq, hlinear] at hmotion
      change (absI16 _ _ >>= fun _ => _) = _ at hmotion
      rw [hangular] at hmotion
      cases hmotion
    · cases httl

end Validation

section Steps

variable {env : Surroundings} {request : CockpitRequest} {p : MotherbrainPossession}
  {remaining : Nat} {renewed : Bool}

@[simp] theorem isControlLeaseRejection_busy (commandId : UInt32) :
    isControlLeaseRejection (.rejected commandId "busy") = false := rfl

@[simp] theorem submitted_leaseTtlMs : (env.submitted request p).leaseTtlMs = p.leaseTtlMs := rfl

@[simp] theorem busyPause_leaseTtlMs : (busyPause p).leaseTtlMs = p.leaseTtlMs := rfl

@[simp] theorem busyPause_outcome : (busyPause p).session.outcome = p.session.outcome := rfl

theorem executeSession_apply (p : MotherbrainPossession) :
    onSession (env.executeSession request) p = (env.submission request p, env.submitted request p) :=
  rfl

theorem attempt_of_accepted {response : CockpitResponse} (h : env.submission request p = .ok response) :
    attempt (onSession (env.executeSession request)) p =
      (.ok (.ok response), env.submitted request p) := by
  simp only [attempt, executeSession_apply, h]

theorem attempt_of_failed {error : CockpitError}
    (h : env.submission request p = .error (.failed error)) :
    attempt (onSession (env.executeSession request)) p =
      (.ok (.error error), env.submitted request p) := by
  simp only [attempt, executeSession_apply, h]

theorem attempt_of_panicked (h : env.submission request p = .error .panicked) :
    attempt (onSession (env.executeSession request)) p =
      (.error .panicked, env.submitted request p) := by
  simp only [attempt, executeSession_apply, h]

theorem busyRetry_of_accepted {response : CockpitResponse} (h : env.submission request p = .ok response) :
    env.busyRetry request (remaining + 1) renewed p = (.ok response, env.submitted request p) := by
  unfold busyRetry
  rw [Prog.bind_ok (attempt_of_accepted h)]
  rfl

theorem busyRetry_of_panicked (h : env.submission request p = .error .panicked) :
    env.busyRetry request (remaining + 1) renewed p =
      (.error .panicked, env.submitted request p) := by
  unfold busyRetry
  rw [Prog.bind_error (attempt_of_panicked h)]

theorem busyRetry_of_busy {commandId : UInt32}
    (h : env.submission request p = .error (.failed (.rejected commandId "busy"))) :
    env.busyRetry request (remaining + 1 + 1) renewed p =
      env.busyRetry request (remaining + 1) renewed (busyPause (env.submitted request p)) := by
  rw [busyRetry, Prog.bind_ok (attempt_of_failed h)]
  rfl

theorem busyRetry_of_busy_last {commandId : UInt32}
    (h : env.submission request p = .error (.failed (.rejected commandId "busy"))) :
    env.busyRetry request (0 + 1) renewed p =
      (env.annotateBusyRejection commandId request.verb >>= failWith)
        (env.submitted request p) := by
  rw [busyRetry, Prog.bind_ok (attempt_of_failed h)]
  rfl

theorem busyRetry_of_failed {error : CockpitError}
    (h : env.submission request p = .error (.failed error))
    (hbusy : ∀ commandId, error ≠ .rejected commandId "busy") :
    env.busyRetry request (remaining + 1) renewed p =
      (if request.authorizationClass = .controlLease ∧ !renewed ∧
          isControlLeaseRejection error then do
        env.renewControlLease
        env.busyRetry request remaining true
      else failWith error) (env.submitted request p) := by
  rw [busyRetry, Prog.bind_ok (attempt_of_failed h)]
  dsimp only
  split
  · rename_i commandId
    exact absurd rfl (hbusy commandId)
  · rfl

theorem call_not_panicked (env : Surroundings) (scope : Scope) (request : CockpitRequest)
    (s : SessionCockpit) : (env.call scope request s).1 ≠ .error .panicked := by
  rw [Surroundings.call]
  cases env.answer s.connector.exchanges
    { session := s.outcome.session, scope := scope, request := request } with
  | ok response => simp [Except.mapError]
  | error error => simp [Except.mapError]

theorem submission_panicked :
    env.submission request p = .error .panicked ↔
      p.session.outcome.contract.validateRequest env.overflowChecks request = .error .panicked := by
  unfold submission Surroundings.executeSession
  rw [Prog.get_bind, Prog.bind_apply]
  unfold lift
  cases hvalid : p.session.outcome.contract.validateRequest env.overflowChecks request with
  | error abort => simp
  | ok _ =>
    have hcall := fun scope => call_not_panicked env scope request p.session
    have hfail : ∀ error, ((failWith error : Sessional CockpitResponse) p.session).1 ≠
        .error .panicked := by
      intro error h
      cases h
    simp only [reduceCtorEq, iff_false]
    cases request.authorizationClass with
    | controlLease =>
      cases p.session.controlLease with
      | none => exact hfail _
      | some lease =>
        dsimp only
        split
        · exact hfail _
        · exact hcall _
    | serviceLease =>
      cases p.session.serviceLease with
      | none => exact hfail _
      | some lease =>
        dsimp only
        split
        · exact hfail _
        · exact hcall _
    | readOnly => exact hcall _
    | emergency => exact hcall _
    | session => exact hcall _

theorem admits_of_rejected {commandId : UInt32} {reason : String}
    (h : env.submission request p = .error (.failed (.rejected commandId reason))) :
    Admits env.overflowChecks p.session.outcome.contract request := by
  unfold submission Surroundings.executeSession at h
  rw [Prog.get_bind, Prog.bind_apply] at h
  unfold lift at h
  cases hvalid : p.session.outcome.contract.validateRequest env.overflowChecks request with
  | ok _ => exact hvalid
  | error abort =>
    rw [hvalid] at h
    obtain rfl : abort = .failed (.rejected commandId reason) := by simpa using h
    obtain ⟨_, hpolicy⟩ := validateRequest_failed hvalid
    cases hpolicy

theorem renewControlLease_granted {q : MotherbrainPossession}
    (h : (env.acquireControl .motherbrain q.leaseTtlMs q.session).1 = .ok ()) :
    (env.renewControlLease q).1 = .ok () := by
  have hattempt : attempt (onSession (env.acquireControl .motherbrain q.leaseTtlMs)) q =
      (.ok (.ok ()),
        { q with session := (env.acquireControl .motherbrain q.leaseTtlMs q.session).2 }) := by
    simp only [attempt, onSession, h]
  unfold renewControlLease
  rw [Prog.get_bind, Prog.bind_ok hattempt]
  rfl

theorem acquireControl_not_panicked {authority : ControlAuthority} {ttlMs : UInt32}
    {s : SessionCockpit} : (env.acquireControl authority ttlMs s).1 ≠ .error .panicked := by
  unfold Surroundings.acquireControl
  have hcall := call_not_panicked env .inSession (.acquireControlLease authority ttlMs) s
  rw [Prog.bind_apply]
  rcases hresult : env.call .inSession (.acquireControlLease authority ttlMs) s with
    ⟨abort | response, s'⟩
  · rw [hresult] at hcall
    have habort : abort ≠ .panicked := fun h => hcall (by rw [h])
    exact fun hpanic => habort (Except.error.inj hpanic)
  · cases response <;> simp [failWith, Prog.fail]

theorem renewControlLease_refused {q : MotherbrainPossession}
    (h : (env.acquireControl .motherbrain q.leaseTtlMs q.session).1 ≠ .ok ()) :
    ∃ error q', env.renewControlLease q = (.error (.failed error), q') := by
  cases hacquire : (env.acquireControl .motherbrain q.leaseTtlMs q.session).1 with
  | ok _ => exact absurd hacquire h
  | error abort =>
    cases abort with
    | panicked => exact absurd hacquire acquireControl_not_panicked
    | failed error =>
      have hattempt : attempt (onSession (env.acquireControl .motherbrain q.leaseTtlMs)) q =
          (.ok (.error error),
            { q with session := (env.acquireControl .motherbrain q.leaseTtlMs q.session).2 }) := by
        simp only [attempt, onSession, hacquire]
      unfold renewControlLease
      rw [Prog.get_bind, Prog.bind_ok hattempt]
      exact ⟨error, _, rfl⟩

theorem annotateBusyRejection_returns {q : MotherbrainPossession} (commandId : UInt32) (name : String)
    (h : Admits env.overflowChecks q.session.outcome.contract request) :
    ((env.annotateBusyRejection commandId name >>= failWith : Possessed CockpitResponse) q).1 ≠
      .error .panicked := by
  have hstatus : env.submission .getStatus q ≠ .error .panicked :=
    fun hpanic => status_not_panicked h (submission_panicked.mp hpanic)
  unfold annotateBusyRejection
  rw [Prog.bind_apply, Prog.bind_apply]
  cases hsubmission : env.submission .getStatus q with
  | ok response =>
    rw [attempt_of_accepted hsubmission]
    cases response <;> simp [failWith, Prog.fail]
  | error abort =>
    cases abort with
    | panicked => exact absurd hsubmission hstatus
    | failed error =>
      rw [attempt_of_failed hsubmission]
      exact fun hpanic => by cases hpanic

theorem losesLeaseAfter_succ {n : Nat} {commandId : UInt32}
    (h : env.submission request p = .error (.failed (.rejected commandId "busy"))) :
    env.LosesLeaseAfter request (n + 1) p ↔
      env.LosesLeaseAfter request n (busyPause (env.submitted request p)) := by
  constructor
  · intro hlost
    exact ⟨hlost.controlled, fun i hi => hlost.busy (i + 1) (by omega), hlost.lost, hlost.renewed⟩
  · intro hlost
    refine ⟨hlost.controlled, fun i hi => ?_, hlost.lost, hlost.renewed⟩
    cases i with
    | zero => exact ⟨commandId, h⟩
    | succ i => exact hlost.busy i (by omega)

theorem busy_of_losesLeaseAfter {n : Nat} (h : env.LosesLeaseAfter request n p)
    (hbusy : ∀ commandId, env.submission request p ≠
      .error (.failed (.rejected commandId "busy"))) : n = 0 := by
  cases n with
  | zero => rfl
  | succ n =>
    obtain ⟨commandId, hfirst⟩ := h.busy 0 (by omega)
    exact absurd hfirst (hbusy commandId)

@[simp] theorem submitted_outcome :
    (env.submitted request p).session.outcome = p.session.outcome :=
  (executeSession_calls env request p.session).outcome

theorem renewing_granted {q : MotherbrainPossession} {m : Possessed CockpitResponse}
    (h : (env.acquireControl .motherbrain q.leaseTtlMs q.session).1 = .ok ()) :
    ∃ q', (do env.renewControlLease; m) q = m q' ∧ q'.session.outcome = q.session.outcome := by
  refine ⟨(env.renewControlLease q).2, ?_, ?_⟩
  · exact Prog.bind_ok (Prod.ext (renewControlLease_granted h) rfl)
  · exact (renewControlLease_calling (P := fun _ => True) (fun _ _ => trivial) q).terms.outcome

theorem renewing_refused {q : MotherbrainPossession} {m : Possessed CockpitResponse}
    (h : (env.acquireControl .motherbrain q.leaseTtlMs q.session).1 ≠ .ok ()) :
    ((do env.renewControlLease; m) q).1 ≠ .error .panicked := by
  obtain ⟨error, q', hrenew⟩ := renewControlLease_refused h
  rw [Prog.bind_error hrenew]
  exact fun hpanic => by cases hpanic

/-- How a submission ends. -/
inductive Submission (env : Surroundings) (request : CockpitRequest) (p : MotherbrainPossession) : Prop
  | accepted (response : CockpitResponse) (h : env.submission request p = .ok response)
  | panicked (h : env.submission request p = .error .panicked)
  | busy (commandId : UInt32)
      (h : env.submission request p = .error (.failed (.rejected commandId "busy")))
  | failed (error : CockpitError) (h : env.submission request p = .error (.failed error))
      (hbusy : ∀ commandId, error ≠ .rejected commandId "busy")

theorem submission_cases (env : Surroundings) (request : CockpitRequest) (p : MotherbrainPossession) :
    Submission env request p := by
  cases h : env.submission request p with
  | ok response => exact .accepted response h
  | error abort =>
    cases abort with
    | panicked => exact .panicked h
    | failed error =>
      by_cases hbusy : ∃ commandId, error = .rejected commandId "busy"
      · obtain ⟨commandId, rfl⟩ := hbusy
        exact .busy commandId h
      · exact .failed error h fun commandId heq => hbusy ⟨commandId, heq⟩

theorem busyRetry_panics {n : Nat}
    (hvalid : p.session.outcome.contract.validateRequest env.overflowChecks request ≠
      .error .panicked) :
    (env.busyRetry request (n + 1) renewed p).1 = .error .panicked ↔
      renewed = false ∧ env.LosesLeaseAfter request n p := by
  induction n generalizing p renewed with
  | zero =>
    cases submission_cases env request p with
    | accepted response h =>
      rw [busyRetry_of_accepted h]
      constructor
      · exact fun hpanic => by cases hpanic
      · rintro ⟨-, hlost⟩
        obtain ⟨error, hlost, -⟩ := hlost.lost
        rw [afterBusy, h] at hlost
        cases hlost
    | panicked h => exact absurd (submission_panicked.mp h) hvalid
    | busy commandId h =>
      rw [busyRetry_of_busy_last h]
      constructor
      · exact fun hpanic => absurd hpanic
          (annotateBusyRejection_returns _ _ (by simpa using admits_of_rejected h))
      · rintro ⟨-, hlost⟩
        obtain ⟨error, hlost, hrejection⟩ := hlost.lost
        rw [afterBusy, h] at hlost
        cases hlost
        simp at hrejection
    | failed error h hbusy =>
      rw [busyRetry_of_failed h hbusy]
      split
      · rename_i hrenews
        by_cases hgranted : (env.acquireControl .motherbrain p.leaseTtlMs
            (env.submitted request p).session).1 = .ok ()
        · obtain ⟨q, heq, -⟩ := renewing_granted (m := env.busyRetry request 0 true) hgranted
          rw [heq]
          refine ⟨fun _ => ⟨by simpa using hrenews.2.1, hrenews.1, fun i hi => by omega, ?_,
            hgranted⟩, fun _ => rfl⟩
          exact ⟨error, h, hrenews.2.2⟩
        · refine ⟨fun hpanic => absurd hpanic (renewing_refused hgranted), ?_⟩
          rintro ⟨-, hlost⟩
          exact absurd hlost.renewed hgranted
      · rename_i hrenews
        refine ⟨(by intro hpanic; cases hpanic), ?_⟩
        rintro ⟨hfirst, hlost⟩
        obtain ⟨error', hlast, hrejection⟩ := hlost.lost
        rw [afterBusy, h] at hlast
        cases hlast
        exact absurd ⟨hlost.controlled, by simp [hfirst], hrejection⟩ hrenews
  | succ n ih =>
    have hnot (hbusy : ∀ commandId, env.submission request p ≠
        .error (.failed (.rejected commandId "busy"))) :
        ¬ (renewed = false ∧ env.LosesLeaseAfter request (n + 1) p) :=
      fun hlost => absurd (busy_of_losesLeaseAfter hlost.2 hbusy) (by omega)
    cases submission_cases env request p with
    | accepted response h =>
      rw [busyRetry_of_accepted h]
      exact ⟨(by intro hpanic; cases hpanic), fun hlost => absurd hlost (hnot (by simp [h]))⟩
    | panicked h => exact absurd (submission_panicked.mp h) hvalid
    | busy commandId h =>
      rw [busyRetry_of_busy h, ih (by simpa using hvalid), losesLeaseAfter_succ h]
    | failed error h hbusy =>
      have hnever := hnot (by simpa [h] using hbusy)
      refine ⟨fun hpanic => ?_, fun hlost => absurd hlost hnever⟩
      rw [busyRetry_of_failed h hbusy] at hpanic
      split at hpanic
      · by_cases hgranted : (env.acquireControl .motherbrain p.leaseTtlMs
            (env.submitted request p).session).1 = .ok ()
        · obtain ⟨q, heq, houtcome⟩ :=
            renewing_granted (m := env.busyRetry request (n + 1) true) hgranted
          rw [heq, ih (by rw [houtcome, submitted_outcome]; exact hvalid)] at hpanic
          cases hpanic.1
        · exact absurd hpanic (renewing_refused hgranted)
      · cases hpanic

theorem submitted_exchanges (env : Surroundings) (request : CockpitRequest)
    (p : MotherbrainPossession) :
    ∃ sent, (env.submitted request p).exchanges = sent ++ p.exchanges ∧ sent.length ≤ 1 ∧
      ∀ exchange ∈ sent, exchange.call.request = request := by
  have hcall : ∀ scope, ∃ sent,
      (env.call scope request p.session).2.connector.exchanges = sent ++ p.exchanges ∧
        sent.length ≤ 1 ∧ ∀ exchange ∈ sent, exchange.call.request = request :=
    fun scope => ⟨[_], rfl, by simp, by simp⟩
  have hnone : ∃ sent, p.session.connector.exchanges = sent ++ p.exchanges ∧ sent.length ≤ 1 ∧
      ∀ exchange ∈ sent, exchange.call.request = request := ⟨[], rfl, by simp, by simp⟩
  unfold submitted Surroundings.executeSession MotherbrainPossession.exchanges
  rw [Prog.get_bind, Prog.bind_apply]
  unfold lift
  cases p.session.outcome.contract.validateRequest env.overflowChecks request with
  | error abort => exact hnone
  | ok _ =>
    cases request.authorizationClass with
    | controlLease =>
      cases p.session.controlLease with
      | none => exact hnone
      | some lease =>
        dsimp only
        split
        · exact hnone
        · exact hcall _
    | serviceLease =>
      cases p.session.serviceLease with
      | none => exact hnone
      | some lease =>
        dsimp only
        split
        · exact hnone
        · exact hcall _
    | readOnly => exact hcall _
    | emergency => exact hcall _
    | session => exact hcall _

theorem submissions_le_length (request : CockpitRequest) (exchanges : List Exchange) :
    submissions request exchanges ≤ exchanges.length :=
  List.countP_le_length

theorem SubmitsAtMost.refl (n : Nat) : SubmitsAtMost request n p p :=
  ⟨[], [], by simp, by simp [submissions], by simp, by simp⟩

theorem SubmitsAtMost.after {q r : MotherbrainPossession} {sent : List Exchange} {k n : Nat}
    (hsent : q.exchanges = sent ++ p.exchanges) (hcount : submissions request sent ≤ k)
    (h : SubmitsAtMost request n q r) : SubmitsAtMost request (k + n) p r := by
  obtain ⟨reported, asked, hexchanges, hasked, hreported⟩ := h
  refine ⟨reported, asked ++ sent, ?_, ?_, hreported⟩
  · rw [hexchanges, hsent]
    simp
  · unfold submissions at hasked hcount ⊢
    rw [List.countP_append]
    omega

theorem annotateBusyRejection_submits (q : MotherbrainPossession) (commandId : UInt32)
    (name : String) : SubmitsAtMost request 0 q
      ((env.annotateBusyRejection commandId name >>= failWith : Possessed CockpitResponse) q).2 := by
  obtain ⟨sent, hsent, hlength, hrequest⟩ := submitted_exchanges env .getStatus q
  have hstate : ((env.annotateBusyRejection commandId name >>= failWith :
      Possessed CockpitResponse) q).2 = env.submitted .getStatus q := by
    unfold annotateBusyRejection
    rw [Prog.bind_apply, Prog.bind_apply]
    cases submission_cases env .getStatus q with
    | accepted response h =>
      rw [attempt_of_accepted h]
      cases response <;> rfl
    | panicked h => rw [attempt_of_panicked h]
    | busy id h =>
      rw [attempt_of_failed h]
      rfl
    | failed error h _ =>
      rw [attempt_of_failed h]
      rfl
  rw [hstate]
  exact ⟨sent, [], by simpa using hsent, by simp [submissions], hlength, hrequest⟩

theorem renewControlLease_submits (hcontrolled : request.authorizationClass = .controlLease)
    (q : MotherbrainPossession) :
    ∃ sent, (env.renewControlLease q).2.exchanges = sent ++ q.exchanges ∧
      submissions request sent = 0 := by
  have hcalls : Calls (fun exchange => SelfMade exchange.call.request) q (env.renewControlLease q).2 :=
    renewControlLease_calling (fun _ h => h) q
  obtain ⟨sent, hsent, hself⟩ := hcalls.sent
  refine ⟨sent, hsent, List.countP_eq_zero.mpr fun exchange hexchange => ?_⟩
  intro heq
  obtain rfl : exchange.call.request = request := by simpa using heq
  obtain hstatus | ⟨ttlMs, hacquire⟩ := hself exchange hexchange
  · rw [hstatus] at hcontrolled
    cases hcontrolled
  · rw [hacquire] at hcontrolled
    cases hcontrolled

theorem busyRetry_submits (n : Nat) :
    SubmitsAtMost request n p (env.busyRetry request n renewed p).2 := by
  induction n generalizing p renewed with
  | zero => exact .refl 0
  | succ n ih =>
    obtain ⟨sent, hsent, hlength, -⟩ := submitted_exchanges env request p
    have hcount : submissions request sent ≤ 1 :=
      le_trans (submissions_le_length request sent) hlength
    have hgo : ∀ r, SubmitsAtMost request n (env.submitted request p) r →
        SubmitsAtMost request (n + 1) p r := by
      intro r hr
      rw [Nat.add_comm]
      exact .after hsent hcount hr
    cases submission_cases env request p with
    | accepted response h =>
      rw [busyRetry_of_accepted h]
      exact hgo _ (.refl n)
    | panicked h =>
      rw [busyRetry_of_panicked h]
      exact hgo _ (.refl n)
    | busy commandId h =>
      cases n with
      | zero =>
        rw [busyRetry_of_busy_last h]
        exact hgo _ (annotateBusyRejection_submits _ _ _)
      | succ n =>
        rw [busyRetry_of_busy h]
        exact hgo _ (ih (p := busyPause (env.submitted request p)))
    | failed error h hbusy =>
      rw [busyRetry_of_failed h hbusy]
      split
      · rename_i hrenews
        obtain ⟨asked, hasked, hzero⟩ : ∃ asked,
            (env.renewControlLease (env.submitted request p)).2.exchanges =
                asked ++ (env.submitted request p).exchanges ∧ submissions request asked = 0 :=
          renewControlLease_submits hrenews.1 _
        apply hgo
        rw [Prog.bind_apply]
        rcases hrenew : env.renewControlLease (env.submitted request p) with ⟨abort | _, q⟩
        · rw [hrenew] at hasked
          have hq : SubmitsAtMost request n q q := .refl n
          simpa using hq.after hasked hzero.le
        · rw [hrenew] at hasked
          have hq : SubmitsAtMost request n q (env.busyRetry request n true q).2 := ih
          simpa using hq.after hasked hzero.le
      · exact hgo _ (.refl n)

end Steps

/-- The call comes back, after no more submissions than the loop has attempts. -/
structure ReturnsInTime (env : Surroundings) (request : CockpitRequest)
    (p : MotherbrainPossession) : Prop where
  returns : (env.executeWithBusyRetry request p).1 ≠ .error .panicked
  bounded : SubmitsAtMost request possessionBusyRetryAttempts p
    (env.executeWithBusyRetry request p).2

/-- Which calls come back: those whose request is checked without a panic, unless the brainstem is
busy for all submissions but the last and refuses that one for a lease it then grants again. -/
theorem returnsInTime_iff (env : Surroundings) (request : CockpitRequest)
    (p : MotherbrainPossession) :
    ReturnsInTime env request p ↔
      p.session.outcome.contract.validateRequest env.overflowChecks request ≠ .error .panicked ∧
        ¬ env.LosesLeaseAfter request (possessionBusyRetryAttempts - 1) p := by
  change _ ↔ _ ∧ ¬ env.LosesLeaseAfter request 299 p
  have hbounded : SubmitsAtMost request possessionBusyRetryAttempts p
    (env.executeWithBusyRetry request p).2 := busyRetry_submits _
  by_cases hpanics : p.session.outcome.contract.validateRequest env.overflowChecks request =
      .error .panicked
  · refine ⟨fun h => absurd ?_ h.returns, fun h => absurd hpanics h.1⟩
    change (env.busyRetry request (299 + 1) false p).1 = .error .panicked
    rw [busyRetry_of_panicked (submission_panicked.mpr hpanics)]
  · have hruns : (env.busyRetry request (299 + 1) false p).1 = .error .panicked ↔
        false = false ∧ env.LosesLeaseAfter request 299 p := busyRetry_panics hpanics
    constructor
    · exact fun h => ⟨hpanics, fun hlost => h.returns (hruns.mpr ⟨rfl, hlost⟩)⟩
    · exact fun h => ⟨fun hpanic => h.2 (hruns.mp hpanic).2, hbounded⟩

/-- A brainstem that is busy for 299 submissions and by then has let the lease run out. -/
def fickle : Surroundings :=
  { obliging true with
    answer := fun exchanges call =>
      match call.request with
      | .acquireControlLease .. => .ok (.controlLeaseGranted obligingLease)
      | _ =>
        if exchanges.length < 299 then .error (.rejected 1 "busy")
        else .error (.rejected 1 "invalid_control_lease") }

/-- A possession whose brainstem knows `cmd_vel` and `stop`. -/
def drivingPossession : MotherbrainPossession where
  session := { willingSession ["cmd_vel", "stop"] with controlLease := some obligingLease }
  leaseAcquiredAt := 0
  leaseTtlMs := 3000
  renewMarginMs := 500
  motionTtlMs := 200
  heartbeatTimeoutMs := 500
  maxLinearMmS := 200
  maxAngularMradS := 1000
  motorGateOpen := true
  refusalReason := none
  lastStatus := none

theorem returnsInTime_not_always : ¬ ReturnsInTime fickle (.cmdVel 100 0 200) drivingPossession := by
  have hpanics : (fickle.executeWithBusyRetry (.cmdVel 100 0 200) drivingPossession).1 =
      .error .panicked := by decide +kernel
  exact fun h => h.returns hpanics

end Netherwick.Cockpit
