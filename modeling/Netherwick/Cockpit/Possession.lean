import Netherwick.Cockpit.Contract
import Netherwick.Lib.Prog
import Netherwick.Lib.Text

/-! # Motherbrain possession

`MotherbrainPossession` stands between a motherbrain and its brainstem session: it renews the
control lease, keeps a motor gate, and rewrites some of the requests that go through it. A program
over it ends with a `CockpitError` or a panic, and leaves the calls made so far on its connector. -/

namespace Netherwick.Cockpit

open Netherwick.Lib

/-- The trait method a call uses, with the lease it shows. -/
inductive Scope
  | inSession
  | withLease (lease : ControlLease)
  | withServiceLease (lease : ServiceLease)
  deriving DecidableEq, Repr

structure Call where
  session : CockpitSession
  scope : Scope
  request : CockpitRequest
  deriving DecidableEq, Repr

/-- A call and what the connector made of it. -/
structure Exchange where
  call : Call
  answer : Except CockpitError CockpitResponse

/-- The fields of a status that a possession reads. -/
structure StatusSummary where
  raw : String
  estopLatched : Option Bool
  safetyTripped : Option Bool
  deriving DecidableEq, Repr

/-- What a possession runs against: any connector, which may answer by everything it has heard,
the texts of errors and statuses, and the build's overflow checks. -/
structure Surroundings where
  answer : List Exchange → Call → Except CockpitError CockpitResponse
  latencyMs : List Exchange → Call → Nat
  summary : CockpitStatus → StatusSummary
  display : CockpitError → String
  debug : CockpitResponse → String
  overflowChecks : Bool

/-- The other side of a session: the exchanges so far, newest first, and the host's clock. -/
structure Connector where
  exchanges : List Exchange := []
  nowMs : Nat := 0

structure SessionCockpit where
  connector : Connector := {}
  outcome : HandshakeOutcome
  controlLease : Option ControlLease := none
  serviceLease : Option ServiceLease := none

structure MotherbrainPossession where
  session : SessionCockpit
  leaseAcquiredAt : Nat
  leaseTtlMs : UInt32
  renewMarginMs : UInt32
  motionTtlMs : UInt32
  heartbeatTimeoutMs : UInt32
  maxLinearMmS : Int16
  maxAngularMradS : Int16
  motorGateOpen : Bool
  refusalReason : Option String
  lastStatus : Option StatusSummary

def possessionBumpEscapeHeartbeatMarginMs : Nat := 1000
def possessionLeaseRenewIntervalMs : Nat := 1000
def possessionBusyRetryAttempts : Nat := 300
def possessionBusyRetryDelayMs : Nat := 10
def legacyBumpEscapeBackoffDurationMs : Nat := 900
def legacyBumpEscapeTurnAngleMrad : Nat := 1571

/-- Saturating arithmetic on `u32`. -/
def saturateU32 (value : Nat) : Nat := min value 0xFFFFFFFF

def legacyBumpEscapeTurnDurationMs (turnAngularMradS : Int16) : Nat :=
  let angularMradS := turnAngularMradS.toInt.natAbs
  if angularMradS = 0 then 0
  else saturateU32 (saturateU32 (legacyBumpEscapeTurnAngleMrad * 1000) + (angularMradS - 1)) /
    angularMradS

def legacyBumpEscapeDurationMs (turnAngularMradS : Int16) : Nat :=
  saturateU32 (legacyBumpEscapeBackoffDurationMs + legacyBumpEscapeTurnDurationMs turnAngularMradS)

/-- `value_for`. -/
def valueFor (line key : String) : Option String :=
  (Text.valueFor line.toList key.toList).map String.ofList

/-- `bool_for`. -/
def boolFor (line key : String) : Option Bool :=
  match valueFor line key with
  | some "true" | some "1" | some "on" | some "yes" => some true
  | some "false" | some "0" | some "off" | some "no" => some false
  | _ => none

def isControlLeaseRejection : CockpitError → Bool
  | .rejected _ reason =>
    Text.contains reason.toList "invalid_control_lease".toList ||
      Text.contains reason.toList "control_lease_required".toList
  | _ => false

abbrev Sessional (α : Type) : Type := Prog SessionCockpit Abort α
abbrev Possessed (α : Type) : Type := Prog MotherbrainPossession Abort α

/-- Go on with the error a program ends in. A panic is not caught. -/
def attempt {σ α : Type} (m : Prog σ Abort α) : Prog σ Abort (Except CockpitError α) := fun s =>
  match m s with
  | (.ok a, s') => (.ok (.ok a), s')
  | (.error (.failed error), s') => (.ok (.error error), s')
  | (.error .panicked, s') => (.error .panicked, s')

def lift {σ α : Type} (result : Except Abort α) : Prog σ Abort α := fun s => (result, s)

def failWith {σ α : Type} (error : CockpitError) : Prog σ Abort α := Prog.fail (.failed error)

def onSession {α : Type} (m : Sessional α) : Possessed α := fun p =>
  ((m p.session).1, { p with session := (m p.session).2 })

namespace Surroundings

variable (env : Surroundings)

def expectAccepted {σ : Type} (response : CockpitResponse) : Prog σ Abort Unit :=
  match response with
  | .accepted => pure ()
  | .rejected message => failWith (.rejected 0 message)
  | other => failWith (.badResponse (env.debug other))

section Session

def call (scope : Scope) (request : CockpitRequest) : Sessional CockpitResponse := fun s =>
  let call : Call := { session := s.outcome.session, scope := scope, request := request }
  let answer := env.answer s.connector.exchanges call
  (answer.mapError .failed,
    { s with
      connector :=
        { exchanges := { call := call, answer := answer } :: s.connector.exchanges
          nowMs := s.connector.nowMs + env.latencyMs s.connector.exchanges call } })

/-- `SessionCockpit::execute`. -/
def executeSession (request : CockpitRequest) : Sessional CockpitResponse := do
  let s ← Prog.get
  lift (s.outcome.contract.validateRequest env.overflowChecks request)
  match request.authorizationClass with
  | .controlLease =>
    match s.controlLease with
    | none => failWith (.policy "no control lease has been acquired")
    | some lease =>
      if request.requiresOperatorDebug ∧ lease.authority ≠ .operatorDebug then
        failWith (.policy "attended operator-debug authority required")
      else env.call (.withLease lease) request
  | .serviceLease =>
    match s.serviceLease with
    | none => failWith (.policy "no service lease has been acquired")
    | some lease =>
      if request.requiredServiceScope ≠ some lease.scope then
        failWith (.policy "service_scope_denied")
      else env.call (.withServiceLease lease) request
  | _ => env.call .inSession request

def acquireControl (authority : ControlAuthority) (ttlMs : UInt32) : Sessional Unit := do
  match ← env.call .inSession (.acquireControlLease authority ttlMs) with
  | .controlLeaseGranted lease =>
    Prog.act fun s => { s with serviceLease := none, controlLease := some lease }
  | other => failWith (.badResponse (env.debug other))

end Session

section Gate

def closeGate (reason : String) : Possessed Unit :=
  Prog.act fun p => { p with motorGateOpen := false, refusalReason := some reason }

def stampLease : Possessed Unit :=
  Prog.act fun p => { p with leaseAcquiredAt := p.session.connector.nowMs }

def renewControlLease : Possessed Unit := do
  let p ← Prog.get
  match ← attempt (onSession (env.acquireControl .motherbrain p.leaseTtlMs)) with
  | .error error =>
    closeGate ("control lease renewal failed: " ++ env.display error)
    failWith error
  | .ok () => stampLease

def maintain : Possessed Unit := do
  let p ← Prog.get
  if !p.motorGateOpen then
    failWith (.policy (p.refusalReason.getD "not possessed"))
  else if p.session.connector.nowMs - p.leaseAcquiredAt <
      min (p.leaseTtlMs.toNat - p.renewMarginMs.toNat) possessionLeaseRenewIntervalMs then
    pure ()
  else env.renewControlLease

def reopenGateIfSafetyClear : Possessed Unit := do
  match ← onSession (env.executeSession .getStatus) with
  | .status status =>
    let summary := env.summary status
    Prog.act fun p => { p with lastStatus := some summary }
    if summary.estopLatched = some true ∨ summary.safetyTripped = some true then pure ()
    else
      let p ← Prog.get
      match ← attempt (onSession (env.acquireControl .motherbrain p.leaseTtlMs)) with
      | .error error =>
        closeGate ("control lease recovery failed: " ++ env.display error)
        failWith error
      | .ok () =>
        stampLease
        Prog.act fun p => { p with motorGateOpen := true, refusalReason := none }
  | other => failWith (.badResponse (env.debug other))

end Gate

section Execution

def annotateBusyRejection (commandId : UInt32) (requestName : String) : Possessed CockpitError := do
  let reason := "busy while submitting " ++ requestName
  match ← attempt (onSession (env.executeSession .getStatus)) with
  | .ok (.status status) =>
    let field (names : List String) : String :=
      (names.findSome? (valueFor (env.summary status).raw)).getD "unknown"
    pure (.rejected commandId
      (reason ++ "; status current=" ++ field ["command", "current_command"] ++
        " pending=" ++ field ["pending", "pending_command"] ++
        " pending_id=" ++ field ["pending_command_id"] ++
        " runtime=" ++ field ["runtime", "current_runtime_state"] ++
        " body=" ++ field ["body"]))
  | _ => pure (.rejected commandId reason)

/-- The loop of `execute_with_busy_retry`. If the last attempt renews the lease, the loop ends
without a result and the code panics. -/
def busyRetry (request : CockpitRequest) : Nat → Bool → Possessed CockpitResponse
  | 0, _ => Prog.fail .panicked
  | remaining + 1, retriedAfterLeaseRenewal => do
      match ← attempt (onSession (env.executeSession request)) with
      | .ok response => pure response
      | .error error =>
        match error with
        | .rejected commandId "busy" =>
          if 0 < remaining then
            Prog.act fun p =>
              { p with session.connector.nowMs :=
                  p.session.connector.nowMs + possessionBusyRetryDelayMs }
            busyRetry request remaining retriedAfterLeaseRenewal
          else
            failWith (← env.annotateBusyRejection commandId request.verb)
        | error =>
          if request.authorizationClass = .controlLease ∧ !retriedAfterLeaseRenewal ∧
              isControlLeaseRejection error then
            env.renewControlLease
            busyRetry request remaining true
          else failWith error

def executeWithBusyRetry (request : CockpitRequest) : Possessed CockpitResponse :=
  env.busyRetry request possessionBusyRetryAttempts false

def exorcize : Possessed Unit := do
  match ← attempt (env.executeWithBusyRetry .stop >>= env.expectAccepted) with
  | .error error =>
    closeGate "possession exorcized"
    failWith error
  | .ok () => closeGate "possession exorcized"

/-- `i16::clamp`, which panics on a range that is upside down. -/
def clampI16 (value low high : Int16) : Except Abort Int16 :=
  if high < low then .error .panicked
  else .ok (if value < low then low else if high < value then high else value)

/-- The requests that `execute_scoped` rewrites before it sends them. -/
def rewrite (p : MotherbrainPossession) : CockpitRequest → Except Abort CockpitRequest
  | .cmdVel linearMmS angularMradS _ => do
      let linearMmS ← clampI16 linearMmS (-p.maxLinearMmS) p.maxLinearMmS
      let angularMradS ← clampI16 angularMradS (-p.maxAngularMradS) p.maxAngularMradS
      pure (.cmdVel linearMmS angularMradS p.motionTtlMs)
  | .bumpEscape direction backoffMmS turnAngularMradS => do
      let backoffMmS ← clampI16 backoffMmS 0 p.maxLinearMmS
      let turnAngularMradS ← clampI16 turnAngularMradS 0 p.maxAngularMradS
      pure (.bumpEscape direction backoffMmS turnAngularMradS)
  | other => pure other

def heartbeatTimeout (p : MotherbrainPossession) : CockpitRequest → Option UInt32
  | .cmdVel .. => some p.heartbeatTimeoutMs
  | .bumpEscape _ _ turnAngularMradS =>
    some (max
      (UInt32.ofNat (saturateU32 (legacyBumpEscapeDurationMs turnAngularMradS +
        possessionBumpEscapeHeartbeatMarginMs)))
      p.heartbeatTimeoutMs)
  | _ => none

/-- The requests that production possession keeps from its holder. -/
def withheld : CockpitRequest → Option String
  | .setMode _ => some "Create OI is private to the brainstem"
  | .arm => some "the motherbrain lease is the possession gate; no second arm layer exists"
  | .powerState _ => some "body power control is outside production possession"
  | _ => none

/-- Motion is preceded by the heartbeat that bounds it. -/
def heartbeat (request : CockpitRequest) : Possessed Unit := do
  let p ← Prog.get
  match heartbeatTimeout p request with
  | some timeoutMs => env.executeWithBusyRetry (.heartbeatStop timeoutMs) >>= env.expectAccepted
  | none => pure ()

/-- A failure under the control lease closes the gate. -/
def submit (request : CockpitRequest) : Possessed CockpitResponse := do
  match ← attempt (env.executeWithBusyRetry request) with
  | .ok response => pure response
  | .error error =>
    Prog.when (request.authorizationClass = .controlLease)
      (closeGate ("scoped command failed: " ++ env.display error))
    failWith error

def executeScoped (request : CockpitRequest) : Possessed CockpitResponse := do
  Prog.when (request.bypassesClosedMotorGate = false) env.maintain
  match withheld request with
  | some message => failWith (.policy message)
  | none =>
    let p ← Prog.get
    let request ← lift (rewrite p request)
    env.heartbeat request
    env.submit request

/-- Answers that only read pass through, but a status that shows an e-stop closes the gate. -/
def executeReadOnly (request : CockpitRequest) : Possessed CockpitResponse := do
  let p ← Prog.get
  Prog.when (p.motorGateOpen = true) env.maintain
  match ← attempt (onSession (env.executeSession request)) with
  | .error error =>
    closeGate ("brainstem status/event failure: " ++ env.display error)
    failWith error
  | .ok response =>
    match response with
    | .status status =>
      let summary := env.summary status
      Prog.act fun p => { p with lastStatus := some summary }
      Prog.when (summary.estopLatched = some true) (closeGate "brainstem safety refusal")
      pure response
    | _ => pure response

def reopensAfterClear : CockpitRequest → Bool
  | .clearEStop | .clearSafetyLatch _ | .carefulMode _ => true
  | _ => false

/-- `Cockpit::execute` of a possession. -/
def execute (request : CockpitRequest) : Possessed CockpitResponse := do
  match request.authorizationClass with
  | .readOnly => env.executeReadOnly request
  | .serviceLease => failWith (.policy "service operations are outside motherbrain possession")
  | _ =>
    let response ← env.executeScoped request
    Prog.when (reopensAfterClear request = true) env.reopenGateIfSafetyClear
    pure response

end Execution

section Scoped

/-- `Cockpit::execute_in_session` of a possession. -/
def executeInSession (session : CockpitSession) (request : CockpitRequest) :
    Possessed CockpitResponse := do
  let p ← Prog.get
  if session.sessionId ≠ p.session.outcome.session.sessionId then
    failWith (.policy "session replacement detected")
  else env.execute request

/-- `Cockpit::execute_with_lease` of a possession. -/
def executeWithLease (session : CockpitSession) (lease : ControlLease)
    (request : CockpitRequest) : Possessed CockpitResponse := do
  let p ← Prog.get
  if session.sessionId ≠ p.session.outcome.session.sessionId ∨
      p.session.controlLease.map (fun value => (value.leaseId, value.generation)) ≠
        some (lease.leaseId, lease.generation) then
    failWith (.policy "superseded possession lease")
  else env.execute request

end Scoped

section Acquisition

/-- `MotherbrainPossession::acquire`: a fresh lease begins with a stop. -/
def acquire (session : SessionCockpit) (leaseTtlMs : UInt32) :
    Except Abort MotherbrainPossession :=
  let leaseTtlMs := max leaseTtlMs 1000
  match (do
      env.acquireControl .motherbrain leaseTtlMs
      env.executeSession .stop >>= env.expectAccepted : Sessional Unit) session with
  | (.error abort, _) => .error abort
  | (.ok (), session) =>
    .ok {
      session := session
      leaseAcquiredAt := session.connector.nowMs
      leaseTtlMs := leaseTtlMs
      renewMarginMs := max (leaseTtlMs / 3) 500
      motionTtlMs := 300
      heartbeatTimeoutMs := 750
      maxLinearMmS := 50
      maxAngularMradS := 500
      motorGateOpen := true
      refusalReason := none
      lastStatus := none }

def withLimits (p : MotherbrainPossession) (linearMmS angularMradS : Int16) :
    Except Abort MotherbrainPossession := do
  let linearMmS ← absI16 env.overflowChecks linearMmS
  let angularMradS ← absI16 env.overflowChecks angularMradS
  pure { p with maxLinearMmS := min linearMmS 50, maxAngularMradS := min angularMradS 500 }

end Acquisition

/-- What the holder of a possession does with it. -/
inductive Operation
  | execute (request : CockpitRequest)
  | executeInSession (session : CockpitSession) (request : CockpitRequest)
  | executeWithLease (session : CockpitSession) (lease : ControlLease) (request : CockpitRequest)
  | exorcize
  | maintain
  | elapse (ms : Nat)
  deriving DecidableEq, Repr

/-- One operation, whatever it ends in. A panic leaves the state it unwinds from. -/
def perform (operation : Operation) (p : MotherbrainPossession) : MotherbrainPossession :=
  match operation with
  | .execute request => (env.execute request).exec p
  | .executeInSession session request => (env.executeInSession session request).exec p
  | .executeWithLease session lease request => (env.executeWithLease session lease request).exec p
  | .exorcize => env.exorcize.exec p
  | .maintain => env.maintain.exec p
  | .elapse ms => { p with session.connector.nowMs := p.session.connector.nowMs + ms }

end Surroundings

end Netherwick.Cockpit
