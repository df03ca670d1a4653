import Netherwick.Cockpit.MotionBounds

/-! # Motion that is not bounded

Against a brainstem that grants and accepts everything, what the possession does not rewrite goes
through. With the bounds of the rewritten requests this decides which requests are bounded. -/

namespace Netherwick.Cockpit

open Netherwick.Lib

section Obliging

/-! A brainstem that knows the verbs, sets no limit and grants and accepts everything. -/

def obligingLease : ControlLease where
  leaseId := "lease-1"
  sessionId := "session-1"
  ownerRole := .motherbrain
  authority := .motherbrain
  ttlMs := 1000
  generation := 1

def obliging (overflowChecks : Bool) : Surroundings where
  answer := fun _ call =>
    match call.request with
    | .acquireControlLease .. => .ok (.controlLeaseGranted obligingLease)
    | _ => .ok .accepted
  latencyMs := fun _ _ => 0
  summary := fun status => { raw := status.raw, estopLatched := none, safetyTripped := none }
  display := fun _ => ""
  debug := fun _ => ""
  overflowChecks := overflowChecks

def willingSession (verbs : List String) : SessionCockpit where
  outcome :=
    { welcome :=
        { role := .brainstem, deviceId := "brainstem-1", bootId := "boot-1"
          echoedHandshakeNonce := "nonce-1", sessionId := "session-1", protocolMajor := 1
          protocolMinor := 0, supportedFeatures := [], requiredFeatures := []
          heartbeatMinMs := 100, heartbeatMaxMs := 1000, commandTtlMinMs := 1
          commandTtlMaxMs := 1000, currentEventNextSeq := 1
          capabilityContract := (permissive verbs).capabilities
          software := { softwareName := "brainstem", buildId := "build-1" }
          safetySnapshot :=
            { armed := false, estopLatched := false, safetyTripped := false
              activeMotion := false, runtimeState := "idle" } }
      session :=
        { sessionId := "session-1", peerDeviceId := "brainstem-1", peerBootId := "boot-1"
          localDeviceId := "motherbrain-1", localBootId := "boot-1", localRole := .motherbrain
          protocolMajor := 1, protocolMinor := 0, negotiatedFeatures := [], heartbeatMs := 100 }
      contract := permissive verbs
      eventCursor := 0
      classification := .initial }

def SessionCockpit.push (s : SessionCockpit) (e : Exchange) : SessionCockpit :=
  { s with connector.exchanges := e :: s.connector.exchanges }

def MotherbrainPossession.push (p : MotherbrainPossession) (e : Exchange) :
    MotherbrainPossession :=
  { p with session := p.session.push e }

def Exchange.Accepts (e : Exchange) (request : CockpitRequest) : Prop :=
  e.call.request = request ∧ e.answer = .ok .accepted

variable {overflowChecks : Bool} {request : CockpitRequest}

structure Acceptable (overflowChecks : Bool) (s : SessionCockpit) (request : CockpitRequest) :
    Prop where
  admits : Admits overflowChecks s.outcome.contract request
  lease : s.controlLease = some obligingLease
  plain : request.requiresOperatorDebug = false
  scope : request.authorizationClass ≠ .serviceLease
  other : ∀ authority ttlMs, request ≠ .acquireControlLease authority ttlMs

theorem call_obliging (scope : Scope) (s : SessionCockpit)
    (hother : ∀ authority ttlMs, request ≠ .acquireControlLease authority ttlMs) :
    ∃ e : Exchange, (obliging overflowChecks).call scope request s = (.ok .accepted, s.push e) ∧
      e.Accepts request := by
  have hanswer : ∀ exchanges session, (obliging overflowChecks).answer exchanges
      { session := session, scope := scope, request := request } = .ok .accepted := by
    intro exchanges session
    cases request with
    | acquireControlLease authority ttlMs => exact absurd rfl (hother authority ttlMs)
    | _ => rfl
  unfold Surroundings.call
  simp only [hanswer]
  exact ⟨_, rfl, rfl, rfl⟩

theorem executeSession_obliging {s : SessionCockpit} (h : Acceptable overflowChecks s request) :
    ∃ e : Exchange, (obliging overflowChecks).executeSession request s =
        (.ok .accepted, s.push e) ∧ e.Accepts request := by
  have hadmits : s.outcome.contract.validateRequest
      (obliging overflowChecks).overflowChecks request = .ok () := h.admits
  unfold Surroundings.executeSession
  rw [Prog.get_bind, Prog.bind_apply]
  unfold lift
  rw [hadmits]
  cases hclass : request.authorizationClass with
  | controlLease =>
    rw [h.lease, h.plain]
    exact call_obliging _ _ h.other
  | serviceLease => exact absurd hclass h.scope
  | readOnly => exact call_obliging _ _ h.other
  | emergency => exact call_obliging _ _ h.other
  | session => exact call_obliging _ _ h.other

theorem busyRetry_obliging {p : MotherbrainPossession}
    (h : Acceptable overflowChecks p.session request) :
    ∃ e : Exchange, (obliging overflowChecks).executeWithBusyRetry request p =
      (.ok .accepted, p.push e) ∧ e.Accepts request := by
  obtain ⟨e, hexecute, haccepts⟩ := executeSession_obliging h
  refine ⟨e, ?_, haccepts⟩
  have hattempt : attempt (onSession ((obliging overflowChecks).executeSession request)) p =
      (.ok (.ok .accepted), p.push e) := by
    unfold attempt onSession
    rw [hexecute]
    rfl
  change (obliging overflowChecks).busyRetry request (299 + 1) false p = _
  unfold Surroundings.busyRetry
  rw [Prog.bind_ok hattempt]
  rfl

theorem submit_obliging {p : MotherbrainPossession}
    (h : Acceptable overflowChecks p.session request) :
    ∃ e : Exchange, (obliging overflowChecks).submit request p = (.ok .accepted, p.push e) ∧
      e.Accepts request := by
  obtain ⟨e, hretry, haccepts⟩ := busyRetry_obliging h
  refine ⟨e, ?_, haccepts⟩
  have hattempt : attempt ((obliging overflowChecks).executeWithBusyRetry request) p =
      (.ok (.ok .accepted), p.push e) := by
    unfold attempt
    rw [hretry]
  unfold Surroundings.submit
  rw [Prog.bind_ok hattempt]
  rfl

/-- A possession that an obliging brainstem has just granted. -/
structure Favoured (overflowChecks : Bool) (verbs : List String) (p : MotherbrainPossession) :
    Prop where
  contract : p.session.outcome.contract = permissive verbs
  lease : p.session.controlLease = some obligingLease
  gate : p.motorGateOpen = true
  fresh : p.session.connector.nowMs = p.leaseAcquiredAt
  terms : p.leaseTtlMs = 1000 ∧ p.renewMarginMs = 500

theorem exists_favoured {verbs : List String} (hstop : "stop" ∈ verbs) :
    ∃ p, (obliging overflowChecks).acquire (willingSession verbs) 1000 = .ok p ∧
      Favoured overflowChecks verbs p := by
  have hgrant : ∃ s, (obliging overflowChecks).acquireControl .motherbrain (max 1000 1000)
      (willingSession verbs) = (.ok (), s) ∧ s.outcome.contract = permissive verbs ∧
      s.controlLease = some obligingLease := ⟨_, rfl, rfl, rfl⟩
  obtain ⟨s, hgrant, hcontract, hlease⟩ := hgrant
  have hstop : Acceptable overflowChecks s .stop := by
    refine ⟨?_, hlease, rfl, (fun h => nomatch h), fun _ _ h => nomatch h⟩
    rw [hcontract]
    exact validateRequest_permissive hstop fun _ check hcheck => nomatch hcheck
  obtain ⟨e, hexecute, _⟩ := executeSession_obliging hstop
  have hstopped : ((obliging overflowChecks).executeSession .stop >>=
      (obliging overflowChecks).expectAccepted : Sessional Unit) s =
      (.ok (), s.push e) := by
    rw [Prog.bind_ok hexecute]
    rfl
  unfold Surroundings.acquire
  simp only [Prog.bind_ok hgrant, hstopped]
  exact ⟨_, rfl, hcontract, hlease, rfl, rfl, rfl, rfl⟩

theorem Favoured.push {verbs : List String} {p : MotherbrainPossession}
    (h : Favoured overflowChecks verbs p) (e : Exchange) :
    Favoured overflowChecks verbs (p.push e) :=
  ⟨h.contract, h.lease, h.gate, h.fresh, h.terms⟩

theorem maintain_favoured {verbs : List String} {p : MotherbrainPossession}
    (h : Favoured overflowChecks verbs p) :
    (obliging overflowChecks).maintain p = (.ok (), p) := by
  have hfresh : p.session.connector.nowMs - p.leaseAcquiredAt <
      min (p.leaseTtlMs.toNat - p.renewMarginMs.toNat) possessionLeaseRenewIntervalMs := by
    rw [h.fresh, h.terms.1, h.terms.2, Nat.sub_self]
    decide
  unfold Surroundings.maintain
  rw [Prog.get_bind, h.gate, if_neg (by decide), if_pos hfresh]
  rfl

/-- What every request that moves the robot has in common. -/
structure Drives (request : CockpitRequest) : Prop where
  scope : request.authorizationClass = .controlLease
  plain : request.requiresOperatorDebug = false
  other : ∀ authority ttlMs, request ≠ .acquireControlLease authority ttlMs
  free : Surroundings.withheld request = none
  reopens : Surroundings.reopensAfterClear request = false

theorem drives_of_commandsMotion (h : request.commandsMotion = true) : Drives request := by
  cases request <;>
    first
    | exact ⟨rfl, rfl, (fun _ _ h => nomatch h), rfl, rfl⟩
    | cases h

theorem Favoured.acceptable {verbs : List String} {p : MotherbrainPossession}
    (h : Favoured overflowChecks verbs p) (hverb : request.verb ∈ verbs)
    (hdrives : Drives request)
    (hspeeds : overflowChecks = true → ∀ check ∈ request.speedChecks,
      check.value ≠ Int16.minValue) :
    Acceptable overflowChecks p.session request := by
  refine ⟨?_, h.lease, hdrives.plain, ?_, hdrives.other⟩
  · rw [h.contract]
    exact validateRequest_permissive hverb hspeeds
  · rw [hdrives.scope]
    exact fun h => nomatch h

theorem executeScoped_favoured {verbs : List String} {p : MotherbrainPossession}
    {request' : CockpitRequest} (h : Favoured overflowChecks verbs p)
    (hfree : Surroundings.withheld request = none)
    (hrewrite : Surroundings.rewrite p request = .ok request') :
    (obliging overflowChecks).executeScoped request p =
      (do (obliging overflowChecks).heartbeat request'
          (obliging overflowChecks).submit request') p := by
  have hmaintain : Prog.when (request.bypassesClosedMotorGate = false)
      (obliging overflowChecks).maintain p = (.ok (), p) := by
    unfold Prog.when
    split
    · exact maintain_favoured h
    · rfl
  unfold Surroundings.executeScoped
  rw [Prog.bind_ok hmaintain]
  simp only [hfree]
  rw [Prog.get_bind, Prog.bind_apply]
  unfold lift
  rw [hrewrite]

theorem unclamped_sent {verbs : List String} {p : MotherbrainPossession}
    (h : Favoured overflowChecks verbs p) (hdrives : Drives request)
    (hvel : ∀ linear angular ttlMs, request ≠ .cmdVel linear angular ttlMs)
    (hbump : ∀ direction backoff turn, request ≠ .bumpEscape direction backoff turn)
    (hok : Acceptable overflowChecks p.session request) :
    ∃ e : Exchange, ((obliging overflowChecks).execute request).exec p = p.push e ∧
      e.Accepts request := by
  obtain ⟨e, hsubmit, haccepts⟩ := submit_obliging hok
  have hbeat : Surroundings.heartbeatTimeout p request = none := by
    cases request with
    | cmdVel linear angular ttlMs => exact absurd rfl (hvel linear angular ttlMs)
    | bumpEscape direction backoff turn => exact absurd rfl (hbump direction backoff turn)
    | _ => rfl
  have hquiet : (obliging overflowChecks).heartbeat request p = (.ok (), p) := by
    unfold Surroundings.heartbeat
    rw [Prog.get_bind, hbeat]
    rfl
  refine ⟨e, ?_, haccepts⟩
  rw [execute_of_motion hdrives.scope hdrives.reopens]
  unfold Prog.exec
  rw [executeScoped_favoured h hdrives.free (rewrite_of_plain hvel hbump),
    Prog.bind_ok hquiet, hsubmit]

theorem cmdVel_sent {verbs : List String} {p : MotherbrainPossession}
    {linear angular linear' angular' : Int16} {ttlMs : UInt32}
    (h : Favoured false verbs p) (hverb : "cmd_vel" ∈ verbs) (hheartbeat : "heartbeat_stop" ∈ verbs)
    (hrewrite : Surroundings.rewrite p (.cmdVel linear angular ttlMs) =
      .ok (.cmdVel linear' angular' p.motionTtlMs)) :
    ∃ beat e : Exchange, ((obliging false).execute (.cmdVel linear angular ttlMs)).exec p =
      (p.push beat).push e ∧ e.Accepts (.cmdVel linear' angular' p.motionTtlMs) := by
  have hbeatOk : Acceptable false p.session (.heartbeatStop p.heartbeatTimeoutMs) := by
    refine ⟨?_, h.lease, rfl, (fun h => nomatch h), fun _ _ h => nomatch h⟩
    rw [h.contract]
    exact validateRequest_permissive hheartbeat fun h => nomatch h
  obtain ⟨beat, hbeat, _⟩ := busyRetry_obliging hbeatOk
  have hheart : (obliging false).heartbeat (.cmdVel linear' angular' p.motionTtlMs) p =
      (.ok (), p.push beat) := by
    unfold Surroundings.heartbeat
    rw [Prog.get_bind]
    change ((obliging false).executeWithBusyRetry (.heartbeatStop p.heartbeatTimeoutMs) >>=
      (obliging false).expectAccepted) p = _
    rw [Prog.bind_ok hbeat]
    rfl
  have hok : Acceptable false (p.push beat).session (.cmdVel linear' angular' p.motionTtlMs) :=
    (h.push beat).acceptable hverb (drives_of_commandsMotion rfl) fun h => nomatch h
  obtain ⟨e, hsubmit, haccepts⟩ := submit_obliging hok
  refine ⟨beat, e, ?_, haccepts⟩
  rw [execute_of_motion rfl rfl]
  unfold Prog.exec
  rw [executeScoped_favoured h rfl hrewrite, Prog.bind_ok hheart, hsubmit]

end Obliging

section Bound

variable {overflowChecks : Bool} {p : MotherbrainPossession} {linearMmS angularMradS : Int16}

theorem withLimits_eq {env : Surroundings}
    (h : env.overflowChecks = true → linearMmS ≠ Int16.minValue ∧ angularMradS ≠ Int16.minValue) :
    env.withLimits p linearMmS angularMradS = .ok { p with
      maxLinearMmS := min linearMmS.abs 50, maxAngularMradS := min angularMradS.abs 500 } := by
  unfold Surroundings.withLimits
  rw [absI16_eq fun hc => (h hc).1, absI16_eq fun hc => (h hc).2]
  rfl

theorem clampI16_limit (value limit cap : Int16) (hcap : 0 ≤ cap.toInt) :
    ∃ clamped, Surroundings.clampI16 value (-(min limit.abs cap)) (min limit.abs cap) =
      .ok clamped := by
  by_cases hmin : limit = Int16.minValue
  · have hlimit : min limit.abs cap = Int16.minValue := by
      apply Int16.toInt.inj
      have hbound := cap.minValue_le_toInt
      rw [hmin, toInt_min]
      exact min_eq_left hbound
    rw [hlimit]
    exact ⟨_, if_neg (by decide)⟩
  · obtain ⟨clamped, h, _⟩ := clampI16_symmetric (limit_nonneg hmin hcap) value
    exact ⟨clamped, h⟩

theorem not_within_minValue {cap speed : Int16} (hcap : 0 ≤ cap.toInt) :
    ¬(speed.toInt.natAbs : Int) ≤ (min Int16.minValue.abs cap).toInt := by
  have hmin : Int16.minValue.abs.toInt = -32768 := by decide
  rw [toInt_min, hmin]
  omega

/-- Under which limits and for which requests everything sent is bounded, whatever the brainstem
does and whatever was done before. -/
theorem motion_bounded_iff (overflowChecks : Bool) (linearMmS angularMradS : Int16)
    (request : CockpitRequest) :
    (∀ (env : Surroundings) (session : SessionCockpit) (leaseTtlMs : UInt32)
      (p : MotherbrainPossession) (operations : List Surroundings.Operation),
      env.overflowChecks = overflowChecks →
      Configured env session leaseTtlMs linearMmS angularMradS p →
      MotionBounded env (env.run operations p) request) ↔
    Clamped overflowChecks linearMmS angularMradS request := by
  constructor
  · intro h
    by_contra hclamped
    unfold Clamped at hclamped
    simp only [not_or, not_and] at hclamped
    obtain ⟨hmotion, hbump, hvel, hpanics⟩ := hclamped
    have hdrives := drives_of_commandsMotion (by simpa using hmotion)
    have hlimits : overflowChecks = true →
        linearMmS ≠ Int16.minValue ∧ angularMradS ≠ Int16.minValue := by
      intro hc
      have hnot := hpanics hc
      simp only [List.mem_cons, not_or] at hnot
      exact ⟨Ne.symm hnot.1, Ne.symm hnot.2.1⟩
    have hspeeds : overflowChecks = true → ∀ check ∈ request.speedChecks,
        check.value ≠ Int16.minValue := by
      intro hc check hcheck hvalue
      apply hpanics hc
      simp only [List.mem_cons, List.mem_map]
      exact .inr (.inr ⟨check, hcheck, hvalue⟩)
    obtain ⟨fresh, hacquire, hfavoured⟩ := @exists_favoured overflowChecks
      [request.verb, "stop", "heartbeat_stop"] (by simp)
    have hset : (obliging overflowChecks).withLimits fresh linearMmS angularMradS = _ :=
      withLimits_eq hlimits
    obtain ⟨sent, hsent, hlaw⟩ :=
      h (obliging overflowChecks) _ 1000 _ [] rfl ⟨fresh, hacquire, hset⟩
    have hfavoured : Favoured overflowChecks [request.verb, "stop", "heartbeat_stop"]
        { fresh with
          maxLinearMmS := min linearMmS.abs 50, maxAngularMradS := min angularMradS.abs 500 } :=
      ⟨hfavoured.contract, hfavoured.lease, hfavoured.gate, hfavoured.fresh, hfavoured.terms⟩
    by_cases hcmdVel : ∃ linear angular ttlMs, request = .cmdVel linear angular ttlMs
    · obtain ⟨linear, angular, ttlMs, rfl⟩ := hcmdVel
      have hleast := hvel ⟨linear, angular, ttlMs, rfl⟩
      cases overflowChecks with
      | true => exact absurd (hlimits rfl).2 (hleast (hlimits rfl).1)
      | false =>
        obtain ⟨linear', hlinear⟩ := clampI16_limit linear linearMmS 50 (by decide)
        obtain ⟨angular', hangular⟩ := clampI16_limit angular angularMradS 500 (by decide)
        have hrewrite : Surroundings.rewrite { fresh with
            maxLinearMmS := min linearMmS.abs 50, maxAngularMradS := min angularMradS.abs 500 }
            (.cmdVel linear angular ttlMs) = .ok (.cmdVel linear' angular' fresh.motionTtlMs) := by
          unfold Surroundings.rewrite
          dsimp only
          rw [hlinear, hangular]
          rfl
        obtain ⟨beat, e, hexec, haccepts⟩ :=
          cmdVel_sent hfavoured List.mem_cons_self (by simp) hrewrite
        have hsame : [e, beat] = sent :=
          List.append_cancel_right ((congrArg MotherbrainPossession.exchanges hexec).symm.trans hsent)
        rw [← hsame] at hlaw
        have hwithin := (hlaw.1 (by rw [haccepts.1]; rfl)).1
        rw [haccepts.1] at hwithin
        by_cases hlin : linearMmS = Int16.minValue
        · rw [hlin] at hwithin
          exact not_within_minValue (by decide) (hwithin.linear linear' List.mem_cons_self)
        · have hang : angularMradS = Int16.minValue := not_not.mp (hleast hlin)
          rw [hang] at hwithin
          exact not_within_minValue (by decide) (hwithin.angular angular' List.mem_cons_self)
    · obtain ⟨e, hexec, haccepts⟩ := unclamped_sent hfavoured hdrives
        (fun l a t hr => hcmdVel ⟨l, a, t, hr⟩) (fun d b t hr => hbump ⟨d, b, t, hr⟩)
        (hfavoured.acceptable List.mem_cons_self hdrives hspeeds)
      have hsame : [e] = sent :=
        List.append_cancel_right ((congrArg MotherbrainPossession.exchanges hexec).symm.trans hsent)
      rw [← hsame] at hlaw
      obtain ⟨beat, hbeat, _⟩ := (hlaw.1 (by rw [haccepts.1]; simpa using hmotion)).2
      cases hbeat
  · intro hclamped env session leaseTtlMs p operations hchecks hp
    rw [← hchecks] at hclamped
    exact bounded_of_clamped hclamped hp

/-- `drive_direct` reaches the wheels' firmware at ten times the limit for a minute, with no
heartbeat. -/
theorem driveDirect_unbounded :
    ¬∀ (env : Surroundings) (session : SessionCockpit) (leaseTtlMs : UInt32)
      (linearMmS angularMradS : Int16) (p : MotherbrainPossession)
      (operations : List Surroundings.Operation) (request : CockpitRequest),
      Configured env session leaseTtlMs linearMmS angularMradS p →
      MotionBounded env (env.run operations p) request := by
  intro h
  obtain ⟨fresh, hacquire, hfavoured⟩ := @exists_favoured true ["drive_direct", "stop"] (by simp)
  have hset : (obliging true).withLimits fresh 50 500 = _ := withLimits_eq fun _ => by decide
  obtain ⟨sent, hsent, hlaw⟩ := h (obliging true) _ 1000 50 500 _ [] (.driveDirect 500 500 60000)
    ⟨fresh, hacquire, hset⟩
  have hfavoured : Favoured true ["drive_direct", "stop"] { fresh with
      maxLinearMmS := min (50 : Int16).abs 50, maxAngularMradS := min (500 : Int16).abs 500 } :=
    ⟨hfavoured.contract, hfavoured.lease, hfavoured.gate, hfavoured.fresh, hfavoured.terms⟩
  have hdrives : Drives (.driveDirect 500 500 60000) := drives_of_commandsMotion rfl
  obtain ⟨e, hexec, haccepts⟩ := unclamped_sent hfavoured hdrives
    (fun _ _ _ hr => nomatch hr) (fun _ _ _ hr => nomatch hr)
    (hfavoured.acceptable List.mem_cons_self hdrives (fun _ => by decide))
  have hsame : [e] = sent :=
    List.append_cancel_right ((congrArg MotherbrainPossession.exchanges hexec).symm.trans hsent)
  rw [← hsame] at hlaw
  obtain ⟨beat, hbeat, _⟩ := (hlaw.1 (by rw [haccepts.1]; rfl)).2
  cases hbeat

end Bound

end Netherwick.Cockpit
