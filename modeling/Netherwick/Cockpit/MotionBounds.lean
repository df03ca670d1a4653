import Netherwick.Cockpit.PossessionCalls
import Netherwick.Lib.History

/-! # Bounded motion

A possession clamps two of the requests that move the robot and has the heartbeat accepted before
them. Every other one is sent as it came. -/

namespace Netherwick.Cockpit

open Netherwick.Lib

namespace CockpitRequest

def linearSpeeds : CockpitRequest → List Int16
  | escapeMotion _ _ linearMmS _ _ | cmdVel linearMmS _ _ => [linearMmS]
  | driveDirect leftMmS rightMmS _ => [leftMmS, rightMmS]
  | driveArc velocityMmS _ _ | driveFor _ velocityMmS _ | holdHeading _ velocityMmS _ _
  | arcFor velocityMmS _ _ | creepUntil velocityMmS _ _ | wallFollow _ velocityMmS _ _ =>
    [velocityMmS]
  | trackBearing _ _ maxLinearMmS _ _ _ | dockAlign _ _ maxLinearMmS _ _ _ => [maxLinearMmS]
  | bumpEscape _ backoffMmS _ | unstick _ backoffMmS _ => [backoffMmS]
  | _ => []

def angularSpeeds : CockpitRequest → List Int16
  | escapeMotion _ _ _ angularMradS _ | cmdVel _ angularMradS _ | turnBy _ angularMradS _
  | turnToHeading _ angularMradS _ _ | creepUntil _ angularMradS _ | scanArc _ angularMradS _
  | wiggleAlign _ angularMradS _ | calibrateTurn angularMradS _
  | orientationProbe angularMradS _ => [angularMradS]
  | faceBearing _ maxAngularMradS _ _ | trackBearing _ _ _ maxAngularMradS _ _
  | holdHeading _ _ maxAngularMradS _ | dockAlign _ _ _ maxAngularMradS _ _
  | wallFollow _ _ maxAngularMradS _ => [maxAngularMradS]
  | bumpEscape _ _ turnAngularMradS | unstick _ _ turnAngularMradS => [turnAngularMradS]
  | _ => []

def commandsMotion (request : CockpitRequest) : Bool :=
  !request.linearSpeeds.isEmpty || !request.angularSpeeds.isEmpty || request == .dock

theorem commandsMotion_of_selfMade {request : CockpitRequest} (h : SelfMade request) :
    request.commandsMotion = false := by
  cases h with
  | inl h => rw [h]; rfl
  | inr h => obtain ⟨ttlMs, rfl⟩ := h; rfl

end CockpitRequest

section Law

/-- The speeds and the duration of a request are what the possession allows. A request without a
duration runs on the firmware's own. -/
structure WithinBounds (p : MotherbrainPossession) (request : CockpitRequest) : Prop where
  linear : ∀ speed ∈ request.linearSpeeds, (speed.toInt.natAbs : Int) ≤ p.maxLinearMmS.toInt
  angular : ∀ speed ∈ request.angularSpeeds, (speed.toInt.natAbs : Int) ≤ p.maxAngularMradS.toInt
  ttl : ∀ ttlMs, request.ttlOrTimeoutMs = some ttlMs → ttlMs ≤ p.motionTtlMs

/-- An accepted `heartbeat_stop`. -/
def Exchange.Beats (e : Exchange) : Prop :=
  (∃ timeoutMs, e.call.request = .heartbeatStop timeoutMs) ∧ e.answer = .ok .accepted

/-- What the claim asks of an exchange, given the earlier ones of the same operation. -/
def MotionLaw (p : MotherbrainPossession) (e : Exchange) (earlier : List Exchange) : Prop :=
  e.call.request.commandsMotion = true →
    WithinBounds p e.call.request ∧ ∃ beat ∈ earlier, beat.Beats

def MotionBounded (env : Surroundings) (p : MotherbrainPossession) (request : CockpitRequest) :
    Prop :=
  ∃ sent, ((env.execute request).exec p).exchanges = sent ++ p.exchanges ∧
    Annals (MotionLaw p) sent

def Configured (env : Surroundings) (session : SessionCockpit) (leaseTtlMs : UInt32)
    (linearMmS angularMradS : Int16) (p : MotherbrainPossession) : Prop :=
  ∃ fresh, env.acquire session leaseTtlMs = .ok fresh ∧
    env.withLimits fresh linearMmS angularMradS = .ok p

def Surroundings.run (env : Surroundings) (operations : List Surroundings.Operation)
    (p : MotherbrainPossession) : MotherbrainPossession :=
  operations.foldl (fun p operation => env.perform operation p) p

end Law

section Terms

variable {env : Surroundings} {p : MotherbrainPossession}

theorem execute_terms (request : CockpitRequest) :
    Prog.Stays (Keeps fun _ => True) (env.execute request) :=
  execute_keeps request (fun _ _ => trivial) (fun _ _ _ => trivial) fun _ _ _ _ _ _ _ => trivial

theorem exorcize_calling {P : Exchange → Prop} (hself : ∀ e, SelfMade e.call.request → P e)
    (hstop : ∀ e, e.call.request = .stop → P e) : Calling P env.exorcize := by
  refine Calling.bind (Calling.attempt (Calling.bind (fun q => ?_) fun response =>
    expectAccepted_calling response)) fun result => ?_
  · apply (executeWithBusyRetry_attending .stop q).imp
    intro e he
    cases he with
    | inl h => exact hstop e h.1
    | inr h => exact hself e h
  · cases result with
    | error error => exact (closeGate_calling _).bind fun _ => .fail _
    | ok _ => exact closeGate_calling _

theorem perform_terms (operation : Surroundings.Operation) :
    SameTerms p (env.perform operation p) := by
  cases operation with
  | execute request => exact (execute_terms request p).terms
  | executeInSession session request =>
    have hstays : Prog.Stays (Keeps fun _ => True) (env.executeInSession session request) :=
      Prog.Stays.bind (fun _ _ _ => Keeps.trans) (Prog.Stays.get .refl) fun q =>
        Prog.Stays.ite (Prog.Stays.fail .refl _) (execute_terms request)
    exact (hstays p).terms
  | executeWithLease session lease request =>
    have hstays : Prog.Stays (Keeps fun _ => True)
        (env.executeWithLease session lease request) :=
      Prog.Stays.bind (fun _ _ _ => Keeps.trans) (Prog.Stays.get .refl) fun q =>
        Prog.Stays.ite (Prog.Stays.fail .refl _) (execute_terms request)
    exact (hstays p).terms
  | exorcize =>
    have hcalls : Calling (fun _ => True) env.exorcize :=
      exorcize_calling (fun _ _ => trivial) fun _ _ => trivial
    exact (hcalls p).terms
  | maintain =>
    have hcalls : Calling (fun _ => True) env.maintain := maintain_calling fun _ _ => trivial
    exact (hcalls p).terms
  | elapse ms => exact ⟨rfl, rfl, rfl, rfl, rfl⟩

theorem run_terms (operations : List Surroundings.Operation) :
    SameTerms p (env.run operations p) := by
  induction operations generalizing p with
  | nil => exact .refl p
  | cons operation operations ih => exact (perform_terms operation).trans ih

end Terms

section Limits

variable {env : Surroundings} {p q : MotherbrainPossession} {linearMmS angularMradS : Int16}

theorem toInt_abs_of_ne {value : Int16} (h : value ≠ Int16.minValue) :
    value.abs.toInt = value.toInt.natAbs := by
  apply BitVec.toInt_abs_eq_natAbs_of_ne_intMin
  intro hmin
  exact h (Int16.toBitVec.inj hmin)

theorem withLimits_ok (h : env.withLimits p linearMmS angularMradS = .ok q) :
    q = { p with
      maxLinearMmS := min linearMmS.abs 50, maxAngularMradS := min angularMradS.abs 500 } ∧
    (env.overflowChecks = true → linearMmS ≠ Int16.minValue ∧ angularMradS ≠ Int16.minValue) := by
  unfold Surroundings.withLimits at h
  cases hlinear : absI16 env.overflowChecks linearMmS with
  | error abort => rw [hlinear] at h; cases h
  | ok linear =>
    cases hangular : absI16 env.overflowChecks angularMradS with
    | error abort => rw [hlinear, hangular] at h; cases h
    | ok angular =>
      rw [hlinear, hangular] at h
      obtain ⟨rfl, hchecks⟩ := absI16_ok hlinear
      obtain ⟨rfl, hchecks'⟩ := absI16_ok hangular
      cases h
      exact ⟨rfl, fun hc => ⟨hchecks hc, hchecks' hc⟩⟩

theorem toInt_min {a b : Int16} : (min a b).toInt = min a.toInt b.toInt := by
  change (if a ≤ b then a else b).toInt = _
  by_cases h : a ≤ b
  · rw [if_pos h, min_eq_left (Int16.le_iff_toInt_le.mp h)]
  · rw [if_neg h, min_eq_right (by rw [Int16.le_iff_toInt_le] at h; omega)]

theorem limit_nonneg {value cap : Int16} (h : value ≠ Int16.minValue) (hcap : 0 ≤ cap.toInt) :
    0 ≤ (min value.abs cap).toInt := by
  rw [toInt_min, toInt_abs_of_ne h]
  omega

theorem toInt_neg_of_nonneg {limit : Int16} (h : 0 ≤ limit.toInt) :
    (-limit).toInt = -limit.toInt := by
  have hbound := limit.toInt_lt
  rw [Int16.toInt_neg]
  apply Int.bmod_eq_of_le <;> omega

theorem clampI16_symmetric {limit : Int16} (h : 0 ≤ limit.toInt) (value : Int16) :
    ∃ clamped, Surroundings.clampI16 value (-limit) limit = .ok clamped ∧
      (clamped.toInt.natAbs : Int) ≤ limit.toInt := by
  have hneg := toInt_neg_of_nonneg h
  unfold Surroundings.clampI16
  rw [if_neg (by rw [Int16.lt_iff_toInt_lt, hneg]; omega)]
  refine ⟨_, rfl, ?_⟩
  split
  · omega
  · rename_i hlow
    split
    · omega
    · rename_i hhigh
      rw [Int16.lt_iff_toInt_lt] at hlow hhigh
      omega

theorem clampI16_forward {limit value clamped : Int16}
    (h : Surroundings.clampI16 value 0 limit = .ok clamped) :
    (clamped.toInt.natAbs : Int) ≤ limit.toInt := by
  unfold Surroundings.clampI16 at h
  split at h
  · cases h
  · rename_i horder
    rw [Int16.lt_iff_toInt_lt] at horder
    cases h
    have hzero : (0 : Int16).toInt = 0 := rfl
    split
    · omega
    · rename_i hlow
      split
      · omega
      · rename_i hhigh
        rw [Int16.lt_iff_toInt_lt] at hlow hhigh
        omega

end Limits

section Obedience

variable {env : Surroundings} {start p q : MotherbrainPossession} {request : CockpitRequest}

def Obeys (start p : MotherbrainPossession) : Prop :=
  ∃ sent, p.exchanges = sent ++ start.exchanges ∧ Annals (MotionLaw start) sent

/-- Besides, a heartbeat has been accepted since. -/
def Primed (start p : MotherbrainPossession) : Prop :=
  ∃ sent, p.exchanges = sent ++ start.exchanges ∧ Annals (MotionLaw start) sent ∧
    ∃ beat ∈ sent, beat.Beats

theorem Obeys.refl (start : MotherbrainPossession) : Obeys start start := ⟨[], rfl, trivial⟩

theorem Obeys.idle (h : Obeys start p)
    (hsent : Sent (fun e => e.call.request.commandsMotion = false) p.exchanges q.exchanges) :
    Obeys start q := by
  obtain ⟨sent, hp, hlaw⟩ := h
  obtain ⟨recent, hq, hidle⟩ := hsent
  refine ⟨recent ++ sent, by rw [hq, hp, List.append_assoc], ?_⟩
  apply hlaw.append_of_forall
  intro e he earlier hmotion
  rw [hidle e he] at hmotion
  cases hmotion

theorem Obeys.primed {timeoutMs : UInt32} (h : Obeys start q) (hold : Obeys start p)
    (hbeat : Answered (.heartbeatStop timeoutMs) .accepted p.exchanges q.exchanges) :
    Primed start q := by
  obtain ⟨sent, hq, hlaw⟩ := h
  obtain ⟨older, hp, _⟩ := hold
  obtain ⟨beat, recent, hbeats, hrequest, hanswer⟩ := hbeat
  refine ⟨sent, hq, hlaw, beat, ?_, ⟨timeoutMs, hrequest⟩, hanswer⟩
  rw [hbeats, hp] at hq
  have hsent : beat :: (recent ++ older) = sent :=
    List.append_cancel_right (by simpa using hq)
  rw [← hsent]
  exact List.mem_cons_self

theorem Primed.moves (h : Primed start p) (hsent : Sent (fun e =>
      e.call.request.commandsMotion = true → WithinBounds start e.call.request)
      p.exchanges q.exchanges) : Obeys start q := by
  obtain ⟨sent, hp, hlaw, beat, hbeat, hbeats⟩ := h
  obtain ⟨recent, hq, hwithin⟩ := hsent
  refine ⟨recent ++ sent, by rw [hq, hp, List.append_assoc], ?_⟩
  clear hq
  induction recent with
  | nil => exact hlaw
  | cons e recent ih =>
    refine ⟨?_, ih fun other hother => hwithin other (List.mem_cons_of_mem _ hother)⟩
    intro hmotion
    refine ⟨hwithin e List.mem_cons_self hmotion, beat, ?_, hbeats⟩
    exact List.mem_append_right recent hbeat

theorem executeScoped_obeys (hwithheld : Surroundings.withheld request = none)
    (hrewrite : ∀ p request', SameTerms start p → Surroundings.rewrite p request = .ok request' →
      WithinBounds start request' ∧
        ∃ timeoutMs, Surroundings.heartbeatTimeout p request' = some timeoutMs) :
    Obeys start ((env.executeScoped request).exec start) := by
  have hself : ∀ e : Exchange, SelfMade e.call.request → e.call.request.commandsMotion = false :=
    fun _ => CockpitRequest.commandsMotion_of_selfMade
  have hmaintain : Calling (fun e => e.call.request.commandsMotion = false)
      (Prog.when (request.bypassesClosedMotorGate = false) env.maintain) :=
    Calling.when (maintain_calling hself)
  unfold Surroundings.executeScoped
  rw [Prog.exec_bind]
  rcases hfirst : Prog.when (request.bypassesClosedMotorGate = false) env.maintain start with
    ⟨error | _, p⟩
  · exact (Obeys.refl start).idle (hmaintain.sent hfirst)
  · have hp : Obeys start p := (Obeys.refl start).idle (hmaintain.sent hfirst)
    have hterms : SameTerms start p := by
      have h := (hmaintain start).terms
      rwa [hfirst] at h
    dsimp only
    rw [hwithheld, Prog.exec_bind, Prog.get_apply]
    dsimp only
    rw [Prog.exec_bind]
    unfold lift
    cases hrewritten : Surroundings.rewrite p request with
    | error abort => exact hp
    | ok request' =>
      obtain ⟨hwithin, timeoutMs, htimeout⟩ := hrewrite p request' hterms hrewritten
      dsimp only
      rw [Prog.exec_bind]
      have hheartbeat : Calling (fun e => e.call.request.commandsMotion = false)
          (env.heartbeat request') :=
        heartbeat_calling request' hself fun e timeoutMs he => by rw [he]; rfl
      rcases hbeat : env.heartbeat request' p with ⟨error | _, q⟩
      · exact hp.idle (hheartbeat.sent hbeat)
      · have hq : Primed start q :=
          (hp.idle (hheartbeat.sent hbeat)).primed hp (heartbeat_ok htimeout hbeat)
        apply hq.moves
        apply (submit_attending request' q).sent.imp
        intro e he hmotion
        cases he with
        | inl h => rw [h.1]; exact hwithin
        | inr h =>
          rw [hself e h] at hmotion
          cases hmotion

theorem execute_of_motion (hclass : request.authorizationClass = .controlLease)
    (hreopens : Surroundings.reopensAfterClear request = false) (p : MotherbrainPossession) :
    (env.execute request).exec p = (env.executeScoped request).exec p := by
  unfold Surroundings.execute
  rw [hclass]
  dsimp only
  rw [Prog.exec_bind, hreopens]
  unfold Prog.exec
  rcases env.executeScoped request p with ⟨error | response, q⟩ <;> rfl

theorem cmdVel_bounded {linearMmS angularMradS : Int16} {ttlMs : UInt32}
    (hlinear : 0 ≤ p.maxLinearMmS.toInt) (hangular : 0 ≤ p.maxAngularMradS.toInt) :
    MotionBounded env p (.cmdVel linearMmS angularMradS ttlMs) := by
  unfold MotionBounded
  rw [execute_of_motion rfl rfl]
  apply executeScoped_obeys rfl
  intro q request' hterms hrewrite
  rw [← hterms.maxLinearMmS] at hlinear
  rw [← hterms.maxAngularMradS] at hangular
  obtain ⟨linear, hlin, hlinbound⟩ := clampI16_symmetric hlinear linearMmS
  obtain ⟨angular, hang, hangbound⟩ := clampI16_symmetric hangular angularMradS
  unfold Surroundings.rewrite at hrewrite
  dsimp only at hrewrite
  rw [hlin, hang] at hrewrite
  cases hrewrite
  refine ⟨⟨?_, ?_, ?_⟩, _, rfl⟩
  · intro speed hspeed
    rw [List.mem_singleton.mp hspeed, ← hterms.maxLinearMmS]
    exact hlinbound
  · intro speed hspeed
    rw [List.mem_singleton.mp hspeed, ← hterms.maxAngularMradS]
    exact hangbound
  · intro ttl httl
    rw [← Option.some.inj httl, hterms.motionTtlMs]
    exact UInt32.le_refl _

theorem bumpEscape_bounded {direction : EscapeDirection} {backoffMmS turnAngularMradS : Int16} :
    MotionBounded env p (.bumpEscape direction backoffMmS turnAngularMradS) := by
  unfold MotionBounded
  rw [execute_of_motion rfl rfl]
  apply executeScoped_obeys rfl
  intro q request' hterms hrewrite
  unfold Surroundings.rewrite at hrewrite
  dsimp only at hrewrite
  obtain ⟨linear, hlin, hrewrite⟩ := except_bind_ok hrewrite
  obtain ⟨angular, hang, hrewrite⟩ := except_bind_ok hrewrite
  cases hrewrite
  refine ⟨⟨?_, ?_, fun ttl httl => nomatch httl⟩, _, rfl⟩
  · intro speed hspeed
    rw [List.mem_singleton.mp hspeed, ← hterms.maxLinearMmS]
    exact clampI16_forward hlin
  · intro speed hspeed
    rw [List.mem_singleton.mp hspeed, ← hterms.maxAngularMradS]
    exact clampI16_forward hang

theorem bounded_of_idle (h : Prog.Stays
    (Keeps fun e => e.call.request.commandsMotion = false) (env.execute request)) :
    MotionBounded env p request :=
  (Obeys.refl p).idle (h p).sent

theorem rewrite_of_plain (hvel : ∀ linear angular ttlMs, request ≠ .cmdVel linear angular ttlMs)
    (hbump : ∀ direction backoff turn, request ≠ .bumpEscape direction backoff turn) :
    Surroundings.rewrite p request = .ok request := by
  cases request with
  | cmdVel linear angular ttlMs => exact absurd rfl (hvel linear angular ttlMs)
  | bumpEscape direction backoff turn => exact absurd rfl (hbump direction backoff turn)
  | _ => rfl

end Obedience

section Settings

/-- What keeps a request within the limits: the possession rewrites it, it does not move the
robot, or the code panics before it sends anything. -/
def Clamped (overflowChecks : Bool) (linearMmS angularMradS : Int16) (request : CockpitRequest) :
    Prop :=
  request.commandsMotion = false ∨
  (∃ direction backoffMmS turnAngularMradS,
    request = .bumpEscape direction backoffMmS turnAngularMradS) ∨
  ((∃ linear angular ttlMs, request = .cmdVel linear angular ttlMs) ∧
    linearMmS ≠ Int16.minValue ∧ angularMradS ≠ Int16.minValue) ∨
  overflowChecks = true ∧
    Int16.minValue ∈ linearMmS :: angularMradS :: request.speedChecks.map SpeedCheck.value

variable {env : Surroundings} {session : SessionCockpit} {leaseTtlMs : UInt32}
  {linearMmS angularMradS : Int16} {p : MotherbrainPossession} {request : CockpitRequest}

theorem bounded_of_clamped {operations : List Surroundings.Operation}
    (h : Clamped env.overflowChecks linearMmS angularMradS request)
    (hp : Configured env session leaseTtlMs linearMmS angularMradS p) :
    MotionBounded env (env.run operations p) request := by
  have hself : ∀ e : Exchange, SelfMade e.call.request → e.call.request.commandsMotion = false :=
    fun _ => CockpitRequest.commandsMotion_of_selfMade
  have hbeat : ∀ (e : Exchange) (timeoutMs : UInt32), e.call.request = .heartbeatStop timeoutMs →
      e.call.request.commandsMotion = false := by
    intro e timeoutMs he
    rw [he]
    rfl
  obtain ⟨fresh, hfresh, hlimits⟩ := hp
  obtain ⟨rfl, hchecks⟩ := withLimits_ok hlimits
  have hterms := @run_terms env { fresh with
    maxLinearMmS := min linearMmS.abs 50, maxAngularMradS := min angularMradS.abs 500 } operations
  obtain hidle | ⟨direction, backoff, turn, rfl⟩ | ⟨⟨linear, angular, ttlMs, rfl⟩, hlinear, hangular⟩ |
    ⟨hoverflow, hmin⟩ := h
  · apply bounded_of_idle
    apply execute_keeps request hself hbeat
    intro q contract request' e hrewrite _ he
    rw [rewrite_of_plain (fun l a t hr => by rw [hr] at hidle; cases hidle)
      (fun d b t hr => by rw [hr] at hidle; cases hidle)] at hrewrite
    cases hrewrite
    rw [he]
    exact hidle
  · exact bumpEscape_bounded
  · apply cmdVel_bounded
    · rw [hterms.maxLinearMmS]
      exact limit_nonneg hlinear (by decide)
    · rw [hterms.maxAngularMradS]
      exact limit_nonneg hangular (by decide)
  · obtain ⟨hlinear, hangular⟩ := hchecks hoverflow
    by_cases hvel : ∃ linear angular ttlMs, request = .cmdVel linear angular ttlMs
    · obtain ⟨linear, angular, ttlMs, rfl⟩ := hvel
      apply cmdVel_bounded
      · rw [hterms.maxLinearMmS]
        exact limit_nonneg hlinear (by decide)
      · rw [hterms.maxAngularMradS]
        exact limit_nonneg hangular (by decide)
    · by_cases hbump : ∃ direction backoff turn, request = .bumpEscape direction backoff turn
      · obtain ⟨direction, backoff, turn, rfl⟩ := hbump
        exact bumpEscape_bounded
      · -- The contract check panics on the speed, so the request itself is never sent.
        apply bounded_of_idle
        apply execute_keeps request hself hbeat
        intro q contract request' e hrewrite hadmits _
        rw [rewrite_of_plain (fun l a t hr => hvel ⟨l, a, t, hr⟩)
          (fun d b t hr => hbump ⟨d, b, t, hr⟩)] at hrewrite
        cases hrewrite
        rw [hoverflow] at hadmits
        cases List.mem_cons.mp hmin with
        | inl h => exact absurd h.symm hlinear
        | inr h =>
          cases List.mem_cons.mp h with
          | inl h => exact absurd h.symm hangular
          | inr h =>
            obtain ⟨check, hcheck, hvalue⟩ := List.mem_map.mp h
            exact absurd hvalue (speedChecks_of_valid hadmits check hcheck)

end Settings

end Netherwick.Cockpit
