import Netherwick.Cockpit.Wire

/-! # The capability contract

What a client checks of a request before it sends it: the verb is one the brainstem advertises,
and its speeds and its duration are within the advertised limits. -/

namespace Netherwick.Cockpit

/-- How a call can end early. -/
inductive Abort
  | failed (error : CockpitError)
  | panicked
  deriving DecidableEq, Repr

/-- `i16::abs`. A build without overflow checks leaves the least value as it is. -/
def absI16 (overflowChecks : Bool) (value : Int16) : Except Abort Int16 :=
  if overflowChecks && value == Int16.minValue then .error .panicked else .ok value.abs

def CockpitCapabilities.supports (capabilities : CockpitCapabilities) (verb : String) : Bool :=
  capabilities.verbs.any (· == verb)

namespace CockpitContract

variable (contract : CockpitContract) (overflowChecks : Bool)

def supports (verb : String) : Bool := contract.capabilities.supports verb

/-- `check_linear` and `check_angular`. -/
def checkSpeed (unit limitName : String) (limit value : Int16) (name : String) :
    Except Abort Unit := do
  let magnitude ← absI16 overflowChecks value
  if magnitude > limit then
    throw (.failed (.policy
      s!"{name} {value.toInt} {unit} exceeds {limitName} {limit.toInt}"))

def validateMotionLimits (request : CockpitRequest) : Except Abort Unit := do
  let maxLinear ← absI16 overflowChecks contract.capabilities.limits.maxLinearMmS
  let maxAngular ← absI16 overflowChecks contract.capabilities.limits.maxAngularMradS
  let checkLinear := checkSpeed overflowChecks "mm/s" "max_linear_mm_s" maxLinear
  let checkAngular := checkSpeed overflowChecks "mrad/s" "max_angular_mrad_s" maxAngular
  match request with
  | .cmdVel linearMmS angularMradS _ => do
      checkLinear linearMmS "linear_mm_s"
      checkAngular angularMradS "angular_mrad_s"
  | .driveDirect leftMmS rightMmS _ => do
      checkLinear leftMmS "left_mm_s"
      checkLinear rightMmS "right_mm_s"
  | .driveArc velocityMmS _ _ | .arcFor velocityMmS _ _ | .creepUntil velocityMmS _ _ =>
    checkLinear velocityMmS "velocity_mm_s"
  | .holdHeading _ velocityMmS maxAngularMradS _ | .wallFollow _ velocityMmS maxAngularMradS _ =>
    do
    checkLinear velocityMmS "velocity_mm_s"
    checkAngular maxAngularMradS "max_angular_mrad_s"
  | .driveFor _ velocityMmS _ => checkLinear velocityMmS "velocity_mm_s"
  | .trackBearing _ _ maxLinearMmS maxAngularMradS _ _
  | .dockAlign _ _ maxLinearMmS maxAngularMradS _ _ => do
      checkLinear maxLinearMmS "max_linear_mm_s"
      checkAngular maxAngularMradS "max_angular_mrad_s"
  | .faceBearing _ maxAngularMradS _ _ => checkAngular maxAngularMradS "max_angular_mrad_s"
  | .turnBy _ angularMradS _ | .turnToHeading _ angularMradS _ _ | .scanArc _ angularMradS _
  | .wiggleAlign _ angularMradS _ | .calibrateTurn angularMradS _
  | .orientationProbe angularMradS _ => checkAngular angularMradS "angular_mrad_s"
  | .bumpEscape _ backoffMmS turnAngularMradS | .unstick _ backoffMmS turnAngularMradS => do
      checkLinear backoffMmS "backoff_mm_s"
      checkAngular turnAngularMradS "turn_angular_mrad_s"
  | _ => pure ()

def validateTtlLimits (request : CockpitRequest) : Except Abort Unit :=
  match request.ttlOrTimeoutMs with
  | none => pure ()
  | some ttlMs =>
    let limits := contract.capabilities.limits
    if ttlMs < limits.minTtlMs ∨ ttlMs > limits.maxTtlMs then
      throw (.failed (.policy
        s!"ttl/timeout {ttlMs} ms outside {limits.minTtlMs}..={limits.maxTtlMs} ms"))
    else pure ()

def validateVerb (request : CockpitRequest) : Except Abort Unit :=
  match request.requiredCapability with
  | some verb =>
    if contract.supports verb then pure ()
    else throw (.failed (.policy s!"unsupported cockpit verb {verb}"))
  | none => pure ()

def validateRequest (request : CockpitRequest) : Except Abort Unit := do
  contract.validateVerb request
  contract.validateMotionLimits overflowChecks request
  contract.validateTtlLimits request

end CockpitContract

section Checks

/-- A speed that the contract takes the magnitude of, and the name it reports it under. -/
inductive SpeedCheck
  | linear (value : Int16) (name : String)
  | angular (value : Int16) (name : String)

def SpeedCheck.value : SpeedCheck → Int16
  | linear value _ | angular value _ => value

/-- The checks of `validate_motion_limits` in their order. -/
def CockpitRequest.speedChecks : CockpitRequest → List SpeedCheck
  | .cmdVel linearMmS angularMradS _ =>
    [.linear linearMmS "linear_mm_s", .angular angularMradS "angular_mrad_s"]
  | .driveDirect leftMmS rightMmS _ =>
    [.linear leftMmS "left_mm_s", .linear rightMmS "right_mm_s"]
  | .driveArc velocityMmS _ _ | .arcFor velocityMmS _ _ | .creepUntil velocityMmS _ _
  | .driveFor _ velocityMmS _ => [.linear velocityMmS "velocity_mm_s"]
  | .holdHeading _ velocityMmS maxAngularMradS _ | .wallFollow _ velocityMmS maxAngularMradS _ =>
    [.linear velocityMmS "velocity_mm_s", .angular maxAngularMradS "max_angular_mrad_s"]
  | .trackBearing _ _ maxLinearMmS maxAngularMradS _ _
  | .dockAlign _ _ maxLinearMmS maxAngularMradS _ _ =>
    [.linear maxLinearMmS "max_linear_mm_s", .angular maxAngularMradS "max_angular_mrad_s"]
  | .faceBearing _ maxAngularMradS _ _ => [.angular maxAngularMradS "max_angular_mrad_s"]
  | .turnBy _ angularMradS _ | .turnToHeading _ angularMradS _ _ | .scanArc _ angularMradS _
  | .wiggleAlign _ angularMradS _ | .calibrateTurn angularMradS _
  | .orientationProbe angularMradS _ => [.angular angularMradS "angular_mrad_s"]
  | .bumpEscape _ backoffMmS turnAngularMradS | .unstick _ backoffMmS turnAngularMradS =>
    [.linear backoffMmS "backoff_mm_s", .angular turnAngularMradS "turn_angular_mrad_s"]
  | _ => []

def SpeedCheck.run (overflowChecks : Bool) (maxLinear maxAngular : Int16) :
    SpeedCheck → Except Abort Unit
  | linear value name =>
    CockpitContract.checkSpeed overflowChecks "mm/s" "max_linear_mm_s" maxLinear value name
  | angular value name =>
    CockpitContract.checkSpeed overflowChecks "mrad/s" "max_angular_mrad_s" maxAngular value name

def runChecks (overflowChecks : Bool) (maxLinear maxAngular : Int16) :
    List SpeedCheck → Except Abort Unit
  | [] => .ok ()
  | [check] => check.run overflowChecks maxLinear maxAngular
  | check :: checks => do
      check.run overflowChecks maxLinear maxAngular
      runChecks overflowChecks maxLinear maxAngular checks

theorem validateMotionLimits_eq (contract : CockpitContract) (overflowChecks : Bool)
    (request : CockpitRequest) :
    contract.validateMotionLimits overflowChecks request = (do
      let maxLinear ← absI16 overflowChecks contract.capabilities.limits.maxLinearMmS
      let maxAngular ← absI16 overflowChecks contract.capabilities.limits.maxAngularMradS
      runChecks overflowChecks maxLinear maxAngular request.speedChecks) := by
  cases request <;> rfl

theorem absI16_ok {overflowChecks : Bool} {value magnitude : Int16}
    (h : absI16 overflowChecks value = .ok magnitude) :
    magnitude = value.abs ∧ (overflowChecks = true → value ≠ Int16.minValue) := by
  unfold absI16 at h
  split at h
  · cases h
  · rename_i hmin
    cases h
    refine ⟨rfl, ?_⟩
    intro hchecks hvalue
    simp [hchecks, hvalue] at hmin

theorem absI16_eq {overflowChecks : Bool} {value : Int16}
    (h : overflowChecks = true → value ≠ Int16.minValue) :
    absI16 overflowChecks value = .ok value.abs := by
  unfold absI16
  cases overflowChecks with
  | false => rfl
  | true => simp [h rfl]

theorem except_bind_ok {α β : Type} {x : Except Abort α} {k : α → Except Abort β} {b : β}
    (h : (x >>= k) = .ok b) : ∃ a, x = .ok a ∧ k a = .ok b := by
  cases x with
  | error abort => cases h
  | ok a => exact ⟨a, rfl, h⟩

theorem SpeedCheck.run_ok {overflowChecks : Bool} {maxLinear maxAngular : Int16}
    {check : SpeedCheck} (h : check.run overflowChecks maxLinear maxAngular = .ok ()) :
    overflowChecks = true → check.value ≠ Int16.minValue := by
  cases check with
  | linear value name =>
    obtain ⟨_, hmagnitude, _⟩ := except_bind_ok h
    exact (absI16_ok hmagnitude).2
  | angular value name =>
    obtain ⟨_, hmagnitude, _⟩ := except_bind_ok h
    exact (absI16_ok hmagnitude).2

theorem runChecks_ok {overflowChecks : Bool} {maxLinear maxAngular : Int16}
    {checks : List SpeedCheck} (h : runChecks overflowChecks maxLinear maxAngular checks = .ok ()) :
    ∀ check ∈ checks, overflowChecks = true → check.value ≠ Int16.minValue := by
  induction checks with
  | nil => simp
  | cons check checks ih =>
    cases checks with
    | nil =>
      intro other hother
      rw [List.mem_singleton.mp hother]
      exact SpeedCheck.run_ok h
    | cons next rest =>
      obtain ⟨_, hcheck, hrest⟩ := except_bind_ok h
      intro other hother
      cases List.mem_cons.mp hother with
      | inl heq => rw [heq]; exact SpeedCheck.run_ok hcheck
      | inr hmem => exact ih hrest other hmem

/-- A request that a build with overflow checks lets through has no speed of least value among
those the contract looks at. -/
theorem speedChecks_of_valid {contract : CockpitContract} {request : CockpitRequest}
    (h : contract.validateRequest true request = .ok ()) :
    ∀ check ∈ request.speedChecks, check.value ≠ Int16.minValue := by
  obtain ⟨_, _, h⟩ := except_bind_ok h
  obtain ⟨_, hlimits, _⟩ := except_bind_ok h
  rw [validateMotionLimits_eq] at hlimits
  obtain ⟨_, _, hlimits⟩ := except_bind_ok hlimits
  obtain ⟨_, _, hlimits⟩ := except_bind_ok hlimits
  exact fun check hcheck => runChecks_ok hlimits check hcheck rfl

section Permissive

/-- The contract of a brainstem that knows the verbs and sets no limit. -/
def permissive (verbs : List String) : CockpitContract where
  capabilities :=
    { bodyKind := "create", drive := "differential", verbs := verbs, sensors := [], outputs := []
      safety := [], events := [], limits := { minTtlMs := 0 } }

theorem checkSpeed_permissive {overflowChecks : Bool} {unit limitName name : String}
    {value : Int16} (h : overflowChecks = true → value ≠ Int16.minValue) :
    CockpitContract.checkSpeed overflowChecks unit limitName Int16.maxValue value name = .ok () := by
  unfold CockpitContract.checkSpeed
  rw [absI16_eq h]
  have hle : ¬value.abs > Int16.maxValue := by
    intro hlt
    have hbound := value.abs.toInt_le
    rw [gt_iff_lt, Int16.lt_iff_toInt_lt] at hlt
    omega
  exact if_neg hle

theorem runChecks_permissive {overflowChecks : Bool} {checks : List SpeedCheck}
    (h : overflowChecks = true → ∀ check ∈ checks, check.value ≠ Int16.minValue) :
    runChecks overflowChecks Int16.maxValue Int16.maxValue checks = .ok () := by
  have hrun : ∀ check ∈ checks,
      check.run overflowChecks Int16.maxValue Int16.maxValue = .ok () := by
    intro check hcheck
    cases check with
    | linear value name => exact checkSpeed_permissive fun hc => h hc _ hcheck
    | angular value name => exact checkSpeed_permissive fun hc => h hc _ hcheck
  induction checks with
  | nil => rfl
  | cons check checks ih =>
    cases checks with
    | nil => exact hrun check List.mem_cons_self
    | cons next rest =>
      change (check.run _ _ _ >>= fun _ => runChecks _ _ _ (next :: rest)) = _
      rw [hrun check List.mem_cons_self]
      apply ih
      · exact fun hc other hother => h hc other (List.mem_cons_of_mem _ hother)
      · exact fun other hother => hrun other (List.mem_cons_of_mem _ hother)

theorem validateRequest_permissive {overflowChecks : Bool} {verbs : List String}
    {request : CockpitRequest} (hverb : request.verb ∈ verbs)
    (h : overflowChecks = true → ∀ check ∈ request.speedChecks, check.value ≠ Int16.minValue) :
    (permissive verbs).validateRequest overflowChecks request = .ok () := by
  have hknown : (permissive verbs).validateVerb request = .ok () := by
    have hsupports : ∀ verb ∈ verbs, (permissive verbs).supports verb = true := by
      intro verb hmem
      exact List.any_eq_true.mpr ⟨verb, hmem, by simp⟩
    unfold CockpitContract.validateVerb
    split
    · rename_i verb hrequired
      have hsame : verb = request.verb := by
        cases request <;> cases hrequired <;> rfl
      rw [hsame, hsupports _ hverb]
      rfl
    · rfl
  have hlimits : (permissive verbs).validateMotionLimits overflowChecks request = .ok () := by
    have hmax : absI16 overflowChecks Int16.maxValue = .ok Int16.maxValue :=
      absI16_eq fun _ => by decide
    rw [validateMotionLimits_eq]
    change (absI16 overflowChecks Int16.maxValue >>= fun _ => _) = _
    rw [hmax]
    change (absI16 overflowChecks Int16.maxValue >>= fun _ => _) = _
    rw [hmax]
    exact runChecks_permissive h
  have httl : (permissive verbs).validateTtlLimits request = .ok () := by
    unfold CockpitContract.validateTtlLimits
    split
    · rfl
    · rename_i ttlMs _
      apply if_neg
      change ¬(ttlMs < 0 ∨ ttlMs > 0xFFFFFFFF)
      intro hlimit
      cases hlimit with
      | inl hlow => exact absurd hlow (by simp)
      | inr hhigh =>
        have hbound := ttlMs.toNat_lt
        rw [gt_iff_lt, UInt32.lt_iff_toNat_lt] at hhigh
        change 4294967295 < _ at hhigh
        omega
  unfold CockpitContract.validateRequest
  rw [hknown, hlimits, httl]
  rfl

end Permissive

end Checks

end Netherwick.Cockpit
