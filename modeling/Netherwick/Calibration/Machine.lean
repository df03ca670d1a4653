import Mathlib.Data.Finset.Insert
import Mathlib.Data.Rat.Floor
import Netherwick.Actions.Primitive

/-! # Calibration of a transform

The machine fuses what different estimators observe of one rigid transform and decides whether the
result may be trusted. A sudden change of the transform starts a new epoch. -/

namespace Netherwick.Calibration

/-- `[x, y, z, roll, pitch, yaw]`. -/
abbrev Dofs (α : Type) := Fin 6 → α

def dofs : List (Fin 6) := List.finRange 6

theorem mem_dofs (index : Fin 6) : index ∈ dofs := List.mem_finRange index

/-- `f32::EPSILON`. -/
def epsilon : ℚ := 1 / 8388608

/-- The 32-bit `PI`. -/
def pi : ℚ := 13176795 / 4194304

def tau : ℚ := 2 * pi

def normalizeAngle (angle : ℚ) : ℚ := angle + pi - tau * ⌊(angle + pi) / tau⌋ - pi

/-- From the second angle to the first. -/
def angleDelta (goal start : ℚ) : ℚ := normalizeAngle (goal - start)

inductive CalibrationTrustState where
  | configured | estimating | trusted | degraded | invalidated
  deriving DecidableEq, Repr

inductive CalibrationEvidenceSource where
  | floorPlane | gravity | wheelOdometry | persistentSurface | mapConsistency | loopClosure | lidar
  deriving DecidableEq, Repr

namespace CalibrationEvidenceSource

def all : List CalibrationEvidenceSource :=
  [floorPlane, gravity, wheelOdometry, persistentSurface, mapConsistency, loopClosure, lidar]

theorem mem_all (source : CalibrationEvidenceSource) : source ∈ all := by
  cases source <;> decide

end CalibrationEvidenceSource

structure CalibrationResiduals where
  floorM : Option ℚ := none
  wallM : Option ℚ := none
  gravityRad : Option ℚ := none
  reprojectionPx : Option ℚ := none
  mapConsistencyM : Option ℚ := none
  loopClosureM : Option ℚ := none

def exceeds (residual : Option ℚ) (limit : ℚ) : Bool := residual.any fun value => limit < |value|

namespace CalibrationResiduals

def merge (residuals observation : CalibrationResiduals) : CalibrationResiduals where
  floorM := observation.floorM.or residuals.floorM
  wallM := observation.wallM.or residuals.wallM
  gravityRad := observation.gravityRad.or residuals.gravityRad
  reprojectionPx := observation.reprojectionPx.or residuals.reprojectionPx
  mapConsistencyM := observation.mapConsistencyM.or residuals.mapConsistencyM
  loopClosureM := observation.loopClosureM.or residuals.loopClosureM

def degraded (residuals : CalibrationResiduals) : Bool :=
  exceeds residuals.floorM 0.03 || exceeds residuals.wallM 0.05 ||
    exceeds residuals.reprojectionPx 3 || exceeds residuals.mapConsistencyM 0.08

end CalibrationResiduals

structure CalibrationEpoch where
  id : Nat
  startedAtMs : Nat
  invalidatedAtMs : Option Nat
  invalidationReason : Option String

structure LiveCalibrationEstimate where
  transform : Dofs ℚ
  covariance : Dofs ℚ
  confidence : ℚ
  trustState : CalibrationTrustState
  observableDofs : Dofs Bool
  /-- The map of the sources that were counted; one that was not has no entry there and counts as
  zero here. -/
  evidenceCounts : CalibrationEvidenceSource → Nat
  dofEvidenceCounts : Dofs Nat
  residuals : CalibrationResiduals
  evidenceStartedAtMs : Option Nat
  updatedAtMs : Nat
  epoch : CalibrationEpoch
  rejectionReasons : List String

def LiveCalibrationEstimate.countedSources (estimate : LiveCalibrationEstimate) :
    List CalibrationEvidenceSource :=
  CalibrationEvidenceSource.all.filter fun source => 0 < estimate.evidenceCounts source

structure TransformEstimateEvidence where
  source : CalibrationEvidenceSource
  capturedAtMs : Nat
  transform : Dofs ℚ
  observableDofs : Dofs Bool
  covariance : Dofs ℚ
  residuals : CalibrationResiduals := {}

structure CalibrationStateConfig where
  minimumEvidencePerDof : Nat := 3
  trustedCovariance : Dofs ℚ := fun index => if index.val < 3 then 0.0025 else 0.0009
  resetCovariance : Dofs ℚ := fun index => if index.val < 3 then 0.25 else 0.09
  translationShiftM : ℚ := 0.08
  rotationShiftRad : ℚ := 7 * pi / 180
  floorShiftM : ℚ := 0.05
  gravityShiftRad : ℚ := 5 * pi / 180
  reprojectionShiftPx : ℚ := 6
  mapShiftM : ℚ := 0.15
  maximumEvidenceAgeMs : Nat := 2000
  minimumIndependentSources : Nat := 2
  minimumTrustSpanMs : Nat := 1000

structure CalibrationStateMachine where
  configuredGuess : Dofs ℚ
  config : CalibrationStateConfig
  estimate : LiveCalibrationEstimate
  dofCovarianceSources : Dofs (Finset CalibrationEvidenceSource)
  /-- The evidence that was accepted since the epoch began, the last first; the program itself keeps
  what it counts of it only. -/
  accepted : List TransformEstimateEvidence

namespace CalibrationStateMachine

def new (configuredGuess : Dofs ℚ) (startedAtMs : Nat) (config : CalibrationStateConfig) :
    CalibrationStateMachine where
  configuredGuess := configuredGuess
  config := config
  estimate := {
    transform := configuredGuess
    covariance := config.resetCovariance
    confidence := 0
    trustState := .configured
    observableDofs := fun _ => false
    evidenceCounts := fun _ => 0
    dofEvidenceCounts := fun _ => 0
    residuals := {}
    evidenceStartedAtMs := none
    updatedAtMs := startedAtMs
    epoch := ⟨0, startedAtMs, none, none⟩
    rejectionReasons := ["configured transform is only an initial guess"] }
  dofCovarianceSources := fun _ => ∅
  accepted := []

variable (machine : CalibrationStateMachine) (evidence : TransformEstimateEvidence) (nowMs : Nat)

def invalidDof (index : Fin 6) : Bool :=
  evidence.observableDofs index && evidence.covariance index ≤ 0

/-- The reason to reject the evidence, if any. -/
def validateEvidence : Option String :=
  if machine.config.maximumEvidenceAgeMs < nowMs - evidence.capturedAtMs then
    some "calibration evidence is stale"
  else if evidence.capturedAtMs < machine.estimate.updatedAtMs then
    some "calibration evidence predates the active estimate"
  else if !dofs.any evidence.observableDofs then
    some "calibration evidence observes no transform degree of freedom"
  else (dofs.find? (invalidDof evidence)).map fun index =>
    "calibration evidence has invalid dof " ++ toString index.val

def shift (index : Fin 6) : ℚ :=
  if 3 ≤ index.val then |angleDelta (evidence.transform index) (machine.estimate.transform index)|
  else |evidence.transform index - machine.estimate.transform index|

def shiftLimit (index : Fin 6) : ℚ :=
  if 3 ≤ index.val then machine.config.rotationShiftRad else machine.config.translationShiftM

def shiftReason : Option String :=
  match dofs.find? fun index =>
      evidence.observableDofs index && machine.shiftLimit index < machine.shift evidence index with
  | some index => some ("sudden transform change on dof " ++ toString index.val ++ ": " ++
      Actions.fixed4 (machine.shift evidence index))
  | none =>
    if exceeds evidence.residuals.floorM machine.config.floorShiftM then
      some "sudden floor-plane residual change"
    else if exceeds evidence.residuals.gravityRad machine.config.gravityShiftRad then
      some "sudden gravity residual change"
    else if exceeds evidence.residuals.reprojectionPx machine.config.reprojectionShiftPx then
      some "sudden reprojection residual change"
    else if exceeds evidence.residuals.mapConsistencyM machine.config.mapShiftM then
      some "sudden map-consistency residual change"
    else none

def shiftDetectionReady : Bool :=
  machine.estimate.trustState = .trusted || machine.estimate.trustState = .degraded ||
    dofs.any fun index => evidence.observableDofs index &&
      machine.config.minimumEvidencePerDof ≤ machine.estimate.dofEvidenceCounts index

def fusedValue (index : Fin 6) : ℚ :=
  let current := machine.estimate.transform index
  let priorWeight := 1 / max (machine.estimate.covariance index) epsilon
  let observationWeight := 1 / max (evidence.covariance index) epsilon
  let observation := if 3 ≤ index.val then current + angleDelta (evidence.transform index) current
    else evidence.transform index
  let fused := (current * priorWeight + observation * observationWeight) /
    (priorWeight + observationWeight)
  if 3 ≤ index.val then normalizeAngle fused else fused

/-- Only a source that is new to the degree of freedom compounds. -/
def fusedCovariance (index : Fin 6) : ℚ :=
  let priorVariance := max (machine.estimate.covariance index) epsilon
  let observationVariance := max (evidence.covariance index) epsilon
  if evidence.source ∈ machine.dofCovarianceSources index then
    min priorVariance observationVariance
  else 1 / (1 / priorVariance + 1 / observationVariance)

def fuse : CalibrationStateMachine :=
  { machine with
    estimate := { machine.estimate with
      transform := fun index =>
        if evidence.observableDofs index then machine.fusedValue evidence index
        else machine.estimate.transform index
      covariance := fun index =>
        if evidence.observableDofs index then machine.fusedCovariance evidence index
        else machine.estimate.covariance index
      dofEvidenceCounts := fun index =>
        if evidence.observableDofs index then
          min 0xFFFFFFFF (machine.estimate.dofEvidenceCounts index + 1)
        else machine.estimate.dofEvidenceCounts index
      observableDofs := fun index =>
        evidence.observableDofs index || machine.estimate.observableDofs index }
    dofCovarianceSources := fun index =>
      if evidence.observableDofs index then
        insert evidence.source (machine.dofCovarianceSources index)
      else machine.dofCovarianceSources index }

def allObservable : Bool := dofs.all fun index =>
  machine.config.minimumEvidencePerDof ≤ machine.estimate.dofEvidenceCounts index

def covarianceReady : Bool := dofs.all fun index =>
  machine.estimate.covariance index ≤ machine.config.trustedCovariance index

def sourceDiversityReady : Bool :=
  machine.config.minimumIndependentSources ≤ machine.estimate.countedSources.length

def temporalSeparationReady : Bool := machine.estimate.evidenceStartedAtMs.any fun first =>
  machine.config.minimumTrustSpanMs ≤ machine.estimate.updatedAtMs - first

def evidenceFresh : Bool :=
  !machine.estimate.countedSources.isEmpty &&
    nowMs - machine.estimate.updatedAtMs ≤ machine.config.maximumEvidenceAgeMs

def evidenceStale : Bool :=
  !machine.estimate.countedSources.isEmpty && !machine.evidenceFresh nowMs

def earnedTrust : CalibrationTrustState :=
  if machine.estimate.residuals.degraded || machine.evidenceStale nowMs then .degraded
  else if machine.allObservable && machine.covarianceReady && machine.sourceDiversityReady &&
      machine.temporalSeparationReady then .trusted
  else if machine.estimate.countedSources.isEmpty then .configured
  else .estimating

def clamp01 (value : ℚ) : ℚ := max 0 (min 1 value)

def earnedConfidence : ℚ :=
  let observableFraction : ℚ := (dofs.countP machine.estimate.observableDofs : ℚ) / 6
  let covarianceFraction : ℚ := (dofs.foldl (fun total index => total +
    (1 - clamp01 (machine.estimate.covariance index /
      max (machine.config.resetCovariance index) epsilon))) 0) / 6
  clamp01 (observableFraction * covarianceFraction)

def missingDofs : List (Fin 6) := dofs.filter fun index =>
  machine.estimate.dofEvidenceCounts index < machine.config.minimumEvidencePerDof

def trustReasons : List String :=
  (if machine.allObservable then [] else
    ["unobservable transform degrees of freedom: " ++
      ",".intercalate (machine.missingDofs.map fun index => toString index.val)]) ++
  (if machine.covarianceReady then [] else
    ["transform covariance remains above trust limits"]) ++
  (if machine.sourceDiversityReady then [] else
    ["only " ++ toString machine.estimate.countedSources.length ++
      " independent calibration source(s); " ++
      toString machine.config.minimumIndependentSources ++ " required"]) ++
  (if machine.temporalSeparationReady then [] else
    ["calibration evidence lacks temporal separation"]) ++
  (if machine.evidenceStale nowMs then
    ["calibration evidence has aged past the freshness limit"] else []) ++
  (if machine.estimate.residuals.degraded then
    ["geometry residuals exceed trusted limits"] else [])

def refreshTrustState : CalibrationStateMachine :=
  if machine.estimate.trustState = .invalidated then machine
  else { machine with estimate := { machine.estimate with
    confidence := machine.earnedConfidence
    trustState := machine.earnedTrust nowMs
    rejectionReasons := machine.trustReasons nowMs } }

def invalidateEpoch (reason : String) : CalibrationStateMachine :=
  { machine with
    estimate := {
      transform := fun index =>
        if evidence.observableDofs index then evidence.transform index
        else machine.configuredGuess index
      covariance := machine.config.resetCovariance
      confidence := 0
      trustState := .invalidated
      observableDofs := fun _ => false
      evidenceCounts := fun _ => 0
      dofEvidenceCounts := fun _ => 0
      residuals := evidence.residuals
      evidenceStartedAtMs := none
      updatedAtMs := nowMs
      epoch := ⟨min 0xFFFFFFFFFFFFFFFF (machine.estimate.epoch.id + 1), nowMs, some nowMs,
        some reason⟩
      rejectionReasons := [reason] }
    dofCovarianceSources := fun _ => ∅
    accepted := [] }

/-- Evidence after a reset opens the epoch. -/
def reopened : CalibrationStateMachine :=
  if machine.estimate.trustState = .invalidated then
    { machine with estimate := { machine.estimate with
      trustState := .estimating
      epoch := { machine.estimate.epoch with invalidatedAtMs := none, invalidationReason := none } } }
  else machine

/-- Evidence that is neither rejected nor a shift is fused and counted. -/
def counted : CalibrationStateMachine :=
  let fused := machine.reopened.fuse evidence
  { fused with
    estimate := { fused.estimate with
      evidenceStartedAtMs := fused.estimate.evidenceStartedAtMs.or (some evidence.capturedAtMs)
      updatedAtMs := evidence.capturedAtMs
      evidenceCounts := fun source =>
        if source = evidence.source then fused.estimate.evidenceCounts source + 1
        else fused.estimate.evidenceCounts source
      residuals := fused.estimate.residuals.merge evidence.residuals }
    accepted := evidence :: fused.accepted }

def withReason (reason : String) : CalibrationStateMachine :=
  { machine with estimate := { machine.estimate with
    rejectionReasons := reason :: machine.estimate.rejectionReasons } }

def cleared : CalibrationStateMachine :=
  { machine with estimate := { machine.estimate with rejectionReasons := [] } }

def suddenShift : Option String :=
  if machine.shiftDetectionReady evidence then machine.shiftReason evidence else none

def observe : CalibrationStateMachine :=
  match machine.cleared.validateEvidence evidence nowMs with
  | some reason => (machine.cleared.refreshTrustState nowMs).withReason reason
  | none =>
    match machine.cleared.suddenShift evidence with
    | some reason => machine.cleared.invalidateEpoch evidence nowMs reason
    | none => (machine.cleared.counted evidence).refreshTrustState nowMs

def refresh : CalibrationStateMachine := machine.refreshTrustState nowMs

def invalidate (reason : String) : CalibrationStateMachine :=
  machine.invalidateEpoch {
    source := .mapConsistency
    capturedAtMs := nowMs
    transform := machine.estimate.transform
    observableDofs := fun _ => false
    covariance := machine.config.resetCovariance } nowMs reason

inductive Call where
  | observe (evidence : TransformEstimateEvidence) (nowMs : Nat)
  | refresh (nowMs : Nat)
  | invalidate (nowMs : Nat) (reason : String)

def step (machine : CalibrationStateMachine) : Call → CalibrationStateMachine
  | .observe evidence nowMs => machine.observe evidence nowMs
  | .refresh nowMs => machine.refresh nowMs
  | .invalidate nowMs reason => machine.invalidate nowMs reason

end CalibrationStateMachine

end Netherwick.Calibration
