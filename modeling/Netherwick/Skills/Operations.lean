import Netherwick.Cockpit.Wire

/-! # Bodily operations of a skill

A skill asks for operations. Most of them need an organ of the body for themselves, and some are
refused by the context in which they are asked for. -/

namespace Netherwick.Skills

inductive BodyResource
  | locomotion | gaze | manipulator | voice | bodyMode
  deriving DecidableEq, Repr

namespace BodyResource

def all : List BodyResource := [locomotion, gaze, manipulator, voice, bodyMode]

theorem mem_all (resource : BodyResource) : resource ∈ all := by
  cases resource <;> decide

def debug : BodyResource → String
  | locomotion => "Locomotion"
  | gaze => "Gaze"
  | manipulator => "Manipulator"
  | voice => "Voice"
  | bodyMode => "BodyMode"

end BodyResource

inductive HazardKind
  | bumperFront | cliff
  deriving DecidableEq, Repr

def HazardKind.debug : HazardKind → String
  | bumperFront => "BumperFront"
  | cliff => "Cliff"

/-- The operations, with what the runtime itself reads of their arguments. -/
inductive HostOperation
  | stop | faceBearing | turnBy | drive | driveDistance | approach | followBearing | holdHeading
  | followWall | scan | lookAt | observe | searchForDockSignal | alignWithDock | verifyCharging
  | undock
  | retreat (hazard : HazardKind)
  | completeHazardRecovery (hazard : HazardKind)
  | releasePersistentBumper | grasp | release | bringToMouth | chew | swallow | say | playFeedback
  | waitUntil (timeoutMs : Nat)
  deriving DecidableEq, Repr

namespace HostOperation

def resource : HostOperation → Option BodyResource
  | stop | faceBearing | turnBy | drive | driveDistance | approach | followBearing | holdHeading
  | followWall | alignWithDock | retreat _ | completeHazardRecovery _ | releasePersistentBumper
  | searchForDockSignal => some .locomotion
  | scan | lookAt => some .gaze
  | grasp | release | bringToMouth | chew | swallow => some .manipulator
  | say | playFeedback => some .voice
  | undock => some .bodyMode
  | observe | verifyCharging | waitUntil _ => none

def name : HostOperation → String
  | stop => "stop"
  | faceBearing => "face_bearing"
  | turnBy => "turn_by"
  | drive => "drive"
  | driveDistance => "drive_distance"
  | approach => "approach"
  | followBearing => "follow_bearing"
  | holdHeading => "hold_heading"
  | followWall => "follow_wall"
  | scan => "scan"
  | lookAt => "look_at"
  | observe => "observe"
  | searchForDockSignal => "search_for_dock_signal"
  | alignWithDock => "align_with_dock"
  | verifyCharging => "verify_charging"
  | undock => "undock"
  | retreat _ => "retreat"
  | completeHazardRecovery _ => "complete_hazard_recovery"
  | releasePersistentBumper => "release_persistent_bumper"
  | grasp => "grasp"
  | release => "release"
  | bringToMouth => "bring_to_mouth"
  | chew => "chew"
  | swallow => "swallow"
  | say => "say"
  | playFeedback => "play_feedback"
  | waitUntil _ => "wait_until"

def defaultTimeoutMs : HostOperation → Nat
  | stop | observe | playFeedback => 1000
  | retreat _ | releasePersistentBumper => 15000
  | waitUntil timeoutMs => timeoutMs
  | _ => 30000

end HostOperation

inductive SkillOutcome
  | completed | failed | timedOut | cancelled | safetyPreempted | authorityLost | transportLost
  | capabilityUnavailable | resourcePreempted | postconditionFailed | scriptError | budgetExceeded
  | targetStale | unavailable
  deriving DecidableEq, Repr

structure SkillFailure where
  outcome : SkillOutcome
  kind : String
  message : String
  operation : Option String := none
  resource : Option BodyResource := none
  deriving DecidableEq, Repr

def SkillFailure.forOperation (failure : SkillFailure) (operation : HostOperation) :
    SkillFailure :=
  { failure with operation := some operation.name, resource := operation.resource }

/-- What the runtime reads of the current `Now`. -/
structure Now where
  tMs : Nat
  bumpLeft : Bool
  bumpRight : Bool
  cliffLeft : Bool
  cliffFrontLeft : Bool
  cliffFrontRight : Bool
  cliffRight : Bool
  wheelDrop : Bool
  charging : Bool
  deriving DecidableEq, Repr

namespace Now

def contact (now : Now) : Bool := now.bumpLeft || now.bumpRight

def cliff (now : Now) : Bool :=
  now.cliffLeft || now.cliffFrontLeft || now.cliffFrontRight || now.cliffRight

end Now

def validateHazardAcknowledged (now : Now) (hazard : HazardKind) : Except SkillFailure Unit :=
  let active := match hazard with
    | .bumperFront => now.contact
    | .cliff => now.cliff
  if active then .ok ()
  else .error {
    outcome := .failed
    kind := "hazard_not_acknowledged"
    message := hazard.debug ++ " is not active in the current Now" }

/-- The operations that a careful scope of the hazard lets through. -/
def HazardKind.permits (hazard : HazardKind) : HostOperation → Bool
  | .retreat other => other = hazard
  | .stop | .observe | .verifyCharging | .waitUntil _ => true
  | _ => false

def carefulEnvelopeViolation : SkillFailure where
  outcome := .failed
  kind := "careful_envelope_violation"
  message := "carefully permits only the acknowledged hazard's bounded retreat"

/-- Only a careful scope of the asking child itself is looked at. -/
def validateEnvelope (childHazard : Option HazardKind) (operation : HostOperation) :
    Except SkillFailure Unit :=
  match childHazard with
  | some hazard => if hazard.permits operation then .ok () else .error carefulEnvelopeViolation
  | none => .ok ()

/-- The checks that only a retreat has to pass. -/
def validateRetreat (snapshot : Option Now) (operation : HostOperation) :
    Except SkillFailure Unit :=
  match operation, snapshot with
  | .retreat _, none => .error {
      outcome := .failed
      kind := "now_unavailable"
      message := "cannot validate a careful retreat without Now" }
  | .retreat hazard, some now =>
    let incompatible := match hazard with
      | .bumperFront => now.cliff
      | .cliff => now.contact
    if now.wheelDrop || now.charging || incompatible then .error {
      outcome := .safetyPreempted
      kind := "absolute_hazard"
      message := "an absolute or incompatible hazard forbids careful retreat" }
    else validateHazardAcknowledged now hazard
  | _, _ => .ok ()

/-- `validate_operation_context`, for the careful scope that is entered for the asking child. -/
def validateOperationContext (childHazard : Option HazardKind) (snapshot : Option Now)
    (operation : HostOperation) : Except SkillFailure Unit := do
  validateEnvelope childHazard operation
  validateRetreat snapshot operation

section Context

variable {childHazard : Option HazardKind} {snapshot : Option Now} {operation : HostOperation}

theorem validateRetreat_kind {failure : SkillFailure}
    (h : validateRetreat snapshot operation = .error failure) :
    failure.kind ≠ carefulEnvelopeViolation.kind := by
  unfold validateRetreat validateHazardAcknowledged at h
  simp only at h
  repeat' split at h
  all_goals cases h
  all_goals decide

theorem validateOperationContext_ok {result : Except SkillFailure Unit}
    (h : validateEnvelope childHazard operation = .ok ())
    (hretreat : validateRetreat snapshot operation = result) :
    validateOperationContext childHazard snapshot operation = result := by
  unfold validateOperationContext
  rw [h]
  exact hretreat

theorem validateOperationContext_refused {failure : SkillFailure}
    (h : validateEnvelope childHazard operation = .error failure) :
    validateOperationContext childHazard snapshot operation = .error failure := by
  unfold validateOperationContext
  rw [h]
  rfl

/-- An operation is refused for the envelope when the asking child itself is in a careful scope
that excludes it. -/
theorem validateOperationContext_violation :
    (∃ failure, validateOperationContext childHazard snapshot operation = .error failure ∧
      failure.kind = carefulEnvelopeViolation.kind) ↔
      ∃ hazard, childHazard = some hazard ∧ hazard.permits operation = false := by
  cases henvelope : validateEnvelope childHazard operation with
  | ok _ =>
    rw [validateOperationContext_ok henvelope rfl]
    constructor
    · rintro ⟨failure, hretreat, hkind⟩
      exact absurd hkind (validateRetreat_kind hretreat)
    · rintro ⟨hazard, rfl, hrefuses⟩
      simp [validateEnvelope, hrefuses] at henvelope
  | error failure =>
    rw [validateOperationContext_refused henvelope]
    unfold validateEnvelope at henvelope
    cases childHazard with
    | none => cases henvelope
    | some hazard =>
      cases hpermits : hazard.permits operation with
      | true => simp [hpermits] at henvelope
      | false =>
        simp only [hpermits] at henvelope
        cases henvelope
        exact ⟨fun _ => ⟨hazard, rfl, hpermits⟩, fun _ => ⟨_, rfl, rfl⟩⟩

theorem validateOperationContext_excluded {hazard : HazardKind}
    (h : hazard.permits operation = false) :
    validateOperationContext (some hazard) snapshot operation = .error carefulEnvelopeViolation := by
  apply validateOperationContext_refused
  simp [validateEnvelope, h]

end Context

end Netherwick.Skills
