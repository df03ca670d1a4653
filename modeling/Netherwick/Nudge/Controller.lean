import Mathlib.Data.Rat.Floor
import Mathlib.Data.String.Basic
import Netherwick.Actions.Primitive
import Netherwick.Lib.SortedMap

/-! # The nudge controller

A robot that has idled for long enough is nudged: a small action is proposed, a turn, a wander or a
short drive in rotation. Nudges keep a cooldown, and those of the last minute are counted. -/

namespace Netherwick.Nudge

open Netherwick.Lib Netherwick.Actions
open Reign (TurnDir)

structure NudgePolicy where
  enabled : Bool := false
  idleAfterMs : Nat := 4000
  maxNudgesPerMinute : UInt32 := 6
  maxForwardIntensity : ℚ := 0.15
  maxTurnIntensity : ℚ := 0.25
  requireClearanceM : ℚ := 0.35
  preferTurnWhenClearanceLow : Bool := true
  cooldownMs : Nat := 5000

def NudgePolicy.virtualDefault : NudgePolicy :=
  { enabled := true, idleAfterMs := 1200, cooldownMs := 2500 }

inductive Value where
  | null
  | bool (value : Bool)
  | number (value : ℚ)
  | string (value : String)
  | array (items : List Value)
  | object (fields : List (String × Value))

namespace Value

def asBool : Value → Option Bool
  | .bool value => some value
  | _ => none

def asF64 : Value → Option ℚ
  | .number value => some value
  | _ => none

def asArray : Value → Option (List Value)
  | .array items => some items
  | _ => none

def get : Value → String → Option Value
  | .object fields, key => fields.lookup key
  | _, _ => none

end Value

structure Pose2 where
  xM : ℚ
  yM : ℚ
  headingRad : ℚ
  deriving DecidableEq

structure Now where
  tMs : Nat
  wheelDrop : Bool := false
  batteryLevel : ℚ := 1
  forwardMS : ℚ := 0
  odometry : Pose2 := ⟨0, 0, 0⟩
  beams : List ℚ := []
  nearestM : Option ℚ := none
  extensions : SortedMap String Value := .empty

namespace Now

variable (now : Now)

def forwardClear (clearanceM : ℚ) : Bool :=
  match now.nearestM with
  | some nearest => clearanceM ≤ nearest
  | none => true

def clearerTurnDirection : TurnDir :=
  if clearance (leftBeams now.beams) < clearance (rightBeams now.beams) then .right else .left

def simStuckActive : Bool :=
  0 < ((((now.extensions.get? "sim.stuck").bind (·.get "values")).bind Value.asArray).bind
    fun values => values.head?.bind Value.asF64).getD 0

def safetyVetoed : Bool := ((now.extensions.get? "safety.vetoed").bind Value.asBool).getD false

end Now

/-- The poses are less than 2.5 cm apart, by the squares. -/
def poseDeltaSmall (left right : Pose2) : Bool :=
  (left.xM - right.xM) ^ 2 + (left.yM - right.yM) ^ 2 < 0.025 ^ 2

def criticalBattery : ℚ := 0.10

def nudgeGeneralBlockReason (now : Now) : Option String :=
  if now.wheelDrop then some "wheel drop detected"
  else if now.batteryLevel ≤ criticalBattery then some "battery is critical"
  else if now.safetyVetoed then some "active safety override"
  else if now.simStuckActive then some "stuck recovery active"
  else none

def nudgeActionBlockReason (now : Now) (action : ActionPrimitive) (policy : NudgePolicy) :
    Option String :=
  match nudgeGeneralBlockReason now with
  | some reason => some reason
  | none =>
    if 0 < (actionToMotorCommand action).forward ∧ ¬now.forwardClear policy.requireClearanceM then
      some ("forward path clearance is below " ++ fixed2 policy.requireClearanceM ++ " m")
    else none

def chooseNudgeAction (now : Now) (policy : NudgePolicy) (recentCount : Nat) : ActionPrimitive :=
  let turnIntensity := min 0.20 policy.maxTurnIntensity
  if ¬now.forwardClear policy.requireClearanceM ∧ policy.preferTurnWhenClearanceLow then
    .turn now.clearerTurnDirection turnIntensity 600
  else match recentCount % 3 with
    | 0 => .turn now.clearerTurnDirection turnIntensity 600
    | 1 => .explore .randomWalk 1000
    | _ => .go (min 0.12 policy.maxForwardIntensity) 500

structure NudgeStatus where
  idleMs : Nat := 0
  lastNudgeMs : Option Nat := none
  nudgeCountRecent : UInt32 := 0
  nudgeBlockedReason : Option String := none
  activeNudge : Bool := false

structure NudgeController where
  status : NudgeStatus := {}
  lastPose : Option Pose2 := none
  idleStartedAtMs : Option Nat := none
  recentNudges : List Nat := []
  lastMotor : MotorCommand := .stop

namespace NudgeController

variable (controller : NudgeController)

def observeMotor (motor : MotorCommand) : NudgeController := { controller with lastMotor := motor }

def pruneRecent (tMs : Nat) : NudgeController :=
  { controller with
    recentNudges := controller.recentNudges.dropWhile fun stamp => 60000 < tMs - stamp }

def nudgedWithin (tMs ms : Nat) : Bool :=
  match controller.status.lastNudgeMs with
  | some last => tMs - last < ms
  | none => false

/-- What is read first: the recent nudges, and whether the last one is still under way. -/
def refreshed (tMs : Nat) : NudgeController :=
  let pruned := controller.pruneRecent tMs
  { pruned with
    status :=
      { pruned.status with
        nudgeCountRecent := UInt32.ofNat pruned.recentNudges.length
        activeNudge := pruned.nudgedWithin tMs 1500 } }

def lowMotion (now : Now) : Bool :=
  |controller.lastMotor.forward| < 0.02 && |now.forwardMS| < 0.02

def lowPoseDelta (now : Now) : Bool :=
  match controller.lastPose with
  | some pose => poseDeltaSmall pose now.odometry
  | none => true

/-- The robot is on the move, so that its idling starts anew. -/
def moved (now : Now) : NudgeController :=
  { controller with
    idleStartedAtMs := some now.tMs
    status := { controller.status with idleMs := 0, nudgeBlockedReason := none }
    lastPose := some now.odometry }

def idled (now : Now) : NudgeController :=
  let startedAt := controller.idleStartedAtMs.getD now.tMs
  { controller with
    idleStartedAtMs := some startedAt
    status := { controller.status with idleMs := now.tMs - startedAt }
    lastPose := some now.odometry }

def blocked (reason : String) : NudgeController :=
  { controller with status := { controller.status with nudgeBlockedReason := some reason } }

def recordNudge (tMs : Nat) : NudgeController :=
  let noted := { controller with
    status := { controller.status with lastNudgeMs := some tMs, activeNudge := true }
    recentNudges := controller.recentNudges ++ [tMs] }
  let pruned := noted.pruneRecent tMs
  { pruned with
    status :=
      { pruned.status with
        nudgeCountRecent := UInt32.ofNat pruned.recentNudges.length
        idleMs := 0
        nudgeBlockedReason := none }
    idleStartedAtMs := some tMs }

/-- Why an idle robot is not nudged now, whatever the action would be. -/
def hold (now : Now) (policy : NudgePolicy) : Option String :=
  if ¬policy.enabled then some "prod mode disabled"
  else if controller.nudgedWithin now.tMs policy.cooldownMs then some "prod cooldown active"
  else if controller.status.idleMs < policy.idleAfterMs then some "not idle long enough"
  else if policy.maxNudgesPerMinute ≤ UInt32.ofNat controller.recentNudges.length then
    some "prod rate limit active"
  else nudgeGeneralBlockReason now

def propose (now : Now) (policy : NudgePolicy) : NudgeController × Option ActionPrimitive :=
  let controller := controller.refreshed now.tMs
  if ¬controller.lowMotion now ∨ ¬controller.lowPoseDelta now then (controller.moved now, none)
  else
    let controller := controller.idled now
    match controller.hold now policy with
    | some reason => (controller.blocked reason, none)
    | none =>
      let action := chooseNudgeAction now policy controller.recentNudges.length
      match nudgeActionBlockReason now action policy with
      | some reason => (controller.blocked reason, none)
      | none => (controller.recordNudge now.tMs, some action)

end NudgeController

end Netherwick.Nudge
