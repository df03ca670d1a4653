import Mathlib.Algebra.Order.Ring.Rat
import Mathlib.Tactic.Linarith
import Netherwick.Lib.History
import Netherwick.Lib.Run
import Netherwick.Nudge.Controller

/-! # Discipline of the nudges

A session of the controller keeps a log of the calls made to it, newest first. What the nudges must
keep to is a law of the log alone. The controller keeps to it whatever it is called with, but for the
intensity of one kind of action. -/

namespace Netherwick.Nudge

open Netherwick.Lib Netherwick.Actions

inductive NudgeInput where
  | propose (now : Now)
  | observeMotor (motor : MotorCommand)

def NudgeInput.tMs? : NudgeInput → Option Nat
  | propose now => some now.tMs
  | observeMotor _ => none

inductive Entry where
  | proposed (now : Now) (action : Option ActionPrimitive)
  | observed (motor : MotorCommand)

section Law

def motorSeen : List Entry → MotorCommand
  | [] => .stop
  | .observed motor :: _ => motor
  | .proposed _ _ :: past => motorSeen past

def poseSeen : List Entry → Option Pose2
  | [] => none
  | .observed _ :: past => poseSeen past
  | .proposed now _ :: _ => some now.odometry

def lastCallMs : List Entry → Nat
  | [] => 0
  | .observed _ :: past => lastCallMs past
  | .proposed now _ :: _ => now.tMs

def nudgeTimes : List Entry → List Nat
  | [] => []
  | .proposed now (some _) :: past => now.tMs :: nudgeTimes past
  | _ :: past => nudgeTimes past

/-- The call saw forward output of the motor, forward velocity or movement of the pose. -/
def SawMotion (now : Now) (past : List Entry) : Prop :=
  0.02 ≤ |(motorSeen past).forward| ∨ 0.02 ≤ |now.forwardMS| ∨
    ∃ pose ∈ poseSeen past, 0.025 ^ 2 ≤
      (pose.xM - now.odometry.xM) ^ 2 + (pose.yM - now.odometry.yM) ^ 2

/-- Some call at that time saw motion. -/
def MovedAt (tMs : Nat) : List Entry → Prop
  | [] => False
  | .observed _ :: past => MovedAt tMs past
  | .proposed now _ :: past => now.tMs = tMs ∧ SawMotion now past ∨ MovedAt tMs past

/-- Neither the robot nor a call of late was seen to move. -/
def Idle (idleAfterMs : Nat) (now : Now) (past : List Entry) : Prop :=
  ¬SawMotion now past ∧ ∀ tMs, MovedAt tMs past → tMs + idleAfterMs ≤ now.tMs

/-- Nothing that was reported forbids the action. -/
def Safe (clearanceM : ℚ) (now : Now) (action : ActionPrimitive) : Prop :=
  ¬now.wheelDrop ∧ criticalBattery < now.batteryLevel ∧ ¬now.safetyVetoed ∧ ¬now.simStuckActive ∧
    (0 < (actionToMotorCommand action).forward → ∀ nearest ∈ now.nearestM, clearanceM ≤ nearest)

def Modest (policy : NudgePolicy) (action : ActionPrimitive) : Prop :=
  |(actionToMotorCommand action).forward| ≤ policy.maxForwardIntensity ∧
    |(actionToMotorCommand action).turn| ≤ policy.maxTurnIntensity

/-- What a law says of the nudges of a log. -/
def OfNudge (law : Now → ActionPrimitive → List Entry → Prop) (entry : Entry) (past : List Entry) :
    Prop :=
  ∀ now action, entry = .proposed now (some action) → law now action past

structure Disciplined (policy : NudgePolicy) (log : List Entry) : Prop where
  rate : ∀ start, ((nudgeTimes log).filter fun tMs => start ≤ tMs ∧ tMs ≤ start + 60000).length ≤
    policy.maxNudgesPerMinute.toNat
  spaced : (nudgeTimes log).Pairwise fun later earlier => earlier + policy.cooldownMs ≤ later
  idle : Annals (OfNudge fun now _ past => Idle policy.idleAfterMs now past) log
  safe : Annals (OfNudge fun now action _ => Safe policy.requireClearanceM now action) log
  modest : Annals (OfNudge fun _ action _ => Modest policy action) log

variable {law : Now → ActionPrimitive → List Entry → Prop} {past : List Entry} {now : Now}

@[simp] theorem ofNudge_observed {motor : MotorCommand} :
    OfNudge law (.observed motor) past := by
  simp [OfNudge]

@[simp] theorem ofNudge_none : OfNudge law (.proposed now none) past := by
  simp [OfNudge]

@[simp] theorem ofNudge_some {action : ActionPrimitive} :
    OfNudge law (.proposed now (some action)) past ↔ law now action past := by
  simp [OfNudge]

end Law

structure Session where
  controller : NudgeController := {}
  log : List Entry := []

def Session.step (policy : NudgePolicy) (s : Session) : NudgeInput → Session
  | .propose now =>
    let outcome := s.controller.propose now policy
    ⟨outcome.1, .proposed now outcome.2 :: s.log⟩
  | .observeMotor motor => ⟨s.controller.observeMotor motor, .observed motor :: s.log⟩

namespace NudgeController

variable {controller : NudgeController} {log : List Entry} {tMs maximum : Nat} {now : Now}
  {policy : NudgePolicy}

structure Agrees (controller : NudgeController) (log : List Entry) (tMs maximum : Nat) : Prop where
  motor : controller.lastMotor = motorSeen log
  pose : controller.lastPose = poseSeen log
  nudge : controller.status.lastNudgeMs = (nudgeTimes log).head?
  recent : ∃ old, nudgeTimes log = controller.recentNudges.reverse ++ old ∧
    ∀ stamp ∈ old, stamp + 60000 < tMs
  room : controller.recentNudges.length ≤ maximum
  idle : ∀ stamp, MovedAt stamp log → ∃ started,
    controller.idleStartedAtMs = some started ∧ stamp ≤ started
  moved_le : ∀ stamp, MovedAt stamp log → stamp ≤ tMs
  nudge_le : ∀ stamp ∈ nudgeTimes log, stamp ≤ tMs

theorem agrees_fresh : ({} : NudgeController).Agrees [] 0 maximum where
  motor := rfl
  pose := rfl
  nudge := rfl
  recent := ⟨[], rfl, by simp⟩
  room := Nat.zero_le _
  idle := by simp [MovedAt]
  moved_le := by simp [MovedAt]
  nudge_le := by simp [nudgeTimes]

theorem recent_dropWhile (recent : List Nat) {old times : List Nat} (htimes : times = recent.reverse ++ old)
    (hold : ∀ stamp ∈ old, stamp + 60000 < now.tMs) :
    ∃ old', times = (recent.dropWhile fun stamp => 60000 < now.tMs - stamp).reverse ++ old' ∧
      ∀ stamp ∈ old', stamp + 60000 < now.tMs := by
  refine ⟨(recent.takeWhile fun stamp => 60000 < now.tMs - stamp).reverse ++ old, ?_, ?_⟩
  · rw [htimes, ← List.append_assoc, ← List.reverse_append, List.takeWhile_append_dropWhile]
  · intro stamp hstamp
    rcases List.mem_append.mp hstamp with hdropped | hbefore
    · have hlate := List.mem_takeWhile_imp (List.mem_reverse.mp hdropped)
      simp only [decide_eq_true_eq] at hlate
      omega
    · exact hold stamp hbefore

theorem Agrees.refreshed (h : controller.Agrees log tMs maximum) (hlate : tMs ≤ now.tMs) :
    (controller.refreshed now.tMs).Agrees log now.tMs maximum where
  motor := h.motor
  pose := h.pose
  nudge := h.nudge
  recent := by
    obtain ⟨old, htimes, hold⟩ := h.recent
    exact recent_dropWhile _ htimes fun stamp hstamp => (hold stamp hstamp).trans_le hlate
  room := (List.dropWhile_sublist _).length_le.trans h.room
  idle := h.idle
  moved_le stamp hmoved := (h.moved_le stamp hmoved).trans hlate
  nudge_le stamp hstamp := (h.nudge_le stamp hstamp).trans hlate

theorem sawMotion_iff (h : controller.Agrees log tMs maximum) :
    SawMotion now log ↔ ¬(controller.lowMotion now = true ∧ controller.lowPoseDelta now = true) := by
  rw [SawMotion, lowMotion, lowPoseDelta, h.motor, h.pose]
  cases poseSeen log with
  | none => simp [← not_lt, or_iff_not_imp_left]
  | some pose =>
    simp only [poseDeltaSmall, Option.mem_some_iff, exists_eq_left', Bool.and_eq_true,
      decide_eq_true_eq, not_and_or, not_lt, or_assoc]

theorem Agrees.moved (h : controller.Agrees log now.tMs maximum) :
    (controller.moved now).Agrees (.proposed now none :: log) now.tMs maximum where
  motor := h.motor
  pose := rfl
  nudge := h.nudge
  recent := h.recent
  room := h.room
  idle stamp hmoved := by
    refine ⟨now.tMs, rfl, ?_⟩
    rcases hmoved with ⟨rfl, -⟩ | hbefore
    · exact le_rfl
    · exact h.moved_le stamp hbefore
  moved_le stamp hmoved := by
    rcases hmoved with ⟨rfl, -⟩ | hbefore
    · exact le_rfl
    · exact h.moved_le stamp hbefore
  nudge_le := h.nudge_le

theorem Agrees.idled (h : controller.Agrees log now.tMs maximum) (hstill : ¬SawMotion now log) :
    (controller.idled now).Agrees (.proposed now none :: log) now.tMs maximum where
  motor := h.motor
  pose := rfl
  nudge := h.nudge
  recent := h.recent
  room := h.room
  idle stamp hmoved := by
    rcases hmoved with ⟨-, hsaw⟩ | hbefore
    · exact absurd hsaw hstill
    · obtain ⟨started, hstarted, hle⟩ := h.idle stamp hbefore
      exact ⟨started, by simp [NudgeController.idled, hstarted], hle⟩
  moved_le stamp hmoved := by
    rcases hmoved with ⟨rfl, -⟩ | hbefore
    · exact le_rfl
    · exact h.moved_le stamp hbefore
  nudge_le := h.nudge_le

theorem Agrees.blocked (h : controller.Agrees log tMs maximum) (reason : String) :
    (controller.blocked reason).Agrees log tMs maximum :=
  ⟨h.motor, h.pose, h.nudge, h.recent, h.room, h.idle, h.moved_le, h.nudge_le⟩

theorem Agrees.recordNudge {action : ActionPrimitive}
    (h : controller.Agrees (.proposed now none :: log) now.tMs maximum)
    (hroom : controller.recentNudges.length < maximum) :
    (controller.recordNudge now.tMs).Agrees (.proposed now (some action) :: log) now.tMs
      maximum where
  motor := h.motor
  pose := h.pose
  nudge := rfl
  recent := by
    obtain ⟨old, htimes, hold⟩ := h.recent
    refine recent_dropWhile (controller.recentNudges ++ [now.tMs]) ?_ hold
    rw [List.reverse_append, nudgeTimes]
    exact congrArg (now.tMs :: ·) htimes
  room := (List.dropWhile_sublist _).length_le.trans (by simp; omega)
  idle stamp hmoved := ⟨now.tMs, rfl, h.moved_le stamp hmoved⟩
  moved_le stamp hmoved := h.moved_le stamp hmoved
  nudge_le stamp hstamp := by
    rcases List.mem_cons.mp hstamp with rfl | hbefore
    · exact le_rfl
    · exact h.nudge_le stamp hbefore

theorem Agrees.observeMotor (h : controller.Agrees log tMs maximum) (motor : MotorCommand) :
    (controller.observeMotor motor).Agrees (.observed motor :: log) tMs maximum :=
  ⟨rfl, h.pose, h.nudge, h.recent, h.room, h.idle, h.moved_le, h.nudge_le⟩

/-- A nudge is due: the robot idles, and nothing speaks against a nudge as such. -/
def Due (controller : NudgeController) (now : Now) (policy : NudgePolicy) : Prop :=
  (controller.refreshed now.tMs).lowMotion now = true ∧
    (controller.refreshed now.tMs).lowPoseDelta now = true ∧
      ((controller.refreshed now.tMs).idled now).hold now policy = none

/-- The nudges of the last minute. -/
def recentCount (controller : NudgeController) (now : Now) : Nat :=
  (controller.refreshed now.tMs).recentNudges.length

theorem nudgeGeneralBlockReason_eq_none :
    nudgeGeneralBlockReason now = none ↔ ¬now.wheelDrop ∧ criticalBattery < now.batteryLevel ∧
      ¬now.safetyVetoed ∧ ¬now.simStuckActive := by
  rw [nudgeGeneralBlockReason]
  by_cases hdrop : now.wheelDrop = true
  · simp [hdrop]
  · by_cases hbattery : now.batteryLevel ≤ criticalBattery
    · simp [hdrop, hbattery]
    · by_cases hvetoed : now.safetyVetoed = true <;> simp [hdrop, hbattery, hvetoed, not_le.mp]

theorem hold_eq_none : controller.hold now policy = none ↔
    policy.enabled ∧ ¬controller.nudgedWithin now.tMs policy.cooldownMs ∧
      policy.idleAfterMs ≤ controller.status.idleMs ∧
      UInt32.ofNat controller.recentNudges.length < policy.maxNudgesPerMinute ∧
      nudgeGeneralBlockReason now = none := by
  rw [hold]
  by_cases henabled : policy.enabled = true
  · by_cases hcool : controller.nudgedWithin now.tMs policy.cooldownMs = true
    · simp [henabled, hcool]
    · by_cases hidle : controller.status.idleMs < policy.idleAfterMs
      · simp [henabled, hcool, hidle]
      · by_cases hroom : policy.maxNudgesPerMinute ≤ UInt32.ofNat controller.recentNudges.length
        · simp [henabled, hcool, hidle, hroom]
        · simp [henabled, hcool, hidle, hroom, UInt32.not_le.mp hroom, not_lt.mp hidle]
  · simp [henabled]

theorem nudgeActionBlockReason_eq_none {action : ActionPrimitive} :
    nudgeActionBlockReason now action policy = none ↔ nudgeGeneralBlockReason now = none ∧
      (0 < (actionToMotorCommand action).forward →
        now.forwardClear policy.requireClearanceM) := by
  rw [nudgeActionBlockReason]
  cases nudgeGeneralBlockReason now with
  | some reason => simp
  | none => simp

theorem forwardClear_iff {clearanceM : ℚ} :
    now.forwardClear clearanceM = true ↔ ∀ nearest ∈ now.nearestM, clearanceM ≤ nearest := by
  rw [Now.forwardClear]
  cases now.nearestM <;> simp

theorem propose_of_not_due (h : controller.Agrees log tMs maximum) (hlate : tMs ≤ now.tMs)
    (hdue : ¬controller.Due now policy) :
    (controller.propose now policy).2 = none ∧
      (controller.propose now policy).1.Agrees (.proposed now none :: log) now.tMs maximum := by
  have hnow := h.refreshed hlate
  rw [propose]
  by_cases hstill : (controller.refreshed now.tMs).lowMotion now = true ∧
      (controller.refreshed now.tMs).lowPoseDelta now = true
  · rw [if_neg (by simp [hstill])]
    cases hhold : ((controller.refreshed now.tMs).idled now).hold now policy with
    | none => exact absurd ⟨hstill.1, hstill.2, hhold⟩ hdue
    | some reason =>
      simp only [hhold]
      exact ⟨trivial, (hnow.idled (by simpa [sawMotion_iff hnow] using hstill)).blocked reason⟩
  · rw [if_pos (by simpa [or_iff_not_imp_left] using hstill)]
    exact ⟨rfl, hnow.moved⟩

theorem propose_of_blocked {reason : String} (hdue : controller.Due now policy)
    (hblocked : nudgeActionBlockReason now
      (chooseNudgeAction now policy (controller.recentCount now)) policy = some reason) :
    controller.propose now policy =
      (((controller.refreshed now.tMs).idled now).blocked reason, none) := by
  obtain ⟨hmotion, hpose, hhold⟩ := hdue
  rw [propose, if_neg (by simp [hmotion, hpose])]
  simp only [hhold]
  rw [recentCount] at hblocked
  simp only [NudgeController.idled, hblocked]

theorem propose_of_allowed (hdue : controller.Due now policy)
    (hallowed : nudgeActionBlockReason now
      (chooseNudgeAction now policy (controller.recentCount now)) policy = none) :
    controller.propose now policy =
      (((controller.refreshed now.tMs).idled now).recordNudge now.tMs,
        some (chooseNudgeAction now policy (controller.recentCount now))) := by
  obtain ⟨hmotion, hpose, hhold⟩ := hdue
  rw [propose, if_neg (by simp [hmotion, hpose])]
  simp only [hhold]
  rw [recentCount] at hallowed
  simp only [NudgeController.idled, hallowed, recentCount]

section Due

variable (h : controller.Agrees log tMs policy.maxNudgesPerMinute.toNat) (hlate : tMs ≤ now.tMs)
  (hdue : controller.Due now policy)
include h hlate hdue

theorem Due.still : ¬SawMotion now log := by
  rw [sawMotion_iff (h.refreshed hlate)]
  exact not_not.mpr ⟨hdue.1, hdue.2.1⟩

theorem Due.idle : Idle policy.idleAfterMs now log := by
  refine ⟨hdue.still h hlate, fun stamp hmoved => ?_⟩
  obtain ⟨-, -, hidle, -, -⟩ := hold_eq_none.mp hdue.2.2
  obtain ⟨started, hstarted, hle⟩ := h.idle stamp hmoved
  have hsince : policy.idleAfterMs ≤ now.tMs - started := by
    simpa [NudgeController.idled, NudgeController.refreshed, pruneRecent, hstarted] using hidle
  have hstamp := h.moved_le stamp hmoved
  omega

theorem Due.rested (last : Nat) (hlast : last ∈ (nudgeTimes log).head?) :
    last + policy.cooldownMs ≤ now.tMs := by
  obtain ⟨-, hcool, -, -, -⟩ := hold_eq_none.mp hdue.2.2
  have hnudge : controller.status.lastNudgeMs = some last := h.nudge.trans hlast
  have hsince : policy.cooldownMs ≤ now.tMs - last := by
    simpa [nudgedWithin, NudgeController.idled, NudgeController.refreshed, pruneRecent, hnudge]
      using hcool
  have hpast := h.nudge_le last (List.mem_of_mem_head? hlast)
  omega

theorem Due.room : controller.recentCount now < policy.maxNudgesPerMinute.toNat := by
  obtain ⟨-, -, -, hroom, -⟩ := hold_eq_none.mp hdue.2.2
  have hle : controller.recentCount now ≤ policy.maxNudgesPerMinute.toNat :=
    (h.refreshed hlate).room
  have hcount : (UInt32.ofNat (controller.recentCount now)).toNat = controller.recentCount now :=
    UInt32.toNat_ofNat_of_lt' (hle.trans_lt policy.maxNudgesPerMinute.toNat_lt)
  rw [← hcount]
  exact hroom

end Due

/-- The count picks a turn, or the path ahead does. -/
def Turns (policy : NudgePolicy) (now : Now) (count : Nat) : Prop :=
  ¬now.forwardClear policy.requireClearanceM ∧ policy.preferTurnWhenClearanceLow ∨ count % 3 = 0

instance {count : Nat} : Decidable (Turns policy now count) :=
  inferInstanceAs (Decidable (_ ∨ _))

/-- The bounds of the policy fit the action that the count picks, should nothing block it. A wander
takes 0.2 forward and 0.1 of turn whatever the policy says. -/
def Fits (policy : NudgePolicy) (now : Now) (count : Nat) : Prop :=
  if Turns policy now count then
    0 ≤ policy.maxForwardIntensity ∧ 0 ≤ policy.maxTurnIntensity
  else if count % 3 = 1 then
    now.forwardClear policy.requireClearanceM →
      0.2 ≤ policy.maxForwardIntensity ∧ 0.1 ≤ policy.maxTurnIntensity
  else
    now.forwardClear policy.requireClearanceM ∨ policy.maxForwardIntensity ≤ 0 →
      0 ≤ policy.maxForwardIntensity ∧ 0 ≤ policy.maxTurnIntensity

theorem abs_min_le_iff (limit : ℚ) {bound : ℚ} (hbound : 0 < bound) :
    |min bound limit| ≤ limit ↔ 0 ≤ limit := by
  constructor
  · exact fun h => (abs_nonneg _).trans h
  · intro h
    rw [abs_of_nonneg (le_min hbound.le h)]
    exact min_le_right _ _

theorem modest_turn {direction : Reign.TurnDir} {durationMs : Nat} :
    Modest policy (.turn direction (min 0.20 policy.maxTurnIntensity) durationMs) ↔
      0 ≤ policy.maxForwardIntensity ∧ 0 ≤ policy.maxTurnIntensity := by
  have hturn := abs_min_le_iff policy.maxTurnIntensity (show (0 : ℚ) < 0.20 by norm_num)
  cases direction <;> simp [Modest, actionToMotorCommand, hturn]

theorem modest_explore {durationMs : Nat} : Modest policy (.explore .randomWalk durationMs) ↔
    0.2 ≤ policy.maxForwardIntensity ∧ 0.1 ≤ policy.maxTurnIntensity := by
  simp only [Modest, actionToMotorCommand]
  rw [abs_of_pos (by norm_num), abs_of_pos (by norm_num)]

theorem modest_go {durationMs : Nat} :
    Modest policy (.go (min 0.12 policy.maxForwardIntensity) durationMs) ↔
      0 ≤ policy.maxForwardIntensity ∧ 0 ≤ policy.maxTurnIntensity := by
  have hgo := abs_min_le_iff policy.maxForwardIntensity (show (0 : ℚ) < 0.12 by norm_num)
  simp [Modest, actionToMotorCommand, hgo]

section Choose

variable {count : Nat}

theorem chooseNudgeAction_of_turns (h : Turns policy now count) :
    chooseNudgeAction now policy count =
      .turn now.clearerTurnDirection (min 0.20 policy.maxTurnIntensity) 600 := by
  rw [chooseNudgeAction]
  by_cases hlow : ¬now.forwardClear policy.requireClearanceM ∧ policy.preferTurnWhenClearanceLow
  · rw [if_pos hlow]
  · rw [if_neg hlow, h.resolve_left hlow]
    rfl

theorem chooseNudgeAction_of_one (hturns : ¬Turns policy now count) (hcount : count % 3 = 1) :
    chooseNudgeAction now policy count = .explore .randomWalk 1000 := by
  rw [chooseNudgeAction, if_neg (fun hlow => hturns (.inl hlow)), hcount]
  rfl

theorem chooseNudgeAction_of_two (hturns : ¬Turns policy now count) (hcount : count % 3 ≠ 1) :
    chooseNudgeAction now policy count = .go (min 0.12 policy.maxForwardIntensity) 500 := by
  have hzero : count % 3 ≠ 0 := fun hzero => hturns (.inr hzero)
  have hrest : count % 3 = 2 := by omega
  rw [chooseNudgeAction, if_neg (fun hlow => hturns (.inl hlow)), hrest]
  rfl

theorem modest_choose_iff (hgeneral : nudgeGeneralBlockReason now = none) :
    (nudgeActionBlockReason now (chooseNudgeAction now policy count) policy = none →
        Modest policy (chooseNudgeAction now policy count)) ↔ Fits policy now count := by
  rw [nudgeActionBlockReason_eq_none, Fits]
  by_cases hturns : Turns policy now count
  · rw [if_pos hturns, chooseNudgeAction_of_turns hturns, modest_turn]
    cases now.clearerTurnDirection <;> simp [hgeneral, actionToMotorCommand]
  · rw [if_neg hturns]
    by_cases hone : count % 3 = 1
    · rw [if_pos hone, chooseNudgeAction_of_one hturns hone, modest_explore]
      have hpos : (0 : ℚ) < 0.2 := by norm_num
      simp [hgeneral, actionToMotorCommand, hpos]
    · rw [if_neg hone, chooseNudgeAction_of_two hturns hone, modest_go]
      have hpos : (0 : ℚ) < 0.12 := by norm_num
      simp [hgeneral, actionToMotorCommand, hpos, imp_iff_not_or, or_comm]

end Choose

end NudgeController

namespace Session

open NudgeController

variable {policy : NudgePolicy} {s : Session} {input : NudgeInput} {inputs : List NudgeInput}

/-- The call comes no earlier than the one before it. -/
def Timely (s : Session) (input : NudgeInput) : Prop :=
  ∀ tMs ∈ input.tMs?, lastCallMs s.log ≤ tMs

def Fitting (policy : NudgePolicy) (s : Session) : NudgeInput → Prop
  | .propose now => s.controller.Due now policy → Fits policy now (s.controller.recentCount now)
  | .observeMotor _ => True

/-- What holds of a session after each call: discipline but for the intensities. -/
structure Kept (policy : NudgePolicy) (s : Session) : Prop where
  agrees : s.controller.Agrees s.log (lastCallMs s.log) policy.maxNudgesPerMinute.toNat
  rate : ∀ start, ((nudgeTimes s.log).filter fun tMs =>
    start ≤ tMs ∧ tMs ≤ start + 60000).length ≤ policy.maxNudgesPerMinute.toNat
  spaced : (nudgeTimes s.log).Pairwise fun later earlier => earlier + policy.cooldownMs ≤ later
  idle : Annals (OfNudge fun now _ past => Idle policy.idleAfterMs now past) s.log
  safe : Annals (OfNudge fun now action _ => Safe policy.requireClearanceM now action) s.log

theorem Kept.without_nudge {controller : NudgeController} {now : Now} (h : s.Kept policy)
    (hagrees : controller.Agrees (.proposed now none :: s.log) now.tMs
      policy.maxNudgesPerMinute.toNat) :
    (⟨controller, .proposed now none :: s.log⟩ : Session).Kept policy where
  agrees := hagrees
  rate := h.rate
  spaced := h.spaced
  idle := ⟨ofNudge_none, h.idle⟩
  safe := ⟨ofNudge_none, h.safe⟩

theorem rate_cons {recent old : List Nat} {tMs maximum : Nat}
    (hold : ∀ stamp ∈ old, stamp + 60000 < tMs) (hroom : recent.length < maximum)
    (hrate : ∀ start, ((recent ++ old).filter fun stamp =>
      start ≤ stamp ∧ stamp ≤ start + 60000).length ≤ maximum) (start : Nat) :
    ((tMs :: (recent ++ old)).filter fun stamp =>
      start ≤ stamp ∧ stamp ≤ start + 60000).length ≤ maximum := by
  by_cases hin : start ≤ tMs ∧ tMs ≤ start + 60000
  · have hnone : (old.filter fun stamp => start ≤ stamp ∧ stamp ≤ start + 60000) = [] := by
      rw [List.filter_eq_nil_iff]
      intro stamp hstamp
      have hlate := hold stamp hstamp
      simp only [decide_eq_true_eq]
      omega
    have hsome := List.length_filter_le (fun stamp => start ≤ stamp ∧ stamp ≤ start + 60000) recent
    rw [List.filter_cons_of_pos (by simpa using hin), List.filter_append, hnone, List.append_nil,
      List.length_cons]
    omega
  · rw [List.filter_cons_of_neg (by simpa using hin)]
    exact hrate start

theorem spaced_cons {times : List Nat} {tMs cooldownMs : Nat}
    (hspaced : times.Pairwise fun later earlier => earlier + cooldownMs ≤ later)
    (hrested : ∀ last ∈ times.head?, last + cooldownMs ≤ tMs) :
    (tMs :: times).Pairwise fun later earlier => earlier + cooldownMs ≤ later := by
  refine List.pairwise_cons.mpr ⟨?_, hspaced⟩
  cases times with
  | nil => simp
  | cons last earlier =>
    have hlast := hrested last rfl
    intro stamp hstamp
    rcases List.mem_cons.mp hstamp with rfl | hbefore
    · exact hlast
    · have hgap := (List.pairwise_cons.mp hspaced).1 stamp hbefore
      omega

theorem step_propose (now : Now) : s.step policy (.propose now) =
    ⟨(s.controller.propose now policy).1,
      .proposed now (s.controller.propose now policy).2 :: s.log⟩ := by
  rw [Session.step]

theorem Kept.with_nudge {now : Now} (h : s.Kept policy) (hafter : lastCallMs s.log ≤ now.tMs)
    (hdue : s.controller.Due now policy)
    (hallowed : nudgeActionBlockReason now
      (chooseNudgeAction now policy (s.controller.recentCount now)) policy = none) :
    (s.step policy (.propose now)).Kept policy := by
  rw [step_propose, propose_of_allowed hdue hallowed]
  obtain ⟨hgeneral, hclear⟩ := nudgeActionBlockReason_eq_none.mp hallowed
  obtain ⟨hdrop, hbattery, hvetoed, hstuck⟩ := nudgeGeneralBlockReason_eq_none.mp hgeneral
  have hidled := (h.agrees.refreshed hafter).idled (hdue.still h.agrees hafter)
  have hroom := hdue.room h.agrees hafter
  have hrate : ∀ start, ((nudgeTimes (.proposed now (some (chooseNudgeAction now policy
      (s.controller.recentCount now))) :: s.log)).filter fun tMs =>
        start ≤ tMs ∧ tMs ≤ start + 60000).length ≤ policy.maxNudgesPerMinute.toNat := by
    obtain ⟨old, htimes, hold⟩ := (h.agrees.refreshed hafter).recent
    have hbefore := h.rate
    rw [htimes] at hbefore
    rw [nudgeTimes, htimes]
    exact rate_cons hold (by rw [List.length_reverse]; exact hroom) hbefore
  exact {
    agrees := hidled.recordNudge hroom
    rate := hrate
    spaced := spaced_cons h.spaced (hdue.rested h.agrees hafter)
    idle := ⟨ofNudge_some.mpr (hdue.idle h.agrees hafter), h.idle⟩
    safe := ⟨ofNudge_some.mpr ⟨hdrop, hbattery, hvetoed, hstuck,
      fun hforward => forwardClear_iff.mp (hclear hforward)⟩, h.safe⟩ }

theorem Kept.step (h : s.Kept policy) (hlate : s.Timely input) :
    (s.step policy input).Kept policy := by
  cases input with
  | observeMotor motor =>
    exact ⟨h.agrees.observeMotor motor, h.rate, h.spaced, ⟨ofNudge_observed, h.idle⟩,
      ⟨ofNudge_observed, h.safe⟩⟩
  | propose now =>
    have hafter : lastCallMs s.log ≤ now.tMs := hlate now.tMs rfl
    by_cases hdue : s.controller.Due now policy
    · cases hblock : nudgeActionBlockReason now
          (chooseNudgeAction now policy (s.controller.recentCount now)) policy with
      | none => exact h.with_nudge hafter hdue hblock
      | some reason =>
        have hidled := (h.agrees.refreshed hafter).idled (hdue.still h.agrees hafter)
        rw [step_propose, propose_of_blocked hdue hblock]
        exact h.without_nudge (hidled.blocked reason)
    · obtain ⟨hnone, hagrees⟩ := propose_of_not_due h.agrees hafter hdue
      rw [step_propose, hnone]
      exact h.without_nudge hagrees

theorem modest_step_iff (h : s.Kept policy) (hlate : s.Timely input) :
    Annals (OfNudge fun _ action _ => Modest policy action) (s.step policy input).log ↔
      Annals (OfNudge fun _ action _ => Modest policy action) s.log ∧ s.Fitting policy input := by
  cases input with
  | observeMotor motor => simp [Session.step, Fitting]
  | propose now =>
    have hafter : lastCallMs s.log ≤ now.tMs := hlate now.tMs rfl
    rw [step_propose, annals_cons, and_comm, Fitting]
    refine and_congr_right fun _ => ?_
    by_cases hdue : s.controller.Due now policy
    · have hgeneral := (hold_eq_none.mp hdue.2.2).2.2.2.2
      rw [← modest_choose_iff hgeneral]
      cases hblock : nudgeActionBlockReason now
          (chooseNudgeAction now policy (s.controller.recentCount now)) policy with
      | none => simp [propose_of_allowed hdue hblock, hdue]
      | some reason => simp [propose_of_blocked hdue hblock]
    · simp [(propose_of_not_due h.agrees hafter hdue).1, hdue]

theorem kept_fresh : ({} : Session).Kept policy where
  agrees := agrees_fresh
  rate _ := Nat.zero_le _
  spaced := .nil
  idle := trivial
  safe := trivial

theorem Kept.disciplined (h : s.Kept policy)
    (hmodest : Annals (OfNudge fun _ action _ => Modest policy action) s.log) :
    Disciplined policy s.log :=
  ⟨h.rate, h.spaced, h.idle, h.safe, hmodest⟩

theorem lastCallMs_mem (policy : NudgePolicy) (inputs : List NudgeInput) :
    lastCallMs (after (step policy) {} inputs).log = 0 ∨
      lastCallMs (after (step policy) {} inputs).log ∈ inputs.filterMap NudgeInput.tMs? := by
  induction inputs using List.reverseRecOn with
  | nil => exact .inl rfl
  | append_singleton inputs input ih =>
    rw [after_append, List.filterMap_append]
    cases input with
    | observeMotor motor => simpa [Session.step, lastCallMs, NudgeInput.tMs?] using ih
    | propose now => simp [Session.step, lastCallMs, NudgeInput.tMs?]

theorem timely_of_sorted (policy : NudgePolicy) (h : (inputs.filterMap NudgeInput.tMs?).Pairwise (· ≤ ·)) :
    EachStep (step policy) {} Timely inputs := by
  intro past input hpast tMs htMs
  obtain ⟨rest, rfl⟩ := hpast
  rcases lastCallMs_mem policy past with hzero | hmem
  · rw [hzero]
    exact Nat.zero_le _
  · rw [List.filterMap_append, List.filterMap_append] at h
    exact (List.pairwise_append.mp (List.pairwise_append.mp h).1).2.2 _ hmem tMs
      (by simpa using htMs)

theorem kept_run (h : EachStep (step policy) {} Timely inputs) :
    (after (step policy) {} inputs).Kept policy :=
  h.invariant kept_fresh fun _ _ hkept hlate => hkept.step hlate

theorem modest_run_iff (h : EachStep (step policy) {} Timely inputs) :
    Annals (OfNudge fun _ action _ => Modest policy action) (after (step policy) {} inputs).log ↔
      EachStep (step policy) {} (Fitting policy) inputs := by
  induction inputs using List.reverseRecOn with
  | nil => exact ⟨fun _ => eachStep_nil, fun _ => trivial⟩
  | append_singleton inputs input ih =>
    obtain ⟨hbefore, hlate⟩ := eachStep_concat.mp h
    rw [after_append, eachStep_concat, ← ih hbefore]
    exact modest_step_iff (kept_run hbefore) hlate

/-- Called at times that never fall, the controller is disciplined just when at every call that is
due a nudge the bounds of the policy fit the action that is picked. -/
theorem disciplined_iff (policy : NudgePolicy) (inputs : List NudgeInput)
    (hsorted : (inputs.filterMap NudgeInput.tMs?).Pairwise (· ≤ ·)) :
    Disciplined policy (after (step policy) {} inputs).log ↔
      EachStep (step policy) {} (Fitting policy) inputs := by
  have htimely := timely_of_sorted policy hsorted
  rw [← modest_run_iff htimely]
  exact ⟨fun h => h.modest, (kept_run htimely).disciplined⟩

/-- A robot at rest in the open, called three times. -/
def restedCalls : List NudgeInput :=
  [.propose { tMs := 0 }, .propose { tMs := 1200 }, .propose { tMs := 3700 }]

theorem disciplined_rested : Disciplined .virtualDefault
      (after (step .virtualDefault) {} (restedCalls.take 2)).log ↔
    EachStep (step .virtualDefault) {} (Fitting .virtualDefault) (restedCalls.take 2) :=
  disciplined_iff .virtualDefault (restedCalls.take 2) (by decide)

def newestAction : List Entry → Option ActionPrimitive
  | .proposed _ action :: _ => action
  | _ => none

theorem Disciplined.modest_newest {log : List Entry} {action : ActionPrimitive}
    (h : Disciplined policy log) (hnewest : newestAction log = some action) :
    Modest policy action := by
  match log with
  | .proposed now (some proposed) :: past =>
    obtain rfl : proposed = action := Option.some.inj hnewest
    exact ofNudge_some.mp h.modest.1

/-- The second nudge is a wander, faster than the policy allows. -/
theorem wander_immodest :
    ¬Disciplined .virtualDefault (after (step .virtualDefault) {} restedCalls).log := by
  intro h
  have hwander : newestAction (after (step .virtualDefault) {} restedCalls).log =
      some (.explore .randomWalk 1000) := by decide +kernel
  have hslow := (modest_explore.mp (Disciplined.modest_newest h hwander)).1
  exact absurd hslow (by decide +kernel)

end Session

end Netherwick.Nudge
