import Netherwick.Cockpit.Wire

/-! # Possession recovery

The slow runner keeps a recovery for the safety latch it believes the brainstem to hold. Events
begin and end it, a status begins one where there is none, and a refused motion begins one as well. -/

namespace Netherwick.RealRobot

open Netherwick.Cockpit (SafetyLatchKind SafeStopReason CockpitError CockpitEvent CockpitEventKind
  EventBatch)

def SafetyLatchKind.debug : SafetyLatchKind → String
  | .bump => "Bump"
  | .cliff => "Cliff"
  | .wheelDrop => "WheelDrop"
  | .heartbeat => "Heartbeat"
  | .tilt => "Tilt"
  | .impact => "Impact"
  | .charging => "Charging"

inductive PossessionRecoveryPhase
  | idle | brainstemReflex | waitingForSensorClear | escaping
  deriving DecidableEq, Repr

inductive TurnDir
  | left | right
  deriving DecidableEq, Repr

inductive ContactWithdrawalOutcome
  | completed | safetyPreempted | failed
  | unknown (code : UInt8)
  deriving DecidableEq, Repr

inductive ContactWithdrawalEvent
  | started (repeatedCount : UInt8)
  | completed (outcome : ContactWithdrawalOutcome)
  deriving DecidableEq, Repr

structure PossessionRecoveryState where
  latch : Option SafetyLatchKind := none
  hazardGeneration : UInt32 := 0
  phase : PossessionRecoveryPhase := .idle
  turnDirection : TurnDir := .left
  activeSinceMs : Nat := 0
  lastCommandMs : Nat := 0
  commandAttempts : UInt32 := 0
  stuckStopSent : Bool := false
  brainstemReflexObserved : Bool := false
  lastReflexOutcome : Option ContactWithdrawalOutcome := none
  deriving DecidableEq, Repr

structure RecoveryBody where
  bumpLeft : Bool := false
  bumpRight : Bool := false
  cliffLeft : Bool := false
  cliffFrontLeft : Bool := false
  cliffFrontRight : Bool := false
  cliffRight : Bool := false
  wheelDrop : Bool := false
  charging : Bool := false
  deriving DecidableEq, Repr

structure RecoveryStatus where
  estopLatched : Option Bool
  safetyTripped : Option Bool
  safetyLatchKind : Option SafetyLatchKind
  safetyHazardGeneration : Option UInt32
  tiltMagnitudeMrad : Option UInt32 := none
  impactScoreMmS2 : Option UInt32 := none
  deriving DecidableEq, Repr

def safetyLatchKindFromEventCode (code : UInt32) : Option SafetyLatchKind :=
  if code = 1 then some .bump
  else if code = 2 then some .cliff
  else if code = 3 then some .wheelDrop
  else if code = 5 then some .heartbeat
  else if code = 6 then some .tilt
  else if code = 7 then some .impact
  else if code = 8 then some .charging
  else none

def contactWithdrawal (event : CockpitEvent) : Option ContactWithdrawalEvent :=
  match event.kind with
  | .contactWithdrawalStarted => some (.started ((event.a >>> 8) &&& 0xff).toUInt8)
  | .contactWithdrawalCompleted =>
    let code := event.a.toUInt8
    some <| .completed <|
      if code = 1 then .completed
      else if code = 2 then .safetyPreempted
      else if code = 3 then .failed
      else .unknown code
  | _ => none

def bumpActive (body : RecoveryBody) : Bool := body.bumpLeft || body.bumpRight

def cliffActive (body : RecoveryBody) : Bool :=
  body.cliffLeft || body.cliffFrontLeft || body.cliffFrontRight || body.cliffRight

def inferSafetyLatchFromSensors (body : RecoveryBody) : Option SafetyLatchKind :=
  if bumpActive body then some .bump
  else if cliffActive body then some .cliff
  else if body.wheelDrop then some .wheelDrop
  else if body.charging then some .charging
  else none

def contactTurnDirection (body : RecoveryBody) : TurnDir :=
  if body.bumpLeft && !body.bumpRight then .right else .left

def recoveryTurnDirectionForLatch (kind : SafetyLatchKind) (body : RecoveryBody) : TurnDir :=
  match kind with
  | .bump => contactTurnDirection body
  | .cliff => if body.cliffLeft || body.cliffFrontLeft then .right else .left
  | _ => .left

def imuRecoveryClear (status : RecoveryStatus) (latch : SafetyLatchKind) : Bool :=
  match latch with
  | .tilt => status.tiltMagnitudeMrad.all fun value => value < 650
  | .impact => status.impactScoreMmS2.all fun value => value < 18000
  | _ => false

namespace PossessionRecoveryState

def startGeneration (recovery : PossessionRecoveryState) (latch : SafetyLatchKind)
    (hazardGeneration : UInt32) (body : RecoveryBody) (nowMs : Nat) : PossessionRecoveryState :=
  let latchChanged : Prop := recovery.latch ≠ some latch
  let started :=
    { recovery with
      latch := some latch
      hazardGeneration :=
        if hazardGeneration ≠ 0 then hazardGeneration else recovery.hazardGeneration
      phase := .waitingForSensorClear
      turnDirection := recoveryTurnDirectionForLatch latch body }
  if latchChanged ∨ recovery.activeSinceMs = 0 then
    { started with
      activeSinceMs := nowMs
      lastCommandMs := 0
      commandAttempts := 0
      stuckStopSent := false }
  else started

def start (recovery : PossessionRecoveryState) (latch : SafetyLatchKind) (body : RecoveryBody)
    (nowMs : Nat) : PossessionRecoveryState :=
  recovery.startGeneration latch 0 body nowMs

def finish (recovery : PossessionRecoveryState) : PossessionRecoveryState :=
  { recovery with
    latch := none
    hazardGeneration := 0
    phase := .idle
    activeSinceMs := 0
    lastCommandMs := 0
    brainstemReflexObserved := false }

def hearEvent (body : RecoveryBody) (nowMs : Nat) (recovery : PossessionRecoveryState)
    (event : CockpitEvent) : PossessionRecoveryState :=
  match contactWithdrawal event with
  | some (.started repeatedCount) =>
    { recovery.start .bump body nowMs with
      phase := .brainstemReflex
      brainstemReflexObserved := true
      commandAttempts := repeatedCount.toUInt32
      lastCommandMs := nowMs
      lastReflexOutcome := none }
  | some (.completed outcome) =>
    { recovery with
      brainstemReflexObserved := true
      lastReflexOutcome := some outcome
      phase := .waitingForSensorClear }
  | none =>
    match event.kind with
    | .safetyTripped =>
      match safetyLatchKindFromEventCode event.a with
      | some kind => recovery.startGeneration kind event.seq body nowMs
      | none => recovery
    | .safetyCleared =>
      if recovery.latch = safetyLatchKindFromEventCode event.a then {} else recovery
    | .eStopLatched => recovery.finish
    | _ => recovery

end PossessionRecoveryState

inductive RecoveryAction
  | stop
  deriving DecidableEq, Repr

structure PossessionRecoveryDecision where
  blockReason : Option String
  commandSent : Bool
  action : Option RecoveryAction
  deriving DecidableEq, Repr

structure RecoveryAnswers where
  stop : Except CockpitError Unit
  clear : Except CockpitError Unit

namespace PossessionRecoveryState

/-- A latch whose cause is over is cleared, and the body is stopped as long as it is not. -/
def clearOrStop (recovery : PossessionRecoveryState) (ended : Bool) (answers : RecoveryAnswers)
    (reason : String) : PossessionRecoveryState × Except CockpitError PossessionRecoveryDecision :=
  if ended then
    match answers.clear with
    | .error error => (recovery, .error error)
    | .ok _ =>
      (recovery.finish, .ok { blockReason := some reason, commandSent := true, action := none })
  else
    match answers.stop with
    | .error error => (recovery, .error error)
    | .ok _ =>
      (recovery,
        .ok { blockReason := some reason, commandSent := true, action := some .stop })

def readStatus (recovery : PossessionRecoveryState) (status : RecoveryStatus) (body : RecoveryBody)
    (nowMs : Nat) : PossessionRecoveryState :=
  if recovery.latch = none ∧ status.safetyTripped = some true ∧ status.estopLatched ≠ some true then
    match status.safetyLatchKind.or (inferSafetyLatchFromSensors body) with
    | some kind =>
      recovery.startGeneration kind (status.safetyHazardGeneration.getD 0) body nowMs
    | none => recovery
  else recovery

/-- What is done about the recorded latch. -/
def follow (recovery : PossessionRecoveryState) (body : RecoveryBody) (status : RecoveryStatus)
    (answers : RecoveryAnswers) :
    PossessionRecoveryState × Except CockpitError PossessionRecoveryDecision :=
  match recovery.latch with
  | none => (recovery, .ok { blockReason := none, commandSent := false, action := none })
  | some latch =>
    let reason := "recovering " ++ SafetyLatchKind.debug latch ++ " safety latch"
    match latch with
    | .bump =>
      let reason :=
        if recovery.phase = .brainstemReflex then
          "brainstem contact-withdrawal reflex owns motion; possessor is observing"
        else
          "bumper recovery is delegated to the foreground Lua releasePersistentBumper skill"
      (recovery, .ok { blockReason := some reason, commandSent := false, action := none })
    | .cliff =>
      let reason :=
        "cliff recovery is delegated to the foreground Lua retreatFromCliff skill"
      (recovery, .ok { blockReason := some reason, commandSent := false, action := none })
    | .wheelDrop => recovery.clearOrStop (!body.wheelDrop) answers reason
    | .charging => recovery.clearOrStop (!body.charging) answers reason
    | .heartbeat => recovery.clearOrStop true answers reason
    | .tilt | .impact => recovery.clearOrStop (imuRecoveryClear status latch) answers reason

def applyPossessionRecovery (recovery : PossessionRecoveryState) (body : RecoveryBody)
    (events : List CockpitEvent) (status : RecoveryStatus) (answers : RecoveryAnswers)
    (nowMs : Nat) : PossessionRecoveryState × Except CockpitError PossessionRecoveryDecision :=
  let recovery := events.foldl (hearEvent body nowMs) recovery
  if status.estopLatched = some true then
    ({}, .ok
      { blockReason := some "operator E-stop is latched; explicit operator clear required"
        commandSent := false
        action := some .stop })
  else (recovery.readStatus status body nowMs).follow body status answers

/-- Whether the tick asks for the skill that recovers from the recorded latch. -/
def requestsSkill (recovery : PossessionRecoveryState) (events : List CockpitEvent) : Bool :=
  !(recovery.phase == .brainstemReflex || recovery.hazardGeneration == 0 ||
      events.any fun event =>
        event.kind == .contactWithdrawalStarted || event.kind == .safetyTripped) &&
    (recovery.latch == some .bump || recovery.latch == some .cliff)

end PossessionRecoveryState

inductive SlowPossessionMotionBlock
  | safetyLatch (latch : SafetyLatchKind)
  | commandRejected (commandId : UInt32) (reason : String)
  deriving DecidableEq, Repr

def latchFromStopReasons (reasons : List SafeStopReason) : Option SafetyLatchKind :=
  (reasons.findSome? fun reason =>
    match reason with
    | .safetyTripped latch => latch
    | _ => none).or
  (reasons.findSome? fun reason =>
    match reason with
    | .heartbeatExpired => some .heartbeat
    | _ => none)

def motionStoppedLatch : CockpitError → Option SafetyLatchKind
  | .motionStopped reasons => latchFromStopReasons reasons
  | .policy reason => if reason.startsWith "motion stopped by " then some .heartbeat else none
  | _ => none

/-- A motion as it is tried: whether anything but a recovery blocks it, whether it is a stop, and
what the cockpit answers to the stops and to the pulse. -/
structure MotionAttempt where
  blocked : Bool
  nearZero : Bool
  stop : Except CockpitError Unit
  pulse : Except CockpitError Unit

def applySlowPossessionMotor (motion : MotionAttempt) (nearZero : Bool) :
    Except CockpitError (Option SlowPossessionMotionBlock) :=
  if nearZero then motion.stop.map fun _ => none
  else
    match motion.pulse with
    | .ok _ => .ok none
    | .error (.missedEvents _) => motion.stop.map fun _ => none
    | .error error =>
      match motionStoppedLatch error, error with
      | some latch, _ => motion.stop.map fun _ => some (.safetyLatch latch)
      | none, .rejected commandId reason =>
        motion.stop.map fun _ => some (.commandRejected commandId reason)
      | none, error => .error error

/-- How a tick goes on after the recovery: it ends, the operator drives, or the mind acts. -/
inductive SlowCourse
  | ends
  | drives (motion : MotionAttempt)
  | thinks (motion : MotionAttempt) (otherSkill skillCompleted : Bool)

structure SlowTick where
  tickCount : Nat
  polled : Except CockpitError EventBatch
  gapStop : Except CockpitError Unit
  speaksFirst : Bool
  observed : Except CockpitError (RecoveryStatus × RecoveryBody)
  answers : RecoveryAnswers
  course : SlowCourse
  nowMs : Nat

namespace SlowTick

/-- `poll_slow_possession_events`: a gap in the history is answered by a stop. -/
def pollEvents (tick : SlowTick) : Except CockpitError EventBatch :=
  match tick.polled with
  | .error error => .error error
  | .ok batch =>
    if batch.droppedBeforeSeq > 0 ∧ tick.tickCount ≠ 0 then tick.gapStop.map fun _ => batch
    else .ok batch

def read (tick : SlowTick) : Option (List CockpitEvent × RecoveryStatus × RecoveryBody) :=
  match tick.pollEvents with
  | .error _ => none
  | .ok batch =>
    if tick.speaksFirst then none
    else
      match tick.observed with
      | .error _ => none
      | .ok (status, body) => some (batch.events, status, body)

/-- A motion is tried, and a refusal for a latch begins a recovery. -/
def tryMotion (tick : SlowTick) (recovery : PossessionRecoveryState) (body : RecoveryBody)
    (motion : MotionAttempt) (nearZero : Bool) : PossessionRecoveryState :=
  match applySlowPossessionMotor motion nearZero with
  | .ok (some (.safetyLatch latch)) => recovery.start latch body tick.nowMs
  | _ => recovery

def goOn (tick : SlowTick) (events : List CockpitEvent) (body : RecoveryBody)
    (recovery : PossessionRecoveryState) (decision : PossessionRecoveryDecision) :
    PossessionRecoveryState :=
  match tick.course with
  | .ends => recovery
  | .drives motion =>
    if decision.commandSent then recovery
    else
      tick.tryMotion recovery body motion
        (decision.blockReason.isSome || motion.blocked || motion.nearZero)
  | .thinks motion otherSkill skillCompleted =>
    let requested := recovery.requestsSkill events
    if requested || otherSkill then
      if requested && !decision.commandSent && skillCompleted then recovery.finish
      else recovery
    else if decision.commandSent then recovery
    else
      tick.tryMotion recovery body motion
        (decision.blockReason.isSome || motion.blocked || motion.nearZero)

/-- The recovery after a slow tick. A tick that fails keeps what it has come to. -/
def recover (tick : SlowTick) (recovery : PossessionRecoveryState) : PossessionRecoveryState :=
  match tick.read with
  | none => recovery
  | some (events, status, body) =>
    match recovery.applyPossessionRecovery body events status tick.answers tick.nowMs with
    | (recovery, .error _) => recovery
    | (recovery, .ok decision) => tick.goOn events body recovery decision

end SlowTick

end Netherwick.RealRobot
