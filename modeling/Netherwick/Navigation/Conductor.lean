import Netherwick.Actions.Primitive

/-! # The simple conductor

What the robot does next, when nobody commands it: it escapes from contact, avoids danger, looks for
the charger, follows a proposal or explores. An escape reverses, turns and probes in attempts, by what
odometry has seen of them. -/

namespace Netherwick.Navigation

open Netherwick.Actions
open Reign (TurnDir)

structure ConductorConfig where
  criticalBattery : ℚ := 0.10
  lowBattery : ℚ := 0.20
  dangerThreshold : ℚ := 0.70
  noveltyThreshold : ℚ := 0.50

inductive NavigationIntent
  | goTowardKnownCharger | remainCharging | avoidKnownDangerCell | inspectSafeNovelFrontier
  | returnToFamiliarSafeCell | stopAskForHelpWhenUncertain | followProposal | recoverFromContact
  | obeyDirectControl | explore
  deriving DecidableEq, Repr

structure NavigationGoalDecision where
  intent : NavigationIntent
  action : ActionPrimitive
  confidence : ℚ
  reason : String
  deriving DecidableEq

structure ConductorInput where
  command : Option ReignCommand := none
  wheelDrop : Bool := false
  bumpLeft : Bool := false
  bumpRight : Bool := false
  wall : Bool := false
  charging : Bool := false
  batteryLevel : ℚ := 1
  forwardMS : ℚ := 0
  xM : ℚ := 0
  headingRad : ℚ := 0
  beams : List ℚ := []
  nearestM : Option ℚ := none
  recentTrapConfidence : ℚ := 0
  placeDanger : ℚ := 0
  placeChargeValue : ℚ := 0
  placeNovelty : ℚ := 0
  nearbyBestChargeDirectionRad : Option ℚ := none
  nearbyBestSafeDirectionRad : Option ℚ := none
  nearbyFrontierDirectionRad : Option ℚ := none
  dangerAvoidance : ℚ := 0
  curiosity : ℚ := 0
  /-- `charge_model`, or else `charge_hardcoded`: the probability, and the dock likelihood. -/
  chargePrediction : Option (ℚ × ℚ) := none
  chargerNearScore : ℚ := 0
  chargerVisibleScore : ℚ := 0
  proposals : List ActionPrimitive := []

def clamp01 (value : ℚ) : ℚ := max 0 (min 1 value)

def directionFromBearing (bearingRad : ℚ) : TurnDir := if bearingRad < 0 then .right else .left

def chargeAlignmentTurn (bearingRad : ℚ) : Option TurnDir :=
  if 0.20 < |bearingRad| then some (directionFromBearing bearingRad) else none

namespace ConductorInput

variable (input : ConductorInput)

def reignAction : Option ActionPrimitive := input.command.bind ReignCommand.toAction

def contactRecoveryTriggered : Bool := input.bumpLeft || input.bumpRight || input.wall

def clearerTurnDirection : TurnDir :=
  if clearance (leftBeams input.beams) < clearance (rightBeams input.beams) then .right else .left

def contactTurnDirection : TurnDir :=
  if input.bumpLeft && !input.bumpRight then .right
  else if input.bumpRight && !input.bumpLeft then .left
  else input.clearerTurnDirection

def crampedAndNotAdvancing : Bool :=
  (match input.nearestM with
    | some nearest => nearest < 0.35
    | none => false) && |input.forwardMS| < 0.02

def sideEscapeGap : Bool :=
  !input.beams.isEmpty &&
    0.75 ≤ max ((leftBeams input.beams).foldl max 0) ((rightBeams input.beams).foldl max 0)

def centerClearance : ℚ := clearance (centerBeams input.beams)

def chargerGoalConfidence : ℚ :=
  clamp01 (max (max (max input.chargerNearScore input.chargerVisibleScore) input.placeChargeValue)
    (input.chargePrediction.getD (0, 0)).1)

end ConductorInput

structure ChargeContext where
  chargingEstablished : Bool
  dockPlausible : Bool
  shouldApproach : Bool
  shouldSearch : Bool

def chargeContext (input : ConductorInput) : ChargeContext :=
  let near := clamp01 input.chargerNearScore
  let visible := clamp01 input.chargerVisibleScore
  let memory := clamp01 input.placeChargeValue
  let prediction := input.chargePrediction.getD (0, 0)
  let predictionProbability := clamp01 prediction.1
  let dockLikelihood := clamp01 prediction.2
  let chargingEstablished := input.charging
  let dockPlausible := decide (0.92 ≤ near) || decide (0.80 ≤ near) && decide (0.85 ≤ dockLikelihood)
  let shouldApproach := !chargingEstablished && !dockPlausible &&
    (decide (0.20 ≤ visible) || decide (0.25 ≤ near) || decide (0.5 < memory) ||
      decide (0.70 ≤ predictionProbability))
  let shouldSearch := !chargingEstablished && !dockPlausible && !shouldApproach &&
    (decide (input.batteryLevel ≤ 0.20) || decide (0.25 ≤ memory) ||
      decide (0.35 ≤ predictionProbability))
  ⟨chargingEstablished, dockPlausible, shouldApproach, shouldSearch⟩

def navigationGoal (intent : NavigationIntent) (action : ActionPrimitive) (confidence : ℚ)
    (reason : String) : NavigationGoalDecision :=
  ⟨intent, action, clamp01 confidence, reason⟩

def criticalBatteryChargeGoal (input : ConductorInput) (context : ChargeContext) :
    NavigationGoalDecision :=
  if context.dockPlausible then
    navigationGoal .goTowardKnownCharger .dock 0.95
      "critical battery and charger contact is plausible"
  else if context.shouldApproach then
    navigationGoal .goTowardKnownCharger (.approach .charger) (max input.chargerGoalConfidence 0.7)
      "critical battery and charger signal is strong enough to approach"
  else match input.nearbyBestChargeDirectionRad with
    | some bearing =>
      navigationGoal .goTowardKnownCharger (.turn (directionFromBearing bearing) 0.35 700)
        (max input.chargerGoalConfidence 0.35)
        ("critical battery and remembered charger bearing " ++ fixed2 bearing ++ " rad")
    | none =>
      navigationGoal .stopAskForHelpWhenUncertain .stop 0.2
        "critical battery but no charger memory, sensor, or map direction is reliable"

inductive RecoveryStep
  | idle | reverse | turn | probe | inspect | stuck
  deriving DecidableEq, Repr

structure RecoveryState where
  step : RecoveryStep := .idle
  remainingTicks : Nat := 0
  turnDirection : Option TurnDir := none
  attempt : Nat := 0
  phaseOriginDistanceM : ℚ := 0
  phaseOriginHeadingRad : ℚ := 0
  stalledPhases : Nat := 0
  deriving DecidableEq

structure RecoveryDecision where
  action : ActionPrimitive
  reason : String
  deriving DecidableEq

def recoveryMaxAttempts : Nat := 3
def recoveryReverseBaseTargetM : ℚ := 0.08
def recoveryReverseTargetStepM : ℚ := 0.04
def recoveryReverseMaxTicks : Nat := 45
def recoveryTurnTargetRad : ℚ := 1.57
def recoveryTurnMinUsefulRad : ℚ := 0.30
def recoveryTurnMaxTicks : Nat := 45
def recoveryProbeTargetM : ℚ := 0.05
def recoveryProbeMaxTicks : Nat := 20

def turnName : TurnDir → String
  | .left => "Left"
  | .right => "Right"

namespace RecoveryState

variable (recovery : RecoveryState) (input : ConductorInput)

def direction : TurnDir := recovery.turnDirection.getD .left

def reverseTargetM : ℚ :=
  recoveryReverseBaseTargetM + (recovery.attempt - 1 : Nat) * recoveryReverseTargetStepM

def reverseProgress : ℚ := max (recovery.phaseOriginDistanceM - input.xM) 0

def forwardProgress : ℚ := max (input.xM - recovery.phaseOriginDistanceM) 0

def turnProgress : ℚ :=
  match recovery.direction with
  | .left => max (input.headingRad - recovery.phaseOriginHeadingRad) 0
  | .right => max (recovery.phaseOriginHeadingRad - input.headingRad) 0

def beginRecoveryPhase (step : RecoveryStep) : RecoveryState :=
  { recovery with
    step := step
    remainingTicks := match step with
      | .reverse => recoveryReverseMaxTicks
      | .turn => recoveryTurnMaxTicks
      | .probe => recoveryProbeMaxTicks
      | .inspect => 1
      | .stuck => 0
      | .idle => 0
    phaseOriginDistanceM := input.xM
    phaseOriginHeadingRad := input.headingRad }

def opposite : TurnDir → TurnDir
  | .left => .right
  | .right => .left

/-- The next attempt from the start, or what is there once the attempts are used up. -/
def beginEscalatedRecoveryAttempt : RecoveryState × Bool :=
  if recoveryMaxAttempts ≤ recovery.attempt then (recovery, false)
  else
    let next := { recovery with
      attempt := min 255 (recovery.attempt + 1)
      turnDirection := some (opposite recovery.direction) }
    (next.beginRecoveryPhase input .reverse, true)

def stalled : RecoveryState := { recovery with stalledPhases := min 255 (recovery.stalledPhases + 1) }

def escalateOrStick : RecoveryState :=
  let escalated := recovery.beginEscalatedRecoveryAttempt input
  if escalated.2 then escalated.1 else escalated.1.beginRecoveryPhase input .stuck

def ticked : RecoveryState := { recovery with remainingTicks := recovery.remainingTicks - 1 }

/-- One round of the loop: a transition after which it goes on, or what it returns. -/
inductive Round
  | goOn (recovery : RecoveryState)
  | done (recovery : RecoveryState) (decision : Option RecoveryDecision)

def reverseRound : Round :=
  let progressM := recovery.reverseProgress input
  let targetM := recovery.reverseTargetM
  if targetM ≤ progressM ∨ recovery.remainingTicks = 0 then
    let recovery := if progressM < 0.01 then recovery.stalled else recovery
    .goOn (recovery.beginRecoveryPhase input .turn)
  else
    .done recovery.ticked (some
      { action := .go (-0.05) 500
        reason := "escape attempt " ++ toString recovery.attempt ++ " reversing: " ++
          fixed0 (progressM * 1000) ++ "/" ++ fixed0 (targetM * 1000) ++ " mm observed odometry" })

def turnRound : Round :=
  let progressRad := recovery.turnProgress input
  if recoveryTurnTargetRad ≤ progressRad ∨ recovery.remainingTicks = 0 then
    if progressRad < recoveryTurnMinUsefulRad then
      .goOn (recovery.stalled.escalateOrStick input)
    else .goOn (recovery.beginRecoveryPhase input .probe)
  else
    .done recovery.ticked (some
      { action := .turn recovery.direction 0.5 500
        reason := "escape attempt " ++ toString recovery.attempt ++ " turning " ++
          turnName recovery.direction ++ ": " ++ fixed0 (progressRad * 1000) ++ "/" ++
          fixed0 (recoveryTurnTargetRad * 1000) ++ " mrad observed heading" })

def probeRound : Round :=
  let progressM := recovery.forwardProgress input
  let closeAhead := decide (input.centerClearance < 0.30)
  if recoveryProbeTargetM ≤ progressM ∧ ¬closeAhead then
    .goOn (recovery.beginRecoveryPhase input .inspect)
  else if closeAhead ∨ recovery.remainingTicks = 0 then
    let recovery := if progressM < 0.01 then recovery.stalled else recovery
    .goOn (recovery.escalateOrStick input)
  else
    .done recovery.ticked (some
      { action := .go 0.05 500
        reason := "escape attempt " ++ toString recovery.attempt ++ " probing: " ++
          fixed0 (progressM * 1000) ++ "/" ++ fixed0 (recoveryProbeTargetM * 1000) ++
          " mm observed odometry" })

def round : Round :=
  match recovery.step with
  | .idle => .done recovery none
  | .reverse => recovery.reverseRound input
  | .turn => recovery.turnRound input
  | .probe => recovery.probeRound input
  | .inspect => .done {} (some
      { action := .inspect .novelty
        reason := "escape completed with observed reverse, turn, and probe progress" })
  | .stuck => .done recovery (some
      { action := .stop
        reason := "escape stopped after " ++ toString recovery.attempt ++ " attempts and " ++
          toString recovery.stalledPhases ++
          " stalled odometry phases; no mechanically useful progress observed" })

/-- The loop, with a bound on its rounds: nothing when the bound is met. -/
def nextRecoveryAction (input : ConductorInput) :
    Nat → RecoveryState → Option (RecoveryState × Option RecoveryDecision)
  | 0, _ => none
  | rounds + 1, recovery => match recovery.round input with
      | .done recovery decision => some (recovery, decision)
      | .goOn recovery => nextRecoveryAction input rounds recovery

end RecoveryState

def startContactRecovery (input : ConductorInput) (turnDirection : TurnDir) : RecoveryState where
  step := .reverse
  remainingTicks := recoveryReverseMaxTicks
  turnDirection := some turnDirection
  attempt := 1
  phaseOriginDistanceM := input.xM
  phaseOriginHeadingRad := input.headingRad

def startRangeRecovery (input : ConductorInput) (turnDirection : TurnDir) : RecoveryState where
  step := .turn
  remainingTicks := recoveryTurnMaxTicks
  turnDirection := some turnDirection
  attempt := 1
  phaseOriginDistanceM := input.xM
  phaseOriginHeadingRad := input.headingRad

/-- What comes before recovery, and resets it. -/
def overriding (config : ConductorConfig) (input : ConductorInput) :
    Option NavigationGoalDecision :=
  match input.reignAction with
  | some action =>
    some (navigationGoal .obeyDirectControl action 1 "direct Reign command is active")
  | none =>
    if input.wheelDrop then
      some (navigationGoal .stopAskForHelpWhenUncertain .stop 1
        "wheel drop safety signal requires stopping")
    else if input.charging then
      some (navigationGoal .remainCharging .stop 1
        "charging is already established; remain stationary")
    else if (chargeContext input).chargingEstablished then
      some (navigationGoal .remainCharging .stop 1
        "charging is already established; remain stationary")
    else if input.batteryLevel ≤ config.criticalBattery then
      some (criticalBatteryChargeGoal input (chargeContext input))
    else none

def triggered (input : ConductorInput) (recovery : RecoveryState) : RecoveryState :=
  if recovery.step = .idle then
    if input.contactRecoveryTriggered then startContactRecovery input input.contactTurnDirection
    else if input.crampedAndNotAdvancing then
      if input.sideEscapeGap then startContactRecovery input input.clearerTurnDirection
      else startRangeRecovery input input.clearerTurnDirection
    else recovery
  else recovery

/-- What a low battery asks for, when it asks for anything. -/
def lowBatteryGoal (config : ConductorConfig) (input : ConductorInput) :
    Option NavigationGoalDecision :=
  let context := chargeContext input
  if config.lowBattery < input.batteryLevel then none
  else if context.dockPlausible then
    some (navigationGoal .goTowardKnownCharger .dock 0.95
      "charger contact is plausible from proximity and dock prediction")
  else if context.shouldApproach then
    match input.nearbyBestChargeDirectionRad.bind chargeAlignmentTurn with
    | some direction =>
      some (navigationGoal .goTowardKnownCharger (.turn direction 0.4 700)
        input.chargerGoalConfidence
        ("charger memory/sensor signal says align toward bearing " ++
          fixed2 (input.nearbyBestChargeDirectionRad.getD 0) ++ " rad"))
    | none =>
      some (navigationGoal .goTowardKnownCharger (.approach .charger) input.chargerGoalConfidence
        "charger signal is present or remembered and bearing is aligned")
  else if context.shouldSearch then
    match input.nearbyBestChargeDirectionRad with
    | some bearing =>
      some (navigationGoal .goTowardKnownCharger (.turn (directionFromBearing bearing) 0.35 700)
        (max input.chargerGoalConfidence 0.35)
        ("low-confidence charger memory suggests bearing " ++ fixed2 bearing ++ " rad"))
    | none =>
      some (navigationGoal .explore (.explore .wander 1000) 0.25
        "battery is low but no charger bearing is known")
  else none

def trapGoal (input : ConductorInput) : Option NavigationGoalDecision :=
  if 0.6 ≤ input.recentTrapConfidence then
    input.nearbyBestSafeDirectionRad.map fun direction =>
      navigationGoal .returnToFamiliarSafeCell (.turn (directionFromBearing direction) 0.55 800)
        (clamp01 input.recentTrapConfidence)
        ("recent trap memory points to safe bearing " ++ fixed2 direction ++ " rad")
  else none

def dangerGoal (config : ConductorConfig) (input : ConductorInput) :
    Option NavigationGoalDecision :=
  if config.dangerThreshold ≤ input.placeDanger ∨ config.dangerThreshold ≤ input.dangerAvoidance then
    let confidence := clamp01 (max input.placeDanger input.dangerAvoidance)
    match input.nearbyBestSafeDirectionRad with
    | some bearing =>
      some (navigationGoal .avoidKnownDangerCell (.turn (directionFromBearing bearing) 0.5 1000)
        confidence ("danger memory marks this place and safe bearing " ++ fixed2 bearing ++ " rad"))
    | none =>
      some (navigationGoal .avoidKnownDangerCell (.turn input.clearerTurnDirection 0.5 1000)
        confidence "danger signal is high; using range clearance as map hint")
  else none

def noveltyGoal (config : ConductorConfig) (input : ConductorInput) :
    Option NavigationGoalDecision :=
  if config.noveltyThreshold ≤ input.curiosity ∨
      config.noveltyThreshold ≤ input.placeNovelty ∧ input.placeDanger < config.dangerThreshold then
    let confidence := clamp01 (max input.placeNovelty input.curiosity)
    match input.nearbyFrontierDirectionRad with
    | some direction =>
      some (navigationGoal .inspectSafeNovelFrontier
        (.turn (directionFromBearing direction) 0.35 500) confidence
        ("safe novelty memory points to frontier bearing " ++ fixed2 direction ++ " rad"))
    | none =>
      some (navigationGoal .inspectSafeNovelFrontier (.inspect .novelty) confidence
        "place is novel and not remembered as dangerous")
  else none

def proposalGoal (input : ConductorInput) : Option NavigationGoalDecision :=
  input.proposals.getLast?.map fun action =>
    navigationGoal .followProposal action 0.5 "using latest typed action proposal"

/-- What the conductor does when it has nothing to recover from. -/
def undisturbedGoal (config : ConductorConfig) (input : ConductorInput) : NavigationGoalDecision :=
  ((((trapGoal input).or (dangerGoal config input)).or (lowBatteryGoal config input)).or
    ((proposalGoal input).or (noveltyGoal config input))).getD
      (navigationGoal .explore (.explore .randomWalk 1000) 0.3
        "no strong memory, map, or drive signal")

/-- What a call does to the recovery, and what it decides. The rounds of the loop are bounded. -/
def chooseWithNavigationGoal (rounds : Nat) (config : ConductorConfig) (recovery : RecoveryState)
    (input : ConductorInput) : Option (RecoveryState × NavigationGoalDecision) :=
  match overriding config input with
  | some decision => some ({}, decision)
  | none =>
    ((triggered input recovery).nextRecoveryAction input rounds).map fun outcome =>
      match outcome with
      | (recovery, some decision) =>
        (recovery, navigationGoal .recoverFromContact decision.action 0.9 decision.reason)
      | (recovery, none) => (recovery, undisturbedGoal config input)

end Netherwick.Navigation
