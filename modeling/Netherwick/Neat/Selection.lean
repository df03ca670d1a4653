import Mathlib.Data.Rat.Floor
import Netherwick.Lib.Assign
import Netherwick.Lib.Fronts

/-! # Constrained selection

Candidates that violate a constraint come after those that violate none. The others are ranked by the
front in which they come, and within a front by how far they are from their neighbours. -/

namespace Netherwick.Neat

open Netherwick.Lib

structure SelectionConstraints where
  maximumSafetyInvariantViolations : Nat := 0
  maximumCollisionRate : ℚ := 0.10
  minimumEscapeRate : ℚ := 0
  maximumSafetyVetoRate : ℚ := 1

/-- A rate between zero and one. -/
structure Rate where
  value : ℚ
  nonneg : 0 ≤ value
  le_one : value ≤ 1

/-- What an evaluation tells of a genome. An energy that is not finite is `none`. -/
structure FitnessTraits where
  exploration : ℚ
  escapeRate : Rate
  collisionRate : Rate
  energyUse : Option ℚ
  forwardProgress : ℚ
  repetitionRate : Rate
  worstEnvironmentScore : ℚ
  safetyVetoRate : Rate
  safetyInvariantViolations : Nat

inductive SelectionObjective where
  | escapeRate | exploration | efficiency | forwardProgress | worstEnvironment
  | collisionAvoidance | lowEnergy | lowRepetition | lowSafetyVeto

open SelectionObjective in
def selectionObjectives : List SelectionObjective :=
  [escapeRate, exploration, efficiency, forwardProgress, worstEnvironment, collisionAvoidance,
    lowEnergy, lowRepetition, lowSafetyVeto]

namespace FitnessTraits

variable (traits : FitnessTraits)

/-- The value of an objective; one that is not finite counts as zero. -/
def objective : SelectionObjective → ℚ
  | .escapeRate => traits.escapeRate.value
  | .exploration => traits.exploration
  | .efficiency => (traits.energyUse.map fun energyUse =>
    (traits.exploration + traits.forwardProgress) / (1 + energyUse)).getD 0
  | .forwardProgress => traits.forwardProgress
  | .worstEnvironment => traits.worstEnvironmentScore
  | .collisionAvoidance => -traits.collisionRate.value
  | .lowEnergy => (traits.energyUse.map fun energyUse => -energyUse).getD 0
  | .lowRepetition => -traits.repetitionRate.value
  | .lowSafetyVeto => -traits.safetyVetoRate.value

/-- At least as good in every objective, and better in one. -/
def dominates (left right : FitnessTraits) : Bool :=
  (selectionObjectives.all fun objective => right.objective objective ≤ left.objective objective) &&
    selectionObjectives.any fun objective => right.objective objective < left.objective objective

end FitnessTraits

section Constraints

variable (constraints : SelectionConstraints) (traits : FitnessTraits)

def safetyExcess : Nat :=
  traits.safetyInvariantViolations - constraints.maximumSafetyInvariantViolations

def vetoExcess : ℚ := max (traits.safetyVetoRate.value - constraints.maximumSafetyVetoRate) 0

def collisionExcess : ℚ := max (traits.collisionRate.value - constraints.maximumCollisionRate) 0

def escapeDeficit : ℚ := max (constraints.minimumEscapeRate - traits.escapeRate.value) 0

def constraintViolationScore : ℚ :=
  if 0 < safetyExcess constraints traits then 10000 + safetyExcess constraints traits
  else if 0 < vetoExcess constraints traits then 5000 + vetoExcess constraints traits * 1000
  else if 0 < collisionExcess constraints traits then
    1000 + collisionExcess constraints traits * 1000
  else if 0 < escapeDeficit constraints traits then 100 + escapeDeficit constraints traits * 100
  else 0

def clampTo (high value : ℚ) : ℚ := max 0 (min high value)

def infeasibleTiebreak : ℚ :=
  let exploration := clampTo 1 (traits.exploration / 28)
  let progress := clampTo 1 (traits.forwardProgress / 20)
  let lowRepetition := clampTo 1 (1 - traits.repetitionRate.value)
  let lowVeto := clampTo 1 (1 - traits.safetyVetoRate.value)
  clampTo 0.99 (0.40 * clampTo 1 traits.escapeRate.value + 0.20 * exploration + 0.15 * progress +
    0.15 * lowRepetition + 0.10 * lowVeto)

end Constraints

variable (traits : List FitnessTraits)

/-- Whether one candidate dominates another; both are places of the list. -/
def beats (other candidate : Nat) : Bool :=
  match traits[other]?, traits[candidate]? with
  | some left, some right => other ≠ candidate && left.dominates right
  | _, _ => false

def paretoFronts (candidates : List Nat) : List (List Nat) := peel (beats traits) candidates

/-- A distance that is `none` is infinite. -/
abbrev Distance := Option ℚ

/-- `f32::EPSILON`. -/
def epsilon : ℚ := 1 / 8388608

/-- Every inner member of the order is as far as its neighbours are from each other. -/
def spread (span : ℚ) : List (Nat × ℚ) → List Distance → List Distance
  | previous :: current :: next :: rest, distances =>
    spread span (current :: next :: rest)
      (distances.modify current.1 fun distance =>
        distance.map fun distance => distance + |next.2 - previous.2| / |span|)
  | _, distances => distances

def crowdObjective (front : List Nat) (distances : List Distance)
    (objective : SelectionObjective) : List Distance :=
  let valued := front.zipIdx.map fun member =>
    (member.2, ((traits[member.1]?).map fun traits => traits.objective objective).getD 0)
  let ordered := valued.mergeSort fun left right => left.2 ≤ right.2
  match ordered.head?, ordered.getLast? with
  | some first, some last =>
    let bounded := (distances.set first.1 none).set last.1 none
    if |last.2 - first.2| ≤ epsilon then bounded else spread (last.2 - first.2) ordered bounded
  | _, _ => distances

def crowdingDistances (front : List Nat) : List Distance :=
  if front.length ≤ 2 then List.replicate front.length none
  else selectionObjectives.foldl (crowdObjective traits front)
    (List.replicate front.length (some 0))

def normalizedCrowdingBonus (distance : Distance) : ℚ := (distance.map (clampTo 1)).getD 1

structure SelectionSummary where
  fitness : ℚ := 0
  constraintViolations : Nat := 0
  stageSuccessRate : ℚ := 0
  prerequisiteFloor : ℚ := 0
  stageScore : ℚ := 0
  paretoFront : Nat := 0xFFFFFFFF
  crowdingDistance : Distance := some 0

def infeasibleSummary (violation : ℚ) (traits : FitnessTraits) : SelectionSummary where
  fitness := -violation + infeasibleTiebreak traits
  constraintViolations := ⌈violation⌉.toNat

def frontSummary (frontCount frontIndex : Nat) (distance : Distance) : SelectionSummary where
  fitness := 1000 + (max frontCount 1 - frontIndex : ℚ) * 100 + normalizedCrowdingBonus distance * 50
  paretoFront := frontIndex
  crowdingDistance := distance

variable (constraints : SelectionConstraints)

def feasibleCandidates : List Nat :=
  (traits.zipIdx.filter fun entry => constraintViolationScore constraints entry.1 = 0).map Prod.snd

def infeasibleWrites : List (Nat × SelectionSummary) :=
  (traits.zipIdx.filter fun entry => 0 < constraintViolationScore constraints entry.1).map
    fun entry => (entry.2, infeasibleSummary (constraintViolationScore constraints entry.1) entry.1)

def frontWrites (fronts : List (List Nat)) : List (Nat × SelectionSummary) :=
  fronts.zipIdx.flatMap fun entry =>
    (entry.1.zip (crowdingDistances traits entry.1)).map fun member =>
      (member.1, frontSummary fronts.length entry.2 member.2)

def selectionSummaries : List SelectionSummary :=
  assign (assign (List.replicate traits.length {}) (infeasibleWrites traits constraints))
    (frontWrites traits (paretoFronts traits (feasibleCandidates traits constraints)))

def rankFitness : List ℚ := (selectionSummaries traits constraints).map SelectionSummary.fitness

end Netherwick.Neat
