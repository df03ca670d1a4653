import Mathlib.Tactic.Linarith
import Mathlib.Tactic.NormNum
import Netherwick.Neat.Selection

/-! # The ranking

Feasible candidates are above all others, and a candidate is above what it dominates. The constraint
classes keep apart as long as the thresholds are anywhere near the rates that they bound. -/

namespace Netherwick.Neat

open Netherwick.Lib

/-- The constraint that a candidate is punished for, the worst first. -/
inductive ConstraintClass where
  | safety | veto | collision | escape
  deriving DecidableEq

def ConstraintClass.severity : ConstraintClass → Nat
  | .safety => 3
  | .veto => 2
  | .collision => 1
  | .escape => 0

/-- No penalty of the class is smaller. -/
def ConstraintClass.least : ConstraintClass → ℚ
  | .safety => 10001
  | .veto => 5000
  | .collision => 1000
  | .escape => 100

def constraintClass (constraints : SelectionConstraints) (traits : FitnessTraits) :
    Option ConstraintClass :=
  if constraints.maximumSafetyInvariantViolations < traits.safetyInvariantViolations then
    some .safety
  else if constraints.maximumSafetyVetoRate < traits.safetyVetoRate.value then some .veto
  else if constraints.maximumCollisionRate < traits.collisionRate.value then some .collision
  else if traits.escapeRate.value < constraints.minimumEscapeRate then some .escape
  else none

def penalty (constraints : SelectionConstraints) (traits : FitnessTraits) : ConstraintClass → ℚ
  | .safety => 10000 + safetyExcess constraints traits
  | .veto => 5000 + vetoExcess constraints traits * 1000
  | .collision => 1000 + collisionExcess constraints traits * 1000
  | .escape => 100 + escapeDeficit constraints traits * 100

/-- Thresholds for which the penalties of the classes do not overlap; those between zero and one are
such. -/
structure SelectionConstraints.Separated (constraints : SelectionConstraints) : Prop where
  escape : constraints.minimumEscapeRate ≤ 8.99
  collision : -2.999 ≤ constraints.maximumCollisionRate
  veto : -4 ≤ constraints.maximumSafetyVetoRate

section Score

variable {constraints : SelectionConstraints} {traits : FitnessTraits}

theorem clampTo_nonneg (high value : ℚ) : 0 ≤ clampTo high value := le_max_left _ _

theorem clampTo_le {high : ℚ} (value : ℚ) (h : 0 ≤ high) : clampTo high value ≤ high :=
  max_le h (min_le_left _ _)

theorem infeasibleTiebreak_nonneg (traits : FitnessTraits) : 0 ≤ infeasibleTiebreak traits :=
  clampTo_nonneg _ _

theorem infeasibleTiebreak_le (traits : FitnessTraits) : infeasibleTiebreak traits ≤ 0.99 :=
  clampTo_le _ (by norm_num)

theorem max_sub_pos_iff {a b : ℚ} : 0 < max (a - b) 0 ↔ b < a := by
  rw [lt_max_iff, sub_pos]
  simp

theorem score_eq (constraints : SelectionConstraints) (traits : FitnessTraits) :
    constraintViolationScore constraints traits =
      ((constraintClass constraints traits).map (penalty constraints traits)).getD 0 := by
  have hsafety : 0 < safetyExcess constraints traits ↔
      constraints.maximumSafetyInvariantViolations < traits.safetyInvariantViolations :=
    Nat.sub_pos_iff_lt
  have hveto : 0 < vetoExcess constraints traits ↔
      constraints.maximumSafetyVetoRate < traits.safetyVetoRate.value := max_sub_pos_iff
  have hcollision : 0 < collisionExcess constraints traits ↔
      constraints.maximumCollisionRate < traits.collisionRate.value := max_sub_pos_iff
  have hescape : 0 < escapeDeficit constraints traits ↔
      traits.escapeRate.value < constraints.minimumEscapeRate := max_sub_pos_iff
  rw [constraintViolationScore, constraintClass]
  simp only [hsafety, hveto, hcollision, hescape]
  split
  · rfl
  · split
    · rfl
    · split
      · rfl
      · split <;> rfl

theorem constraintClass_safety (h : constraintClass constraints traits = some .safety) :
    constraints.maximumSafetyInvariantViolations < traits.safetyInvariantViolations := by
  rw [constraintClass] at h
  by_contra hsafety
  rw [if_neg hsafety] at h
  split at h
  · cases h
  · split at h
    · cases h
    · split at h <;> cases h

theorem least_le_penalty {violated : ConstraintClass}
    (h : constraintClass constraints traits = some violated) :
    violated.least ≤ penalty constraints traits violated := by
  cases violated with
  | safety =>
    have hexcess : (1 : ℚ) ≤ safetyExcess constraints traits := by
      exact_mod_cast Nat.sub_pos_of_lt (constraintClass_safety h)
    rw [ConstraintClass.least, penalty]
    linarith
  | veto =>
    have hexcess : 0 ≤ vetoExcess constraints traits := le_max_right _ _
    rw [ConstraintClass.least, penalty]
    linarith
  | collision =>
    have hexcess : 0 ≤ collisionExcess constraints traits := le_max_right _ _
    rw [ConstraintClass.least, penalty]
    linarith
  | escape =>
    have hdeficit : 0 ≤ escapeDeficit constraints traits := le_max_right _ _
    rw [ConstraintClass.least, penalty]
    linarith

theorem penalty_lt_least (hseparated : constraints.Separated) (traits : FitnessTraits)
    {milder worse : ConstraintClass} (h : milder.severity < worse.severity) :
    penalty constraints traits milder + 0.99 < worse.least := by
  have hveto : vetoExcess constraints traits ≤ 5 :=
    max_le (by linarith [traits.safetyVetoRate.le_one, hseparated.veto]) (by norm_num)
  have hcollision : collisionExcess constraints traits ≤ 3.999 :=
    max_le (by linarith [traits.collisionRate.le_one, hseparated.collision]) (by norm_num)
  have hescape : escapeDeficit constraints traits ≤ 8.99 :=
    max_le (by linarith [traits.escapeRate.nonneg, hseparated.escape]) (by norm_num)
  cases worse with
  | safety =>
    cases milder with
    | safety => simp [ConstraintClass.severity] at h
    | veto =>
      rw [ConstraintClass.least, penalty]
      linarith
    | collision =>
      rw [ConstraintClass.least, penalty]
      linarith
    | escape =>
      rw [ConstraintClass.least, penalty]
      linarith
  | veto =>
    cases milder with
    | safety => simp [ConstraintClass.severity] at h
    | veto => simp [ConstraintClass.severity] at h
    | collision =>
      rw [ConstraintClass.least, penalty]
      linarith
    | escape =>
      rw [ConstraintClass.least, penalty]
      linarith
  | collision =>
    cases milder with
    | safety => simp [ConstraintClass.severity] at h
    | veto => simp [ConstraintClass.severity] at h
    | collision => simp [ConstraintClass.severity] at h
    | escape =>
      rw [ConstraintClass.least, penalty]
      linarith
  | escape => simp [ConstraintClass.severity] at h

theorem le_score {violated : ConstraintClass}
    (h : constraintClass constraints traits = some violated) :
    100 ≤ constraintViolationScore constraints traits := by
  have hleast : 100 ≤ violated.least := by
    cases violated <;> norm_num [ConstraintClass.least]
  rw [score_eq, h]
  exact hleast.trans (least_le_penalty h)

end Score

namespace FitnessTraits

variable {a b c : FitnessTraits}

theorem dominates_iff : a.dominates b = true ↔
    (∀ objective ∈ selectionObjectives, b.objective objective ≤ a.objective objective) ∧
      ∃ objective ∈ selectionObjectives, b.objective objective < a.objective objective := by
  simp [dominates]

theorem dominates_irrefl (a : FitnessTraits) : a.dominates a = false := by
  rw [Bool.eq_false_iff, Ne, dominates_iff]
  rintro ⟨-, objective, -, hlt⟩
  exact lt_irrefl _ hlt

theorem dominates_trans (hab : a.dominates b = true) (hbc : b.dominates c = true) :
    a.dominates c = true := by
  rw [dominates_iff] at hab hbc ⊢
  obtain ⟨objective, hmem, hlt⟩ := hab.2
  constructor
  · exact fun objective hobjective => (hbc.1 objective hobjective).trans (hab.1 objective hobjective)
  · exact ⟨objective, hmem, (hbc.1 objective hmem).trans_lt hlt⟩

end FitnessTraits

section Beats

variable {traits : List FitnessTraits} {x y z : Nat}

theorem beats_iff : beats traits x y = true ↔ ∃ left ∈ traits[x]?, ∃ right ∈ traits[y]?,
    x ≠ y ∧ left.dominates right = true := by
  rw [beats]
  cases traits[x]? <;> cases traits[y]? <;> simp

theorem beats_irrefl (traits : List FitnessTraits) (x : Nat) : beats traits x x = false := by
  rw [Bool.eq_false_iff, Ne, beats_iff]
  rintro ⟨left, -, right, -, hne, -⟩
  exact hne rfl

theorem beats_trans (traits : List FitnessTraits) (x y z : Nat) (hxy : beats traits x y = true)
    (hyz : beats traits y z = true) : beats traits x z = true := by
  rw [beats_iff] at hxy hyz ⊢
  obtain ⟨left, hleft, middle, hmiddle, -, hfirst⟩ := hxy
  obtain ⟨middle', hmiddle', right, hright, -, hsecond⟩ := hyz
  obtain rfl : middle = middle' := Option.some.inj (hmiddle.symm.trans hmiddle')
  have hdominates := FitnessTraits.dominates_trans hfirst hsecond
  refine ⟨left, hleft, right, hright, ?_, hdominates⟩
  rintro rfl
  obtain rfl : left = right := Option.some.inj (hleft.symm.trans hright)
  rw [FitnessTraits.dominates_irrefl] at hdominates
  cases hdominates

end Beats

section Writes

variable {traits : List FitnessTraits} {constraints : SelectionConstraints} {place : Nat}
  {candidate : FitnessTraits}

theorem mem_feasibleCandidates : place ∈ feasibleCandidates traits constraints ↔
    ∃ candidate, traits[place]? = some candidate ∧
      constraintViolationScore constraints candidate = 0 := by
  simp [feasibleCandidates, List.mem_zipIdx_iff_getElem?]

theorem nodup_zipIdx (traits : List FitnessTraits) : (traits.zipIdx.map Prod.snd).Nodup := by
  rw [List.zipIdx_map_snd]
  exact List.nodup_range'

theorem nodup_feasibleCandidates (traits : List FitnessTraits)
    (constraints : SelectionConstraints) : (feasibleCandidates traits constraints).Nodup :=
  (nodup_zipIdx traits).sublist (List.filter_sublist.map _)

theorem keys_infeasibleWrites : (infeasibleWrites traits constraints).map Prod.fst =
    (traits.zipIdx.filter fun entry => 0 < constraintViolationScore constraints entry.1).map
      Prod.snd := by
  simp [infeasibleWrites, Function.comp_def]

theorem mem_infeasibleWrites (hplace : traits[place]? = some candidate)
    (h : 0 < constraintViolationScore constraints candidate) :
    (place, infeasibleSummary (constraintViolationScore constraints candidate) candidate) ∈
      infeasibleWrites traits constraints := by
  refine List.mem_map.mpr ⟨(candidate, place), List.mem_filter.mpr ⟨?_, by simpa using h⟩, rfl⟩
  simpa [List.mem_zipIdx_iff_getElem?] using hplace

/-! ### Crowding -/

theorem length_spread (span : ℚ) (ordered : List (Nat × ℚ)) (distances : List Distance) :
    (spread span ordered distances).length = distances.length := by
  induction ordered generalizing distances with
  | nil => rfl
  | cons previous ordered ih =>
    cases ordered with
    | nil => rfl
    | cons current ordered =>
      cases ordered with
      | nil => rfl
      | cons next ordered =>
        rw [spread, ih, List.length_modify]

theorem length_crowdObjective (front : List Nat) (distances : List Distance)
    (objective : SelectionObjective) :
    (crowdObjective traits front distances objective).length = distances.length := by
  rw [crowdObjective]
  split
  · split
    · simp
    · simp [length_spread]
  · rfl

theorem length_crowdingDistances (front : List Nat) :
    (crowdingDistances traits front).length = front.length := by
  rw [crowdingDistances]
  by_cases hfew : front.length ≤ 2
  · rw [if_pos hfew, List.length_replicate]
  · rw [if_neg hfew]
    have hfold : ∀ (objectives : List SelectionObjective) (distances : List Distance),
        (objectives.foldl (crowdObjective traits front) distances).length = distances.length := by
      intro objectives
      induction objectives with
      | nil => exact fun _ => rfl
      | cons objective objectives ih =>
        intro distances
        rw [List.foldl_cons, ih, length_crowdObjective]
    rw [hfold, List.length_replicate]

theorem normalizedCrowdingBonus_nonneg (distance : Distance) :
    0 ≤ normalizedCrowdingBonus distance := by
  cases distance with
  | none => exact zero_le_one
  | some distance => exact clampTo_nonneg 1 distance

theorem normalizedCrowdingBonus_le (distance : Distance) :
    normalizedCrowdingBonus distance ≤ 1 := by
  cases distance with
  | none => exact le_refl 1
  | some distance => exact clampTo_le distance zero_le_one

/-! ### Fronts -/

theorem keys_frontWrites (fronts : List (List Nat)) :
    (frontWrites traits fronts).map Prod.fst = fronts.flatten := by
  have hkeys : ∀ front : List Nat,
      (front.zip (crowdingDistances traits front)).map Prod.fst = front :=
    fun front => List.map_fst_zip (length_crowdingDistances front).ge
  rw [frontWrites, List.map_flatMap]
  simp only [List.map_map, Function.comp_def]
  rw [List.flatMap_def]
  have hfronts : fronts.zipIdx.map (fun entry =>
      (entry.1.zip (crowdingDistances traits entry.1)).map fun member => member.1) =
        fronts.zipIdx.map Prod.fst :=
    List.map_congr_left fun entry _ => hkeys entry.1
  rw [hfronts, List.zipIdx_map_fst]

theorem mem_frontWrites {fronts : List (List Nat)} {front : List Nat} {index : Nat}
    (hfront : fronts[index]? = some front) (hplace : place ∈ front) :
    ∃ distance, (place, frontSummary fronts.length index distance) ∈
      frontWrites traits fronts := by
  obtain ⟨position, hposition⟩ := List.getElem?_of_mem hplace
  have hlt : position < (crowdingDistances traits front).length := by
    rw [length_crowdingDistances]
    exact (List.getElem?_eq_some_iff.mp hposition).1
  obtain ⟨distance, hdistance⟩ : ∃ distance,
      (crowdingDistances traits front)[position]? = some distance :=
    ⟨_, List.getElem?_eq_getElem hlt⟩
  have hmember : (place, distance) ∈ front.zip (crowdingDistances traits front) :=
    List.mem_of_getElem? (List.getElem?_zip_eq_some.mpr ⟨hposition, hdistance⟩)
  have hentry : (front, index) ∈ fronts.zipIdx := by
    simpa [List.mem_zipIdx_iff_getElem?] using hfront
  exact ⟨distance, List.mem_flatMap.mpr ⟨(front, index), hentry,
    List.mem_map.mpr ⟨(place, distance), hmember, rfl⟩⟩⟩

/-! ### Summaries -/

theorem mem_flatten_paretoFronts {candidates : List Nat} :
    place ∈ (paretoFronts traits candidates).flatten ↔ place ∈ candidates :=
  mem_flatten_peel

theorem length_selectionSummaries (traits : List FitnessTraits)
    (constraints : SelectionConstraints) :
    (selectionSummaries traits constraints).length = traits.length := by
  simp [selectionSummaries]

theorem summary_of_infeasible (hplace : traits[place]? = some candidate)
    (h : 0 < constraintViolationScore constraints candidate) :
    (selectionSummaries traits constraints)[place]? =
      some (infeasibleSummary (constraintViolationScore constraints candidate) candidate) := by
  have hranked : place ∉ (frontWrites traits (paretoFronts traits
      (feasibleCandidates traits constraints))).map Prod.fst := by
    rw [keys_frontWrites, mem_flatten_paretoFronts, mem_feasibleCandidates]
    rintro ⟨other, hother, hzero⟩
    obtain rfl : candidate = other := Option.some.inj (hplace.symm.trans hother)
    exact h.ne' hzero
  have hnodup : ((infeasibleWrites traits constraints).map Prod.fst).Nodup := by
    rw [keys_infeasibleWrites]
    exact (nodup_zipIdx traits).sublist (List.filter_sublist.map _)
  have hlength : place < (List.replicate traits.length ({} : SelectionSummary)).length := by
    rw [List.length_replicate]
    exact (List.getElem?_eq_some_iff.mp hplace).1
  rw [selectionSummaries, getElem?_assign_of_not_mem hranked,
    getElem?_assign_of_mem hnodup (mem_infeasibleWrites hplace h) _ hlength]

theorem summary_of_feasible (hplace : traits[place]? = some candidate)
    (h : constraintViolationScore constraints candidate = 0) :
    ∃ front index distance,
      (paretoFronts traits (feasibleCandidates traits constraints))[index]? = some front ∧
        place ∈ front ∧ (selectionSummaries traits constraints)[place]? =
          some (frontSummary (paretoFronts traits
            (feasibleCandidates traits constraints)).length index distance) := by
  have hfeasible : place ∈ feasibleCandidates traits constraints :=
    mem_feasibleCandidates.mpr ⟨candidate, hplace, h⟩
  obtain ⟨front, hfront, hmem⟩ := List.mem_flatten.mp (mem_flatten_paretoFronts.mpr hfeasible)
  obtain ⟨index, hindex⟩ := List.getElem?_of_mem hfront
  obtain ⟨distance, hwrite⟩ : ∃ distance, (place, frontSummary _ index distance) ∈
      frontWrites traits (paretoFronts traits (feasibleCandidates traits constraints)) :=
    mem_frontWrites hindex hmem
  have hnodup : ((frontWrites traits (paretoFronts traits
      (feasibleCandidates traits constraints))).map Prod.fst).Nodup := by
    rw [keys_frontWrites]
    exact nodup_flatten_peel (nodup_feasibleCandidates traits constraints)
  have hlength : place < (assign (List.replicate traits.length ({} : SelectionSummary))
      (infeasibleWrites traits constraints)).length := by
    rw [length_assign, List.length_replicate]
    exact (List.getElem?_eq_some_iff.mp hplace).1
  refine ⟨front, index, distance, hindex, hmem, ?_⟩
  rw [selectionSummaries, getElem?_assign_of_mem hnodup hwrite _ hlength]

end Writes

structure Ranked (traits : List FitnessTraits) (constraints : SelectionConstraints)
    (summaries : List SelectionSummary) : Prop where
  length : summaries.length = traits.length
  feasible : ∀ candidate ∈ traits.zip summaries, ∀ other ∈ traits.zip summaries,
    constraintClass constraints candidate.1 = none →
      constraintClass constraints other.1 ≠ none → other.2.fitness < candidate.2.fitness
  dominating : ∀ candidate ∈ traits.zip summaries, ∀ other ∈ traits.zip summaries,
    constraintClass constraints candidate.1 = none → constraintClass constraints other.1 = none →
      candidate.1.dominates other.1 = true →
        other.2.fitness < candidate.2.fitness ∧
          candidate.2.paretoFront < other.2.paretoFront

def ClassesOrdered (traits : List FitnessTraits) (constraints : SelectionConstraints)
    (summaries : List SelectionSummary) : Prop :=
  ∀ candidate ∈ traits.zip summaries, ∀ other ∈ traits.zip summaries, ∀ milder worse,
    constraintClass constraints candidate.1 = some milder →
      constraintClass constraints other.1 = some worse →
        milder.severity < worse.severity → other.2.fitness < candidate.2.fitness

section Ranking

variable {traits : List FitnessTraits} {constraints : SelectionConstraints}

theorem score_of_none {candidate : FitnessTraits}
    (h : constraintClass constraints candidate = none) :
    constraintViolationScore constraints candidate = 0 := by
  rw [score_eq, h]
  rfl

theorem place_of_mem {entry : FitnessTraits × SelectionSummary}
    (h : entry ∈ traits.zip (selectionSummaries traits constraints)) :
    ∃ place : Nat, traits[place]? = some entry.1 ∧
      (selectionSummaries traits constraints)[place]? = some entry.2 := by
  obtain ⟨place, hplace⟩ := List.getElem?_of_mem h
  exact ⟨place, List.getElem?_zip_eq_some.mp hplace⟩

theorem fitness_of_some {entry : FitnessTraits × SelectionSummary}
    (h : entry ∈ traits.zip (selectionSummaries traits constraints)) {violated : ConstraintClass}
    (hviolated : constraintClass constraints entry.1 = some violated) :
    entry.2.fitness = -penalty constraints entry.1 violated + infeasibleTiebreak entry.1 := by
  obtain ⟨place, hcandidate, hsummary⟩ := place_of_mem h
  have hpos : 0 < constraintViolationScore constraints entry.1 := by
    linarith [le_score hviolated]
  rw [summary_of_infeasible hcandidate hpos] at hsummary
  rw [← Option.some.inj hsummary, infeasibleSummary, score_eq, hviolated]
  rfl

theorem summary_of_none {entry : FitnessTraits × SelectionSummary}
    (h : entry ∈ traits.zip (selectionSummaries traits constraints))
    (hfeasible : constraintClass constraints entry.1 = none) :
    ∃ (place : Nat) (front : List Nat) (distance : Distance), traits[place]? = some entry.1 ∧
      (paretoFronts traits (feasibleCandidates traits constraints))[entry.2.paretoFront]? =
        some front ∧ place ∈ front ∧
      entry.2 = frontSummary (paretoFronts traits
        (feasibleCandidates traits constraints)).length entry.2.paretoFront distance := by
  obtain ⟨place, hcandidate, hsummary⟩ := place_of_mem h
  obtain ⟨front, index, distance, hfront, hplace, hranked⟩ :=
    summary_of_feasible hcandidate (score_of_none hfeasible)
  have heq : frontSummary _ index distance = entry.2 :=
    Option.some.inj (hranked.symm.trans hsummary)
  have hindex : index = entry.2.paretoFront := congrArg SelectionSummary.paretoFront heq
  subst hindex
  exact ⟨place, front, distance, hcandidate, hfront, hplace, heq.symm⟩

theorem frontSummary_lt {frontCount index later : Nat} (h : index < later) (distance : Distance)
    (other : Distance) : (frontSummary frontCount later other).fitness <
      (frontSummary frontCount index distance).fitness := by
  have hindex : (index : ℚ) + 1 ≤ later := by exact_mod_cast h
  have hnonneg := normalizedCrowdingBonus_nonneg distance
  have hle := normalizedCrowdingBonus_le other
  rw [frontSummary, frontSummary]
  simp only
  linarith

theorem frontSummary_pos {frontCount index : Nat} (h : index < frontCount) (distance : Distance) :
    1000 < (frontSummary frontCount index distance).fitness := by
  have hindex : (index : ℚ) + 1 ≤ frontCount := by exact_mod_cast h
  have hcount : (frontCount : ℚ) ≤ (max frontCount 1 : Nat) := by
    exact_mod_cast le_max_left frontCount 1
  have hnonneg := normalizedCrowdingBonus_nonneg distance
  rw [frontSummary]
  simp only
  linarith

theorem feasible_above {candidate other : FitnessTraits × SelectionSummary}
    (hcandidate : candidate ∈ traits.zip (selectionSummaries traits constraints))
    (hother : other ∈ traits.zip (selectionSummaries traits constraints))
    (hfeasible : constraintClass constraints candidate.1 = none)
    (hinfeasible : constraintClass constraints other.1 ≠ none) :
    other.2.fitness < candidate.2.fitness := by
  obtain ⟨violated, hviolated⟩ := Option.ne_none_iff_exists'.mp hinfeasible
  obtain ⟨place, front, distance, -, hfront, -, hsummary⟩ := summary_of_none hcandidate hfeasible
  have hindex := (List.getElem?_eq_some_iff.mp hfront).1
  have hhigh := frontSummary_pos hindex distance
  have hscore := le_score hviolated
  have hlow := infeasibleTiebreak_le other.1
  rw [score_eq, hviolated, Option.map_some, Option.getD_some] at hscore
  rw [← hsummary] at hhigh
  rw [fitness_of_some hother hviolated]
  linarith

theorem dominating_above {candidate other : FitnessTraits × SelectionSummary}
    (hcandidate : candidate ∈ traits.zip (selectionSummaries traits constraints))
    (hother : other ∈ traits.zip (selectionSummaries traits constraints))
    (hfeasible : constraintClass constraints candidate.1 = none)
    (hfeasible' : constraintClass constraints other.1 = none)
    (hdominates : candidate.1.dominates other.1 = true) :
    other.2.fitness < candidate.2.fitness ∧ candidate.2.paretoFront < other.2.paretoFront := by
  obtain ⟨place, front, distance, hplace, hfront, hmem, hsummary⟩ :=
    summary_of_none hcandidate hfeasible
  obtain ⟨place', front', distance', hplace', hfront', hmem', hsummary'⟩ :=
    summary_of_none hother hfeasible'
  have hne : place ≠ place' := by
    rintro rfl
    rw [Option.some.inj (hplace.symm.trans hplace'), FitnessTraits.dominates_irrefl] at hdominates
    cases hdominates
  have hbeats : beats traits place place' = true :=
    beats_iff.mpr ⟨candidate.1, hplace, other.1, hplace', hne, hdominates⟩
  have hearlier := front_lt_front (beats_trans traits) (beats_irrefl traits) hfront hfront' hmem
    hmem' hbeats
  refine ⟨?_, hearlier⟩
  rw [hsummary, hsummary']
  exact frontSummary_lt hearlier distance distance'

theorem ranked_selectionSummaries (traits : List FitnessTraits)
    (constraints : SelectionConstraints) :
    Ranked traits constraints (selectionSummaries traits constraints) where
  length := length_selectionSummaries traits constraints
  feasible _ hcandidate _ hother := feasible_above hcandidate hother
  dominating _ hcandidate _ hother := dominating_above hcandidate hother

theorem classesOrdered (hseparated : constraints.Separated) (traits : List FitnessTraits) :
    ClassesOrdered traits constraints (selectionSummaries traits constraints) := by
  intro candidate hcandidate other hother milder worse hmilder hworse hseverity
  rw [fitness_of_some hcandidate hmilder, fitness_of_some hother hworse]
  have hapart := penalty_lt_least hseparated candidate.1 hseverity
  have hleast := least_le_penalty hworse
  have hnonneg := infeasibleTiebreak_nonneg candidate.1
  have hle := infeasibleTiebreak_le other.1
  linarith

/-- The ranking of every list of candidates: the classes come in order if the thresholds keep their
penalties apart. -/
theorem ranking (traits : List FitnessTraits) (constraints : SelectionConstraints) :
    Ranked traits constraints (selectionSummaries traits constraints) ∧
      (constraints.Separated →
        ClassesOrdered traits constraints (selectionSummaries traits constraints)) :=
  ⟨ranked_selectionSummaries traits constraints, fun hseparated =>
    classesOrdered hseparated traits⟩

def never : Rate := ⟨0, le_refl 0, zero_le_one⟩

/-- Two collisions in ten attempts, and no way out. -/
def clumsy : FitnessTraits where
  exploration := 0
  escapeRate := never
  collisionRate := ⟨1 / 5, by norm_num, by norm_num⟩
  energyUse := some 0
  forwardProgress := 0
  repetitionRate := never
  worstEnvironmentScore := 0
  safetyVetoRate := never
  safetyInvariantViolations := 0

/-- No collisions, and no way out. -/
def trapped : FitnessTraits := { clumsy with collisionRate := never }

theorem ranking_clumsy_trapped : ClassesOrdered [clumsy, trapped] { minimumEscapeRate := 0.8 }
    (selectionSummaries [clumsy, trapped] { minimumEscapeRate := 0.8 }) :=
  (ranking [clumsy, trapped] { minimumEscapeRate := 0.8 }).2
    ⟨by norm_num, by norm_num, by norm_num⟩

/-- A minimal escape rate of twelve punishes the trapped one more than the clumsy one. -/
theorem escape_overlaps : ¬ClassesOrdered [clumsy, trapped] { minimumEscapeRate := 12 }
    (selectionSummaries [clumsy, trapped] { minimumEscapeRate := 12 }) := by
  intro h
  have hclumsy : (clumsy, infeasibleSummary (constraintViolationScore
      { minimumEscapeRate := 12 } clumsy) clumsy) ∈ [clumsy, trapped].zip
        (selectionSummaries [clumsy, trapped] { minimumEscapeRate := 12 }) :=
    List.mem_of_getElem? (i := 0) (List.getElem?_zip_eq_some.mpr
      ⟨rfl, summary_of_infeasible rfl (by decide +kernel)⟩)
  have htrapped : (trapped, infeasibleSummary (constraintViolationScore
      { minimumEscapeRate := 12 } trapped) trapped) ∈ [clumsy, trapped].zip
        (selectionSummaries [clumsy, trapped] { minimumEscapeRate := 12 }) :=
    List.mem_of_getElem? (i := 1) (List.getElem?_zip_eq_some.mpr
      ⟨rfl, summary_of_infeasible rfl (by decide +kernel)⟩)
  have hworse := h _ htrapped _ hclumsy .escape .collision (by decide +kernel)
    (by decide +kernel) (by decide)
  exact absurd hworse (by decide +kernel)

end Ranking

end Netherwick.Neat
