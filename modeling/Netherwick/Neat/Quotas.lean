import Netherwick.Neat.Population
import Mathlib.Algebra.Order.Floor.Semiring
import Mathlib.Algebra.Order.BigOperators.Group.List
import Mathlib.Algebra.BigOperators.Group.List.Basic
import Mathlib.Data.Rat.Floor
import Mathlib.Tactic.Linarith
import Mathlib.Tactic.Positivity

/-! # Quotas

How many genomes each species leaves, with the arithmetic of the quotas exact: every species one, and
the rest by largest remainder of its share of the scores. Nothing is lost and nothing is made: the
counts add up to the population. -/

namespace Netherwick.Neat

open Float.Model (UnpackedFloat)

/-- The number that an `f32` below infinity is. -/
def exactValue (value : Float32) : ℚ :=
  match value.toModel.unpack with
  | .finite sign mantissa exponent _ => (sign.apply mantissa : ℤ) * (2 : ℚ) ^ exponent
  | _ => 0

def leastOf : List ℚ → ℚ
  | [] => 0
  | first :: rest => rest.foldl min first

def exactShift (scores : List ℚ) : ℚ :=
  if leastOf scores ≤ 0 then -leastOf scores + 1 / 1000 else 0

def byExactFraction (fractions : List (Nat × ℚ)) : List Nat :=
  (fractions.insertionSort fun left right =>
    right.2 < left.2 ∨ (left.2 = right.2 ∧ left.1 ≤ right.1)).map Prod.fst

def exactQuotas (scores : List ℚ) (remaining : Nat) : List ℚ :=
  scores.map fun score =>
    (score + exactShift scores) / (scores.map (· + exactShift scores)).sum * remaining

def allocateExactly (scores : List Float32) (populationSize : Nat) : List Nat :=
  if scores = [] || populationSize = 0 then [] else
    let survivorCount := Nat.min scores.length populationSize
    let counts := List.replicate survivorCount 1
    let remaining := populationSize - survivorCount
    if remaining = 0 then counts else
      let usableScores := (scores.take survivorCount).map fun score =>
        exactValue (finiteOrZero score)
      let total := (usableScores.map (· + exactShift usableScores)).sum
      if total ≤ 0 then addOneAt counts (roundRobin (List.range survivorCount) remaining)
      else
        let quotas := exactQuotas usableScores remaining
        let wholes := quotas.map fun quota => ⌊quota⌋₊
        let fractions := (quotas.zip wholes).mapIdx fun index quota => (index, quota.1 - (quota.2 : ℚ))
        addOneAt (List.zipWith (· + ·) counts wholes)
          (roundRobin (byExactFraction fractions) (remaining - wholes.sum))

/-- Every species that may leave a genome leaves one. -/
def Provides (allocate : List Float32 → Nat → List Nat) : Prop :=
  ∀ scores populationSize, scores ≠ [] → 0 < populationSize →
    (allocate scores populationSize).length = Nat.min scores.length populationSize ∧
      ∀ count ∈ allocate scores populationSize, 1 ≤ count

/-- And together they leave a population. -/
def AddsUp (allocate : List Float32 → Nat → List Nat) : Prop :=
  ∀ scores populationSize, scores ≠ [] → 0 < populationSize →
    (allocate scores populationSize).sum = populationSize

section Dealing

variable {counts places : List Nat} {n place : Nat}

@[simp] theorem length_addOneAt (counts places : List Nat) :
    (addOneAt counts places).length = counts.length := by
  induction places generalizing counts with
  | nil => rfl
  | cons place places ih =>
    rw [addOneAt, List.foldl_cons]
    exact (ih _).trans (List.length_modify _ _ _)

theorem sum_modify_succ (h : place < counts.length) :
    (counts.modify place (· + 1)).sum = counts.sum + 1 := by
  induction counts generalizing place with
  | nil => simp at h
  | cons count counts ih =>
    cases place with
    | zero =>
      simp
      omega
    | succ place =>
      simp only [List.length_cons, Nat.add_lt_add_iff_right] at h
      simp [ih h]
      omega

theorem sum_addOneAt (h : ∀ place ∈ places, place < counts.length) :
    (addOneAt counts places).sum = counts.sum + places.length := by
  induction places generalizing counts with
  | nil => rfl
  | cons place places ih =>
    rw [List.forall_mem_cons] at h
    rw [addOneAt, List.foldl_cons]
    have hrest := @ih (counts.modify place (· + 1)) (by simpa using h.2)
    rw [addOneAt] at hrest
    rw [hrest, sum_modify_succ h.1, List.length_cons]
    omega

theorem one_le_modify (h : ∀ count ∈ counts, 1 ≤ count) :
    ∀ count ∈ counts.modify place (· + 1), 1 ≤ count := by
  induction counts generalizing place with
  | nil => simp
  | cons count counts ih =>
    rw [List.forall_mem_cons] at h
    cases place with
    | zero => simpa using h.2
    | succ place =>
      rw [List.modify_succ_cons, List.forall_mem_cons]
      exact ⟨h.1, ih h.2⟩

theorem one_le_addOneAt (h : ∀ count ∈ counts, 1 ≤ count) :
    ∀ count ∈ addOneAt counts places, 1 ≤ count := by
  induction places generalizing counts with
  | nil => exact h
  | cons place places ih => exact ih (one_le_modify h)

theorem length_roundRobin (h : places ≠ []) : (roundRobin places n).length = n := by
  have hpos : 0 < places.length := List.length_pos_iff.mpr h
  rw [roundRobin, List.length_filterMap_eq_countP, List.countP_eq_length.mpr, List.length_range]
  intro offset _
  have hless := Nat.mod_lt offset hpos
  simp [hless]

theorem mem_roundRobin (h : place ∈ roundRobin places n) : place ∈ places := by
  obtain ⟨offset, -, hfound⟩ := List.mem_filterMap.mp h
  exact List.mem_of_getElem? hfound

theorem one_le_zipWith {wholes : List Nat} (h : ∀ count ∈ counts, 1 ≤ count) :
    ∀ count ∈ List.zipWith (· + ·) counts wholes, 1 ≤ count := by
  induction counts generalizing wholes with
  | nil => simp
  | cons count counts ih =>
    cases wholes with
    | nil => simp
    | cons whole wholes =>
      rw [List.forall_mem_cons] at h
      rw [List.zipWith_cons_cons, List.forall_mem_cons]
      exact ⟨by omega, ih h.2⟩

theorem sum_zipWith_add {wholes : List Nat} (h : counts.length = wholes.length) :
    (List.zipWith (· + ·) counts wholes).sum = counts.sum + wholes.sum := by
  induction counts generalizing wholes with
  | nil => simp [List.length_eq_zero_iff.mp h.symm]
  | cons count counts ih =>
    cases wholes with
    | nil => simp at h
    | cons whole wholes =>
      simp only [List.length_cons, Nat.add_right_cancel_iff] at h
      simp [ih h]
      omega

end Dealing

section Exact

variable {scores : List ℚ} {remaining : Nat}

theorem foldl_min_le {first : ℚ} : scores.foldl min first ≤ first ∧
    ∀ score ∈ scores, scores.foldl min first ≤ score := by
  induction scores generalizing first with
  | nil => simp
  | cons head rest ih =>
    obtain ⟨hfirst, hrest⟩ := @ih (min first head)
    rw [List.foldl_cons, List.forall_mem_cons]
    exact ⟨hfirst.trans (min_le_left _ _), hfirst.trans (min_le_right _ _), hrest⟩

theorem leastOf_le {score : ℚ} (h : score ∈ scores) : leastOf scores ≤ score := by
  cases scores with
  | nil => simp at h
  | cons first rest =>
    obtain rfl | hrest := List.mem_cons.mp h
    · exact foldl_min_le.1
    · exact foldl_min_le.2 score hrest

theorem shifted_pos {score : ℚ} (h : score ∈ scores) : 0 < score + exactShift scores := by
  have hle := leastOf_le h
  by_cases hleast : leastOf scores ≤ 0
  · rw [exactShift, if_pos hleast]
    linarith
  · rw [exactShift, if_neg hleast]
    linarith

theorem sum_map_div_mul (scores : List ℚ) (shift total : ℚ) (remaining : Nat) :
    (scores.map fun score => (score + shift) / total * remaining).sum =
      (scores.map (· + shift)).sum / total * remaining := by
  induction scores with
  | nil => simp
  | cons score scores ih =>
    rw [List.map_cons, List.sum_cons, ih, List.map_cons, List.sum_cons]
    ring

theorem quota_nonneg (htotal : 0 < (scores.map (· + exactShift scores)).sum) :
    ∀ quota ∈ exactQuotas scores remaining, 0 ≤ quota := by
  intro quota hquota
  obtain ⟨score, hscore, rfl⟩ := List.mem_map.mp hquota
  have hpos := shifted_pos hscore
  positivity

theorem sum_wholes_le (htotal : 0 < (scores.map (· + exactShift scores)).sum) :
    ((exactQuotas scores remaining).map fun quota => ⌊quota⌋₊).sum ≤ remaining := by
  have hfloor : ∀ quotas : List ℚ, (∀ quota ∈ quotas, 0 ≤ quota) →
      (((quotas.map fun quota => ⌊quota⌋₊).sum : Nat) : ℚ) ≤ quotas.sum := by
    intro quotas hquotas
    induction quotas with
    | nil => simp
    | cons quota quotas ih =>
      rw [List.forall_mem_cons] at hquotas
      have hrest := ih hquotas.2
      have hhere := Nat.floor_le hquotas.1
      rw [List.map_cons, List.sum_cons, List.sum_cons, Nat.cast_add]
      linarith
  have hsum : (exactQuotas scores remaining).sum = remaining := by
    rw [exactQuotas, sum_map_div_mul, div_self htotal.ne', one_mul]
  have hle := hfloor _ (@quota_nonneg scores remaining htotal)
  rw [hsum] at hle
  exact_mod_cast hle

end Exact

section Allocation

variable {scores : List Float32} {populationSize : Nat}

theorem mem_byExactFraction {fractions : List (Nat × ℚ)} {place : Nat}
    (h : place ∈ byExactFraction fractions) : place ∈ fractions.map Prod.fst := by
  obtain ⟨fraction, hfraction, rfl⟩ := List.mem_map.mp h
  exact List.mem_map_of_mem ((List.mem_insertionSort _).mp hfraction)

theorem byExactFraction_ne_nil {fractions : List (Nat × ℚ)} (h : fractions ≠ []) :
    byExactFraction fractions ≠ [] := by
  have hlength : (byExactFraction fractions).length = fractions.length := by
    rw [byExactFraction, List.length_map, List.length_insertionSort]
  rw [← List.length_pos_iff] at h ⊢
  omega

theorem fractions_places (quotas : List (ℚ × Nat)) :
    ((quotas.mapIdx fun index quota => (index, quota.1 - (quota.2 : ℚ))).map Prod.fst) =
      List.range quotas.length := by
  apply List.ext_getElem
  · simp
  · simp

theorem dealt_spec {counts places : List Nat} {survivors : Nat} (hlength : counts.length = survivors)
    (hone : ∀ count ∈ counts, 1 ≤ count) (hplaces : ∀ place ∈ places, place < survivors)
    (hne : places ≠ []) (n : Nat) :
    (addOneAt counts (roundRobin places n)).length = survivors ∧
      (∀ count ∈ addOneAt counts (roundRobin places n), 1 ≤ count) ∧
      (addOneAt counts (roundRobin places n)).sum = counts.sum + n := by
  refine ⟨by rw [length_addOneAt, hlength], one_le_addOneAt hone, ?_⟩
  rw [sum_addOneAt, length_roundRobin hne]
  intro place hplace
  rw [hlength]
  exact hplaces place (mem_roundRobin hplace)

theorem allocateExactly_spec (hscores : scores ≠ []) (hpos : 0 < populationSize) :
    (allocateExactly scores populationSize).length = Nat.min scores.length populationSize ∧
      (∀ count ∈ allocateExactly scores populationSize, 1 ≤ count) ∧
      (allocateExactly scores populationSize).sum = populationSize := by
  have hsome : 0 < scores.length := List.length_pos_iff.mpr hscores
  have hguard : (decide (scores = []) || decide (populationSize = 0)) = false := by
    simp [hscores, hpos.ne']
  rw [allocateExactly, hguard]
  simp only [Bool.false_eq_true, if_false]
  generalize hsurvivors : Nat.min scores.length populationSize = survivors
  have hsurvivorsPos : 0 < survivors := by
    rw [← hsurvivors]
    exact Nat.lt_min.mpr ⟨hsome, hpos⟩
  have hle : survivors ≤ scores.length ∧ survivors ≤ populationSize := by
    rw [← hsurvivors]
    exact ⟨Nat.min_le_left _ _, Nat.min_le_right _ _⟩
  have hones : ∀ count ∈ List.replicate survivors 1, 1 ≤ count := by
    intro count hcount
    rw [List.eq_of_mem_replicate hcount]
  by_cases hnone : populationSize - survivors = 0
  · rw [if_pos hnone]
    refine ⟨by simp, hones, ?_⟩
    rw [List.sum_replicate_nat, Nat.mul_one]
    omega
  · rw [if_neg hnone]
    generalize husable : (scores.take survivors).map
      (fun score => exactValue (finiteOrZero score)) = usable
    have hlength : usable.length = survivors := by
      rw [← husable, List.length_map, List.length_take]
      exact Nat.min_eq_left hle.1
    by_cases htotal : (usable.map (· + exactShift usable)).sum ≤ 0
    · rw [if_pos htotal]
      have hdealt := @dealt_spec (List.replicate survivors 1) (List.range survivors) survivors
        (by simp) hones (by simp) (by simpa using hsurvivorsPos.ne') (populationSize - survivors)
      refine ⟨hdealt.1, hdealt.2.1, hdealt.2.2.trans ?_⟩
      rw [List.sum_replicate_nat, Nat.mul_one]
      omega
    · rw [if_neg htotal]
      have hwholes := @sum_wholes_le usable (populationSize - survivors) (not_le.mp htotal)
      have hquotas : (exactQuotas usable (populationSize - survivors)).length = survivors := by
        rw [exactQuotas, List.length_map, hlength]
      generalize exactQuotas usable (populationSize - survivors) = quotas at hwholes hquotas ⊢
      have hzip : (quotas.zip (quotas.map fun quota => ⌊quota⌋₊)).length = survivors := by
        simp [hquotas]
      have hplaces := fractions_places (quotas.zip (quotas.map fun quota => ⌊quota⌋₊))
      rw [hzip] at hplaces
      have hdealt := @dealt_spec
        (List.zipWith (· + ·) (List.replicate survivors 1) (quotas.map fun quota => ⌊quota⌋₊))
        (byExactFraction ((quotas.zip (quotas.map fun quota => ⌊quota⌋₊)).mapIdx
          fun index quota => (index, quota.1 - (quota.2 : ℚ)))) survivors
        (by simp [hquotas]) (one_le_zipWith hones)
        (fun place hplace => by
          have hmem := mem_byExactFraction hplace
          rw [hplaces] at hmem
          exact List.mem_range.mp hmem)
        (byExactFraction_ne_nil (by
          intro hnil
          rw [hnil, List.map_nil] at hplaces
          have hzero := congrArg List.length hplaces
          simp only [List.length_nil, List.length_range] at hzero
          omega))
        (populationSize - survivors - (quotas.map fun quota => ⌊quota⌋₊).sum)
      refine ⟨hdealt.1, hdealt.2.1, hdealt.2.2.trans ?_⟩
      rw [sum_zipWith_add (by simp [hquotas]), List.sum_replicate_nat, Nat.mul_one]
      omega

theorem allocateExactly_provides : Provides allocateExactly :=
  fun _ _ hscores hpos =>
    ⟨(allocateExactly_spec hscores hpos).1, (allocateExactly_spec hscores hpos).2.1⟩

theorem allocateExactly_addsUp : AddsUp allocateExactly :=
  fun _ _ hscores hpos => (allocateExactly_spec hscores hpos).2.2

theorem allocateOffspring_provides : Provides allocateOffspring := by
  intro scores populationSize hscores hpos
  have hguard : (decide (scores = []) || decide (populationSize = 0)) = false := by
    simp [hscores, hpos.ne']
  rw [allocateOffspring, hguard]
  simp only [Bool.false_eq_true, if_false]
  generalize hsurvivors : Nat.min scores.length populationSize = survivors
  have hle : survivors ≤ scores.length := by
    rw [← hsurvivors]
    exact Nat.min_le_left _ _
  have hones : ∀ count ∈ List.replicate survivors 1, 1 ≤ count := by
    intro count hcount
    rw [List.eq_of_mem_replicate hcount]
  by_cases hnone : populationSize - survivors = 0
  · rw [if_pos hnone]
    exact ⟨by simp, hones⟩
  · rw [if_neg hnone]
    generalize husable : (scores.take survivors).map finiteOrZero = usable
    have hlength : usable.length = survivors := by
      rw [← husable, List.length_map, List.length_take]
      exact Nat.min_eq_left hle
    generalize scoreShift usable = shift
    generalize sum32 (usable.map (· + shift)) = total
    by_cases htotal : (!total.isFinite || decide (total ≤ 0)) = true
    · rw [if_pos htotal]
      exact ⟨by simp, one_le_addOneAt hones⟩
    · rw [if_neg htotal]
      exact ⟨by simp [hlength], one_le_addOneAt (one_le_zipWith hones)⟩

end Allocation

end Netherwick.Neat
