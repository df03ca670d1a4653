import Mathlib.Algebra.Order.Field.Rat
import Mathlib.Tactic.Linarith
import Mathlib.Tactic.Positivity

/-! # Reported variances

Sources report variances again and again. A source weighs as much as the smallest variance that it
ever reported, whatever it repeats; the weights of different sources add up. -/

namespace Netherwick.Lib

variable {σ : Type} [DecidableEq σ]

def leastVariance (source : σ) : List (σ × ℚ) → Option ℚ
  | [] => none
  | (other, variance) :: rest =>
    if other = source then some ((leastVariance source rest).elim variance (min variance))
    else leastVariance source rest

def sourceWeight (reports : List (σ × ℚ)) (source : σ) : ℚ :=
  (leastVariance source reports).elim 0 fun variance => 1 / variance

def totalWeight (reports : List (σ × ℚ)) : List σ → ℚ
  | [] => 0
  | source :: rest => sourceWeight reports source + totalWeight reports rest

def Positive (reports : List (σ × ℚ)) : Prop := ∀ report ∈ reports, 0 < report.2

section

variable {reports : List (σ × ℚ)} {source other : σ} {variance : ℚ} {sources : List σ}

theorem leastVariance_pos (h : Positive reports) :
    ∀ least ∈ leastVariance source reports, 0 < least := by
  induction reports with
  | nil => simp [leastVariance]
  | cons report reports ih =>
    obtain ⟨other, variance⟩ := report
    have hvariance : 0 < variance := h (other, variance) List.mem_cons_self
    have hrest := ih fun report hreport => h report (List.mem_cons_of_mem _ hreport)
    rw [leastVariance]
    by_cases heq : other = source
    · rw [if_pos heq]
      cases hleast : leastVariance source reports with
      | none => simpa using hvariance
      | some least => simpa [hvariance] using hrest least hleast
    · rw [if_neg heq]
      exact hrest

theorem sourceWeight_nonneg (h : Positive reports) (source : σ) :
    0 ≤ sourceWeight reports source := by
  rw [sourceWeight]
  cases hleast : leastVariance source reports with
  | none => exact le_refl 0
  | some least => exact (one_div_pos.mpr (leastVariance_pos h least hleast)).le

theorem sourceWeight_cons_ne (hne : other ≠ source) :
    sourceWeight ((other, variance) :: reports) source = sourceWeight reports source := by
  rw [sourceWeight, leastVariance, if_neg hne, sourceWeight]

theorem sourceWeight_cons_self (h : Positive reports) (hvariance : 0 < variance) :
    sourceWeight ((source, variance) :: reports) source =
      max (1 / variance) (sourceWeight reports source) := by
  rw [sourceWeight, leastVariance, if_pos rfl, sourceWeight]
  cases hleast : leastVariance source reports with
  | none => exact (max_eq_left (one_div_pos.mpr hvariance).le).symm
  | some least =>
    have hpos := leastVariance_pos h least hleast
    by_cases hle : variance ≤ least
    · simp [min_eq_left hle, max_eq_left (inv_anti₀ hvariance hle)]
    · have hlt : least ≤ variance := (not_le.mp hle).le
      simp [min_eq_right hlt, max_eq_right (inv_anti₀ hpos hlt)]

theorem sourceWeight_le_cons (h : Positive reports) (hvariance : 0 < variance) (other : σ) :
    sourceWeight reports other ≤ sourceWeight ((source, variance) :: reports) other := by
  by_cases heq : source = other
  · rw [← heq, sourceWeight_cons_self h hvariance]
    exact le_max_right _ _
  · rw [sourceWeight_cons_ne heq]

theorem sourceWeight_of_not_mem (hnew : ∀ report ∈ reports, report.1 ≠ source) :
    sourceWeight reports source = 0 := by
  induction reports with
  | nil => rfl
  | cons report reports ih =>
    obtain ⟨other, variance⟩ := report
    rw [sourceWeight_cons_ne (hnew (other, variance) List.mem_cons_self)]
    exact ih fun report hreport => hnew report (List.mem_cons_of_mem _ hreport)

theorem totalWeight_nil : totalWeight ([] : List (σ × ℚ)) sources = 0 := by
  induction sources with
  | nil => rfl
  | cons source sources ih => simp [totalWeight, ih, sourceWeight, leastVariance]

theorem totalWeight_nonneg (h : Positive reports) (sources : List σ) : 0 ≤ totalWeight reports sources := by
  induction sources with
  | nil => exact le_refl 0
  | cons source sources ih => exact add_nonneg (sourceWeight_nonneg h source) ih

theorem totalWeight_le_cons (h : Positive reports) (hvariance : 0 < variance) (source : σ)
    (sources : List σ) :
    totalWeight reports sources ≤ totalWeight ((source, variance) :: reports) sources := by
  induction sources with
  | nil => exact le_refl 0
  | cons other sources ih => exact add_le_add (sourceWeight_le_cons h hvariance other) ih

theorem totalWeight_add_le_cons (h : Positive reports) (hvariance : 0 < variance)
    (hsource : source ∈ sources) (hnew : ∀ report ∈ reports, report.1 ≠ source) :
    totalWeight reports sources + 1 / variance ≤
      totalWeight ((source, variance) :: reports) sources := by
  induction sources with
  | nil => cases hsource
  | cons other sources ih =>
    rw [totalWeight, totalWeight]
    by_cases heq : other = source
    · have hself : sourceWeight ((source, variance) :: reports) other =
          sourceWeight reports other + 1 / variance := by
        rw [heq, sourceWeight_cons_self h hvariance, sourceWeight_of_not_mem hnew,
          max_eq_left (one_div_pos.mpr hvariance).le, zero_add]
      have hrest := totalWeight_le_cons h hvariance source sources
      linarith
    · have hrest := ih (List.mem_of_ne_of_mem (Ne.symm heq) hsource)
      rw [sourceWeight_cons_ne (Ne.symm heq)]
      linarith

theorem one_div_le_totalWeight_cons (h : Positive reports) (hvariance : 0 < variance)
    (hsource : source ∈ sources) :
    1 / variance ≤ totalWeight ((source, variance) :: reports) sources := by
  induction sources with
  | nil => cases hsource
  | cons other sources ih =>
    have hpositive : Positive ((source, variance) :: reports) := by
      intro report hreport
      rcases List.mem_cons.mp hreport with rfl | hreport
      · exact hvariance
      · exact h report hreport
    rw [totalWeight]
    by_cases heq : other = source
    · have hself : 1 / variance ≤ sourceWeight ((source, variance) :: reports) other := by
        rw [heq, sourceWeight_cons_self h hvariance]
        exact le_max_left _ _
      have hrest := totalWeight_nonneg hpositive sources
      linarith
    · have hrest := ih (List.mem_of_ne_of_mem (Ne.symm heq) hsource)
      have hother := sourceWeight_nonneg hpositive other
      linarith

end

end Netherwick.Lib
