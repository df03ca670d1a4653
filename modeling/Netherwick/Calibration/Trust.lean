import Mathlib.Data.List.Dedup
import Netherwick.Calibration.Machine
import Netherwick.Lib.Reports
import Netherwick.Lib.Run

/-! # Trust is earned

What the machine counts is told by the evidence that it accepted since the epoch began. A trusted
state has its evidence behind it, and repeated frames of one source do not compound. -/

namespace Netherwick.Calibration

open Netherwick.Lib

/-- The variances that were reported for a degree of freedom. -/
def reports (accepted : List TransformEstimateEvidence) (index : Fin 6) :
    List (CalibrationEvidenceSource × ℚ) :=
  (accepted.filter fun evidence => evidence.observableDofs index).map fun evidence =>
    (evidence.source, evidence.covariance index)

def backing (accepted : List TransformEstimateEvidence) (index : Fin 6) : ℚ :=
  totalWeight (reports accepted index) CalibrationEvidenceSource.all

section Reports

variable {accepted : List TransformEstimateEvidence} {evidence : TransformEstimateEvidence}
  {index : Fin 6}

@[simp] theorem reports_nil : reports [] index = [] := rfl

theorem reports_cons_of (h : evidence.observableDofs index = true) :
    reports (evidence :: accepted) index =
      (evidence.source, evidence.covariance index) :: reports accepted index := by
  simp [reports, h]

theorem reports_cons_of_not (h : evidence.observableDofs index = false) :
    reports (evidence :: accepted) index = reports accepted index := by
  simp [reports, h]

end Reports

structure Earned (config : CalibrationStateConfig) (machine : CalibrationStateMachine)
    (nowMs : Nat) : Prop where
  counted : ∀ index, config.minimumEvidencePerDof ≤
    (machine.accepted.filter fun evidence => evidence.observableDofs index).length
  diverse : config.minimumIndependentSources ≤
    (machine.accepted.map TransformEstimateEvidence.source).dedup.length
  spanned : ∃ first ∈ machine.accepted, ∃ last ∈ machine.accepted,
    first.capturedAtMs + config.minimumTrustSpanMs ≤ last.capturedAtMs
  fresh : ∃ last ∈ machine.accepted.head?,
    nowMs ≤ last.capturedAtMs + config.maximumEvidenceAgeMs
  bounded : ∀ index, 0 < config.resetCovariance index →
    1 / (1 / config.resetCovariance index + backing machine.accepted index) ≤
      machine.estimate.covariance index
  floored : ∀ index, (reports machine.accepted index = [] ∧
      machine.estimate.covariance index = config.resetCovariance index) ∨
    1 / (1 / max (config.resetCovariance index) epsilon +
      backing machine.accepted index) ≤ machine.estimate.covariance index

theorem epsilon_pos : 0 < epsilon := by norm_num [epsilon]

def Weighed (covariance reset : ℚ) (reported : List (CalibrationEvidenceSource × ℚ)) : Prop :=
  reported = [] ∧ covariance = reset ∨
    0 < covariance ∧ 1 / covariance ≤ 1 / max reset epsilon +
      totalWeight reported CalibrationEvidenceSource.all

section Weighed

variable {covariance reset variance : ℚ} {reported : List (CalibrationEvidenceSource × ℚ)}

theorem Weighed.prior (h : Weighed covariance reset reported) :
    1 / max covariance epsilon ≤ 1 / max reset epsilon +
      totalWeight reported CalibrationEvidenceSource.all := by
  rcases h with ⟨rfl, rfl⟩ | ⟨hpos, hle⟩
  · rw [totalWeight_nil, add_zero]
  · exact (one_div_le_one_div_of_le hpos (le_max_left _ _)).trans hle

theorem one_div_max_le (hvariance : 0 < variance) : 1 / max variance epsilon ≤ 1 / variance :=
  one_div_le_one_div_of_le hvariance (le_max_left _ _)

theorem one_div_le_of_le {weight : ℚ} (hpos : 0 < covariance) (h : 1 / covariance ≤ weight) :
    1 / weight ≤ covariance :=
  (one_div_le hpos ((one_div_pos.mpr hpos).trans_le h)).mp h

theorem Weighed.fused (h : Weighed covariance reset reported) (hpositive : Positive reported)
    (hvariance : 0 < variance) (source : CalibrationEvidenceSource) (known : Bool)
    (hknown : known = false → ∀ report ∈ reported, report.1 ≠ source) :
    Weighed (if known then min (max covariance epsilon) (max variance epsilon)
      else 1 / (1 / max covariance epsilon + 1 / max variance epsilon)) reset
      ((source, variance) :: reported) := by
  have hprior : 0 < max covariance epsilon := lt_max_of_lt_right epsilon_pos
  have hobserved : 0 < max variance epsilon := lt_max_of_lt_right epsilon_pos
  have hbefore := h.prior
  have hweight := one_div_max_le hvariance
  cases known with
  | true =>
    refine .inr ⟨lt_min hprior hobserved, ?_⟩
    rw [if_pos rfl]
    by_cases hle : max covariance epsilon ≤ max variance epsilon
    · rw [min_eq_left hle]
      have hmono := totalWeight_le_cons hpositive hvariance source
        CalibrationEvidenceSource.all
      linarith
    · rw [min_eq_right (not_le.mp hle).le]
      have hown := one_div_le_totalWeight_cons hpositive hvariance (source.mem_all)
      have hreset : 0 < 1 / max reset epsilon :=
        one_div_pos.mpr (lt_max_of_lt_right epsilon_pos)
      linarith
  | false =>
    have hsum : 0 < 1 / max covariance epsilon + 1 / max variance epsilon :=
      add_pos (one_div_pos.mpr hprior) (one_div_pos.mpr hobserved)
    have hnew := totalWeight_add_le_cons hpositive hvariance source.mem_all (hknown rfl)
    refine .inr ⟨one_div_pos.mpr hsum, ?_⟩
    rw [if_neg Bool.false_ne_true, one_div_one_div]
    linarith

theorem Weighed.bounded (h : Weighed covariance reset reported)
    (hreset : 0 < reset) :
    1 / (1 / reset + totalWeight reported CalibrationEvidenceSource.all) ≤ covariance := by
  rcases h with ⟨rfl, rfl⟩ | ⟨hpos, hle⟩
  · rw [totalWeight_nil, add_zero, one_div_one_div]
  · have hfloor := one_div_max_le hreset
    have hweight : 1 / covariance ≤ 1 / reset +
        totalWeight reported CalibrationEvidenceSource.all := by linarith
    exact one_div_le_of_le hpos hweight

end Weighed

namespace CalibrationStateMachine

variable {machine : CalibrationStateMachine} {evidence : TransformEstimateEvidence} {nowMs : Nat}
  {reason : String}

structure Backed (machine : CalibrationStateMachine) : Prop where
  counts : ∀ index, machine.estimate.dofEvidenceCounts index ≤
    (machine.accepted.filter fun evidence => evidence.observableDofs index).length
  sources : ∀ source, 0 < machine.estimate.evidenceCounts source ↔
    source ∈ machine.accepted.map TransformEstimateEvidence.source
  started : machine.estimate.evidenceStartedAtMs =
    machine.accepted.getLast?.map TransformEstimateEvidence.capturedAtMs
  last : ∀ evidence ∈ machine.accepted.head?,
    machine.estimate.updatedAtMs = evidence.capturedAtMs
  latest : ∀ evidence ∈ machine.accepted, evidence.capturedAtMs ≤ machine.estimate.updatedAtMs
  compounding : ∀ index source, source ∈ machine.dofCovarianceSources index ↔
    ∃ report ∈ reports machine.accepted index, report.1 = source
  positive : ∀ index, Positive (reports machine.accepted index)
  weighed : ∀ index, Weighed (machine.estimate.covariance index)
    (machine.config.resetCovariance index) (reports machine.accepted index)

theorem backed_new (configuredGuess : Dofs ℚ) (startedAtMs : Nat)
    (config : CalibrationStateConfig) : (new configuredGuess startedAtMs config).Backed where
  counts := by simp [new]
  sources := by simp [new]
  started := rfl
  last := by simp [new]
  latest := by simp [new]
  compounding := by simp [new]
  positive := by simp [new, Positive]
  weighed index := .inl ⟨rfl, rfl⟩

theorem backed_invalidateEpoch : (machine.invalidateEpoch evidence nowMs reason).Backed where
  counts := by simp [invalidateEpoch]
  sources := by simp [invalidateEpoch]
  started := rfl
  last := by simp [invalidateEpoch]
  latest := by simp [invalidateEpoch]
  compounding := by simp [invalidateEpoch]
  positive := by simp [invalidateEpoch, Positive]
  weighed index := .inl ⟨rfl, rfl⟩

theorem Backed.refreshTrustState (h : machine.Backed) (nowMs : Nat) :
    (machine.refreshTrustState nowMs).Backed := by
  rw [CalibrationStateMachine.refreshTrustState]
  by_cases hinvalidated : machine.estimate.trustState = .invalidated
  · rwa [if_pos hinvalidated]
  · rw [if_neg hinvalidated]
    exact ⟨h.counts, h.sources, h.started, h.last, h.latest, h.compounding, h.positive, h.weighed⟩

theorem Backed.withReason (h : machine.Backed) : (machine.withReason reason).Backed :=
  ⟨h.counts, h.sources, h.started, h.last, h.latest, h.compounding, h.positive, h.weighed⟩

theorem Backed.reopened (h : machine.Backed) : machine.reopened.Backed := by
  rw [CalibrationStateMachine.reopened]
  by_cases hinvalidated : machine.estimate.trustState = .invalidated
  · rw [if_pos hinvalidated]
    exact ⟨h.counts, h.sources, h.started, h.last, h.latest, h.compounding, h.positive, h.weighed⟩
  · rwa [if_neg hinvalidated]

@[simp] theorem accepted_reopened : machine.reopened.accepted = machine.accepted := by
  rw [reopened]
  by_cases hinvalidated : machine.estimate.trustState = .invalidated <;> simp [hinvalidated]

@[simp] theorem updatedAtMs_reopened :
    machine.reopened.estimate.updatedAtMs = machine.estimate.updatedAtMs := by
  rw [reopened]
  by_cases hinvalidated : machine.estimate.trustState = .invalidated <;> simp [hinvalidated]

theorem of_validateEvidence (h : machine.validateEvidence evidence nowMs = none) :
    machine.estimate.updatedAtMs ≤ evidence.capturedAtMs ∧
      ∀ index, evidence.observableDofs index = true → 0 < evidence.covariance index := by
  rw [validateEvidence] at h
  by_cases hstale : machine.config.maximumEvidenceAgeMs < nowMs - evidence.capturedAtMs
  · simp [hstale] at h
  by_cases hpredates : evidence.capturedAtMs < machine.estimate.updatedAtMs
  · simp [hstale, hpredates] at h
  by_cases hobserves : dofs.any evidence.observableDofs = true
  · rw [if_neg hstale, if_neg hpredates, hobserves] at h
    have hvalid : dofs.find? (invalidDof evidence) = none := by simpa using h
    refine ⟨not_lt.mp hpredates, fun index hobservable => ?_⟩
    have hindex := List.find?_eq_none.mp hvalid index (mem_dofs index)
    simpa [invalidDof, hobservable] using hindex
  · simp [hstale, hpredates, hobserves] at h

theorem Backed.counted (h : machine.Backed)
    (htime : machine.estimate.updatedAtMs ≤ evidence.capturedAtMs)
    (hvalid : ∀ index, evidence.observableDofs index = true → 0 < evidence.covariance index) :
    (machine.counted evidence).Backed := by
  have hopen := h.reopened
  exact {
    counts := fun index => by
      have hcount := hopen.counts index
      rw [accepted_reopened] at hcount
      cases hobservable : evidence.observableDofs index with
      | true => simp [CalibrationStateMachine.counted, fuse, hobservable]; omega
      | false => simpa [CalibrationStateMachine.counted, fuse, hobservable] using hcount
    sources := fun source => by
      have hsource := hopen.sources source
      by_cases heq : source = evidence.source
      · simp [CalibrationStateMachine.counted, fuse, heq]
      · simpa [CalibrationStateMachine.counted, fuse, heq] using hsource
    started := by
      have hstarted := hopen.started
      simp only [CalibrationStateMachine.counted, fuse, hstarted, List.getLast?_cons]
      cases machine.reopened.accepted.getLast? <;> simp
    last := by simp [CalibrationStateMachine.counted]
    latest := fun other hother => by
      rcases List.mem_cons.mp hother with rfl | hother
      · exact le_refl _
      · have hlatest := hopen.latest other hother
        rw [updatedAtMs_reopened] at hlatest
        exact hlatest.trans htime
    compounding := fun index source => by
      have hsource := hopen.compounding index source
      cases hobservable : evidence.observableDofs index with
      | true =>
        simp only [CalibrationStateMachine.counted, fuse, hobservable, if_true,
          Finset.mem_insert, hsource, reports_cons_of, List.exists_mem_cons_iff]
        exact or_congr_left eq_comm
      | false =>
        simpa [CalibrationStateMachine.counted, fuse, reports_cons_of_not hobservable,
          hobservable] using hsource
    positive := fun index report hreport => by
      cases hobservable : evidence.observableDofs index with
      | true =>
        rw [CalibrationStateMachine.counted, reports_cons_of hobservable] at hreport
        rcases List.mem_cons.mp hreport with rfl | hreport
        · exact hvalid index hobservable
        · exact hopen.positive index report hreport
      | false =>
        rw [CalibrationStateMachine.counted, reports_cons_of_not hobservable] at hreport
        exact hopen.positive index report hreport
    weighed := fun index => by
      have hweighed := hopen.weighed index
      cases hobservable : evidence.observableDofs index with
      | true =>
        have hknown : decide (evidence.source ∈ machine.reopened.dofCovarianceSources index) =
            false → ∀ report ∈ reports machine.reopened.accepted index,
              report.1 ≠ evidence.source := by
          intro hnew report hreport heq
          exact of_decide_eq_false hnew
            ((hopen.compounding index evidence.source).mpr ⟨report, hreport, heq⟩)
        have hfused := hweighed.fused (hopen.positive index) (hvalid index hobservable)
          evidence.source _ hknown
        simpa [CalibrationStateMachine.counted, fuse, fusedCovariance, hobservable,
          reports_cons_of hobservable] using hfused
      | false =>
        simpa [CalibrationStateMachine.counted, fuse, hobservable,
          reports_cons_of_not hobservable] using hweighed }

theorem observe_cases (machine : CalibrationStateMachine) (evidence : TransformEstimateEvidence)
    (nowMs : Nat) :
    (∃ reason, machine.observe evidence nowMs =
        (machine.cleared.refreshTrustState nowMs).withReason reason) ∨
      (∃ reason, machine.observe evidence nowMs =
        machine.cleared.invalidateEpoch evidence nowMs reason) ∨
      machine.cleared.validateEvidence evidence nowMs = none ∧ machine.observe evidence nowMs =
        (machine.cleared.counted evidence).refreshTrustState nowMs := by
  rw [observe]
  cases hvalid : machine.cleared.validateEvidence evidence nowMs with
  | some reason => exact .inl ⟨reason, rfl⟩
  | none =>
    cases hshift : machine.cleared.suddenShift evidence with
    | some reason => exact .inr (.inl ⟨reason, rfl⟩)
    | none => exact .inr (.inr ⟨rfl, rfl⟩)

theorem Backed.cleared (h : machine.Backed) : machine.cleared.Backed :=
  ⟨h.counts, h.sources, h.started, h.last, h.latest, h.compounding, h.positive, h.weighed⟩

theorem Backed.observe (h : machine.Backed) (evidence : TransformEstimateEvidence) (nowMs : Nat) :
    (machine.observe evidence nowMs).Backed := by
  rcases observe_cases machine evidence nowMs with ⟨reason, heq⟩ | ⟨reason, heq⟩ | ⟨hvalid, heq⟩
  · rw [heq]
    exact (h.cleared.refreshTrustState nowMs).withReason
  · rw [heq]
    exact backed_invalidateEpoch
  · have hfacts := of_validateEvidence hvalid
    rw [heq]
    exact (h.cleared.counted hfacts.1 hfacts.2).refreshTrustState nowMs

theorem Backed.step (h : machine.Backed) (call : Call) : (machine.step call).Backed := by
  cases call with
  | observe evidence nowMs => exact h.observe evidence nowMs
  | refresh nowMs => exact h.refreshTrustState nowMs
  | invalidate nowMs reason => exact backed_invalidateEpoch

theorem backed_run (configuredGuess : Dofs ℚ) (startedAtMs : Nat) (config : CalibrationStateConfig)
    (calls : List Call) :
    (after step (new configuredGuess startedAtMs config) calls).Backed :=
  after_invariant (backed_new configuredGuess startedAtMs config) (fun _ call h => h.step call) calls

theorem earnedTrust_eq_trusted (h : machine.earnedTrust nowMs = .trusted) :
    machine.evidenceStale nowMs = false ∧ machine.allObservable = true ∧
      machine.sourceDiversityReady = true ∧ machine.temporalSeparationReady = true := by
  rw [earnedTrust] at h
  by_cases hdegraded : (machine.estimate.residuals.degraded || machine.evidenceStale nowMs) = true
  · simp [hdegraded] at h
  · rw [if_neg hdegraded] at h
    have hstale : machine.evidenceStale nowMs = false := by
      simp only [Bool.or_eq_true, not_or, Bool.not_eq_true] at hdegraded
      exact hdegraded.2
    by_cases hready : (machine.allObservable && machine.covarianceReady &&
        machine.sourceDiversityReady && machine.temporalSeparationReady) = true
    · have hparts : ((machine.allObservable = true ∧ machine.covarianceReady = true) ∧
          machine.sourceDiversityReady = true) ∧ machine.temporalSeparationReady = true := by
        simpa using hready
      exact ⟨hstale, hparts.1.1.1, hparts.1.2, hparts.2⟩
    · rw [if_neg hready] at h
      by_cases hempty : machine.estimate.countedSources.isEmpty = true <;> simp [hempty] at h

theorem Backed.length_countedSources (h : machine.Backed) :
    machine.estimate.countedSources.length ≤
      (machine.accepted.map TransformEstimateEvidence.source).dedup.length := by
  have hnodup : machine.estimate.countedSources.Nodup :=
    List.Nodup.filter _ (by decide)
  refine (hnodup.subperm fun source hsource => ?_).length_le
  rw [LiveCalibrationEstimate.countedSources, List.mem_filter, decide_eq_true_eq] at hsource
  exact List.mem_dedup.mpr ((h.sources source).mp hsource.2)

theorem Backed.earned (h : machine.Backed) (htrusted : machine.earnedTrust nowMs = .trusted) :
    Earned machine.config machine nowMs := by
  obtain ⟨hstale, hobservable, hdiverse, hseparate⟩ := earnedTrust_eq_trusted htrusted
  have hstarted : ∃ first ∈ machine.accepted.getLast?,
      machine.config.minimumTrustSpanMs ≤ machine.estimate.updatedAtMs - first.capturedAtMs := by
    rw [temporalSeparationReady, h.started, Option.any_map, Option.any_eq_true] at hseparate
    simpa using hseparate
  obtain ⟨first, hfirst, hspan⟩ := hstarted
  have hmem := List.mem_of_getLast? (Option.mem_def.mp hfirst)
  obtain ⟨last, hlast⟩ := Option.isSome_iff_exists.mp
    (List.isSome_head?.mpr (List.ne_nil_of_mem hmem))
  have hupdated := h.last last hlast
  have hearliest := h.latest first hmem
  have hfresh : nowMs - machine.estimate.updatedAtMs ≤ machine.config.maximumEvidenceAgeMs := by
    have hcounted : first.source ∈ machine.estimate.countedSources :=
      List.mem_filter.mpr ⟨first.source.mem_all,
        decide_eq_true ((h.sources _).mpr (List.mem_map_of_mem hmem))⟩
    have hsome : machine.estimate.countedSources.isEmpty = false := by
      rw [Bool.eq_false_iff, Ne, List.isEmpty_iff]
      exact List.ne_nil_of_mem hcounted
    rw [evidenceStale, evidenceFresh, hsome] at hstale
    simpa using hstale
  exact {
    counted := fun index => by
      have hcount := List.all_eq_true.mp hobservable index (mem_dofs index)
      exact (of_decide_eq_true hcount).trans (h.counts index)
    diverse := (of_decide_eq_true hdiverse).trans h.length_countedSources
    spanned := ⟨first, hmem, last, List.mem_of_head? hlast, by omega⟩
    fresh := ⟨last, hlast, by omega⟩
    bounded := fun index => (h.weighed index).bounded
    floored := fun index => (h.weighed index).imp id fun hweighed =>
      one_div_le_of_le hweighed.1 hweighed.2 }

theorem earned_refreshTrustState (h : machine.Backed)
    (htrusted : (machine.refreshTrustState nowMs).estimate.trustState = .trusted) :
    Earned machine.config (machine.refreshTrustState nowMs) nowMs := by
  rw [refreshTrustState] at htrusted ⊢
  by_cases hinvalidated : machine.estimate.trustState = .invalidated
  · rw [if_pos hinvalidated, hinvalidated] at htrusted
    cases htrusted
  · rw [if_neg hinvalidated] at htrusted ⊢
    have hearned := h.earned htrusted
    exact ⟨hearned.counted, hearned.diverse, hearned.spanned, hearned.fresh, hearned.bounded,
      hearned.floored⟩

@[simp] theorem config_refreshTrustState :
    (machine.refreshTrustState nowMs).config = machine.config := by
  rw [refreshTrustState]
  by_cases hinvalidated : machine.estimate.trustState = .invalidated <;> simp [hinvalidated]

@[simp] theorem config_counted : (machine.counted evidence).config = machine.config := by
  rw [counted, reopened]
  by_cases hinvalidated : machine.estimate.trustState = .invalidated <;>
    simp [hinvalidated, fuse]

def Call.checkedAtMs : Call → Option Nat
  | .observe _ nowMs => some nowMs
  | .refresh nowMs => some nowMs
  | .invalidate _ _ => none

theorem earned_step (h : machine.Backed) (call : Call) (hchecked : call.checkedAtMs = some nowMs)
    (htrusted : (machine.step call).estimate.trustState = .trusted) :
    Earned machine.config (machine.step call) nowMs := by
  cases call with
  | observe evidence checkedMs =>
    obtain rfl : checkedMs = nowMs := Option.some.inj hchecked
    rw [step] at htrusted ⊢
    rcases observe_cases machine evidence checkedMs with ⟨reason, heq⟩ | ⟨reason, heq⟩ |
      ⟨hvalid, heq⟩
    · rw [heq] at htrusted ⊢
      have hearned := earned_refreshTrustState h.cleared htrusted
      exact ⟨hearned.counted, hearned.diverse, hearned.spanned, hearned.fresh,
        hearned.bounded, hearned.floored⟩
    · rw [heq] at htrusted
      cases htrusted
    · have hfacts := of_validateEvidence hvalid
      rw [heq] at htrusted ⊢
      have hearned := earned_refreshTrustState (h.cleared.counted hfacts.1 hfacts.2) htrusted
      rwa [config_counted] at hearned
  | refresh checkedMs =>
    obtain rfl : checkedMs = nowMs := Option.some.inj hchecked
    exact earned_refreshTrustState h htrusted
  | invalidate checkedMs reason => cases hchecked

theorem config_step (call : Call) : (machine.step call).config = machine.config := by
  cases call with
  | observe evidence nowMs =>
    rw [step]
    rcases observe_cases machine evidence nowMs with ⟨reason, heq⟩ | ⟨reason, heq⟩ | ⟨-, heq⟩ <;>
      simp [heq, withReason, invalidateEpoch, cleared]
  | refresh nowMs => simp [step, refresh]
  | invalidate nowMs reason => rfl

theorem config_run (configuredGuess : Dofs ℚ) (startedAtMs : Nat) (config : CalibrationStateConfig)
    (calls : List Call) :
    (after step (new configuredGuess startedAtMs config) calls).config = config :=
  after_invariant (P := fun machine : CalibrationStateMachine => machine.config = config) rfl
    (fun _ call h => (config_step call).trans h) calls

/-- After every run, a state that a call has checked and found trusted is earned. -/
theorem trusted_earned (configuredGuess : Dofs ℚ) (startedAtMs : Nat)
    (config : CalibrationStateConfig) (calls : List Call) (call : Call) (nowMs : Nat)
    (hchecked : call.checkedAtMs = some nowMs)
    (htrusted : (after step (new configuredGuess startedAtMs config)
      (calls ++ [call])).estimate.trustState = .trusted) :
    Earned config (after step (new configuredGuess startedAtMs config) (calls ++ [call]))
      nowMs := by
  rw [after_append] at htrusted ⊢
  have hearned := earned_step (backed_run configuredGuess startedAtMs config calls) call hchecked
    htrusted
  rwa [config_run] at hearned

def observed (source : CalibrationEvidenceSource) (nowMs : Nat) : Call :=
  .observe {
    source := source
    capturedAtMs := nowMs
    transform := fun _ => 0
    observableDofs := fun _ => true
    covariance := fun _ => 0.001 } nowMs

/-- Two sources that observe the transform in turn. -/
theorem trusted_earned_in_turn : Earned {}
    (after step (new (fun _ => 0) 0 {}) ([observed .persistentSurface 0,
      observed .mapConsistency 500, observed .persistentSurface 1000] ++
      [observed .mapConsistency 1500])) 1500 :=
  trusted_earned (fun _ => 0) 0 {} _ _ 1500 rfl (by decide +kernel)

end CalibrationStateMachine

end Netherwick.Calibration
