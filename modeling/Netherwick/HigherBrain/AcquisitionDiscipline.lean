import Netherwick.HigherBrain.FailoverRun

/-! # When a host may ask for the body, and when it may drive it

The two cells of the machine that pace its attempts are read off the history of its ticks: the
attempt that is still open, and the moment of the last attempt or refusal. -/

namespace Netherwick.HigherBrain

open Netherwick.Lib

namespace TickRecord

def nowMs (e : TickRecord) : Nat := e.observation.nowMs

def attempted (e : TickRecord) : Option Nat :=
  e.decision.actions.findSome? FailoverAction.expectedGeneration?

def answers (e : TickRecord) (generation : Nat) : Bool :=
  e.observation.acquisitionResult.isSome && e.observation.acquisitionGeneration = some generation

def reads (e : TickRecord) : Bool := e.before.readsResult e.observation

def holds (e : TickRecord) : Bool := e.before.holdsRole e.observation

end TickRecord

section Ledger

variable (reads : TickRecord → Bool)

/-- The last attempt that has not been answered, among the answers that count. Control closes an
attempt as an answer does. -/
def outstanding : List TickRecord → Option Nat
  | [] => none
  | e :: past =>
    if e.attempted.isSome then e.attempted
    else if e.holds then none
    else (outstanding past).filter fun generation => !(reads e && e.answers generation)

def refuses (e : TickRecord) (past : List TickRecord) : Bool :=
  reads e && e.observation.acquisitionResult = some .refused &&
    (outstanding reads past).any fun generation =>
      e.observation.acquisitionGeneration = some generation

/-- The moment of the last attempt or matching refusal, unless the host has controlled since. -/
def lastPaced : List TickRecord → Option Nat
  | [] => none
  | e :: past =>
    if e.attempted.isSome || refuses reads e past then some e.nowMs
    else if e.decision.role = .controlling then none
    else lastPaced past

/-- The observation grants the attempt of an earlier tick. No tick in between attempted again,
started the role or saw an answer. -/
def Granted (e : TickRecord) (past : List TickRecord) : Prop :=
  e.observation.acquisitionResult = some .granted ∧
    ∃ generation, e.observation.acquisitionGeneration = some generation ∧
      ∃ recent attempt earlier, past = recent ++ attempt :: earlier ∧
        .attemptAtomicAcquisition generation ∈ attempt.decision.actions ∧
        ∀ r ∈ recent, (∀ other, .attemptAtomicAcquisition other ∉ r.decision.actions) ∧
          .startBodyFacingRole ∉ r.decision.actions ∧
          (reads r && r.answers generation) = false

/-- What the machine of one host may decide, after the ticks it has behind it. -/
structure Disciplined (identity : HostIdentity) (config : FailoverConfig) (e : TickRecord)
    (past : List TickRecord) : Prop where
  names : ∀ generation, .attemptAtomicAcquisition generation ∈ e.decision.actions →
    e.observation.controller.freshUncontrolled e.nowMs config.controllerFreshnessMs =
      some generation
  paced : ∀ generation, .attemptAtomicAcquisition generation ∈ e.decision.actions →
    ∀ last, lastPaced reads past = some last → last + config.retryBackoffMs ≤ e.nowMs
  started : .startBodyFacingRole ∈ e.decision.actions → Granted reads e past
  controlling : e.decision.role = .controlling →
    e.observation.controller.activeOwner e.nowMs config.controllerFreshnessMs =
      some (identity.nodeId, identity.bootId) ∨ Granted reads e past
  yields : ∀ owner,
    e.observation.controller.activeOwner e.nowMs config.controllerFreshnessMs = some owner →
      owner ≠ (identity.nodeId, identity.bootId) → Passive e.decision.actions

end Ledger

section Reading

variable {m : HostFailover} {o : ConnectivityObservation}

theorem activeOwner_of_selfControls (h : m.selfControls o = true) :
    m.activeOwner o = some (m.identity.nodeId, m.identity.bootId) := by
  unfold HostFailover.selfControls at h
  cases howner : m.activeOwner o with
  | none => simp [howner] at h
  | some owner =>
    rw [howner] at h
    simp only [Option.any_some, Bool.and_eq_true, decide_eq_true_eq] at h
    rw [← h.1, ← h.2]

theorem activeOwner_of_readsResult (h : m.readsResult o = true) : m.activeOwner o = none := by
  have hself : m.selfControls o = false := by
    by_contra hself
    simp [HostFailover.readsResult, hself] at h
  have hother : m.otherControls o = false := by
    by_contra hother
    simp [HostFailover.readsResult, hother] at h
  cases howner : m.activeOwner o with
  | none => rfl
  | some owner =>
    simp [HostFailover.selfControls, howner] at hself
    simp [HostFailover.otherControls, howner] at hother
    exact absurd hother.2 (hself hother.1)

theorem holdsRole_of_readsResult (h : m.readsResult o = true) : m.holdsRole o = false := by
  have hself : m.selfControls o = false := by
    by_contra hself
    simp [HostFailover.readsResult, hself] at h
  simp [HostFailover.holdsRole, hself]

theorem attempted_of_passive {e : TickRecord} (h : Passive e.decision.actions) :
    e.attempted = none := (passive_iff.mp h).2.2

end Reading

section Ledger

variable {reads : TickRecord → Bool} {e : TickRecord} {past : List TickRecord} {generation : Nat}

theorem outstanding_attempt (h : e.attempted = some generation) :
    outstanding reads (e :: past) = some generation := by
  simp [outstanding, h]

theorem outstanding_held (hattempt : e.attempted = none) (hheld : e.holds = true) :
    outstanding reads (e :: past) = none := by
  simp [outstanding, hattempt, hheld]

theorem outstanding_idle (hattempt : e.attempted = none) (hunheld : e.holds = false)
    (hopen : ∀ generation, outstanding reads past = some generation →
      (reads e && e.answers generation) = false) :
    outstanding reads (e :: past) = outstanding reads past := by
  rw [outstanding, hattempt, hunheld, if_neg (by simp), if_neg (by simp)]
  cases hlast : outstanding reads past with
  | none => rfl
  | some generation => rw [Option.filter_some, hopen generation hlast, Bool.not_false, if_pos rfl]

theorem outstanding_answered (hattempt : e.attempted = none)
    (hopen : outstanding reads past = some generation) (hread : reads e = true)
    (hanswer : e.answers generation = true) : outstanding reads (e :: past) = none := by
  simp [outstanding, hattempt, hopen, hread, hanswer]

theorem exists_attempt_of_outstanding
    (hclosed : Annals (fun e past => .startBodyFacingRole ∈ e.decision.actions →
      outstanding reads (e :: past) = none) past)
    (h : outstanding reads past = some generation) :
    ∃ recent attempt earlier, past = recent ++ attempt :: earlier ∧
      .attemptAtomicAcquisition generation ∈ attempt.decision.actions ∧
      ∀ r ∈ recent, (∀ other, .attemptAtomicAcquisition other ∉ r.decision.actions) ∧
        .startBodyFacingRole ∉ r.decision.actions ∧
        (reads r && r.answers generation) = false := by
  induction past with
  | nil => simp [outstanding] at h
  | cons e past ih =>
    have hquiet : .startBodyFacingRole ∉ e.decision.actions := by
      intro hstart
      rw [hclosed.1 hstart] at h
      cases h
    cases hattempt : e.attempted with
    | some other =>
      rw [outstanding_attempt hattempt] at h
      obtain ⟨action, hmem, hexpected⟩ := List.exists_of_findSome?_eq_some hattempt
      refine ⟨[], e, past, rfl, ?_, by simp⟩
      cases action <;> simp_all [FailoverAction.expectedGeneration?]
    | none =>
      unfold outstanding at h
      split at h
      · rename_i hsome
        simp [hattempt] at hsome
      · split at h
        · cases h
        · rw [Option.filter_eq_some_iff] at h
          obtain ⟨recent, attempt, earlier, rfl, hmem, hrecent⟩ := ih hclosed.2 h.1
          refine ⟨e :: recent, attempt, earlier, rfl, hmem, ?_⟩
          intro r hr
          rcases List.mem_cons.mp hr with rfl | hr
          · refine ⟨?_, hquiet, (Bool.not_eq_true' _).mp h.2⟩
            intro other hother
            have := List.findSome?_eq_none_iff.mp hattempt _ hother
            simp [FailoverAction.expectedGeneration?] at this
          · exact hrecent r hr

theorem lastPaced_of_quiet (hattempt : e.attempted = none) (hrefused : refuses reads e past = false)
    {last : Nat} (h : lastPaced reads (e :: past) = some last) :
    e.decision.role ≠ .controlling ∧ lastPaced reads past = some last := by
  unfold lastPaced at h
  rw [hattempt, hrefused] at h
  simp only [Option.isSome_none, Bool.or_self, Bool.false_eq_true, if_false] at h
  split at h
  · cases h
  · rename_i hrole
    exact ⟨hrole, h⟩

theorem lastPaced_stamped (h : e.attempted.isSome = true ∨ refuses reads e past = true) :
    lastPaced reads (e :: past) = some e.nowMs := by
  rcases h with h | h <;> simp [lastPaced, h]

end Ledger

/-- The cells of the machine are what its history says. -/
structure DisciplineInv (identity : HostIdentity) (config : FailoverConfig) (w : Watch) : Prop where
  host : w.machine.identity = identity
  settings : w.machine.config = config
  generation : w.machine.lastAcquisitionGeneration = outstanding TickRecord.reads w.history
  attempt : ∀ last, lastPaced TickRecord.reads w.history = some last →
    w.machine.lastAcquisitionAttemptMs = some last
  closed : Annals (fun e past => .startBodyFacingRole ∈ e.decision.actions →
    outstanding TickRecord.reads (e :: past) = none) w.history
  disciplined : Annals (Disciplined TickRecord.reads identity config) w.history

section Step

variable {identity : HostIdentity} {config : FailoverConfig} {w : Watch}
  {o : ConnectivityObservation}

theorem DisciplineInv.answered (h : DisciplineInv identity config w)
    (hmatch : w.machine.resultMatchesAttempt o = true) (hresult : o.acquisitionResult.isSome = true) :
    ∃ generation, outstanding TickRecord.reads w.history = some generation ∧
      o.acquisitionGeneration = some generation ∧ (w.record o).answers generation = true := by
  unfold HostFailover.resultMatchesAttempt at hmatch
  simp only [Bool.and_eq_true, decide_eq_true_eq] at hmatch
  obtain ⟨generation, hgeneration⟩ := Option.isSome_iff_exists.mp hmatch.1
  refine ⟨generation, ?_, hgeneration, ?_⟩
  · rw [← h.generation, ← hmatch.2, hgeneration]
  · simp [TickRecord.answers, Watch.record, hresult, hgeneration]

theorem DisciplineInv.granted (h : DisciplineInv identity config w)
    (hresult : o.acquisitionResult = some .granted)
    (hmatch : w.machine.resultMatchesAttempt o = true) :
    Granted TickRecord.reads (w.record o) w.history := by
  obtain ⟨generation, hopen, hechoed, _⟩ := h.answered hmatch (by simp [hresult])
  exact ⟨hresult, generation, hechoed, exists_attempt_of_outstanding h.closed hopen⟩

theorem DisciplineInv.unanswered (h : DisciplineInv identity config w)
    (hread : w.machine.readsResult o = true → w.machine.resultMatchesAttempt o = true →
      o.acquisitionResult = none) {generation : Nat}
    (hopen : outstanding TickRecord.reads w.history = some generation) :
    ((w.record o).reads && (w.record o).answers generation) = false := by
  rw [Bool.and_eq_false_iff, or_iff_not_imp_left, Bool.not_eq_false]
  intro hreads
  by_cases hechoed : o.acquisitionGeneration = some generation
  · have hmatch : w.machine.resultMatchesAttempt o = true := by
      simp [HostFailover.resultMatchesAttempt, h.generation, hopen, hechoed]
    simp [TickRecord.answers, Watch.record, hread hreads hmatch]
  · simp [TickRecord.answers, Watch.record, hechoed]

theorem refuses_eq_false {e : TickRecord} {past : List TickRecord}
    (h : ∀ generation, outstanding TickRecord.reads past = some generation →
      (e.reads && e.answers generation) = false) : refuses TickRecord.reads e past = false := by
  cases hrefuses : refuses TickRecord.reads e past with
  | false => rfl
  | true =>
    simp only [refuses, Bool.and_eq_true, decide_eq_true_eq, Option.any_eq_true] at hrefuses
    obtain ⟨⟨hread, hresult⟩, generation, hopen, hechoed⟩ := hrefuses
    have hanswer := h generation hopen
    simp [hread, TickRecord.answers, hresult, hechoed] at hanswer

theorem attempted_of_started {e : TickRecord} {links : List FailoverAction} (hlinks : Passive links)
    (hactions : e.decision.actions = links ++ [.startBodyFacingRole]) : e.attempted = none := by
  rw [TickRecord.attempted, hactions, List.findSome?_append, (passive_iff.mp hlinks).2.2]
  rfl

theorem attempted_of_attempt {e : TickRecord} {links : List FailoverAction} {generation : Nat}
    (hlinks : Passive links)
    (hactions : e.decision.actions = links ++ [.attemptAtomicAcquisition generation]) :
    e.attempted = some generation := by
  rw [TickRecord.attempted, hactions, List.findSome?_append, (passive_iff.mp hlinks).2.2]
  rfl

theorem outstanding_tick (h : DisciplineInv identity config w) :
    (w.tick o).machine.lastAcquisitionGeneration =
      outstanding TickRecord.reads (w.tick o).history := by
  cases HostFailover.tick_acquisition w.machine o with
  | idle hattempt hgeneration hactions hrole hunheld hread =>
    have hnone : (w.record o).attempted = none := attempted_of_passive hactions
    exact (hgeneration.trans h.generation).trans
      (outstanding_idle hnone hunheld fun _ => h.unanswered hread).symm
  | held hheld hattempt hgeneration hrole hstart hactions =>
    have hnone : (w.record o).attempted = none :=
      findSome?_expectedGeneration?_eq_none_iff.mpr hactions
    exact hgeneration.trans (outstanding_held hnone hheld).symm
  | granted hread hresult hmatch hattempt hgeneration hrole links hlinks hactions =>
    have hnone : (w.record o).attempted = none := attempted_of_started hlinks hactions
    obtain ⟨generation, hopen, _, hanswer⟩ := h.answered hmatch (by simp [hresult])
    exact hgeneration.trans (outstanding_answered hnone hopen hread hanswer).symm
  | refused hread hresult hmatch hattempt hgeneration hrole hactions =>
    have hnone : (w.record o).attempted = none := attempted_of_passive hactions
    obtain ⟨generation, hopen, _, hanswer⟩ := h.answered hmatch (by simp [hresult])
    exact hgeneration.trans (outstanding_answered hnone hopen hread hanswer).symm
  | attempted generation hread hfresh hpaced hattempt hgeneration hrole links hlinks hactions =>
    have hsome : (w.record o).attempted = some generation := attempted_of_attempt hlinks hactions
    exact hgeneration.trans (outstanding_attempt hsome).symm

theorem lastPaced_tick (h : DisciplineInv identity config w) {last : Nat}
    (hlast : lastPaced TickRecord.reads (w.tick o).history = some last) :
    (w.tick o).machine.lastAcquisitionAttemptMs = some last := by
  cases HostFailover.tick_acquisition w.machine o with
  | idle hattempt hgeneration hactions hrole hunheld hread =>
    have hnone : (w.record o).attempted = none := attempted_of_passive hactions
    have hrefuses := refuses_eq_false fun _ => h.unanswered hread
    exact hattempt.trans (h.attempt last (lastPaced_of_quiet hnone hrefuses hlast).2)
  | held hheld hattempt hgeneration hrole hstart hactions =>
    have hnone : (w.record o).attempted = none :=
      findSome?_expectedGeneration?_eq_none_iff.mpr hactions
    have hrefuses : refuses TickRecord.reads (w.record o) w.history = false := by
      apply refuses_eq_false
      intro generation _
      rw [Bool.and_eq_false_iff]
      left
      by_contra hread
      rw [Bool.not_eq_false] at hread
      cases (holdsRole_of_readsResult hread).symm.trans hheld
    exact absurd hrole (lastPaced_of_quiet hnone hrefuses hlast).1
  | granted hread hresult hmatch hattempt hgeneration hrole links hlinks hactions =>
    have hnone : (w.record o).attempted = none := attempted_of_started hlinks hactions
    have hrefuses : refuses TickRecord.reads (w.record o) w.history = false := by
      simp [refuses, Watch.record, hresult]
    exact absurd hrole (lastPaced_of_quiet hnone hrefuses hlast).1
  | refused hread hresult hmatch hattempt hgeneration hrole hactions =>
    obtain ⟨generation, hopen, hechoed, _⟩ := h.answered hmatch (by simp [hresult])
    have hrefuses : refuses TickRecord.reads (w.record o) w.history = true := by
      simp [refuses, TickRecord.reads, Watch.record, hread, hresult, hopen, hechoed]
    exact hattempt.trans ((lastPaced_stamped (.inr hrefuses)).symm.trans hlast)
  | attempted generation hread hfresh hpaced hattempt hgeneration hrole links hlinks hactions =>
    have hsome : (w.record o).attempted = some generation := attempted_of_attempt hlinks hactions
    exact hattempt.trans ((lastPaced_stamped (.inl (by simp [hsome]))).symm.trans hlast)

theorem closed_tick (h : DisciplineInv identity config w)
    (hstart : .startBodyFacingRole ∈ (w.record o).decision.actions) :
    outstanding TickRecord.reads (w.tick o).history = none := by
  rw [← outstanding_tick h]
  cases HostFailover.tick_acquisition w.machine o with
  | idle hattempt hgeneration hactions hrole hunheld hread => exact absurd hstart hactions.1
  | held hheld hattempt hgeneration hrole hstart' hactions => exact hgeneration
  | granted hread hresult hmatch hattempt hgeneration hrole links hlinks hactions =>
    exact hgeneration
  | refused hread hresult hmatch hattempt hgeneration hrole hactions => exact hgeneration
  | attempted generation hread hfresh hpaced hattempt hgeneration hrole links hlinks hactions =>
    rw [Watch.record, hactions] at hstart
    simp [hlinks.1] at hstart

theorem disciplined_tick (h : DisciplineInv identity config w) (hbackoff : 0 < config.retryBackoffMs) :
    Disciplined TickRecord.reads identity config (w.record o) w.history := by
  have howned : w.machine.selfControls o = true →
      o.controller.activeOwner o.nowMs config.controllerFreshnessMs =
        some (identity.nodeId, identity.bootId) := by
    intro hself
    rw [← h.host, ← h.settings]
    exact activeOwner_of_selfControls hself
  have hunowned : w.machine.readsResult o = true →
      o.controller.activeOwner o.nowMs config.controllerFreshnessMs = none := by
    intro hread
    rw [← h.settings]
    exact activeOwner_of_readsResult hread
  cases HostFailover.tick_acquisition w.machine o with
  | idle hattempt hgeneration hactions hrole hunheld hread =>
    constructor
    · intro generation hmem
      exact absurd hmem (hactions.2.2 generation)
    · intro generation hmem
      exact absurd hmem (hactions.2.2 generation)
    · intro hstart
      exact absurd hstart hactions.1
    · intro hcontrolling
      exact .inl (howned (hrole hcontrolling))
    · intro _ _ _
      exact hactions
  | held hheld hattempt hgeneration hrole hstart hactions =>
    have hself : w.machine.selfControls o = true := by
      simp only [HostFailover.holdsRole, Bool.and_eq_true] at hheld
      exact hheld.1.2
    constructor
    · intro generation hmem
      exact absurd hmem (hactions generation)
    · intro generation hmem
      exact absurd hmem (hactions generation)
    · intro hmem
      exact absurd hmem hstart
    · intro _
      exact .inl (howned hself)
    · intro owner howner hother
      have hsame : some owner = some (identity.nodeId, identity.bootId) :=
        howner.symm.trans (howned hself)
      exact absurd (Option.some.inj hsame) hother
  | granted hread hresult hmatch hattempt hgeneration hrole links hlinks hactions =>
    have hgranted : Granted TickRecord.reads (w.record o) w.history := h.granted hresult hmatch
    have hno : ∀ generation,
        .attemptAtomicAcquisition generation ∉ (w.record o).decision.actions := by
      rw [Watch.record, hactions]
      simp [hlinks.2.2]
    constructor
    · intro generation hmem
      exact absurd hmem (hno generation)
    · intro generation hmem
      exact absurd hmem (hno generation)
    · intro _
      exact hgranted
    · intro _
      exact .inr hgranted
    · intro owner howner _
      cases howner.symm.trans (hunowned hread)
  | refused hread hresult hmatch hattempt hgeneration hrole hactions =>
    constructor
    · intro generation hmem
      exact absurd hmem (hactions.2.2 generation)
    · intro generation hmem
      exact absurd hmem (hactions.2.2 generation)
    · intro hstart
      exact absurd hstart hactions.1
    · intro hcontrolling
      cases hrole.symm.trans hcontrolling
    · intro _ _ _
      exact hactions
  | attempted generation hread hfresh hpaced hattempt hgeneration hrole links hlinks hactions =>
    constructor
    · intro other hmem
      rw [Watch.record, hactions] at hmem
      have hsame : other = generation := by simpa [hlinks.2.2] using hmem
      rw [hsame, ← hfresh, ← h.settings]
      rfl
    · intro other _ last hlast
      have hcell := h.attempt last hlast
      rw [HostFailover.withinBackoff, hcell, Option.any_some, decide_eq_false_iff_not,
        h.settings] at hpaced
      show last + config.retryBackoffMs ≤ o.nowMs
      omega
    · intro hstart
      rw [Watch.record, hactions] at hstart
      simp [hlinks.1] at hstart
    · intro hcontrolling
      cases hrole.symm.trans hcontrolling
    · intro owner howner _
      cases howner.symm.trans (hunowned hread)

theorem disciplineInv_tick (h : DisciplineInv identity config w)
    (hbackoff : 0 < config.retryBackoffMs) (o : ConnectivityObservation) :
    DisciplineInv identity config (w.tick o) where
  host := (HostFailover.tick_sameHost w.machine o).1.trans h.host
  settings := (HostFailover.tick_sameHost w.machine o).2.trans h.settings
  generation := outstanding_tick h
  attempt := fun _ => lastPaced_tick h
  closed := ⟨closed_tick h, h.closed⟩
  disciplined := ⟨disciplined_tick h hbackoff, h.disciplined⟩

end Step

namespace HostFailover

variable {identity : HostIdentity} {config : FailoverConfig} {nowMs : Nat} {m : HostFailover}

theorem new_eq_ok (h : new identity config nowMs = .ok m) :
    config.validate = .ok () ∧ m.identity = identity ∧ m.config = config ∧
      m.uncontrolledSinceMs = none ∧ m.lastAcquisitionAttemptMs = none ∧
      m.lastAcquisitionGeneration = none ∧ m.preferredSeenSinceMs = none := by
  unfold new at h
  cases hvalid : config.validate with
  | error reason => simp [hvalid, bind, Except.bind] at h
  | ok _ =>
    simp only [hvalid, bind, Except.bind, pure, Except.pure, Except.ok.injEq] at h
    subst h
    exact ⟨rfl, rfl, rfl, rfl, rfl, rfl, rfl⟩

/-- **Acquisition discipline**: every decision of a run is allowed by the ticks before it. -/
theorem run_disciplined (h : new identity config nowMs = .ok m)
    (observations : List ConnectivityObservation) :
    Annals (Disciplined TickRecord.reads identity config) (Watch.run m observations).history := by
  obtain ⟨hvalid, hidentity, hconfig, _, hattempt, hgeneration, _⟩ := new_eq_ok h
  have hbackoff := (FailoverConfig.timing_pos_of_validate hvalid).2.1
  have hstart : DisciplineInv identity config ⟨m, []⟩ := by
    refine ⟨hidentity, hconfig, hgeneration, ?_, trivial, trivial⟩
    intro last hlast
    cases hlast
  have hrun : DisciplineInv identity config (Watch.run m observations) :=
    List.foldlRecOn observations Watch.tick hstart fun _ hinv o _ =>
      disciplineInv_tick hinv hbackoff o
  exact hrun.disciplined

section Motherbrain

def motherbrain : HostFailover where
  identity := ⟨"motherbrain", "mother-boot", .motherbrain⟩
  config := {}
  state := .preferredPath
  stateSinceMs := 0
  outageSinceMs := none
  uncontrolledSinceMs := none
  preferredSeenSinceMs := none
  lastAcquisitionAttemptMs := none
  lastAcquisitionGeneration := none
  activePath := none

theorem new_motherbrain : new motherbrain.identity {} 0 = .ok motherbrain := rfl

/-- It asks for the body and gets it. -/
theorem run_disciplined_motherbrain :
    Annals (Disciplined TickRecord.reads motherbrain.identity {})
      (Watch.run motherbrain
        [{ nowMs := 1000, brainstemUsbHealthy := true, controller := .uncontrolled 1000 5 },
          { nowMs := 1100, brainstemUsbHealthy := true, controller := .uncontrolled 1100 5,
            acquisitionResult := some .granted, acquisitionGeneration := some 5 }]).history :=
  run_disciplined new_motherbrain _

/-- A refusal that arrives while the body link is down is not looked at, so the next attempt is
paced from the attempt before it. -/
theorem refusal_unread_without_link :
    ¬∀ (identity : HostIdentity) (config : FailoverConfig) (nowMs : Nat) (m : HostFailover)
      (observations : List ConnectivityObservation), config.enabled = true →
      new identity config nowMs = .ok m →
      Annals (Disciplined (fun _ => true) identity config) (Watch.run m observations).history := by
  intro h
  have hlast := (h motherbrain.identity {} 0 motherbrain
    [{ nowMs := 1000, brainstemUsbHealthy := true, controller := .uncontrolled 1000 5 },
      { nowMs := 1900, acquisitionResult := some .refused, acquisitionGeneration := some 5 },
      { nowMs := 2000, brainstemUsbHealthy := true, controller := .uncontrolled 2000 6 }]
    rfl new_motherbrain).1.paced 6
  have hpaced := hlast (by decide) 1900 (by decide)
  exact absurd hpaced (by decide)

end Motherbrain

end HostFailover

end Netherwick.HigherBrain
