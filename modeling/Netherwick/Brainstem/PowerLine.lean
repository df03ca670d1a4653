import Netherwick.Brainstem.System

/-! # The power-toggle line

Every asserted pulse belongs to an active toggle step, except where the error path cuts one. -/

namespace Netherwick.Brainstem

open Netherwick.Lib

namespace Control

/-- The wake under way has neither pulsed the line nor been answered. -/
def Unpulsed (past : List Obs) : Prop :=
  ∀ o ∈ sinceWake past, o ≠ .wakeAnswered ∧ ∀ cause, o ≠ .pulseBegun cause

/-- A sleep pulses a Create that is known to be on; a wake pulses once at most, a Create that is
known to be off or one whose probing has timed out. -/
def PulseLaw (o : Obs) (past : List Obs) : Prop :=
  ∀ cause, o = .pulseBegun cause → match cause with
    | .sleep powerState => powerState = some true
    | .wake powerState => powerState = some false ∧ Unpulsed past
    | .timeout nowMs deadlineMs => timeReached nowMs deadlineMs = true ∧ Unpulsed past

/-- The error path is not entered while the line is asserted. -/
def PulseUncut (o : Obs) (_ : List Obs) : Prop := o ≠ .errorEntered true

/-- Entries that begin no pulse. -/
def NoPulse : Obs → Prop
  | .pulseBegun _ => False
  | _ => True

/-- Entries that leave a wake unpulsed. -/
def PowerNeutral : Obs → Prop
  | .pulseBegun _ | .wakeAnswered => False
  | _ => True

structure PowerInv (c : Control) : Prop where
  line : c.powerToggle = true → c.active.isPowerPulse = true
  waiting : ∀ deadlineMs nextProbeMs responseBytes oiStarted,
    c.active = .waitForCreate deadlineMs nextProbeMs responseBytes oiStarted true → Unpulsed c.log
  law : Annals PulseLaw c.log

theorem mem_sinceWake_cons {o o' : Obs} {log : List Obs} (h : o' ∈ sinceWake (o :: log)) :
    o' = o ∨ o' ∈ sinceWake log := by
  unfold sinceWake at h
  split at h
  · cases h
  · rename_i heq
    cases heq
    exact List.mem_cons.mp h
  · rename_i heq
    cases heq

theorem Unpulsed.cons {o : Obs} {log : List Obs} (h : Unpulsed log) (ho : PowerNeutral o) :
    Unpulsed (o :: log) := by
  intro o' hmem
  rcases mem_sinceWake_cons hmem with rfl | hmem
  · constructor
    · rintro rfl
      exact ho
    · rintro cause rfl
      exact ho
  · exact h o' hmem

theorem Unpulsed.of_plain {log : List Obs} (h : ∀ o ∈ sinceWake log, o.plain = true) :
    Unpulsed log := by
  intro o hmem
  have hplain := h o hmem
  constructor
  · rintro rfl
    cases hplain
  · rintro cause rfl
    cases hplain

theorem NoPulse.law {o : Obs} (h : NoPulse o) (past : List Obs) : PulseLaw o past := by
  rintro cause rfl
  exact h.elim

theorem PowerNeutral.noPulse {o : Obs} (h : PowerNeutral o) : NoPulse o := by
  cases o <;> trivial

theorem PowerInv.extend {c c' : Control} (hinv : PowerInv c)
    (hline : c'.powerToggle = true → c'.active.isPowerPulse = true)
    (hwait : ∀ deadlineMs nextProbeMs responseBytes oiStarted,
      c'.active = .waitForCreate deadlineMs nextProbeMs responseBytes oiStarted true →
        Unpulsed c.log)
    (hadds : Adds PowerNeutral c c') : PowerInv c' := by
  obtain ⟨recent, hlog, hall⟩ := hadds
  have hread : (Unpulsed c.log → Unpulsed c'.log) ∧ Annals PulseLaw c'.log := by
    rw [hlog]
    clear hlog
    induction recent with
    | nil => exact ⟨id, hinv.law⟩
    | cons o recent ih =>
      have ho := hall o List.mem_cons_self
      obtain ⟨hu, hl⟩ := ih fun other hother => hall other (List.mem_cons_of_mem _ hother)
      exact ⟨fun h => (hu h).cons ho, ho.noPulse.law _, hl⟩
  exact ⟨hline, fun d n b o h => hread.1 (hwait d n b o h), hread.2⟩

theorem PowerInv.note {c c' : Control} (hinv : PowerInv c) (hline : c'.powerToggle = c.powerToggle)
    (hactive : c'.active = c.active) (hadds : Adds PowerNeutral c c') : PowerInv c' := by
  refine hinv.extend ?_ ?_ hadds
  · rw [hline, hactive]
    exact hinv.line
  · rw [hactive]
    exact hinv.waiting

theorem PowerInv.rest {c c' : Control} (hinv : PowerInv c) (hline : c'.powerToggle = false)
    (hactive : c'.active = .none) (hadds : Adds NoPulse c c') : PowerInv c' := by
  obtain ⟨recent, hlog, hall⟩ := hadds
  refine ⟨by simp [hline], by simp [hactive], ?_⟩
  rw [hlog]
  exact hinv.law.append_of_forall fun o ho => (hall o ho).law

theorem PowerInv.line_false {c : Control} (hinv : PowerInv c)
    (h : c.active.isPowerPulse = false) : c.powerToggle = false := by
  by_contra hline
  rw [hinv.line (by simpa using hline)] at h
  cases h

theorem powerNeutral_of_plain {o : Obs} (h : o.plain = true) : PowerNeutral o :=
  Obs.of_plain h (fun _ _ _ _ _ _ => trivial) fun _ _ _ => trivial

theorem PowerInv.line_interrupted {c : Control} (hinv : PowerInv c) :
    (!c.active.isPowerPulse && c.powerToggle) = false := by
  cases hpulse : c.active.isPowerPulse with
  | true => rfl
  | false => simpa using hinv.line_false hpulse

theorem PowerInv.step {c c' : Control} (h : Step c c') (hgood : Annals PulseUncut c'.log)
    (hinv : PowerInv c) : PowerInv c' := by
  cases h with
  | note o ho => exact hinv.note rfl rfl (.one rfl (powerNeutral_of_plain ho))
  | fail error kind seq seq' code inbox' hkind hreceived =>
    have hline : c.powerToggle = false := by
      by_contra hline
      have htrue : c.powerToggle = true := by simpa using hline
      have hentered : Annals PulseUncut
          (.event seq .error code 0 0 :: .errorEntered c.powerToggle :: c.log) :=
        hgood.of_suffix (settled_suffix (c.errorEntered seq code inbox') kind seq')
      exact hentered.2.1 (by rw [htrue])
    exact hinv.rest hline rfl (.settled (.two rfl trivial trivial) _ _ fun _ => trivial)
  | queue front queued =>
    have htraced : Adds PowerNeutral c (c.traced queued.commandId) :=
      .traced (.none rfl) _ (fun _ => trivial) fun _ => trivial
    exact hinv.note rfl rfl (htraced.pushed front queued trivial)
  | refuse commandId =>
    have htraced : Adds PowerNeutral c (c.traced commandId) :=
      .traced (.none rfl) _ (fun _ => trivial) fun _ => trivial
    exact hinv.note rfl rfl (htraced.trans (.one rfl trivial))
  | drop trace htrace =>
    refine hinv.note rfl rfl (.forgotten (.none rfl) fun id => ?_)
    rcases htrace with rfl | rfl <;> trivial
  | purgeOne before after queued o hqueue ho =>
    refine hinv.note rfl rfl (.one rfl ?_)
    rcases ho with rfl | ⟨seq, rfl⟩ <;> trivial
  | settle kind seq => exact hinv.note rfl rfl (.settled (.none rfl) _ _ fun _ => trivial)
  | interrupt seq =>
    refine hinv.extend ?_ hinv.waiting (.interrupted (.none rfl) _ (fun _ => trivial) trivial)
    intro hline
    exact hinv.line (Bool.and_eq_true_iff.mp hline).2
  | latchHalt kind seq _ between hseq hbetween =>
    exact hinv.rest hinv.line_interrupted rfl (.interrupted (.latched (fun _ _ => trivial) trivial
      fun o ho => (powerNeutral_of_plain (hbetween o ho)).noPulse) _ (fun _ => trivial) trivial)
  | tripHalt seq =>
    exact hinv.rest hinv.line_interrupted rfl
      (.interrupted (.one rfl trivial) _ (fun _ => trivial) trivial)
  | latch kind seq between hseq hbetween =>
    exact hinv.note rfl rfl (.latched (fun _ _ => trivial) trivial
      fun o ho => powerNeutral_of_plain (hbetween o ho))
  | unlatch kind cause seq between hbetween =>
    exact hinv.note rfl rfl (.unlatched (fun _ _ => trivial) trivial trivial
      fun o ho => powerNeutral_of_plain (hbetween o ho))
  | halt hline =>
    refine hinv.rest ?_ rfl (.none rfl)
    by_contra htrue
    have htrue : c.powerToggle = true := by simpa using htrue
    exact absurd (hinv.line htrue) (by simp [hline htrue])
  | answered _ _ _ _ _ _ hactive =>
    have hline : c.powerToggle = false := hinv.line_false (by rw [hactive]; rfl)
    exact hinv.rest hline rfl (.settled (.two rfl trivial trivial) _ _ fun _ => trivial)
  | drive _ _ hactive =>
    have hline : c.powerToggle = false := hinv.line_false (by rw [hactive]; rfl)
    exact hinv.extend (by simp [hline]) (by simp) (.one rfl trivial)
  | renew _ hactive =>
    have hline : c.powerToggle = false := by
      refine hinv.line_false ?_
      cases hdrive : c.active with
      | powerPulse => simp [hdrive, ActiveAction.isDriving] at hactive
      | _ => rfl
    exact hinv.extend (by simp [hline]) (by simp) (.one rfl trivial)
  | depart _ _ hactive =>
    have hline : c.powerToggle = false := hinv.line_false (by rw [hactive]; rfl)
    exact hinv.extend (by simp [hline]) (by simp) (.none rfl)
  | beginWait _ _ _ _ hactive hlog =>
    have hline : c.powerToggle = false := hinv.line_false (by rw [hactive]; rfl)
    exact hinv.extend (by simp [hline]) (fun _ _ _ _ _ => .of_plain hlog) (.none rfl)
  | beginSettle _ _ hactive =>
    have hline : c.powerToggle = false := hinv.line_false (by rw [hactive]; rfl)
    exact hinv.extend (by simp [hline]) (by simp) (.none rfl)
  | settleWake _ _ _ _ hline => exact hinv.extend (by simp [hline]) (by simp) (.none rfl)
  | rewait _ _ _ hactive =>
    have hline : c.powerToggle = false := hinv.line_false (by rw [hactive]; rfl)
    exact hinv.extend (by simp [hline]) (by simp) (.none rfl)
  | keepWaiting _ _ _ _ _ _ allow hactive =>
    have hline : c.powerToggle = false := hinv.line_false (by rw [hactive]; rfl)
    refine hinv.extend (by simp [hline]) (fun _ _ _ _ heq => ?_) (.none rfl)
    cases heq
    exact hinv.waiting _ _ _ _ hactive
  | releasePulse =>
    exact hinv.extend (by simp) hinv.waiting (.one rfl trivial)
  | pulse cause _ _ _ _ hcause =>
    refine ⟨fun _ => rfl, by simp, ?_, ?_, hinv.law⟩
    · rintro _ ⟨⟩
    · rintro _ ⟨⟩
      cases cause with
      | sleep powerState => exact hcause.2
      | wake powerState => exact ⟨hcause.1, .of_plain hcause.2⟩
      | timeout nowMs deadlineMs =>
        obtain ⟨-, hreached, _, _, _, hactive⟩ := hcause
        exact ⟨hreached, hinv.waiting _ _ _ _ hactive⟩
  | withdraw starts =>
    have hpushed : Adds PowerNeutral c (c.pushed true withdrawal) :=
      .pushed (.none rfl) _ _ trivial
    exact hinv.note rfl rfl (hpushed.trans (.none rfl))
  | begin => exact hinv.note rfl rfl (.two rfl trivial trivial)
  | wakeFailed => exact hinv.note rfl rfl (.two rfl trivial trivial)
  | take | admission | endExecuting | endWithdrawal | setMode | unlatchIdle | setCareful | setPending =>
    exact hinv.note rfl rfl (.none rfl)
  | _ => exact hinv.note rfl rfl (.one rfl trivial)

theorem power_inductive : World.Inductive PulseUncut PowerInv where
  step _ _ := PowerInv.step
  clock _ _ hinv := ⟨hinv.line, hinv.waiting, hinv.law⟩
  posts c mailbox recent hdelivers _ hinv := by
    refine hinv.note rfl rfl ⟨recent, rfl, fun o ho => ?_⟩
    have h := hdelivers.posted o ho
    cases o <;> trivial

/-- The condition on a run, as a check of one entry. -/
def uncutChecked : Obs → Bool
  | .errorEntered lineAsserted => !lineAsserted
  | _ => true

theorem pulseUncut_iff {o : Obs} {past : List Obs} :
    PulseUncut o past ↔ uncutChecked o = true := by
  cases o <;> simp [PulseUncut, uncutChecked]

instance (o : Obs) (past : List Obs) : Decidable (PulseUncut o past) :=
  decidable_of_iff _ pulseUncut_iff.symm

end Control

namespace World

open Control (PulseLaw PulseUncut)

/-- In a run in which no error cuts a pulse, the line is asserted only by an active toggle step, and
every pulse begins for a reason. -/
theorem line_disciplined (motherbrainResetEnabled : Bool) (actions : List Action)
    (h : Lawful PulseUncut (run motherbrainResetEnabled actions).log) :
    ((run motherbrainResetEnabled actions).hw.powerToggle = true →
        (run motherbrainResetEnabled actions).rt.active.isPowerPulse = true) ∧
      Lawful PulseLaw (run motherbrainResetEnabled actions).log := by
  have hboot : Control.PowerInv (boot motherbrainResetEnabled).control := by
    refine ⟨fun hline => ?_, by rintro _ _ _ _ ⟨⟩, ?_⟩
    · cases hline
    · have hrequeued : Control.NoPulse (.requeued 0) := trivial
      have hbooted : Control.NoPulse (.event 1 .boot 0 0 0) := trivial
      exact ⟨hrequeued.law _, hrequeued.law _, hrequeued.law _, hbooted.law _, trivial⟩
  have hinv := Control.power_inductive.run hboot h.annals
  exact ⟨hinv.line, ⟨hinv.law⟩⟩

/-- A wake that gets no answer pulses the line; the next frames after that meet these faults. -/
def pulseThen (faults : List (Option Nat)) : List Action :=
  [.tick { nowUs := 10000 }, .tick { nowUs := 6020000 },
    .tick { nowUs := 7030000, uartFaults := faults }]

theorem pulse_released :
    Lawful PulseUncut (run false (pulseThen [])).log ∧
      ((run false (pulseThen [])).hw.powerToggle = true →
        (run false (pulseThen [])).rt.active.isPowerPulse = true) := by
  have huncut : Lawful PulseUncut (run false (pulseThen [])).log := by decide +kernel
  exact ⟨huncut, (line_disciplined false (pulseThen []) huncut).1⟩

/-- An error while the line is asserted leaves it so with no step to release it. -/
theorem line_stuck :
    ¬ ((run false (pulseThen [some 0])).hw.powerToggle = true →
      (run false (pulseThen [some 0])).rt.active.isPowerPulse = true) := by decide +kernel

end World

end Netherwick.Brainstem
