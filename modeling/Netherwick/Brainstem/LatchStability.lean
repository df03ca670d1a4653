import Netherwick.Brainstem.System

/-! # What ends a safety latch

A held latch is lifted for a few reasons only, each of them on the trace right before the lift. It
also gives way to the latch of another hazard, at the trip of that hazard. -/

namespace Netherwick.Brainstem

open Netherwick.Lib

namespace Control

/-- The reasons to lift a latch that are named for it: a command that may, while its condition is
absent; the start of careful mode; the home base, for a contact. -/
def liftClaimed (kind : SafetyEventKind) : LiftCause → Bool
  | .careful none _ => false
  | cause => liftAllowed kind cause

/-- A held latch ends only for such a reason. -/
def LatchClaimed (o : Obs) (past : List Obs) : Prop :=
  match o, heldLatch past with
  | .latch next, some kind => next ≠ some kind → match past with
      | .lifting cause :: _ => liftClaimed kind cause = true
      | _ => False
  | _, _ => True

/-- A held latch is lifted for a reason, or gives way to a hazard that has just tripped. -/
def LatchStable (o : Obs) (past : List Obs) : Prop :=
  ∀ next kind, o = .latch next → heldLatch past = some kind → next ≠ some kind → match next with
    | none => ∃ cause earlier, past = .lifting cause :: earlier ∧ liftAllowed kind cause = true
    | some other => ∃ between seq earlier, (∀ o ∈ between, o.plain = true) ∧
        past = between ++ .event seq .safetyTripped other.code 0 0 :: earlier

structure StableInv (c : Control) : Prop where
  kind : heldLatch c.log = c.safetyLatchKind
  latched : c.safetyLatched = c.safetyLatchKind.isSome
  law : Annals LatchStable c.log

/-- Entries that leave the latch as it is. -/
def LatchKept : Obs → Prop
  | .latch _ => False
  | _ => True

theorem latchKept_of_plain {o : Obs} (h : o.plain = true) : LatchKept o :=
  Obs.of_plain h (fun _ _ _ _ _ _ => trivial) fun _ _ _ => trivial

theorem LatchKept.heldLatch {o : Obs} (h : LatchKept o) (past : List Obs) :
    heldLatch (o :: past) = heldLatch past := by
  cases o with
  | latch kind => exact h.elim
  | _ => rfl

theorem LatchKept.law {o : Obs} (h : LatchKept o) (past : List Obs) : LatchStable o past := by
  rintro next kind rfl
  exact h.elim

theorem StableInv.extend {c c' : Control} (hinv : StableInv c)
    (hkind : c'.safetyLatchKind = c.safetyLatchKind) (hlatched : c'.safetyLatched = c.safetyLatched)
    (hadds : Adds LatchKept c c') : StableInv c' := by
  obtain ⟨recent, hlog, hall⟩ := hadds
  have hread : heldLatch c'.log = heldLatch c.log ∧ Annals LatchStable c'.log := by
    rw [hlog]
    clear hlog
    induction recent with
    | nil => exact ⟨rfl, hinv.law⟩
    | cons o recent ih =>
      have ho := hall o List.mem_cons_self
      obtain ⟨hheld, hlaw⟩ := ih fun other hother => hall other (List.mem_cons_of_mem _ hother)
      exact ⟨(ho.heldLatch _).trans hheld, ho.law _, hlaw⟩
  exact ⟨by rw [hread.1, hkind, hinv.kind], by rw [hlatched, hkind, hinv.latched], hread.2⟩

theorem StableInv.trip {c : Control} (hinv : StableInv c) (kind : SafetyEventKind) (seq : UInt32)
    {between : List Obs} (hbetween : ∀ o ∈ between, o.plain = true) :
    StableInv (((c.tripped kind seq).noted between).latchedAs (some kind)) := by
  have hnoted : StableInv ((c.tripped kind seq).noted between) :=
    hinv.extend rfl rfl ((Adds.one rfl trivial).noted fun o ho => latchKept_of_plain (hbetween o ho))
  refine ⟨rfl, rfl, ?_, hnoted.law⟩
  rintro next held hnext - -
  cases hnext
  exact ⟨between, seq, c.log, hbetween, rfl⟩

theorem StableInv.lift {c : Control} (hinv : StableInv c) {kind : SafetyEventKind}
    {cause : LiftCause} (hlifts : c.Lifts kind cause) (seq : UInt32) {between : List Obs}
    (hbetween : ∀ o ∈ between, o.plain = true) :
    StableInv ((((c.hazardOver kind seq).noted between).observe (.lifting cause)).latchedAs none) := by
  have hlifting : StableInv (((c.hazardOver kind seq).noted between).observe (.lifting cause)) :=
    hinv.extend rfl rfl (((Adds.one rfl trivial).noted fun o ho =>
      latchKept_of_plain (hbetween o ho)).trans (.one rfl trivial))
  refine ⟨rfl, rfl, ?_, hlifting.law⟩
  rintro next held hnext hheld -
  cases hnext
  have hsame : kind = held := by
    have hkind : c.safetyLatchKind = some held := hlifting.kind.symm.trans hheld
    exact Option.some.inj (hlifts.held.symm.trans hkind)
  exact ⟨cause, _, rfl, hsame ▸ hlifts.allowed⟩

theorem StableInv.step {c c' : Control} (h : Step c c') (hinv : StableInv c) : StableInv c' := by
  cases h with
  | note o ho => exact hinv.extend rfl rfl (.one rfl (latchKept_of_plain ho))
  | fail => exact hinv.extend rfl rfl (.settled (.two rfl trivial trivial) _ _ fun _ => trivial)
  | queue front queued =>
    have htraced : Adds LatchKept c (c.traced queued.commandId) :=
      .traced (.none rfl) _ (fun _ => trivial) fun _ => trivial
    exact hinv.extend rfl rfl (htraced.pushed front queued trivial)
  | refuse commandId =>
    have htraced : Adds LatchKept c (c.traced commandId) :=
      .traced (.none rfl) _ (fun _ => trivial) fun _ => trivial
    exact hinv.extend rfl rfl (htraced.trans (.one rfl trivial))
  | drop trace htrace =>
    refine hinv.extend rfl rfl (.forgotten (.none rfl) fun id => ?_)
    rcases htrace with rfl | rfl <;> trivial
  | purgeOne before after queued o hqueue ho =>
    refine hinv.extend rfl rfl (.one rfl ?_)
    rcases ho with rfl | ⟨seq, rfl⟩ <;> trivial
  | settle => exact hinv.extend rfl rfl (.settled (.none rfl) _ _ fun _ => trivial)
  | interrupt =>
    exact hinv.extend rfl rfl (.interrupted (.none rfl) _ (fun _ => trivial) trivial)
  | answered =>
    exact hinv.extend rfl rfl (.settled (.two rfl trivial trivial) _ _ fun _ => trivial)
  | latchHalt kind seq seq' between hseq hbetween =>
    exact (hinv.trip kind seq hbetween).extend rfl rfl
      (.interrupted (.none rfl) _ (fun _ => trivial) trivial)
  | latch kind seq between hseq hbetween => exact hinv.trip kind seq hbetween
  | unlatch kind cause seq between hbetween hlifts => exact hinv.lift hlifts seq hbetween
  | tripHalt =>
    exact hinv.extend rfl rfl (.interrupted (.one rfl trivial) _ (fun _ => trivial) trivial)
  | unlatchIdle hnone =>
    refine ⟨hinv.kind, ?_, hinv.law⟩
    rw [hnone]
    rfl
  | withdraw starts =>
    have hpushed : Adds LatchKept c (c.pushed true withdrawal) :=
      .pushed (.none rfl) _ _ trivial
    exact hinv.extend rfl rfl (hpushed.trans (.none rfl))
  | begin | pulse | wakeFailed => exact hinv.extend rfl rfl (.two rfl trivial trivial)
  | take | admission | endExecuting | endWithdrawal | setMode | halt | depart | setCareful
  | setPending | settleWake | rewait | beginWait | keepWaiting | beginSettle =>
    exact hinv.extend rfl rfl (.none rfl)
  | _ => exact hinv.extend rfl rfl (.one rfl trivial)

theorem stable_inductive : World.Inductive (fun _ _ => True) StableInv where
  step _ _ h _ := StableInv.step h
  clock _ _ hinv := ⟨hinv.kind, hinv.latched, hinv.law⟩
  posts c mailbox recent hdelivers _ hinv := by
    refine hinv.extend rfl rfl ⟨recent, rfl, fun o ho => ?_⟩
    have h := hdelivers.posted o ho
    cases o <;> trivial

instance (o : Obs) (past : List Obs) : Decidable (LatchClaimed o past) := by
  unfold LatchClaimed
  split
  · split <;> infer_instance
  · infer_instance

end Control

namespace World

open Control (LatchClaimed LatchStable)

/-- In every run a held latch is lifted by a command that may, while its condition is absent, by
careful mode, or by the home base if it is a contact; or it gives way to the latch of a hazard that
has just tripped. Nothing else touches it. -/
theorem latch_stable (motherbrainResetEnabled : Bool) (actions : List Action) :
    Lawful LatchStable (run motherbrainResetEnabled actions).log ∧
      (run motherbrainResetEnabled actions).rt.safetyLatchKind =
        heldLatch (run motherbrainResetEnabled actions).log ∧
      (run motherbrainResetEnabled actions).rt.safetyLatched =
        (run motherbrainResetEnabled actions).rt.safetyLatchKind.isSome := by
  have hboot : Control.StableInv (boot motherbrainResetEnabled).control := by
    refine ⟨?_, rfl, ?_⟩
    · cases motherbrainResetEnabled <;> decide
    · have hkept : ∀ seq kind a b c, Control.LatchKept (.event seq kind a b c) :=
        fun _ _ _ _ _ => trivial
      have hrequeued : Control.LatchKept (.requeued 0) := trivial
      exact ⟨hrequeued.law _, hrequeued.law _, hrequeued.law _, (hkept ..).law _, trivial⟩
  have hinv := Control.stable_inductive.always hboot actions
  exact ⟨⟨hinv.law⟩, hinv.kind.symm, hinv.latched⟩

/-- A jolt latches an impact, and then a wheel drops. -/
def joltThenDrop : List Action :=
  [.submit 1 .stop 0 0,
    .tick { nowUs := 10000, imuPoll := .ok (some { timestampMs := 10, accelZMmS2 := 9806 }) },
    .submit 2 (.requestSensors 7 1) 0 0, .tick { nowUs := 20000 },
    .tick { nowUs := 110000, imuPoll := .ok (some { timestampMs := 110, accelZMmS2 := 32000 }) },
    .tick { nowUs := 120000, rx := [19, 2, 7, 4, 224].map .byte }]

/-- The impact latch ends although nothing has lifted it. -/
theorem drop_replaces_impact : ¬ Lawful LatchClaimed (run false joltThenDrop).log := by
  decide +kernel

end World

end Netherwick.Brainstem
