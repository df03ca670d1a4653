import Netherwick.Brainstem.System

/-! # The hazard generation

One cell carries the generation for every kind of hazard, and an escape has to name the generation
of the contact it escapes from. A trip that sets no latch overwrites the cell, and the end of an
e-stop empties it, whatever latch is held. -/

namespace Netherwick.Brainstem

open Netherwick.Lib

namespace Control

def ContactUndisturbed (o : Obs) (past : List Obs) : Prop :=
  match o with
  | .eStopRan true | .clearEStopRan | .event _ .heartbeatExpired _ _ _ =>
    recoverableSafetyLatch (heldLatch past) = false
  | _ => True

instance (o : Obs) (past : List Obs) : Decidable (ContactUndisturbed o past) := by
  unfold ContactUndisturbed
  split <;> infer_instance

/-- Entries that leave every latch as it is. -/
def LatchNeutral : Obs → Prop
  | .latch _ => False
  | _ => True

structure LiveInv (c : Control) : Prop where
  kind : heldLatch c.log = c.safetyLatchKind
  live : ∀ kind, c.safetyLatchKind = some kind → recoverableSafetyLatch (some kind) = true →
    c.hazardGeneration ≠ 0 ∧ raisedBy c.log = some (c.hazardGeneration, kind.code)

theorem latchNeutral_of_plain {o : Obs} (h : o.plain = true) : LatchNeutral o :=
  Obs.of_plain h (fun _ _ _ _ _ _ => trivial) fun _ _ _ => trivial

theorem LatchNeutral.reads {o : Obs} (h : LatchNeutral o) (past : List Obs) :
    heldLatch (o :: past) = heldLatch past ∧ raisedBy (o :: past) = raisedBy past := by
  cases o with
  | latch kind => exact h.elim
  | _ => exact ⟨rfl, rfl⟩

theorem Adds.reads {c c' : Control} (h : Adds LatchNeutral c c') :
    heldLatch c'.log = heldLatch c.log ∧ raisedBy c'.log = raisedBy c.log := by
  obtain ⟨recent, hlog, hall⟩ := h
  rw [hlog]
  clear hlog
  induction recent with
  | nil => exact ⟨rfl, rfl⟩
  | cons o recent ih =>
    obtain ⟨hheld, hraised⟩ := ih fun other hother => hall other (List.mem_cons_of_mem _ hother)
    obtain ⟨hheld', hraised'⟩ := (hall o List.mem_cons_self).reads (recent ++ c.log)
    exact ⟨hheld'.trans hheld, hraised'.trans hraised⟩

theorem lastTrip_append {recent past : List Obs} (h : ∀ o ∈ recent, o.plain = true) :
    lastTrip (recent ++ past) = lastTrip past := by
  induction recent with
  | nil => rfl
  | cons o recent ih =>
    have hrest := ih fun other hother => h other (List.mem_cons_of_mem _ hother)
    have ho := h o List.mem_cons_self
    rw [List.cons_append, ← hrest]
    cases o with
    | event seq kind a b c => cases kind <;> first | rfl | cases ho
    | _ => rfl

theorem LiveInv.extend {c c' : Control} (hinv : LiveInv c)
    (hkind : c'.safetyLatchKind = c.safetyLatchKind)
    (hgeneration : c'.hazardGeneration = c.hazardGeneration) (hadds : Adds LatchNeutral c c') :
    LiveInv c' := by
  obtain ⟨hheld, hraised⟩ := hadds.reads
  refine ⟨by rw [hheld, hkind, hinv.kind], fun kind h hcontact => ?_⟩
  rw [hgeneration, hraised]
  exact hinv.live kind (hkind ▸ h) hcontact

theorem LiveInv.disturb {c c' : Control} (hinv : LiveInv c)
    (hcontact : recoverableSafetyLatch (heldLatch c.log) = false)
    (hkind : c'.safetyLatchKind = c.safetyLatchKind) (hadds : Adds LatchNeutral c c') :
    LiveInv c' := by
  refine ⟨by rw [hadds.reads.1, hkind, hinv.kind], fun kind h hrecoverable => ?_⟩
  rw [hinv.kind, ← hkind, h, hrecoverable] at hcontact
  cases hcontact

theorem latched_live (c : Control) (kind : SafetyEventKind) {seq : UInt32} {between : List Obs}
    (hseq : seq ≠ 0) (hbetween : ∀ o ∈ between, o.plain = true) :
    LiveInv (((c.tripped kind seq).noted between).latchedAs (some kind)) where
  kind := rfl
  live kind' h _ := by
    cases h
    exact ⟨hseq, lastTrip_append hbetween⟩

theorem unlatched_live (c : Control) : LiveInv (c.latchedAs none) where
  kind := rfl
  live kind h _ := by cases h

theorem Announced.undisturbed {kind : SafetyEventKind} {log : List Obs} (h : Announced kind log)
    (hlaw : Annals ContactUndisturbed log) : recoverableSafetyLatch (heldLatch log) = false := by
  cases h with
  | eStop seq past => exact hlaw.2.1
  | heartbeat seq past => exact hlaw.1

theorem LiveInv.step {c c' : Control} (h : Step c c') (hgood : Annals ContactUndisturbed c'.log)
    (hinv : LiveInv c) : LiveInv c' := by
  have hpast : Annals ContactUndisturbed c.log := hgood.of_suffix h.grows
  cases h with
  | note o ho => exact hinv.extend rfl rfl (.one rfl (latchNeutral_of_plain ho))
  | fail => exact hinv.extend rfl rfl (.settled (.two rfl trivial trivial) _ _ fun _ => trivial)
  | queue front queued =>
    have htraced : Adds LatchNeutral c (c.traced queued.commandId) :=
      .traced (.none rfl) _ (fun _ => trivial) fun _ => trivial
    exact hinv.extend rfl rfl (htraced.pushed front queued trivial)
  | refuse commandId =>
    have htraced : Adds LatchNeutral c (c.traced commandId) :=
      .traced (.none rfl) _ (fun _ => trivial) fun _ => trivial
    exact hinv.extend rfl rfl (htraced.trans (.one rfl trivial))
  | drop trace htrace =>
    refine hinv.extend rfl rfl (.forgotten (.none rfl) fun id => ?_)
    rcases htrace with rfl | rfl <;> trivial
  | purgeOne before after queued o hqueue ho =>
    refine hinv.extend rfl rfl (.one rfl ?_)
    rcases ho with rfl | ⟨seq, rfl⟩ <;> trivial
  | settle => exact hinv.extend rfl rfl (.settled (.none rfl) _ _ fun _ => trivial)
  | interrupt =>
    exact hinv.extend rfl rfl (.interrupted (.none rfl) _ (fun _ => trivial) trivial)
  | answered =>
    exact hinv.extend rfl rfl (.settled (.two rfl trivial trivial) _ _ fun _ => trivial)
  | latchHalt kind seq seq' between hseq hbetween =>
    exact (latched_live c kind hseq hbetween).extend rfl rfl
      (.interrupted (.none rfl) _ (fun _ => trivial) trivial)
  | latch kind seq between hseq hbetween => exact latched_live c kind hseq hbetween
  | unlatch => exact unlatched_live _
  | tripOnly kind seq hseq hannounced =>
    exact hinv.disturb (hannounced.undisturbed hpast) rfl (.one rfl trivial)
  | tripHalt seq seq' hseq hannounced =>
    exact hinv.disturb (hannounced.undisturbed hpast) rfl
      (.interrupted (.one rfl trivial) _ (fun _ => trivial) trivial)
  | hazardOver seq seq' past hannounced =>
    refine hinv.disturb ?_ rfl (.one rfl trivial)
    rw [hannounced] at hpast ⊢
    exact hpast.2.1
  | withdraw starts =>
    have hpushed : Adds LatchNeutral c (c.pushed true withdrawal) :=
      .pushed (.none rfl) _ _ trivial
    exact hinv.extend rfl rfl (hpushed.trans (.none rfl))
  | begin | pulse | wakeFailed => exact hinv.extend rfl rfl (.two rfl trivial trivial)
  | take | admission | endExecuting | endWithdrawal | setMode | halt | depart | unlatchIdle | setCareful
  | setPending | settleWake | rewait | beginWait | keepWaiting | beginSettle =>
    exact hinv.extend rfl rfl (.none rfl)
  | _ => exact hinv.extend rfl rfl (.one rfl trivial)

theorem live_inductive : World.Inductive ContactUndisturbed LiveInv where
  step _ _ := LiveInv.step
  clock _ _ hinv := ⟨hinv.kind, hinv.live⟩
  posts c mailbox recent hdelivers _ hinv := by
    refine hinv.extend rfl rfl ⟨recent, rfl, fun o ho => ?_⟩
    have h := hdelivers.posted o ho
    cases o <;> trivial

end Control

namespace World

open Control (ContactUndisturbed)

/-- The published generation is the sequence number of the trip that raised the held contact latch,
and an escape from that latch under this number is not stale. -/
def GenerationLive (w : World) : Prop :=
  ∀ kind, w.rt.safetyLatchKind = some kind → recoverableSafetyLatch (some kind) = true →
    w.st.hazardGeneration ≠ 0 ∧ raisedBy w.log = some (w.st.hazardGeneration, kind.code) ∧
      ∀ named seq, safetyLatchKindToEvent named = kind → raisedBy w.log = some (seq, kind.code) →
        w.st.safety.safetyTripped = true → w.st.safety.latchKind = some kind →
          w.st.escapeHazardRefused named seq = false

/-- In a run in which no e-stop begins or ends and no heartbeat is missed while a contact latch is
held, the generation of a held contact latch stays live. -/
theorem generation_live (motherbrainResetEnabled : Bool) (actions : List Action)
    (h : Lawful ContactUndisturbed (run motherbrainResetEnabled actions).log) :
    GenerationLive (run motherbrainResetEnabled actions) := by
  have hboot : Control.LiveInv (boot motherbrainResetEnabled).control := by
    refine ⟨?_, fun _ h => by cases h⟩
    cases motherbrainResetEnabled <;> decide
  have hinv := Control.live_inductive.run hboot h.annals
  intro kind hheld hcontact
  obtain ⟨hlive, hraised⟩ := hinv.live kind hheld hcontact
  refine ⟨hlive, hraised, fun named seq hnamed hseq htripped hpublished => ?_⟩
  obtain rfl : seq = _ := congrArg Prod.fst (Option.some.inj (hseq.symm.trans hraised))
  have hgeneration : (run motherbrainResetEnabled actions).st.hazardGeneration ≠ 0 := hlive
  simp only [Status.escapeHazardRefused, htripped, hpublished, hnamed, control]
  simp [hgeneration]

/-- The Create is asked for its bumpers and reports a pressed one; a command follows. -/
def afterBump (command : BrainstemCommand) : List Action :=
  [.submit 1 .stop 0 0, .tick { nowUs := 10000 }, .submit 2 (.requestSensors 7 1) 0 0,
    .tick { nowUs := 20000 },
    .tick { nowUs := 30000, rx := [19, 2, 7, 1, 227].map .byte }, .submit 3 command 0 0,
    .tick { nowUs := 40000 }]

theorem bump_live :
    (run false (afterBump .stop)).rt.safetyLatchKind = some .bump ∧
      Lawful ContactUndisturbed (run false (afterBump .stop)).log ∧
        GenerationLive (run false (afterBump .stop)) := by
  have hlaw : Lawful ContactUndisturbed (run false (afterBump .stop)).log := by decide +kernel
  exact ⟨by decide +kernel, hlaw, generation_live false (afterBump .stop) hlaw⟩

/-- An e-stop under a contact latch takes its generation away. -/
theorem eStop_stale : ¬ GenerationLive (run false (afterBump .eStop)) := by
  intro hlive
  have hheld : (run false (afterBump .eStop)).rt.safetyLatchKind = some .bump := by
    decide +kernel
  obtain ⟨-, hraised, -⟩ := hlive .bump hheld rfl
  exact absurd hraised (by decide +kernel)

end World

end Netherwick.Brainstem
