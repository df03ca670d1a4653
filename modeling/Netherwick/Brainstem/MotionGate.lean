import Netherwick.Brainstem.System

/-! # The motion gate

No frame that moves the robot is written under the e-stop or a hard latch, as far as the commands
that consult the latches go. `Dock` and the dock departure do not consult them, and an `EStop`
whose own stop frame fails does not latch. -/

namespace Netherwick.Brainstem

open Netherwick.Lib

namespace Control

def GateLaw (o : Obs) (past : List Obs) : Prop :=
  ∀ frame written, o = .sent frame written → moves frame = true → motionBarred past = false

/-- Every `Dock` and every dock departure finds motion unbarred, and every `EStop` latches. -/
def GateRespected (o : Obs) (past : List Obs) : Prop :=
  (o = .ran .dock ∨ o = .dockDepartureRan → motionBarred past = false) ∧ o ≠ .eStopRan false

/-- The entries that leave the gate as it was. -/
def GateNeutral : Obs → Prop
  | .latch _ | .eStopRan _ | .clearEStopRan => False
  | .sent frame _ => moves frame = false
  | _ => True

/-- The runtime's latches are those that the trace tells of. -/
structure GateInv (c : Control) : Prop where
  latched : c.safetyLatched = c.safetyLatchKind.isSome
  kind : c.safetyLatchKind = heldLatch c.log
  estop : estopHeld c.log = true → c.estopLatched = true
  law : Annals GateLaw c.log

theorem GateNeutral.estopHeld {o : Obs} (h : GateNeutral o) (log : List Obs) :
    estopHeld (o :: log) = estopHeld log := by
  cases o <;> first | rfl | exact h.elim

theorem GateNeutral.heldLatch {o : Obs} (h : GateNeutral o) (log : List Obs) :
    heldLatch (o :: log) = heldLatch log := by
  cases o <;> first | rfl | exact h.elim

theorem GateNeutral.law {o : Obs} (h : GateNeutral o) (past : List Obs) : GateLaw o past := by
  rintro frame written rfl hmoves
  exact absurd (hmoves.symm.trans h) (by simp)

theorem GateInv.extend {c c' : Control} (hinv : GateInv c)
    (hlatched : c'.safetyLatched = c.safetyLatched)
    (hkind : c'.safetyLatchKind = c.safetyLatchKind) (hestop : c'.estopLatched = c.estopLatched)
    (hadds : Adds GateNeutral c c') : GateInv c' := by
  obtain ⟨recent, hlog, hall⟩ := hadds
  have hread : heldLatch c'.log = heldLatch c.log ∧ estopHeld c'.log = estopHeld c.log ∧
      Annals GateLaw c'.log := by
    rw [hlog]
    clear hlog
    induction recent with
    | nil => exact ⟨rfl, rfl, hinv.law⟩
    | cons o recent ih =>
      have ho := hall o List.mem_cons_self
      obtain ⟨hk, he, hl⟩ := ih fun other hother => hall other (List.mem_cons_of_mem _ hother)
      exact ⟨(ho.heldLatch _).trans hk, (ho.estopHeld _).trans he, ho.law _, hl⟩
  constructor
  · rw [hlatched, hkind, hinv.latched]
  · rw [hkind, hread.1, hinv.kind]
  · rw [hread.2.1, hestop]
    exact hinv.estop
  · exact hread.2.2

theorem GateInv.latchedAs {c : Control} (hinv : GateInv c) (kind : Option SafetyEventKind) :
    GateInv (c.latchedAs kind) where
  latched := rfl
  kind := rfl
  estop := hinv.estop
  law := ⟨by rintro _ _ ⟨⟩, hinv.law⟩

theorem GateInv.open_of_permits {c : Control} (hinv : GateInv c) (h : c.permitsMotion) :
    motionBarred c.log = false := by
  obtain ⟨hestop, hlatch⟩ := h
  have hno : estopHeld c.log = false := by
    by_contra hheld
    rw [hinv.estop (by simpa using hheld)] at hestop
    cases hestop
  have hsoft : hardLatch (heldLatch c.log) = false := by
    rw [← hinv.kind]
    rcases hkind : c.safetyLatchKind with _ | kind
    · rfl
    · have hrec := (hlatch (by rw [hinv.latched, hkind]; rfl)).2
      rw [hkind] at hrec
      cases kind <;> first | rfl | simp [recoverableSafetyLatch] at hrec
  simp [motionBarred, hno, hsoft]

theorem open_of_licence {log : List Obs} (hgood : Annals GateRespected log)
    (h : dockLicence log = true) : motionBarred log = false := by
  unfold dockLicence at h
  split at h
  · exact hgood.1.1 (.inl rfl)
  · exact hgood.2.1.1 (.inr rfl)
  · cases h

theorem gateNeutral_of_plain {o : Obs} (h : o.plain = true) : GateNeutral o :=
  Obs.of_plain h (fun _ _ _ _ _ _ => trivial) fun _ _ hmoves => hmoves

theorem GateInv.hazardNoted {c c' : Control} (hinv : GateInv c) {between : List Obs}
    (hbetween : ∀ o ∈ between, o.plain = true) (hlatched : c'.safetyLatched = c.safetyLatched)
    (hkind : c'.safetyLatchKind = c.safetyLatchKind) (hestop : c'.estopLatched = c.estopLatched)
    (hadds : Adds GateNeutral c c') : GateInv (c'.noted between) :=
  hinv.extend hlatched hkind hestop
    (hadds.noted fun o ho => gateNeutral_of_plain (hbetween o ho))

theorem GateInv.step {c c' : Control} (h : Step c c') (hgood : Annals GateRespected c'.log)
    (hinv : GateInv c) : GateInv c' := by
  cases h with
  | note o ho => exact hinv.extend rfl rfl rfl (.one rfl (gateNeutral_of_plain ho))
  | move frame written hmoves hgate =>
    have hopen : motionBarred c.log = false := by
      rcases hgate with hpermits | hlicence
      · exact hinv.open_of_permits hpermits
      · exact open_of_licence hgood.2 hlicence
    exact ⟨hinv.latched, hinv.kind, hinv.estop, fun _ _ _ _ => hopen, hinv.law⟩
  | fail =>
    exact hinv.extend rfl rfl rfl (.settled (.two rfl trivial trivial) _ _ fun _ => trivial)
  | queue front queued =>
    have htraced : Adds GateNeutral c (c.traced queued.commandId) :=
      .traced (.none rfl) _ (fun _ => trivial) fun _ => trivial
    exact hinv.extend rfl rfl rfl (htraced.pushed front queued trivial)
  | refuse commandId =>
    have htraced : Adds GateNeutral c (c.traced commandId) :=
      .traced (.none rfl) _ (fun _ => trivial) fun _ => trivial
    exact hinv.extend rfl rfl rfl (htraced.trans (.one rfl trivial))
  | drop trace htrace =>
    refine hinv.extend rfl rfl rfl (.forgotten (.none rfl) fun id => ?_)
    rcases htrace with rfl | rfl <;> trivial
  | purgeOne before after queued o hqueue ho =>
    refine hinv.extend rfl rfl rfl (.one rfl ?_)
    rcases ho with rfl | ⟨seq, rfl⟩ <;> trivial
  | settle kind seq => exact hinv.extend rfl rfl rfl (.settled (.none rfl) _ _ fun _ => trivial)
  | interrupt seq =>
    exact hinv.extend rfl rfl rfl (.interrupted (.none rfl) _ (fun _ => trivial) trivial)
  | answered =>
    exact hinv.extend rfl rfl rfl (.settled (.two rfl trivial trivial) _ _ fun _ => trivial)
  | latchHalt kind seq _ between hseq hbetween =>
    have htripped : GateInv ((c.tripped kind seq).noted between) :=
      hinv.hazardNoted hbetween rfl rfl rfl (.one rfl trivial)
    exact (htripped.latchedAs (some kind)).extend rfl rfl rfl
      (.interrupted (.none rfl) _ (fun _ => trivial) trivial)
  | latch kind seq between hseq hbetween =>
    have htripped : GateInv ((c.tripped kind seq).noted between) :=
      hinv.hazardNoted hbetween rfl rfl rfl (.one rfl trivial)
    exact htripped.latchedAs (some kind)
  | unlatch kind cause seq between hbetween =>
    have hover : GateInv ((c.hazardOver kind seq).noted between) :=
      hinv.hazardNoted hbetween rfl rfl rfl (.one rfl trivial)
    have hlifting : GateInv (((c.hazardOver kind seq).noted between).observe (.lifting cause)) :=
      hover.extend rfl rfl rfl (.one rfl trivial)
    exact hlifting.latchedAs none
  | tripHalt seq seq' =>
    exact hinv.extend rfl rfl rfl
      (.interrupted (.one rfl trivial) _ (fun _ => trivial) trivial)
  | unlatchIdle hnone =>
    refine ⟨?_, hinv.kind, hinv.estop, hinv.law⟩
    rw [hnone]
    rfl
  | eStop latched =>
    refine ⟨hinv.latched, hinv.kind, fun _ => ?_, ?_, hinv.law⟩
    · have hlatched : latched = true := by
        by_contra hfalse
        exact hgood.1.2 (by simpa using hfalse)
      simp [hlatched]
    · rintro _ _ ⟨⟩
  | clearEStop =>
    refine ⟨hinv.latched, hinv.kind, fun h => ?_, ?_, hinv.law⟩
    · cases h
    · rintro _ _ ⟨⟩
  | withdraw starts =>
    have hpushed : Adds GateNeutral c (c.pushed true withdrawal) :=
      .pushed (.none rfl) _ _ trivial
    exact hinv.extend rfl rfl rfl (hpushed.trans (.none rfl))
  | begin | pulse | wakeFailed => exact hinv.extend rfl rfl rfl (.two rfl trivial trivial)
  | take | admission | endExecuting | endWithdrawal | setMode | halt | depart | setCareful | setPending
  | settleWake | rewait | beginWait | keepWaiting | beginSettle => exact hinv.extend rfl rfl rfl (.none rfl)
  | _ => exact hinv.extend rfl rfl rfl (.one rfl trivial)

theorem gate_inductive : World.Inductive GateRespected GateInv where
  step _ _ := GateInv.step
  clock _ _ hinv := ⟨hinv.latched, hinv.kind, hinv.estop, hinv.law⟩
  posts c mailbox recent hdelivers _ hinv := by
    refine hinv.extend rfl rfl rfl ⟨recent, rfl, fun o ho => ?_⟩
    have h := hdelivers.posted o ho
    cases o <;> trivial

def gateChecked : Obs → List Obs → Bool
  | .sent frame _, past => !(moves frame && motionBarred past)
  | _, _ => true

theorem gateLaw_iff {o : Obs} {past : List Obs} : GateLaw o past ↔ gateChecked o past = true := by
  cases o <;> simp [GateLaw, gateChecked]
  exact ⟨fun h => Decidable.not_or_of_imp h |>.imp_left (by simp), fun h hmoves => by simpa [hmoves] using h⟩

instance (o : Obs) (past : List Obs) : Decidable (GateLaw o past) :=
  decidable_of_iff _ gateLaw_iff.symm

/-- The condition on a run, as a check of one entry. -/
def respectChecked : Obs → List Obs → Bool
  | .ran .dock, past | .dockDepartureRan, past => !motionBarred past
  | .eStopRan latched, _ => latched
  | _, _ => true

theorem gateRespected_iff {o : Obs} {past : List Obs} :
    GateRespected o past ↔ respectChecked o past = true := by
  unfold respectChecked
  split <;> simp_all [GateRespected]

instance (o : Obs) (past : List Obs) : Decidable (GateRespected o past) :=
  decidable_of_iff _ gateRespected_iff.symm

end Control

namespace World

open Control (GateLaw GateRespected)

/-- In a run that reaches `Dock` and the dock departure only while motion is not barred, and whose
`EStop`s all latch, nothing moves the robot while motion is barred. -/
theorem motion_gated (motherbrainResetEnabled : Bool) (actions : List Action)
    (h : Lawful GateRespected (run motherbrainResetEnabled actions).log) :
    Lawful GateLaw (run motherbrainResetEnabled actions).log ∧
      (run motherbrainResetEnabled actions).rt.safetyLatchKind =
        heldLatch (run motherbrainResetEnabled actions).log ∧
      (estopHeld (run motherbrainResetEnabled actions).log = true →
        (run motherbrainResetEnabled actions).rt.estopLatched = true) := by
  have hboot : Control.GateInv (boot motherbrainResetEnabled).control := by
    refine ⟨rfl, rfl, fun hestop => ?_, ?_⟩
    · revert hestop
      cases motherbrainResetEnabled <;> decide
    · cases motherbrainResetEnabled <;> decide
  have hinv := Control.gate_inductive.run hboot h.annals
  exact ⟨⟨hinv.law⟩, hinv.kind, hinv.estop⟩

/-- The Create answers the first request for its mode, and a command follows an `EStop`. -/
def afterEStop (command : BrainstemCommand) : List Action :=
  [.submit 1 .eStop 0 0, .tick { nowUs := 10000 }, .submit 2 command 0 0,
    .tick { nowUs := 20000, rx := [19, 2, 35, 2, 198].map .byte }]

theorem drive_gated :
    Lawful GateRespected (run false (afterEStop (.driveDirect 100 100 500 1))).log ∧
      Lawful GateLaw (run false (afterEStop (.driveDirect 100 100 500 1))).log := by
  have hrespected : Lawful GateRespected
      (run false (afterEStop (.driveDirect 100 100 500 1))).log := by decide +kernel
  exact ⟨hrespected, (motion_gated false (afterEStop (.driveDirect 100 100 500 1)) hrespected).1⟩

/-- `Dock` seeks the dock under the e-stop. -/
theorem dock_ungated : ¬ Lawful GateLaw (run false (afterEStop .dock)).log := by decide +kernel

end World

end Netherwick.Brainstem
