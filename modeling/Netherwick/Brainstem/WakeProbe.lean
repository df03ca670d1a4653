import Netherwick.Brainstem.System

/-! # Wake probes

What decides a wake has arrived after the wake's own probe request, provided that nothing lay in
the event queue before it. -/

namespace Netherwick.Brainstem

open Netherwick.Lib

namespace Control

/-- A wake is answered by a packet that came after its probe, and it fails on an error event only
for an invalid packet that came after its probe. -/
def WakeLaw (o : Obs) (past : List Obs) : Prop :=
  (o = .wakeAnswered →
    ∃ recent, sinceProbe past = some recent ∧ ∃ packetId, .packetReceived packetId ∈ recent) ∧
  ∀ error, o = .wakeFailed error →
    error = .invalidPacket ∧ ∃ recent, sinceProbe past = some recent ∧ .packetInvalid ∈ recent

/-- The queue holds a packet event or an error event at a waiting step only after the probe. -/
def ProbeFirst (o : Obs) (past : List Obs) : Prop :=
  o = .wakeDrained true → (sinceProbe past).isSome = true

/-- Is the step part of a wake? -/
def isWaking : ActiveAction → Bool
  | .waitForCreate .. | .wakeSettle _ | .powerPulse _ (some _) _ => true
  | _ => false

def WakeNeutral : Obs → Prop
  | .ran .wakeCreate | .probeRequested | .wakeAnswered | .wakeFailed _ => False
  | _ => True

/-- Every event that could decide the wake is accounted for by what came after the probe. -/
def Justified (recent : List Obs) (inbox : List BrainstemEvent) : Prop :=
  (∀ packetId bytes, .createPacketReceived packetId bytes ∈ inbox →
    ∃ packetId', .packetReceived packetId' ∈ recent) ∧
  ∀ error, .error error ∈ inbox → error = .invalidPacket ∧ .packetInvalid ∈ recent

structure WakeInv (c : Control) : Prop where
  bytes : ∀ deadlineMs nextProbeMs responseBytes oiStarted allow,
    c.active = .waitForCreate deadlineMs nextProbeMs responseBytes oiStarted allow →
      responseBytes = 0
  fresh : isWaking c.active = true →
    ∀ recent, sinceProbe c.log = some recent → Justified recent c.inbox
  law : Annals WakeLaw c.log

theorem sinceProbe_cons {o : Obs} (hran : o ≠ .ran .wakeCreate) (hprobe : o ≠ .probeRequested)
    (log : List Obs) : sinceProbe (o :: log) = (sinceProbe log).map (o :: ·) := by
  rw [sinceProbe]
  · cases sinceProbe log <;> simp [hprobe]
  · exact hran

theorem sinceProbe_neutral {o : Obs} (h : WakeNeutral o) (log : List Obs) :
    sinceProbe (o :: log) = (sinceProbe log).map (o :: ·) := by
  refine sinceProbe_cons ?_ ?_ log
  · rintro rfl
    exact h
  · rintro rfl
    exact h

theorem WakeNeutral.law {o : Obs} (h : WakeNeutral o) (past : List Obs) : WakeLaw o past := by
  constructor
  · rintro rfl
    exact h.elim
  · rintro error rfl
    exact h.elim

theorem Justified.mono {recent : List Obs} {inbox inbox' : List BrainstemEvent}
    (h : Justified recent inbox) (hrest : inbox' ⊆ inbox) : Justified recent inbox' :=
  ⟨fun packetId bytes hmem => h.1 packetId bytes (hrest hmem), fun e hmem => h.2 e (hrest hmem)⟩

theorem Justified.cons {recent : List Obs} {inbox : List BrainstemEvent} (h : Justified recent inbox)
    (o : Obs) : Justified (o :: recent) inbox := by
  constructor
  · intro packetId bytes hmem
    obtain ⟨packetId', hin⟩ := h.1 packetId bytes hmem
    exact ⟨packetId', List.mem_cons_of_mem o hin⟩
  · intro error hmem
    obtain ⟨herror, hin⟩ := h.2 error hmem
    exact ⟨herror, List.mem_cons_of_mem o hin⟩

theorem wakeNeutral_of_plain {o : Obs} (h : o.plain = true) : WakeNeutral o :=
  Obs.of_plain h (fun _ _ _ _ _ _ => trivial) fun _ _ _ => trivial

theorem sinceProbe_eq_none_of_plain {log : List Obs} (h : ∀ o ∈ sinceWake log, o.plain = true) :
    sinceProbe log = none := by
  induction log with
  | nil => rfl
  | cons o past ih =>
    by_cases hran : o = .ran .wakeCreate
    · subst hran
      rfl
    have hsince : sinceWake (o :: past) = o :: sinceWake past := by
      rw [sinceWake]
      exact hran
    rw [hsince] at h
    have hplain := h o List.mem_cons_self
    rw [sinceProbe_neutral (wakeNeutral_of_plain hplain), ih fun other hmem => h other (List.mem_cons_of_mem o hmem)]
    rfl

theorem WakeInv.extend {c c' : Control} (hinv : WakeInv c)
    (hbytes : ∀ deadlineMs nextProbeMs responseBytes oiStarted allow,
      c'.active = .waitForCreate deadlineMs nextProbeMs responseBytes oiStarted allow →
        responseBytes = 0)
    (hwaking : isWaking c'.active = true → isWaking c.active = true) (hinbox : c'.inbox ⊆ c.inbox)
    (hadds : Adds WakeNeutral c c') : WakeInv c' := by
  obtain ⟨recent, hlog, hall⟩ := hadds
  have hread : sinceProbe c'.log = (sinceProbe c.log).map (recent ++ ·) ∧
      Annals WakeLaw c'.log := by
    rw [hlog]
    clear hlog
    induction recent with
    | nil => exact ⟨by simp, hinv.law⟩
    | cons o recent ih =>
      have ho := hall o List.mem_cons_self
      obtain ⟨hs, hl⟩ := ih fun other hother => hall other (List.mem_cons_of_mem _ hother)
      refine ⟨?_, ho.law _, hl⟩
      rw [List.cons_append, sinceProbe_neutral ho, hs, Option.map_map]
      rfl
  refine ⟨hbytes, fun h newer hnewer => ?_, hread.2⟩
  rw [hread.1, Option.map_eq_some_iff] at hnewer
  obtain ⟨older, holder, rfl⟩ := hnewer
  have hjust := (hinv.fresh (hwaking h) older holder).mono hinbox
  clear hread hall hlog
  induction recent with
  | nil => exact hjust
  | cons o recent ih => exact ih.cons o

theorem WakeInv.note {c c' : Control} (hinv : WakeInv c) (hactive : c'.active = c.active)
    (hinbox : c'.inbox = c.inbox) (hadds : Adds WakeNeutral c c') : WakeInv c' := by
  refine hinv.extend ?_ ?_ ?_ hadds
  · rw [hactive]
    exact hinv.bytes
  · rw [hactive]
    exact id
  · rw [hinbox]
    exact List.Subset.refl _

theorem WakeInv.leave {c' : Control} (hactive : isWaking c'.active = false)
    (hlaw : Annals WakeLaw c'.log) : WakeInv c' := by
  refine ⟨fun d n b o a h => ?_, fun h => ?_, hlaw⟩
  · rw [h] at hactive
    cases hactive
  · rw [hactive] at h
    cases h

theorem Adds.wakeLaw {c c' : Control} (hadds : Adds WakeNeutral c c')
    (hlaw : Annals WakeLaw c.log) : Annals WakeLaw c'.log := by
  obtain ⟨recent, hlog, hall⟩ := hadds
  rw [hlog]
  exact hlaw.append_of_forall fun o ho => (hall o ho).law

theorem Justified.packet {c : Control} {recent : List Obs} (h : Justified recent c.inbox)
    {packetId : UInt8} {bytes : List UInt8} {inbox' : List BrainstemEvent}
    (hreceived : c.Received (.createPacketReceived packetId bytes) inbox') :
    Justified (.packetReceived packetId :: recent) inbox' := by
  have hold := h.cons (.packetReceived packetId)
  rcases hreceived with rfl | rfl
  · constructor
    · exact fun _ _ _ => ⟨packetId, List.mem_cons_self⟩
    · intro error hmem
      exact hold.2 error (by simpa using hmem)
  · exact hold

theorem Justified.invalid {c : Control} {recent : List Obs} (h : Justified recent c.inbox)
    {inbox' : List BrainstemEvent} (hreceived : c.Received (.error .invalidPacket) inbox') :
    Justified (.packetInvalid :: recent) inbox' := by
  have hold := h.cons .packetInvalid
  rcases hreceived with rfl | rfl
  · constructor
    · intro packetId bytes hmem
      exact hold.1 packetId bytes (by simpa using hmem)
    · intro error hmem
      rcases List.mem_append.mp hmem with hmem | hmem
      · exact hold.2 error hmem
      · cases List.mem_singleton.mp hmem
        exact ⟨rfl, List.mem_cons_self⟩
  · exact hold

theorem WakeInv.arrive {c : Control} (hinv : WakeInv c) {o : Obs} (ho : WakeNeutral o)
    {inbox' : List BrainstemEvent}
    (hjust : ∀ recent, Justified recent c.inbox → Justified (o :: recent) inbox') :
    WakeInv { c with inbox := inbox', log := o :: c.log } := by
  refine ⟨hinv.bytes, fun hwaking newer hnewer => ?_, ho.law _, hinv.law⟩
  rw [sinceProbe_neutral ho, Option.map_eq_some_iff] at hnewer
  obtain ⟨older, holder, rfl⟩ := hnewer
  exact hjust older (hinv.fresh hwaking older holder)

theorem WakeInv.justified {c : Control} (hinv : WakeInv c) (hwaking : isWaking c.active = true)
    (hprobe : (sinceProbe c.log).isSome = true) :
    ∃ recent, sinceProbe c.log = some recent ∧ Justified recent c.inbox := by
  obtain ⟨recent, hrecent⟩ := Option.isSome_iff_exists.mp hprobe
  exact ⟨recent, hrecent, hinv.fresh hwaking recent hrecent⟩

theorem WakeInv.step {c c' : Control} (h : Step c c') (hgood : Annals ProbeFirst c'.log)
    (hinv : WakeInv c) : WakeInv c' := by
  cases h with
  | note o ho => exact hinv.note rfl rfl (.one rfl (wakeNeutral_of_plain ho))
  | packet packetId bytes inbox' hreceived =>
    exact hinv.arrive (o := .packetReceived packetId) trivial fun _ hjust => hjust.packet hreceived
  | invalid inbox' hreceived => exact hinv.arrive (o := .packetInvalid) trivial fun _ hjust => hjust.invalid hreceived
  | fail error kind seq seq' code inbox' =>
    have hadds : Adds WakeNeutral c ((c.errorEntered seq code inbox').settled kind seq') :=
      .settled (.two rfl trivial trivial) _ _ fun _ => trivial
    exact .leave rfl (hadds.wakeLaw hinv.law)
  | queue front queued =>
    have htraced : Adds WakeNeutral c (c.traced queued.commandId) :=
      .traced (.none rfl) _ (fun _ => trivial) fun _ => trivial
    exact hinv.note rfl rfl (htraced.pushed front queued trivial)
  | refuse commandId =>
    have htraced : Adds WakeNeutral c (c.traced commandId) :=
      .traced (.none rfl) _ (fun _ => trivial) fun _ => trivial
    exact hinv.note rfl rfl (htraced.trans (.one rfl trivial))
  | drop trace htrace =>
    refine hinv.note rfl rfl (.forgotten (.none rfl) fun id => ?_)
    rcases htrace with rfl | rfl <;> trivial
  | purgeOne before after queued o hqueue ho =>
    refine hinv.note rfl rfl (.one rfl ?_)
    rcases ho with rfl | ⟨seq, rfl⟩ <;> trivial
  | begin queued rest seq code hqueue hactive =>
    refine .leave (by simp [hactive, isWaking]) ⟨⟨by simp, by simp⟩, ⟨by simp, by simp⟩, hinv.law⟩
  | settle kind seq => exact hinv.note rfl rfl (.settled (.none rfl) _ _ fun _ => trivial)
  | interrupt seq =>
    exact hinv.note rfl rfl (.interrupted (.none rfl) _ (fun _ => trivial) trivial)
  | halt => exact .leave rfl hinv.law
  | drive => exact .leave rfl ⟨⟨by simp, by simp⟩, hinv.law⟩
  | renew => exact .leave rfl ⟨⟨by simp, by simp⟩, hinv.law⟩
  | depart => exact .leave rfl hinv.law
  | latchHalt kind seq seq' between hseq hbetween =>
    have hlatched : Adds WakeNeutral c
        (((c.tripped kind seq).noted between).latchedAs (some kind)) :=
      .latched (fun _ _ => trivial) trivial fun o ho => wakeNeutral_of_plain (hbetween o ho)
    exact .leave rfl ((hlatched.interrupted seq' (fun _ => trivial) trivial).wakeLaw hinv.law)
  | latch kind seq between hseq hbetween =>
    exact hinv.note rfl rfl (.latched (fun _ _ => trivial) trivial
      fun o ho => wakeNeutral_of_plain (hbetween o ho))
  | unlatch kind cause seq between hbetween =>
    exact hinv.note rfl rfl (.unlatched (fun _ _ => trivial) trivial trivial
      fun o ho => wakeNeutral_of_plain (hbetween o ho))
  | tripHalt seq seq' =>
    have hadds : Adds WakeNeutral c ((c.tripped .heartbeat seq).interrupted seq') :=
      .interrupted (.one rfl trivial) _ (fun _ => trivial) trivial
    exact .leave rfl (hadds.wakeLaw hinv.law)
  | withdraw starts =>
    have hpushed : Adds WakeNeutral c (c.pushed true withdrawal) :=
      .pushed (.none rfl) _ _ trivial
    exact hinv.note rfl rfl (hpushed.trans (.none rfl))
  | pulse cause releaseAtMs wakeWaitUntilMs powerOn hmode hcause =>
    cases cause with
    | sleep powerState =>
      rw [hcause.1]
      exact .leave rfl ⟨⟨by simp, by simp⟩, ⟨by simp, by simp⟩, hinv.law⟩
    | wake powerState =>
      refine ⟨by simp, fun _ recent hrecent => ?_, ⟨by simp, by simp⟩, ⟨by simp, by simp⟩,
        hinv.law⟩
      rw [sinceProbe_neutral (o := .powerToggle true) trivial,
        sinceProbe_neutral (o := .pulseBegun (.wake powerState)) trivial,
        sinceProbe_eq_none_of_plain hcause.2] at hrecent
      cases hrecent
    | timeout nowMs deadlineMs =>
      obtain ⟨-, -, _, _, _, hactive⟩ := hcause
      refine hinv.extend (by simp) (fun _ => ?_) (List.Subset.refl _) (.two rfl trivial trivial)
      rw [hactive]
      rfl
  | settleWake _ _ _ hactive =>
    refine hinv.extend (by simp) (fun _ => ?_) (List.Subset.refl _) (.none rfl)
    rw [hactive]
    rfl
  | rewait _ _ _ hactive =>
    refine hinv.extend ?_ (fun _ => ?_) (List.Subset.refl _) (.none rfl)
    · rintro _ _ _ _ _ ⟨⟩
      rfl
    · rw [hactive]
      rfl
  | keepWaiting _ _ _ _ _ _ _ hactive =>
    refine hinv.extend ?_ (fun _ => ?_) (List.Subset.refl _) (.none rfl)
    · rintro _ _ _ _ _ ⟨⟩
      rfl
    · rw [hactive]
      rfl
  | beginWait _ _ _ _ _ hlog =>
    refine ⟨?_, fun _ recent hrecent => ?_, hinv.law⟩
    · rintro _ _ _ _ _ ⟨⟩
      rfl
    · rw [sinceProbe_eq_none_of_plain hlog] at hrecent
      cases hrecent
  | beginSettle => exact .leave rfl hinv.law
  | probe hempty =>
    refine ⟨hinv.bytes, fun _ recent _ => ?_, ⟨by simp, by simp⟩, hinv.law⟩
    constructor
    · intro _ _ hmem
      rw [show (c.observe .probeRequested).inbox = [] from hempty] at hmem
      cases hmem
    · intro _ hmem
      rw [show (c.observe .probeRequested).inbox = [] from hempty] at hmem
      cases hmem
  | answered deadlineMs nextProbeMs seq responseBytes oiStarted allow hactive hdecided =>
    have hwaking : isWaking c.active = true := by rw [hactive]; rfl
    obtain ⟨packetId, bytes, hmem⟩ : ∃ packetId bytes,
        .createPacketReceived packetId bytes ∈ c.inbox :=
      hdecided.resolve_left fun hne => hne (hinv.bytes _ _ _ _ _ hactive)
    have hdrained : (!c.inbox.isEmpty) = true := by
      rw [Bool.not_eq_true', List.isEmpty_eq_false_iff]
      exact List.ne_nil_of_mem hmem
    have hentries : Annals ProbeFirst c.wakeDecided.log :=
      hgood.of_suffix (settled_suffix c.wakeDecided .commandCompleted seq)
    obtain ⟨recent, hrecent, hjust⟩ :=
      hinv.justified hwaking (hentries.2.1 (by rw [hdrained]))
    have hlaw : Annals WakeLaw c.wakeDecided.log := by
      refine ⟨⟨fun _ => ?_, by simp⟩, ⟨by simp, by simp⟩, hinv.law⟩
      obtain ⟨packetId', hin⟩ := hjust.1 packetId bytes hmem
      refine ⟨.wakeDrained (!c.inbox.isEmpty) :: recent, ?_, packetId',
        List.mem_cons_of_mem _ hin⟩
      rw [sinceProbe_neutral (o := .wakeDrained (!c.inbox.isEmpty)) trivial, hrecent]
      rfl
    have hadds : Adds WakeNeutral c.wakeDecided (c.wakeDecided.settled .commandCompleted seq) :=
      .settled (.none rfl) _ _ fun _ => trivial
    exact .leave rfl (hadds.wakeLaw hlaw)
  | wakeFailed error inbox' deadlineMs nextProbeMs responseBytes oiStarted allow hactive hmem
      hrest =>
      have hwaking : isWaking c.active = true := by rw [hactive]; rfl
      obtain ⟨recent, hrecent, hjust⟩ := hinv.justified hwaking (hgood.2.1 rfl)
      obtain ⟨herror, hin⟩ := hjust.2 error hmem
      have hdrained : sinceProbe (.wakeDrained true :: c.log) =
          some (.wakeDrained true :: recent) := by
        rw [sinceProbe_neutral (o := .wakeDrained true) trivial, hrecent]
        rfl
      refine ⟨hinv.bytes, fun _ newer hnewer => ?_, ⟨by simp, fun error' h => ?_⟩,
        ⟨by simp, by simp⟩, hinv.law⟩
      · rw [sinceProbe_cons (by simp) (by simp), hdrained] at hnewer
        cases hnewer
        exact ((hjust.cons _).cons _).mono hrest
      · cases h
        exact ⟨herror, _, hdrained, List.mem_cons_of_mem _ hin⟩
  | take | admission | endExecuting | endWithdrawal | setMode | unlatchIdle | setCareful | setPending =>
    exact hinv.note rfl rfl (.none rfl)
  | _ => exact hinv.note rfl rfl (.one rfl trivial)

theorem wake_inductive : World.Inductive ProbeFirst WakeInv where
  step _ _ := WakeInv.step
  clock _ _ hinv := ⟨hinv.bytes, hinv.fresh, hinv.law⟩
  posts c mailbox recent hdelivers _ hinv := by
    refine hinv.note rfl rfl ⟨recent, rfl, fun o ho => ?_⟩
    have h := hdelivers.posted o ho
    cases o <;> trivial

def wakeChecked : Obs → List Obs → Bool
  | .wakeAnswered, past => (sinceProbe past).any (·.any isPacket)
  | .wakeFailed error, past =>
    error = .invalidPacket && (sinceProbe past).any (·.contains .packetInvalid)
  | _, _ => true

theorem wakeLaw_iff {o : Obs} {past : List Obs} : WakeLaw o past ↔ wakeChecked o past = true := by
  have hpacket : ∀ recent : List Obs, recent.any isPacket = true ↔
      ∃ packetId, .packetReceived packetId ∈ recent := by
    intro recent
    rw [List.any_eq_true]
    constructor
    · rintro ⟨o, hmem, ho⟩
      cases o <;> first | exact ⟨_, hmem⟩ | cases ho
    · rintro ⟨packetId, hmem⟩
      exact ⟨_, hmem, rfl⟩
  cases o <;> simp only [WakeLaw, wakeChecked, reduceCtorEq, false_implies, implies_true,
    and_self, true_implies, and_true, Obs.wakeFailed.injEq, forall_eq', true_and]
  · cases sinceProbe past <;> simp [hpacket]
  · cases sinceProbe past <;> simp

instance (o : Obs) (past : List Obs) : Decidable (WakeLaw o past) :=
  decidable_of_iff _ wakeLaw_iff.symm

/-- The condition on a run, as a check of one entry. -/
def probeChecked : Obs → List Obs → Bool
  | .wakeDrained decisive, past => !decisive || (sinceProbe past).isSome
  | _, _ => true

theorem probeFirst_iff {o : Obs} {past : List Obs} :
    ProbeFirst o past ↔ probeChecked o past = true := by
  cases o <;> simp [ProbeFirst, probeChecked]
  rename_i decisive
  cases decisive <;> simp

instance (o : Obs) (past : List Obs) : Decidable (ProbeFirst o past) :=
  decidable_of_iff _ probeFirst_iff.symm

end Control

namespace World

open Control (WakeLaw ProbeFirst)

/-- In a run whose waiting steps find nothing decisive in the event queue before their probe, what
decides a wake came after its probe. -/
theorem wakes_probed (motherbrainResetEnabled : Bool) (actions : List Action)
    (h : Lawful ProbeFirst (run motherbrainResetEnabled actions).log) :
    Lawful WakeLaw (run motherbrainResetEnabled actions).log := by
  have hboot : Control.WakeInv (boot motherbrainResetEnabled).control := by
    refine ⟨by rintro _ _ _ _ _ ⟨⟩, by rintro ⟨⟩, ?_⟩
    have hrequeued : Control.WakeNeutral (.requeued 0) := trivial
    have hbooted : Control.WakeNeutral (.event 1 .boot 0 0 0) := trivial
    exact ⟨hrequeued.law _, hrequeued.law _, hrequeued.law _, hbooted.law _, trivial⟩
  exact ⟨(Control.wake_inductive.run hboot h.annals).law⟩

/-- The mode frame that the Create sends comes in at this moment of the first wake. -/
def modeAt (early late : List SerialRead) : List Action :=
  [.tick { nowUs := 10000 }, .tick { nowUs := 20000, rx := early }, .tick { nowUs := 300000 },
    .tick { nowUs := 320000, rx := late }]

theorem wake_answered_late :
    Lawful ProbeFirst (run false (modeAt [] ([19, 2, 35, 2, 198].map .byte))).log ∧
      Lawful WakeLaw (run false (modeAt [] ([19, 2, 35, 2, 198].map .byte))).log := by
  have hfirst : Lawful ProbeFirst
      (run false (modeAt [] ([19, 2, 35, 2, 198].map .byte))).log := by decide +kernel
  exact ⟨hfirst, wakes_probed false (modeAt [] ([19, 2, 35, 2, 198].map .byte)) hfirst⟩

/-- An answer to the mode stream decides the wake before its probe goes out. -/
theorem wake_answered_early :
    ¬ Lawful WakeLaw (run false (modeAt ([19, 2, 35, 2, 198].map .byte) [])).log := by
  decide +kernel

end World

end Netherwick.Brainstem
