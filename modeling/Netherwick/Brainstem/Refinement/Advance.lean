import Netherwick.Brainstem.Refinement.Execution

/-! # The runtime moves along the skeleton: advancing the active step -/

namespace Netherwick.Brainstem

open Netherwick.Lib

namespace World

open Control (Steps Step)

section Drain

variable {events rest : Deque BrainstemEvent eventQueueCapacity} {responseBytes received : UInt8}

theorem drainWakeEvents_error {rounds : Nat} {error : BrainstemError}
    (h : drainWakeEvents rounds events responseBytes = (.error error, rest)) :
    .error error ∈ events.items ∧ rest.items ⊆ events.items := by
  induction rounds generalizing events responseBytes with
  | zero => cases h
  | succ rounds ih =>
    unfold drainWakeEvents at h
    cases hpop : events.popFront with
    | none =>
      rw [hpop] at h
      cases h
    | some entry =>
      obtain ⟨event, tail⟩ := entry
      have hitems := Deque.popFront_eq_some.mp hpop
      rw [hpop] at h
      have hkeep : ∀ {responseBytes : UInt8},
          drainWakeEvents rounds tail responseBytes = (.error error, rest) →
            .error error ∈ events.items ∧ rest.items ⊆ events.items := by
        intro _ h
        rw [hitems]
        obtain ⟨hmem, hsub⟩ := ih h
        exact ⟨List.mem_cons_of_mem _ hmem, fun e he => List.mem_cons_of_mem _ (hsub he)⟩
      cases event with
      | error error' =>
        cases h
        rw [hitems]
        exact ⟨List.mem_cons_self, List.subset_cons_self _ _⟩
      | _ => exact hkeep h

/-- What a full drain without an error says about the events it consumed. -/
structure Drained (events : List BrainstemEvent) (responseBytes received : UInt8) : Prop where
  answered : received ≠ 0 →
    responseBytes ≠ 0 ∨ ∃ packetId bytes, .createPacketReceived packetId bytes ∈ events ∧ bytes ≠ []
  silent : received = 0 → responseBytes = 0 ∧ ∀ event ∈ events, decisive event = false

theorem Drained.skip {event : BrainstemEvent} {tail : List BrainstemEvent}
    (h : Drained tail responseBytes received) (hevent : decisive event = false) :
    Drained (event :: tail) responseBytes received where
  answered hne := (h.answered hne).imp_right fun ⟨packetId, bytes, hmem, hbytes⟩ =>
    ⟨packetId, bytes, List.mem_cons_of_mem _ hmem, hbytes⟩
  silent hzero := ⟨(h.silent hzero).1, fun event' hmem => by
    rcases List.mem_cons.mp hmem with rfl | hmem
    · exact hevent
    · exact (h.silent hzero).2 event' hmem⟩

def countBytes (responseBytes : UInt8) (bytes : List UInt8) : UInt8 :=
  UInt8.ofNat (min 255 (responseBytes.toNat + bytes.length))

theorem countBytes_toNat (responseBytes : UInt8) (bytes : List UInt8) :
    (countBytes responseBytes bytes).toNat = min 255 (responseBytes.toNat + bytes.length) := by
  unfold countBytes
  rw [UInt8.toNat_ofNat']
  omega

theorem Drained.count {packetId : UInt8} {bytes : List UInt8} {tail : List BrainstemEvent}
    (h : Drained tail (countBytes responseBytes bytes) received) :
    Drained (.createPacketReceived packetId bytes :: tail) responseBytes received := by
  have hcount := countBytes_toNat responseBytes bytes
  constructor
  · intro hne
    rcases h.answered hne with hsome | ⟨packetId', bytes', hmem, hbytes⟩
    · by_cases hbytes : bytes = []
      · subst hbytes
        refine .inl fun hzero => hsome ?_
        subst hzero
        rfl
      · exact .inr ⟨packetId, bytes, List.mem_cons_self, hbytes⟩
    · exact .inr ⟨packetId', bytes', List.mem_cons_of_mem _ hmem, hbytes⟩
  · intro hzero
    obtain ⟨hnone, hsilent⟩ := h.silent hzero
    rw [hnone] at hcount
    have hsum : responseBytes.toNat = 0 ∧ bytes.length = 0 := by
      have hcount : 0 = min 255 (responseBytes.toNat + bytes.length) := hcount
      omega
    refine ⟨UInt8.toNat_inj.mp hsum.1, fun event hmem => ?_⟩
    rcases List.mem_cons.mp hmem with rfl | hmem
    · simp [decisive, List.length_eq_zero_iff.mp hsum.2]
    · exact hsilent event hmem

theorem drainWakeEvents_ok {rounds : Nat} (hrounds : events.items.length ≤ rounds)
    (h : drainWakeEvents rounds events responseBytes = (.ok received, rest)) :
    rest.items = [] ∧ Drained events.items responseBytes received := by
  induction rounds generalizing events responseBytes with
  | zero =>
    have hnil := List.length_eq_zero_iff.mp (Nat.le_zero.mp hrounds)
    cases h
    exact ⟨hnil, by simp [hnil], by simp [hnil]⟩
  | succ rounds ih =>
    unfold drainWakeEvents at h
    cases hpop : events.popFront with
    | none =>
      have hnil := Deque.popFront_eq_none.mp hpop
      rw [hpop] at h
      cases h
      exact ⟨hnil, by simp [hnil], by simp [hnil]⟩
    | some entry =>
      obtain ⟨event, tail⟩ := entry
      have hitems := Deque.popFront_eq_some.mp hpop
      have htail : tail.items.length ≤ rounds := by
        rw [hitems, List.length_cons] at hrounds
        omega
      rw [hpop] at h
      rw [hitems]
      cases event with
      | error => cases h
      | createPacketReceived packetId bytes =>
        obtain ⟨hnil, hdrained⟩ := ih htail h
        exact ⟨hnil, hdrained.count⟩
      | _ =>
        obtain ⟨hnil, hdrained⟩ := ih htail h
        exact ⟨hnil, hdrained.skip rfl⟩

end Drain

section Waiting

variable {w : World} {deadlineMs nextProbeMs : UInt32} {responseBytes received : UInt8}
  {oiStarted allow : Bool} {events : Deque BrainstemEvent eventQueueCapacity}

/-- The world in which the waiting step has emptied the queue. -/
def drainedTo (events : Deque BrainstemEvent eventQueueCapacity) (w : World) : World :=
  { w.observe (.wakeDrained (w.dev.events.items.any decisive)) with
    dev := { (w.observe (.wakeDrained (w.dev.events.items.any decisive))).dev with events } }

theorem any_decisive (w : World) :
    w.dev.events.items.any decisive = !w.control.inbox.isEmpty := by
  show _ = !(w.dev.events.items.filter decisive).isEmpty
  induction w.dev.events.items with
  | nil => rfl
  | cons event events ih => cases h : decisive event <;> simp [h, ih]

theorem wakeAnswered_along
    (hactive : w.rt.active =
      .waitForCreate deadlineMs nextProbeMs responseBytes oiStarted allow)
    (hempty : events.items = []) (hdrained : Drained w.dev.events.items responseBytes received)
    (hreceived : received ≠ 0) : Along w (drainedTo events w).wakeAnswered := by
  let decided := (((drainedTo events w).observe .wakeAnswered).onRuntime fun rt =>
    { rt with createResponsive := true, active := .none }).onStatus (·.setCreatePowerOn true)
  have hanswer : responseBytes ≠ 0 ∨
      ∃ packetId bytes, .createPacketReceived packetId bytes ∈ w.control.inbox := by
    refine (hdrained.answered hreceived).imp_right ?_
    rintro ⟨packetId, bytes, hmem, hbytes⟩
    exact ⟨packetId, bytes, List.mem_filter.mpr ⟨hmem, by simpa [decisive] using hbytes⟩⟩
  have hstep := Step.answered w.control deadlineMs nextProbeMs decided.st.eventNextSeq
    responseBytes oiStarted allow hactive hanswer
  have hdecided : decided.control = { w.control.wakeDecided with active := .none } := by
    show { w.control with
      inbox := events.items.filter decisive, active := .none
      log := .wakeAnswered :: .wakeDrained (w.dev.events.items.any decisive) :: w.log } = _
    rw [hempty, any_decisive]
    rfl
  have hlast : (drainedTo events w).wakeAnswered.control =
      { w.control.wakeDecided.settled .commandCompleted decided.st.eventNextSeq with
        active := .none } := by
    show decided.completeActiveCommand.control = _
    rw [control_completeActiveCommand, hdecided]
    rfl
  refine ⟨fun _ => .single ?_, rfl, rfl, fun hnumbered => ?_⟩
  · rw [hlast]
    exact hstep
  · exact (decided.complete_along).numbered ((Status.setCreatePowerOn_quiet _ true).numbered hnumbered)

theorem drainedTo_along (hempty : events.items = [])
    (hdrained : Drained w.dev.events.items responseBytes received) (hreceived : received = 0) :
    Along w (drainedTo events w) ∧ (drainedTo events w).control.inbox = [] := by
  have hinbox : w.control.inbox = [] := by
    refine List.filter_eq_nil_iff.mpr fun event hmem => ?_
    simp [(hdrained.silent hreceived).2 event hmem]
  have hafter : (drainedTo events w).control.inbox = [] := by
    show events.items.filter decisive = []
    rw [hempty]
    rfl
  refine ⟨.step ?_ rfl rfl, hafter⟩
  have hc : (drainedTo events w).control = w.control.observe (.wakeDrained false) := by
    show { w.control with
      inbox := (drainedTo events w).control.inbox
      log := .wakeDrained (w.dev.events.items.any decisive) :: w.log } = _
    have hany : w.dev.events.items.any decisive = false := by
      rw [any_decisive, hinbox]
      rfl
    rw [hafter, hany, ← hinbox]
    rfl
  rw [hc]
  exact .drained _ hinbox

theorem wakeFailed_along {error : BrainstemError}
    (hactive : w.rt.active =
      .waitForCreate deadlineMs nextProbeMs responseBytes oiStarted allow)
    (hmem : .error error ∈ w.dev.events.items) (hrest : events.items ⊆ w.dev.events.items) :
    Along w ((drainedTo events w).observe (.wakeFailed error)) := by
  refine .step ?_ rfl rfl
  have hin : .error error ∈ w.control.inbox := List.mem_filter.mpr ⟨hmem, rfl⟩
  have hstep := Step.wakeFailed w.control error (events.items.filter decisive) deadlineMs
    nextProbeMs responseBytes oiStarted allow hactive hin
    fun event hevent => List.mem_filter.mpr
      ⟨hrest (List.mem_filter.mp hevent).1, (List.mem_filter.mp hevent).2⟩
  have hany : w.dev.events.items.any decisive = true := List.any_eq_true.mpr ⟨_, hmem, rfl⟩
  rw [← hany] at hstep
  exact hstep

theorem wakeTimedOut_along (hpulse : w.rt.active.isPowerPulse = false) :
    Along w w.wakeTimedOut := by
  let marked := (w.observe .wakeTimedOut).onStatus fun st =>
    st.setCreatePowerUnknown.setOiModeUnknown
  have hmarked : Along w marked := .status (.step (.wakeTimedOut _) rfl rfl) (.same rfl rfl)
  have hsettled := Step.settle marked.control (failureKind .timeout) marked.st.eventNextSeq rfl
  refine hmarked.trans ⟨fun _ => .tail (.single hsettled) ?_, rfl, rfl,
    marked.settleActiveCommand_numbered (failure_records .timeout)⟩
  have hhalted := Step.halt (marked.control.settled (failureKind .timeout) marked.st.eventNextSeq)
    (fun _ => hpulse) (.inl rfl)
  have hc : w.wakeTimedOut.control =
      { marked.control.settled (failureKind .timeout) marked.st.eventNextSeq with
        active := .none } := by
    show (failActiveCommand _ .timeout).control = _
    rw [control_failActiveCommand]
    rfl
  rw [hc]
  exact hhalted

end Waiting

section Advance

variable {w : World}

theorem keepWaiting_goes {deadlineMs nextProbeMs nowMs : UInt32} {responseBytes received : UInt8}
    {oiStarted allow : Bool}
    (hactive : w.rt.active =
      .waitForCreate deadlineMs nextProbeMs responseBytes oiStarted allow)
    (hinbox : w.control.inbox = []) (hreceived : received = 0) (hnow : nowMs = w.nowMs) :
    Goes w (keepWaiting nowMs deadlineMs nextProbeMs received oiStarted allow)
      fun _ w' => w'.rt.active.isMotion = false := by
  have hkeep : ∀ {w' : World} (nextProbeMs' : UInt32) (oiStarted' : Bool), w'.rt.active =
      .waitForCreate deadlineMs nextProbeMs responseBytes oiStarted allow →
        Along w' (w'.setActive (.waitForCreate deadlineMs nextProbeMs' 0 oiStarted' allow)) :=
    fun _ _ h => .step (.keepWaiting _ _ _ _ _ _ _ _ h) rfl rfl
  refine .ite (fun hlate => ?_) fun _ => .ite (fun _ => ?_) fun _ => .act ?_ rfl
  · refine .ite (fun hallow => .act ?_ rfl) fun _ => .act ?_ rfl
    · refine startPowerPulse_along rfl (.inr (by simp [hactive])) fun w' hq => ⟨?_, hlate, ?_⟩
      · rw [hnow]
        exact hq.traces.nowMs.symm
      · exact ⟨nextProbeMs, responseBytes, oiStarted, hq.active.trans (by rw [hactive, hallow])⟩
    · exact wakeTimedOut_along (by rw [hactive]; rfl)
  · refine .act_bind (along_of_view rfl) (.ite (fun _ => ?_) fun _ => ?_)
    · refine (Hushed.drive Device.startOi_silent).goes.bind fun _ w' _ hq => .act ?_ rfl
      exact hkeep _ _ (hq.active.trans hactive)
    · refine .act_bind (.step (.probe _ hinbox) rfl rfl) ?_
      refine (Hushed.drive (Device.requestSensorPacket_silent _)).goes.bind
        fun _ w' _ hq => .act ?_ rfl
      exact hkeep _ _ (hq.active.trans hactive)
  · rw [hreceived]
    exact hkeep _ _ hactive

theorem advanceWaitForCreate_goes {deadlineMs nextProbeMs : UInt32} {responseBytes : UInt8}
    {oiStarted allow : Bool}
    (hactive : w.rt.active =
      .waitForCreate deadlineMs nextProbeMs responseBytes oiStarted allow) :
    Goes w (advanceWaitForCreate deadlineMs nextProbeMs responseBytes oiStarted allow)
      fun _ w' => w'.rt.active.isMotion = false := by
  refine .get_bind ?_
  rcases hdrain : drainWakeEvents w.dev.events.length w.dev.events responseBytes with
    ⟨error | received, events⟩
  · obtain ⟨hmem, hrest⟩ := drainWakeEvents_error hdrain
    refine Prog.wp_act_bind.mpr (Prog.wp_act_bind.mpr ?_)
    exact (wakeFailed_along hactive hmem hrest).trans (along_halt _ error)
  · obtain ⟨hempty, hdrained⟩ := drainWakeEvents_ok (Nat.le_refl _) hdrain
    refine Prog.wp_act_bind.mpr ?_
    show Prog.wp (if wakeProbeResponseBytesRequired ≤ received then _ else _) _ _
      (drainedTo events w)
    split
    · rename_i henough
      refine ⟨wakeAnswered_along hactive hempty hdrained ?_, rfl⟩
      rintro rfl
      exact absurd henough (by decide)
    · rename_i hfew
      have hnone : received = 0 := by
        have htoNat : ¬ 1 ≤ received.toNat := fun h => hfew (UInt8.le_iff_toNat_le.mpr h)
        exact UInt8.toNat_inj.mp (show received.toNat = 0 by omega)
      obtain ⟨hsilent, hinbox⟩ := drainedTo_along hempty hdrained hnone
      refine Prog.Walks.from_start (R := Along) (fun _ _ _ => Along.trans) hsilent ?_
      exact keepWaiting_goes (w := drainedTo events w) hactive hinbox hnone rfl

theorem advancePowerPulse_along {releaseAtMs : UInt32} {wakeWaitUntilMs : Option UInt32}
    {powerOn : Bool} (hactive : w.rt.active = .powerPulse releaseAtMs wakeWaitUntilMs powerOn) :
    Along w (w.advancePowerPulse wakeWaitUntilMs powerOn) := by
  have hreleased : Along w w.endPowerTogglePulse :=
    .step (.releasePulse _ (by simp [control, hactive, ActiveAction.isPowerPulse])) rfl rfl
  let toggled := w.endPowerTogglePulse.pushEvent .createPowerToggled
  have hpushed : Quiet w.endPowerTogglePulse toggled := .of_dev (Device.pushEvent_quiet _ rfl _)
  have htoggled := hreleased.trans hpushed.along
  unfold advancePowerPulse
  cases wakeWaitUntilMs with
  | some untilMs =>
    refine htoggled.trans (.step (.settleWake _ releaseAtMs untilMs powerOn ?_ ?_) rfl rfl)
    · exact hpushed.active.trans hactive
    · obtain ⟨_, _, hc⟩ := hpushed
      exact congrArg Control.powerToggle hc
  | none =>
    let powered := toggled.onStatus (·.setCreatePowerOn powerOn)
    have hpowered : Along w powered := .status htoggled (Status.setCreatePowerOn_quiet _ _)
    have hline : powered.control.powerToggle = false := by
      obtain ⟨_, _, hc⟩ := hpushed
      exact congrArg Control.powerToggle hc
    refine hpowered.trans ⟨fun _ => ?_, rfl, rfl, powered.complete_along.numbered⟩
    show Steps _ (powered.setActive .none).completeActiveCommand.control
    rw [control_completeActiveCommand]
    refine .tail (.single (.settle _ .commandCompleted powered.st.eventNextSeq rfl)) ?_
    refine .halt (powered.control.settled .commandCompleted powered.st.eventNextSeq)
      (fun htrue => ?_) (.inl rfl)
    exact absurd (hline.symm.trans htrue) (by simp)

theorem completed_along {w' : World} (hpulse : w.rt.active.isPowerPulse = false)
    (hq : Quiet (w.setActive .none) w') : Along w w'.completeActiveCommand := by
  have halong := hq.along
  obtain ⟨recent, hplain, hc⟩ := hq
  let noted : Control := { w.control with log := recent ++ w.control.log }
  refine ⟨fun _ => ?_, halong.executing, halong.dispatching,
    fun hnumbered => w'.complete_along.numbered (hplain.2 hnumbered)⟩
  have hlast : w'.completeActiveCommand.control =
      { noted.settled .commandCompleted w'.st.eventNextSeq with active := .none } := by
    rw [control_completeActiveCommand, hc]
    rfl
  rw [hlast]
  refine (notes_steps hplain.1).trans ?_
  refine .tail (.single (.settle noted .commandCompleted w'.st.eventNextSeq rfl)) ?_
  exact .halt (noted.settled .commandCompleted w'.st.eventNextSeq) (fun _ => hpulse) (.inl rfl)

theorem Unwinds.completed {w' : World} (hpulse : w.rt.active.isPowerPulse = false)
    (h : Unwinds (w.setActive .none) w') : Along w w'.completeActiveCommand := by
  let ended := w.onRuntime fun rt => { rt with activeContactWithdrawal := none }
  have hover : Along w ended := .step (.endWithdrawal _) rfl rfl
  have hrest : Quiet (ended.setActive .none) w' := h
  exact hover.trans (completed_along hpulse hrest)

theorem advanceActiveAction_goes : Goes w advanceActiveAction fun _ w' => w'.control.OnTime := by
  have hstill : ∀ {m : M Unit}, Goes w m (fun _ w' => w'.rt.active.isMotion = false) →
      Goes w m fun _ w' => w'.control.OnTime := fun h => h.imp fun _ _ _ hstill => .of_still hstill
  have hearly : ∀ {active : ActiveAction}, w.rt.active = active → active.isMotion = false →
      w.control.OnTime := fun hactive h => .of_still ((congrArg _ hactive).trans h)
  refine .get_bind ?_
  cases hactive : w.rt.active with
  | none => exact .pure (hearly hactive rfl)
  | powerPulse =>
    refine .when (fun _ => .act (advancePowerPulse_along hactive) ?_) fun _ =>
      hearly hactive rfl
    refine .of_still ?_
    unfold advancePowerPulse
    split <;> rfl
  | settle =>
    refine .when (fun _ => .act
      (completed_along (by rw [hactive]; rfl) (.refl _)) (.of_still rfl)) fun _ =>
      hearly hactive rfl
  | wakeSettle =>
    refine .when (fun _ => .act (.step (.rewait _ _ _ _ hactive) rfl rfl) (.of_still rfl)) fun _ =>
      hearly hactive rfl
  | waitForCreate => exact hstill (advanceWaitForCreate_goes hactive)
  | driving stopAtMs =>
    refine .when (fun _ => ?_) fun hearly => ?_
    · refine stopDrive_hushed.goes.bind fun _ w' _ hq => .act ?_ (.of_still ?_)
      · refine (finishContactWithdrawal_unwinds _ _ _ _).completed ?_
        rw [hq.active, hactive]
        rfl
      · show (finishContactWithdrawal _ _ _ _).rt.active.isMotion = false
        rw [(finishContactWithdrawal_unwinds (w'.setActive .none) .completed none true).active]
        rfl
    · rintro stopAtMs' (hsame | hsame) <;> cases hactive.symm.trans hsame
      exact Bool.eq_false_iff.mpr hearly
  | dockDeparture stopAtMs =>
    refine .when (fun _ => ?_) fun hearly => ?_
    · refine stopDrive_hushed.goes.bind fun _ w' _ hq => .act ?_ (.of_still rfl)
      have hdeparture := hq.active.trans hactive
      have hhalted : Along w' (w'.setActive .none) := .step (.halt _
        (fun _ => by simp [control, hdeparture, ActiveAction.isPowerPulse])
        (.inr (.inr (by simp [control, hdeparture, ActiveAction.isDockDeparture])))) rfl rfl
      exact .status hhalted (.same rfl rfl)
    · rintro stopAtMs' (hsame | hsame) <;> cases hactive.symm.trans hsame
      exact Bool.eq_false_iff.mpr hearly

/-- The program leaves the mode alone, however it ends. -/
abbrev KeepsMode {α : Type} (m : M α) : Prop :=
  Prog.Stays (fun w w' : World => w'.rt.mode = w.rt.mode) m

theorem KeepsMode.bind {α β : Type} {m : M α} {k : α → M β} (hm : KeepsMode m)
    (hk : ∀ a, KeepsMode (k a)) : KeepsMode (m >>= k) :=
  Prog.Stays.bind (fun _ _ _ h h' => h'.trans h) hm hk

theorem KeepsMode.act_bind {β : Type} {f : World → World} {k : Unit → M β}
    (hf : ∀ w, (f w).rt.mode = w.rt.mode) (hk : KeepsMode (k ())) :
    KeepsMode (Prog.act f >>= k) :=
  KeepsMode.bind hf fun _ => hk

theorem KeepsMode.get_bind {β : Type} {k : World → M β} (hk : ∀ w, KeepsMode (k w)) :
    KeepsMode (Prog.get >>= k) :=
  KeepsMode.bind (fun _ => rfl) hk

theorem KeepsMode.when {c : Prop} [Decidable c] {m : M Unit} (h : KeepsMode m) :
    KeepsMode (Prog.when c m) :=
  Prog.Stays.when (R := fun w w' : World => w'.rt.mode = w.rt.mode) (fun _ => rfl) h

theorem drive_mode {α : Type} (d : Driver α) : KeepsMode (drive d) := fun _ => rfl

theorem stopDrive_mode : KeepsMode stopDrive := (drive_mode _).bind fun _ _ => rfl

theorem keepWaiting_mode (nowMs deadlineMs nextProbeMs : UInt32) (responseBytes : UInt8)
    (oiStarted allow : Bool) :
    KeepsMode (keepWaiting nowMs deadlineMs nextProbeMs responseBytes oiStarted allow) := by
  refine .ite (.ite (fun _ => rfl) fun _ => rfl) (.ite ?_ fun _ => rfl)
  refine KeepsMode.act_bind (fun _ => rfl) (.ite ?_ ?_)
  · exact (drive_mode _).bind fun _ _ => rfl
  · exact KeepsMode.act_bind (fun _ => rfl) ((drive_mode _).bind fun _ _ => rfl)

theorem advanceWaitForCreate_mode (deadlineMs nextProbeMs : UInt32) (responseBytes : UInt8)
    (oiStarted allow : Bool) :
    KeepsMode (advanceWaitForCreate deadlineMs nextProbeMs responseBytes oiStarted allow) := by
  refine .get_bind fun w => .act_bind (fun _ => rfl) ?_
  split
  · exact .act_bind (fun _ => rfl) fun _ => rfl
  · exact .ite (fun _ => rfl) (keepWaiting_mode _ _ _ _ _ _)

theorem advanceActiveAction_mode : KeepsMode advanceActiveAction := by
  refine .get_bind fun w => ?_
  dsimp only
  split
  · exact fun _ => rfl
  · refine .when fun w => ?_
    show (advancePowerPulse _ _ w).rt.mode = _
    unfold advancePowerPulse
    split <;> rfl
  · exact .when fun _ => rfl
  · exact .when fun _ => rfl
  · exact advanceWaitForCreate_mode _ _ _ _ _
  · refine .when (stopDrive_mode.bind fun _ w => ?_)
    obtain ⟨_, _, hc⟩ := finishContactWithdrawal_unwinds (w.setActive .none) .completed none true
    exact congrArg Control.mode hc
  · exact .when (stopDrive_mode.bind fun _ _ => rfl)

end Advance

end World

end Netherwick.Brainstem
