import Netherwick.Brainstem.Refinement.Safety

/-! # The runtime moves along the skeleton: the link and the mailbox -/

namespace Netherwick.Brainstem

open Netherwick.Lib

namespace World

open Control (Steps Step)

section Receiving

variable {w : World}

theorem dev_along {dev : Device} (h : Device.Quiet w.dev dev) : Along w { w with dev } :=
  (Quiet.of_dev h).along

theorem packet_along (packetId : UInt8) {bytes : List UInt8} (hbytes : bytes ≠ []) :
    Along w ((w.observe (.packetReceived packetId)).pushEvent
      (.createPacketReceived packetId bytes)) := by
  have hdecisive : decisive (.createPacketReceived packetId bytes) = true := by
    simpa [decisive] using hbytes
  exact .step (.packet w.control packetId bytes _
    (Device.pushEvent_inbox hdecisive (w.dev.observe (.packetReceived packetId)))) rfl rfl

theorem invalid_along (w : World) :
    Along w ((w.observe .packetInvalid).pushEvent (.error .invalidPacket)) := by
  refine ⟨fun _ => .tail (.single (.invalid w.control _
    (Device.pushEvent_inbox rfl (w.dev.observe .packetInvalid)))) ?_, rfl, rfl,
    fun _ => Status.nextSeq_ne_zero _⟩
  exact .note _ (.event w.st.eventNextSeq .error (Status.encodeErrorPublic .invalidPacket) 0 0) rfl

theorem pushPacket_along (w : World) : Along w { w with dev := w.dev.pushPacket } := by
  unfold Device.pushPacket
  split
  · exact .refl w
  · rename_i hsome
    have hbytes : w.dev.uart.sensorBytes ≠ [] := by simpa using hsome
    let emptied := w.dev.onUart fun uart =>
      { uart with pendingSensorPacket := none, sensorBytes := [] }
    have hemptied : Along w { w with dev := emptied } :=
      dev_along (.of_st (.refl _) rfl rfl rfl)
    dsimp only
    split
    · rename_i sensors _
      let packetId := w.dev.uart.pendingSensorPacket.getD 0
      let merged := (emptied.onUart fun uart => { uart with invalidPacketReported := false })
        |>.onStatus fun st => (st.markUartPacket).markCreateSensorPacket packetId sensors
      have hmerged : Device.Quiet emptied merged := by
        refine .of_st ?_ rfl rfl rfl
        exact (Status.markCreateSensorPacket_quiet emptied.st.markUartPacket packetId
          sensors).after rfl rfl
      let decoded := merged.pushEvent (.createSensorPacketDecoded packetId sensors)
      have hdecoded : Along { w with dev := emptied } { w with dev := decoded } :=
        dev_along (hmerged.trans (Device.pushEvent_quiet _ rfl merged))
      exact (hemptied.trans hdecoded).trans
        (packet_along (w := { w with dev := decoded }) packetId hbytes)
    · split
      · split
        · exact hemptied
        · refine (hemptied.trans (invalid_along { w with dev := emptied })).trans ?_
          exact dev_along (.of_st (.refl _) rfl rfl rfl)
      · exact hemptied.trans (packet_along (w := { w with dev := emptied }) _ hbytes)

theorem processStreamByte_along (byte : UInt8) (w : World) :
    Along w { w with dev := w.dev.processStreamByte byte } := by
  have huart : ∀ (f : CreateUart → CreateUart) (dev : Device), Device.Quiet dev (dev.onUart f) :=
    fun _ _ => .of_st (.refl _) rfl rfl rfl
  unfold Device.processStreamByte
  split
  · exact .refl w
  · split
    · exact dev_along (huart _ _)
    · split
      · exact dev_along (.ite (huart _ _) (.refl _))
      · exact dev_along (.ite (huart _ _) (huart _ _))
      · exact dev_along (.ite (huart _ _) (huart _ _))
      · exact dev_along (.trans (huart _ _) (.ite (huart _ _) (huart _ _)))
      · split
        · let paused := (Device.sendBytes [oiPauseResumeStream, 0]).exec w.dev
          have hpaused : Along w { w with dev := paused } :=
            dev_along (Device.sendBytes_silent rfl w.dev)
          refine (hpaused.trans (pushPacket_along { w with dev := paused })).trans ?_
          exact dev_along (huart _ _)
        · exact dev_along (huart _ _)

theorem pollRx_along (drained : Nat) (w : World) :
    Along w { w with dev := w.dev.pollRx drained } := by
  induction drained generalizing w with
  | zero => exact .refl w
  | succ drained ih =>
    unfold Device.pollRx
    split
    · exact .refl w
    · rename_i byte rx _
      let taken : World := { w with dev := { w.dev with hw := { w.dev.hw with rx } } }
      have htaken : Along w taken := along_of_view rfl
      dsimp only
      split
      · exact htaken.trans ((processStreamByte_along byte taken).trans (ih _))
      · exact htaken.trans (ih taken)
    · rename_i rx _
      let reset : World := { w with dev :=
        { w.dev with hw := { w.dev.hw with rx } }.onUart CreateUart.resetStreamParser }
      have hreset : Along w reset := along_of_view rfl
      exact hreset.trans (ih reset)
    · exact along_of_view rfl

end Receiving

/-- A command in hand is on its way to the queue. -/
structure Serves (w w' : World) : Prop where
  steps : w.Numbered → Steps w.control w'.control
  executing : w'.rt.executing = w.rt.executing
  numbered : w.Numbered → w'.Numbered

section Serves

variable {w w' w'' : World}

theorem Along.serves (h : Along w w') : Serves w w' := ⟨h.steps, h.executing, h.numbered⟩

theorem Serves.trans (h : Serves w w') (h' : Serves w' w'') : Serves w w'' where
  steps hnumbered := (h.steps hnumbered).trans (h'.steps (h.numbered hnumbered))
  executing := h'.executing.trans h.executing
  numbered hnumbered := h'.numbered (h.numbered hnumbered)

/-- The command in hand has been disposed of. -/
structure Disposes (w w' : World) : Prop extends Serves w w' where
  released : w'.rt.dispatching = none

theorem Serves.disposes (h : Serves w w') (h' : Disposes w' w'') : Disposes w w'' :=
  ⟨h.trans h'.toServes, h'.released⟩

theorem Disposes.along (h : Disposes w w') (h' : Along w' w'') : Disposes w w'' :=
  ⟨h.toServes.trans h'.serves, h'.dispatching.trans h.released⟩

/-- This id may be queued: it is in hand, or was queued just before, and no withdrawal runs. -/
structure Ready (w : World) (commandId : UInt32) : Prop where
  holds : w.control.Holds commandId
  given : w.control.Given commandId
  free : w.control.withdrawing = false

theorem Ready.of_taken {commandId : UInt32} {renewal : Bool}
    (h : w.rt.dispatching = some (commandId, renewal)) (hfree : w.control.withdrawing = false) :
    Ready w commandId where
  holds id renewal' hheld := congrArg Prod.fst (Option.some.inj (h.symm.trans hheld))
  given := .inl (by simp [control, h])
  free := hfree

/-- In hand, with nothing decided about it yet. -/
def InHand (w : World) (commandId : UInt32) : Prop :=
  ∃ renewal, w.rt.dispatching = some (commandId, renewal)

theorem Along.inHand (h : Along w w') {commandId : UInt32} (hid : InHand w commandId) :
    InHand w' commandId := by
  obtain ⟨renewal, hheld⟩ := hid
  exact ⟨renewal, h.dispatching.trans hheld⟩

theorem InHand.ready {commandId : UInt32} (hid : InHand w commandId)
    (hfree : w.control.withdrawing = false) : Ready w commandId := by
  obtain ⟨_, hheld⟩ := hid
  exact .of_taken hheld hfree

end Serves

section Disposing

variable {w : World} {queued : QueuedCommand}

theorem control_traceDispatched (w : World) (commandId : UInt32) :
    (w.traceDispatched commandId).control = w.control.traced commandId := by
  have hlog : (w.traceDispatched commandId).log = (w.control.traced commandId).log := by
    simp only [traceDispatched, Control.traced, control]
    rcases w.rt.dispatching with _ | ⟨id, _ | _⟩ <;> rfl
  have hrest : (w.traceDispatched commandId).control =
      { w.control with log := (w.traceDispatched commandId).log } := by
    unfold traceDispatched
    split <;> rfl
  rw [hrest, hlog]
  rfl

theorem traceDispatched_executing (w : World) (commandId : UInt32) :
    (w.traceDispatched commandId).rt.executing = w.rt.executing := by
  unfold traceDispatched
  split <;> rfl

theorem control_queueDispatchedFront (w : World) (queued : QueuedCommand) :
    (w.queueDispatchedFront queued).control =
      ((w.control.traced queued.commandId).pushed true queued).released := by
  show (pushFront queued (w.traceDispatched queued.commandId)).control.released = _
  rw [control_pushFront, control_traceDispatched]

theorem control_queueDispatchedBack (w : World) (queued : QueuedCommand) :
    (w.queueDispatchedBack queued).control =
      ((w.control.traced queued.commandId).pushed false queued).released := by
  show (pushBack queued (w.traceDispatched queued.commandId)).control.released = _
  rw [control_pushBack, control_traceDispatched]

theorem traceDispatched_numbered (commandId : UInt32) (h : w.Numbered) :
    (w.traceDispatched commandId).Numbered := by
  unfold traceDispatched
  split <;> exact h

theorem given_pushed (c : Control) (front : Bool) {queued : QueuedCommand}
    (hrecovery : Control.RecoveryIsEscape queued) :
    ((c.traced queued.commandId).pushed front queued).released.Given queued.commandId := by
  right
  unfold Control.pushed
  cases hroom : (c.traced queued.commandId).isFull with
  | true => exact .inr ⟨_, rfl⟩
  | false =>
    refine .inl ⟨queued, ?_, rfl, hrecovery.ne_withdrawal⟩
    cases front <;> simp [Control.released]

theorem queueDispatchedFront_disposes (hid : Ready w queued.commandId)
    (hrecovery : Control.RecoveryIsEscape queued) :
    Disposes w (w.queueDispatchedFront queued) ∧
      Ready (w.queueDispatchedFront queued) queued.commandId := by
  have hc := w.control_queueDispatchedFront queued
  refine ⟨⟨⟨fun _ => .single ?_, congrArg Control.executing hc, fun hnumbered => ?_⟩, rfl⟩, ?_⟩
  · rw [hc]
    exact .queue _ true queued hid.holds hid.given hid.free hrecovery
  · have htraced := traceDispatched_numbered queued.commandId hnumbered
    show (pushFront queued (w.traceDispatched queued.commandId)).Numbered
    unfold pushFront
    split <;> exact htraced
  · refine ⟨?_, ?_, (congrArg Control.withdrawing hc).trans hid.free⟩
    · intro id renewal hheld
      cases hheld
    · rw [hc]
      exact given_pushed _ _ hrecovery

theorem queueDispatchedBack_disposes (hid : Ready w queued.commandId)
    (hrecovery : Control.RecoveryIsEscape queued) :
    Disposes w (w.queueDispatchedBack queued) ∧
      Ready (w.queueDispatchedBack queued) queued.commandId := by
  have hc := w.control_queueDispatchedBack queued
  refine ⟨⟨⟨fun _ => .single ?_, congrArg Control.executing hc, fun hnumbered => ?_⟩, rfl⟩, ?_⟩
  · rw [hc]
    exact .queue _ false queued hid.holds hid.given hid.free hrecovery
  · have htraced := traceDispatched_numbered queued.commandId hnumbered
    show (pushBack queued (w.traceDispatched queued.commandId)).Numbered
    unfold pushBack
    split <;> exact htraced
  · refine ⟨?_, ?_, (congrArg Control.withdrawing hc).trans hid.free⟩
    · intro id renewal hheld
      cases hheld
    · rw [hc]
      exact given_pushed _ _ hrecovery

theorem interruptDispatched_disposes {commandId : UInt32} (hid : InHand w commandId) :
    Disposes w (w.interruptDispatched commandId) := by
  refine ⟨⟨fun _ => .single ?_, w.traceDispatched_executing commandId,
    fun _ => Status.nextSeq_ne_zero _⟩, rfl⟩
  let traced := w.traceDispatched commandId
  have hc : (w.interruptDispatched commandId).control =
      ((w.control.traced commandId).observe
        (.event traced.st.eventNextSeq .commandInterrupted commandId 0 0)).released := by
    rw [← control_traceDispatched]
    rfl
  rw [hc]
  obtain ⟨held, hheld⟩ := hid
  refine .refuse _ commandId _ (fun id renewal hsome => ?_) (by simp [control, hheld])
  exact congrArg Prod.fst (Option.some.inj (hheld.symm.trans hsome))

theorem dropDispatched_disposes {trace : UInt32 → Obs}
    (htrace : trace = .undecoded ∨ trace = .swallowed) : Disposes w (w.dropDispatched trace) := by
  have hc : (w.dropDispatched trace).control = (w.control.forgotten trace).released := by
    have hlog : (w.dropDispatched trace).log = (w.control.forgotten trace).log := by
      simp only [dropDispatched, Control.forgotten, control]
      rcases w.rt.dispatching with _ | ⟨id, _ | _⟩ <;> rfl
    have hrest : (w.dropDispatched trace).control =
        { w.control with dispatching := none, log := (w.dropDispatched trace).log } := by
      unfold dropDispatched
      split <;> rfl
    rw [hrest, hlog]
    rfl
  refine ⟨⟨fun _ => .single ?_, ?_, fun hnumbered => ?_⟩, rfl⟩
  · rw [hc]
    exact .drop _ trace htrace
  · unfold dropDispatched
    split <;> rfl
  · unfold dropDispatched
    split <;> exact hnumbered

theorem plain_recovery {commandId : UInt32} {command : RuntimeCommand} :
    Control.RecoveryIsEscape ⟨commandId, command, false⟩ := fun h => by cases h

theorem queueAll_disposes (push : World → QueuedCommand → World) {commandId : UInt32}
    (hpush : ∀ w command, Ready w commandId →
      Disposes w (push w ⟨commandId, command, false⟩) ∧
        Ready (push w ⟨commandId, command, false⟩) commandId)
    {commands : List RuntimeCommand} (hsome : commands ≠ []) (hid : Ready w commandId) :
    Disposes w (commands.foldl (fun w command => push w ⟨commandId, command, false⟩) w) := by
  induction commands generalizing w with
  | nil => exact absurd rfl hsome
  | cons command commands ih =>
    obtain ⟨hfirst, hnext⟩ := hpush w command hid
    by_cases hrest : commands = []
    · subst hrest
      exact hfirst
    · exact hfirst.toServes.disposes (ih hrest hnext)

end Disposing

section Purging

variable {w : World}

theorem purge_steps (like : QueuedCommand → Bool) (spared : UInt32 → Bool)
    (before after : List QueuedCommand) (c : Control) (st : Status)
    (hcommands : c.commands = before ++ after)
    (hcells : (c.mailbox, c.hazardGeneration) = st.cells) (hlog : c.log = st.log) :
    let st' := (after.filter like).foldl (fun st q =>
      if spared q.commandId then st.observe (.swallowed q.commandId)
      else st.markCommandInterrupted q.commandId) st
    Steps c { c with
      commands := before ++ after.filter fun q => !like q, mailbox := st'.mailbox
      hazardGeneration := st'.hazardGeneration, log := st'.log } := by
  induction after generalizing before c st with
  | nil =>
    have hmailbox : c.mailbox = st.mailbox := congrArg Prod.fst hcells
    have hhazard : c.hazardGeneration = st.hazardGeneration := congrArg Prod.snd hcells
    have hsame : { c with
        commands := before ++ [], mailbox := st.mailbox, hazardGeneration := st.hazardGeneration
        log := st.log } = c := by
      rw [← hcommands, ← hmailbox, ← hhazard, ← hlog]
    rw [show ([] : List QueuedCommand).filter (fun q => !like q) = [] from rfl]
    exact hsame ▸ .refl
  | cons queued after ih =>
    cases hlike : like queued with
    | false =>
      rw [List.filter_cons_of_neg (by simp [hlike]),
        List.filter_cons_of_pos (by simp [hlike])]
      have hnext := ih (before ++ [queued]) c st (by simp [hcommands]) hcells hlog
      rw [List.append_assoc] at hnext
      exact hnext
    | true =>
      rw [List.filter_cons_of_pos hlike, List.filter_cons_of_neg (by simp [hlike]),
        List.foldl_cons]
      let o : Obs := if spared queued.commandId then .swallowed queued.commandId
        else .event st.eventNextSeq .commandInterrupted queued.commandId 0 0
      have ho : o = .swallowed queued.commandId ∨
          ∃ seq, o = .event seq .commandInterrupted queued.commandId 0 0 := by
        by_cases hspared : spared queued.commandId = true
        · exact .inl (if_pos hspared)
        · exact .inr ⟨_, if_neg hspared⟩
      have hfirst := Step.purgeOne c before after queued o hcommands ho
      refine .head hfirst ?_
      refine ih before { c with commands := before ++ after, log := o :: c.log } _ rfl ?_ ?_
      · by_cases hspared : spared queued.commandId = true
        · rw [if_pos hspared]
          exact hcells
        · rw [if_neg hspared]
          exact hcells
      · by_cases hspared : spared queued.commandId = true
        · simp only [o, if_pos hspared, hlog]
          rfl
        · simp only [o, if_neg hspared, hlog]
          rfl

theorem purge_numbered (spared : UInt32 → Bool) (purged : List QueuedCommand) {st : Status}
    (h : st.Numbered) : (purged.foldl (fun st q =>
      if spared q.commandId then st.observe (.swallowed q.commandId)
      else st.markCommandInterrupted q.commandId) st).Numbered := by
  induction purged generalizing st with
  | nil => exact h
  | cons queued purged ih =>
    refine ih ?_
    dsimp only
    split
    · exact h
    · exact Status.nextSeq_ne_zero _

theorem purgeQueued_along (like : QueuedCommand → Bool) (spared : UInt32 → Bool) :
    Along w (w.purgeQueued like spared) := by
  have hitems := Deque.items_rotate_length (fun q => !like q) w.rt.commands
  refine ⟨fun _ => ?_, rfl, rfl, fun hnumbered => ?_⟩
  · have hsteps := purge_steps like spared [] w.rt.commands.items w.control w.st rfl rfl rfl
    rw [List.nil_append, ← hitems] at hsteps
    exact hsteps
  · exact purge_numbered spared _ hnumbered

end Purging

section Dispatching

variable {w : World} {commandId : UInt32}

theorem setRunning_along (w : World) : Along w w.setRunning :=
  .step (.setMode _ .running (.inl rfl)) rfl rfl

theorem publishRunning_along (w : World) :
    Along w (w.onStatus fun st => { st with runtimeState := .running }) :=
  .status (.refl w) (.same rfl rfl)

theorem resume_along (w : World) : Along w w.resume := by
  unfold resume
  split
  · exact (setRunning_along w).trans (publishRunning_along _)
  · exact .refl w

theorem interruptAndClear_withdrawing (w : World) :
    w.interruptAndClear.control.withdrawing = w.control.withdrawing :=
  (congrArg Control.withdrawing w.control_interruptActiveCommand).trans rfl

theorem dispatchStop_disposes (command : RuntimeCommand) (hid : InHand w commandId)
    (hfree : w.control.withdrawing = false) : Disposes w (w.dispatchStop commandId command) := by
  let undocked := w.onRuntime fun rt => { rt with dockingActive := false }
  let cleared := (undocked.interruptAndClear.setActive .none).clearHeartbeat
  have hcleared : Along w cleared :=
    .runtime (.yielded (along_of_view rfl)) (along_of_view rfl)
  have hfree' : cleared.control.withdrawing = false :=
    undocked.interruptAndClear_withdrawing.trans hfree
  let careful := if command = .eStop then cleared.cancelCarefulMode else cleared
  have hcareful : Along cleared careful ∧ careful.control.withdrawing = false := by
    by_cases hestop : command = .eStop
    · simp only [careful, if_pos hestop]
      exact ⟨cleared.cancelCarefulMode_along, hfree'⟩
    · simp only [careful, if_neg hestop]
      exact ⟨.refl _, hfree'⟩
  have hall := hcleared.trans hcareful.1
  have hqueued : Disposes careful (careful.queueDispatchedFront ⟨commandId, command, false⟩) :=
    (queueDispatchedFront_disposes ((hall.inHand hid).ready hcareful.2) plain_recovery).1
  exact (hall.serves.disposes hqueued).along (setRunning_along _)

theorem dispatchScript_disposes {script : List RuntimeCommand} (hsome : script ≠ [])
    (hid : InHand w commandId) (hfree : w.control.withdrawing = false) :
    Disposes w (w.dispatchScript commandId script) := by
  let cleared := (w.interruptAndClear.setActive .none).clearHeartbeat.cancelCarefulMode
  have hcleared : Along w cleared :=
    .cancelCareful (.runtime w.yielded_along (along_of_view rfl))
  have hfree' : cleared.control.withdrawing = false := w.interruptAndClear_withdrawing.trans hfree
  have hqueued := queueAll_disposes (fun w queued => w.queueDispatchedFront queued)
    (fun _ _ hid => queueDispatchedFront_disposes hid plain_recovery)
    (List.reverse_ne_nil_iff.mpr hsome) ((hcleared.inHand hid).ready hfree')
  exact (hcleared.serves.disposes hqueued).along (setRunning_along _)

theorem queueCreateAcquisition_disposes (hid : Ready w commandId) :
    Disposes w (w.queueCreateAcquisition commandId) :=
  (queueAll_disposes (fun w queued => w.queueDispatchedBack queued)
    (fun _ _ hid => queueDispatchedBack_disposes hid plain_recovery)
    (by simp [acquireCreateScript]) hid).along (setRunning_along _)

theorem dispatchOrdinary_disposes (command : BrainstemCommand) (hid : Ready w commandId) :
    Disposes w (w.dispatchOrdinary commandId command) := by
  unfold dispatchOrdinary
  split
  · exact (queueDispatchedBack_disposes hid plain_recovery).1
  · exact dropDispatched_disposes (.inl rfl)

theorem enqueueLatestVelocity_disposes {linear angular : Int16} {durationMs : UInt32}
    (hid : InHand w commandId) (hfree : w.control.withdrawing = false) :
    Disposes w (w.enqueueLatestVelocity commandId linear angular durationMs) := by
  let purged := w.purgeQueued isQueuedCmdVel (· = commandId)
  have hpurged : Along w purged := purgeQueued_along _ _
  have hfree' : purged.control.withdrawing = false := hfree
  show Disposes w (if purged.rt.active.isDriving &&
      purged.rt.activeVelocity = some ⟨linear, angular⟩ then _
    else if purged.rt.active.isDriving then _ else _)
  split
  · rename_i hsame
    have hrenewed : Along purged (purged.renewDriving durationMs) :=
      .step (.renew _ durationMs (Bool.and_eq_true_iff.mp hsame).1 hfree') rfl rfl
    exact (hpurged.trans hrenewed).serves.disposes (dropDispatched_disposes (.inr rfl))
  · split
    · let ended := purged.interruptActiveCommand.setActive .none
      have hended : Along w ended := hpurged.trans purged.interrupted_along
      have hover : ended.control.withdrawing = false :=
        (congrArg Control.withdrawing purged.control_interruptActiveCommand).trans hfree'
      exact hended.serves.disposes
        (queueDispatchedFront_disposes ((hended.inHand hid).ready hover) plain_recovery).1
    · exact hpurged.serves.disposes
        (queueDispatchedBack_disposes ((hpurged.inHand hid).ready hfree') plain_recovery).1

section MotherbrainReset

variable {w' : World} {record : MotherbrainResetRecord}

theorem Quiet.replayed (h : Quiet w w') : Quiet w (w'.replayMotherbrainResetOutcome record) := by
  refine .status h ?_
  cases record.outcome <;> exact .event rfl rfl rfl

theorem Quiet.remembered (h : Quiet w w') : Quiet w (w'.rememberMotherbrainReset record) := by
  refine .runtime h ?_
  dsimp only [onRuntime]
  split <;> rfl

theorem requestMotherbrainReset_quiet (identity : MotherbrainResetIdentity) (w : World) :
    Quiet w (w.requestMotherbrainReset identity) := by
  let asked := w.onStatus (·.recordPublicEvent .motherbrainResetRequested identity.commandId
    identity.sessionHash identity.leaseHash)
  have hasked : Quiet w asked := .onStatus (.event rfl rfl rfl)
  refine hasked.trans ?_
  unfold requestMotherbrainReset
  dsimp only
  split
  · exact .replayed (.refl _)
  · split
    · exact .audio (.replayed (.remembered (.refl _)))
    · exact .replayed (.remembered (.of_view rfl))

theorem pollMotherbrainReset_quiet (w : World) : Quiet w w.pollMotherbrainReset := by
  unfold pollMotherbrainReset
  split
  · exact .refl w
  · split
    · exact .audio (.replayed (.remembered (.of_view rfl)))
    · exact .refl w

end MotherbrainReset

theorem dispatchCommand_disposes (command : BrainstemCommand) (hid : InHand w commandId)
    (hfree : w.control.withdrawing = false) :
    Disposes w (w.dispatchCommand commandId command) := by
  unfold dispatchCommand
  split
  · exact dispatchStop_disposes _ hid hfree
  · exact dispatchStop_disposes _ hid hfree
  · exact (queueCreateAcquisition_disposes (hid.ready hfree)).along (resume_along _)
  · exact dispatchScript_disposes (by simp [disarmScript]) hid hfree
  · let pending := w.onRuntime fun rt => { rt with restartCreatePending := true }
    have hpending : Along w pending := along_of_view rfl
    have hscript : Disposes pending (pending.dispatchScript commandId restartCreateScript) :=
      dispatchScript_disposes (by simp [restartCreateScript]) (hpending.inHand hid) hfree
    exact (hpending.serves.disposes hscript).along (publishRunning_along _)
  · exact (requestMotherbrainReset_quiet _ w).along.serves.disposes
      (dropDispatched_disposes (.inr rfl))
  · exact (enqueueLatestVelocity_disposes hid hfree).along (resume_along _)
  · rename_i kind generation linear angular ttlMs _
    let purged := w.purgeQueued isQueuedEscapeMotion fun _ => false
    have hpurged : Along w purged := purgeQueued_along _ _
    let queued : QueuedCommand :=
      ⟨commandId, .escapeMotion kind generation linear angular ttlMs, true⟩
    have hqueued : Disposes purged (purged.queueDispatchedBack queued) :=
      (queueDispatchedBack_disposes ((hpurged.inHand hid).ready hfree)
        fun _ => ⟨kind, generation, linear, angular, ttlMs, rfl⟩).1
    exact (hpurged.serves.disposes hqueued).along (resume_along _)
  · exact (dispatchOrdinary_disposes command (hid.ready hfree)).along (resume_along _)

theorem takeControl_serves (hfree : w.rt.dispatching = none) :
    Serves w w.takeControl ∧ (w.st.takeControlCommand.1 ≠ none →
      InHand w.takeControl w.takeControl.st.dispatched.commandId) := by
  unfold takeControl
  split
  · rename_i hempty
    obtain ⟨hcommand, hvelocity⟩ : w.st.mailbox.commandKind = .none ∧
        w.st.mailbox.velocityKind ≠ .cmdVel := by
      simpa [Mailbox.isEmpty] using hempty
    refine ⟨⟨fun _ => .refl, rfl, id⟩, fun hsome => absurd ?_ hsome⟩
    simp [Status.takeControlCommand, hcommand, hvelocity]
  · rename_i hsome
    by_cases hkind : w.st.mailbox.commandKind = .none
    · have hvelocity : w.st.mailbox.velocityKind = .cmdVel := by
        simpa [Mailbox.isEmpty, hkind] using hsome
      have hrenewal : w.takesRenewal = w.st.mailbox.velocityIsRenewal := by
        simp [takesRenewal, hkind]
      rw [hrenewal, w.st.takeControlCommand_velocity hkind hvelocity]
      exact ⟨⟨fun _ => .single (.take _ _ _ _ hfree (.velocity hkind hvelocity)), rfl, id⟩,
        fun _ => ⟨_, rfl⟩⟩
    · have hrenewal : w.takesRenewal = false := by simp [takesRenewal, hkind]
      rw [hrenewal, w.st.takeControlCommand_command hkind]
      exact ⟨⟨fun _ => .single (.take _ _ _ _ hfree (.command hkind)), rfl, id⟩,
        fun _ => ⟨_, rfl⟩⟩

theorem preemptWithdrawal_unwinds (command : BrainstemCommand) (w : World) :
    Unwinds w (w.preemptWithdrawal command) :=
  (tryStopDrive_quiet w).trans_unwinds (finishContactWithdrawal_unwinds _ _ _ _)

theorem pollControlCommand_disposes (hfree : w.rt.dispatching = none) :
    Disposes w w.pollControlCommand := by
  obtain ⟨htaken, hheld⟩ := takeControl_serves hfree
  refine htaken.disposes ?_
  unfold pollControlCommand
  dsimp only
  split
  · exact dropDispatched_disposes (.inl rfl)
  · rename_i command hcommand
    have hid := hheld (by simp [hcommand])
    split
    · split
      · have hpreempted := preemptWithdrawal_unwinds command w.takeControl
        exact hpreempted.along.serves.disposes
          (dispatchCommand_disposes command (hpreempted.along.inHand hid) hpreempted.ended)
      · exact interruptDispatched_disposes hid
    · rename_i hidle
      exact dispatchCommand_disposes command hid (by simpa [control] using hidle)

end Dispatching

end World

end Netherwick.Brainstem
