import Netherwick.Brainstem.Refinement.Motion

/-! # The runtime moves along the skeleton: safety policy -/

namespace Netherwick.Brainstem

open Netherwick.Lib

namespace World

open Control (Steps Step)

section Halting

variable {w w' : World}

theorem Quiet.setActive (h : Quiet w w') (active : ActiveAction) :
    Quiet (w.setActive active) (w'.setActive active) := by
  obtain ⟨recent, hplain, hc⟩ := h
  refine ⟨recent, hplain, ?_⟩
  show { w'.control with active } = _
  rw [hc]
  rfl

theorem setActive_along_halt (w : World) (error : BrainstemError) :
    Along (w.setActive .none) (halt error w) where
  steps _ := w.halt_steps error .none
  executing := rfl
  dispatching := rfl
  numbered _ := w.halt_numbered error

/-- The program, begun at `t` in the middle of a step that starts at `w`, ends along the skeleton. -/
abbrev Lands {α : Type} (w : World) (m : M α) (Q : α → World → Prop) (t : World) : Prop :=
  m.wp (fun a w' => Along w w' ∧ Q a w') (fun e w' => Along w (halt e w')) t

section Lands

variable {α β : Type} {t : World} {m : M α} {k : α → M β} {Q : α → World → Prop}
  {S : β → World → Prop}

theorem Goes.lands (h : Goes t m Q) (halong : Along w t) : Lands w m Q t :=
  Prog.Walks.from_start (R := Along) (fun _ _ _ => Along.trans) halong h

theorem Lands.bind (hm : Lands w m Q t) (hk : ∀ a w', Along w w' → Q a w' → Goes w' (k a) S) :
    Lands w (m >>= k) S t :=
  Prog.wp_bind.mpr (hm.imp (fun a w' h => (hk a w' h.1 h.2).lands h.1) fun _ _ h => h)

end Lands

/-- The stop frame goes out between an interruption and the end of the active step; for the
skeleton the step ends first. -/
theorem halted_lands {α : Type} {t : World} {k : M α} {Q : α → World → Prop}
    (ht : Along w (t.setActive .none))
    (hk : ∀ w', Quiet t w' → Lands (w'.setActive .none) k Q w') :
    Lands w (do stopDrive; k) Q t := by
  refine Prog.wp_bind.mpr ?_
  refine stopDrive_hushed.wp (s := t) (fun _ w' hq => ?_) fun e w' hq => ?_
  · have hstart := ht.trans (hq.setActive .none).along
    exact (hk w' hq).imp (fun _ _ h => ⟨hstart.trans h.1, h.2⟩) fun _ _ h => hstart.trans h
  · exact (ht.trans (hq.setActive .none).along).trans (w'.setActive_along_halt e)

end Halting

section Queue

variable (w : World)

theorem control_pushFront (queued : QueuedCommand) :
    (pushFront queued w).control = w.control.pushed true queued := by
  have hfull : w.rt.commands.isFull = w.control.isFull := rfl
  have hitems := Deque.items_pushFront w.rt.commands queued
  unfold pushFront Control.pushed
  rw [hfull] at hitems ⊢
  cases hroom : w.control.isFull with
  | true =>
    simp only [hroom, if_true] at hitems ⊢
    show { w.control with
      commands := (w.rt.commands.pushFront queued).items
      log := .queueFull queued.commandId :: w.control.log } = _
    rw [hitems]
    rfl
  | false =>
    simp only [hroom, Bool.false_eq_true, if_false] at hitems ⊢
    show { w.control with commands := (w.rt.commands.pushFront queued).items } = _
    rw [hitems]
    rfl

theorem control_pushBack (queued : QueuedCommand) :
    (pushBack queued w).control = w.control.pushed false queued := by
  have hfull : w.rt.commands.isFull = w.control.isFull := rfl
  have hitems := Deque.items_pushBack w.rt.commands queued
  unfold pushBack Control.pushed
  rw [hfull] at hitems ⊢
  cases hroom : w.control.isFull with
  | true =>
    simp only [hroom, if_true] at hitems ⊢
    show { w.control with
      commands := (w.rt.commands.pushBack queued).items
      log := .queueFull queued.commandId :: w.control.log } = _
    rw [hitems]
    rfl
  | false =>
    simp only [hroom, Bool.false_eq_true, if_false] at hitems ⊢
    show { w.control with commands := (w.rt.commands.pushBack queued).items } = _
    rw [hitems]
    rfl

end Queue

section Latches

variable (w : World)

theorem control_markLatchCleared (kind : SafetyEventKind) :
    ∃ between, ((∀ o ∈ between, o.plain = true) ∧ (w.markLatchCleared kind).Numbered) ∧
      (w.markLatchCleared kind).control =
        (w.control.hazardOver kind w.st.eventNextSeq).noted between := by
  let cleared := w.onStatus (·.markSafetyCleared kind)
  have hq : Quiet cleared (w.markLatchCleared kind) :=
    .status (requestAudio_quiet cleared _) (.ite (Status.markWheelDropCleared_quiet _) (.refl _))
  obtain ⟨between, hplain, hc⟩ := hq
  have hnumbered : cleared.Numbered := Status.nextSeq_ne_zero _
  exact ⟨between, ⟨hplain.1, hplain.2 hnumbered⟩, hc⟩

theorem control_liftLatch (kind : SafetyEventKind) (cause : LiftCause) :
    ∃ between, (∀ o ∈ between, o.plain = true) ∧ (w.liftLatch kind cause).control =
      (((w.control.hazardOver kind w.st.eventNextSeq).noted between).observe
        (.lifting cause)).latchedAs none := by
  obtain ⟨between, hplain, hc⟩ := w.control_markLatchCleared kind
  refine ⟨between, hplain.1, ?_⟩
  rw [← hc]
  rfl

theorem liftLatch_along {kind : SafetyEventKind} {cause : LiftCause}
    (h : w.control.Lifts kind cause) : Along w (w.liftLatch kind cause) := by
  obtain ⟨between, hplain, hc⟩ := w.control_liftLatch kind cause
  refine ⟨fun _ => ?_, congrArg Control.executing hc, congrArg Control.dispatching hc, fun _ => ?_⟩
  · rw [hc]
    exact .single (.unlatch _ kind cause _ between hplain h)
  · obtain ⟨_, hcleared, _⟩ := w.control_markLatchCleared kind
    exact hcleared.2

theorem clearSafetyLatch_along {command : RuntimeCommand} {kind : SafetyEventKind}
    (hrunning : w.runningCommand = some command) (hlifts : commandLifts command kind = true) :
    Along w (w.clearSafetyLatch (some kind)) := by
  unfold clearSafetyLatch
  split
  · exact along_of_view rfl
  · split
    · rename_i hnone
      exact .step (.unlatchIdle _ hnone) rfl rfl
    · rename_i held hheld
      split
      · exact .refl w
      · rename_i hclear
        obtain ⟨hsame, habsent⟩ := not_or.mp hclear
        obtain rfl : kind = held := by simpa using hsame
        refine w.liftLatch_along ⟨hheld, ?_, rfl⟩
        simpa [liftAllowed, hrunning, hlifts] using habsent

theorem clearSensorGatesForCareful_along
    (hrunning : ∀ command, w.runningCommand = some command → (command matches .carefulMode ..) = true)
    (hactive : w.runningCommand = none → w.carefulModeActive w.nowMs = true) :
    Along w w.clearSensorGatesForCareful := by
  have hpending : ∀ w : World, Along w (w.onRuntime fun rt => { rt with
      chargingInterlockLatched := false, dockDeparturePending := false
      tiltObservedSinceMs := none }) :=
    fun w => .step (.setPending _ false (by simp)) rfl rfl
  unfold clearSensorGatesForCareful
  refine .trans ?_ (hpending _)
  split
  · rename_i hnone
    exact .step (.unlatchIdle _ hnone) rfl rfl
  · rename_i kind hheld
    refine w.liftLatch_along ⟨hheld, ?_, rfl, fun hnone => ?_⟩
    · cases hcommand : w.runningCommand with
      | none => exact hactive hcommand
      | some command => exact hrunning command hcommand
    · intro hoff
      have hoff : w.rt.carefulModeUntilMs = none := hoff
      simpa [carefulModeActive, hoff] using hactive hnone

end Latches

section Gates

variable {w w' w'' : World}

structure SameGates (w w' : World) : Prop where
  latchKind : w'.rt.safetyLatchKind = w.rt.safetyLatchKind
  careful : w'.rt.carefulModeUntilMs = w.rt.carefulModeUntilMs
  nowMs : w'.nowMs = w.nowMs

theorem SameGates.trans (h : SameGates w w') (h' : SameGates w' w'') : SameGates w w'' :=
  ⟨h'.latchKind.trans h.latchKind, h'.careful.trans h.careful, h'.nowMs.trans h.nowMs⟩

theorem Quiet.sameGates (h : Quiet w w') : SameGates w w' := by
  obtain ⟨_, _, hc⟩ := h
  exact ⟨congrArg Control.safetyLatchKind hc, congrArg Control.carefulModeUntilMs hc,
    congrArg Control.nowMs hc⟩

theorem Unwinds.sameGates (h : Unwinds w w') : SameGates w w' := by
  obtain ⟨_, _, hc⟩ := h
  exact ⟨congrArg Control.safetyLatchKind hc, congrArg Control.carefulModeUntilMs hc,
    congrArg Control.nowMs hc⟩

theorem interrupt_sameGates (w : World) : SameGates w w.interruptActiveCommand :=
  ⟨congrArg Control.safetyLatchKind w.control_interruptActiveCommand,
    congrArg Control.carefulModeUntilMs w.control_interruptActiveCommand,
    congrArg Control.nowMs w.control_interruptActiveCommand⟩

end Gates

section Responses

variable {w t : World}

/-- `t` is `w` right after a trip, before the latch is set. -/
def Trips (kind : SafetyEventKind) (w t : World) : Prop :=
  ∃ between, ((∀ o ∈ between, o.plain = true) ∧ t.Numbered) ∧
    t.control = (w.control.tripped kind w.st.eventNextSeq).noted between

theorem Trips.after {kind : SafetyEventKind} {f : Status → Status}
    (h : Status.Quiet (w.st.markSafetyTripped kind) (f (w.st.markSafetyTripped kind))) :
    Trips kind w (w.onStatus fun st => f (st.markSafetyTripped kind)) := by
  obtain ⟨between, hplain, hlog⟩ := h.log
  refine ⟨between, ⟨hplain, h.numbered (Status.nextSeq_ne_zero _)⟩, ?_⟩
  show { w.control with
    mailbox := (f (w.st.markSafetyTripped kind)).mailbox
    hazardGeneration := (f (w.st.markSafetyTripped kind)).hazardGeneration
    log := (f (w.st.markSafetyTripped kind)).log } = _
  rw [h.mailbox, h.hazardGeneration, hlog]
  rfl

theorem Trips.marked (kind : SafetyEventKind) :
    Trips kind w (w.onStatus (·.markSafetyTripped kind)) :=
  .after (f := id) (.refl _)

theorem Trips.latched {kind : SafetyEventKind} (ht : Trips kind w t)
    (hpending : w.rt.dockDeparturePending = true →
      recoverableSafetyLatch (some kind) = false) :
    Along w ((t.latchSafety kind).interruptAndClear.setActive .none) := by
  obtain ⟨between, hplain, hc⟩ := ht
  have hlatched : (t.latchSafety kind).control =
      ((w.control.tripped kind w.st.eventNextSeq).noted between).latchedAs (some kind) := by
    rw [← hc]
    rfl
  have hhalt : Along w ((t.latchSafety kind).interruptActiveCommand.setActive .none) := by
    refine ⟨fun hnumbered => .single ?_, ?_, ?_, fun _ => ?_⟩
    · show Step _ { (t.latchSafety kind).interruptActiveCommand.control with active := .none }
      rw [control_interruptActiveCommand, hlatched]
      exact .latchHalt _ kind _ _ between hnumbered hplain.1 hpending
    · exact (t.latchSafety kind).interrupt_along.executing.trans (congrArg Control.executing hc)
    · exact (t.latchSafety kind).interrupt_along.dispatching.trans (congrArg Control.dispatching hc)
    · exact (t.latchSafety kind).interruptActiveCommand_numbered hplain.2
  exact hhalt.trans (.step (.clear _) rfl rfl)

theorem respondStop_lands {kind : SafetyEventKind} (ht : Trips kind w t)
    (hpending : w.rt.dockDeparturePending = true →
      recoverableSafetyLatch (some kind) = false) :
    Lands w (respondStop kind) (fun _ _ => True) t :=
  halted_lands (t := (t.latchSafety kind).interruptAndClear) (ht.latched hpending) fun _ _ =>
    ⟨(finishContactWithdrawal_unwinds _ _ _ _).along, trivial⟩

/-- Nothing stands in the way of the automatic withdrawal. -/
structure Vacant (w : World) : Prop where
  commands : w.rt.commands.items = []
  active : w.rt.active = .none
  executing : w.rt.executing = none
  careful : w.rt.carefulModeUntilMs = none
  pending : w.rt.dockDeparturePending = false

theorem Quiet.vacant {w' : World} (h : Quiet w w') (hv : Vacant w) : Vacant w' := by
  obtain ⟨_, _, hc⟩ := h
  exact ⟨(congrArg Control.commands hc).trans hv.commands,
    (congrArg Control.active hc).trans hv.active,
    (congrArg Control.executing hc).trans hv.executing,
    (congrArg Control.carefulModeUntilMs hc).trans hv.careful,
    (congrArg Control.dockDeparturePending hc).trans hv.pending⟩

theorem withdraw_along {w t : World} (starts : Bool) (hv : Vacant w) (hseq : w.Numbered → t.Numbered)
    (hc : t.control = { w.control with withdrawing := w.control.withdrawing || starts }) :
    Along w (pushFront Control.withdrawal t) := by
  have hpushed : (pushFront Control.withdrawal t).control =
      { w.control.pushed true Control.withdrawal with
        withdrawing := w.control.withdrawing || starts } := by
    rw [control_pushFront, hc]
    rfl
  refine ⟨fun _ => .single ?_, congrArg Control.executing hpushed,
    congrArg Control.dispatching hpushed, fun hnumbered => ?_⟩
  · rw [hpushed]
    exact .withdraw _ starts hv.commands hv.active hv.executing hv.careful hv.pending
  · unfold pushFront
    split <;> exact hseq hnumbered

theorem startWithdrawal_along (kind : SafetyEventKind) (commandId : UInt32) (hv : Vacant w) :
    Along w (pushFront Control.withdrawal (if kind = .bump then
      (w.startContactWithdrawal w.st.bumpFlags.toUInt8 commandId w.st.create.odometryDistanceMm)
        |>.onRuntime (fun rt => { rt with mode := .running })
        |>.onStatus (fun st => { st with runtimeState := .running })
      else w)) := by
  by_cases hbump : kind = .bump
  · rw [if_pos hbump]
    set started := w.startContactWithdrawal w.st.bumpFlags.toUInt8 commandId
      w.st.create.odometryDistanceMm
    -- announced, with the mode set, but not withdrawing yet
    let announced : World := { started with rt := { w.rt with mode := .running } }
    have hannounced : Along w announced := by
      let running := w.onRuntime fun rt => { rt with mode := .running }
      have hrunning : Along w running := .step (.setMode _ .running (.inl rfl)) rfl rfl
      have hrecord : Status.Quiet w.st started.st := by
        show Status.Quiet w.st (w.st.recordPublicEvent .contactWithdrawalStarted _ _ _)
        exact Status.recordPublicEvent_quiet _ rfl _ _ _
      have hquiet : Quiet running announced := .of_st hrecord rfl
      exact hrunning.trans hquiet.along
    refine hannounced.trans (withdraw_along true ?_ id ?_)
    · exact ⟨hv.commands, hv.active, hv.executing, hv.careful, hv.pending⟩
    · rw [Bool.or_true]
      rfl
  · rw [if_neg hbump]
    refine withdraw_along false hv id ?_
    rw [Bool.or_false]

theorem respondContactWithdrawal_lands {kind : SafetyEventKind} (ht : Trips kind w t)
    (hexecuting : w.rt.executing = none) (hcareful : w.rt.carefulModeUntilMs = none)
    (hpending : w.rt.dockDeparturePending = false) :
    Lands w (respondContactWithdrawal kind) (fun _ _ => True) t := by
  let yielded := (t.latchSafety kind).interruptAndClear.setActive .none
  have hyielded : Along w yielded :=
    ht.latched fun h => absurd (hpending.symm.trans h) (by simp)
  have hvacant : Vacant yielded := by
    obtain ⟨_, _, hc⟩ := ht
    have hinterrupted := (t.latchSafety kind).control_interruptActiveCommand
    refine ⟨rfl, rfl, hyielded.executing.trans hexecuting, ?_, ?_⟩
    · exact (congrArg Control.carefulModeUntilMs hinterrupted).trans
        ((congrArg Control.carefulModeUntilMs hc).trans hcareful)
    · exact (congrArg Control.dockDeparturePending hinterrupted).trans
        ((congrArg Control.dockDeparturePending hc).trans hpending)
  have hrest := stopDrive_hushed.goes.bind (w := yielded) (S := fun _ _ => True)
    (k := fun _ => do
      .act fun w =>
        if kind = .bump then
          (w.startContactWithdrawal w.st.bumpFlags.toUInt8 (t.rt.activeCommandId.getD 0)
              w.st.create.odometryDistanceMm)
            |>.onRuntime (fun rt => { rt with mode := .running })
            |>.onStatus (fun st => { st with runtimeState := .running })
        else w
      .act (pushFront ⟨0, contactWithdrawalCommand, true⟩))
    fun _ w₁ _ hq => ⟨startWithdrawal_along kind _ (hq.vacant hvacant), trivial⟩
  exact hrest.lands hyielded

theorem applySafetyResponse_lands {kind : SafetyEventKind} (response : SafetyResponse)
    (ht : Trips kind w t) (hpending : w.rt.dockDeparturePending = true →
      recoverableSafetyLatch (some kind) = false)
    (hwithdraws : response = .contactWithdrawal → w.rt.executing = none ∧
      w.rt.carefulModeUntilMs = none ∧ recoverableSafetyLatch (some kind) = true) :
    Lands w (applySafetyResponse kind response) (fun _ _ => True) t := by
  cases response with
  | stop => exact respondStop_lands ht hpending
  | contactWithdrawal =>
    obtain ⟨hexecuting, hcareful, hrecoverable⟩ := hwithdraws rfl
    refine respondContactWithdrawal_lands ht hexecuting hcareful ?_
    by_contra hdeparting
    have hhard := hpending (by simpa using hdeparting)
    exact absurd (hrecoverable.symm.trans hhard) (by simp)

end Responses

section Careful

variable {w : World}

theorem enterCarefulMode_goes {requestedTtlMs ttlMs : UInt32}
    (hrunning : w.runningCommand = some (.carefulMode ttlMs)) :
    Goes w (enterCarefulMode requestedTtlMs) fun _ _ => True := by
  refine ensureCreateResponsive_hushed.goes.bind fun _ w' halong _ => ?_
  have hrunning' : w'.runningCommand = some (.carefulMode ttlMs) := by
    rw [runningCommand, halong.executing]
    exact hrunning
  refine .get_bind (.ite (fun _ => .fail) fun _ => .act ?_ trivial)
  have hlifted : Along w' w'.clearSensorGatesForCareful :=
    w'.clearSensorGatesForCareful_along
      (fun command h => by rw [hrunning'] at h; cases h; rfl) (by simp [hrunning'])
  refine .status (.runtime hlifted ?_) (.same rfl rfl)
  refine .step (.setCareful _ _ fun _ => ⟨rfl, ttlMs, ?_⟩) rfl rfl
  show w'.clearSensorGatesForCareful.rt.executing.map _ = _
  rw [hlifted.executing]
  exact hrunning'

theorem relatchCurrentSensorGate_along (hactive : w.rt.active = .none)
    (hpending : w.rt.dockDeparturePending = false) : Along w w.relatchCurrentSensorGate := by
  unfold relatchCurrentSensorGate
  split
  · rename_i kind _
    obtain ⟨between, hplain, hc⟩ : Trips kind w (w.onStatus fun st =>
        let st := st.markSafetyTripped kind
        if kind = .wheelDrop then st.markWheelDropLatched else st) :=
      .after (f := fun st => if kind = .wheelDrop then st.markWheelDropLatched else st)
        (.ite (Status.markWheelDropLatched_quiet _) (.refl _))
    refine ⟨fun hnumbered => .single ?_, rfl, rfl, fun _ => hplain.2⟩
    have hstep := Step.latch w.control kind w.st.eventNextSeq between hnumbered hplain.1 hactive
      fun h => absurd (hpending.symm.trans h) (by simp)
    rw [← hc] at hstep
    exact hstep
  · split
    · exact along_of_view rfl
    · exact .refl w

theorem relatchCurrentSensorGate_careful (w : World) :
    w.relatchCurrentSensorGate.rt.carefulModeUntilMs = w.rt.carefulModeUntilMs := by
  unfold relatchCurrentSensorGate
  split
  · rfl
  · split <;> rfl

def CarefulOnTime (w : World) : Prop :=
  ∀ deadlineMs, w.rt.carefulModeUntilMs = some deadlineMs →
    timeReached w.nowMs deadlineMs = false

theorem enforceCarefulModeTimeout_goes (hsane : w.control.Sane) :
    Goes w enforceCarefulModeTimeout fun _ w' => CarefulOnTime w' := by
  refine .get_bind ?_
  cases hcareful : w.rt.carefulModeUntilMs with
  | none => exact .pure (by simp [CarefulOnTime, hcareful])
  | some deadlineMs =>
    refine .ite (fun _ => ?_) fun hearly => .pure ?_
    · let yielded := w.cancelCarefulMode.interruptAndClear.setActive .none
      have hyielded : Along w yielded := w.cancelCarefulMode_along.yielded
      have hpending : yielded.rt.dockDeparturePending = false := by
        have hsame : yielded.rt.dockDeparturePending = w.rt.dockDeparturePending :=
          congrArg Control.dockDeparturePending w.cancelCarefulMode.control_interruptActiveCommand
        rw [hsame]
        exact hsane.careful (by simp [control, hcareful])
      have hnone : yielded.rt.carefulModeUntilMs = none :=
        congrArg Control.carefulModeUntilMs w.cancelCarefulMode.control_interruptActiveCommand
      refine .act_bind hyielded (stopDrive_hushed.goes.bind fun _ w' _ hq => .act ?_ ?_)
      · obtain ⟨_, _, hc⟩ := hq
        exact relatchCurrentSensorGate_along (congrArg Control.active hc)
          ((congrArg Control.dockDeparturePending hc).trans hpending)
      · intro deadlineMs' hsome
        rw [relatchCurrentSensorGate_careful, hq.sameGates.careful, hnone] at hsome
        cases hsome
    · intro deadlineMs' hsome
      rw [hcareful] at hsome
      cases hsome
      simpa using hearly

end Careful

section Supervision

variable {w : World}

theorem clearMotionQueue_goes : Goes w clearMotionQueue fun _ w' => SameGates w w' := by
  let purged := (w.observe (.queueCleared ((w.rt.commands.items.filter fun q =>
      isMotionCommand q.command).map QueuedCommand.commandId))).onRuntime fun rt => { rt with
    commands := rt.commands.rotate (fun q => !isMotionCommand q.command) rt.commands.length }
  have hpurged : Along w purged := by
    refine .step ?_ rfl rfl
    have hitems := Deque.items_rotate_length (fun q : QueuedCommand => !isMotionCommand q.command)
      w.rt.commands
    have hstep := Step.purgeMotion w.control
    rw [show w.control.commands = w.rt.commands.items from rfl, ← hitems] at hstep
    exact hstep
  refine .act_bind hpurged (.get_bind (.ite (fun hmotion => ?_) fun _ => .pure ⟨rfl, rfl, rfl⟩))
  refine .act_bind purged.interrupt_along (stopDrive_hushed.goes.bind fun _ w' _ hq => .act ?_ ?_)
  · obtain ⟨_, _, hc⟩ := hq
    have hactive : w'.control.active = purged.rt.active :=
      (congrArg Control.active hc).trans
        (congrArg Control.active purged.control_interruptActiveCommand)
    have hid : w'.control.activeCommandId = none :=
      (congrArg Control.activeCommandId hc).trans
        (congrArg Control.activeCommandId purged.control_interruptActiveCommand)
    refine .step (.halt _ (fun _ => ?_) (.inl hid)) rfl rfl
    rw [hactive]
    revert hmotion
    cases purged.rt.active <;> simp [ActiveAction.isMotion, ActiveAction.isDriving,
      ActiveAction.isDockDeparture, ActiveAction.isPowerPulse]
  · have hsame := (purged.interrupt_sameGates).trans hq.sameGates
    exact ⟨hsame.latchKind, hsame.careful, hsame.nowMs⟩

theorem yieldToCharging_goes :
    Goes w yieldToCharging fun _ w' => SameGates w w' ∧ w'.control.withdrawing = false := by
  refine clearMotionQueue_goes.bind fun _ w₁ _ hsame => ?_
  refine stopDrive_hushed.goes.bind fun _ w₂ _ hq => ?_
  have hended := finishContactWithdrawal_unwinds w₂ .safetyPreempted (some .charging) true
  exact .act hended.along ⟨hsame.trans (hq.sameGates.trans hended.sameGates), hended.ended⟩

theorem clearDockContactLatch_along (w : World) : Along w w.clearDockContactLatch := by
  unfold clearDockContactLatch
  split
  · rename_i hbump
    exact w.liftLatch_along ⟨hbump, rfl, trivial⟩
  · rename_i hcliff
    exact w.liftLatch_along ⟨hcliff, rfl, trivial⟩
  · exact .refl w

theorem clearDockContactLatch_hard (w : World) :
    recoverableSafetyLatch w.clearDockContactLatch.rt.safetyLatchKind = false := by
  unfold clearDockContactLatch
  split
  · rfl
  · rfl
  · rename_i hbump hcliff
    rcases hkind : w.rt.safetyLatchKind with _ | kind
    · rfl
    · cases kind with
      | bump => exact absurd hkind hbump
      | cliff => exact absurd hkind hcliff
      | _ => rfl

theorem clearDockContactLatch_careful (w : World) :
    w.clearDockContactLatch.rt.carefulModeUntilMs = w.rt.carefulModeUntilMs := by
  have hcleared : ∀ kind, (w.liftLatch kind .homeBase).rt.carefulModeUntilMs =
      w.rt.carefulModeUntilMs := fun kind => by
    obtain ⟨_, _, hc⟩ := w.control_liftLatch kind .homeBase
    exact congrArg Control.carefulModeUntilMs hc
  unfold clearDockContactLatch
  split
  · exact hcleared .bump
  · exact hcleared .cliff
  · rfl

theorem superviseHomeBase_goes (hcareful : w.rt.carefulModeUntilMs = none) :
    Goes w superviseHomeBase fun _ _ => True := by
  refine .act_bind w.clearDockContactLatch_along (.get_bind ?_)
  refine Goes.bind (Q := fun _ _ => True) (.when (fun _ => ?_) fun _ => trivial) fun _ w' _ _ =>
    .act (along_of_view rfl) trivial
  refine yieldToCharging_goes.bind fun _ w' _ ⟨hsame, hover⟩ => .act ?_ trivial
  refine .step (.setPending _ true fun _ => ⟨?_, ?_, hover⟩) rfl rfl
  · exact hsame.careful.trans (w.clearDockContactLatch_careful.trans hcareful)
  · show recoverableSafetyLatch w'.rt.safetyLatchKind = false
    rw [hsame.latchKind]
    exact w.clearDockContactLatch_hard

theorem superviseCharging_goes : Goes w superviseCharging fun _ _ => True := by
  refine .get_bind (.ite (fun _ => ?_) fun _ => .pure trivial)
  exact yieldToCharging_goes.bind fun _ _ _ _ => .act (along_of_view rfl) trivial

theorem superviseWheelDrop_goes : Goes w superviseWheelDrop fun _ _ => True := by
  refine .get_bind (.ite (fun _ => .pure trivial) fun _ => ?_)
  let tripped := w.onStatus fun st => (st.markSafetyTripped .wheelDrop).markWheelDropLatched
  have ht : Trips .wheelDrop w tripped :=
    .after (f := Status.markWheelDropLatched) (Status.markWheelDropLatched_quiet _)
  refine halted_lands (t := (tripped.latchSafety .wheelDrop).interruptAndClear)
    (ht.latched fun _ => rfl) fun w' _ => ⟨?_, trivial⟩
  exact (finishContactWithdrawal_unwinds _ _ _ _).along.audio

theorem answerHazard_goes {o : Observation} {kind : SafetyEventKind} {response : SafetyResponse}
    (hazardous : o.hazardous = true) (hpending : w.rt.dockDeparturePending = true →
      recoverableSafetyLatch (some kind) = false)
    (hwithdraws : response = .contactWithdrawal → w.rt.executing = none ∧
      w.rt.carefulModeUntilMs = none ∧ recoverableSafetyLatch (some kind) = true) :
    Goes w (answerHazard o kind response) fun _ _ => True := by
  have ht : Trips kind w (w.onStatus fun st =>
      if o.hazardous then st.markSafetyTripped kind else st) := by
    rw [hazardous]
    exact .marked kind
  exact (applySafetyResponse_lands _ ht hpending hwithdraws).bind fun _ w' _ _ =>
    .act (w'.requestAudio_quiet _).along trivial

theorem chosenResponse_hard {o : Observation} (h : o.tilt = true ∨ o.impact = true) :
    recoverableSafetyLatch (some (chosenResponse o w).1) = false := by
  unfold chosenResponse
  by_cases htilt : o.tilt = true
  · rw [if_pos htilt]
    rfl
  · rw [if_neg htilt, if_pos (h.resolve_left htilt)]
    rfl

theorem chosenResponse_withdraws {o : Observation}
    (h : (chosenResponse o w).2 = .contactWithdrawal) : (chosenResponse o w).1 = .bump := by
  unfold chosenResponse at h ⊢
  split_ifs at h ⊢
  rfl

theorem superviseHazards_goes {o : Observation} (hazardous : o.hazardous = true)
    (hexecuting : w.rt.executing = none) (hcareful : w.rt.carefulModeUntilMs = none)
    (hpending : w.rt.dockDeparturePending = true → o.tilt = true ∨ o.impact = true) :
    Goes w (superviseHazards o) fun _ _ => True := by
  refine .get_bind (.ite (fun _ => .pure trivial) fun _ => ?_)
  refine answerHazard_goes hazardous (fun h => chosenResponse_hard (hpending h)) fun h => ?_
  exact ⟨hexecuting, hcareful, by rw [chosenResponse_withdraws h]; rfl⟩

theorem dominatingHazard_hard {o : Observation} {kind : SafetyLatchKind} {hazard : SafetyEventKind}
    (hbase : o.homeBase = true) (h : dominatingHazard o kind = some hazard) :
    recoverableSafetyLatch (some hazard) = false := by
  unfold dominatingHazard at h
  rw [hbase, Bool.or_true, if_pos rfl] at h
  split_ifs at h <;> cases h <;> rfl

theorem superviseEscape_goes {o : Observation} {escape : ActiveEscape}
    (hpending : w.rt.dockDeparturePending = true → o.homeBase = true) :
    Goes w (superviseEscape o escape) fun _ _ => True := by
  unfold superviseEscape
  split
  · rename_i kind hdominating
    have hresponds := applySafetyResponse_lands .stop (.marked (w := w) kind)
      (fun h => dominatingHazard_hard (hpending h) hdominating) fun h => by cases h
    refine Prog.wp_act_bind.mpr (hresponds.bind fun _ w' _ _ => ?_)
    have hquiet := (w'.requestAudio_quiet (safetyAuditoryCue kind)).trans
      (updateSafetyEdges_quiet _ o.bump o.cliff o.wheelDrop)
    exact .act hquiet.along trivial
  · refine .get_bind (.ite (fun _ => .act (updateSafetyEdges_quiet _ _ _ _).along trivial)
      fun _ => ?_)
    refine .act_bind w.yielded_along (stopDrive_hushed.goes.bind fun _ w' _ _ => .act ?_ trivial)
    exact (w'.updateSafetyEdges_quiet _ _ _).along

theorem superviseObservation_goes {o : Observation} (hexecuting : w.rt.executing = none)
    (hcareful : w.rt.carefulModeUntilMs = none) (hpending : w.rt.dockDeparturePending = true → o.homeBase = true) :
    Goes w (superviseObservation o) fun _ _ => True := by
  refine .ite (fun _ => superviseHomeBase_goes hcareful) fun hbase => ?_
  refine .ite (fun _ => superviseCharging_goes) fun hcharging => ?_
  have hedges := w.updateSafetyEdges_quiet o.bump o.cliff o.wheelDrop
  refine .act_bind hedges.along (.ite (fun _ => .pure trivial) fun hsome => ?_)
  refine .ite (fun _ => superviseWheelDrop_goes) fun hdrop => ?_
  refine superviseHazards_goes ?_ hexecuting hcareful fun h => ?_
  · -- a charging contact alone was answered before
    revert hsome hcharging hdrop
    simp only [Observation.hazardous]
    cases o.bump <;> cases o.cliff <;> cases o.wheelDrop <;> cases o.tilt <;> cases o.impact <;>
      cases o.charging <;> simp
  · have hsame : (w.updateSafetyEdges o.bump o.cliff o.wheelDrop).rt.dockDeparturePending =
        w.rt.dockDeparturePending := rfl
    have hhome := hpending (hsame ▸ h)
    rw [hhome] at hbase
    cases htilt : o.tilt with
    | true => exact .inl rfl
    | false => exact .inr (by simpa [htilt, hdrop] using hbase)

theorem observeTilt_quiet (w : World) : Quiet w w.observeTilt.2 := by
  unfold observeTilt
  split
  · split
    · exact .refl w
    · exact .of_view rfl
  · exact .of_view rfl

theorem forgetDeparture_along (w : World) : Along w w.forgetDeparture := by
  unfold forgetDeparture
  split
  · exact .step (.setPending _ false (by simp)) rfl rfl
  · exact .refl w

theorem initSafetyObservation_quiet (w : World) : Quiet w w.initSafetyObservation := by
  unfold initSafetyObservation
  split
  · exact .of_view rfl
  · exact .refl w

theorem observeSafety_along (w : World) : Along w w.observeSafety.2 :=
  w.observeTilt_quiet.along.trans <|
    (forgetDeparture_along _).trans (initSafetyObservation_quiet _).along

theorem observeSafety_pending (w : World)
    (h : w.observeSafety.2.rt.dockDeparturePending = true) :
    w.observeSafety.1.homeBase = true := by
  have hst : w.observeTilt.2.st = w.st := by
    unfold observeTilt
    split
    · split <;> rfl
    · rfl
  obtain ⟨_, _, hc⟩ := initSafetyObservation_quiet w.observeTilt.2.forgetDeparture
  have hpending : w.observeTilt.2.forgetDeparture.rt.dockDeparturePending = true :=
    (congrArg Control.dockDeparturePending hc).symm.trans h
  show w.st.homeBase = true
  by_contra hbase
  unfold forgetDeparture at hpending
  rw [hst] at hpending
  split at hpending
  · cases hpending
  · rename_i hkept
    exact hkept (by simp [hbase, hpending])

theorem observeSafety_sameGates (w : World) : SameGates w w.observeSafety.2 := by
  have hforget : ∀ w : World, SameGates w w.forgetDeparture := by
    intro w
    unfold forgetDeparture
    split <;> exact ⟨rfl, rfl, rfl⟩
  exact w.observeTilt_quiet.sameGates.trans
    ((hforget _).trans (initSafetyObservation_quiet _).sameGates)

theorem CarefulOnTime.off (htime : CarefulOnTime w) (h : w.carefulModeActive w.nowMs ≠ true) :
    w.rt.carefulModeUntilMs = none := by
  cases hcareful : w.rt.carefulModeUntilMs with
  | none => rfl
  | some deadlineMs => simp [carefulModeActive, hcareful, htime deadlineMs hcareful] at h

theorem SameGates.carefulOnTime {w' : World} (h : SameGates w w') (htime : CarefulOnTime w) :
    CarefulOnTime w' := by
  intro deadlineMs hsome
  rw [h.nowMs]
  exact htime deadlineMs (h.careful.symm.trans hsome)

theorem enforceSafetyPolicy_goes (hexecuting : w.rt.executing = none)
    (htime : CarefulOnTime w) : Goes w enforceSafetyPolicy fun _ _ => True := by
  have hidle : w.observeSafety.2.rt.executing = none := w.observeSafety_along.executing.trans hexecuting
  refine .get_bind (.act_bind w.observeSafety_along (.get_bind ?_))
  split
  · exact superviseEscape_goes w.observeSafety_pending
  · refine .ite (fun hactive => .act ?_ trivial) fun hover => ?_
    · refine (updateSafetyEdges_quiet _ _ _ _).along.trans
        (clearSensorGatesForCareful_along _ ?_ fun _ => ?_)
      · intro command hrunning
        have hnone : w.observeSafety.2.runningCommand = none := by rw [runningCommand, hidle]; rfl
        exact absurd (hrunning.symm.trans hnone) (by simp)
      · exact hactive
    · have hoff := (w.observeSafety_sameGates.carefulOnTime htime).off hover
      exact superviseObservation_goes hidle hoff w.observeSafety_pending

/-- What a missed heartbeat ends before the stop is recorded. -/
def heartbeatOver (w : World) : World :=
  (w.onRuntime fun rt => { rt with heartbeatStopAtMs := none }).cancelCarefulMode.onStatus
    fun st => st.revokeAuthority.markHeartbeatExpired

theorem heartbeatOver_along (w : World) : Along w w.heartbeatOver :=
  .status (.cancelCareful (along_of_view rfl))
    ((Status.revokeAuthority_quiet _).trans (Status.markHeartbeatExpired_quiet _))

theorem requestAudio_control (w : World) (cue : AuditoryCue) :
    (w.requestAudio cue).control = w.control := by
  show { w.control with
    mailbox := (w.requestAudio cue).st.mailbox
    hazardGeneration := (w.requestAudio cue).st.hazardGeneration
    log := (w.requestAudio cue).log } = _
  simp only [requestAudio]
  cases (w.rt.audio.request cue w.nowMs).1 <;> rfl

theorem enforceHeartbeatStop_goes : Goes w enforceHeartbeatStop fun _ _ => True := by
  refine .get_bind ?_
  split
  · exact .pure trivial
  · refine .ite (fun _ => ?_) fun _ => .pure trivial
    let ended := w.heartbeatOver
    let tripped := (ended.onStatus (·.markSafetyTripped .heartbeat)).requestAudio .heartbeatLost
    have hc : tripped.control = ended.control.tripped .heartbeat ended.st.eventNextSeq :=
      requestAudio_control _ _
    have hnumbered : tripped.Numbered := by
      obtain ⟨_, hplain, _⟩ := requestAudio_quiet
        (ended.onStatus (·.markSafetyTripped .heartbeat)) .heartbeatLost
      exact hplain.2 (Status.nextSeq_ne_zero _)
    have hrest : Lands ended (if tripped.rt.activeContactWithdrawal.isNone then
        (do .act fun w => w.interruptAndClear.setActive .none; stopDrive) else pure ())
        (fun _ _ => True) tripped := by
      cases hwithdraws : tripped.rt.activeContactWithdrawal with
      | none =>
        have hhalt : Along ended (tripped.interruptActiveCommand.setActive .none) := by
          refine ⟨fun hover => .single ?_, ?_, ?_, fun _ => ?_⟩
          · show Step _ { tripped.interruptActiveCommand.control with active := .none }
            rw [control_interruptActiveCommand, hc]
            exact .tripHalt _ _ _ hover (.heartbeat _ _)
          · exact tripped.interrupt_along.executing.trans (congrArg Control.executing hc)
          · exact tripped.interrupt_along.dispatching.trans (congrArg Control.dispatching hc)
          · exact tripped.interruptActiveCommand_numbered hnumbered
        have hyielded : Along ended (tripped.interruptAndClear.setActive .none) :=
          hhalt.trans (.step (.clear _) rfl rfl)
        exact stopDrive_hushed.goes.done.lands hyielded
      | some withdrawal =>
        have hsame : tripped.control.withdrawing = ended.control.withdrawing :=
          (congrArg Control.withdrawing hc).trans rfl
        have hactive : ended.control.withdrawing = true := by
          rw [← hsame]
          simp [control, hwithdraws]
        refine ⟨⟨fun hover => .single ?_, congrArg Control.executing hc,
          congrArg Control.dispatching hc, fun _ => hnumbered⟩, trivial⟩
        rw [hc]
        exact .tripOnly _ .heartbeat _ hover (.heartbeat _ _) (.inr hactive)
    exact hrest.imp (fun _ _ h => ⟨w.heartbeatOver_along.trans h.1, trivial⟩)
      fun _ _ h => w.heartbeatOver_along.trans h

end Supervision

end World

end Netherwick.Brainstem
