import Netherwick.Brainstem.Refinement.Quiet

/-! # The runtime moves along the skeleton: lifecycle, errors and motion

`Along` relates two worlds whose skeletons are joined by steps, within one phase of a tick. An error
of a program is followed by what `enter_error` does first, so that a program that gives up halfway
still moves along the skeleton. -/

namespace Netherwick.Brainstem

open Netherwick.Lib

namespace World

open Control (Steps Step)

section Lifecycle

variable (w : World)

/-- What a terminal record of a command does to the shared status. -/
def Records (kind : PublicEventKind) (mark : Status → UInt32 → Status) : Prop :=
  ∀ st id, (mark st id).frame = (st.cells, max (st.eventNextSeq + 1) 1) ∧
    (mark st id).log = .event st.eventNextSeq kind id 0 0 :: st.log

theorem control_settleActiveCommand {mark : Status → UInt32 → Status} {kind : PublicEventKind}
    (hmark : Records kind mark) :
    (w.settleActiveCommand mark).control = w.control.settled kind w.st.eventNextSeq := by
  have hst : (w.settleActiveCommand mark).st.cells = w.st.cells ∧
      (w.settleActiveCommand mark).log = (w.control.settled kind w.st.eventNextSeq).log := by
    simp only [settleActiveCommand, Control.settled, control]
    cases w.rt.activeCommandId with
    | none => exact ⟨rfl, rfl⟩
    | some id =>
      obtain ⟨hframe, hlog⟩ := hmark w.st.clearVelocityStream id
      exact ⟨congrArg Prod.fst hframe, hlog⟩
  show { w.control with
    activeCommandId := none, safetyRecoveryMotion := false
    mailbox := (w.settleActiveCommand mark).st.cells.1
    hazardGeneration := (w.settleActiveCommand mark).st.cells.2
    log := (w.settleActiveCommand mark).log } = _
  rw [hst.1, hst.2]
  rfl

theorem settleActiveCommand_numbered {mark : Status → UInt32 → Status} {kind : PublicEventKind}
    (hmark : Records kind mark) (h : w.Numbered) : (w.settleActiveCommand mark).Numbered := by
  unfold settleActiveCommand
  cases w.rt.activeCommandId with
  | none => exact h
  | some id =>
    have hseq : (mark w.st.clearVelocityStream id).eventNextSeq = _ :=
      congrArg Prod.snd (hmark w.st.clearVelocityStream id).1
    show (mark w.st.clearVelocityStream id).eventNextSeq ≠ 0
    rw [hseq]
    exact Status.nextSeq_ne_zero _

theorem markCommandCompleted_records : Records .commandCompleted Status.markCommandCompleted :=
  fun _ _ => ⟨rfl, rfl⟩

theorem markCommandInterrupted_records :
    Records .commandInterrupted Status.markCommandInterrupted :=
  fun _ _ => ⟨rfl, rfl⟩

theorem control_completeActiveCommand :
    w.completeActiveCommand.control = w.control.settled .commandCompleted w.st.eventNextSeq :=
  w.control_settleActiveCommand markCommandCompleted_records

theorem control_refuseActiveCommand :
    w.refuseActiveCommand.control = w.control.settled .commandInterrupted w.st.eventNextSeq :=
  w.control_settleActiveCommand markCommandInterrupted_records

/-- The record that an error leaves for the active command. -/
def failureKind : BrainstemError → PublicEventKind
  | .createNoResponse | .timeout => .commandTimedOut
  | .uartFraming | .invalidPacket => .commandInterrupted

theorem failureKind_terminal (error : BrainstemError) : (failureKind error).terminal = true := by
  cases error <;> rfl

theorem failure_records (error : BrainstemError) : Records (failureKind error) fun st id =>
    match error with
    | .createNoResponse | .timeout => st.markCommandTimedOut id
    | .uartFraming | .invalidPacket => st.markCommandInterrupted id :=
  fun st id => by cases error <;> exact ⟨rfl, rfl⟩

theorem control_failActiveCommand (error : BrainstemError) :
    (w.failActiveCommand error).control =
      w.control.settled (failureKind error) w.st.eventNextSeq :=
  w.control_settleActiveCommand (failure_records error)

theorem interruptActiveCommand_numbered (h : w.Numbered) : w.interruptActiveCommand.Numbered := by
  unfold interruptActiveCommand
  refine settleActiveCommand_numbered _ markCommandInterrupted_records ?_
  show (if w.rt.active.isPowerPulse then w.endPowerTogglePulse else w).Numbered
  split <;> exact h

theorem control_interruptActiveCommand :
    w.interruptActiveCommand.control = w.control.interrupted w.st.eventNextSeq := by
  unfold interruptActiveCommand
  refine (control_settleActiveCommand _ markCommandInterrupted_records).trans ?_
  unfold Control.interrupted
  have hactive : w.control.active = w.rt.active := rfl
  cases hpulse : w.rt.active.isPowerPulse with
  | true => simp only [hactive, hpulse]; rfl
  | false => simp only [hactive, hpulse]; rfl

end Lifecycle

/-- One phase of a tick: nothing is begun, taken or given away. -/
structure Along (w w' : World) : Prop where
  steps : w.Numbered → Steps w.control w'.control
  executing : w'.rt.executing = w.rt.executing
  dispatching : w'.rt.dispatching = w.rt.dispatching
  numbered : w.Numbered → w'.Numbered

section Along

variable {w w' w'' : World}

theorem Along.refl (w : World) : Along w w := ⟨fun _ => .refl, rfl, rfl, id⟩

theorem Along.trans (h : Along w w') (h' : Along w' w'') : Along w w'' where
  steps hnumbered := (h.steps hnumbered).trans (h'.steps (h.numbered hnumbered))
  executing := h'.executing.trans h.executing
  dispatching := h'.dispatching.trans h.dispatching
  numbered hnumbered := h'.numbered (h.numbered hnumbered)

theorem Along.step (h : Step w.control w'.control) (hexecuting : w'.rt.executing = w.rt.executing)
    (hrest : (w'.rt.dispatching, w'.st.eventNextSeq) = (w.rt.dispatching, w.st.eventNextSeq)) :
    Along w w' := by
  refine ⟨fun _ => .single h, hexecuting, congrArg Prod.fst hrest, fun hnumbered => ?_⟩
  rwa [Numbered, Status.Numbered, show w'.st.eventNextSeq = _ from congrArg Prod.snd hrest]

theorem Quiet.along (h : Quiet w w') : Along w w' := by
  refine ⟨fun _ => h.steps, ?_, ?_, ?_⟩
  · obtain ⟨_, _, hc⟩ := h
    exact congrArg Control.executing hc
  · obtain ⟨_, _, hc⟩ := h
    exact congrArg Control.dispatching hc
  · obtain ⟨_, hplain, _⟩ := h
    exact hplain.2

theorem Unwinds.along (h : Unwinds w w') : Along w w' := by
  refine ⟨fun _ => h.steps, ?_, ?_, ?_⟩
  · obtain ⟨_, _, hc⟩ := h
    exact congrArg Control.executing hc
  · obtain ⟨_, _, hc⟩ := h
    exact congrArg Control.dispatching hc
  · obtain ⟨_, hplain, _⟩ := h
    exact hplain.2

theorem along_of_view (h : w'.view = w.view) : Along w w' := (Quiet.of_view h).along

theorem Along.status {f : Status → Status} (h : Along w w')
    (hst : Status.Quiet w'.st (f w'.st)) : Along w (w'.onStatus f) :=
  h.trans (Quiet.onStatus hst).along

theorem Along.runtime {f : Runtime → Runtime} (h : Along w w')
    (hstep : Along w' (w'.onRuntime f)) : Along w (w'.onRuntime f) :=
  h.trans hstep

theorem Along.audio {cue : AuditoryCue} (h : Along w w') : Along w (w'.requestAudio cue) :=
  h.trans (w'.requestAudio_quiet cue).along

theorem Quiet.active (h : Quiet w w') : w'.rt.active = w.rt.active := by
  obtain ⟨_, _, hc⟩ := h
  exact congrArg Control.active hc

theorem Unwinds.active (h : Unwinds w w') : w'.rt.active = w.rt.active := by
  obtain ⟨_, _, hc⟩ := h
  exact congrArg Control.active hc

theorem Unwinds.ended (h : Unwinds w w') : w'.control.withdrawing = false := by
  obtain ⟨_, _, hc⟩ := h
  exact congrArg Control.withdrawing hc

theorem Quiet.permits (h : Quiet w w') (hp : w.control.permitsMotion) :
    w'.control.permitsMotion := by
  obtain ⟨_, _, hc⟩ := h
  rw [hc]
  exact hp

end Along

section Failing

variable (w : World)

/-- What `enter_error` does first, with the active step ended as it will be. -/
def halt (error : BrainstemError) (w : World) : World :=
  (w.observe (.errorEntered w.hw.powerToggle)
    |>.onStatus (fun st => { st with runtimeState := .error, bodyState := .error })
    |>.pushEvent (.error error)
    |>.failActiveCommand error).setActive .none

theorem halt_steps (error : BrainstemError) (active : ActiveAction) :
    Steps { w.control with active } (halt error w).control := by
  let entered := (w.observe (.errorEntered w.hw.powerToggle)).onStatus fun st =>
    { st with runtimeState := .error, bodyState := .error }
  let pushed := entered.pushEvent (.error error)
  have hreceived : Control.Received { w.control with active } (.error error)
      (pushed.dev.events.items.filter decisive) :=
    Device.pushEvent_inbox rfl entered.dev
  refine .single ?_
  show Step _ { (pushed.failActiveCommand error).control with active := .none }
  rw [control_failActiveCommand]
  exact .fail _ error (failureKind error) w.st.eventNextSeq pushed.st.eventNextSeq
    (Status.encodeErrorPublic error) _ (failureKind_terminal error) hreceived

theorem halt_numbered (error : BrainstemError) : (halt error w).Numbered := by
  have hpushed : ((w.observe (.errorEntered w.hw.powerToggle)
    |>.onStatus (fun st => { st with runtimeState := .error, bodyState := .error })
    |>.pushEvent (.error error))).Numbered := Status.nextSeq_ne_zero _
  exact settleActiveCommand_numbered _ (failure_records error) hpushed

theorem along_halt (error : BrainstemError) : Along w (halt error w) where
  steps _ := w.halt_steps error w.rt.active
  executing := rfl
  dispatching := rfl
  numbered _ := w.halt_numbered error

theorem enterError_control (error : BrainstemError) :
    ∃ recent, ((∀ o ∈ recent, o.plain = true) ∧ (w.enterError error).Numbered) ∧
      (w.enterError error).control = { (halt error w).control with
        mode := .error, executing := none, withdrawing := false
        log := recent ++ (halt error w).log } := by
  let failed := w.observe (.errorEntered w.hw.powerToggle)
    |>.onStatus (fun st => { st with runtimeState := .error, bodyState := .error })
    |>.pushEvent (.error error)
    |>.failActiveCommand error
  let stopped := failed.tryStopDrive.finishContactWithdrawal .failed none
    (stopDrive.succeeds failed)
  let rested := stopped.onRuntime fun rt =>
    { rt with mode := .error, active := .none, executing := none }
  obtain ⟨recent, hplain, hc⟩ : Unwinds failed stopped :=
    (tryStopDrive_quiet failed).trans_unwinds (finishContactWithdrawal_unwinds _ _ _ _)
  obtain ⟨recent', hplain', hc'⟩ : Quiet rested (w.enterError error) :=
    .ite (requestAudio_quiet _ _) (.refl _)
  refine ⟨recent' ++ recent, ⟨fun o ho => ?_, hplain'.2 (hplain.2 (w.halt_numbered error))⟩, ?_⟩
  · rcases List.mem_append.mp ho with ho | ho
    · exact hplain'.1 o ho
    · exact hplain.1 o ho
  · have hrested : rested.control = { failed.control with
        mode := .error, active := .none, executing := none, withdrawing := false
        log := recent ++ failed.control.log } := by
      show { stopped.control with mode := .error, active := .none, executing := none } = _
      rw [hc]
    rw [hc', hrested, List.append_assoc]
    rfl

theorem enterError_steps (error : BrainstemError) :
    Steps (halt error w).control (w.enterError error).control := by
  obtain ⟨recent, hplain, hc⟩ := w.enterError_control error
  have hid : (halt error w).control.activeCommandId = none := rfl
  rw [hc]
  refine (notes_steps hplain.1).trans ?_
  refine .tail (.tail (.single (.endWithdrawal _)) (.endExecuting _ fun _ => hid)) ?_
  exact .setMode _ .error (.inr ⟨rfl, rfl⟩)

theorem enterError_numbered (error : BrainstemError) : (w.enterError error).Numbered := by
  obtain ⟨_, hrest, _⟩ := w.enterError_control error
  exact hrest.2

theorem enterError_executing (error : BrainstemError) :
    (w.enterError error).rt.executing = none := by
  obtain ⟨_, _, hc⟩ := w.enterError_control error
  exact congrArg Control.executing hc

theorem enterError_dispatching (error : BrainstemError) :
    (w.enterError error).rt.dispatching = w.rt.dispatching := by
  obtain ⟨_, _, hc⟩ := w.enterError_control error
  exact congrArg Control.dispatching hc

theorem enterError_active (error : BrainstemError) : (w.enterError error).rt.active = .none := by
  obtain ⟨_, _, hc⟩ := w.enterError_control error
  exact congrArg Control.active hc

end Failing

/-- The program moves along the skeleton within one phase. -/
abbrev Goes {α : Type} (w : World) (m : M α) (Q : α → World → Prop) : Prop :=
  Prog.Walks Along halt w m Q

section Goes

variable {α β : Type} {w : World}

theorem Hushed.goes {m : M α} (h : Hushed m) : Goes w m fun _ w' => Quiet w w' :=
  Prog.Stays.wp h (fun _ _ hq => ⟨hq.along, hq⟩) fun e w' hq => hq.along.trans (w'.along_halt e)

theorem Goes.bind {m : M α} {k : α → M β} {Q : α → World → Prop} {S : β → World → Prop}
    (hm : Goes w m Q) (hk : ∀ a w', Along w w' → Q a w' → Goes w' (k a) S) : Goes w (m >>= k) S :=
  Prog.Walks.bind (R := Along) (fun _ _ _ => Along.trans) hm hk

theorem Goes.act_bind {f : World → World} {k : Unit → M β} {S : β → World → Prop}
    (hr : Along w (f w)) (h : Goes (f w) (k ()) S) : Goes w (Prog.act f >>= k) S :=
  Prog.Walks.act_bind (R := Along) (fun _ _ _ => Along.trans) hr h

theorem Goes.get_bind {k : World → M β} {S : β → World → Prop} (h : Goes w (k w) S) :
    Goes w (Prog.get >>= k) S := h

theorem Goes.ite {c : Prop} [Decidable c] {m₁ m₂ : M α} {Q : α → World → Prop}
    (h₁ : c → Goes w m₁ Q) (h₂ : ¬ c → Goes w m₂ Q) : Goes w (if c then m₁ else m₂) Q :=
  Prog.Walks.ite h₁ h₂

theorem Goes.when {c : Prop} [Decidable c] {m : M Unit} {Q : Unit → World → Prop}
    (h₁ : c → Goes w m Q) (h₂ : ¬ c → Q () w) : Goes w (Prog.when c m) Q :=
  Prog.Walks.when Along.refl h₁ h₂

theorem Goes.done {m : M α} {Q : α → World → Prop} (h : Goes w m Q) : Goes w m fun _ _ => True :=
  Prog.Walks.imp h fun _ _ _ _ => trivial

theorem Goes.act {f : World → World} {Q : Unit → World → Prop} (hr : Along w (f w))
    (hq : Q () (f w)) : Goes w (.act f) Q :=
  ⟨hr, hq⟩

theorem Goes.pure {a : α} {Q : α → World → Prop} (hq : Q a w) : Goes w (Pure.pure a) Q :=
  ⟨.refl w, hq⟩

theorem Goes.fail {e : BrainstemError} {Q : α → World → Prop} : Goes w (.fail e) Q :=
  w.along_halt e

end Goes

section Sending

variable {w w' w'' : World}

/-- Only the trace has changed. -/
def Traces (w w' : World) : Prop := ∃ log, w'.control = { w.control with log }

theorem Quiet.traces (h : Quiet w w') : Traces w w' := by
  obtain ⟨_, _, hc⟩ := h
  exact ⟨_, hc⟩

theorem Traces.trans (h : Traces w w') (h' : Traces w' w'') : Traces w w'' := by
  obtain ⟨_, hc⟩ := h
  obtain ⟨log, hc'⟩ := h'
  exact ⟨log, by rw [hc', hc]⟩

theorem drive_bind {α β : Type} (d : Driver α) (k : α → Driver β) :
    drive (d >>= k) = drive d >>= fun a => drive (k a) := by
  funext w
  rw [Prog.bind_apply]
  unfold drive
  rw [Prog.bind_apply]
  rcases d w.dev with ⟨e | a, dev⟩ <;> rfl

theorem sendBytes_goes {frame : List UInt8} (h : w.control.permitsMotion ∨ dockLicence w.log = true) :
    Goes w (drive (Device.sendBytes frame)) fun _ w' => Traces w w' := by
  set sent := (drive (Device.sendBytes frame)).exec w with hsent
  have hc : sent.control = w.control.observe
      (.sent frame ((w.dev.hw.uartFaults.head?.join).elim frame.length (min frame.length))) := rfl
  have halong : Along w sent := by
    refine .step ?_ rfl rfl
    rw [hc]
    cases hmoves : moves frame with
    | true => exact .move _ _ _ hmoves h
    | false => exact .note _ _ (by simp [Obs.plain, hmoves])
  have htraces : Traces w sent := ⟨_, hc⟩
  exact Prog.Stays.wp (R := fun w₁ w₂ => w₂ = (drive (Device.sendBytes frame)).exec w₁)
    (fun _ => rfl) (fun _ w' hw' => hw' ▸ ⟨halong, htraces⟩)
    fun e w' hw' => hw' ▸ halong.trans (sent.along_halt e)

theorem driveDirect_goes {left right : Int16} {durationMs : UInt32}
    (h : w.control.permitsMotion) :
    Goes w (drive (Device.driveDirect left right durationMs)) fun _ w' => Traces w w' := by
  unfold Device.driveDirect
  rw [drive_bind]
  have hpushed := Hushed.drive (Prog.Stays.act
    (Device.pushEvent_quiet (.driveRequested left right durationMs) rfl))
  refine hpushed.goes.bind fun _ w' _ hq => ?_
  exact (sendBytes_goes (.inl (hq.permits h))).imp fun _ _ _ ht => hq.traces.trans ht

theorem driveArc_goes {velocity radius : Int16} (h : w.control.permitsMotion) :
    Goes w (drive (Device.driveArc velocity radius)) fun _ w' => Traces w w' := by
  unfold Device.driveArc
  rw [drive_bind]
  have hpushed := Hushed.drive (Prog.Stays.act
    (Device.pushEvent_quiet (.driveRequested velocity radius 0) rfl))
  refine hpushed.goes.bind fun _ w' _ hq => ?_
  exact (sendBytes_goes (.inl (hq.permits h))).imp fun _ _ _ ht => hq.traces.trans ht

end Sending

section Stopping

variable (w : World)

theorem setActive_self {w : World} {active : ActiveAction} (h : w.rt.active = active) :
    (w.setActive active).view = w.view := by
  subst h
  rfl

theorem complete_along : Along w w.completeActiveCommand where
  steps _ := by
    rw [control_completeActiveCommand]
    exact .single (.settle _ _ _ rfl)
  executing := rfl
  dispatching := rfl
  numbered := w.settleActiveCommand_numbered markCommandCompleted_records

theorem refuse_along : Along w w.refuseActiveCommand where
  steps _ := by
    rw [control_refuseActiveCommand]
    exact .single (.settle _ _ _ rfl)
  executing := rfl
  dispatching := rfl
  numbered := w.settleActiveCommand_numbered markCommandInterrupted_records

theorem interrupt_along : Along w w.interruptActiveCommand where
  steps _ := by
    rw [control_interruptActiveCommand]
    exact .single (.interrupt _ _)
  executing := (congrArg Control.executing w.control_interruptActiveCommand).trans rfl
  dispatching := (congrArg Control.dispatching w.control_interruptActiveCommand).trans rfl
  numbered := w.interruptActiveCommand_numbered

theorem interrupt_halt (seq : UInt32) :
    Steps w.control { w.control.interrupted seq with active := .none } := by
  refine .tail (.single (.interrupt _ seq)) (.halt _ (fun hline => ?_) (.inl rfl))
  have hline : (!w.control.active.isPowerPulse && w.control.powerToggle) = true := hline
  show w.control.active.isPowerPulse = false
  simpa using (Bool.and_eq_true_iff.mp hline).1

theorem interrupted_along : Along w (w.interruptActiveCommand.setActive .none) where
  steps _ := by
    show Steps _ { w.interruptActiveCommand.control with active := .none }
    rw [control_interruptActiveCommand]
    exact w.interrupt_halt _
  executing := w.interrupt_along.executing
  dispatching := w.interrupt_along.dispatching
  numbered := w.interruptActiveCommand_numbered

theorem yielded_along : Along w (w.interruptAndClear.setActive .none) :=
  .trans w.interrupted_along (.step (.clear _) rfl rfl)

theorem cancelCarefulMode_along : Along w w.cancelCarefulMode :=
  .step (.setCareful _ none fun h => absurd rfl h) rfl rfl

variable {w} {w' : World}

theorem Along.cancelCareful (h : Along w w') : Along w w'.cancelCarefulMode :=
  h.trans w'.cancelCarefulMode_along

theorem Along.yielded (h : Along w w') : Along w (w'.interruptAndClear.setActive .none) :=
  h.trans w'.yielded_along

end Stopping

section Driving

variable {w : World}

/-- A command is being executed and nothing is active yet. -/
structure Executing (w : World) (execution : Execution) : Prop where
  active : w.rt.active = .none
  executing : w.rt.executing = some execution
  current : ∀ generation, execution.admittedFor = some generation →
    generation = w.st.hazardGeneration

theorem Traces.executing {w' : World} {execution : Execution} (h : Traces w w')
    (he : Executing w execution) : Executing w' execution := by
  obtain ⟨_, hc⟩ := h
  exact ⟨(congrArg Control.active hc).trans he.active,
    (congrArg Control.executing hc).trans he.executing,
    fun generation hg => (he.current generation hg).trans
      (congrArg Control.hazardGeneration hc).symm⟩

theorem Traces.nowMs {w' : World} (h : Traces w w') : w'.nowMs = w.nowMs := by
  obtain ⟨_, hc⟩ := h
  exact congrArg Control.nowMs hc

theorem Traces.permits {w' : World} (h : Traces w w') (hp : w.control.permitsMotion) :
    w'.control.permitsMotion := by
  obtain ⟨_, hc⟩ := h
  rw [hc]
  exact hp

theorem rest_goes {execution : Execution} (he : Executing w execution) :
    Goes w (do stopDrive; .act (·.setActive .none)) fun _ w' => Traces w w' := by
  refine stopDrive_hushed.goes.bind fun _ w' _ hq => ?_
  have hsame : Quiet w' (w'.setActive .none) :=
    .of_view (setActive_self (hq.traces.executing he).active)
  exact .act hsame.along (hq.trans hsame).traces

theorem refuse_goes {α : Type} {error : BrainstemError} {Q : α → World → Prop} :
    Goes w (do stopDrive; .fail error) Q :=
  stopDrive_hushed.goes.bind fun _ _ _ _ => .fail

theorem ensureMotionAllowed_goes :
    Goes w ensureMotionAllowed fun _ w' => Quiet w w' ∧ w'.control.permitsMotion := by
  refine .get_bind (.ite (fun _ => refuse_goes) fun hfree => ?_)
  have hpermits : w.control.permitsMotion := by
    have hfree : w.motionRefused = false := by simpa using hfree
    simp only [motionRefused, Bool.or_eq_false_iff, Bool.and_eq_false_iff] at hfree
    obtain ⟨⟨⟨hestop, -⟩, -⟩, hlatch⟩ := hfree
    refine ⟨hestop, fun hlatched => ?_⟩
    have hallowed : w.safetyRecoveryLatchAllowsMotion = true := by
      rcases hlatch with hopen | hallowed
      · exact absurd (hlatched.symm.trans hopen) (by simp)
      · simpa using hallowed
    exact Bool.and_eq_true_iff.mp hallowed
  exact ensureCreateResponsive_hushed.goes.imp fun _ w' _ hq => ⟨hq, hq.permits hpermits⟩

/-- The command under execution asks for this timed drive, and may. -/
structure Asks (execution : Execution) (durationMs : UInt32) : Prop where
  duration : Control.durationOf execution.queued.command = some durationMs
  admitted : Control.Admitted execution

theorem startDriving_along {execution : Execution} {durationMs : UInt32}
    (he : Executing w execution) (hasks : Asks execution durationMs)
    (hp : w.control.permitsMotion) : Along w (startDriving (w.nowMs + durationMs) w) := by
  refine .step ?_ rfl rfl
  have hstep := Step.drive w.control execution durationMs he.active he.executing hasks.duration
    hasks.admitted he.current hp
  rw [← he.executing] at hstep
  exact hstep

theorem startTimed_goes {d : Driver Unit} {prepare : World → World} {execution : Execution}
    {durationMs nowMs : UInt32} (hprepare : ∀ w, Quiet w (prepare w))
    (hsend : ∀ w : World, w.control.permitsMotion →
      Goes w (drive d) fun _ w' => Traces w w')
    (he : Executing w execution) (hnow : nowMs = w.nowMs) (hasks : Asks execution durationMs) :
    Goes w (do ensureMotionAllowed; .act prepare; drive d
               .act (startDriving (nowMs + durationMs))) fun _ _ => True := by
  refine ensureMotionAllowed_goes.bind fun _ w₁ _ hq => ?_
  refine .act_bind (hprepare w₁).along ?_
  have hp := (hprepare w₁).permits hq.2
  refine (hsend _ hp).bind fun _ w₃ _ ht => .act ?_ trivial
  have htraces : Traces w w₃ := (hq.1.traces.trans (hprepare w₁).traces).trans ht
  rw [hnow, ← htraces.nowMs]
  exact startDriving_along (htraces.executing he) hasks (ht.permits hp)

theorem startDriveDirect_goes {execution : Execution} {left right : Int16} {nowMs : UInt32}
    {durationMs : Option UInt32} (he : Executing w execution) (hnow : nowMs = w.nowMs)
    (hasks : ∀ d, durationMs = some d → Asks execution d) :
    Goes w (startDriveDirect left right durationMs nowMs) fun _ _ => True := by
  cases durationMs with
  | none => exact refuse_goes
  | some durationMs =>
    refine .ite (fun _ => (rest_goes he).done) fun _ => ?_
    refine startTimed_goes (fun w => ?_) (fun _ => driveDirect_goes) he hnow (hasks _ rfl)
    exact .trans (.of_view rfl) (prepareDrive_quiet _)

theorem startDriveArc_goes {execution : Execution} {velocity radius : Int16} {nowMs : UInt32}
    {durationMs : Option UInt32} (he : Executing w execution) (hnow : nowMs = w.nowMs)
    (hasks : ∀ d, durationMs = some d → Asks execution d) :
    Goes w (startDriveArc velocity radius durationMs nowMs) fun _ _ => True := by
  cases durationMs with
  | none => exact refuse_goes
  | some durationMs =>
    refine .ite (fun _ => (rest_goes he).done) fun _ => ?_
    exact startTimed_goes prepareDrive_quiet (fun _ => driveArc_goes) he hnow (hasks _ rfl)

theorem startCmdVel_goes {execution : Execution} {linear angular : Int16} {nowMs : UInt32}
    {durationMs : Option UInt32} (he : Executing w execution) (hnow : nowMs = w.nowMs)
    (hasks : ∀ d, durationMs = some d → Asks execution d) :
    Goes w (startCmdVel linear angular durationMs nowMs) fun _ _ => True := by
  refine .ite (fun _ => (rest_goes he).done) fun _ => ?_
  exact (startDriveDirect_goes he hnow hasks).bind fun _ w' _ _ =>
    .act (along_of_view rfl) trivial

end Driving

end World

end Netherwick.Brainstem
