import Netherwick.Brainstem.Refinement.Advance
import Netherwick.Brainstem.Refinement.Execution
import Netherwick.Brainstem.Refinement.Queue

/-! # The runtime moves along the skeleton: a whole tick -/

namespace Netherwick.Brainstem

open Netherwick.Lib

namespace World

open Control (Steps Step)

section Inputs

variable {w : World}

theorem Along.tryStop {w' : World} (h : Along w w') : Along w w'.tryStopDrive :=
  h.trans (tryStopDrive_quiet w').along

theorem clearHeartbeat_along (w : World) : Along w w.clearHeartbeat := along_of_view rfl

theorem yieldToOwner_along (w : World) : Along w w.yieldToOwner := by
  unfold yieldToOwner
  split
  · exact (w.yielded_along.tryStop).trans (setBodyAtRest_quiet _).along
  · exact .refl w

theorem pollSessionReplace_along (w : World) : Along w w.pollSessionReplace := by
  unfold pollSessionReplace
  split
  · exact .refl w
  · rename_i generation _
    let unstreamed := w.clearHeartbeat.cancelCarefulMode.onRuntime fun rt =>
      { rt with sensorStream := none }
    have hunstreamed : Along w unstreamed :=
      w.clearHeartbeat_along.cancelCareful.runtime (along_of_view rfl)
    let published := unstreamed.yieldToOwner.publishSafetySnapshot
    have hpublished : Along unstreamed published :=
      unstreamed.yieldToOwner_along.trans (publishSafetySnapshot_quiet _).along
    exact (hunstreamed.trans hpublished).status
      (Status.acknowledgeSessionReplace_quiet _ generation _)

theorem pollAuthorityTransition_along (w : World) : Along w w.pollAuthorityTransition := by
  unfold pollAuthorityTransition
  split
  · exact .refl w
  · rename_i generation _
    have hacknowledged : ∀ w : World,
        Along w (w.onStatus (·.acknowledgeAuthorityTransition generation)) :=
      fun _ => .status (.refl _) (Status.acknowledgeAuthorityTransition_quiet _ generation)
    split
    · exact hacknowledged w
    · let yielded := w.clearHeartbeat.cancelCarefulMode.yieldToOwner
      have hyielded : Along w yielded :=
        w.clearHeartbeat_along.cancelCareful.trans (yieldToOwner_along _)
      exact (hyielded.trans (hacknowledged yielded)).audio

theorem expireAuthority_along (w : World) : Along w w.expireAuthority := by
  unfold expireAuthority
  dsimp only
  have hexpired : Along w (w.onStatus fun st => (st.takeExpiredAuthority w.nowMs).2) :=
    .status (.refl w) (Status.takeExpiredAuthority_quiet _ w.nowMs)
  split
  · let lost := ((w.onStatus fun st => (st.takeExpiredAuthority w.nowMs).2).requestAudio
        .authorityLost).clearHeartbeat.cancelCarefulMode
    have hlost : Along w lost :=
      (hexpired.audio.trans (clearHeartbeat_along _)).cancelCareful
    split
    · exact hlost.yielded.tryStop
    · exact hlost
  · exact hexpired

theorem pollTimers_quiet (w : World) : Quiet w w.pollTimers := by
  unfold pollTimers
  split
  · exact (Quiet.of_dev (Device.pushEvent_quiet _ rfl w.dev)).trans (.of_view rfl)
  · exact .refl w

theorem notePackets_quiet (w : World) : Quiet w w.notePackets := by
  unfold notePackets
  split
  · exact .of_view rfl
  · exact .refl w

theorem judgeLink_along (w : World) : Along w w.judgeLink := by
  unfold judgeLink
  dsimp only
  split
  · exact .status (along_of_view rfl) (Status.setCreatePowerOn_quiet _ true)
  · split
    · exact .status (.cancelCareful (along_of_view rfl)) (.same rfl rfl)
    · exact .refl w

theorem pollLink_along (w : World) : Along w w.pollLink := by
  have hjudged : Along w w.notePackets.judgeLink :=
    w.notePackets_quiet.along.trans (judgeLink_along _)
  unfold pollLink
  dsimp only
  generalize w.notePackets.judgeLink = judged at hjudged ⊢
  split
  · exact .audio (hjudged.trans (along_of_view rfl))
  · exact hjudged

/-- What the runtime does first in a tick: a new owner is acknowledged. -/
def acknowledged (w : World) : World := w.pollSessionReplace.pollAuthorityTransition

theorem acknowledged_along (w : World) : Along w w.acknowledged :=
  w.pollSessionReplace_along.trans (pollAuthorityTransition_along _)

/-- The rest of `poll`. -/
def pollOwned (w : World) : World :=
  let w := w.pollTimers
  { w with dev := w.dev.poll }.pollLink.pollControlCommand

theorem pollOwned_disposes (hfree : w.rt.dispatching = none) : Disposes w w.pollOwned := by
  let timed := w.pollTimers
  have htimed : Along w timed := (pollTimers_quiet w).along
  let linked := World.pollLink { timed with dev := timed.dev.poll }
  have hlinked : Along timed linked := (pollRx_along _ timed).trans (pollLink_along _)
  have hall := htimed.trans hlinked
  exact hall.serves.disposes (pollControlCommand_disposes (hall.dispatching.trans hfree))

theorem pollChargingIndicator_quiet (w : World) : Quiet w w.pollChargingIndicator :=
  .onStatus (.same rfl rfl)

theorem pollImu_quiet (w : World) : Quiet w w.pollImu := by
  unfold pollImu
  split
  · exact .refl w
  · dsimp only
    split
    · exact .status (.of_view rfl) (Status.markImuSample_quiet _ _)
    · exact .of_view rfl
    · exact .status (.of_view rfl) (Status.markImuHealth_quiet _ _)

theorem observeImuFault_quiet (w : World) : Quiet w w.observeImuFault := by
  unfold observeImuFault
  dsimp only
  split
  · exact .runtime (requestAudio_quiet _ _) rfl
  · split
    · split
      · exact .runtime (requestAudio_quiet _ _) rfl
      · exact .of_view rfl
    · split
      · exact .of_view rfl
      · exact .refl w

theorem observeFullReady_quiet (w : World) : Quiet w w.observeFullReady := by
  unfold observeFullReady
  dsimp only
  split
  · exact .runtime (requestAudio_quiet _ _) rfl
  · exact .of_view rfl

theorem observeBattery_quiet (w : World) : Quiet w w.observeBattery :=
  .runtime (requestAudioIf_quiet _ _ _) rfl

theorem observeCharging_quiet (w : World) : Quiet w w.observeCharging :=
  .runtime (requestAudioIf_quiet _ _ _) rfl

theorem observeConsistency_quiet (w : World) : Quiet w w.observeConsistency :=
  .runtime (requestAudioIf_quiet _ _ _) rfl

theorem observeDock_quiet (w : World) : Quiet w w.observeDock :=
  .runtime (requestAudioIf_quiet _ _ _) rfl

theorem observeAudioTransitions_quiet (w : World) : Quiet w w.observeAudioTransitions :=
  (((((observeBattery_quiet w).trans (observeCharging_quiet _)).trans
    (observeImuFault_quiet _)).trans (observeConsistency_quiet _)).trans
      (observeDock_quiet _)).trans (observeFullReady_quiet _)

/-- What the runtime observes once the owners are settled. -/
def observeOwned (w : World) : World :=
  w.pollOwned.pollMotherbrainReset.pollChargingIndicator.pollImu.observeAudioTransitions

theorem observeOwned_disposes (hfree : w.rt.dispatching = none) : Disposes w w.observeOwned := by
  have hobserved : Quiet w.pollOwned w.observeOwned := by
    exact (((pollMotherbrainReset_quiet w.pollOwned).trans (pollChargingIndicator_quiet _)).trans
      (pollImu_quiet _)).trans (observeAudioTransitions_quiet _)
  exact (pollOwned_disposes hfree).along hobserved.along

end Inputs

section Supervising

variable {w : World}

theorem pollSensorStream_hushed : Hushed pollSensorStream := by
  have hrequest : ∀ (packetId : UInt8) (f : Runtime → Runtime),
      (∀ w : World, (w.onRuntime f).view = w.view) →
        Hushed (do drive (Device.requestSensorPacket packetId); .act (·.onRuntime f)) :=
    fun packetId f hf => (Hushed.drive (Device.requestSensorPacket_silent packetId)).bind fun _ =>
      Prog.Stays.act fun w => .of_view (hf w)
  refine .get_bind fun w => .ite (.pure ()) (.ite ?_ (.ite ?_ ?_))
  · exact hrequest _ _ fun _ => rfl
  · exact hrequest _ _ fun _ => by simp only [view, control, onRuntime, nowMs]
  · cases w.rt.sensorStream with
    | none => exact .pure ()
    | some stream =>
      refine .ite ?_ (.pure ())
      exact hrequest _ _ fun _ => rfl

theorem maintainFullMode_goes : Goes w maintainFullMode fun _ _ => True := by
  have hrefreshed : ∀ w : World, Along w w.scheduleFullModeRefresh := fun _ =>
    along_of_view (by simp only [view, control, scheduleFullModeRefresh, onRuntime, nowMs])
  refine .get_bind (.ite (fun _ => .pure trivial) fun _ => .ite (fun _ => ?_) fun _ => ?_)
  · refine .ite (fun _ => ?_) fun _ => .act (hrefreshed w) trivial
    exact stopDrive_hushed.goes.bind fun _ w' _ _ => .act_bind w'.interrupted_along .fail
  · refine .ite (fun _ => .pure trivial) fun _ => ?_
    exact (Hushed.drive (Device.assertFullMode_silent _ _)).goes.bind fun _ w' _ _ =>
      .act (hrefreshed w') trivial

theorem animateSupervisionLights_hushed : Hushed animateSupervisionLights := by
  refine .get_bind fun w => .ite (.pure ()) ?_
  exact (Hushed.drive (Device.setSupervisionLights_silent _ _ _)).bind fun _ =>
    Prog.Stays.act fun _ => .of_view rfl

theorem pollAudio_quiet (w : World) : Quiet w w.pollAudio := by
  unfold pollAudio
  split
  · exact .refl w
  · dsimp only
    have hready : Quiet w (w.onRuntime fun rt =>
        { rt with audio := (w.rt.audio.takeReady w.nowMs).2 }) := .of_view rfl
    split
    · exact hready
    · exact hready.trans (playOrDrop_quiet _ (Device.defineAndPlay_silent _ _ _)
        fun _ => .of_view rfl)

end Supervising

section Running

variable {w : World}

theorem enterError_course (error : BrainstemError) (w : World) :
    Course (halt error w) (w.enterError error) :=
  ⟨fun _ => w.enterError_steps error, w.enterError_dispatching error,
    fun _ => w.enterError_numbered error⟩

theorem enterIdle_along (hactive : w.rt.active = .none) (hexecuting : w.rt.executing = none) :
    Along w w.enterIdle := by
  have hstopped := tryStopDrive_quiet w
  let completed := w.tryStopDrive.completeActiveCommand
  have hcompleted : Along w completed := hstopped.along.trans (complete_along _)
  have hstill : completed.rt.active = .none := hstopped.active.trans hactive
  let idle := completed.onRuntime fun rt => { rt with mode := .idle, active := .none }
  have hidle : Along completed idle := by
    refine .step ?_ rfl rfl
    have hc : idle.control = { completed.control with mode := .idle } := by
      show { completed.control with mode := .idle, active := .none } = _
      rw [← hstill]
      rfl
    rw [hc]
    exact .setMode _ .idle (.inr ⟨hstill, hcompleted.executing.trans hexecuting⟩)
  exact (hcompleted.trans hidle).trans (setBodyAtRest_quiet idle).along

/-- No command is in hand between two ticks. -/
structure Rested (w : World) : Prop where
  dispatching : w.rt.dispatching = none
  executing : w.rt.executing = none

theorem startOrIdle_course (hexecuting : w.rt.executing = none) (hmode : w.rt.mode = .running) :
    Course w w.startOrIdle ∧ w.startOrIdle.rt.executing = none := by
  unfold startOrIdle
  split
  · exact ⟨⟨fun _ => .refl, rfl, id⟩, hexecuting⟩
  · rename_i hactive
    have hruns := startNextCommand_runs (by simpa using hactive) hexecuting hmode
    unfold Runs Prog.Walks Prog.wp at hruns
    split <;> rename_i heq <;> rw [heq] at hruns
    · exact ⟨hruns.trans (enterError_course _ _), enterError_executing _ _⟩
    · split
      · rename_i w' hidle
        have halong : Along w' w'.enterIdle :=
          enterIdle_along (by simpa using (Bool.and_eq_true_iff.mp hidle).2) hruns.2
        exact ⟨hruns.1.trans halong.course, halong.executing.trans hruns.2⟩
      · exact hruns

/-- A point of the walk at which no timed motion was overdue. -/
def Punctual (w w' : World) : Prop :=
  ∃ c, Steps w.control c ∧ c.OnTime ∧ Steps c w'.control

theorem Punctual.of_still {w w' : World} (h : Steps w.control w'.control)
    (hstill : w'.rt.active.isMotion = false) : Punctual w w' :=
  ⟨w'.control, h, Control.OnTime.of_still hstill, .refl⟩

theorem runMode_runs (hnumbered : w.Numbered) (hsane : w.control.Sane) (hexecuting : w.rt.executing = none) :
    Runs w runMode fun _ w' => w'.rt.executing = none ∧ Punctual w w' := by
  refine Prog.Walks.get_bind ?_
  have hrest : w.rt.mode ≠ .running → Punctual w w := fun hmode => by
    refine .of_still .refl ?_
    have hactive : w.rt.active = .none := by
      by_contra hactive
      exact hmode (hsane.active hactive)
    rw [hactive]
    rfl
  cases hmode : w.rt.mode with
  | idle => exact (Goes.pure ⟨hexecuting, hrest (by simp [hmode])⟩).runs
  | error => exact (Goes.pure ⟨hexecuting, hrest (by simp [hmode])⟩).runs
  | running =>
    have hadvanced := Goes.runs_idle (advanceActiveAction_goes (w := w)) hexecuting
    refine (hadvanced.and_stays advanceActiveAction_mode).bind (fun _ _ _ => Course.trans)
      fun _ w' hcourse ⟨⟨htime, hidle⟩, hsame⟩ => ?_
    obtain ⟨hstarted, hrest⟩ := startOrIdle_course hidle (hsame.trans hmode)
    exact ⟨hstarted, hrest, w'.control, hcourse.steps hnumbered, htime,
      hstarted.steps (hcourse.numbered hnumbered)⟩

theorem superviseAndRun_runs (hnumbered : w.Numbered) (hsane : w.control.Sane) (hexecuting : w.rt.executing = none) :
    Runs w superviseAndRun fun _ w' => w'.rt.executing = none ∧ Punctual w w' := by
  have htrans : ∀ w₁ w₂ w₃ : World, Course w₁ w₂ → Course w₂ w₃ → Course w₁ w₃ :=
    fun _ _ _ => Course.trans
  refine (pollSensorStream_hushed.goes.runs_idle hexecuting).bind htrans
    fun _ w₁ h₁ ⟨_, hidle₁⟩ => ?_
  refine ((enforceCarefulModeTimeout_goes (hsane.steps (h₁.steps hnumbered))).runs_idle
    hidle₁).bind htrans
    fun _ w₂ h₂ ⟨htime, hidle₂⟩ => ?_
  refine ((enforceSafetyPolicy_goes hidle₂ htime).runs_idle hidle₂).bind htrans
    fun _ w₃ h₃ ⟨_, hidle₃⟩ => ?_
  refine (enforceHeartbeatStop_goes.runs_idle hidle₃).bind htrans fun _ w₄ h₄ ⟨_, hidle₄⟩ => ?_
  have h₅ := (publishSafetySnapshot_quiet w₄).along
  refine Prog.Walks.act_bind htrans h₅.course ?_
  refine (maintainFullMode_goes.runs_idle (h₅.executing.trans hidle₄)).bind htrans
    fun _ w₆ h₆ ⟨_, hidle₆⟩ => ?_
  refine (animateSupervisionLights_hushed.goes.runs_idle hidle₆).bind htrans
    fun _ w₇ h₇ ⟨_, hidle₇⟩ => ?_
  have h₈ := w₇.expireAuthority_along
  refine Prog.Walks.act_bind htrans h₈.course ?_
  have hbefore : Course w w₇.expireAuthority :=
    (((((((h₁.trans h₂).trans h₃).trans h₄).trans h₅.course).trans h₆).trans h₇).trans h₈.course)
  have hnumbered' := hbefore.numbered hnumbered
  refine (runMode_runs hnumbered' (hsane.steps (hbefore.steps hnumbered))
    (h₈.executing.trans hidle₇)).bind htrans fun _ w₉ h₉ ⟨hidle₉, hpunctual⟩ => ?_
  have h₁₀ := (pollAudio_quiet w₉).along
  obtain ⟨c, hearlier, hontime, hlater⟩ := hpunctual
  exact ⟨h₁₀.course, h₁₀.executing.trans hidle₉,
    c, (hbefore.steps hnumbered).trans hearlier, hontime,
    hlater.trans (h₁₀.steps (h₉.numbered hnumbered'))⟩

theorem recovered_rested (hnumbered : w.Numbered) (hsane : w.control.Sane)
    (hexecuting : w.rt.executing = none) {w' : World} (hend : superviseAndRun.handle enterError w = w') :
    Course w w' ∧ w'.rt.executing = none ∧ Punctual w w' := by
  have hruns := superviseAndRun_runs hnumbered hsane hexecuting
  subst hend
  refine Prog.wp.handle (T := fun w' => Course w w' ∧ w'.rt.executing = none ∧ Punctual w w')
    hruns (fun w' h => h) fun error w' h => ?_
  have hcourse := h.trans (enterError_course error w')
  have hstill : (w'.enterError error).rt.active.isMotion = false := by
    rw [enterError_active]
    rfl
  exact ⟨hcourse, enterError_executing w' error, .of_still (hcourse.steps hnumbered) hstill⟩

/-- A tick after the owners are settled. -/
def tickOwned (w : World) : World := superviseAndRun.handle enterError w.observeOwned

theorem tick_eq (w : World) : w.tick = w.acknowledged.tickOwned := rfl

theorem tickOwned_rested (hnumbered : w.Numbered) (hsane : w.control.Sane) (hrested : Rested w) :
    Steps w.control w.tickOwned.control ∧ (Rested w.tickOwned ∧ w.tickOwned.Numbered) ∧
      Punctual w w.tickOwned := by
  have hobserved : Disposes w w.observeOwned := observeOwned_disposes hrested.dispatching
  have hnumbered' := hobserved.numbered hnumbered
  obtain ⟨hcourse, hidle, c, hearlier, hontime, hlater⟩ := recovered_rested hnumbered'
    (hsane.steps (hobserved.steps hnumbered)) (hobserved.executing.trans hrested.executing)
    (rfl : _ = w.tickOwned)
  refine ⟨(hobserved.steps hnumbered).trans (hcourse.steps hnumbered'),
    ⟨⟨hcourse.dispatching.trans hobserved.released, hidle⟩, hcourse.numbered hnumbered'⟩, ?_⟩
  exact ⟨c, (hobserved.steps hnumbered).trans hearlier, hontime, hlater⟩

theorem Along.rested {w' : World} (h : Along w w') (hrested : Rested w) : Rested w' :=
  ⟨h.dispatching.trans hrested.dispatching, h.executing.trans hrested.executing⟩

/-- A tick moves along the skeleton, begins and ends with no command in hand, and meets every
deadline that the clock has reached before it starts the next command. -/
theorem tick_rested (hnumbered : w.Numbered) (hsane : w.control.Sane) (hrested : Rested w) :
    Steps w.control w.tick.control ∧ (Rested w.tick ∧ w.tick.Numbered) ∧ Punctual w w.tick := by
  have halong := w.acknowledged_along
  have hsteps := halong.steps hnumbered
  obtain ⟨hrest, hend, c, hearlier, hontime, hlater⟩ := tickOwned_rested (halong.numbered hnumbered)
    (hsane.steps hsteps) (halong.rested hrested)
  rw [tick_eq]
  exact ⟨hsteps.trans hrest, hend, c, hsteps.trans hearlier, hontime, hlater⟩

end Running

end World

end Netherwick.Brainstem
