import Netherwick.Brainstem.Refinement.Safety

/-! # The runtime moves along the skeleton: executing commands -/

namespace Netherwick.Brainstem

open Netherwick.Lib

namespace World

open Control (Steps Step)

section Course

/-- A part of a tick in which a command may be executed from beginning to end. -/
structure Course (w w' : World) : Prop where
  steps : w.Numbered → Steps w.control w'.control
  dispatching : w'.rt.dispatching = w.rt.dispatching
  numbered : w.Numbered → w'.Numbered

variable {w w' w'' : World}

theorem Along.course (h : Along w w') : Course w w' := ⟨h.steps, h.dispatching, h.numbered⟩

theorem Course.trans (h : Course w w') (h' : Course w' w'') : Course w w'' where
  steps hnumbered := (h.steps hnumbered).trans (h'.steps (h.numbered hnumbered))
  dispatching := h'.dispatching.trans h.dispatching
  numbered hnumbered := h'.numbered (h.numbered hnumbered)

/-- The program moves along the skeleton while it may execute a command. -/
abbrev Runs {α : Type} (w : World) (m : M α) (Q : α → World → Prop) : Prop :=
  Prog.Walks Course halt w m Q

theorem Goes.runs {α : Type} {m : M α} {Q : α → World → Prop} (h : Goes w m Q) : Runs w m Q :=
  Prog.Walks.along h fun _ _ => Along.course

theorem Goes.runs_idle {α : Type} {m : M α} {Q : α → World → Prop} (h : Goes w m Q)
    (hidle : w.rt.executing = none) : Runs w m fun a w' => Q a w' ∧ w'.rt.executing = none :=
  Goes.runs (h.imp fun _ _ halong hq => ⟨hq, halong.executing.trans hidle⟩)

end Course

section Power

variable {w w' : World}

/-- Nothing has happened since the wake began but plain entries. -/
def FreshWake (w : World) : Prop := ∀ o ∈ sinceWake w.log, o.plain = true

theorem mem_sinceWake_append {o : Obs} {recent log : List Obs}
    (h : o ∈ sinceWake (recent ++ log)) : o ∈ recent ∨ o ∈ sinceWake log := by
  induction recent with
  | nil => exact .inr h
  | cons o' recent ih =>
    by_cases hran : o' = .ran .wakeCreate
    · subst hran
      cases h
    · rw [List.cons_append, sinceWake] at h
      · rcases List.mem_cons.mp h with rfl | h
        · exact .inl List.mem_cons_self
        · exact (ih h).imp_left (List.mem_cons_of_mem o')
      · exact hran

theorem Quiet.freshWake (h : Quiet w w') (hfresh : FreshWake w) : FreshWake w' := by
  obtain ⟨recent, hplain, hc⟩ := h
  intro o ho
  rw [show w'.log = recent ++ w.log from congrArg Control.log hc] at ho
  exact (mem_sinceWake_append ho).elim (hplain.1 o) (hfresh o)

theorem startPowerPulse_along {cause : PulseCause} {event : BrainstemEvent}
    {wakeWait : Option UInt32} {powerOn : Bool} (hevent : decisive event = false)
    (hmode : w.rt.executing ≠ none ∨ w.rt.active ≠ .none)
    (hcause : ∀ w', Quiet w w' → w'.control.Causes (wakeWait.map (w.nowMs + ·)) cause) :
    Along w (w.startPowerPulse cause event wakeWait powerOn) := by
  have hpushed : Quiet w (w.pushEvent event) := .of_dev (Device.pushEvent_quiet _ hevent w.dev)
  exact hpushed.along.trans (.step (.pulse _ cause (w.nowMs + powerTogglePulseMs)
    (wakeWait.map (w.nowMs + ·)) powerOn hmode (hcause _ hpushed)) rfl rfl)

theorem wakeCreate_along {execution : Execution} (he : Executing w execution)
    (hfresh : FreshWake w) : Along w w.wakeCreate := by
  let waiting := w.forgetCreateMode.setBodyState .waitingForCreate
  have hquiet : Quiet w waiting := w.forgetCreateMode_quiet.trans (setBodyState_quiet _ _)
  have hexecuting := hquiet.traces.executing he
  have hsome : waiting.rt.executing ≠ none := by simp [hexecuting.executing]
  refine hquiet.along.trans ?_
  unfold wakeCreate
  dsimp only
  split
  · exact startPowerPulse_along rfl (.inl hsome) fun w' hq =>
      ⟨rfl, hq.freshWake (hquiet.freshWake hfresh)⟩
  · exact .step (.beginWait _ _ _ _ hsome hexecuting.active (hquiet.freshWake hfresh)) rfl rfl

theorem sleepCreate_goes {execution : Execution} (he : Executing w execution) :
    Goes w sleepCreate fun _ _ => True := by
  refine .act_bind w.forgetCreateMode_quiet.along (stopDrive_hushed.goes.bind fun _ w' _ hq => ?_)
  have he' := (w.forgetCreateMode_quiet.trans hq).traces.executing he
  have hrest : ∀ w', w'.rt.active = .none → Along w' (w'.setActive .none) :=
    fun w' h => along_of_view (setActive_self h)
  refine .act ?_ trivial
  split
  · exact (setBodyState_quiet _ _).along.trans (hrest _ he'.active)
  · exact (setBodyState_quiet _ _).along.trans
      (startPowerPulse_along rfl (.inl (by simp [setBodyState, onStatus, he'.executing]))
        fun _ _ => ⟨rfl, rfl⟩)
  · exact (setBodyState_quiet w' .idle).along.trans
      ((refuse_along _).trans (hrest _ he'.active))

theorem eStop_goes {execution : Execution} (he : Executing w execution) :
    Goes w eStop fun _ _ => True := by
  have hstop := stopDrive_hushed w
  unfold Goes Prog.Walks Prog.wp eStop
  rcases hm : stopDrive w with ⟨error | _, w'⟩
  · rw [hm] at hstop
    have hran : Along w' (w'.observe (.eStopRan false)) := by
      refine .step ?_ rfl rfl
      have hstep := Step.eStop w'.control false
      rw [Bool.or_false] at hstep
      exact hstep
    exact (hstop.along.trans hran).trans (along_halt _ error)
  · rw [hm] at hstop
    refine ⟨hstop.along.trans ?_, trivial⟩
    let ran := (w'.observe (.eStopRan true)).onRuntime fun rt => { rt with estopLatched := true }
    have hran : Along w' ran := by
      refine .step ?_ rfl rfl
      have hstep := Step.eStop w'.control true
      rw [Bool.or_true] at hstep
      exact hstep
    let noted := ran.onStatus (·.markEStopLatched)
    have hnoted : Along w' noted := .status hran (Status.markEStopLatched_quiet _)
    have hactive : noted.rt.active = .none := (hstop.traces.executing he).active
    let tripped := (noted.onStatus (·.markSafetyTripped .eStop)).requestAudio .eStop
    have htripped : Along noted tripped := by
      refine .audio ⟨fun hnumbered => .single ?_, rfl, rfl, fun _ => Status.nextSeq_ne_zero _⟩
      exact .tripOnly noted.control .eStop _ hnumbered (.eStop _ _) (.inl hactive)
    exact (hnoted.trans htripped).trans (along_of_view (setActive_self hactive))

theorem clearEStop_along (hactive : w.rt.active = .none) : Along w w.clearEStop := by
  let cleared := (w.observe .clearEStopRan).onRuntime fun rt => { rt with estopLatched := false }
  let noted := cleared.onStatus (·.markEStopCleared)
  have hnoted : Along w noted :=
    .status (.step (.clearEStop _) rfl rfl) (Status.markEStopCleared_quiet cleared.st)
  have hover : Along noted (noted.onStatus (·.markSafetyCleared .eStop)) :=
    ⟨fun _ => .single (.hazardOver noted.control _ _ _ rfl hactive), rfl, rfl,
      fun _ => Status.nextSeq_ne_zero _⟩
  exact (hnoted.trans hover).audio

end Power

section Sound

variable (w : World)

theorem playOrDrop_quiet {d : Driver Unit} (hd : Device.Silent d) {onPlayed : World → World}
    (hplayed : ∀ w, Quiet w (onPlayed w)) : Quiet w (w.playOrDrop d onPlayed) := by
  have hdriven : Quiet w ((drive d).exec w) := Hushed.drive hd w
  exact hdriven.trans (.ite (hplayed _) (.onStatus (.same rfl rfl)))

theorem defineChirp_quiet (kind : FeedbackKind) (tones : SongTones) (toneCount : UInt8) :
    Quiet w (w.defineChirp kind tones toneCount) := by
  unfold defineChirp
  exact .trans (.runtime (.refl w) rfl) (.ite
    (playOrDrop_quiet _ (Device.defineSong_silent _ _ _) .refl) (.refl _))

theorem songDefine_quiet (id : UInt8) (tones : SongTones) (toneCount : UInt8) :
    Quiet w (w.songDefine id tones toneCount) := by
  unfold songDefine
  exact .trans (.runtime (.refl w) rfl) (.ite
    (playOrDrop_quiet _ (Device.defineSong_silent _ _ _) .refl) (.refl _))

theorem songPlay_quiet (id : UInt8) (nowMs : UInt32) : Quiet w (w.songPlay id nowMs) := by
  refine .ite (.onStatus (.same rfl rfl)) (.ite (.onStatus (.same rfl rfl)) (.ite ?_ (.refl w)))
  exact w.playOrDrop_quiet (Device.playSong_silent id) fun _ => .of_view rfl

theorem playFeedback_quiet {w : World} (hactive : w.rt.active = .none) (kind : FeedbackKind)
    (nowMs : UInt32) : Quiet w (w.playFeedback kind nowMs) := by
  have hrest : ∀ w' : World, w'.rt.active = .none → Quiet w' (w'.setActive .none) :=
    fun w' h => .of_view (setActive_self h)
  unfold playFeedback
  rcases w.feedbackTones kind with ⟨tones, toneCount⟩
  refine .ite ?_ (.ite (hrest w hactive) (.ite (.onStatus (.same rfl rfl)) ?_))
  · have hcounted : Quiet w (w.onStatus (·.incrementAudioSuppressedBySilent)) :=
      .onStatus (.same rfl rfl)
    exact hcounted.trans (hrest _ hactive)
  · exact w.playOrDrop_quiet (Device.defineAndPlay_silent _ _ _) fun _ => .of_view rfl

end Sound

section Orientation

variable {w : World}

theorem zeroImuOrientation_quiet (w : World) : Quiet w w.zeroImuOrientation :=
  .onStatus (Status.zeroImuOrientationFromGravity_quiet _)

theorem ensureOrientationProbeAllowed_hushed (nowMs : UInt32) :
    Hushed (ensureOrientationProbeAllowed nowMs) := by
  have hrefuse : Hushed stopAndRefuse := stopDrive_hushed.bind fun _ => .fail _
  refine .get_bind fun _ => .ite hrefuse ?_
  exact ensureCreateResponsive_hushed.bind fun _ => .get_bind fun _ => .ite hrefuse (.pure ())

theorem executeZeroImuOrientation_along
    (hrunning : w.runningCommand = some .zeroImuOrientation) :
    Along w w.executeZeroImuOrientation := by
  refine w.zeroImuOrientation_quiet.along.trans ?_
  unfold executeZeroImuOrientation
  dsimp only
  split
  · exact clearSafetyLatch_along _ hrunning (by rfl)
  · exact .refl _

theorem clearSafetyLatch_executing {queued : QueuedCommand} (he : Executing w ⟨queued, none⟩)
    (expected : Option SafetyEventKind) : Executing (w.clearSafetyLatch expected) ⟨queued, none⟩ := by
  have hlatched : ∀ kind cause, Executing (w.liftLatch kind cause) ⟨queued, none⟩ := by
    intro kind cause
    obtain ⟨_, _, hc⟩ := w.control_liftLatch kind cause
    exact ⟨(congrArg Control.active hc).trans he.active,
      (congrArg Control.executing hc).trans he.executing, fun _ h => by cases h⟩
  unfold clearSafetyLatch
  split
  · exact ⟨he.active, he.executing, he.current⟩
  · split
    · exact ⟨he.active, he.executing, he.current⟩
    · split
      · exact he
      · exact hlatched _ _

theorem clearSafetyLatch_nowMs (expected : Option SafetyEventKind) :
    (w.clearSafetyLatch expected).nowMs = w.nowMs := by
  unfold clearSafetyLatch
  split
  · rfl
  · split
    · rfl
    · split <;> rfl

theorem startOrientationProbe_goes {queued : QueuedCommand} {angular : Int16}
    {durationMs nowMs : UInt32} (he : Executing w ⟨queued, none⟩) (hnow : nowMs = w.nowMs)
    (hasks : Asks ⟨queued, none⟩ durationMs)
    (hcommand : queued.command = .orientationProbe angular durationMs) :
    Goes w (startOrientationProbe angular durationMs nowMs) fun _ _ => True := by
  refine .ite (fun _ => (rest_goes he).done) fun _ => ?_
  refine (ensureOrientationProbeAllowed_hushed nowMs).goes.bind fun _ w₁ _ hq₁ => ?_
  have hzeroed := hq₁.trans w₁.zeroImuOrientation_quiet
  refine .get_bind ?_
  refine .act_bind w₁.zeroImuOrientation_quiet.along (.ite (fun _ => refuse_goes) fun _ => ?_)
  let cleared := if w₁.zeroImuOrientation.rt.safetyLatchKind = some .tilt then
    w₁.zeroImuOrientation.clearSafetyLatch (some .tilt) else w₁.zeroImuOrientation
  have hcleared : Along w₁.zeroImuOrientation cleared ∧ Executing cleared ⟨queued, none⟩ ∧
      cleared.nowMs = w.nowMs := by
    have he₁ := hzeroed.traces.executing he
    by_cases htilt : w₁.zeroImuOrientation.rt.safetyLatchKind = some .tilt
    · simp only [cleared, if_pos htilt]
      have hrunning : w₁.zeroImuOrientation.runningCommand =
          some (.orientationProbe angular durationMs) := by
        rw [runningCommand, he₁.executing, ← hcommand]
        rfl
      exact ⟨clearSafetyLatch_along _ hrunning rfl, clearSafetyLatch_executing he₁ _,
        clearSafetyLatch_nowMs _ |>.trans hzeroed.traces.nowMs⟩
    · simp only [cleared, if_neg htilt]
      exact ⟨.refl _, he₁, hzeroed.traces.nowMs⟩
  refine .act_bind hcleared.1 ?_
  refine (ensureOrientationProbeAllowed_hushed nowMs).goes.bind fun _ w₂ _ hq₂ => ?_
  have hreset : Quiet w₂ (w₂.onStatus (·.markOdometryReset)) := .onStatus (.same rfl rfl)
  refine .act_bind hreset.along ?_
  have hlast := (hq₂.trans hreset).traces
  refine startCmdVel_goes (hlast.executing hcleared.2.1) ?_ fun d hd => ?_
  · rw [hnow, hlast.nowMs, hcleared.2.2]
  · cases hd
    exact hasks

end Orientation

section Commands

variable {w : World}

theorem setCreateBaud_goes {nowMs : UInt32} : Goes w (setCreateBaud nowMs) fun _ _ => True := by
  refine .act_bind (along_of_view rfl) (.get_bind (.ite (fun _ => .act ?_ trivial)
    fun _ => .fail))
  exact .runtime (forgetCreateMode_quiet _).along (along_of_view rfl)

theorem beginSettle_along {execution : Execution} (he : Executing w execution)
    (untilMs : UInt32) : Along w (w.setActive (.settle untilMs)) :=
  .step (.beginSettle _ untilMs (by simp [control, he.executing]) he.active) rfl rfl

theorem ensureCreateResponsive_still :
    Prog.Stays (fun w w' : World => w'.view = w.view) ensureCreateResponsive := by
  intro w
  simp only [ensureCreateResponsive, Prog.act_bind, Prog.get_bind]
  split <;> split <;> rfl

theorem startDock_goes {past : List Obs} (hlog : w.log = .ran .dock :: past) :
    Goes w startDock fun _ _ => True := by
  refine Goes.bind (Q := fun _ w' => w'.view = w.view) ?_ fun _ w' _ hsame => ?_
  · exact ensureCreateResponsive_still.wp (fun _ _ h => ⟨along_of_view h, h⟩)
      fun e w' h => (along_of_view h).trans (w'.along_halt e)
  · have hlog' : w'.log = .ran .dock :: past :=
      (congrArg Control.log (congrArg Prod.fst hsame)).trans hlog
    refine (sendBytes_goes (.inr (by rw [hlog']; rfl))).bind fun _ _ _ _ => ?_
    exact .act (along_of_view rfl) trivial

theorem validateEscapeMotion_ok {st : Status} {kind : SafetyLatchKind} {generation ttlMs : UInt32}
    {linear angular : Int16}
    (h : (st.validateEscapeMotion kind generation linear angular ttlMs).isOk = true) :
    generation = st.hazardGeneration ∧ ttlMs = Status.escapeTtlMs := by
  unfold Status.validateEscapeMotion at h
  split at h
  · cases h
  · rename_i hhazard
    split at h
    · cases h
    · split at h
      · cases h
      · rename_i henvelope
        simp only [Status.escapeHazardRefused, Status.escapeEnvelopeRefused, Bool.or_eq_true,
          not_or, bne_iff_ne, ne_eq, not_not] at hhazard henvelope
        exact ⟨hhazard.2, henvelope.1.1.1.1⟩

theorem startEscapeMotion_runs {queued : QueuedCommand} {kind : SafetyLatchKind}
    {generation ttlMs nowMs : UInt32} {linear angular : Int16}
    (he : Executing w ⟨queued, none⟩) (hnow : nowMs = w.nowMs)
    (hcommand : queued.command = .escapeMotion kind generation linear angular ttlMs) :
    Runs w (startEscapeMotion queued kind generation linear angular ttlMs nowMs)
      fun _ _ => True := by
  refine Prog.Walks.get_bind (Prog.Walks.ite (fun hok => ?_) fun _ => Goes.fail.runs)
  obtain ⟨hgeneration, httl⟩ := validateEscapeMotion_ok hok
  have hadmitted : Control.Admitted ⟨queued, some w.st.hazardGeneration⟩ := by
    simp only [Control.Admitted, hcommand]
    exact ⟨by rw [hgeneration], httl⟩
  refine Prog.Walks.act_bind (R := Course) (fun _ _ _ => Course.trans) ?_ (Goes.runs ?_)
  · exact ⟨fun _ => .single (.admission _ queued he.executing hadmitted), rfl, id⟩
  · refine startCmdVel_goes ⟨he.active, rfl, fun _ h => (Option.some.inj h).symm⟩ hnow
      fun d hd => ⟨?_, hadmitted⟩
    simpa [Control.durationOf, hcommand] using hd

theorem executeCommand_runs {queued : QueuedCommand} {nowMs : UInt32} {past : List Obs}
    (he : Executing w ⟨queued, none⟩) (hnow : nowMs = w.nowMs)
    (hlog : w.log = .ran queued.command :: past) :
    Runs w (executeCommand queued nowMs) fun _ _ => True := by
  have hasks : ∀ {durationMs : Option UInt32},
      Control.durationOf queued.command = durationMs →
      (∀ kind generation linear angular ttlMs,
        queued.command ≠ .escapeMotion kind generation linear angular ttlMs) →
      ∀ d, durationMs = some d → Asks ⟨queued, none⟩ d := by
    rintro _ hduration hplain d rfl
    refine ⟨hduration, ?_⟩
    unfold Control.Admitted
    split
    · rename_i heq
      exact absurd heq (hplain _ _ _ _ _)
    · trivial
  have hquiet : ∀ {f : World → World}, Quiet w (f w) → Runs w (.act f) fun _ _ => True :=
    fun h => (Goes.act h.along trivial).runs
  have hrunning : w.runningCommand = some queued.command := by
    rw [runningCommand, he.executing]
    rfl
  unfold executeCommand
  cases hcommand : queued.command with
  | escapeMotion => exact startEscapeMotion_runs he hnow hcommand
  | stop | stopDrive => exact (rest_goes he).done.runs
  | eStop => exact (eStop_goes he).runs
  | clearEStop => exact (Goes.act (clearEStop_along he.active) trivial).runs
  | wakeCreate =>
    refine (Goes.act (wakeCreate_along he ?_) trivial).runs
    rw [FreshWake, hlog, hcommand]
    simp [sinceWake]
  | sleepCreate => exact (sleepCreate_goes he).runs
  | startOi =>
    refine Goes.runs ((Hushed.drive Device.startOi_silent).goes.bind fun _ w' _ hq => .act ?_ trivial)
    exact (w'.setBodyState_quiet _).along.trans
      (beginSettle_along ((hq.trans (w'.setBodyState_quiet _)).traces.executing he) _)
  | setCreateBaud => exact setCreateBaud_goes.runs
  | setMode mode =>
    refine Goes.runs ((Hushed.drive (Device.setMode_silent mode)).goes.bind
      fun _ w' _ hq => .act ?_ trivial)
    have he' := hq.traces.executing he
    exact .step (.beginSettle _ _ (by simp [control, he'.executing]) he'.active) rfl rfl
  | drive | driveDirect =>
    exact (startDriveDirect_goes he hnow (hasks (by rw [hcommand]; rfl) (by simp [hcommand]))).runs
  | cmdVel linear angular =>
    refine Goes.runs ((startCmdVel_goes he hnow (hasks (by rw [hcommand]; rfl)
      (by simp [hcommand]))).bind fun _ w' _ _ => .act ?_ trivial)
    split
    · exact (Quiet.onStatus (.same rfl rfl)).along
    · exact .refl w'
  | clearSafetyLatch kind =>
    refine (Goes.act (clearSafetyLatch_along w (hrunning.trans (by rw [hcommand])) ?_) trivial).runs
    simp [commandLifts]
  | carefulMode => exact (enterCarefulMode_goes (hrunning.trans (by rw [hcommand]))).runs
  | driveArc =>
    exact (startDriveArc_goes he hnow (hasks (by rw [hcommand]; rfl) (by simp [hcommand]))).runs
  | requestSensors packetId =>
    exact (Hushed.drive (Device.requestSensorPacket_silent packetId)).goes.done.runs
  | heartbeatStop | streamSensors => exact (Goes.act (along_of_view rfl) trivial).runs
  | clearMotionQueue => exact clearMotionQueue_goes.done.runs
  | defineChirp => exact hquiet (w.defineChirp_quiet _ _ _)
  | playFeedback => exact hquiet (playFeedback_quiet he.active _ _)
  | setAudioSilent => exact hquiet (w.setAudioSilent_quiet _)
  | calibrateTurn =>
    exact (startCmdVel_goes he hnow (hasks (by rw [hcommand]; rfl) (by simp [hcommand]))).runs
  | orientationProbe =>
    exact (startOrientationProbe_goes he hnow (hasks (by rw [hcommand]; rfl)
      (by simp [hcommand]) _ rfl) hcommand).runs
  | resetOdometry => exact hquiet (.onStatus (.same rfl rfl))
  | zeroImuOrientation =>
    exact (Goes.act (executeZeroImuOrientation_along (hrunning.trans (by rw [hcommand])))
      trivial).runs
  | clearImuOrientation => exact hquiet (.onStatus (Status.clearImuOrientationCalibration_quiet _))
  | songPlay => exact hquiet (w.songPlay_quiet _ _)
  | songDefine => exact hquiet (w.songDefine_quiet _ _ _)
  | dock => exact (startDock_goes (hlog.trans (by rw [hcommand]))).runs
  | setLights => exact (Hushed.drive (Device.setLights_silent _ _ _)).goes.done.runs

end Commands

section Departure

variable {w : World}

theorem drive_setActive {α : Type} (d : Driver α) (active : ActiveAction) (w : World) :
    drive d (w.setActive active) = ((drive d w).1, (drive d w).2.setActive active) := rfl

theorem Goes.drive_before {d : Driver Unit} {active : ActiveAction}
    (h : Goes (w.setActive active) (drive d) fun _ _ => True) :
    (do drive d; .act (·.setActive active) : M Unit).wp
      (fun _ w' => Along (w.setActive active) w' ∧ True)
      (fun e w' => Along (w.setActive active) (halt e w')) w := by
  rw [Prog.wp_bind]
  unfold Goes Prog.Walks Prog.wp at h
  unfold Prog.wp
  rw [drive_setActive] at h
  rcases hd : drive d w with ⟨error | _, w'⟩
  · rw [hd] at h
    exact h
  · rw [hd] at h
    exact h

theorem startDockDeparture_goes {nowMs : UInt32} (hpending : w.rt.dockDeparturePending = true)
    (hactive : w.rt.active = .none) (hexecuting : w.rt.executing = none)
    (hmode : w.rt.mode = .running) : Goes w (startDockDeparture nowMs) fun _ _ => True := by
  refine .act_bind (.step (.leaveDock _) rfl rfl) ?_
  refine Goes.bind (Q := fun _ w' => w'.view = (w.observe .dockDepartureRan).view) ?_
    fun _ w₁ _ hsame => ?_
  · exact ensureCreateResponsive_still.wp (fun _ _ h => ⟨along_of_view h, h⟩)
      fun e w' h => (along_of_view h).trans (w'.along_halt e)
  · have hsame : w₁.control = (w.observe .dockDepartureRan).control := congrArg Prod.fst hsame
    let prepared := (w₁.onRuntime fun rt => { rt with
      dockDeparturePending := false, heartbeatStopAtMs := none
      activeVelocity := none }).prepareDrive
    have hdeparted : Along w₁
        (prepared.setActive (.dockDeparture (nowMs + dockDepartureDurationMs))) := by
      have hsteps := Step.depart w₁.control (nowMs + dockDepartureDurationMs)
      rw [hsame] at hsteps
      refine ⟨fun _ => .single ?_, rfl, rfl, id⟩
      show Step w₁.control { w₁.control with
        dockDeparturePending := false, active := .dockDeparture (nowMs + dockDepartureDurationMs) }
      rw [hsame]
      exact hsteps hpending hactive hexecuting hmode
    have hframe : Goes (prepared.setActive (.dockDeparture (nowMs + dockDepartureDurationMs)))
        (drive (Device.driveDirect dockDepartureSpeedMmS dockDepartureSpeedMmS
          dockDepartureDurationMs)) fun _ _ => True := by
      unfold Device.driveDirect
      rw [drive_bind]
      refine .act_bind ?_ (sendBytes_goes (.inr ?_)).done
      · exact (Quiet.of_dev (Device.pushEvent_quiet (.driveRequested
          dockDepartureSpeedMmS dockDepartureSpeedMmS dockDepartureDurationMs) rfl _)).along
      · show dockLicence (.event _ _ _ _ _ :: w₁.log) = true
        rw [show w₁.log = .dockDepartureRan :: w.log from congrArg Control.log hsame]
        rfl
    refine Prog.wp_bind.mpr ?_
    exact (Goes.drive_before hframe).imp (fun _ _ h => ⟨hdeparted.trans h.1, trivial⟩)
      fun _ _ h => hdeparted.trans h

end Departure

section Start

variable {w : World}

theorem view_requeue {queued : QueuedCommand}
    {rest : Deque QueuedCommand commandQueueCapacity}
    (h : w.rt.commands.popFront = some (queued, rest)) :
    (pushFront queued (w.onRuntime fun rt => { rt with commands := rest })).view = w.view := by
  have hitems := Deque.popFront_eq_some.mp h
  have hroom : (w.onRuntime fun rt => { rt with commands := rest }).control.isFull = false := by
    have hbounded := w.rt.commands.bounded
    rw [hitems, List.length_cons] at hbounded
    exact decide_eq_false (Nat.not_le.mpr hbounded)
  have hc : (pushFront queued (w.onRuntime fun rt => { rt with commands := rest })).control =
      w.control := by
    rw [control_pushFront]
    simp only [Control.pushed, hroom]
    show { w.control with commands := queued :: rest.items } = _
    rw [← hitems]
    rfl
  refine Prod.ext hc ?_
  show (pushFront queued _).st.eventNextSeq = w.st.eventNextSeq
  unfold pushFront
  split <;> rfl

theorem completeIfInactive_course (w : World) : Course w w.completeIfInactive := by
  unfold completeIfInactive
  split
  · refine w.complete_along.course.trans ⟨fun _ => .single (.endExecuting _ fun _ => ?_), rfl, id⟩
    rw [control_completeActiveCommand]
    rfl
  · rename_i hactive
    exact ⟨fun _ => .single (.endExecuting _ fun h => absurd h hactive), rfl, id⟩

theorem startNextCommand_runs (hactive : w.rt.active = .none) (hexecuting : w.rt.executing = none)
    (hmode : w.rt.mode = .running) :
    Runs w startNextCommand fun _ w' => w'.rt.executing = none := by
  refine Prog.Walks.get_bind ?_
  cases hpop : w.rt.commands.popFront with
  | none => exact (Goes.pure hexecuting).runs
  | some entry =>
    obtain ⟨queued, rest⟩ := entry
    let popped := w.onRuntime fun rt => { rt with commands := rest }
    refine Prog.wp_act_bind.mpr ?_
    split
    · rename_i hdock
      refine Prog.wp_act_bind.mpr ?_
      have hview := view_requeue hpop
      have hsame := congrArg Prod.fst hview
      let requeued := pushFront queued popped
      have hdeparts : Goes requeued (if w.st.chargingInterlockActive then pure ()
          else startDockDeparture w.nowMs) fun _ w' => w'.rt.executing = none := by
        have hidle : requeued.rt.executing = none :=
          (congrArg Control.executing hsame).trans hexecuting
        refine .ite (fun _ => .pure hidle) fun _ => ?_
        refine (startDockDeparture_goes ?_ ?_ hidle ?_).imp fun _ _ h _ =>
          h.executing.trans hidle
        · exact (congrArg Control.dockDeparturePending hsame).trans
            (Bool.and_eq_true_iff.mp hdock).1
        · exact (congrArg Control.active hsame).trans hactive
        · exact (congrArg Control.mode hsame).trans hmode
      exact Prog.Walks.from_start (R := Course) (fun _ _ _ => Course.trans) (along_of_view hview).course
        hdeparts.runs
    · have hbegun : Course w (beginCommand queued popped) :=
        ⟨fun _ => .single (.begin _ queued rest.items _ _ (Deque.popFront_eq_some.mp hpop) hactive
          hexecuting hmode), rfl, fun _ => Status.nextSeq_ne_zero _⟩
      refine Prog.wp_act_bind.mpr ?_
      refine Prog.Walks.from_start (R := Course) (fun _ _ _ => Course.trans) hbegun ?_
      refine Prog.Walks.bind (R := Course) (fun _ _ _ => Course.trans)
        (executeCommand_runs (w := beginCommand queued popped) ⟨hactive, rfl, fun _ h => by cases h⟩ rfl rfl)
        fun _ w' _ _ => ⟨w'.completeIfInactive_course, rfl⟩

end Start

end World

end Netherwick.Brainstem
