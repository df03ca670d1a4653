import Netherwick.Brainstem.Control
import Netherwick.Lib.Bytes

/-! # Quiet changes

A quiet change leaves the control skeleton as it is, but for plain entries of the trace. Telemetry,
sound, timers and every frame that does not move the robot are quiet. -/

namespace Netherwick.Brainstem

open Netherwick.Lib

namespace Status

/-- The cells that the skeleton reads, the trace apart. -/
def cells (st : Status) : Mailbox × UInt32 := (st.mailbox, st.hazardGeneration)

def frame (st : Status) : (Mailbox × UInt32) × UInt32 := (st.cells, st.eventNextSeq)

/-- Sequence number zero is never given to an event. -/
def Numbered (st : Status) : Prop := st.eventNextSeq ≠ 0

theorem nextSeq_ne_zero (seq : UInt32) : max (seq + 1) 1 ≠ 0 := max_one_ne_zero _

/-- The cells are untouched and the trace grew by plain entries. -/
structure Quiet (st st' : Status) : Prop where
  cells : st'.cells = st.cells
  log : ∃ recent, (∀ o ∈ recent, o.plain = true) ∧ st'.log = recent ++ st.log
  numbered : st.Numbered → st'.Numbered

section Quiet

variable {st st' st'' : Status}

theorem Quiet.mailbox (h : Quiet st st') : st'.mailbox = st.mailbox := congrArg Prod.fst h.cells

theorem Quiet.hazardGeneration (h : Quiet st st') : st'.hazardGeneration = st.hazardGeneration :=
  congrArg Prod.snd h.cells

theorem Quiet.same (hframe : st'.frame = st.frame) (hlog : st'.log = st.log) : Quiet st st' where
  cells := congrArg Prod.fst hframe
  log := ⟨[], by simp, hlog⟩
  numbered h := by rwa [Numbered, show st'.eventNextSeq = _ from congrArg Prod.snd hframe]

theorem Quiet.refl (st : Status) : Quiet st st := .same rfl rfl

theorem Quiet.one {o : Obs} (hframe : st'.frame = st.frame) (hlog : st'.log = o :: st.log)
    (ho : o.plain = true) : Quiet st st' where
  cells := congrArg Prod.fst hframe
  log := ⟨[o], by simpa using ho, hlog⟩
  numbered h := by rwa [Numbered, show st'.eventNextSeq = _ from congrArg Prod.snd hframe]

theorem Quiet.event {o : Obs} (hframe : st'.frame = (st.cells, max (st.eventNextSeq + 1) 1))
    (hlog : st'.log = o :: st.log) (ho : o.plain = true) : Quiet st st' where
  cells := congrArg Prod.fst hframe
  log := ⟨[o], by simpa using ho, hlog⟩
  numbered _ := by
    rw [Numbered, show st'.eventNextSeq = _ from congrArg Prod.snd hframe]
    exact nextSeq_ne_zero _

theorem Quiet.trans (h : Quiet st st') (h' : Quiet st' st'') : Quiet st st'' := by
  obtain ⟨recent, hplain, hlog⟩ := h.log
  obtain ⟨recent', hplain', hlog'⟩ := h'.log
  refine ⟨h'.cells.trans h.cells, ⟨recent' ++ recent, fun o ho => ?_, ?_⟩,
    fun hnumbered => h'.numbered (h.numbered hnumbered)⟩
  · rcases List.mem_append.mp ho with ho | ho
    · exact hplain' o ho
    · exact hplain o ho
  · rw [hlog', hlog, List.append_assoc]

theorem Quiet.after (h : Quiet st' st'') (hframe : st'.frame = st.frame)
    (hlog : st'.log = st.log) : Quiet st st'' :=
  (Quiet.same hframe hlog).trans h

theorem Quiet.ite {c : Prop} [Decidable c] {st₁ st₂ : Status} (h₁ : Quiet st st₁)
    (h₂ : Quiet st st₂) : Quiet st (if c then st₁ else st₂) := by
  by_cases hc : c
  · rwa [if_pos hc]
  · rwa [if_neg hc]

end Quiet

section Records

variable (st : Status)

theorem recordPublicEvent_quiet {kind : PublicEventKind} (h : (kind.terminal || kind.hazard) = false)
    (a b c : UInt32) : Quiet st (st.recordPublicEvent kind a b c) :=
  .event rfl rfl (by rw [Obs.plain, h]; rfl)

theorem recordIf_quiet (c : Bool) {kind : PublicEventKind}
    (h : (kind.terminal || kind.hazard) = false)
    (a : UInt32) : Quiet st (recordIf c kind a st) :=
  .ite (st.recordPublicEvent_quiet h a 0 0) (.refl st)

theorem signalEvent_quiet (event : BrainstemEvent) : Quiet st (st.signalEvent event) := by
  cases event with
  | createPacketReceived | createSensorPacketDecoded | tickMs => exact .refl st
  | _ => exact .event rfl rfl rfl

theorem markWheelDropLatched_quiet : Quiet st st.markWheelDropLatched := .event rfl rfl rfl

theorem markWheelDropCleared_quiet : Quiet st st.markWheelDropCleared := .event rfl rfl rfl

theorem markHeartbeatExpired_quiet : Quiet st st.markHeartbeatExpired := .event rfl rfl rfl

theorem markEStopLatched_quiet : Quiet st st.markEStopLatched := .event rfl rfl rfl

theorem markEStopCleared_quiet : Quiet st st.markEStopCleared := .event rfl rfl rfl

theorem clearVelocityStream_quiet : Quiet st st.clearVelocityStream := .same rfl rfl

theorem setCreatePowerOn_quiet (on : Bool) : Quiet st (st.setCreatePowerOn on) :=
  .ite (.same rfl rfl) (.same rfl rfl)

theorem setAudioSilent_quiet (silent : Bool) : Quiet st (st.setAudioSilent silent) :=
  (recordIf_quiet _ _ rfl _).after rfl rfl

theorem revokeAuthority_quiet : Quiet st st.revokeAuthority :=
  .ite (.event rfl rfl rfl) (.same rfl rfl)

theorem takeExpiredAuthority_quiet (nowMs : UInt32) :
    Quiet st (st.takeExpiredAuthority nowMs).2 := by
  unfold takeExpiredAuthority
  split
  · exact st.revokeAuthority_quiet
  · exact .refl st

theorem acknowledgeAuthorityTransition_quiet (generation : UInt32) :
    Quiet st (st.acknowledgeAuthorityTransition generation) :=
  .event rfl rfl rfl

theorem acknowledgeSessionReplace_quiet (generation sessionHash : UInt32) :
    Quiet st (st.acknowledgeSessionReplace generation sessionHash) := by
  unfold acknowledgeSessionReplace
  refine .ite (.trans ?_ (recordPublicEvent_quiet _ rfl _ _ _)) ?_ <;>
    exact (recordPublicEvent_quiet _ (by split <;> rfl) _ _ _).after rfl rfl

end Records

section Sensing

variable (st : Status)

theorem recordBatteryLow_quiet (old : CreateStatus) (percent : Option UInt8) :
    Quiet st (recordBatteryLow old percent st) := by
  cases percent with
  | none => exact .refl st
  | some percent => exact .ite (.event rfl rfl rfl) (.ite (.same rfl rfl) (.refl st))

theorem recordSensorEdgeEvents_quiet (packetId : UInt8) (old : CreateStatus)
    (sensors : CreateSensorPacket) : Quiet st (recordSensorEdgeEvents packetId old sensors st) :=
  (recordIf_quiet _ _ rfl _).trans <| (recordIf_quiet _ _ rfl _).trans <|
    (recordIf_quiet _ _ rfl _).trans <| (recordIf_quiet _ _ rfl _).trans <|
      (recordIf_quiet _ _ rfl _).trans (recordBatteryLow_quiet _ _ _)

theorem markCreateSensorPacket_quiet (packetId : UInt8) (sensors : CreateSensorPacket) :
    Quiet st (st.markCreateSensorPacket packetId sensors) :=
  (recordSensorEdgeEvents_quiet _ _ _ _).after rfl rfl

theorem markImuHealth_quiet (health : ImuHealth) : Quiet st (st.markImuHealth health) :=
  (recordIf_quiet _ _ rfl _).after rfl rfl

theorem markImuSample_quiet (sample : ImuSample) : Quiet st (st.markImuSample sample) := by
  unfold markImuSample
  refine .trans ?_ (.ite (recordPublicEvent_quiet _ rfl _ _ _) (.refl _))
  refine .trans ?_ (.ite (recordPublicEvent_quiet _ rfl _ _ _) (.refl _))
  exact (recordIf_quiet _ _ rfl _).after rfl rfl

theorem zeroImuOrientationFromGravity_quiet : Quiet st st.zeroImuOrientationFromGravity.2 := by
  unfold zeroImuOrientationFromGravity
  split
  · exact .refl st
  · split
    · exact .same rfl rfl
    · exact .event rfl rfl rfl

theorem clearImuOrientationCalibration_quiet : Quiet st st.clearImuOrientationCalibration :=
  .event rfl rfl rfl

end Sensing

end Status

namespace Device

/-- What the control skeleton sees of the driver is unchanged but for plain entries. -/
structure Quiet (dev dev' : Device) : Prop where
  st : Status.Quiet dev.st dev'.st
  inbox : dev'.events.items.filter decisive = dev.events.items.filter decisive
  nowUs : dev'.hw.nowUs = dev.hw.nowUs
  powerToggle : dev'.hw.powerToggle = dev.hw.powerToggle

section Quiet

variable {dev dev' dev'' : Device}

theorem Quiet.of_st (h : Status.Quiet dev.st dev'.st)
    (hinbox : dev'.events = dev.events) (hnow : dev'.hw.nowUs = dev.hw.nowUs)
    (hline : dev'.hw.powerToggle = dev.hw.powerToggle) : Quiet dev dev' :=
  ⟨h, by rw [hinbox], hnow, hline⟩

theorem Quiet.refl (dev : Device) : Quiet dev dev := .of_st (.refl _) rfl rfl rfl

theorem Quiet.trans (h : Quiet dev dev') (h' : Quiet dev' dev'') : Quiet dev dev'' where
  st := h.st.trans h'.st
  inbox := h'.inbox.trans h.inbox
  nowUs := h'.nowUs.trans h.nowUs
  powerToggle := h'.powerToggle.trans h.powerToggle

theorem Quiet.ite {c : Prop} [Decidable c] {dev₁ dev₂ : Device} (h₁ : Quiet dev dev₁)
    (h₂ : Quiet dev dev₂) : Quiet dev (if c then dev₁ else dev₂) := by
  by_cases hc : c
  · rwa [if_pos hc]
  · rwa [if_neg hc]

theorem filter_pushBack_decisive (events : Deque BrainstemEvent eventQueueCapacity)
    (event : BrainstemEvent) :
    (events.pushBack event).items.filter decisive =
      if events.isFull then events.items.filter decisive
      else events.items.filter decisive ++ [event].filter decisive := by
  rw [Deque.items_pushBack]
  split
  · rfl
  · rw [List.filter_append]

theorem pushEvent_quiet (event : BrainstemEvent) (h : decisive event = false) (dev : Device) :
    Quiet dev (dev.pushEvent event) where
  st := dev.st.signalEvent_quiet event
  inbox := by
    show (dev.events.pushBack event).items.filter decisive = _
    rw [filter_pushBack_decisive]
    simp [h]
  nowUs := rfl
  powerToggle := rfl

theorem pushEvent_inbox {event : BrainstemEvent} (h : decisive event = true) (dev : Device) :
    (dev.pushEvent event).events.items.filter decisive =
        dev.events.items.filter decisive ++ [event] ∨
      (dev.pushEvent event).events.items.filter decisive = dev.events.items.filter decisive := by
  show (dev.events.pushBack event).items.filter decisive = _ ∨
    (dev.events.pushBack event).items.filter decisive = _
  rw [filter_pushBack_decisive]
  split
  · exact .inr rfl
  · exact .inl (by simp [h])

end Quiet

/-- A driver program whose every effect is quiet. -/
abbrev Silent {α : Type} (d : Driver α) : Prop := Prog.Stays Quiet d

section Silent

variable {α β : Type}

theorem Silent.bind {d : Driver α} {k : α → Driver β} (hd : Silent d) (hk : ∀ a, Silent (k a)) :
    Silent (d >>= k) :=
  Prog.Stays.bind (fun _ _ _ => Quiet.trans) hd hk

theorem Silent.pure (a : α) : Silent (Pure.pure a : Driver α) := Prog.Stays.pure Quiet.refl a

theorem Silent.ite {c : Prop} [Decidable c] {d₁ d₂ : Driver α} (h₁ : Silent d₁)
    (h₂ : Silent d₂) : Silent (if c then d₁ else d₂) :=
  Prog.Stays.ite h₁ h₂

theorem Silent.when {c : Prop} [Decidable c] {d : Driver Unit} (h : Silent d) :
    Silent (Prog.when c d) :=
  Prog.Stays.when Quiet.refl h

theorem moves_of_opcode {opcode : UInt8} (hdrive : opcode ≠ oiDrive)
    (hdirect : opcode ≠ oiDriveDirect) (hdock : opcode ≠ oiSeekDock) (payload : List UInt8) :
    moves (opcode :: payload) = false := by
  simp [moves, hdrive, hdirect, hdock]

theorem sendBytes_silent {frame : List UInt8} (h : moves frame = false) :
    Silent (sendBytes frame) := by
  intro dev
  exact .of_st (.one rfl rfl (by simp [Obs.plain, h])) rfl rfl rfl

theorem stop_silent : Silent stop :=
  Silent.bind (sendBytes_silent moves_stopFrame) fun _ => pushEvent_quiet _ rfl

theorem requestSensorPacket_silent (packetId : UInt8) : Silent (requestSensorPacket packetId) := by
  intro dev
  unfold requestSensorPacket
  split
  · exact .refl dev
  · set asked := dev.onUart fun uart =>
      { uart with sensorBytes := [], pendingSensorPacket := some packetId }.resetStreamParser
    have hasked : Quiet dev asked := .of_st (.refl _) rfl rfl rfl
    have hframe : moves [oiStream, 1, packetId] = false := rfl
    have hsent := hasked.trans (sendBytes_silent hframe asked)
    dsimp only
    split <;> rename_i heq <;> rw [heq] at hsent
    · exact hsent
    · exact hsent.trans (.of_st (.refl _) rfl rfl rfl)

theorem startOi_silent : Silent startOi :=
  Silent.bind (pushEvent_quiet _ rfl) fun _ => sendBytes_silent rfl

theorem setMode_silent (mode : CreateOiMode) : Silent (setMode mode) :=
  Silent.bind (pushEvent_quiet _ rfl) fun _ => by
    cases mode with
    | passive => exact .pure ()
    | safe | full => exact sendBytes_silent rfl

theorem playSong_silent (id : UInt8) : Silent (playSong id) := sendBytes_silent rfl

theorem defineSong_silent (id : UInt8) (tones : SongTones) (toneCount : UInt8) :
    Silent (defineSong id tones toneCount) :=
  .ite (.pure ()) (sendBytes_silent (moves_of_opcode (by decide) (by decide) (by decide) _))

theorem setLights_silent (ledBits color intensity : UInt8) :
    Silent (setLights ledBits color intensity) :=
  sendBytes_silent rfl

theorem setSupervisionLights_silent (ledBits color intensity : UInt8) :
    Silent (setSupervisionLights ledBits color intensity) :=
  sendBytes_silent rfl

theorem defineAndPlay_silent (slot : UInt8) (tones : SongTones) (toneCount : UInt8) :
    Silent (World.defineAndPlay slot tones toneCount) :=
  (defineSong_silent slot tones toneCount).bind fun _ => playSong_silent slot

theorem assertFullMode_silent (createResponsive : Bool) (oiMode : UInt8) :
    Silent (World.assertFullMode createResponsive oiMode) :=
  (startOi_silent.when).bind fun _ =>
    have hmode : Silent (World.enterFullMode oiMode) :=
      .ite (sendBytes_silent rfl) (setMode_silent .full)
    hmode.bind fun _ => (requestSensorPacket_silent 35).when

end Silent

end Device

namespace World

/-- Event numbers are live. -/
abbrev Numbered (w : World) : Prop := w.st.Numbered

def view (w : World) : Control × UInt32 := (w.control, w.st.eventNextSeq)

/-- Only the trace of the skeleton has changed, by plain entries. -/
def Quiet (w w' : World) : Prop :=
  ∃ recent, ((∀ o ∈ recent, o.plain = true) ∧ (w.Numbered → w'.Numbered)) ∧
    w'.control = { w.control with log := recent ++ w.control.log }

section Quiet

variable {w w' w'' : World}

theorem Quiet.of_view (h : w'.view = w.view) : Quiet w w' := by
  refine ⟨[], ⟨by simp, fun hnumbered => ?_⟩, congrArg Prod.fst h⟩
  rwa [Numbered, Status.Numbered, show w'.st.eventNextSeq = _ from congrArg Prod.snd h]

theorem Quiet.refl (w : World) : Quiet w w := .of_view rfl

theorem Quiet.trans (h : Quiet w w') (h' : Quiet w' w'') : Quiet w w'' := by
  obtain ⟨recent, hplain, hc⟩ := h
  obtain ⟨recent', hplain', hc'⟩ := h'
  refine ⟨recent' ++ recent, ⟨fun o ho => ?_, fun h => hplain'.2 (hplain.2 h)⟩, ?_⟩
  · rcases List.mem_append.mp ho with ho | ho
    · exact hplain'.1 o ho
    · exact hplain.1 o ho
  · rw [hc', hc, List.append_assoc]

theorem Quiet.of_st (h : Status.Quiet w.st w'.st)
    (hc : w'.control = { w.control with
      mailbox := w'.st.mailbox, hazardGeneration := w'.st.hazardGeneration, log := w'.log }) :
    Quiet w w' := by
  obtain ⟨recent, hplain, hlog⟩ := h.log
  refine ⟨recent, ⟨hplain, h.numbered⟩, ?_⟩
  rw [hc, h.mailbox, h.hazardGeneration, show w'.log = recent ++ w.log from hlog]
  rfl

theorem Quiet.onStatus {f : Status → Status} (h : Status.Quiet w.st (f w.st)) :
    Quiet w (w.onStatus f) :=
  .of_st h rfl

theorem Quiet.status {f : Status → Status} (h : Quiet w w') (hst : Status.Quiet w'.st (f w'.st)) :
    Quiet w (w'.onStatus f) :=
  h.trans (.onStatus hst)

theorem Quiet.runtime {f : Runtime → Runtime} (h : Quiet w w')
    (hc : (w'.onRuntime f).view = w'.view) : Quiet w (w'.onRuntime f) :=
  h.trans (.of_view hc)

theorem Quiet.ite {c : Prop} [Decidable c] {w₁ w₂ : World} (h₁ : Quiet w w₁) (h₂ : Quiet w w₂) :
    Quiet w (if c then w₁ else w₂) := by
  by_cases hc : c
  · rwa [if_pos hc]
  · rwa [if_neg hc]

theorem Quiet.of_dev {dev : Device} (h : Device.Quiet w.dev dev) : Quiet w { w with dev } := by
  obtain ⟨recent, hplain, hlog⟩ := h.st.log
  refine ⟨recent, ⟨hplain, h.st.numbered⟩, ?_⟩
  have hcontrol : World.control { w with dev } = { w.control with
      mailbox := dev.st.mailbox, hazardGeneration := dev.st.hazardGeneration
      inbox := dev.events.items.filter decisive
      nowMs := dev.hw.nowUs / 1000, powerToggle := dev.hw.powerToggle, log := dev.st.log } := rfl
  rw [hcontrol, h.st.mailbox, h.st.hazardGeneration, h.inbox, h.nowUs, h.powerToggle, hlog]
  rfl

/-- A quiet change that ends the automatic withdrawal, if there was one. -/
def Unwinds (w w' : World) : Prop :=
  ∃ recent, ((∀ o ∈ recent, o.plain = true) ∧ (w.Numbered → w'.Numbered)) ∧
    w'.control = { w.control with withdrawing := false, log := recent ++ w.control.log }

theorem Quiet.unwinds (h : Quiet w w') (hidle : w.control.withdrawing = false) :
    Unwinds w w' := by
  obtain ⟨recent, hplain, hc⟩ := h
  exact ⟨recent, hplain, hc.trans (by rw [← hidle])⟩

theorem Quiet.trans_unwinds (h : Quiet w w') (h' : Unwinds w' w'') : Unwinds w w'' := by
  obtain ⟨recent, hplain, hc⟩ := h
  obtain ⟨recent', hplain', hc'⟩ := h'
  refine ⟨recent' ++ recent, ⟨fun o ho => ?_, fun h => hplain'.2 (hplain.2 h)⟩, ?_⟩
  · rcases List.mem_append.mp ho with ho | ho
    · exact hplain'.1 o ho
    · exact hplain.1 o ho
  · rw [hc', hc, List.append_assoc]

theorem notes_steps {c : Control} {recent : List Obs} (h : ∀ o ∈ recent, o.plain = true) :
    Control.Steps c { c with log := recent ++ c.log } := by
  induction recent with
  | nil => exact .refl
  | cons o recent ih =>
    refine .tail (ih fun o' ho' => h o' (List.mem_cons_of_mem o ho')) ?_
    exact .note _ o (h o List.mem_cons_self)

theorem Quiet.steps (h : Quiet w w') : Control.Steps w.control w'.control := by
  obtain ⟨recent, hplain, hc⟩ := h
  rw [hc]
  exact notes_steps hplain.1

theorem Unwinds.steps (h : Unwinds w w') : Control.Steps w.control w'.control := by
  obtain ⟨recent, hplain, hc⟩ := h
  rw [hc]
  exact .tail (notes_steps hplain.1) (.endWithdrawal _)

end Quiet

/-- A program whose every effect is quiet. -/
abbrev Hushed {α : Type} (m : M α) : Prop := Prog.Stays Quiet m

section Hushed

variable {α β : Type}

theorem Hushed.bind {m : M α} {k : α → M β} (hm : Hushed m) (hk : ∀ a, Hushed (k a)) :
    Hushed (m >>= k) :=
  Prog.Stays.bind (fun _ _ _ => Quiet.trans) hm hk

theorem Hushed.get_bind {k : World → M β} (hk : ∀ w, Hushed (k w)) : Hushed (Prog.get >>= k) :=
  Hushed.bind (Prog.Stays.get Quiet.refl) hk

theorem Hushed.pure (a : α) : Hushed (Pure.pure a : M α) := Prog.Stays.pure Quiet.refl a

theorem Hushed.fail (e : BrainstemError) : Hushed (Prog.fail e : M α) :=
  Prog.Stays.fail Quiet.refl e

theorem Hushed.ite {c : Prop} [Decidable c] {m₁ m₂ : M α} (h₁ : Hushed m₁) (h₂ : Hushed m₂) :
    Hushed (if c then m₁ else m₂) :=
  Prog.Stays.ite h₁ h₂

theorem Hushed.drive {d : Driver α} (h : Device.Silent d) : Hushed (drive d) :=
  fun w => .of_dev (h w.dev)

end Hushed

section Telemetry

variable (w : World)

theorem requestAudio_quiet (cue : AuditoryCue) : Quiet w (w.requestAudio cue) := by
  refine .of_st ?_ rfl
  rcases hrequest : w.rt.audio.request cue w.nowMs with ⟨result, audio⟩
  simp only [requestAudio, hrequest]
  cases result <;> exact .same rfl rfl

theorem Quiet.audio {w w' : World} {cue : AuditoryCue} (h : Quiet w w') :
    Quiet w (w'.requestAudio cue) :=
  h.trans (w'.requestAudio_quiet cue)

theorem requestAudioIf_quiet (c : Bool) (cue : AuditoryCue) : Quiet w (w.requestAudioIf c cue) :=
  .ite (w.requestAudio_quiet cue) (.refl w)

theorem setAudioSilent_quiet (silent : Bool) : Quiet w (w.setAudioSilent silent) := by
  let dropped := w.st.incrementAudioDroppedOrReplaced (w.rt.audio.setSilent silent).1
  exact .of_st ((Status.setAudioSilent_quiet dropped silent).after rfl rfl) rfl

theorem finishContactWithdrawal_unwinds (outcome : ContactWithdrawalOutcome)
    (dominating : Option SafetyEventKind) (finalStopped : Bool) :
    Unwinds w (w.finishContactWithdrawal outcome dominating finalStopped) := by
  unfold finishContactWithdrawal
  split
  · rename_i hnone
    exact (Quiet.refl w).unwinds (by simp [control, hnone])
  · rename_i active _
    dsimp only
    let ended := w.onRuntime fun rt => { rt with activeContactWithdrawal := none }
    let completed := ended.onStatus fun st => st.markContactWithdrawalCompleted outcome dominating
      finalStopped (st.create.odometryDistanceMm - active.baselineOdometryMm)
      (ended.nowMs - active.startedAtMs)
    have hcompleted : Quiet ended completed := .onStatus (.event rfl rfl rfl)
    exact hcompleted.trans (.ite (.refl _) (requestAudio_quiet completed _))

theorem updateSafetyEdges_quiet (bump cliff wheelDrop : Bool) :
    Quiet w (w.updateSafetyEdges bump cliff wheelDrop) := by
  refine .status (.status (.status (.of_view rfl) ?_) ?_) ?_
  · exact .ite (.event rfl rfl rfl) (.refl _)
  · exact .ite (.event rfl rfl rfl) (.refl _)
  · exact .ite (.event rfl rfl rfl) (.refl _)

theorem markStopped_quiet : Quiet w w.markStopped :=
  .of_st (Status.clearVelocityStream_quiet _) rfl

theorem setBodyAtRest_quiet : Quiet w w.setBodyAtRest := .of_st (.same rfl rfl) rfl

theorem setBodyState_quiet (bodyState : BodyState) : Quiet w (w.setBodyState bodyState) :=
  .of_st (.same rfl rfl) rfl

theorem forgetCreateMode_quiet : Quiet w w.forgetCreateMode := .of_st (.same rfl rfl) rfl

theorem prepareDrive_quiet : Quiet w w.prepareDrive := .of_st (.same rfl rfl) rfl

theorem publishSafetySnapshot_quiet : Quiet w w.publishSafetySnapshot := .of_st (.same rfl rfl) rfl

end Telemetry

section Programs

theorem stopDrive_hushed : Hushed stopDrive :=
  (Hushed.drive Device.stop_silent).bind fun _ => Prog.Stays.act markStopped_quiet

theorem tryStopDrive_quiet (w : World) : Quiet w w.tryStopDrive := stopDrive_hushed w

theorem ensureCreateResponsive_hushed : Hushed ensureCreateResponsive := by
  refine Hushed.bind (Prog.Stays.act fun w => ?_) fun _ =>
    .get_bind fun w => .ite (.pure ()) (.fail _)
  exact .ite (.of_st (.same rfl rfl) rfl) (.refl w)

end Programs

end World

end Netherwick.Brainstem
