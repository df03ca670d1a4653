import Netherwick.Brainstem.Runtime.World

/-! # Lifecycle of the active command, contact withdrawals and cues -/

namespace Netherwick.Brainstem

open Netherwick.Lib

namespace World

section Audio

variable (w : World)

def requestAudio (cue : AuditoryCue) : World :=
  let (result, audio) := w.rt.audio.request cue w.nowMs
  let w := w.onRuntime fun rt => { rt with audio }
  w.onStatus fun st => match result with
    | .suppressed => st.incrementAudioSuppressedBySilent
    | .dropped => st.incrementAudioDroppedOrReplaced 1
    | .ready | .queued => st

def setAudioSilent (silent : Bool) : World :=
  let (dropped, audio) := w.rt.audio.setSilent silent
  { w with rt := { w.rt with audio } }.onStatus fun st =>
    (st.incrementAudioDroppedOrReplaced dropped).setAudioSilent silent

end Audio

section Lifecycle

variable (w : World)

/-- Close the active command with the record that `mark` makes. -/
def settleActiveCommand (mark : Status → UInt32 → Status) : World :=
  let id := w.rt.activeCommandId
  { w with rt := { w.rt with safetyRecoveryMotion := false, activeCommandId := none } }.onStatus
    fun st => match id with
      | some id => mark st.clearVelocityStream id
      | none => st.clearVelocityStream

def completeActiveCommand : World := w.settleActiveCommand Status.markCommandCompleted

def refuseActiveCommand : World := w.settleActiveCommand Status.markCommandInterrupted

/-- An interruption also ends a power pulse and forgets what was driven. -/
def interruptActiveCommand : World :=
  (if w.rt.active.isPowerPulse then w.endPowerTogglePulse else w)
    |>.onRuntime (fun rt => { rt with activeVelocity := none, activeEscape := none })
    |>.settleActiveCommand Status.markCommandInterrupted

def failActiveCommand (error : BrainstemError) : World :=
  w.settleActiveCommand fun st id => match error with
    | .createNoResponse | .timeout => st.markCommandTimedOut id
    | .uartFraming | .invalidPacket => st.markCommandInterrupted id

def setActive (active : ActiveAction) : World := w.onRuntime fun rt => { rt with active }

/-- `commands.clear()`. -/
def clearCommands : World :=
  w.observe (.queueCleared (w.rt.commands.items.map QueuedCommand.commandId))
    |>.onRuntime fun rt => { rt with commands := .empty }

end Lifecycle

section Withdrawal

variable (w : World)

def startContactWithdrawal (contactBits : UInt8) (preemptedCommandId : UInt32)
    (baselineOdometryMm : Int) : World :=
  let nowMs := w.nowMs
  let repeatedContactCount : UInt8 := match w.rt.lastContactWithdrawalAtMs with
    | some previous =>
      if nowMs - previous ≤ contactRepeatWindowMs then
        if w.rt.repeatedContactCount = 255 then 255 else w.rt.repeatedContactCount + 1
      else 1
    | none => 1
  { w with rt := { w.rt with
      repeatedContactCount, lastContactWithdrawalAtMs := some nowMs
      activeContactWithdrawal := some ⟨nowMs, baselineOdometryMm⟩ } }.onStatus
    fun st => st.markContactWithdrawalStarted contactBits repeatedContactCount preemptedCommandId
      contactWithdrawalSpeedMmS.toUInt16 contactWithdrawalDurationMs.toUInt16

def finishContactWithdrawal (outcome : ContactWithdrawalOutcome)
    (dominating : Option SafetyEventKind) (finalStopped : Bool) : World :=
  match w.rt.activeContactWithdrawal with
  | none => w
  | some active =>
    let w := w.onRuntime fun rt => { rt with activeContactWithdrawal := none }
    let w := w.onStatus fun st => st.markContactWithdrawalCompleted outcome dominating
      finalStopped (st.create.odometryDistanceMm - active.baselineOdometryMm)
      (w.nowMs - active.startedAtMs)
    if outcome = .completed then w else w.requestAudio .serviceFailure

end Withdrawal

/-- `update_safety_edges`. -/
def updateSafetyEdges (bump cliff wheelDrop : Bool) (w : World) : World :=
  let rt := w.rt
  { w with rt := { rt with lastBump := bump, lastCliff := cliff, lastWheelDrop := wheelDrop } }
    |>.onStatus (fun st => if bump != rt.lastBump then st.markBumpChanged bump else st)
    |>.onStatus (fun st => if cliff != rt.lastCliff then st.markCliffChanged cliff else st)
    |>.onStatus fun st =>
      if wheelDrop != rt.lastWheelDrop && !wheelDrop then st.markWheelDropCleared else st

end World

end Netherwick.Brainstem
