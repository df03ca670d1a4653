import Netherwick.Lib.Clock
import Netherwick.Brainstem.Commands

/-! # Auditory cues and their annunciator -/

namespace Netherwick.Brainstem

open Netherwick.Lib

def automaticCueSlot : UInt8 := 9

inductive AuditoryCue
  | none | armed | eStop | cliff | wheelDrop | tilt | impact | heartbeatLost | authorityLost
  | authorityReplaced | bumpContact | createError | runtimeError | serviceFailure | lowBattery
  | safetyClear | recovery | authorityAcquired | dockContact | imuFault | serviceComplete
  | dockSeen | motionInconsistency
  deriving DecidableEq, Repr

namespace AuditoryCue

def code (cue : AuditoryCue) : UInt8 := UInt8.ofNat cue.ctorIdx

def rank : AuditoryCue → Nat
  | eStop => 8
  | cliff | wheelDrop | tilt | impact => 7
  | heartbeatLost | authorityLost | authorityReplaced | createError => 6
  | bumpContact => 5
  | runtimeError | serviceFailure | imuFault | motionInconsistency => 4
  | lowBattery => 3
  | safetyClear | recovery => 2
  | armed | authorityAcquired | dockContact | serviceComplete | dockSeen => 1
  | none => 0

def urgent (cue : AuditoryCue) : Bool := 3 ≤ cue.rank

end AuditoryCue

inductive CueRequestResult
  | ready | queued | suppressed | dropped
  deriving DecidableEq, Repr

structure AudioAnnunciator where
  silent : Bool := false
  urgent : Option AuditoryCue := none
  informational : Option AuditoryCue := none
  busyUntilMs : UInt32 := 0
  deriving DecidableEq, Repr

namespace AudioAnnunciator

/-- Silencing drops whatever is pending and says how much that was. -/
def setSilent (audio : AudioAnnunciator) (silent : Bool) : UInt32 × AudioAnnunciator :=
  if silent then
    ((if audio.urgent.isSome then 1 else 0) + (if audio.informational.isSome then 1 else 0),
      { audio with silent := true, urgent := none, informational := none })
  else (0, { audio with silent := false })

def enqueue (audio : AudioAnnunciator) (cue : AuditoryCue) :
    CueRequestResult × AudioAnnunciator :=
  if cue.urgent then
    let replacedInformation := audio.informational.isSome
    match audio.urgent with
    | some pending =>
      if pending.rank > cue.rank then (.dropped, { audio with informational := none })
      else (.dropped, { audio with informational := none, urgent := some cue })
    | none =>
      (if replacedInformation then .dropped else .queued,
        { audio with informational := none, urgent := some cue })
  else
    (if audio.informational.isSome then .dropped else .queued,
      { audio with informational := some cue })

def request (audio : AudioAnnunciator) (cue : AuditoryCue) (nowMs : UInt32) :
    CueRequestResult × AudioAnnunciator :=
  if audio.silent then (.suppressed, audio)
  else if !timeReached nowMs audio.busyUntilMs then audio.enqueue cue
  else
    let replacedInformation := cue.urgent && audio.informational.isSome
    let audio := if cue.urgent then { audio with informational := none } else audio
    if audio.urgent.isNone && audio.informational.isNone then
      (if replacedInformation then .dropped else .ready,
        if cue.urgent then { audio with urgent := some cue }
        else { audio with informational := some cue })
    else audio.enqueue cue

def takeReady (audio : AudioAnnunciator) (nowMs : UInt32) :
    Option AuditoryCue × AudioAnnunciator :=
  if audio.silent || !timeReached nowMs audio.busyUntilMs then (none, audio)
  else match audio.urgent with
    | some cue => (some cue, { audio with urgent := none })
    | none => (audio.informational, { audio with informational := none })

def playbackAvailable (audio : AudioAnnunciator) (nowMs : UInt32) : Bool :=
  !audio.silent && audio.urgent.isNone && audio.informational.isNone
    && timeReached nowMs audio.busyUntilMs

def markManualPlayed (audio : AudioAnnunciator) (nowMs durationMs : UInt32) : AudioAnnunciator :=
  { audio with busyUntilMs := nowMs + max durationMs 1 }

end AudioAnnunciator

/-- The operational motif of a cue; its last note is held longer. -/
def cueTones (cue : AuditoryCue) : SongTones × UInt8 :=
  let notes : List UInt8 := match cue with
    | .armed => [65, 67, 71]
    | .eStop => [60, 60, 60, 60]
    | .cliff => [71, 60, 71, 60]
    | .wheelDrop => [60, 65, 60, 65]
    | .tilt => [69, 65, 62]
    | .impact => [60, 67, 60]
    | .heartbeatLost => [67, 64, 60]
    | .authorityLost => [67, 62, 60]
    | .authorityReplaced => [67, 65, 62]
    | .bumpContact => [60, 62, 60]
    | .createError => [64, 62, 60, 60]
    | .runtimeError => [64, 62, 60]
    | .serviceFailure => [65, 62, 60]
    | .lowBattery => [69, 64, 60]
    | .safetyClear => [60, 64, 67]
    | .recovery => [62, 65, 69]
    | .authorityAcquired => [60, 67, 64]
    | .dockContact => [67, 71, 62]
    | .imuFault => [71, 65, 64]
    | .serviceComplete => [62, 67, 71]
    | .dockSeen => [67, 62, 71]
    | .motionInconsistency => [64, 71, 64]
    | .none => []
  (songOfNotes (notes.mapIdx fun index note =>
      (note, if index + 1 = notes.length then 10 else 6)),
    UInt8.ofNat notes.length)

def toneDurationMs (tones : SongTones) (count : UInt8) : UInt32 :=
  max 1 ((tones.toList.take (min count 16).toNat).map
    (fun tone => tone.duration64ths.toUInt32 * 1000 / 64)).sum

def cueDurationMs (cue : AuditoryCue) : UInt32 :=
  toneDurationMs (cueTones cue).1 (cueTones cue).2

def AudioAnnunciator.markPlayed (audio : AudioAnnunciator) (cue : AuditoryCue) (nowMs : UInt32) :
    AudioAnnunciator :=
  { audio with busyUntilMs := nowMs + cueDurationMs cue }

end Netherwick.Brainstem
