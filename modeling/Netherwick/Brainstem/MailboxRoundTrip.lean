import Netherwick.Brainstem.Mailbox

/-! # What goes through the mailbox

The codec is inverted variant by variant; from that follow the two laws of the mailbox, that an
accepted command comes out again and that a rejected one leaves no trace, each under the exact
condition that the slots impose. -/

namespace Netherwick.Brainstem

section Fields

@[simp] theorem decodeI16_encodeI16 (value : Int16) : decodeI16 (encodeI16 value) = value := by
  simp [decodeI16, encodeI16]

@[simp] theorem decodeSafetyLatchKind_encode (kind : SafetyLatchKind) :
    decodeSafetyLatchKind (encodeSafetyLatchKind kind) = some kind := by
  cases kind <;> rfl

@[simp] theorem decodeFeedbackKind_encode (kind : FeedbackKind) :
    decodeFeedbackKind (encodeFeedbackKind kind) = some kind := by
  cases kind <;> rfl

@[simp] theorem decodePowerRequest_encode (request : PowerStateRequest) :
    decodePowerRequest (encodePowerRequest request) = some request := by
  cases request <;> rfl

@[simp] theorem decodeOiMode_encode (mode : CreateOiMode) :
    decodeOiMode (encodeOiMode mode) = some mode := by
  cases mode <;> rfl

private theorem high_byte (note duration : UInt8) :
    ((note.toUInt32 <<< 8 ||| duration.toUInt32) >>> 8).toUInt8 = note := by
  apply UInt8.toNat.inj
  have hn := note.toNat_lt
  have hd := duration.toNat_lt
  have hshift : (note.toNat <<< 8 ||| duration.toNat) >>> 8 = note.toNat := by
    rw [Nat.shiftRight_or_distrib, Nat.shiftLeft_shiftRight, Nat.shiftRight_eq_div_pow,
      Nat.div_eq_of_lt (by simpa using hd), Nat.or_zero]
  have hfit : note.toNat <<< 8 < 4294967296 := by
    rw [Nat.shiftLeft_eq]
    omega
  simp [Nat.mod_eq_of_lt hfit, hshift, Nat.mod_eq_of_lt hn]

private theorem low_byte (note duration : UInt8) :
    (note.toUInt32 <<< 8 ||| duration.toUInt32).toUInt8 = duration := by
  apply UInt8.toNat.inj
  apply Nat.eq_of_testBit_eq
  intro i
  by_cases hi : i < 8
  · simp [Nat.testBit_mod_two_pow _ 8, hi]
  · have hd : duration.toNat.testBit i = false :=
      Nat.testBit_lt_two_pow (lt_of_lt_of_le duration.toNat_lt
        (Nat.pow_le_pow_right (by decide) (not_lt.mp hi)))
    simp [Nat.testBit_mod_two_pow _ 8, hi, hd]

@[simp] theorem unpackSongTone_pack (tone : SongTone) : unpackSongTone (packSongTone tone) = tone := by
  simp only [unpackSongTone, packSongTone, high_byte, low_byte]

theorem clampToneCount_of_le {count : UInt8} (h : count ≤ 16) : clampToneCount count = count := by
  exact if_pos h

theorem clampToneCount_le (count : UInt8) : clampToneCount count ≤ 16 := by
  change (if count ≤ 16 then count else 16) ≤ 16
  split_ifs with h
  · exact h
  · decide

@[simp] theorem clampToneCount_clamp (count : UInt8) :
    clampToneCount (clampToneCount count) = clampToneCount count :=
  clampToneCount_of_le (clampToneCount_le count)

/-- Only the first `count` tones of a song are meant. -/
def truncateTones (tones : SongTones) (count : UInt8) : SongTones :=
  Vector.ofFn fun i => if i.val < count.toNat then tones.get i else {}

theorem loadPendingSongTones_store (tones : SongTones) (count : UInt8) :
    loadPendingSongTones (storePendingSongTones tones count) count = truncateTones tones count := by
  apply Vector.ext
  intro i hi
  by_cases h : i < count.toNat
  · simp [loadPendingSongTones, storePendingSongTones, truncateTones, h]
    rfl
  · simp [loadPendingSongTones, truncateTones, h]

theorem songTones_returned_iff (tones : SongTones) (count : UInt8) :
    (loadPendingSongTones (storePendingSongTones tones (clampToneCount count))
        (clampToneCount count) = truncateTones tones count ∧ clampToneCount count = count) ↔
      count ≤ 16 := by
  constructor
  · rintro ⟨-, hcount⟩
    exact hcount ▸ clampToneCount_le count
  · intro h
    rw [clampToneCount_of_le h]
    exact ⟨loadPendingSongTones_store tones count, rfl⟩

end Fields

section RoundTrip

def normaliseTones : BrainstemCommand → BrainstemCommand
  | .songDefine id tones count seq => .songDefine id (truncateTones tones count) count seq
  | .defineChirp kind tones count seq => .defineChirp kind (truncateTones tones count) count seq
  | command => command

/-- The slots cannot carry a zero duration, an oversized song, the verb without a decoder, and the
service identity of a velocity. -/
def survivesMailbox (serviceSessionHash serviceLeaseHash : UInt32) : BrainstemCommand → Bool
  | .resetMotherbrain => false
  | .cmdVel .. => serviceSessionHash = 0 && serviceLeaseHash = 0
  | .driveDirect _ _ ttlMs _ | .driveArc _ _ ttlMs _ | .carefulMode ttlMs _
  | .escapeMotion _ _ _ _ ttlMs _ => ttlMs != 0
  | .heartbeatStop timeoutMs _ => timeoutMs != 0
  | .streamSensors _ _ periodMs _ => periodMs != 0
  | .calibrateTurn _ durationMs _ | .orientationProbe _ durationMs _ => durationMs != 0
  | .songDefine _ _ count _ | .defineChirp _ _ count _ => count ≤ 16
  | _ => true

/-- A duration of zero cannot be told from an absent one. -/
def storedDuration (durationMs : Option UInt32) : Option UInt32 :=
  if durationMs.getD 0 = 0 then none else some (durationMs.getD 0)

/-- What the command slot gives back for a command that was put there. -/
def returnedCommand (songTones : Vector UInt32 maxSongTones) (command : BrainstemCommand)
    (e : Encoded) : Option BrainstemCommand :=
  decodeControlCommand ((songTonesStored command).getD songTones) e.kind e.a e.b e.c e.d
    (storedDuration e.durationMs) (commandSeq command)

theorem storedDuration_eq_self_iff (durationMs : UInt32) :
    storedDuration (some durationMs) = some durationMs ↔ durationMs ≠ 0 := by
  unfold storedDuration
  split_ifs with h
  · simpa using h
  · simpa using h

theorem returnedCommand_eq_iff {songTones : Vector UInt32 maxSongTones}
    {command : BrainstemCommand} {e : Encoded} (sessionHash leaseHash : UInt32)
    (he : encodeControlCommand command = some e)
    (hquery : Status.isReadOnlyQuery command = false) (hkind : e.kind ≠ .cmdVel) :
    returnedCommand songTones command e = some (normaliseTones command) ↔
      survivesMailbox sessionHash leaseHash command = true := by
  cases command with
  | songDefine id tones count seq =>
    cases he
    simpa [returnedCommand, decodeControlCommand, songTonesStored, commandSeq, normaliseTones,
      survivesMailbox] using songTones_returned_iff tones count
  | defineChirp kind tones count seq =>
    cases he
    simpa [returnedCommand, decodeControlCommand, songTonesStored, commandSeq, normaliseTones,
      survivesMailbox] using songTones_returned_iff tones count
  | cmdVel => cases he; exact absurd rfl hkind
  | bootsel => cases he
  | unsupported => cases he
  | status | ping | getEvents | getCapabilities => cases hquery
  | streamSensors enabled =>
    cases he
    cases enabled <;>
      simp [returnedCommand, decodeControlCommand, commandSeq, normaliseTones, survivesMailbox,
        storedDuration_eq_self_iff]
  | setAudioSilent silent =>
    cases he
    cases silent <;>
      simp [returnedCommand, decodeControlCommand, commandSeq, normaliseTones, survivesMailbox]
  | _ =>
    cases he
    simp [returnedCommand, decodeControlCommand, commandSeq, normaliseTones, survivesMailbox,
      storedDuration_eq_self_iff]

end RoundTrip

namespace Status

@[simp] theorem recordPublicEvent_mailbox (st : Status) (kind : PublicEventKind) (a b c : UInt32) :
    (st.recordPublicEvent kind a b c).mailbox = st.mailbox := rfl

@[simp] theorem observe_mailbox (st : Status) (o : Obs) : (st.observe o).mailbox = st.mailbox := rfl

@[simp] theorem recordPublicEvent_dispatched (st : Status) (kind : PublicEventKind)
    (a b c : UInt32) : (st.recordPublicEvent kind a b c).dispatched = st.dispatched := rfl

@[simp] theorem interruptIfSome_mailbox (id : Option UInt32) (st : Status) :
    (interruptIfSome id st).mailbox = st.mailbox := by
  cases id <;> rfl

theorem takeControlCommand_storeCommand (st : Status) (commandId : UInt32) (e : Encoded)
    (seq sessionHash leaseHash : UInt32) (replaced replacedVelocity : Option UInt32)
    (hkind : e.kind ≠ .none) :
    let taken := (st.storeCommand commandId e seq sessionHash leaseHash replaced
      replacedVelocity).takeControlCommand
    taken.1 = decodeControlCommand st.mailbox.songTones e.kind e.a e.b e.c e.d
        (storedDuration e.durationMs) seq ∧
      taken.2.dispatched = ⟨commandId, sessionHash, leaseHash⟩ := by
  simp [storeCommand, takeControlCommand, hkind, storedDuration]

theorem submitControlCommand_ok {st st' : Status} {commandId sessionHash leaseHash : UInt32}
    {command : BrainstemCommand} (hquery : isReadOnlyQuery command = false)
    (h : st.submitControlCommand commandId command sessionHash leaseHash = (.ok (), st')) :
    st.submitEncoded commandId command sessionHash leaseHash = (.ok (), st') := by
  cases command with
  | status | ping | getEvents | getCapabilities => cases hquery
  | unsupported => cases h
  | escapeMotion =>
    rw [submitControlCommand_escapeMotion] at h
    split at h
    · cases h
    · exact h
  | _ => exact h

theorem encodeControlCommand_cmdVel {command : BrainstemCommand} {e : Encoded}
    (he : encodeControlCommand command = some e) (hkind : e.kind = .cmdVel) :
    ∃ linear angular ttlMs seq, command = .cmdVel linear angular ttlMs seq := by
  cases command with
  | cmdVel linear angular ttlMs seq => exact ⟨linear, angular, ttlMs, seq, rfl⟩
  | _ => cases he <;> simp at hkind

/-- Encoding first fills the song buffer, whatever becomes of the command. -/
def withSongTones (st : Status) (command : BrainstemCommand) : Status :=
  { st with mailbox := { st.mailbox with
      songTones := (songTonesStored command).getD st.mailbox.songTones } }

theorem submitEncoded_eq (st : Status) (commandId sessionHash leaseHash : UInt32)
    (command : BrainstemCommand) :
    st.submitEncoded commandId command sessionHash leaseHash =
      match encodeControlCommand command with
      | none => (st.withSongTones command).rejectControlCommand commandId (commandSeq command)
          .none .unsupported
      | some e =>
        if e.kind = .cmdVel then
          (st.withSongTones command).submitVelocity commandId e (commandSeq command)
        else (st.withSongTones command).submitCommand commandId e (commandSeq command)
          sessionHash leaseHash := by
  unfold submitEncoded withSongTones
  cases songTonesStored command <;> rfl

theorem submitCommand_empty {st : Status} (hempty : st.mailbox.commandKind = .none)
    (commandId : UInt32) (e : Encoded) (seq sessionHash leaseHash : UInt32) :
    ∃ (st₀ : Status) (replaced : Option UInt32 × Option UInt32),
      st₀.mailbox.songTones = st.mailbox.songTones ∧
      st.submitCommand commandId e seq sessionHash leaseHash =
        (.ok (), storeCommand st₀ commandId e seq sessionHash leaseHash replaced.1 replaced.2) := by
  unfold submitCommand
  by_cases hstop : e.kind = .stop ∨ e.kind = .eStop
  · rw [if_pos hstop]
    exact ⟨(st.preemptPendingCommandsForSafety commandId).2,
      (st.preemptPendingCommandsForSafety commandId).1, rfl, rfl⟩
  · rw [if_neg hstop]
    refine ⟨st, (none, none), rfl, ?_⟩
    simp [hempty]

theorem takeControlCommand_submitVelocity {st st' : Status} (hempty : st.mailbox.isEmpty = true)
    {commandId seq : UInt32} {e : Encoded}
    (h : st.submitVelocity commandId e seq = (.ok (), st')) :
    st'.takeControlCommand.1 =
        some (.cmdVel (decodeI16 e.a) (decodeI16 e.b) (e.durationMs.getD 0) seq) ∧
      st'.takeControlCommand.2.dispatched = ⟨commandId, 0, 0⟩ := by
  simp only [Mailbox.isEmpty, Bool.and_eq_true, decide_eq_true_eq, ne_eq] at hempty
  obtain ⟨hcommand, hvelocity⟩ := hempty
  simp only [submitVelocity, hvelocity, false_and, if_false] at h
  cases h
  cases st.matchingVelocityStream e.a e.b <;>
    simp [takeControlCommand, hcommand]

/-- A command accepted into an empty mailbox is the next one taken, with the identity it was
submitted with, exactly when the slots can carry it. -/
theorem accepted_taken_iff {st st' : Status} {commandId sessionHash leaseHash : UInt32}
    {command : BrainstemCommand} (hempty : st.mailbox.isEmpty = true)
    (hquery : isReadOnlyQuery command = false)
    (haccept : st.submitControlCommand commandId command sessionHash leaseHash = (.ok (), st')) :
    (st'.takeControlCommand.1 = some (normaliseTones command) ∧
        st'.takeControlCommand.2.dispatched = ⟨commandId, sessionHash, leaseHash⟩) ↔
      survivesMailbox sessionHash leaseHash command = true := by
  have hsub := submitControlCommand_ok hquery haccept
  have hcommand : (st.withSongTones command).mailbox.commandKind = .none := by
    simp only [Mailbox.isEmpty, Bool.and_eq_true, decide_eq_true_eq] at hempty
    exact hempty.1
  rw [submitEncoded_eq] at hsub
  rcases he : encodeControlCommand command with _ | e
  · simp [he, rejectControlCommand] at hsub
  simp only [he] at hsub
  by_cases hkind : e.kind = .cmdVel
  · rw [if_pos hkind] at hsub
    obtain ⟨linear, angular, ttlMs, seq, rfl⟩ := encodeControlCommand_cmdVel he hkind
    cases he
    have hslot : (st.withSongTones (.cmdVel linear angular ttlMs seq)).mailbox.isEmpty = true :=
      hempty
    obtain ⟨htaken, hident⟩ := takeControlCommand_submitVelocity hslot hsub
    rw [htaken, hident]
    simp [normaliseTones, survivesMailbox, commandSeq, @eq_comm UInt32 0]
  · rw [if_neg hkind] at hsub
    obtain ⟨st₀, replaced, htones, hstore⟩ := submitCommand_empty hcommand commandId e
      (commandSeq command) sessionHash leaseHash
    rw [hstore] at hsub
    cases hsub
    obtain ⟨htaken, hident⟩ := takeControlCommand_storeCommand st₀ commandId e
      (commandSeq command) sessionHash leaseHash replaced.1 replaced.2
      (encodeControlCommand_kind_ne_none he)
    rw [htaken, hident, htones]
    rw [and_iff_left rfl]
    exact returnedCommand_eq_iff sessionHash leaseHash he hquery hkind

/-- A wheel command with a duration goes through. -/
theorem driveDirect_taken :
    let st' := (Status.submitControlCommand {} 7 (.driveDirect 100 90 500 3) 0 0).2
    st'.takeControlCommand.1 = some (.driveDirect 100 90 500 3) ∧
      st'.takeControlCommand.2.dispatched = ⟨7, 0, 0⟩ :=
  (@accepted_taken_iff {} _ 7 0 0 (.driveDirect 100 90 500 3) (by decide) (by decide) rfl).mpr
    (by decide)

/-- The reset verb is accepted and then decodes to nothing. -/
theorem resetMotherbrain_lost :
    ¬ ∀ (st st' : Status) (commandId sessionHash leaseHash : UInt32) (command : BrainstemCommand),
      st.mailbox.isEmpty = true → isReadOnlyQuery command = false →
        st.submitControlCommand commandId command sessionHash leaseHash = (.ok (), st') →
          st'.takeControlCommand.1 = some (normaliseTones command) ∧
            st'.takeControlCommand.2.dispatched = ⟨commandId, sessionHash, leaseHash⟩ := by
  intro h
  have hlost := (h {} _ 1 2 3 .resetMotherbrain (by decide) (by decide) rfl).1
  cases hlost

section Rejection

/-- The answers of the next `n` calls of `take_control_command`, each with the identity it
publishes. -/
def takes : Nat → Status → List (Option BrainstemCommand × Dispatched)
  | 0, _ => []
  | n + 1, st =>
    (st.takeControlCommand.1, st.takeControlCommand.2.dispatched) ::
      takes n st.takeControlCommand.2

/-- The tones that the waiting command would load from a song buffer, if it loads any. -/
def pendingTones (mb : Mailbox) (songTones : Vector UInt32 maxSongTones) : Option SongTones :=
  let tones := loadPendingSongTones songTones (clampToneCount mb.commandB.toUInt8)
  match mb.commandKind with
  | .songDefine => some tones
  | .defineChirp => (decodeFeedbackKind mb.commandA.toUInt8).map fun _ => tones
  | _ => none

/-- Would submitting this command change what a waiting song or chirp is made of? -/
def overwritesPendingTones (mb : Mailbox) (command : BrainstemCommand) : Bool :=
  (songTonesStored command).any fun stored =>
    pendingTones mb stored ≠ pendingTones mb mb.songTones

/-- Two statuses that the taker can tell apart by the song buffer only. -/
structure SameSlots (st st' : Status) : Prop where
  mailbox : st'.mailbox = { st.mailbox with songTones := st'.mailbox.songTones }
  dispatched : st'.dispatched = st.dispatched

theorem takeControlCommand_snd (st : Status) :
    st.takeControlCommand.2 =
      if st.mailbox.commandKind ≠ .none then
        { st with
          mailbox := { st.mailbox with commandKind := .none }
          dispatched := ⟨st.mailbox.commandId, st.mailbox.commandServiceSessionHash,
            st.mailbox.commandServiceLeaseHash⟩ }
      else if st.mailbox.velocityKind = .cmdVel then
        { st with
          mailbox := { st.mailbox with velocityKind := .none, velocityIsRenewal := false }
          dispatched := ⟨st.mailbox.velocityId, 0, 0⟩ }
      else st := by
  unfold takeControlCommand
  by_cases hcommand : st.mailbox.commandKind ≠ .none
  · simp only [if_pos hcommand]
  · simp only [if_neg hcommand]
    split_ifs <;> rfl

theorem SameSlots.take {st st' : Status} (h : SameSlots st st') :
    SameSlots st.takeControlCommand.2 st'.takeControlCommand.2 := by
  rw [takeControlCommand_snd, takeControlCommand_snd, h.mailbox]
  by_cases hcommand : st.mailbox.commandKind ≠ .none
  · simp only [if_pos hcommand]
    exact ⟨rfl, rfl⟩
  · simp only [if_neg hcommand]
    split_ifs
    · exact ⟨rfl, rfl⟩
    · exact h

theorem SameSlots.taken_eq {st st' : Status} (h : SameSlots st st')
    (hnone : st.mailbox.commandKind = .none) :
    st'.takeControlCommand.1 = st.takeControlCommand.1 := by
  have hnone' : st'.mailbox.commandKind = .none := by rw [h.mailbox]; exact hnone
  simp only [takeControlCommand, hnone, hnone', ne_eq, not_true_eq_false, if_false]
  rw [h.mailbox]
  split_ifs <;> rfl

theorem takeControlCommand_commandKind (st : Status) :
    st.takeControlCommand.2.mailbox.commandKind = .none := by
  rw [takeControlCommand_snd]
  split_ifs with hcommand
  · rfl
  · exact not_not.mp hcommand
  · exact not_not.mp hcommand

theorem SameSlots.takes_eq {st st' : Status} (h : SameSlots st st')
    (hnone : st.mailbox.commandKind = .none) (n : Nat) : takes n st' = takes n st := by
  induction n generalizing st st' with
  | zero => rfl
  | succ n ih =>
    rw [takes, takes, h.taken_eq hnone, h.take.dispatched,
      ih h.take (takeControlCommand_commandKind st)]

theorem decodeControlCommand_eq_iff (mb : Mailbox) (songTones : Vector UInt32 maxSongTones)
    (durationMs : Option UInt32) (seq : UInt32) :
    decodeControlCommand songTones mb.commandKind mb.commandA mb.commandB mb.commandC mb.commandD
        durationMs seq =
      decodeControlCommand mb.songTones mb.commandKind mb.commandA mb.commandB mb.commandC
        mb.commandD durationMs seq ↔
    pendingTones mb songTones = pendingTones mb mb.songTones := by
  unfold pendingTones
  cases hkind : mb.commandKind with
  | songDefine => simp [decodeControlCommand]
  | defineChirp =>
    cases hfeedback : decodeFeedbackKind mb.commandA.toUInt8 with
    | none => simp [decodeControlCommand, hfeedback]
    | some kind => simp [decodeControlCommand, hfeedback]
  | _ => simp [decodeControlCommand]

theorem SameSlots.takes_eq_iff {st st' : Status} (h : SameSlots st st') :
    (∀ n, takes n st' = takes n st) ↔
      pendingTones st.mailbox st'.mailbox.songTones =
        pendingTones st.mailbox st.mailbox.songTones := by
  by_cases hkind : st.mailbox.commandKind = .none
  · have htones (songTones) : pendingTones st.mailbox songTones = none := by
      simp [pendingTones, hkind]
    exact iff_of_true (h.takes_eq hkind) (by rw [htones, htones])
  have htaken : st'.takeControlCommand.1 = st.takeControlCommand.1 ↔
      pendingTones st.mailbox st'.mailbox.songTones =
        pendingTones st.mailbox st.mailbox.songTones := by
    have hkind' : st'.mailbox.commandKind ≠ .none := by rw [h.mailbox]; exact hkind
    simp only [takeControlCommand, if_pos hkind, if_pos hkind', ne_eq]
    rw [h.mailbox]
    exact decodeControlCommand_eq_iff st.mailbox _ _ _
  rw [← htaken]
  constructor
  · intro htakes
    have hone := htakes 1
    simp only [takes, List.cons.injEq, Prod.mk.injEq] at hone
    exact hone.1.1
  · intro heq n
    cases n with
    | zero => rfl
    | succ n =>
      rw [takes, takes, heq, h.take.dispatched,
        h.take.takes_eq (takeControlCommand_commandKind st)]

theorem submitVelocity_rejected {st st' : Status} {commandId seq : UInt32} {e : Encoded}
    {reason : CommandRejectReason}
    (h : st.submitVelocity commandId e seq = (.error reason, st')) :
    st'.mailbox = st.mailbox ∧ st'.dispatched = st.dispatched := by
  unfold submitVelocity at h
  simp only at h
  split_ifs at h
  · cases h
    exact ⟨rfl, rfl⟩
  · simp at h
  · simp at h

theorem submitCommand_rejected {st st' : Status} {commandId seq sessionHash leaseHash : UInt32}
    {e : Encoded} {reason : CommandRejectReason}
    (h : st.submitCommand commandId e seq sessionHash leaseHash = (.error reason, st')) :
    st'.mailbox = st.mailbox ∧ st'.dispatched = st.dispatched := by
  unfold submitCommand at h
  simp only at h
  split_ifs at h
  · simp at h
  · cases h
    exact ⟨rfl, rfl⟩
  · simp at h
  · simp at h

theorem submitEncoded_rejected {st st' : Status} {commandId sessionHash leaseHash : UInt32}
    {command : BrainstemCommand} {reason : CommandRejectReason}
    (h : st.submitEncoded commandId command sessionHash leaseHash = (.error reason, st')) :
    st'.mailbox = (st.withSongTones command).mailbox ∧ st'.dispatched = st.dispatched := by
  rw [submitEncoded_eq] at h
  rcases he : encodeControlCommand command with _ | e
  · simp only [he] at h
    cases h
    exact ⟨rfl, rfl⟩
  simp only [he] at h
  by_cases hkind : e.kind = .cmdVel
  · rw [if_pos hkind] at h
    exact submitVelocity_rejected h
  · rw [if_neg hkind] at h
    exact submitCommand_rejected h

theorem submitControlCommand_rejected {st st' : Status}
    {commandId sessionHash leaseHash : UInt32} {command : BrainstemCommand}
    {reason : CommandRejectReason}
    (h : st.submitControlCommand commandId command sessionHash leaseHash = (.error reason, st')) :
    st'.mailbox = (st.withSongTones command).mailbox ∧ st'.dispatched = st.dispatched := by
  cases command with
  | unsupported => cases h; exact ⟨rfl, rfl⟩
  | status | ping | getEvents | getCapabilities => cases h
  | escapeMotion =>
    rw [submitControlCommand_escapeMotion] at h
    split at h
    · cases h
      exact ⟨rfl, rfl⟩
    · exact submitEncoded_rejected h
  | _ => exact @submitEncoded_rejected st st' commandId sessionHash leaseHash _ reason h

/-- A rejected submission is invisible to every later sequence of takes exactly when it does not
change the tones of a song or chirp that still waits. -/
theorem rejected_invisible_iff {st st' : Status} {commandId sessionHash leaseHash : UInt32}
    {command : BrainstemCommand} {reason : CommandRejectReason}
    (hreject : st.submitControlCommand commandId command sessionHash leaseHash =
      (.error reason, st')) :
    (∀ n, takes n st' = takes n st) ↔ overwritesPendingTones st.mailbox command = false := by
  obtain ⟨hmailbox, hdispatched⟩ := submitControlCommand_rejected hreject
  have hsame : SameSlots st st' := ⟨by rw [hmailbox]; rfl, hdispatched⟩
  rw [hsame.takes_eq_iff, hmailbox]
  unfold overwritesPendingTones withSongTones
  cases songTonesStored command with
  | none => simp
  | some stored => simp

/-- A second velocity that is older than the pending one leaves no trace. -/
theorem staleVelocity_invisible :
    let st := (Status.submitControlCommand {} 1 (.cmdVel 100 0 500 5) 0 0).2
    ∀ n, takes n (st.submitControlCommand 2 (.cmdVel 50 0 500 4) 0 0).2 = takes n st :=
  (@rejected_invisible_iff _ _ 2 0 0 (.cmdVel 50 0 500 4) .staleSequence rfl).mpr (by decide)

def songOf (note : UInt8) : SongTones := Vector.replicate maxSongTones ⟨note, 16⟩

/-- Two clients define a song; the one that is told `Busy` replaces the other's tones. -/
theorem busySong_overwrites :
    ¬ ∀ (st st' : Status) (commandId sessionHash leaseHash : UInt32) (command : BrainstemCommand)
        (reason : CommandRejectReason),
      st.submitControlCommand commandId command sessionHash leaseHash = (.error reason, st') →
        ∀ n, takes n st' = takes n st := by
  intro h
  have hpending := h (Status.submitControlCommand {} 1 (.songDefine 0 (songOf 60) 2 1) 0 0).2 _
    2 0 0 (.songDefine 1 (songOf 72) 2 1) .busy rfl 1
  revert hpending
  decide

end Rejection

end Status

end Netherwick.Brainstem
