import Mathlib.Data.List.Induction
import Netherwick.Brainstem.MailboxRoundTrip

/-! # The order of the mailbox's slots

Velocities wait in a slot of their own. A halt empties it and takes the command slot, which is
taken first; a second halt takes the place of one that still waits there. -/

namespace Netherwick.Brainstem

structure Submission where
  commandId : UInt32 := 0
  sessionHash : UInt32 := 0
  leaseHash : UInt32 := 0

inductive MailEvent
  | velocity (sender : Submission) (linear angular : Int16) (ttlMs seq : UInt32)
  | stop (sender : Submission)
  | eStop (sender : Submission)
  | take

def MailEvent.command : MailEvent → Option BrainstemCommand
  | .velocity _ linear angular ttlMs seq => some (.cmdVel linear angular ttlMs seq)
  | .stop _ => some .stop
  | .eStop _ => some .eStop
  | .take => none

def MailEvent.halts : MailEvent → Bool
  | .stop _ | .eStop _ => true
  | _ => false

def MailEvent.isVelocity : MailEvent → Bool
  | .velocity .. => true
  | _ => false

/-- The sequence lies behind the other by less than half of the range. -/
def olderSeq (seq latestSeq : UInt32) : Prop := seq ≠ latestSeq ∧ (latestSeq - seq).toNat < 2 ^ 31

namespace Status

def submit (st : Status) (sender : Submission) (command : BrainstemCommand) : Status :=
  (st.submitControlCommand sender.commandId command sender.sessionHash sender.leaseHash).2

def mailStep (st : Status) : MailEvent → Status
  | .velocity sender linear angular ttlMs seq => st.submit sender (.cmdVel linear angular ttlMs seq)
  | .stop sender => st.submit sender .stop
  | .eStop sender => st.submit sender .eStop
  | .take => st.takeControlCommand.2

def mailRun (st : Status) (events : List MailEvent) : Status := events.foldl mailStep st

theorem mailRun_append (st : Status) (events more : List MailEvent) :
    st.mailRun (events ++ more) = (st.mailRun events).mailRun more :=
  List.foldl_append

def nextTaken (st : Status) : Option BrainstemCommand := st.takeControlCommand.1

end Status

/-- What is asked of the mailbox at every point of a run. -/
structure OrderedMail (st : Status) (events : List MailEvent) : Prop where
  /-- A pending velocity gives way to none that is older. -/
  newer : ∀ seen sender linear angular ttlMs seq,
    seen ++ [.velocity sender linear angular ttlMs seq] <+: events →
    (st.mailRun seen).mailbox.velocityKind = .cmdVel →
    olderSeq seq (st.mailRun seen).mailbox.velocitySeq →
    (st.mailRun (seen ++ [.velocity sender linear angular ttlMs seq])).mailbox =
      (st.mailRun seen).mailbox
  halted : ∀ before halt since, before ++ halt :: since ++ [.take] <+: events →
    halt.halts = true → (∀ event ∈ since, event.isVelocity = true) →
    (st.mailRun (before ++ halt :: since)).nextTaken = halt.command
  discarded : ∀ before halt, before ++ [halt] <+: events → halt.halts = true →
    (st.mailRun (before ++ [halt])).mailbox.velocityKind = .none
  fresh : ∀ before halt since, before ++ halt :: since ++ [.take] <+: events →
    halt.halts = true → ∀ linear angular ttlMs seq,
    (st.mailRun (before ++ halt :: since)).nextTaken = some (.cmdVel linear angular ttlMs seq) →
    ∃ sender, .velocity sender linear angular ttlMs seq ∈ since

def HaltsTaken (st : Status) (events : List MailEvent) : Prop :=
  ∀ before halt since, before ++ halt :: since ++ [.take] <+: events →
    halt.halts = true → .take ∉ since →
    (st.mailRun (before ++ halt :: since)).nextTaken = halt.command

section Steps

variable {st : Status} {event halt : MailEvent} {sender : Submission} {linear angular : Int16}
  {ttlMs seq : UInt32}

theorem seqIsCurrentOrNewer_of_olderSeq {latestSeq : UInt32} (h : olderSeq seq latestSeq) :
    seqIsCurrentOrNewer seq latestSeq = false := by
  obtain ⟨hne, hbehind⟩ := h
  have hseq := seq.toNat_lt
  have hlatest := latestSeq.toNat_lt
  have hdiffer : seq.toNat ≠ latestSeq.toNat := fun heq => hne (UInt32.toNat.inj heq)
  have hhalf : (0xFFFFFFFF / 2 : UInt32).toNat = 2147483647 := by decide
  rw [UInt32.toNat_sub] at hbehind
  rw [seqIsCurrentOrNewer, Bool.or_eq_false_iff, decide_eq_false_iff_not, decide_eq_false_iff_not,
    UInt32.lt_iff_toNat_lt, UInt32.toNat_sub, hhalf]
  exact ⟨hne, by omega⟩

/-- A velocity is refused as stale, or it fills its slot; the command slot stays. -/
theorem mailStep_velocity :
    ((st.mailStep (.velocity sender linear angular ttlMs seq)).mailbox = st.mailbox ∧
      st.mailbox.velocityKind = .cmdVel) ∨
    (st.mailbox.velocityKind = .cmdVel → seqIsCurrentOrNewer seq st.mailbox.velocitySeq = true) ∧
    ∃ renewal, (st.mailStep (.velocity sender linear angular ttlMs seq)).mailbox =
      { st.mailbox with
        velocityId := sender.commandId, velocityA := encodeI16 linear, velocityB := encodeI16 angular
        velocityTtlMs := ttlMs, velocitySeq := seq, velocityIsRenewal := renewal
        velocityKind := .cmdVel } := by
  have hsubmit : st.mailStep (.velocity sender linear angular ttlMs seq) =
      (st.submitVelocity sender.commandId
        { kind := .cmdVel, a := encodeI16 linear, b := encodeI16 angular, durationMs := ttlMs }
        seq).2 := rfl
  rw [hsubmit, Status.submitVelocity]
  split
  · next hstale => exact .inl ⟨rfl, hstale.1⟩
  · next hstale =>
    refine .inr ⟨fun hpending => ?_, (st.matchingVelocityStream (encodeI16 linear)
      (encodeI16 angular)).isSome, ?_⟩
    · simpa [hpending] using hstale
    · rw [Status.interruptIfSome_mailbox]
      cases st.matchingVelocityStream (encodeI16 linear) (encodeI16 angular) <;> rfl

theorem storeCommand_slots (st : Status) (commandId : UInt32) (e : Encoded)
    (seq sessionHash leaseHash : UInt32) (replacedCommandId replacedVelocityId : Option UInt32) :
    (st.storeCommand commandId e seq sessionHash leaseHash replacedCommandId
        replacedVelocityId).mailbox.commandKind = e.kind ∧
      (st.storeCommand commandId e seq sessionHash leaseHash replacedCommandId
        replacedVelocityId).mailbox.velocityKind = st.mailbox.velocityKind := by
  rw [Status.storeCommand, Status.interruptIfSome_mailbox, Status.interruptIfSome_mailbox]
  exact ⟨rfl, rfl⟩

/-- A halt goes past what waits to the command slot, once the velocity slot is empty. -/
theorem submitCommand_halt (st : Status) (commandId : UInt32) {e : Encoded}
    (seq sessionHash leaseHash : UInt32) (h : e.kind = .stop ∨ e.kind = .eStop) :
    (st.submitCommand commandId e seq sessionHash leaseHash).2.mailbox.commandKind = e.kind ∧
      (st.submitCommand commandId e seq sessionHash leaseHash).2.mailbox.velocityKind = .none := by
  rw [Status.submitCommand, if_pos h]
  exact storeCommand_slots _ _ _ _ _ _ _ _

/-- A halt empties the velocity slot and takes the command slot, whatever waits there. -/
theorem mailStep_halt (h : halt.halts = true) :
    (st.mailStep halt).mailbox.velocityKind = .none ∧
      ((st.mailStep halt).mailbox.commandKind = .stop ∧ halt.command = some .stop ∨
        (st.mailStep halt).mailbox.commandKind = .eStop ∧ halt.command = some .eStop) := by
  cases halt with
  | stop sender =>
    have hslots := @submitCommand_halt st sender.commandId { kind := .stop } 0 sender.sessionHash
      sender.leaseHash (.inl rfl)
    exact ⟨hslots.2, .inl ⟨hslots.1, rfl⟩⟩
  | eStop sender =>
    have hslots := @submitCommand_halt st sender.commandId { kind := .eStop } 0 sender.sessionHash
      sender.leaseHash (.inr rfl)
    exact ⟨hslots.2, .inr ⟨hslots.1, rfl⟩⟩
  | velocity | take => cases h

theorem velocityKind_take (h : (st.mailStep .take).mailbox.velocityKind = .cmdVel) :
    (st.mailStep .take).mailbox = { st.mailbox with commandKind := .none } ∧
      st.mailbox.velocityKind = .cmdVel := by
  rw [Status.mailStep, Status.takeControlCommand] at h ⊢
  split at h
  · next hcommand =>
    rw [if_pos hcommand]
    exact ⟨rfl, h⟩
  · next hcommand =>
    rw [if_neg hcommand]
    split at h
    · cases h
    · contradiction

/-- A halt that nothing but velocities followed is still in the command slot. -/
theorem mailRun_commandKind {since : List MailEvent}
    (h : ∀ event ∈ since, event.isVelocity = true) :
    (st.mailRun since).mailbox.commandKind = st.mailbox.commandKind := by
  induction since using List.reverseRecOn with
  | nil => rfl
  | append_singleton since event ih =>
    have hsince := ih fun other hmem => h other (List.mem_append_left _ hmem)
    have hevent := h event (by simp)
    rw [Status.mailRun_append]
    cases event with
    | velocity sender linear angular ttlMs seq =>
      rcases @mailStep_velocity (st.mailRun since) sender linear angular ttlMs seq with
        ⟨hsame, -⟩ | ⟨-, renewal, hstored⟩
      · exact (congrArg Mailbox.commandKind hsame).trans hsince
      · exact (congrArg Mailbox.commandKind hstored).trans hsince
    | stop | eStop | take => cases hevent

/-- Whatever waits in the velocity slot was submitted since the slot was empty. -/
theorem velocity_since (hempty : st.mailbox.velocityKind = .none) (since : List MailEvent)
    (h : (st.mailRun since).mailbox.velocityKind = .cmdVel) :
    ∃ sender linear angular ttlMs seq, .velocity sender linear angular ttlMs seq ∈ since ∧
      (st.mailRun since).mailbox.velocityA = encodeI16 linear ∧
      (st.mailRun since).mailbox.velocityB = encodeI16 angular ∧
      (st.mailRun since).mailbox.velocityTtlMs = ttlMs ∧
      (st.mailRun since).mailbox.velocitySeq = seq := by
  induction since using List.reverseRecOn with
  | nil => rw [Status.mailRun, List.foldl_nil, hempty] at h; cases h
  | append_singleton since event ih =>
    have hkept : ∀ mb : Mailbox, (st.mailRun since).mailbox.velocityKind = .cmdVel →
        mb.velocityA = (st.mailRun since).mailbox.velocityA →
        mb.velocityB = (st.mailRun since).mailbox.velocityB →
        mb.velocityTtlMs = (st.mailRun since).mailbox.velocityTtlMs →
        mb.velocitySeq = (st.mailRun since).mailbox.velocitySeq →
        ∃ sender linear angular ttlMs seq,
          .velocity sender linear angular ttlMs seq ∈ since ++ [event] ∧
          mb.velocityA = encodeI16 linear ∧ mb.velocityB = encodeI16 angular ∧
          mb.velocityTtlMs = ttlMs ∧ mb.velocitySeq = seq := by
      intro mb hpending ha hb httl hseq
      obtain ⟨sender, linear, angular, ttlMs, seq, hmem, hslot⟩ := ih hpending
      refine ⟨sender, linear, angular, ttlMs, seq, List.mem_append_left _ hmem, ?_⟩
      rwa [ha, hb, httl, hseq]
    rw [Status.mailRun_append] at h ⊢
    change ((st.mailRun since).mailStep event).mailbox.velocityKind = .cmdVel at h
    change ∃ sender linear angular ttlMs seq, _ ∧
      ((st.mailRun since).mailStep event).mailbox.velocityA = _ ∧
      ((st.mailRun since).mailStep event).mailbox.velocityB = _ ∧
      ((st.mailRun since).mailStep event).mailbox.velocityTtlMs = _ ∧
      ((st.mailRun since).mailStep event).mailbox.velocitySeq = _
    cases event with
    | velocity sender linear angular ttlMs seq =>
      rcases @mailStep_velocity (st.mailRun since) sender linear angular ttlMs seq with
        ⟨hsame, hpending⟩ | ⟨-, renewal, hstored⟩
      · rw [hsame]
        exact hkept _ hpending rfl rfl rfl rfl
      · rw [hstored]
        exact ⟨sender, linear, angular, ttlMs, seq, by simp, rfl, rfl, rfl, rfl⟩
    | stop | eStop =>
      rw [(mailStep_halt rfl).1] at h
      cases h
    | take =>
      obtain ⟨hsame, hpending⟩ := velocityKind_take h
      rw [hsame]
      exact hkept _ hpending rfl rfl rfl rfl

def HaltSlot (st : Status) : Prop :=
  st.mailbox.commandKind = .none ∨ st.mailbox.commandKind = .stop ∨
    st.mailbox.commandKind = .eStop

theorem haltSlot_halt (h : halt.halts = true) : HaltSlot (st.mailStep halt) :=
  (mailStep_halt h).2.elim (fun hstop => .inr (.inl hstop.1)) (fun hstop => .inr (.inr hstop.1))

theorem HaltSlot.run (h : HaltSlot st) (since : List MailEvent) : HaltSlot (st.mailRun since) := by
  induction since using List.reverseRecOn with
  | nil => exact h
  | append_singleton since event ih =>
    rw [Status.mailRun_append]
    change HaltSlot ((st.mailRun since).mailStep event)
    cases event with
    | velocity sender linear angular ttlMs seq =>
      rw [HaltSlot, ← @mailRun_commandKind (st.mailRun since)
        [.velocity sender linear angular ttlMs seq] (by simp [MailEvent.isVelocity])] at ih
      exact ih
    | stop sender => exact @haltSlot_halt _ (.stop sender) rfl
    | eStop sender => exact @haltSlot_halt _ (.eStop sender) rfl
    | take =>
      rw [Status.mailStep, HaltSlot, Status.takeControlCommand]
      split
      · exact .inl rfl
      · next hcommand =>
        simp only [ne_eq, not_not] at hcommand
        split <;> exact .inl hcommand

theorem nextTaken_stop (h : st.mailbox.commandKind = .stop) : st.nextTaken = some .stop := by
  simp [Status.nextTaken, Status.takeControlCommand, h, decodeControlCommand]

theorem nextTaken_eStop (h : st.mailbox.commandKind = .eStop) : st.nextTaken = some .eStop := by
  simp [Status.nextTaken, Status.takeControlCommand, h, decodeControlCommand]

theorem nextTaken_cmdVel (hslot : HaltSlot st)
    (h : st.nextTaken = some (.cmdVel linear angular ttlMs seq)) :
    st.mailbox.velocityKind = .cmdVel ∧ linear = decodeI16 st.mailbox.velocityA ∧
      angular = decodeI16 st.mailbox.velocityB ∧ ttlMs = st.mailbox.velocityTtlMs ∧
      seq = st.mailbox.velocitySeq := by
  rcases hslot with hcommand | hcommand | hcommand
  · simp only [Status.nextTaken, Status.takeControlCommand, hcommand, ne_eq, not_true_eq_false,
      if_false] at h
    split at h
    · next hpending =>
      cases h
      exact ⟨hpending, rfl, rfl, rfl, rfl⟩
    · cases h
  · rw [nextTaken_stop hcommand] at h
    cases h
  · rw [nextTaken_eStop hcommand] at h
    cases h

theorem nextTaken_halt {since : List MailEvent} (h : halt.halts = true)
    (hsince : ∀ event ∈ since, event.isVelocity = true) :
    ((st.mailStep halt).mailRun since).nextTaken = halt.command := by
  have hkind := @mailRun_commandKind (st.mailStep halt) since hsince
  rcases (mailStep_halt h).2 with ⟨hslot, hcommand⟩ | ⟨hslot, hcommand⟩
  · rw [nextTaken_stop (hkind.trans hslot), hcommand]
  · rw [nextTaken_eStop (hkind.trans hslot), hcommand]

end Steps

/-- The mailbox keeps its order over every run, from any state. -/
theorem orderedMail (st : Status) (events : List MailEvent) : OrderedMail st events where
  newer := by
    intro seen sender linear angular ttlMs seq _ hpending holder
    rw [Status.mailRun_append]
    rcases @mailStep_velocity (st.mailRun seen) sender linear angular ttlMs seq with
      ⟨hsame, -⟩ | ⟨hnewer, -⟩
    · exact hsame
    · rw [seqIsCurrentOrNewer_of_olderSeq holder] at hnewer
      exact absurd (hnewer hpending) (by decide)
  halted := by
    intro before halt since _ hhalt hsince
    rw [Status.mailRun_append]
    exact nextTaken_halt hhalt hsince
  discarded := by
    intro before halt _ hhalt
    rw [Status.mailRun_append]
    exact (mailStep_halt hhalt).1
  fresh := by
    intro before halt since _ hhalt linear angular ttlMs seq htaken
    rw [Status.mailRun_append] at htaken
    obtain ⟨hpending, hlinear, hangular, httl, hseq⟩ :=
      nextTaken_cmdVel ((haltSlot_halt hhalt).run since) htaken
    obtain ⟨sender, linear', angular', ttlMs', seq', hmem, ha, hb, httl', hseq'⟩ :=
      velocity_since (mailStep_halt hhalt).1 since hpending
    rw [ha, decodeI16_encodeI16] at hlinear
    rw [hb, decodeI16_encodeI16] at hangular
    subst hlinear hangular httl' hseq' httl hseq
    exact ⟨sender, hmem⟩

/-- An emergency stop and a stop, before anything is taken. -/
def stopAfterEStop : List MailEvent := [.velocity {} 200 0 500 1, .eStop {}, .stop {}, .take]

/-- The emergency stop is never taken. -/
theorem stopAfterEStop_lost : ¬HaltsTaken {} stopAfterEStop := by
  intro h
  have htaken := h [.velocity {} 200 0 500 1] (.eStop {}) [.stop {}] (List.prefix_refl _) rfl
    (by simp)
  have hstop := @nextTaken_halt (({} : Status).mailRun [.velocity {} 200 0 500 1, .eStop {}])
    (.stop {}) [] rfl (by simp)
  rw [Status.mailRun_append] at htaken
  exact absurd (htaken.symm.trans hstop) (by simp [MailEvent.command])

end Netherwick.Brainstem
