import Netherwick.Brainstem.Refinement.Quiet

/-! # What the ingress lane leaves behind

A submission changes the mailbox and the trace only. It fills a slot under the id that it mails, and
an id that loses its slot is recorded as interrupted. -/

namespace Netherwick.Brainstem

open Netherwick.Lib

/-- Entries that the ingress lane leaves. -/
def Obs.posted : Obs → Bool
  | event _ kind _ _ _ => !kind.hazard
  | mailed _ => true
  | _ => false

namespace Mailbox

/-- The id is in a slot. -/
def Holds (mb : Mailbox) (id : UInt32) : Prop :=
  (mb.commandKind ≠ .none ∧ mb.commandId = id) ∨ (mb.velocityKind = .cmdVel ∧ mb.velocityId = id)

/-- How often the id waits in a slot; a renewal has had its record. -/
def pending (mb : Mailbox) (id : UInt32) : Nat :=
  (if mb.commandKind ≠ .none ∧ mb.commandId = id then 1 else 0) +
    if mb.velocityKind = .cmdVel ∧ mb.velocityIsRenewal = false ∧ mb.velocityId = id then 1 else 0

end Mailbox

/-- The ids mailed and the ids that lose their slots account for the change of the mailbox, as long
as no id is mailed that waits already. -/
structure Delivers (mb mb' : Mailbox) (recent : List Obs) : Prop where
  posted : ∀ o ∈ recent, o.posted = true
  known : ∀ id, mb'.Holds id → mb.Holds id ∨ .mailed id ∈ recent
  settled : (∀ id, mb.pending id ≤ 1) → (∀ id, .mailed id ∈ recent → ¬ mb.Holds id) →
    ∀ id, mb'.pending id + recent.countP (Obs.ends id) = mb.pending id + recent.count (.mailed id)

namespace Status

/-- The ingress lane has posted something. -/
structure Posts (st st' : Status) : Prop where
  hazardGeneration : st'.hazardGeneration = st.hazardGeneration
  numbered : st.Numbered → st'.Numbered
  delivers : ∃ recent, Delivers st.mailbox st'.mailbox recent ∧ st'.log = recent ++ st.log

section Posts

variable {st st' : Status}

theorem Posts.same (hframe : st'.frame = st.frame) (hlog : st'.log = st.log) : Posts st st' := by
  have hcells : st'.cells = st.cells := congrArg Prod.fst hframe
  have hmailbox : st'.mailbox = st.mailbox := congrArg Prod.fst hcells
  refine ⟨congrArg Prod.snd hcells, fun h => ?_, [], ⟨by simp, fun id h => .inl ?_, ?_⟩, hlog⟩
  · rwa [Numbered, show st'.eventNextSeq = _ from congrArg Prod.snd hframe]
  · rwa [← hmailbox]
  · intro _ _ id
    rw [hmailbox]
    rfl

theorem recordPublicEvent_posts (st : Status) {kind : PublicEventKind}
    (h : (kind.terminal || kind.hazard) = false) (a b c : UInt32) :
    Posts st (st.recordPublicEvent kind a b c) := by
  obtain ⟨hterminal, hhazard⟩ := Bool.or_eq_false_iff.mp h
  refine ⟨rfl, fun _ => nextSeq_ne_zero _, [_], ⟨?_, fun _ => .inl, fun _ _ id => ?_⟩, rfl⟩
  · simp [Obs.posted, hhazard]
  · rw [List.countP_singleton, List.count_singleton, Obs.ends, hterminal]
    rfl

theorem reject_posts (st : Status) (commandId seq : UInt32) (kind : ControlCommandCode)
    (reason : CommandRejectReason) :
    Posts st (st.rejectControlCommand commandId seq kind reason).2 :=
  st.recordPublicEvent_posts rfl _ _ _

/-- The records of an id that lost its slot. -/
def interruption (seq : UInt32) : Option UInt32 → List Obs
  | some id => [.event seq .commandInterrupted id 0 0]
  | none => []

theorem interruption_ends (seq id : UInt32) (lost : Option UInt32) :
    (interruption seq lost).countP (Obs.ends id) = if lost = some id then 1 else 0 := by
  cases lost with
  | none => simp [interruption]
  | some lost =>
    simp only [interruption, List.countP_singleton, Obs.ends, PublicEventKind.terminal,
      Bool.true_and, decide_eq_true_eq, Option.some.injEq]

theorem interruption_posted (seq : UInt32) (lost : Option UInt32) :
    ∀ o ∈ interruption seq lost, o.posted = true ∧ ∀ id, o ≠ .mailed id := by
  cases lost <;> simp [interruption, Obs.posted, PublicEventKind.hazard]

theorem interruptIfSome_eq (lost : Option UInt32) (st : Status) :
    (interruptIfSome lost st).cells = st.cells ∧
      (st.Numbered → (interruptIfSome lost st).Numbered) ∧
        (interruptIfSome lost st).log = interruption st.eventNextSeq lost ++ st.log := by
  cases lost with
  | none => exact ⟨rfl, id, rfl⟩
  | some lost => exact ⟨rfl, fun _ => nextSeq_ne_zero _, rfl⟩

theorem Posts.filled {commandId seq : UInt32} {kind : PublicEventKind} {b c : UInt32}
    {lost : List Obs} (hhazard : kind.hazard = false)
    (hcells : st'.hazardGeneration = st.hazardGeneration) (hnumbered : st.Numbered → st'.Numbered)
    (hlost : ∀ o ∈ lost, o.posted = true ∧ ∀ id, o ≠ .mailed id)
    (hlog : st'.log = lost ++ .event seq kind commandId b c :: .mailed commandId :: st.log)
    (hknown : ∀ id, st'.mailbox.Holds id → st.mailbox.Holds id ∨ id = commandId)
    (hsettled : (∀ id, st.mailbox.pending id ≤ 1) → ¬ st.mailbox.Holds commandId → ∀ id,
      st'.mailbox.pending id + lost.countP (Obs.ends id) +
          (if kind.terminal = true ∧ commandId = id then 1 else 0) =
        st.mailbox.pending id + if commandId = id then 1 else 0) : Posts st st' := by
  refine ⟨hcells, hnumbered, lost ++ [Obs.event seq kind commandId b c, Obs.mailed commandId],
    ⟨fun o ho => ?_, fun id h => ?_, fun hone hfresh id => ?_⟩, by rw [hlog, List.append_assoc]; rfl⟩
  · rcases List.mem_append.mp ho with ho | ho
    · exact (hlost o ho).1
    · rcases List.mem_cons.mp ho with rfl | ho
      · simp [Obs.posted, hhazard]
      · rw [List.mem_singleton.mp ho]
        rfl
  · exact (hknown id h).imp_right fun h => List.mem_append_right _ (by simp [h])
  · have hcount := hsettled hone (hfresh commandId (List.mem_append_right _ (by simp))) id
    have hmailed : lost.count (.mailed id) = 0 :=
      List.count_eq_zero.mpr fun h => (hlost _ h).2 id rfl
    rw [List.countP_append, List.count_append, hmailed, List.countP_cons, List.countP_singleton,
      List.count_cons, List.count_singleton, Obs.ends]
    simpa [Obs.ends, Nat.add_assoc] using hcount

/-- The slots that a velocity leaves behind. -/
def velocityStored (mb : Mailbox) (commandId : UInt32) (e : Encoded) (seq : UInt32)
    (renews : Bool) : Mailbox :=
  { mb with
    velocityId := commandId, velocityA := e.a, velocityB := e.b
    velocityTtlMs := e.durationMs.getD 0, velocitySeq := seq
    velocityIsRenewal := renews, velocityKind := .cmdVel }

theorem velocityStored_settled {mb : Mailbox} {commandId : UInt32} {e : Encoded} {seq : UInt32}
    {renews : Bool} (h : ¬ mb.Holds commandId) (id : UInt32) :
    (velocityStored mb commandId e seq renews).pending id +
        (if (if mb.velocityKind = .cmdVel ∧ mb.velocityId ≠ commandId ∧ !mb.velocityIsRenewal then
          some mb.velocityId else none) = some id then 1 else 0) +
        (if renews = true ∧ commandId = id then 1 else 0) =
      mb.pending id + if commandId = id then 1 else 0 := by
  obtain ⟨-, hvelocity⟩ := not_or.mp h
  unfold Mailbox.pending velocityStored
  by_cases hsame : commandId = id
  · subst hsame
    cases renews <;> by_cases hpending : mb.velocityKind = .cmdVel <;> simp_all
  · cases renews <;> by_cases hpending : mb.velocityKind = .cmdVel <;>
      cases hrenewal : mb.velocityIsRenewal <;> simp_all

theorem velocityStored_posts (st : Status) {commandId : UInt32} {e : Encoded} {seq b c : UInt32}
    {renews : Bool} {kind : PublicEventKind} (hterminal : kind.terminal = renews)
    (hhazard : kind.hazard = false) :
    Posts st (interruptIfSome (if st.mailbox.velocityKind = .cmdVel ∧
        st.mailbox.velocityId ≠ commandId ∧ !st.mailbox.velocityIsRenewal then
          some st.mailbox.velocityId else none)
      (recordPublicEvent (Status.observe
        { st with mailbox := velocityStored st.mailbox commandId e seq renews }
        (.mailed commandId)) kind commandId b c)) := by
  generalize hlost : (if st.mailbox.velocityKind = .cmdVel ∧ st.mailbox.velocityId ≠ commandId ∧
    !st.mailbox.velocityIsRenewal then some st.mailbox.velocityId else none) = lost
  set recorded := recordPublicEvent (Status.observe
    { st with mailbox := velocityStored st.mailbox commandId e seq renews }
    (.mailed commandId)) kind commandId b c
  obtain ⟨hcells, hnumbered, hlog⟩ := interruptIfSome_eq lost recorded
  have hmailbox : (interruptIfSome lost recorded).mailbox =
      velocityStored st.mailbox commandId e seq renews := congrArg Prod.fst hcells
  refine .filled hhazard (congrArg Prod.snd hcells) (fun _ => hnumbered (nextSeq_ne_zero _))
    (interruption_posted _ lost) hlog (fun id h => ?_) fun _ hfresh id => ?_
  · rw [hmailbox] at h
    rcases h with hcommand | ⟨-, hid⟩
    · exact .inl (.inl hcommand)
    · exact .inr hid.symm
  · rw [hmailbox, interruption_ends, hterminal, ← hlost]
    exact velocityStored_settled hfresh id

theorem submitVelocity_posts (st : Status) (commandId : UInt32) (e : Encoded) (seq : UInt32) :
    Posts st (st.submitVelocity commandId e seq).2 := by
  unfold submitVelocity
  dsimp only
  split
  · exact reject_posts st commandId seq e.kind .staleSequence
  · cases hrenewed : st.matchingVelocityStream e.a e.b with
    | none => exact velocityStored_posts st rfl rfl
    | some streamId => exact velocityStored_posts st rfl rfl

/-- The slots that a command leaves behind. -/
def commandStored (mb : Mailbox) (commandId : UInt32) (e : Encoded) (seq : UInt32)
    (serviceSessionHash serviceLeaseHash : UInt32) : Mailbox :=
  { mb with
    commandId, commandA := e.a, commandB := e.b, commandC := e.c, commandD := e.d
    commandDurationMs := e.durationMs.getD 0, commandSeq := seq
    commandServiceSessionHash := serviceSessionHash
    commandServiceLeaseHash := serviceLeaseHash, commandKind := e.kind }

theorem storeCommand_posts {st st₀ : Status} {commandId seq serviceSessionHash serviceLeaseHash : UInt32}
    {e : Encoded} {lostCommand lostVelocity : Option UInt32}
    (hframe : (st₀.hazardGeneration, st₀.log) = (st.hazardGeneration, st.log))
    (hknown : ∀ id, (commandStored st₀.mailbox commandId e seq serviceSessionHash
      serviceLeaseHash).Holds id → st.mailbox.Holds id ∨ id = commandId)
    (hsettled : (∀ id, st.mailbox.pending id ≤ 1) → ¬ st.mailbox.Holds commandId → ∀ id,
      (commandStored st₀.mailbox commandId e seq serviceSessionHash serviceLeaseHash).pending id +
          ((if (if lostVelocity = lostCommand then none else lostVelocity) = some id then 1 else 0) +
            if lostCommand = some id then 1 else 0) =
        st.mailbox.pending id + if commandId = id then 1 else 0) :
    Posts st (st₀.storeCommand commandId e seq serviceSessionHash serviceLeaseHash lostCommand
      lostVelocity) := by
  let stored := commandStored st₀.mailbox commandId e seq serviceSessionHash serviceLeaseHash
  let recorded := recordPublicEvent (Status.observe { st₀ with mailbox := stored }
    (.mailed commandId)) .commandAccepted commandId seq e.kind.code.toUInt32
  let once := interruptIfSome lostCommand recorded
  let lost := if lostVelocity = lostCommand then none else lostVelocity
  show Posts st (interruptIfSome lost once)
  obtain ⟨hcells, hnumbered, hlog⟩ := interruptIfSome_eq lostCommand recorded
  obtain ⟨hcells', hnumbered', hlog'⟩ := interruptIfSome_eq lost once
  have hmailbox : (interruptIfSome lost once).mailbox = stored :=
    congrArg Prod.fst (hcells'.trans hcells)
  have hall : (interruptIfSome lost once).log =
      (interruption once.eventNextSeq lost ++ interruption recorded.eventNextSeq lostCommand) ++
        .event st₀.eventNextSeq .commandAccepted commandId seq e.kind.code.toUInt32 ::
          .mailed commandId :: st.log := by
    rw [← show st₀.log = st.log from congrArg Prod.snd hframe, hlog', hlog, List.append_assoc]
    rfl
  refine .filled rfl ?_ (fun _ => hnumbered' (hnumbered (nextSeq_ne_zero _))) (fun o ho => ?_) hall
    (fun id h => hknown id (by rwa [hmailbox] at h)) fun hone hfresh id => ?_
  · exact (congrArg Prod.snd (hcells'.trans hcells)).trans (congrArg Prod.fst hframe)
  · exact (List.mem_append.mp ho).elim (interruption_posted _ _ o) (interruption_posted _ _ o)
  · have hkept : ¬ (PublicEventKind.commandAccepted.terminal = true ∧ commandId = id) :=
      fun h => by cases h.1
    rw [hmailbox, List.countP_append, interruption_ends, interruption_ends, if_neg hkept,
      Nat.add_zero]
    exact hsettled hone hfresh id

theorem submitCommand_posts (st : Status) (commandId : UInt32) (e : Encoded) (seq : UInt32)
    (serviceSessionHash serviceLeaseHash : UInt32) (hsome : e.kind ≠ .none) :
    Posts st (st.submitCommand commandId e seq serviceSessionHash serviceLeaseHash).2 := by
  unfold submitCommand
  dsimp only
  split
  · refine storeCommand_posts rfl ?_ fun hone hfresh id => ?_
    · rintro id (⟨-, hid⟩ | ⟨hvelocity, -⟩)
      · exact .inr hid.symm
      · cases hvelocity
    · obtain ⟨hcommand, hvelocity⟩ := not_or.mp hfresh
      have hone := hone id
      revert hone
      unfold Mailbox.pending commandStored preemptPendingCommandsForSafety
      by_cases hc : st.mailbox.commandKind = .none <;>
        by_cases hv : st.mailbox.velocityKind = .cmdVel <;>
        cases hr : st.mailbox.velocityIsRenewal <;> simp_all <;> grind
  · split
    · exact reject_posts st commandId seq e.kind .busy
    · rename_i hroom
      refine storeCommand_posts rfl ?_ fun hone hfresh id => ?_
      · rintro id (⟨-, hid⟩ | hvelocity)
        · exact .inr hid.symm
        · exact .inl (.inr hvelocity)
      · obtain ⟨hcommand, hvelocity⟩ := not_or.mp hfresh
        unfold Mailbox.pending commandStored
        by_cases hc : st.mailbox.commandKind = .none <;> simp_all <;> grind

theorem Posts.toned {songTones : Vector UInt32 maxSongTones}
    (h : Posts { st with mailbox := { st.mailbox with songTones } } st') : Posts st st' := by
  obtain ⟨recent, hdelivers, hlog⟩ := h.delivers
  exact ⟨h.hazardGeneration, h.numbered, recent,
    ⟨hdelivers.posted, hdelivers.known, hdelivers.settled⟩, hlog⟩

theorem submitEncoded_posts (st : Status) (commandId : UInt32) (command : BrainstemCommand)
    (serviceSessionHash serviceLeaseHash : UInt32) :
    Posts st (st.submitEncoded commandId command serviceSessionHash serviceLeaseHash).2 := by
  have haccepted : ∀ (st : Status) (e : Encoded), encodeControlCommand command = some e →
      Posts st (if e.kind = ControlCommandCode.cmdVel then
          st.submitVelocity commandId e (commandSeq command)
        else st.submitCommand commandId e (commandSeq command) serviceSessionHash
          serviceLeaseHash).2 := by
    intro st e hencode
    split
    · exact submitVelocity_posts st _ _ _
    · exact submitCommand_posts st _ _ _ _ _ (encodeControlCommand_kind_ne_none hencode)
  unfold submitEncoded
  cases hencode : encodeControlCommand command with
  | none =>
    cases songTonesStored command with
    | none => exact reject_posts st _ _ _ _
    | some songTones => exact (reject_posts _ _ _ _ _).toned
  | some e =>
    cases songTonesStored command with
    | none => exact haccepted st e hencode
    | some songTones => exact (haccepted _ e hencode).toned

theorem submitControlCommand_posts (st : Status) (commandId : UInt32) (command : BrainstemCommand)
    (serviceSessionHash serviceLeaseHash : UInt32) :
    Posts st (st.submitControlCommand commandId command serviceSessionHash serviceLeaseHash).2 := by
  cases command with
  | unsupported => exact reject_posts st _ _ _ _
  | status | ping | getEvents | getCapabilities => exact st.recordPublicEvent_posts rfl _ _ _
  | escapeMotion =>
    rw [submitControlCommand_escapeMotion]
    split
    · exact .same rfl rfl
    · exact submitEncoded_posts _ _ _ _ _
  | _ => exact submitEncoded_posts _ _ _ _ _

end Posts

end Status

end Netherwick.Brainstem
