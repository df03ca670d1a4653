import Netherwick.Lib.Run
import Netherwick.RealRobot.PossessionRecovery

/-! # What the recovery believes of the brainstem's latch

A status is only consulted while no latch is recorded, and only events drop a recorded one. So a
recovery whose ending event is lost, or that was begun without a generation, stays as it is however
often the status says otherwise. -/

namespace Netherwick.RealRobot

open Netherwick.Lib
open Netherwick.Cockpit (SafetyLatchKind SafeStopReason CockpitError CockpitEvent CockpitEventKind
  EventBatch)

/-- What a recovery believes: the latch, its generation, and that a reflex owns the motion. -/
structure Belief where
  latch : Option SafetyLatchKind
  generation : UInt32
  reflex : Bool
  deriving DecidableEq, Repr

def PossessionRecoveryState.belief (recovery : PossessionRecoveryState) : Belief :=
  { latch := recovery.latch
    generation := recovery.hazardGeneration
    reflex := recovery.phase == .brainstemReflex }

namespace Belief

def nothing : Belief := { latch := none, generation := 0, reflex := false }

def begin (belief : Belief) (latch : SafetyLatchKind) (generation : UInt32) : Belief :=
  { latch := some latch
    generation := if generation ≠ 0 then generation else belief.generation
    reflex := false }

def hear (belief : Belief) (event : CockpitEvent) : Belief :=
  match contactWithdrawal event with
  | some (.started _) => { belief.begin .bump 0 with reflex := true }
  | some (.completed _) => { belief with reflex := false }
  | none =>
    match event.kind with
    | .safetyTripped =>
      match safetyLatchKindFromEventCode event.a with
      | some kind => belief.begin kind event.seq
      | none => belief
    | .safetyCleared =>
      if belief.latch = safetyLatchKindFromEventCode event.a then nothing else belief
    | .eStopLatched => nothing
    | _ => belief

def readStatus (belief : Belief) (status : RecoveryStatus) (body : RecoveryBody) : Belief :=
  if belief.latch = none ∧ status.safetyTripped = some true ∧ status.estopLatched ≠ some true then
    match status.safetyLatchKind.or (inferSafetyLatchFromSensors body) with
    | some kind => belief.begin kind (status.safetyHazardGeneration.getD 0)
    | none => belief
  else belief

def requestsSkill (belief : Belief) (events : List CockpitEvent) : Bool :=
  !(belief.reflex || belief.generation == 0 ||
      events.any fun event =>
        event.kind == .contactWithdrawalStarted || event.kind == .safetyTripped) &&
    (belief.latch == some .bump || belief.latch == some .cliff)

end Belief

section Belief

variable (recovery : PossessionRecoveryState) (body : RecoveryBody) (nowMs : Nat)

@[simp] theorem belief_default : ({} : PossessionRecoveryState).belief = Belief.nothing := rfl

@[simp] theorem belief_finish : recovery.finish.belief = Belief.nothing := rfl

theorem belief_startGeneration (latch : SafetyLatchKind) (generation : UInt32) :
    (recovery.startGeneration latch generation body nowMs).belief =
      recovery.belief.begin latch generation := by
  simp only [PossessionRecoveryState.startGeneration]
  split <;> rfl

theorem belief_hearEvent (event : CockpitEvent) :
    (recovery.hearEvent body nowMs event).belief = recovery.belief.hear event := by
  unfold PossessionRecoveryState.hearEvent Belief.hear
  cases hwithdrawal : contactWithdrawal event with
  | some withdrawal =>
    cases withdrawal with
    | started count =>
      have hstart := belief_startGeneration recovery body nowMs .bump 0
      simp only [PossessionRecoveryState.belief, Belief.begin, Belief.mk.injEq] at hstart
      simp [PossessionRecoveryState.belief, PossessionRecoveryState.start, Belief.begin, hstart]
    | completed outcome => rfl
  | none =>
    by_cases htripped : event.kind = .safetyTripped
    · simp only [htripped]
      cases safetyLatchKindFromEventCode event.a with
      | some kind => exact belief_startGeneration recovery body nowMs _ _
      | none => rfl
    · by_cases hcleared : event.kind = .safetyCleared
      · simp only [hcleared]
        by_cases hlatch : recovery.latch = safetyLatchKindFromEventCode event.a
        · rw [if_pos hlatch, if_pos (by exact hlatch)]
          rfl
        · rw [if_neg hlatch, if_neg (by exact hlatch)]
      · by_cases hestop : event.kind = .eStopLatched
        · simp only [hestop]
          rfl
        · simp

theorem belief_heard (events : List CockpitEvent) :
    (events.foldl (PossessionRecoveryState.hearEvent body nowMs) recovery).belief =
      events.foldl Belief.hear recovery.belief := by
  induction events generalizing recovery with
  | nil => rfl
  | cons event rest ih => rw [List.foldl_cons, List.foldl_cons, ih, belief_hearEvent]

theorem belief_readStatus (status : RecoveryStatus) :
    (recovery.readStatus status body nowMs).belief = recovery.belief.readStatus status body := by
  unfold PossessionRecoveryState.readStatus Belief.readStatus
  by_cases h : recovery.latch = none ∧ status.safetyTripped = some true ∧
      status.estopLatched ≠ some true
  · rw [if_pos h, if_pos (by exact h)]
    cases status.safetyLatchKind.or (inferSafetyLatchFromSensors body) with
    | some kind => exact belief_startGeneration recovery body nowMs _ _
    | none => rfl
  · rw [if_neg h, if_neg (by exact h)]

@[simp] theorem requestsSkill_belief (events : List CockpitEvent) :
    recovery.belief.requestsSkill events = recovery.requestsSkill events := rfl

end Belief

/-- Whether the cause of a latch that the runner clears by itself is over. -/
def causeOver (latch : SafetyLatchKind) (status : RecoveryStatus) (body : RecoveryBody) : Bool :=
  match latch with
  | .bump | .cliff => false
  | .wheelDrop => !body.wheelDrop
  | .charging => !body.charging
  | .heartbeat => true
  | .tilt | .impact => imuRecoveryClear status latch

def SlowCourse.skillCompleted : SlowCourse → Bool
  | .thinks _ _ skillCompleted => skillCompleted
  | _ => false

/-- The latch for which the cockpit refuses a motion, should nothing else keep it from being tried. -/
def MotionAttempt.refusedLatch (motion : MotionAttempt) : Option SafetyLatchKind :=
  match applySlowPossessionMotor motion (motion.blocked || motion.nearZero) with
  | .ok (some (.safetyLatch latch)) => some latch
  | _ => none

def SlowCourse.refusedLatch : SlowCourse → Option SafetyLatchKind
  | .ends => none
  | .drives motion => motion.refusedLatch
  | .thinks motion otherSkill _ => if otherSkill then none else motion.refusedLatch

/-- Whether a tick drops what is believed: it clears the latch, or the skill it asks for is done. -/
def Belief.dropped (belief : Belief) (tick : SlowTick) (events : List CockpitEvent)
    (status : RecoveryStatus) (body : RecoveryBody) : Bool :=
  (belief.requestsSkill events && tick.course.skillCompleted) ||
    belief.latch.any fun latch => causeOver latch status body && tick.answers.clear.isOk

theorem applySlowPossessionMotor_nearZero (motion : MotionAttempt) :
    applySlowPossessionMotor motion true = motion.stop.map fun _ => none := rfl

section Tick

variable {recovery : PossessionRecoveryState} {tick : SlowTick} {events : List CockpitEvent}
  {status : RecoveryStatus} {body : RecoveryBody}

theorem tryMotion_nearZero (motion : MotionAttempt) :
    tick.tryMotion recovery body motion true = recovery := by
  rw [SlowTick.tryMotion, applySlowPossessionMotor_nearZero]
  cases motion.stop <;> rfl

theorem goOn_of_commandSent {decision : PossessionRecoveryDecision}
    (h : decision.commandSent = true) :
    tick.goOn events body recovery decision = recovery := by
  cases hcourse : tick.course <;> simp [SlowTick.goOn, hcourse, h]

theorem goOn_of_blocked {decision : PossessionRecoveryDecision} (hsent : decision.commandSent = false)
    (hblocked : decision.blockReason.isSome = true) :
    tick.goOn events body recovery decision =
      if recovery.requestsSkill events && tick.course.skillCompleted then recovery.finish
      else recovery := by
  cases hcourse : tick.course with
  | ends => simp [SlowTick.goOn, hcourse, SlowCourse.skillCompleted]
  | drives motion =>
    simp [SlowTick.goOn, hcourse, hsent, hblocked, tryMotion_nearZero, SlowCourse.skillCompleted]
  | thinks motion otherSkill skillCompleted =>
    by_cases hrequested : recovery.requestsSkill events = true
    · simp [SlowTick.goOn, hcourse, hsent, hrequested, SlowCourse.skillCompleted]
    · simp [SlowTick.goOn, hcourse, hsent, hblocked, hrequested, tryMotion_nearZero]

theorem goOn_of_free {decision : PossessionRecoveryDecision} (hsent : decision.commandSent = false)
    (hblocked : decision.blockReason = none) (hlatch : recovery.latch = none) :
    (tick.goOn events body recovery decision).belief =
      match tick.course.refusedLatch with
      | some latch => recovery.belief.begin latch 0
      | none => recovery.belief := by
  have hrequested : recovery.requestsSkill events = false := by
    simp [PossessionRecoveryState.requestsSkill, hlatch]
  have hmotion : ∀ motion : MotionAttempt,
      (tick.tryMotion recovery body motion (motion.blocked || motion.nearZero)).belief =
        match motion.refusedLatch with
        | some latch => recovery.belief.begin latch 0
        | none => recovery.belief := by
    intro motion
    unfold SlowTick.tryMotion MotionAttempt.refusedLatch
    cases applySlowPossessionMotor motion (motion.blocked || motion.nearZero) with
    | error _ => rfl
    | ok block =>
      cases block with
      | none => rfl
      | some block =>
        cases block with
        | safetyLatch latch => exact belief_startGeneration recovery body tick.nowMs latch 0
        | commandRejected _ _ => rfl
  cases hcourse : tick.course with
  | ends => simp [SlowTick.goOn, hcourse, SlowCourse.refusedLatch]
  | drives motion =>
    simpa [SlowTick.goOn, hcourse, hsent, hblocked, SlowCourse.refusedLatch] using hmotion motion
  | thinks motion otherSkill skillCompleted =>
    cases otherSkill <;>
      simp [SlowTick.goOn, hcourse, hsent, hblocked, hrequested, SlowCourse.refusedLatch, hmotion]

end Tick

section Apply

variable {recovery : PossessionRecoveryState} {tick : SlowTick} {events : List CockpitEvent}
  {status : RecoveryStatus} {body : RecoveryBody}

/-- The rest of a tick, given what the recovery has come to. -/
def SlowTick.finishWith (tick : SlowTick) (events : List CockpitEvent) (body : RecoveryBody)
    (applied : PossessionRecoveryState × Except CockpitError PossessionRecoveryDecision) :
    PossessionRecoveryState :=
  match applied with
  | (recovery, .error _) => recovery
  | (recovery, .ok decision) => tick.goOn events body recovery decision

theorem finishWith_clearOrStop {ended : Bool} {reason : String} :
    tick.finishWith events body (recovery.clearOrStop ended tick.answers reason) =
      if ended && tick.answers.clear.isOk then recovery.finish else recovery := by
  cases ended with
  | true =>
    cases hclear : tick.answers.clear with
    | error _ => simp [SlowTick.finishWith, PossessionRecoveryState.clearOrStop, hclear, Except.isOk,
        Except.toBool]
    | ok _ => simp [SlowTick.finishWith, PossessionRecoveryState.clearOrStop, hclear, Except.isOk,
        Except.toBool, goOn_of_commandSent]
  | false =>
    cases hstop : tick.answers.stop with
    | error _ => simp [SlowTick.finishWith, PossessionRecoveryState.clearOrStop, hstop]
    | ok _ => simp [SlowTick.finishWith, PossessionRecoveryState.clearOrStop, hstop,
        goOn_of_commandSent]

theorem recover_of_unread (h : tick.read = none) : tick.recover recovery = recovery := by
  rw [SlowTick.recover, h]

theorem recover_of_read (h : tick.read = some (events, status, body)) :
    tick.recover recovery = tick.finishWith events body
      (recovery.applyPossessionRecovery body events status tick.answers tick.nowMs) := by
  rw [SlowTick.recover, h]
  rfl

theorem recover_of_estop (h : tick.read = some (events, status, body))
    (hestop : status.estopLatched = some true) :
    (tick.recover recovery).belief = Belief.nothing := by
  rw [recover_of_read h, PossessionRecoveryState.applyPossessionRecovery, if_pos hestop,
    SlowTick.finishWith, goOn_of_blocked rfl rfl]
  rfl

theorem follow_of_none (hlatch : recovery.latch = none) :
    recovery.follow body status tick.answers =
      (recovery, .ok { blockReason := none, commandSent := false, action := none }) := by
  simp only [PossessionRecoveryState.follow, hlatch]

theorem follow_of_hazard (tick : SlowTick) (status : RecoveryStatus) (body : RecoveryBody)
    (hlatch : recovery.latch = some .bump ∨ recovery.latch = some .cliff) :
    ∃ decision, recovery.follow body status tick.answers = (recovery, .ok decision) ∧
      decision.commandSent = false ∧ decision.blockReason.isSome = true := by
  rcases hlatch with hlatch | hlatch
  · simp only [PossessionRecoveryState.follow, hlatch]
    exact ⟨_, rfl, rfl, rfl⟩
  · simp only [PossessionRecoveryState.follow, hlatch]
    exact ⟨_, rfl, rfl, rfl⟩

theorem follow_of_other (tick : SlowTick) (status : RecoveryStatus) (body : RecoveryBody)
    {latch : SafetyLatchKind} (hlatch : recovery.latch = some latch)
    (hbump : latch ≠ .bump) (hcliff : latch ≠ .cliff) :
    ∃ reason, recovery.follow body status tick.answers =
      recovery.clearOrStop (causeOver latch status body) tick.answers reason := by
  cases latch with
  | bump => exact absurd rfl hbump
  | cliff => exact absurd rfl hcliff
  | _ => exact ⟨_, by simp only [PossessionRecoveryState.follow, hlatch, causeOver]; rfl⟩

theorem finishWith_follow_of_latch {latch : SafetyLatchKind}
    (hlatch : recovery.latch = some latch) :
    tick.finishWith events body (recovery.follow body status tick.answers) =
      if recovery.belief.dropped tick events status body then recovery.finish else recovery := by
  have hbelief : recovery.belief.latch = some latch := hlatch
  by_cases hhazard : latch = .bump ∨ latch = .cliff
  · have hcause : causeOver latch status body = false := by
      rcases hhazard with rfl | rfl <;> rfl
    have hhazard' : recovery.latch = some .bump ∨ recovery.latch = some .cliff := by
      rcases hhazard with rfl | rfl <;> simp [hlatch]
    obtain ⟨decision, hfollow, hsent, hblocked⟩ := follow_of_hazard tick status body hhazard'
    rw [hfollow, SlowTick.finishWith, goOn_of_blocked hsent hblocked]
    simp [Belief.dropped, hbelief, hcause]
  · have hrequested : recovery.requestsSkill events = false := by
      simp only [not_or] at hhazard
      simp [PossessionRecoveryState.requestsSkill, hlatch, hhazard]
    obtain ⟨reason, hfollow⟩ := follow_of_other tick status body hlatch
      (fun h => hhazard (.inl h)) (fun h => hhazard (.inr h))
    rw [hfollow, finishWith_clearOrStop]
    simp [Belief.dropped, hbelief, hrequested]

theorem recover_belief (h : tick.read = some (events, status, body))
    (hestop : status.estopLatched ≠ some true) {believed : Belief}
    (hbelieved : (events.foldl Belief.hear recovery.belief).readStatus status body = believed) :
    (tick.recover recovery).belief =
      if believed.latch = none then
        (tick.course.refusedLatch.map fun latch => believed.begin latch 0).getD believed
      else if believed.dropped tick events status body then Belief.nothing
      else believed := by
  rw [recover_of_read h, PossessionRecoveryState.applyPossessionRecovery, if_neg hestop]
  rw [← belief_heard recovery body tick.nowMs events,
    ← belief_readStatus _ body tick.nowMs status] at hbelieved
  generalize (events.foldl (PossessionRecoveryState.hearEvent body tick.nowMs) recovery).readStatus
    status body tick.nowMs = current at hbelieved ⊢
  subst hbelieved
  cases hlatch : current.latch with
  | none =>
    have hnone : current.belief.latch = none := hlatch
    rw [follow_of_none hlatch, SlowTick.finishWith, goOn_of_free rfl rfl hlatch, if_pos hnone]
    cases tick.course.refusedLatch <;> rfl
  | some latch =>
    have hsome : current.belief.latch ≠ none := by
      rw [show current.belief.latch = some latch from hlatch]
      simp
    rw [finishWith_follow_of_latch hlatch, if_neg hsome]
    split <;> rfl

end Apply

structure FirmwareLatch where
  kind : SafetyLatchKind
  generation : UInt32
  deriving DecidableEq, Repr

/-- The recovery holds a latch exactly if the brainstem does, of its kind and, for contacts and
cliffs, with its generation. -/
def Belief.Matches (belief : Belief) (held : Option FirmwareLatch) : Prop :=
  belief.latch = held.map FirmwareLatch.kind ∧
    ∀ latch ∈ held, latch.kind = .bump ∨ latch.kind = .cliff →
      belief.generation = latch.generation

/-- A slow tick and the brainstem around it: the latch it holds when the tick begins, when the
status is taken and when the tick ends, and the events since the tick before. -/
structure SlowMoment where
  tick : SlowTick
  held : Option FirmwareLatch
  shown : Option FirmwareLatch
  left : Option FirmwareLatch
  happened : List CockpitEvent

namespace SlowMoment

/-- The status shows the latch that is held when it is taken. -/
def Truthful (moment : SlowMoment) : Prop :=
  ∀ events status body, moment.tick.read = some (events, status, body) →
    status.safetyTripped = some moment.shown.isSome ∧
    status.safetyLatchKind = moment.shown.map FirmwareLatch.kind ∧
    ∀ latch ∈ moment.shown, latch.kind = .bump ∨ latch.kind = .cliff →
      status.safetyHazardGeneration = some latch.generation

/-- The brainstem holds the same latch, or none, all through the tick. -/
def Steady (moment : SlowMoment) (latch : Option FirmwareLatch) : Prop :=
  moment.held = latch ∧ moment.shown = latch ∧ moment.left = latch

/-- What was recorded before the tick, put right by its events, is nothing or the latch that the
brainstem holds; where it holds none, the tick itself drops what is still recorded, and no motion is
refused for a latch. An e-stop hides a latch, and a tick that reads nothing changes nothing. -/
def Reconcilable (before : Belief) (moment : SlowMoment) : Prop :=
  match moment.tick.read with
  | none => before.Matches moment.shown
  | some (events, status, body) =>
    let told := events.foldl Belief.hear before
    if status.estopLatched = some true then moment.shown = none
    else
      match moment.shown with
      | none =>
        if told.latch = none then moment.tick.course.refusedLatch = none
        else told.dropped moment.tick events status body = true
      | some latch =>
        (told.latch = none ∨ told.Matches (some latch)) ∧
          (told.readStatus status body).dropped moment.tick events status body = false

end SlowMoment

def recovered (moments : List SlowMoment) : PossessionRecoveryState :=
  after (fun recovery moment => moment.tick.recover recovery) {} moments

/-- After two ticks with the brainstem's latch unchanged, the recovery holds it. -/
def Reconciles (moments : List SlowMoment) : Prop :=
  ∀ past first second latch, past ++ [first, second] <+: moments → first.Steady latch →
    second.Steady latch → (recovered (past ++ [first, second])).belief.Matches latch

/-- The second of two ticks with the latch unchanged always finds what it can be put right from. -/
def ReconcilableThroughout (moments : List SlowMoment) : Prop :=
  ∀ past first second latch, past ++ [first, second] <+: moments → first.Steady latch →
    second.Steady latch → second.Reconcilable (recovered (past ++ [first])).belief

def Belief.Tidy (belief : Belief) : Prop := belief.latch = none → belief.generation = 0

namespace Belief

theorem tidy_nothing : nothing.Tidy := fun _ => rfl

theorem tidy_begin (belief : Belief) (latch : SafetyLatchKind) (generation : UInt32) :
    (belief.begin latch generation).Tidy := by
  simp [Tidy, begin]

theorem Tidy.hear {belief : Belief} (h : belief.Tidy) (event : CockpitEvent) :
    (belief.hear event).Tidy := by
  unfold Belief.hear
  split
  · simp [Tidy, begin]
  · exact h
  · split
    · split
      · exact tidy_begin _ _ _
      · exact h
    · split
      · exact tidy_nothing
      · exact h
    · exact tidy_nothing
    · exact h

theorem Tidy.heard {belief : Belief} (h : belief.Tidy) (events : List CockpitEvent) :
    (events.foldl Belief.hear belief).Tidy := by
  induction events generalizing belief with
  | nil => exact h
  | cons event rest ih => exact ih (h.hear event)

theorem Tidy.readStatus {belief : Belief} (h : belief.Tidy) (status : RecoveryStatus)
    (body : RecoveryBody) : (belief.readStatus status body).Tidy := by
  unfold Belief.readStatus
  split
  · split
    · exact tidy_begin _ _ _
    · exact h
  · exact h

end Belief

theorem tidy_recover {recovery : PossessionRecoveryState} (h : recovery.belief.Tidy)
    (tick : SlowTick) : (tick.recover recovery).belief.Tidy := by
  cases hread : tick.read with
  | none => rwa [recover_of_unread hread]
  | some parts =>
    obtain ⟨events, status, body⟩ := parts
    by_cases hestop : status.estopLatched = some true
    · rw [recover_of_estop hread hestop]
      exact Belief.tidy_nothing
    · have hbelieved := (h.heard events).readStatus status body
      rw [recover_belief hread hestop rfl]
      split
      · cases tick.course.refusedLatch with
        | none => exact hbelieved
        | some latch => exact Belief.tidy_begin _ _ _
      · split
        · exact Belief.tidy_nothing
        · exact hbelieved

theorem tidy_recovered (moments : List SlowMoment) : (recovered moments).belief.Tidy :=
  after_invariant (P := fun recovery : PossessionRecoveryState => recovery.belief.Tidy)
    (by simpa using Belief.tidy_nothing) (fun _ moment h => tidy_recover h moment.tick) moments

namespace Belief

theorem matches_none_iff {belief : Belief} : belief.Matches none ↔ belief.latch = none := by
  simp [Matches]

theorem not_nothing_matches_some (latch : FirmwareLatch) : ¬ nothing.Matches (some latch) := by
  simp [Matches, nothing]

theorem matches_begin {belief : Belief} (htidy : belief.Tidy) (hlatch : belief.latch = none)
    (latch : FirmwareLatch) (generation : UInt32)
    (hgeneration : latch.kind = .bump ∨ latch.kind = .cliff → generation = latch.generation) :
    (belief.begin latch.kind generation).Matches (some latch) := by
  constructor
  · rfl
  · intro other hother hkind
    obtain rfl := Option.some.inj hother
    rw [hgeneration hkind, begin]
    by_cases hzero : latch.generation = 0
    · simp [hzero, htidy hlatch]
    · simp [hzero]

end Belief

theorem matches_recover_iff {recovery : PossessionRecoveryState} (htidy : recovery.belief.Tidy)
    {moment : SlowMoment} (htruthful : moment.Truthful) :
    (moment.tick.recover recovery).belief.Matches moment.shown ↔
      moment.Reconcilable recovery.belief := by
  unfold SlowMoment.Reconcilable
  cases hread : moment.tick.read with
  | none => rw [recover_of_unread hread]
  | some parts =>
    obtain ⟨events, status, body⟩ := parts
    obtain ⟨htripped, hkind, hgeneration⟩ := htruthful events status body hread
    by_cases hestop : status.estopLatched = some true
    · simp only [if_pos hestop, recover_of_estop hread hestop]
      cases hshown : moment.shown with
      | none => simp [Belief.matches_none_iff, Belief.nothing]
      | some latch => simp [Belief.not_nothing_matches_some]
    · simp only [if_neg hestop, recover_belief hread hestop rfl]
      have htold := htidy.heard events
      generalize events.foldl Belief.hear recovery.belief = told at htold ⊢
      cases hshown : moment.shown with
      | none =>
        have hsame : told.readStatus status body = told := by
          simp [Belief.readStatus, htripped, hshown]
        rw [hsame, Belief.matches_none_iff]
        by_cases hnone : told.latch = none
        · simp only [if_pos hnone]
          cases moment.tick.course.refusedLatch <;> simp [hnone, Belief.begin]
        · simp only [if_neg hnone]
          cases told.dropped moment.tick events status body <;> simp [hnone, Belief.nothing]
      | some latch =>
        by_cases hnone : told.latch = none
        · have hbegun : told.readStatus status body =
              told.begin latch.kind (status.safetyHazardGeneration.getD 0) := by
            simp [Belief.readStatus, hnone, htripped, hshown, hestop, hkind]
          have hmatches := Belief.matches_begin htold hnone latch
            (status.safetyHazardGeneration.getD 0)
            (fun hcontact => by simp [hgeneration latch hshown hcontact])
          rw [hbegun, if_neg (by simp [Belief.begin])]
          cases (told.begin latch.kind (status.safetyHazardGeneration.getD 0)).dropped
            moment.tick events status body <;>
            simp [hnone, hmatches, Belief.not_nothing_matches_some]
        · have hsame : told.readStatus status body = told := by
            simp [Belief.readStatus, hnone]
          rw [hsame, if_neg hnone]
          cases told.dropped moment.tick events status body <;>
            simp [hnone, Belief.not_nothing_matches_some]

/-- The recovery is reconciled with the brainstem by exactly the runs in which every tick that ought
to do so finds what it can be put right from. -/
theorem reconciles_iff (moments : List SlowMoment)
    (htruthful : ∀ moment ∈ moments, moment.Truthful) :
    Reconciles moments ↔ ReconcilableThroughout moments := by
  have hstep : ∀ past (first second : SlowMoment), past ++ [first, second] <+: moments →
      ((recovered (past ++ [first, second])).belief.Matches second.shown ↔
        second.Reconcilable (recovered (past ++ [first])).belief) := by
    intro past first second hpart
    have hsecond : second ∈ moments := hpart.mem (by simp)
    have hrun : recovered (past ++ [first, second]) =
        second.tick.recover (recovered (past ++ [first])) := by
      simp [recovered]
    rw [hrun]
    exact matches_recover_iff (tidy_recovered _) (htruthful second hsecond)
  constructor
  · intro h past first second latch hpart hfirst hsecond
    have hmatches := h past first second latch hpart hfirst hsecond
    rw [← hsecond.2.1] at hmatches
    exact (hstep past first second hpart).mp hmatches
  · intro h past first second latch hpart hfirst hsecond
    rw [← hsecond.2.1]
    exact (hstep past first second hpart).mpr (h past first second latch hpart hfirst hsecond)

/-- The brainstem's latch as its own events tell of it. -/
def FirmwareLatch.hear (held : Option FirmwareLatch) (event : CockpitEvent) :
    Option FirmwareLatch :=
  match event.kind, safetyLatchKindFromEventCode event.a with
  | .safetyTripped, some kind => some { kind, generation := event.seq }
  | .safetyCleared, some kind => if held.map FirmwareLatch.kind = some kind then none else held
  | _, _ => held

def SlowMoment.delivered (moment : SlowMoment) : List CockpitEvent :=
  (moment.tick.pollEvents.toOption.map EventBatch.events).getD []

/-- The batches are an in-order part of what has happened, and that is what the latch follows. -/
def InOrder (moments : List SlowMoment) : Prop :=
  ∀ past ∈ moments.inits,
    (past.flatMap SlowMoment.delivered).Sublist (past.flatMap SlowMoment.happened) ∧
    ∀ moment ∈ past.getLast?,
      moment.held = (past.flatMap SlowMoment.happened).foldl FirmwareLatch.hear none

/-- A tick in which nothing goes wrong and nobody wants to move, under a latch that stays. -/
def quietMoment (tickCount : Nat) (happened delivered : List CockpitEvent)
    (latch : Option FirmwareLatch) : SlowMoment :=
  { tick :=
      { tickCount
        polled := .ok
          { sinceSeq := 0, oldestSeq := 0, nextSeq := 0, droppedBeforeSeq := 0,
            events := delivered }
        gapStop := .ok ()
        speaksFirst := false
        observed := .ok
          ({ estopLatched := some false
             safetyTripped := some latch.isSome
             safetyLatchKind := latch.map FirmwareLatch.kind
             safetyHazardGeneration := latch.map FirmwareLatch.generation }, {})
        answers := { stop := .ok (), clear := .ok () }
        course := .thinks { blocked := false, nearZero := true, stop := .ok (), pulse := .ok () }
          false false
        nowMs := 1000 + 100 * tickCount }
    held := latch
    shown := latch
    left := latch
    happened }

theorem quietMoment_truthful (tickCount : Nat) (happened delivered : List CockpitEvent)
    (latch : Option FirmwareLatch) : (quietMoment tickCount happened delivered latch).Truthful := by
  intro events status body hread
  simp only [quietMoment, SlowTick.read, SlowTick.pollEvents] at hread
  simp at hread
  obtain ⟨_, rfl, _⟩ := hread
  exact ⟨rfl, rfl, fun other hother _ => by simp [show latch = some other from hother]⟩

def bumpTripped : CockpitEvent := { seq := 7, kind := .safetyTripped, a := 1, b := 0, c := 0 }

def bumpCleared : CockpitEvent := { seq := 8, kind := .safetyCleared, a := 1, b := 0, c := 0 }

/-- A contact that trips and clears, of which the events of the second tick are heard. -/
def contactRun (heard : List CockpitEvent) : List SlowMoment :=
  [quietMoment 0 [bumpTripped] [bumpTripped] (some { kind := .bump, generation := 7 }),
    quietMoment 1 [bumpCleared] heard none, quietMoment 2 [] [] none]

theorem contactRun_truthful (heard : List CockpitEvent) :
    ∀ moment ∈ contactRun heard, moment.Truthful := by
  simp [contactRun, quietMoment_truthful]

theorem reconciles_iff_contact :
    (∀ moment ∈ contactRun [bumpCleared], moment.Truthful) ∧
      (Reconciles (contactRun [bumpCleared]) ↔
        ReconcilableThroughout (contactRun [bumpCleared])) :=
  ⟨contactRun_truthful _, reconciles_iff _ (contactRun_truthful _)⟩

instance (moments : List SlowMoment) : Decidable (InOrder moments) :=
  inferInstanceAs (Decidable (∀ past ∈ moments.inits,
    (past.flatMap SlowMoment.delivered).Sublist (past.flatMap SlowMoment.happened) ∧
    ∀ moment ∈ past.getLast?,
      moment.held = (past.flatMap SlowMoment.happened).foldl FirmwareLatch.hear none))

/-- A clearing whose event is lost leaves its latch recorded, whatever the status says. -/
theorem lost_clearing_keeps_recovery :
    (∀ moment ∈ contactRun [], moment.Truthful) ∧ InOrder (contactRun []) ∧
      ¬ Reconciles (contactRun []) := by
  refine ⟨contactRun_truthful _, by decide +kernel, ?_⟩
  intro h
  have hmatches := h [quietMoment 0 [bumpTripped] [bumpTripped]
    (some { kind := .bump, generation := 7 })] (quietMoment 1 [bumpCleared] [] none)
    (quietMoment 2 [] [] none) none (List.prefix_refl _) ⟨rfl, rfl, rfl⟩ ⟨rfl, rfl, rfl⟩
  rw [Belief.matches_none_iff] at hmatches
  revert hmatches
  decide +kernel

end Netherwick.RealRobot
