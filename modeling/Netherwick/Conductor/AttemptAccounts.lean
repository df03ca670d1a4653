import Netherwick.Conductor.SingleGoal

/-! # The account of attempts

Attempts are counted when a goal begins one, failures when the time of the pending attempt is over
and when a skill ends badly. A failure is charged to the goal's latest attempt, and one that a
status reports to its execution as well. -/

namespace Netherwick.Conductor

variable {K : Domain}

inductive Charge
  | attempt (number : Nat)
  | execution (goalId : GoalId) (executionId : Nat)
  deriving DecidableEq, Repr

namespace GoalSystem

variable (system : GoalSystem K)

/-- The goal in which the end of the pending attempt counts a failure. -/
def deadlineFailure (world : WorldModelSnapshot K.Details) : Option GoalId :=
  system.pending.bind fun pending =>
    if pending.fallenShort world then (findGoal system.goals pending.goalId).map GoalModule.id
    else none

def statusFailure (status : SkillStatus) : Option GoalId :=
  status.request.goalId.bind fun goalId =>
    if status.failed ∧ system.alreadyProcessed goalId status = false then
      (findGoal system.goals goalId).map GoalModule.id
    else none

def begunByExecution (world : WorldModelSnapshot K.Details) (goalId : GoalId)
    (evaluations : List (GoalEvaluation K.Action)) : Option GoalId :=
  (findGoal system.goals goalId).bind fun goal =>
    (evaluations.find? fun evaluation => evaluation.goalId = goalId).bind fun evaluation =>
      match (goal.execute evaluation { world, runtime := goal.runtime }).1 with
      | .error _ => none
      | .ok decision => if system.beginsNewAttempt decision then some decision.goalId else none

def begunByTick (world : WorldModelSnapshot K.Details) (proposals : List K.Action) :
    Option GoalId :=
  match system.perceive world proposals with
  | (.error _, _) => none
  | (.ok perceived, observed) =>
    let selected := observed.select world perceived
    selected.1.selectedGoal.bind fun goalId =>
      (selected.2.elapse world goalId).begunByExecution world goalId perceived.evaluations

end GoalSystem

/-- The goal system with the account of its attempts: how many have begun, the latest of each goal,
and what has been charged. -/
structure Books (K : Domain) where
  system : GoalSystem K
  begun : Nat := 0
  latest : GoalId → Option Nat := fun _ => none
  charges : List Charge := []

namespace Books

variable (books : Books K)

def chargesTo (id : GoalId) : List Charge := (books.latest id).toList.map Charge.attempt

/-- A tick, when it has looked at the pending attempt. -/
def observed (world : WorldModelSnapshot K.Details) : Books K :=
  { books with
    system := books.system.observePendingOutcome world
    charges := books.charges ++ ((books.system.deadlineFailure world).map books.chargesTo).getD [] }

def withAttempt (id : Option GoalId) : Books K :=
  match id with
  | none => books
  | some id =>
    { books with
      begun := books.begun + 1
      latest := Function.update books.latest id (some books.begun) }

def step : GoalCall K → Books K
  | .tick world proposals =>
    { (books.observed world).withAttempt (books.system.begunByTick world proposals) with
      system := (books.system.tick world proposals).2 }
  | .observeSkillStatus status =>
    { books with
      system := books.system.observeSkillStatus status
      charges := books.charges ++ ((books.system.statusFailure status).map fun id =>
        .execution id status.executionId :: books.chargesTo id).getD [] }
  | call => { books with system := books.system.step call }

def run (calls : List (GoalCall K)) : Books K := calls.foldl step books

end Books

def GoalRuntimeState.done (runtime : GoalRuntimeState) : Prop :=
  runtime.lastExitReason = some .satisfied ∨ runtime.lastExitReason = some .completed

/-- The failures of a goal are among its attempts, and a goal that is done has none. -/
structure Sound (runtime : GoalRuntimeState) : Prop where
  word : runtime.failedAttempts ≤ 0xFFFFFFFF
  within : runtime.failedAttempts ≤ runtime.attempts
  cleared : runtime.done → runtime.failedAttempts = 0

/-- All goals are sound, and nothing has been charged twice. -/
structure Balanced (books : Books K) : Prop where
  sound : ∀ goal ∈ books.system.goals, Sound goal.runtime
  once : books.charges.Nodup

/-- The accounts are right after every call, and within a tick when the goals look at them. -/
def KeepsAccounts (drives : K.Drives) (goals : List (GoalComponents K))
    (calls : List (GoalCall K)) : Prop :=
  ∀ before, before <+: calls →
    Balanced (Books.run { system := GoalSystem.withGoals drives goals } before) ∧
    ∀ world proposals, before ++ [.tick world proposals] <+: calls →
      Balanced ((Books.run { system := GoalSystem.withGoals drives goals } before).observed world)

/-- A goal in which a failure may be counted: its attempts are not all failed, and it is not done. -/
structure HasRoom (runtime : GoalRuntimeState) (attempts : Nat) : Prop where
  room : saturate32 (runtime.failedAttempts + 1) ≤ attempts
  unfinished : ¬ runtime.done

/-- A call that counts a failure does so in a goal with room, for an attempt and an execution that
have not been charged. -/
def CountsOnce (books : Books K) : GoalCall K → Prop
  | .tick world _ => ∀ id ∈ books.system.deadlineFailure world,
      (∀ charge ∈ books.chargesTo id, charge ∉ books.charges) ∧
      ∀ goal ∈ findGoal books.system.goals id, HasRoom goal.runtime goal.runtime.attempts
  | .observeSkillStatus status => ∀ id ∈ books.system.statusFailure status,
      (∀ charge ∈ .execution id status.executionId :: books.chargesTo id, charge ∉ books.charges) ∧
      ∀ goal ∈ findGoal books.system.goals id,
        HasRoom goal.runtime (max goal.runtime.attempts status.attempts)
  | _ => True

def AlwaysCountsOnce (drives : K.Drives) (goals : List (GoalComponents K))
    (calls : List (GoalCall K)) : Prop :=
  ∀ before call, before ++ [call] <+: calls →
    CountsOnce (Books.run { system := GoalSystem.withGoals drives goals } before) call

structure SameCounts (runtime runtime' : GoalRuntimeState) : Prop where
  attempts : runtime'.attempts = runtime.attempts
  failed : runtime'.failedAttempts = runtime.failedAttempts
  exit : runtime'.lastExitReason = runtime.lastExitReason

theorem SameCounts.trans {a b c : GoalRuntimeState} (h : SameCounts a b) (h' : SameCounts b c) :
    SameCounts a c :=
  ⟨h'.attempts.trans h.attempts, h'.failed.trans h.failed, h'.exit.trans h.exit⟩

theorem sameCounts_noteProgress (runtime : GoalRuntimeState) (observation : ProgressObservation)
    (tolerance : Float32) : SameCounts runtime (runtime.noteProgress observation tolerance) := by
  unfold GoalRuntimeState.noteProgress
  split <;> exact ⟨rfl, rfl, rfl⟩

theorem sameCounts_noteConfidence (runtime : GoalRuntimeState) (confidence : Option Float32) :
    SameCounts runtime (runtime.noteConfidence confidence) := by
  unfold GoalRuntimeState.noteConfidence
  split <;> exact ⟨rfl, rfl, rfl⟩

theorem Sound.same {runtime runtime' : GoalRuntimeState} (h : Sound runtime)
    (hsame : SameCounts runtime runtime') : Sound runtime' where
  word := by
    rw [hsame.failed]
    exact h.word
  within := by
    rw [hsame.failed, hsame.attempts]
    exact h.within
  cleared hdone := by
    rw [hsame.failed]
    apply h.cleared
    unfold GoalRuntimeState.done at hdone ⊢
    rwa [hsame.exit] at hdone

theorem sound_counted_iff {runtime runtime' : GoalRuntimeState}
    (hfailed : runtime'.failedAttempts = saturate32 (runtime.failedAttempts + 1))
    (hexit : runtime'.lastExitReason = runtime.lastExitReason) :
    Sound runtime' ↔ HasRoom runtime runtime'.attempts := by
  have hdone : runtime'.done ↔ runtime.done := by
    unfold GoalRuntimeState.done
    rw [hexit]
  have hpositive : runtime'.failedAttempts ≠ 0 := by
    rw [hfailed, saturate32]
    omega
  constructor
  · intro h
    refine ⟨?_, ?_⟩
    · rw [← hfailed]
      exact h.within
    · intro hfinished
      exact hpositive (h.cleared (hdone.mpr hfinished))
  · intro h
    refine ⟨?_, ?_, ?_⟩
    · rw [hfailed, saturate32]
      omega
    · rw [hfailed]
      exact h.room
    · intro hfinished
      exact absurd (hdone.mp hfinished) h.unfinished

theorem GoalModule.observeOutcome_counts (goal : GoalModule K) (pending : PendingOutcome)
    (world : WorldModelSnapshot K.Details) :
    (goal.observeOutcome pending world).runtime.attempts = goal.runtime.attempts ∧
    (goal.observeOutcome pending world).runtime.lastExitReason = goal.runtime.lastExitReason ∧
    (goal.observeOutcome pending world).runtime.failedAttempts =
      if pending.fallenShort world then saturate32 (goal.runtime.failedAttempts + 1)
      else goal.runtime.failedAttempts := by
  unfold GoalModule.observeOutcome GoalModule.withRuntime
  dsimp only
  generalize hobservation : ProgressObservation.mk _ _ _ _ = observation
  have hsame := (sameCounts_noteConfidence goal.runtime (goal.lastEvaluation.map fun evaluation =>
    evaluation.competence.confidence)).trans (sameCounts_noteProgress _ observation pending.tolerance)
  split <;> split <;> simp only [GoalRuntimeState.noteFrustration, GoalRuntimeState.countFailure,
    hsame.attempts, hsame.failed, hsame.exit, and_self]

theorem GoalModule.observeSkillStatus_counts (goal : GoalModule K) (status : SkillStatus) :
    (goal.observeSkillStatus status).runtime.attempts = max goal.runtime.attempts status.attempts ∧
    (goal.observeSkillStatus status).runtime.lastExitReason = goal.runtime.lastExitReason ∧
    (goal.observeSkillStatus status).runtime.failedAttempts =
      if status.failed then saturate32 (goal.runtime.failedAttempts + 1)
      else goal.runtime.failedAttempts := by
  unfold GoalModule.observeSkillStatus GoalModule.withRuntime
  dsimp only
  generalize hobservation : ProgressObservation.mk _ _ _ _ = observation
  have hsame := sameCounts_noteProgress goal.runtime observation status.request.progressTolerance
  split <;> split <;> simp only [GoalRuntimeState.countFailure, hsame.attempts, hsame.failed,
    hsame.exit, and_self]

theorem sound_enter {goal : GoalModule K} (h : Sound goal.runtime) : Sound goal.enter.runtime where
  word := h.word
  within := h.within
  cleared hdone := by
    obtain hdone | hdone := hdone
    · cases hdone
    · cases hdone

theorem sound_exit {goal : GoalModule K} (h : Sound goal.runtime) (reason : GoalExitReason) :
    Sound (goal.exit reason).runtime := by
  unfold GoalModule.exit
  dsimp only
  split
  · exact ⟨Nat.zero_le _, Nat.le_refl 0, fun _ => rfl⟩
  · next hreason =>
      refine ⟨h.word, h.within, ?_⟩
      intro hdone
      obtain hdone | hdone := hdone
      · exact absurd (Or.inl (Option.some.inj hdone)) hreason
      · exact absurd (Or.inr (Option.some.inj hdone)) hreason

theorem mem_updateGoal {goals : List (GoalModule K)} {id : GoalId}
    {change : GoalModule K → GoalModule K} {goal : GoalModule K}
    (h : goal ∈ updateGoal goals id change) :
    goal ∈ goals ∨ ∃ old, findGoal goals id = some old ∧ goal = change old := by
  induction goals with
  | nil => cases h
  | cons first rest ih =>
    unfold updateGoal at h
    by_cases hfirst : first.id = id
    · rw [if_pos hfirst] at h
      obtain heq | hmem := List.mem_cons.mp h
      · exact .inr ⟨first, by simp [findGoal, hfirst], heq⟩
      · exact .inl (List.mem_cons_of_mem _ hmem)
    · rw [if_neg hfirst] at h
      obtain heq | hmem := List.mem_cons.mp h
      · rw [heq]
        exact .inl List.mem_cons_self
      · obtain hold | ⟨old, hfound, hchanged⟩ := ih hmem
        · exact .inl (List.mem_cons_of_mem _ hold)
        · refine .inr ⟨old, ?_, hchanged⟩
          simpa [findGoal, hfirst] using hfound

theorem changed_mem_updateGoal {goals : List (GoalModule K)} {id : GoalId}
    {change : GoalModule K → GoalModule K} {old : GoalModule K} (h : findGoal goals id = some old) :
    change old ∈ updateGoal goals id change := by
  induction goals with
  | nil => cases h
  | cons first rest ih =>
    unfold updateGoal
    by_cases hfirst : first.id = id
    · have heq : first = old := by simpa [findGoal, hfirst] using h
      rw [if_pos hfirst, heq]
      exact List.mem_cons_self
    · rw [if_neg hfirst]
      exact List.mem_cons_of_mem _ (ih (by simpa [findGoal, hfirst] using h))

theorem mem_of_findGoal {goals : List (GoalModule K)} {id : GoalId} {goal : GoalModule K}
    (h : findGoal goals id = some goal) : goal ∈ goals := List.mem_of_find?_eq_some h

def AllSound (goals : List (GoalModule K)) : Prop := ∀ goal ∈ goals, Sound goal.runtime

theorem AllSound.update {goals : List (GoalModule K)} (h : AllSound goals) {id : GoalId}
    {change : GoalModule K → GoalModule K}
    (hchange : ∀ old, findGoal goals id = some old → Sound (change old).runtime) :
    AllSound (updateGoal goals id change) := by
  intro goal hgoal
  obtain hold | ⟨old, hfound, rfl⟩ := mem_updateGoal hgoal
  · exact h goal hold
  · exact hchange old hfound

theorem AllSound.of_runtimes {goals goals' : List (GoalModule K)} (h : AllSound goals)
    (hsame : runtimes goals' = runtimes goals) : AllSound goals' := by
  intro goal hgoal
  have hmem : (goal.id, goal.runtime) ∈ runtimes goals' := List.mem_map_of_mem hgoal
  rw [hsame] at hmem
  obtain ⟨other, hother, heq⟩ := List.mem_map.mp hmem
  rw [← (Prod.mk.inj heq).2]
  exact h other hother

theorem AllSound.apply {goals : List (GoalModule K)} (h : AllSound goals) (transition : Transition) :
    AllSound (transition.apply goals) := by
  cases transition with
  | entered id =>
    apply h.update
    intro old hfound
    exact sound_enter (h old (mem_of_findGoal hfound))
  | exited id reason =>
    apply h.update
    intro old hfound
    exact sound_exit (h old (mem_of_findGoal hfound)) reason

theorem AllSound.applyAll {goals : List (GoalModule K)} (h : AllSound goals)
    (transitions : List Transition) : AllSound (transitions.foldl Transition.apply goals) := by
  induction transitions generalizing goals with
  | nil => exact h
  | cons transition rest ih => exact ih (h.apply transition)

section Calls

variable {system : GoalSystem K}

theorem allSound_elapse (h : AllSound system.goals) (world : WorldModelSnapshot K.Details)
    (goalId : GoalId) : AllSound (system.elapse world goalId).goals := by
  apply h.update
  intro old hfound
  exact (h old (mem_of_findGoal hfound)).same ⟨rfl, rfl, rfl⟩

theorem AllSound.beginAttempt {system : GoalSystem K} (h : AllSound system.goals) (world : WorldModelSnapshot K.Details)
    (goalId : GoalId) (decision : BehaviorDecision K.Action) :
    AllSound (system.beginAttempt world goalId decision).goals := by
  apply h.update
  intro old hfound
  have hold := h old (mem_of_findGoal hfound)
  refine ⟨hold.word, ?_, hold.cleared⟩
  have hword := hold.word
  have hwithin := hold.within
  change old.runtime.failedAttempts ≤ saturate32 (old.runtime.attempts + 1)
  unfold saturate32
  omega

theorem allSound_execute (h : AllSound system.goals) (world : WorldModelSnapshot K.Details)
    (goalId : GoalId) (evaluations : List (GoalEvaluation K.Action)) :
    AllSound (system.execute world goalId evaluations).2.goals := by
  unfold GoalSystem.execute
  split
  · exact h
  · exact h
  · next goal evaluation hgoal hevaluation =>
      have hexecuted : AllSound (updateGoal system.goals goalId fun _ =>
          (goal.execute evaluation { world, runtime := goal.runtime }).2) := by
        apply h.update
        intro old hfound
        rw [(goal.execute_keeps evaluation { world, runtime := goal.runtime }).2]
        exact h goal (mem_of_findGoal hgoal)
      dsimp only
      split
      · exact hexecuted
      · split
        · exact hexecuted.beginAttempt _ _ _
        · exact hexecuted

theorem allSound_tick {world : WorldModelSnapshot K.Details} {proposals : List K.Action}
    (h : AllSound (system.observePendingOutcome world).goals) :
    AllSound (system.tick world proposals).2.goals := by
  have hperceived : AllSound (system.perceive world proposals).2.goals :=
    h.of_runtimes (GoalSystem.perceiveGoals_spec ..).1
  unfold GoalSystem.tick
  cases hresult : system.perceive world proposals with
  | mk result observed =>
    rw [hresult] at hperceived
    cases result with
    | error error => exact hperceived
    | ok perceived =>
      have hselected : AllSound (observed.select world perceived).2.goals :=
        hperceived.applyAll _
      dsimp only
      unfold GoalSystem.act
      dsimp only
      split
      · exact hselected
      · exact allSound_execute (allSound_elapse hselected _ _) _ _ _

theorem findGoal_id {goals : List (GoalModule K)} {id : GoalId} {goal : GoalModule K}
    (h : findGoal goals id = some goal) : goal.id = id := by
  have hid := List.find?_some h
  simpa using hid

theorem allSound_observed_iff (h : AllSound system.goals) (world : WorldModelSnapshot K.Details) :
    AllSound (system.observePendingOutcome world).goals ↔
      ∀ id ∈ system.deadlineFailure world, ∀ goal ∈ findGoal system.goals id,
        HasRoom goal.runtime goal.runtime.attempts := by
  unfold GoalSystem.observePendingOutcome GoalSystem.deadlineFailure
  cases hpending : system.pending with
  | none => simp [h]
  | some pending =>
    dsimp only [Option.bind_some]
    by_cases hshort : pending.fallenShort world = true
    · rw [if_pos hshort]
      have hcounted : ∀ goal : GoalModule K, Sound (goal.observeOutcome pending world).runtime ↔
          HasRoom goal.runtime goal.runtime.attempts := by
        intro goal
        obtain ⟨hattempts, hexit, hfailed⟩ := goal.observeOutcome_counts pending world
        rw [if_pos hshort] at hfailed
        rw [sound_counted_iff hfailed hexit, hattempts]
      constructor
      · intro hsound id hid goal hgoal
        obtain ⟨found, hfound, rfl⟩ := Option.map_eq_some_iff.mp hid
        rw [findGoal_id hfound] at hgoal
        exact (hcounted goal).mp (hsound _ (changed_mem_updateGoal hgoal))
      · intro hroom
        apply h.update
        intro old hfound
        have hid := findGoal_id hfound
        exact (hcounted old).mpr (hroom old.id (by rw [hfound]; rfl) old (by rw [hid]; exact hfound))
    · rw [if_neg hshort]
      refine iff_of_true ?_ (fun id hid => by cases hid)
      apply h.update
      intro old hfound
      obtain ⟨hattempts, hexit, hfailed⟩ := old.observeOutcome_counts pending world
      rw [if_neg hshort] at hfailed
      exact (h old (mem_of_findGoal hfound)).same ⟨hattempts, hfailed, hexit⟩

theorem allSound_status_iff (h : AllSound system.goals) (status : SkillStatus) :
    AllSound (system.observeSkillStatus status).goals ↔
      ∀ id ∈ system.statusFailure status, ∀ goal ∈ findGoal system.goals id,
        HasRoom goal.runtime (max goal.runtime.attempts status.attempts) := by
  unfold GoalSystem.observeSkillStatus GoalSystem.statusFailure
  cases hgoalId : status.request.goalId with
  | none => simp [h]
  | some goalId =>
    dsimp only [Option.bind_some]
    by_cases hprocessed : system.alreadyProcessed goalId status = true
    · rw [if_pos hprocessed, if_neg (by simp [hprocessed])]
      exact iff_of_true h (fun id hid => by cases hid)
    · rw [if_neg hprocessed]
      cases hfind : findGoal system.goals goalId with
      | none =>
        refine iff_of_true h (fun id hid => ?_)
        split at hid
        · cases hid
        · cases hid
      | some found =>
        by_cases hfailure : status.failed = true
        · have hif : (if status.failed = true ∧ system.alreadyProcessed goalId status = false then
              (some found).map GoalModule.id else none) = some found.id :=
            if_pos ⟨hfailure, by simpa using hprocessed⟩
          rw [hif]
          have hcounted : Sound (found.observeSkillStatus status).runtime ↔
              HasRoom found.runtime (max found.runtime.attempts status.attempts) := by
            obtain ⟨hattempts, hexit, hfailed⟩ := found.observeSkillStatus_counts status
            rw [if_pos hfailure] at hfailed
            rw [sound_counted_iff hfailed hexit, hattempts]
          constructor
          · intro hsound id hid goal hgoal
            cases hid
            rw [findGoal_id hfind, hfind] at hgoal
            cases hgoal
            exact hcounted.mp (hsound _ (changed_mem_updateGoal hfind))
          · intro hroom
            apply h.update
            intro old hfound
            rw [hfind] at hfound
            cases hfound
            exact hcounted.mpr (hroom found.id rfl found (by rw [findGoal_id hfind]; exact hfind))
        · have hif : (if status.failed = true ∧ system.alreadyProcessed goalId status = false then
              (some found).map GoalModule.id else none) = none :=
            if_neg fun hall => hfailure hall.1
          rw [hif]
          refine iff_of_true ?_ (fun id hid => by cases hid)
          apply h.update
          intro old hfound
          obtain ⟨hattempts, hexit, hfailed⟩ := old.observeSkillStatus_counts status
          rw [if_neg hfailure] at hfailed
          have hold := h old (mem_of_findGoal hfound)
          refine ⟨by rw [hfailed]; exact hold.word, ?_, ?_⟩
          · rw [hfailed, hattempts]
            exact hold.within.trans (Nat.le_max_left _ _)
          · intro hdone
            rw [hfailed]
            apply hold.cleared
            unfold GoalRuntimeState.done at hdone ⊢
            rwa [hexit] at hdone

end Calls

namespace Books

variable {books : Books K}

theorem nodup_chargesTo (id : GoalId) : (books.chargesTo id).Nodup := by
  unfold chargesTo
  cases books.latest id with
  | none => exact List.nodup_nil
  | some number => exact List.nodup_singleton _

theorem nodup_charged_iff {charges more : List Charge} (h : charges.Nodup) (hmore : more.Nodup) :
    (charges ++ more).Nodup ↔ ∀ charge ∈ more, charge ∉ charges := by
  rw [List.nodup_append]
  constructor
  · intro hall charge hcharge hmem
    exact hall.2.2 charge hmem charge hcharge rfl
  · intro hnew
    refine ⟨h, hmore, ?_⟩
    intro charge hmem other hother heq
    rw [heq] at hmem
    exact hnew other hother hmem

theorem observed_iff (h : Balanced books) (world : WorldModelSnapshot K.Details)
    (proposals : List K.Action) :
    Balanced (books.observed world) ↔ CountsOnce books (.tick world proposals) := by
  have hsound := allSound_observed_iff h.sound world
  have honce : (books.observed world).charges.Nodup ↔
      ∀ id ∈ books.system.deadlineFailure world,
        ∀ charge ∈ books.chargesTo id, charge ∉ books.charges := by
    unfold observed
    cases hfailure : books.system.deadlineFailure world with
    | none => simp [h.once]
    | some id =>
      simp only [Option.map_some, Option.getD_some, Option.mem_def, Option.some.injEq, forall_eq']
      exact nodup_charged_iff h.once (nodup_chargesTo id)
  constructor
  · intro hbalanced id hid
    exact ⟨honce.mp hbalanced.once id hid, hsound.mp hbalanced.sound id hid⟩
  · intro hcounts
    exact ⟨hsound.mpr fun id hid => (hcounts id hid).2, honce.mpr fun id hid => (hcounts id hid).1⟩

theorem status_iff (h : Balanced books) (status : SkillStatus) :
    Balanced (books.step (.observeSkillStatus status)) ↔
      CountsOnce books (.observeSkillStatus status) := by
  have hsound := allSound_status_iff h.sound status
  have honce : (books.step (.observeSkillStatus status)).charges.Nodup ↔
      ∀ id ∈ books.system.statusFailure status,
        ∀ charge ∈ .execution id status.executionId :: books.chargesTo id,
          charge ∉ books.charges := by
    unfold step
    dsimp only
    cases hfailure : books.system.statusFailure status with
    | none => simp [h.once]
    | some id =>
      have hnew : (Charge.execution id status.executionId :: books.chargesTo id).Nodup := by
        rw [List.nodup_cons]
        refine ⟨?_, nodup_chargesTo id⟩
        intro hmem
        obtain ⟨number, -, heq⟩ := List.mem_map.mp hmem
        cases heq
      simp only [Option.map_some, Option.getD_some, Option.mem_def, Option.some.injEq, forall_eq']
      exact nodup_charged_iff h.once hnew
  constructor
  · intro hbalanced id hid
    exact ⟨honce.mp hbalanced.once id hid, hsound.mp hbalanced.sound id hid⟩
  · intro hcounts
    exact ⟨hsound.mpr fun id hid => (hcounts id hid).2, honce.mpr fun id hid => (hcounts id hid).1⟩

theorem withAttempt_charges (books : Books K) (id : Option GoalId) :
    (books.withAttempt id).charges = books.charges := by
  cases id with
  | none => rfl
  | some id => rfl

theorem balanced_tick {world : WorldModelSnapshot K.Details} {proposals : List K.Action}
    (h : Balanced (books.observed world)) : Balanced (books.step (.tick world proposals)) where
  sound := allSound_tick h.sound
  once := by
    change ((books.observed world).withAttempt _).charges.Nodup
    rw [withAttempt_charges]
    exact h.once

theorem balanced_step (h : Balanced books) {call : GoalCall K} (hcounts : CountsOnce books call) :
    Balanced (books.step call) := by
  cases call with
  | tick world proposals => exact balanced_tick ((observed_iff h world proposals).mpr hcounts)
  | observeSkillStatus status => exact (status_iff h status).mpr hcounts
  | registerGoal components =>
    refine ⟨?_, h.once⟩
    change AllSound (books.system.registerGoal components).2.goals
    unfold GoalSystem.registerGoal
    split
    · exact h.sound
    · intro goal hgoal
      obtain hold | hnew := List.mem_append.mp hgoal
      · exact h.sound goal hold
      · rw [List.mem_singleton.mp hnew]
        exact ⟨Nat.zero_le _, Nat.le_refl 0, fun _ => rfl⟩
  | suspendForSleep world =>
    refine ⟨?_, h.once⟩
    have hsound : AllSound books.system.goals := h.sound
    exact hsound.applyAll _

theorem run_concat (books : Books K) (calls : List (GoalCall K)) (call : GoalCall K) :
    books.run (calls ++ [call]) = (books.run calls).step call := List.foldl_concat ..

end Books

section Runs

variable {drives : K.Drives} {goals : List (GoalComponents K)} {calls : List (GoalCall K)}

theorem balanced_withGoals (drives : K.Drives) (goals : List (GoalComponents K)) :
    Balanced ({ system := GoalSystem.withGoals drives goals } : Books K) where
  sound goal hgoal := by
    obtain ⟨components, -, rfl⟩ := List.mem_map.mp hgoal
    exact ⟨Nat.zero_le _, Nat.le_refl 0, fun _ => rfl⟩
  once := List.nodup_nil

theorem AlwaysCountsOnce.balanced (h : AlwaysCountsOnce drives goals calls) :
    Balanced (Books.run { system := GoalSystem.withGoals drives goals } calls) := by
  induction calls using List.reverseRecOn with
  | nil => exact balanced_withGoals drives goals
  | append_singleton before call ih =>
    rw [Books.run_concat]
    have hbefore : AlwaysCountsOnce drives goals before := fun earlier last hshort =>
      h earlier last (hshort.trans (List.prefix_append _ _))
    exact Books.balanced_step (ih hbefore) (h before call (List.prefix_refl _))

/-- The accounts are right throughout a run if and only if every call counts a failure only in a
goal with room, and once for an attempt and an execution. -/
theorem keepsAccounts_iff (drives : K.Drives) (goals : List (GoalComponents K))
    (calls : List (GoalCall K)) :
    KeepsAccounts drives goals calls ↔ AlwaysCountsOnce drives goals calls := by
  constructor
  · intro h before call hpart
    have hbefore := (h before ((List.prefix_append _ _).trans hpart)).1
    cases call with
    | tick world proposals =>
      exact (Books.observed_iff hbefore world proposals).mp
        ((h before ((List.prefix_append _ _).trans hpart)).2 world proposals hpart)
    | observeSkillStatus status =>
      apply (Books.status_iff hbefore status).mp
      rw [← Books.run_concat]
      exact (h _ hpart).1
    | registerGoal components => trivial
    | suspendForSleep world => trivial
  · intro h before hpart
    have hcounts : AlwaysCountsOnce drives goals before := fun earlier last hshort =>
      h earlier last (hshort.trans hpart)
    refine ⟨hcounts.balanced, ?_⟩
    intro world proposals hticks
    exact (Books.observed_iff hcounts.balanced world proposals).mpr (h before _ hticks)

/-- A domain in which there is nothing to see. -/
def plain : Domain where
  Details := Unit
  Drives := Unit
  DriveSnapshot := Unit
  update _ _ := ((), ())
  Interpretation := Unit
  Action := Unit

theorem silent_own (_ : EvaluatorState) (_ : plain.Interpretation)
    (_ : GoalEvaluationContext plain) (evaluation : GoalEvaluation plain.Action)
    (next : EvaluatorState)
    (h : (.error "silent" : Except String (GoalEvaluation plain.Action × EvaluatorState)) =
      .ok (evaluation, next)) : evaluation.goalId = ⟨"explore"⟩ := by
  cases h

/-- A goal whose parts all fail. -/
def silent : GoalComponents plain where
  id := ⟨"explore"⟩
  interpret _ _ := .error "silent"
  evaluate _ _ _ := .error "silent"
  execute _ _ _ := .error "silent"
  own := silent_own

/-- The end of an execution of a skill for that goal, which was the n-th. -/
def timedOut (executionId attempts : Nat) : SkillStatus where
  request := ⟨.wallFollow, some ⟨"explore"⟩, some "wander", "", none, 0⟩
  executionId := executionId
  phase := .terminal
  outcome := some .timedOut
  progress := none
  attempts := attempts
  updatedAtMs := 2000

/-- The first execution is reported again after the second, and counted again. -/
theorem report_counted_twice :
    ¬ KeepsAccounts () [silent] [.observeSkillStatus (timedOut 7 1),
      .observeSkillStatus (timedOut 8 2), .observeSkillStatus (timedOut 7 1)] := by
  intro h
  have hsound := (h _ (List.prefix_refl _)).1.sound
  have hcounts : ((Books.run { system := GoalSystem.withGoals () [silent] }
      [.observeSkillStatus (timedOut 7 1), .observeSkillStatus (timedOut 8 2),
        .observeSkillStatus (timedOut 7 1)]).system.goals.map fun goal =>
          (goal.runtime.failedAttempts, goal.runtime.attempts)) = [(3, 2)] := by decide
  obtain ⟨goal, hgoal, heq⟩ := List.mem_map.mp (hcounts ▸ List.mem_singleton_self (3, 2))
  have hwithin := (hsound goal hgoal).within
  rw [(Prod.mk.inj heq).1, (Prod.mk.inj heq).2] at hwithin
  omega

end Runs

end Netherwick.Conductor
