import Netherwick.Conductor.System

/-! # One goal at a time

The commitment lives in the arbiter and the flags of activity in the goals. Whatever is called, and
wherever a goal fails, the two change together. -/

namespace Netherwick.Conductor

variable {K : Domain}

def flags (goals : List (GoalModule K)) : List (GoalId × Bool) :=
  goals.map fun goal => (goal.id, goal.runtime.active)

def ids (goals : List (GoalModule K)) : List GoalId := goals.map GoalModule.id

def setFlag (id : GoalId) (active : Bool) : List (GoalId × Bool) → List (GoalId × Bool)
  | [] => []
  | flag :: rest => if flag.1 = id then (flag.1, active) :: rest else flag :: setFlag id active rest

def lowered (names : List GoalId) : List (GoalId × Bool) := names.map fun id => (id, false)

/-- The flags when the first goal of the committed name is active and no other. -/
def marked (committed : Option GoalId) (names : List GoalId) : List (GoalId × Bool) :=
  match committed with
  | none => lowered names
  | some id => setFlag id true (lowered names)

theorem setFlag_setFlag (id : GoalId) (a b : Bool) (l : List (GoalId × Bool)) :
    setFlag id a (setFlag id b l) = setFlag id a l := by
  induction l with
  | nil => rfl
  | cons flag rest ih =>
    by_cases h : flag.1 = id
    · simp [setFlag, h]
    · simp [setFlag, h, ih]

theorem setFlag_lowered (id : GoalId) (names : List GoalId) :
    setFlag id false (lowered names) = lowered names := by
  induction names with
  | nil => rfl
  | cons name rest ih =>
    unfold lowered at ih ⊢
    by_cases h : name = id
    · simp [setFlag, h]
    · simp [setFlag, h, ih]

theorem setFlag_marked (id : GoalId) (names : List GoalId) :
    setFlag id false (marked (some id) names) = lowered names := by
  rw [marked, setFlag_setFlag, setFlag_lowered]

theorem setFlag_append {id : GoalId} {active : Bool} {l : List (GoalId × Bool)}
    (h : id ∈ l.map Prod.fst) (more : List (GoalId × Bool)) :
    setFlag id active (l ++ more) = setFlag id active l ++ more := by
  induction l with
  | nil => cases h
  | cons flag rest ih =>
    by_cases hflag : flag.1 = id
    · simp [setFlag, hflag]
    · have hrest : id ∈ rest.map Prod.fst := by
        obtain heq | hmem := List.mem_cons.mp h
        · exact absurd heq.symm hflag
        · exact hmem
      simp [setFlag, hflag, ih hrest]

theorem fst_lowered (names : List GoalId) : (lowered names).map Prod.fst = names := by
  simp [lowered, Function.comp_def]

theorem ids_updateGoal (change : GoalModule K → GoalModule K) {id : GoalId}
    (h : ∀ goal, (change goal).id = goal.id) (goals : List (GoalModule K)) :
    ids (updateGoal goals id change) = ids goals := by
  induction goals with
  | nil => rfl
  | cons goal rest ih =>
    unfold ids at ih ⊢
    by_cases hid : goal.id = id
    · simp [updateGoal, hid, h]
    · simp [updateGoal, hid, ih]

theorem flags_updateGoal (change : GoalModule K → GoalModule K) {id : GoalId}
    (h : ∀ goal, (change goal).id = goal.id)
    (hactive : ∀ goal, (change goal).runtime.active = goal.runtime.active)
    (goals : List (GoalModule K)) : flags (updateGoal goals id change) = flags goals := by
  induction goals with
  | nil => rfl
  | cons goal rest ih =>
    unfold flags at ih ⊢
    by_cases hid : goal.id = id
    · simp [updateGoal, hid, h, hactive]
    · simp [updateGoal, hid, ih]

theorem flags_updateGoal_found {goals : List (GoalModule K)} {goal goal' : GoalModule K} {id : GoalId}
    (h : findGoal goals id = some goal) (hid : goal'.id = goal.id)
    (hactive : goal'.runtime.active = goal.runtime.active) :
    flags (updateGoal goals id fun _ => goal') = flags goals := by
  induction goals with
  | nil => rfl
  | cons first rest ih =>
    unfold flags at ih ⊢
    by_cases hfirst : first.id = id
    · have heq : first = goal := by simpa [findGoal, hfirst] using h
      subst heq
      simp [updateGoal, hfirst, hid, hactive]
    · have hrest : findGoal rest id = some goal := by simpa [findGoal, hfirst] using h
      simp [updateGoal, hfirst, ih hrest]

theorem flags_setActive (change : GoalModule K → GoalModule K) {id : GoalId} {active : Bool}
    (h : ∀ goal, (change goal).id = goal.id) (hactive : ∀ goal, (change goal).runtime.active = active)
    (goals : List (GoalModule K)) :
    flags (updateGoal goals id change) = setFlag id active (flags goals) := by
  induction goals with
  | nil => rfl
  | cons goal rest ih =>
    unfold flags at ih ⊢
    by_cases hid : goal.id = id
    · simp [updateGoal, setFlag, hid, h, hactive]
    · simp [updateGoal, setFlag, hid, ih]

theorem GoalModule.exit_active (goal : GoalModule K) (reason : GoalExitReason) :
    (goal.exit reason).runtime.active = false := by
  unfold GoalModule.exit
  simp only
  split <;> rfl

theorem flags_exited (goals : List (GoalModule K)) (id : GoalId) (reason : GoalExitReason) :
    flags (Transition.apply goals (.exited id reason)) = setFlag id false (flags goals) :=
  flags_setActive (fun goal => goal.exit reason) (fun _ => rfl)
    (fun goal => goal.exit_active reason) goals

theorem flags_entered (goals : List (GoalModule K)) (id : GoalId) :
    flags (Transition.apply goals (.entered id)) = setFlag id true (flags goals) :=
  flags_setActive GoalModule.enter (fun _ => rfl) (fun _ => rfl) goals

theorem ids_apply (goals : List (GoalModule K)) (transition : Transition) :
    ids (transition.apply goals) = ids goals := by
  cases transition with
  | entered id => exact ids_updateGoal GoalModule.enter (fun _ => rfl) goals
  | exited id reason => exact ids_updateGoal (fun goal => goal.exit reason) (fun _ => rfl) goals

theorem isSome_findGoal {goals : List (GoalModule K)} {id : GoalId} :
    (findGoal goals id).isSome = true ↔ id ∈ ids goals := by
  rw [findGoal, List.find?_isSome, ids, List.mem_map]
  simp

theorem GoalRuntimeState.noteProgress_active (runtime : GoalRuntimeState)
    (observation : ProgressObservation) (tolerance : Float32) :
    (runtime.noteProgress observation tolerance).active = runtime.active := by
  unfold GoalRuntimeState.noteProgress
  split <;> rfl

theorem GoalRuntimeState.noteConfidence_active (runtime : GoalRuntimeState)
    (confidence : Option Float32) : (runtime.noteConfidence confidence).active = runtime.active := by
  unfold GoalRuntimeState.noteConfidence
  split <;> rfl

theorem GoalModule.observeOutcome_active (goal : GoalModule K) (pending : PendingOutcome)
    (world : WorldModelSnapshot K.Details) :
    (goal.observeOutcome pending world).runtime.active = goal.runtime.active := by
  unfold GoalModule.observeOutcome GoalModule.withRuntime
  dsimp only
  split <;> split <;> simp only [GoalRuntimeState.noteFrustration, GoalRuntimeState.countFailure,
    GoalRuntimeState.noteProgress_active, GoalRuntimeState.noteConfidence_active]

theorem GoalModule.observeSkillStatus_active (goal : GoalModule K) (status : SkillStatus) :
    (goal.observeSkillStatus status).runtime.active = goal.runtime.active := by
  unfold GoalModule.observeSkillStatus GoalModule.withRuntime
  dsimp only
  split <;> split <;> simp only [GoalRuntimeState.countFailure, GoalRuntimeState.noteProgress_active]

theorem filter_active_of_flags {goals : List (GoalModule K)} {committed : Option GoalId}
    (h : flags goals = marked committed (ids goals)) :
    goals.filter (fun goal => goal.runtime.active) = (committed.bind (findGoal goals)).toList := by
  have hlow : ∀ goals : List (GoalModule K), flags goals = lowered (ids goals) →
      goals.filter (fun goal => goal.runtime.active) = [] := by
    intro goals hflags
    induction goals with
    | nil => rfl
    | cons goal rest ih =>
      obtain ⟨hfirst, hrest⟩ := List.cons.inj hflags
      have hactive : goal.runtime.active = false := (Prod.mk.inj hfirst).2
      rw [List.filter_cons_of_neg (by simp [hactive]), ih hrest]
  cases committed with
  | none => exact hlow goals h
  | some id =>
    induction goals with
    | nil => rfl
    | cons goal rest ih =>
      by_cases hid : goal.id = id
      · have hsplit : flags (goal :: rest) = (goal.id, true) :: lowered (ids rest) := by
          rw [h]
          simp [marked, ids, lowered, setFlag, hid]
        obtain ⟨hfirst, hrest⟩ := List.cons.inj hsplit
        have hactive : goal.runtime.active = true := (Prod.mk.inj hfirst).2
        rw [List.filter_cons_of_pos (by simp [hactive]), hlow rest hrest]
        simp [findGoal, hid]
      · have hsplit : flags (goal :: rest) = (goal.id, false) :: marked (some id) (ids rest) := by
          rw [h]
          simp [marked, ids, lowered, setFlag, hid]
        obtain ⟨hfirst, hrest⟩ := List.cons.inj hsplit
        have hactive : goal.runtime.active = false := (Prod.mk.inj hfirst).2
        rw [List.filter_cons_of_neg (by simp [hactive]), ih hrest]
        simp [findGoal, hid]

/-- The names of the goals with what they keep of their runs. -/
def runtimes (goals : List (GoalModule K)) : List (GoalId × GoalRuntimeState) :=
  goals.map fun goal => (goal.id, goal.runtime)

theorem flags_of_runtimes {goals goals' : List (GoalModule K)} (h : runtimes goals = runtimes goals') :
    flags goals = flags goals' := by
  have hmap := congrArg (List.map fun pair : GoalId × GoalRuntimeState => (pair.1, pair.2.active)) h
  simpa [runtimes, flags, Function.comp_def] using hmap

theorem ids_of_flags {goals goals' : List (GoalModule K)} (h : flags goals = flags goals') :
    ids goals = ids goals' := by
  have hmap := congrArg (List.map Prod.fst) h
  simpa [ids, flags, Function.comp_def] using hmap

theorem GoalModule.interpret_keeps (goal : GoalModule K) (context : GoalInterpretationContext K) :
    (goal.interpret context).2.components = goal.components ∧
      (goal.interpret context).2.runtime = goal.runtime := by
  unfold GoalModule.interpret
  split <;> exact ⟨rfl, rfl⟩

theorem GoalModule.evaluate_keeps (goal : GoalModule K) (interpretation : K.Interpretation)
    (context : GoalEvaluationContext K) :
    (goal.evaluate interpretation context).2.components = goal.components ∧
      (goal.evaluate interpretation context).2.runtime = goal.runtime := by
  unfold GoalModule.evaluate
  split <;> exact ⟨rfl, rfl⟩

theorem GoalModule.execute_keeps (goal : GoalModule K) (evaluation : GoalEvaluation K.Action)
    (context : GoalExecutionContext K) :
    (goal.execute evaluation context).2.components = goal.components ∧
      (goal.execute evaluation context).2.runtime = goal.runtime := by
  unfold GoalModule.execute
  split <;> exact ⟨rfl, rfl⟩

theorem GoalModule.evaluate_own {goal : GoalModule K} {interpretation : K.Interpretation}
    {context : GoalEvaluationContext K} {evaluation : GoalEvaluation K.Action}
    (h : (goal.evaluate interpretation context).1 = .ok evaluation) : evaluation.goalId = goal.id := by
  unfold GoalModule.evaluate at h
  split at h
  · next other next heq =>
      cases h
      exact goal.components.own _ _ _ _ _ heq
  · cases h

namespace GoalSystem

theorem perceiveGoals_spec (world : WorldModelSnapshot K.Details) (drives : K.DriveSnapshot)
    (proposals : List K.Action) (goals : List (GoalModule K)) :
    runtimes (perceiveGoals world drives proposals goals).2 = runtimes goals ∧
      ∀ perceived, (perceiveGoals world drives proposals goals).1 = .ok perceived →
        perceived.evaluations.map GoalEvaluation.goalId = ids goals := by
  induction goals with
  | nil =>
    refine ⟨rfl, ?_⟩
    intro perceived h
    cases h
    rfl
  | cons goal rest ih =>
    have hinterpret := goal.interpret_keeps
      { world, drives, runtime := goal.runtime, suggestions := proposals }
    unfold perceiveGoals
    dsimp only
    cases hfirst : goal.interpret
        { world, drives, runtime := goal.runtime, suggestions := proposals } with
    | mk result first =>
      rw [hfirst] at hinterpret
      dsimp only at hinterpret
      cases result with
      | error error =>
        refine ⟨?_, fun perceived h => by cases h⟩
        simp [runtimes, GoalModule.id, hinterpret]
      | ok interpretation =>
        have hevaluate := first.evaluate_keeps interpretation
          { world, drives, runtime := goal.runtime }
        simp only
        cases hsecond : first.evaluate interpretation
            { world, drives, runtime := goal.runtime } with
        | mk result second =>
          rw [hsecond] at hevaluate
          dsimp only at hevaluate
          have hgoal : (second.id, second.runtime) = (goal.id, goal.runtime) := by
            simp [GoalModule.id, hevaluate, hinterpret]
          cases result with
          | error error =>
            refine ⟨?_, fun perceived h => by cases h⟩
            unfold runtimes
            rw [List.map_cons, List.map_cons, hgoal]
          | ok evaluation =>
            have hown : evaluation.goalId = goal.id := by
              have := GoalModule.evaluate_own (congrArg Prod.fst hsecond)
              rw [this, GoalModule.id, hinterpret.1]
              rfl
            obtain ⟨hruntimes, hevaluations⟩ := ih
            cases hothers : perceiveGoals world drives proposals rest with
            | mk result others =>
              rw [hothers] at hruntimes hevaluations
              have hall : runtimes (second :: others) = runtimes (goal :: rest) := by
                unfold runtimes at hruntimes ⊢
                rw [List.map_cons, List.map_cons, hgoal, hruntimes]
              cases result with
              | error error => exact ⟨hall, fun perceived h => by cases h⟩
              | ok perceived =>
                refine ⟨hall, ?_⟩
                intro whole h
                cases h
                have hrest := hevaluations perceived rfl
                simp only [List.map_cons, ids] at hrest ⊢
                rw [hown, hrest]

end GoalSystem

/-- Goals are left and entered in turn, and the one that was entered last is committed to. -/
inductive History : List Transition → Option GoalId → Prop
  | nil : History [] none
  | entered (log : List Transition) (id : GoalId) (idle : History log none) :
      History (log ++ [.entered id]) (some id)
  | exited (log : List Transition) (id : GoalId) (reason : GoalExitReason)
      (busy : History log (some id)) : History (log ++ [.exited id reason]) none

/-- Enters and exits of one goal, in turn. -/
def alternating : Bool → List Transition → Bool
  | _, [] => true
  | inside, .entered _ :: rest => !inside && alternating true rest
  | inside, .exited _ _ :: rest => inside && alternating false rest

def insideAfter : Bool → List Transition → Bool
  | inside, [] => inside
  | _, .entered _ :: rest => insideAfter true rest
  | _, .exited _ _ :: rest => insideAfter false rest

theorem alternating_append (inside : Bool) (log more : List Transition) :
    alternating inside (log ++ more) =
      (alternating inside log && alternating (insideAfter inside log) more) := by
  induction log generalizing inside with
  | nil => rfl
  | cons transition rest ih =>
    cases transition with
    | entered id => simp [alternating, insideAfter, ih, Bool.and_assoc]
    | exited id reason => simp [alternating, insideAfter, ih, Bool.and_assoc]

theorem insideAfter_append (inside : Bool) (log more : List Transition) :
    insideAfter inside (log ++ more) = insideAfter (insideAfter inside log) more := by
  induction log generalizing inside with
  | nil => rfl
  | cons transition rest ih =>
    cases transition with
    | entered id => exact ih true
    | exited id reason => exact ih false

def ownTransitions (id : GoalId) (log : List Transition) : List Transition :=
  log.filter fun transition => transition.goalId = id

theorem ownTransitions_concat (id : GoalId) (log : List Transition) (transition : Transition) :
    ownTransitions id (log ++ [transition]) =
      ownTransitions id log ++ if transition.goalId = id then [transition] else [] := by
  rw [ownTransitions, List.filter_append]
  by_cases h : transition.goalId = id
  · rw [List.filter_cons_of_pos (by simpa using h), if_pos h]
    rfl
  · rw [List.filter_cons_of_neg (by simpa using h), if_neg h]
    rfl

theorem History.insideAfter_own {log : List Transition} {committed : Option GoalId}
    (h : History log committed) (id : GoalId) :
    insideAfter false (ownTransitions id log) = decide (committed = some id) := by
  induction h with
  | nil => rfl
  | entered log other idle ih =>
    rw [ownTransitions_concat, insideAfter_append, ih]
    by_cases hid : other = id
    · simp [insideAfter, Transition.goalId, hid]
    · simp [insideAfter, Transition.goalId, hid]
  | exited log other reason busy ih =>
    rw [ownTransitions_concat, insideAfter_append, ih]
    by_cases hid : other = id
    · simp [insideAfter, Transition.goalId, hid]
    · simp [insideAfter, Transition.goalId, hid]

theorem History.alternates {log : List Transition} {committed : Option GoalId}
    (h : History log committed) (id : GoalId) :
    alternating false (ownTransitions id log) = true := by
  induction h with
  | nil => rfl
  | entered log other idle ih =>
    rw [ownTransitions_concat, alternating_append, ih, idle.insideAfter_own]
    by_cases hid : other = id
    · simp [alternating, Transition.goalId, hid]
    · simp [alternating, Transition.goalId, hid]
  | exited log other reason busy ih =>
    rw [ownTransitions_concat, alternating_append, ih, busy.insideAfter_own]
    by_cases hid : other = id
    · simp [alternating, Transition.goalId, hid]
    · simp [alternating, Transition.goalId, hid]

theorem History.getLast? {log : List Transition} {id : GoalId} (h : History log (some id)) :
    log.getLast? = some (.entered id) := by
  cases h with
  | entered log id idle => exact List.getLast?_concat

/-- The flags are those of the commitment, which is to a registered goal, and so are the goals that
have been left and entered. -/
structure Committed (system : GoalSystem K) (log : List Transition) : Prop where
  flags : flags system.goals = marked system.arbiter.currentGoal (ids system.goals)
  registered : ∀ id ∈ system.arbiter.currentGoal, id ∈ ids system.goals
  history : History log system.arbiter.currentGoal

namespace Committed

variable {system : GoalSystem K} {log : List Transition}

theorem same {system' : GoalSystem K} (h : Committed system log)
    (hflags : Conductor.flags system'.goals = Conductor.flags system.goals)
    (harbiter : system'.arbiter = system.arbiter) : Committed system' log where
  flags := by rw [hflags, harbiter, ids_of_flags hflags, h.flags]
  registered id hid := by
    rw [harbiter] at hid
    rw [ids_of_flags hflags]
    exact h.registered id hid
  history := by
    rw [harbiter]
    exact h.history

theorem exited {id : GoalId} (h : Committed system log) (hid : system.arbiter.currentGoal = some id)
    (reason : GoalExitReason) :
    Conductor.flags (Transition.apply system.goals (.exited id reason)) =
        lowered (ids system.goals) ∧ History (log ++ [.exited id reason]) none := by
  constructor
  · rw [flags_exited, h.flags, hid, setFlag_marked]
  · apply History.exited
    rw [← hid]
    exact h.history

theorem withGoals (drives : K.Drives) (goals : List (GoalComponents K)) :
    Committed (GoalSystem.withGoals drives goals) [] where
  flags := by
    simp [GoalSystem.withGoals, Conductor.flags, ids, lowered, GoalArbiter.currentGoal, marked,
      Function.comp_def, GoalModule.fromComponents, GoalModule.id]
  registered id hid := by cases hid
  history := History.nil

theorem registerGoal (h : Committed system log) (components : GoalComponents K) :
    Committed (system.registerGoal components).2 log := by
  unfold GoalSystem.registerGoal
  split
  · exact h
  · refine ⟨?_, ?_, h.history⟩
    · have hflags : Conductor.flags (system.goals ++ [GoalModule.fromComponents components]) =
          Conductor.flags system.goals ++ lowered [components.id] := by
        simp [Conductor.flags, lowered, GoalModule.fromComponents, GoalModule.id]
      have hids : ids (system.goals ++ [GoalModule.fromComponents components]) =
          ids system.goals ++ [components.id] := by
        simp [ids, GoalModule.fromComponents, GoalModule.id]
      rw [hflags, hids, h.flags]
      cases hcommitted : system.arbiter.currentGoal with
      | none => simp [marked, lowered]
      | some id =>
        have hmem := h.registered id hcommitted
        simp only [marked]
        rw [show lowered (ids system.goals ++ [components.id]) =
          lowered (ids system.goals) ++ lowered [components.id] by simp [lowered],
          setFlag_append (by rw [fst_lowered]; exact hmem)]
    · intro id hid
      have hmem := h.registered id hid
      simp only [ids, List.map_append, List.mem_append]
      exact .inl hmem

theorem observePendingOutcome (h : Committed system log) (world : WorldModelSnapshot K.Details) :
    Committed (system.observePendingOutcome world) log := by
  unfold GoalSystem.observePendingOutcome
  split
  · exact h
  · apply h.same
    · apply flags_updateGoal
      · intro goal
        rfl
      · intro goal
        exact goal.observeOutcome_active _ _
    · rfl

theorem observeSkillStatus (h : Committed system log) (status : SkillStatus) :
    Committed (system.observeSkillStatus status) log := by
  unfold GoalSystem.observeSkillStatus
  split
  · exact h
  · split
    · exact h
    · split
      · exact h
      · apply h.same
        · apply flags_updateGoal
          · intro goal
            rfl
          · intro goal
            exact goal.observeSkillStatus_active status
        · rfl

theorem perceive (h : Committed system log) (world : WorldModelSnapshot K.Details)
    (proposals : List K.Action) : Committed (system.perceive world proposals).2 log := by
  have hobserved := h.observePendingOutcome world
  apply hobserved.same
  · exact flags_of_runtimes (GoalSystem.perceiveGoals_spec ..).1
  · rfl

theorem changed (h : Committed system log) {selection : GoalSelection} {next : GoalArbiter}
    (hregistered : ∀ id ∈ next.currentGoal, id ∈ ids system.goals)
    (hselected : selection.selectedGoal = next.currentGoal) (hmoved : selection.switched = true) :
    Committed { system with
        arbiter := next
        goals := (system.changeOver selection).foldl Transition.apply system.goals }
      (log ++ system.changeOver selection) := by
  have hleft : ∃ left : List Transition, system.changeOver selection =
      left ++ (next.currentGoal.map Transition.entered).toList ∧
      Conductor.flags (left.foldl Transition.apply system.goals) = lowered (ids system.goals) ∧
      ids (left.foldl Transition.apply system.goals) = ids system.goals ∧
      History (log ++ left) none := by
    have hentered : ((selection.selectedGoal.map Transition.entered).toList).filter
        (fun transition => (findGoal system.goals transition.goalId).isSome) =
          (next.currentGoal.map Transition.entered).toList := by
      rw [hselected, List.filter_eq_self]
      intro transition htransition
      cases hcurrent : next.currentGoal with
      | none =>
        rw [hcurrent] at htransition
        cases htransition
      | some id =>
        rw [hcurrent] at htransition
        rw [List.mem_singleton.mp htransition]
        exact isSome_findGoal.mpr (hregistered id hcurrent)
    unfold GoalSystem.changeOver
    rw [if_pos hmoved, List.filter_append, hentered]
    cases hcommitted : system.arbiter.currentGoal with
    | none =>
      refine ⟨[], rfl, ?_, rfl, ?_⟩
      · rw [List.foldl_nil, h.flags, hcommitted]
        rfl
      · rw [List.append_nil, ← hcommitted]
        exact h.history
    | some id =>
      obtain ⟨hflags, hhistory⟩ := h.exited hcommitted (selection.exitReason.getD .superseded)
      have hfound := isSome_findGoal.mpr (h.registered id hcommitted)
      refine ⟨[.exited id (selection.exitReason.getD .superseded)], ?_, hflags, ?_, hhistory⟩
      · simp [Transition.goalId, hfound]
      · exact ids_apply system.goals (.exited id (selection.exitReason.getD .superseded))
  obtain ⟨left, heq, hflags, hids, hhistory⟩ := hleft
  rw [heq, List.foldl_append, ← List.append_assoc]
  cases hcurrent : next.currentGoal with
  | none =>
    refine ⟨?_, ?_, ?_⟩
    · simp only [hcurrent, Option.map_none, Option.toList_none, List.foldl_nil, hids]
      exact hflags
    · intro id hid
      rw [hcurrent] at hid
      cases hid
    · simp only [hcurrent, Option.map_none, Option.toList_none, List.append_nil]
      exact hhistory
  | some id =>
    have hmem := hregistered id hcurrent
    refine ⟨?_, ?_, ?_⟩
    · simp only [hcurrent, Option.map_some, Option.toList_some, List.foldl_cons, List.foldl_nil,
        flags_entered, ids_apply, hids, hflags]
      rfl
    · intro other hother
      rw [hcurrent] at hother
      cases hother
      simp only [Option.map_some, Option.toList_some, List.foldl_cons, List.foldl_nil,
        ids_apply, hids]
      exact hmem
    · simp only [hcurrent, Option.map_some, Option.toList_some]
      exact History.entered _ _ hhistory

theorem select (h : Committed system log) (world : WorldModelSnapshot K.Details)
    (perceived : GoalSystem.Perceived K)
    (hown : perceived.evaluations.map GoalEvaluation.goalId = ids system.goals) :
    Committed (system.select world perceived).2 (log ++ system.changeOver
      (system.arbiter.select world.tMs perceived.evaluations).1) := by
  have hselects := system.arbiter.select_selects world.tMs perceived.evaluations
  unfold GoalSystem.select
  generalize system.arbiter.select world.tMs perceived.evaluations = result at hselects ⊢
  cases hselects with
  | stays selection next kept same selected =>
    have hnone : system.changeOver selection = [] := by
      rw [GoalSystem.changeOver, if_neg (by simp [kept])]
    dsimp only
    rw [hnone, List.append_nil]
    refine ⟨?_, ?_, ?_⟩
    · rw [same]
      exact h.flags
    · rw [same]
      exact h.registered
    · rw [same]
      exact h.history
  | passes selection next moved passed selected =>
    apply h.changed _ selected moved
    intro id hid
    rw [passed] at hid
    obtain ⟨best, hbest, rfl⟩ := Option.map_eq_some_iff.mp hid
    rw [← hown]
    exact List.mem_map_of_mem (List.mem_filter.mp (GoalArbiter.favourite_mem _ hbest)).1

theorem elapse (h : Committed system log) (world : WorldModelSnapshot K.Details) (goalId : GoalId) :
    Committed (system.elapse world goalId) log := by
  apply h.same
  · apply flags_updateGoal
    · intro goal
      rfl
    · intro goal
      rfl
  · rfl

theorem beginAttempt (h : Committed system log) (world : WorldModelSnapshot K.Details)
    (goalId : GoalId) (decision : BehaviorDecision K.Action) :
    Committed (system.beginAttempt world goalId decision) log := by
  apply h.same
  · apply flags_updateGoal
    · intro goal
      rfl
    · intro goal
      rfl
  · rfl

theorem execute (h : Committed system log) (world : WorldModelSnapshot K.Details) (goalId : GoalId)
    (evaluations : List (GoalEvaluation K.Action)) :
    Committed (system.execute world goalId evaluations).2 log := by
  unfold GoalSystem.execute
  split
  · exact h
  · exact h
  · next goal evaluation hgoal hevaluation =>
      have hexecuted : Committed { system with goals := updateGoal system.goals goalId fun _ =>
          (goal.execute evaluation { world, runtime := goal.runtime }).2 } log := by
        apply h.same
        · obtain ⟨hcomponents, hruntime⟩ := goal.execute_keeps evaluation
            { world, runtime := goal.runtime }
          apply flags_updateGoal_found hgoal
          · rw [GoalModule.id, hcomponents]
            rfl
          · rw [hruntime]
        · rfl
      dsimp only
      split
      · exact hexecuted
      · split
        · exact hexecuted.beginAttempt _ _ _
        · exact hexecuted

theorem act (h : Committed system log) (world : WorldModelSnapshot K.Details)
    (perceived : GoalSystem.Perceived K)
    (hown : perceived.evaluations.map GoalEvaluation.goalId = ids system.goals) :
    Committed (system.act world perceived).2 (log ++ system.changeOver
      (system.arbiter.select world.tMs perceived.evaluations).1) := by
  have hselected := h.select world perceived hown
  unfold GoalSystem.act
  dsimp only
  split
  · exact hselected.same rfl rfl
  · exact (hselected.elapse _ _).execute _ _ _

theorem tick (h : Committed system log) (world : WorldModelSnapshot K.Details)
    (proposals : List K.Action) :
    Committed (system.tick world proposals).2 (log ++ system.tickTransitions world proposals) := by
  have hperceived := h.perceive world proposals
  have hspec := GoalSystem.perceiveGoals_spec world
    (K.update (system.observePendingOutcome world).drives world).1 proposals
    (system.observePendingOutcome world).goals
  unfold GoalSystem.tick GoalSystem.tickTransitions
  cases hresult : system.perceive world proposals with
  | mk result observed =>
    rw [hresult] at hperceived
    cases result with
    | error error =>
      dsimp only
      rw [List.append_nil]
      exact hperceived
    | ok perceived =>
      apply hperceived.act world perceived
      obtain ⟨hresult, hobserved⟩ := Prod.mk.inj hresult
      rw [hspec.2 perceived hresult, ← hobserved]
      exact (ids_of_flags (flags_of_runtimes hspec.1)).symm

theorem suspendForSleep (h : Committed system log) (world : WorldModelSnapshot K.Details) :
    Committed (system.suspendForSleep world).2 (log ++ system.sleepTransitions) := by
  unfold GoalSystem.suspendForSleep GoalSystem.sleepTransitions
  dsimp only
  cases hcommitted : system.arbiter.currentGoal with
  | none =>
    refine ⟨?_, fun id hid => (by cases hid), ?_⟩
    · have hflags := h.flags
      rw [hcommitted] at hflags
      exact hflags
    · have hhistory := h.history
      rw [hcommitted] at hhistory
      rw [Option.map_none, Option.toList_none, List.filter_nil, List.append_nil]
      exact hhistory
  | some id =>
    have hfound := isSome_findGoal.mpr (h.registered id hcommitted)
    obtain ⟨hflags, hhistory⟩ := h.exited hcommitted .sleep
    have hexits : ((Option.map (fun goalId => Transition.exited goalId .sleep)
        (some id)).toList.filter fun transition =>
          (findGoal system.goals transition.goalId).isSome) = [.exited id .sleep] := by
      simp [Transition.goalId, hfound]
    rw [hexits]
    refine ⟨?_, fun other hother => (by cases hother), hhistory⟩
    rw [List.foldl_cons, List.foldl_nil, hflags, ids_apply]
    rfl

theorem step (h : Committed system log) (call : GoalCall K) :
    Committed (system.step call) (log ++ system.transitions call) := by
  cases call with
  | tick world proposals => exact h.tick world proposals
  | registerGoal components =>
    rw [GoalSystem.transitions, List.append_nil]
    exact h.registerGoal components
  | observeSkillStatus status =>
    rw [GoalSystem.transitions, List.append_nil]
    exact h.observeSkillStatus status
  | suspendForSleep world => exact h.suspendForSleep world

end Committed

namespace GoalSystem

/-- The goals that a sequence of calls leaves and enters. -/
def log (system : GoalSystem K) : List (GoalCall K) → List Transition
  | [] => []
  | call :: calls => system.transitions call ++ (system.step call).log calls

end GoalSystem

theorem Committed.run {system : GoalSystem K} {before : List Transition}
    (h : Committed system before) (calls : List (GoalCall K)) :
    Committed (system.run calls) (before ++ system.log calls) := by
  induction calls generalizing system before with
  | nil =>
    rw [GoalSystem.log, List.append_nil]
    exact h
  | cons call calls ih =>
    rw [GoalSystem.log, ← List.append_assoc]
    exact ih (h.step call)

/-- One goal at a time: the active goals are the one that the arbiter is committed to, which is
registered; every goal is entered and left in turn; and what was last entered or left is the
committed goal, entered. -/
structure OneAtATime (system : GoalSystem K) (log : List Transition) : Prop where
  active : system.goals.filter (fun goal => goal.runtime.active) =
    (system.arbiter.currentGoal.bind (findGoal system.goals)).toList
  registered : ∀ id ∈ system.arbiter.currentGoal, (findGoal system.goals id).isSome
  alternates : ∀ id, alternating false (ownTransitions id log) = true
  inside : ∀ id, insideAfter false (ownTransitions id log) =
    decide (system.arbiter.currentGoal = some id)
  last : ∀ id ∈ system.arbiter.currentGoal, log.getLast? = some (.entered id)

theorem Committed.oneAtATime {system : GoalSystem K} {log : List Transition}
    (h : Committed system log) : OneAtATime system log where
  active := filter_active_of_flags h.flags
  registered id hid := isSome_findGoal.mpr (h.registered id hid)
  alternates := h.history.alternates
  inside := h.history.insideAfter_own
  last id hid := by
    have hhistory := h.history
    rw [show system.arbiter.currentGoal = some id from hid] at hhistory
    exact hhistory.getLast?

/-- After every sequence of calls, of goals that may fail at any of them, one goal at a time is
active; and over the same evaluations an arbiter switches once at most. -/
theorem single_active_goal (K : Domain) (drives : K.Drives) (goals : List (GoalComponents K)) :
    (∀ calls : List (GoalCall K), OneAtATime ((GoalSystem.withGoals drives goals).run calls)
      ((GoalSystem.withGoals drives goals).log calls)) ∧
    ∀ (arbiter : GoalArbiter) (evaluations : List (GoalEvaluation K.Action)) (times : List Nat),
      ((GoalArbiter.selections evaluations arbiter times).filter GoalSelection.switched).length ≤ 1 := by
  constructor
  · intro calls
    exact ((Committed.withGoals drives goals).run calls).oneAtATime
  · intro arbiter evaluations times
    exact arbiter.selections_switch_once evaluations times

end Netherwick.Conductor
