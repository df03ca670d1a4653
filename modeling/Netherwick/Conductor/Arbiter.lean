import Netherwick.Conductor.Goals

/-! # The choice of a goal

The arbiter keeps a commitment to one goal. Another takes its place when it is clearly more active
and the commitment has lasted, or when the goal can no longer go on. -/

namespace Netherwick.Conductor

variable {Action : Type}

structure GoalArbiterConfig where
  minimumDwellMs : Nat := 750
  persistenceBonus : Float32 := 0.10
  switchingCost : Float32 := 0.15

structure GoalCommitment where
  goalId : GoalId
  enteredAtMs : Nat
  deriving DecidableEq, Repr

structure GoalSelection where
  selectedGoal : Option GoalId := none
  incumbentGoal : Option GoalId := none
  challengerGoal : Option GoalId := none
  switched : Bool := false
  retainedByCommitment : Bool := false
  reason : String := ""
  exitReason : Option GoalExitReason := none
  commitmentAgeMs : Nat := 0
  incumbentActivation : Option Float32 := none
  challengerActivation : Option Float32 := none
  requiredActivation : Option Float32 := none
  effectiveSwitchingCost : Float32 := 0
  effectiveMinimumDwellMs : Nat := 0

structure GoalArbiter where
  config : GoalArbiterConfig := {}
  commitment : Option GoalCommitment := none

def goalExitReason (evaluation : GoalEvaluation Action) : GoalExitReason :=
  match evaluation.disposition with
  | .satisfied => .satisfied
  | .completed => .completed
  | .failed => .failed
  | .active => .lostSafeAffordances

namespace GoalEvaluation

def eligible (evaluation : GoalEvaluation Action) : Bool :=
  evaluation.disposition = .active && evaluation.competence.affordances.any fun affordance =>
    affordance.available && affordance.action.isSome

/-- The order of challengers: more active, and of equally active ones the first by name. -/
def compareChallengers (left right : GoalEvaluation Action) : Ordering :=
  (compare (totalKey left.motivation.activation) (totalKey right.motivation.activation)).then
    (compare right.goalId.name left.goalId.name)

end GoalEvaluation

/-- `max_by`: of equal elements the last. -/
def maxBy {α : Type} (order : α → α → Ordering) : List α → Option α
  | [] => none
  | first :: rest => some (rest.foldl (fun best next => if order best next = .gt then best else next) first)

namespace GoalArbiter

variable (arbiter : GoalArbiter)

def currentGoal : Option GoalId := arbiter.commitment.map GoalCommitment.goalId

def commit (goalId : GoalId) (nowMs : Nat) : GoalArbiter :=
  { arbiter with commitment := some { goalId, enteredAtMs := nowMs } }

def release : GoalArbiter := { arbiter with commitment := none }

/-- The dwell that is left to a commitment against an urgent challenger. -/
def effectiveMinimumDwellMs (urgency : Float32) : Nat :=
  (Float32.round (arbiter.config.minimumDwellMs.toFloat32 * (1 - urgency))).toUInt64.toNat

/-- The incumbent and the challenger are two goals that could both go on. -/
def selectBetween (nowMs : Nat) (commitment : GoalCommitment)
    (incumbent challenger : GoalEvaluation Action) : GoalSelection × GoalArbiter :=
  let urgency := clamp32 challenger.motivation.urgency 0 1
  let switchingCost := arbiter.config.switchingCost * (1 - urgency)
  let minimumDwellMs := arbiter.effectiveMinimumDwellMs urgency
  let dwellMs := nowMs - commitment.enteredAtMs
  let required := incumbent.motivation.activation + arbiter.config.persistenceBonus + switchingCost
  if dwellMs ≥ minimumDwellMs ∧ required < challenger.motivation.activation then
    ({ selectedGoal := some challenger.goalId
       incumbentGoal := some commitment.goalId
       challengerGoal := some challenger.goalId
       switched := true
       reason := "challenger overcame persistence and switching cost"
       exitReason := some .superseded
       commitmentAgeMs := dwellMs
       incumbentActivation := some incumbent.motivation.activation
       challengerActivation := some challenger.motivation.activation
       requiredActivation := some required
       effectiveSwitchingCost := switchingCost
       effectiveMinimumDwellMs := minimumDwellMs }, arbiter.commit challenger.goalId nowMs)
  else
    ({ selectedGoal := some incumbent.goalId
       incumbentGoal := some incumbent.goalId
       challengerGoal := some challenger.goalId
       retainedByCommitment := true
       reason :=
         if dwellMs < minimumDwellMs then "incumbent retained during commitment dwell"
         else "challenger did not overcome persistence and switching cost"
       commitmentAgeMs := dwellMs
       incumbentActivation := some incumbent.motivation.activation
       challengerActivation := some challenger.motivation.activation
       requiredActivation := some required
       effectiveSwitchingCost := switchingCost
       effectiveMinimumDwellMs := minimumDwellMs }, arbiter)

def selectAgainst (nowMs : Nat) (commitment : GoalCommitment)
    (evaluations : List (GoalEvaluation Action)) (challenger : GoalEvaluation Action) :
    GoalSelection × GoalArbiter :=
  let eligible := evaluations.filter GoalEvaluation.eligible
  match eligible.find? fun evaluation => evaluation.goalId = commitment.goalId with
  | none =>
    let old := evaluations.find? fun evaluation => evaluation.goalId = commitment.goalId
    ({ selectedGoal := some challenger.goalId
       incumbentGoal := some commitment.goalId
       challengerGoal := some challenger.goalId
       switched := true
       reason := "incumbent completed, failed, or lost all affordances"
       exitReason := old.map goalExitReason
       incumbentActivation := old.map fun evaluation => evaluation.motivation.activation
       challengerActivation := some challenger.motivation.activation },
      arbiter.commit challenger.goalId nowMs)
  | some incumbent =>
    if challenger.goalId = incumbent.goalId then
      ({ selectedGoal := some incumbent.goalId
         incumbentGoal := some incumbent.goalId
         challengerGoal := some challenger.goalId
         reason := "incumbent remains most active"
         commitmentAgeMs := nowMs - commitment.enteredAtMs
         incumbentActivation := some incumbent.motivation.activation
         challengerActivation := some challenger.motivation.activation }, arbiter)
    else arbiter.selectBetween nowMs commitment incumbent challenger

def select (nowMs : Nat) (evaluations : List (GoalEvaluation Action)) :
    GoalSelection × GoalArbiter :=
  let incumbentId := arbiter.currentGoal
  match maxBy GoalEvaluation.compareChallengers (evaluations.filter GoalEvaluation.eligible) with
  | none =>
    let old := incumbentId.bind fun id => evaluations.find? fun evaluation => evaluation.goalId = id
    ({ incumbentGoal := incumbentId
       switched := incumbentId.isSome
       exitReason := old.map goalExitReason
       reason := "no eligible goal evaluation" }, arbiter.release)
  | some challenger =>
    match arbiter.commitment with
    | none =>
      ({ selectedGoal := some challenger.goalId
         challengerGoal := some challenger.goalId
         switched := true
         reason := "selected initial goal"
         challengerActivation := some challenger.motivation.activation },
        arbiter.commit challenger.goalId nowMs)
    | some commitment => arbiter.selectAgainst nowMs commitment evaluations challenger

end GoalArbiter

theorem maxBy_mem {α : Type} {order : α → α → Ordering} {l : List α} {best : α}
    (h : maxBy order l = some best) : best ∈ l := by
  cases l with
  | nil => cases h
  | cons first rest =>
    cases h
    induction rest generalizing first with
    | nil => exact List.mem_singleton_self _
    | cons next rest ih =>
      rw [List.foldl_cons]
      obtain heq | hmem := List.mem_cons.mp
        (ih (if order first next = .gt then first else next))
      · rw [heq]
        split
        · exact List.mem_cons_self
        · exact List.mem_cons_of_mem _ List.mem_cons_self
      · exact List.mem_cons_of_mem _ (List.mem_cons_of_mem _ hmem)

namespace GoalArbiter

variable (arbiter : GoalArbiter) (nowMs : Nat) (evaluations : List (GoalEvaluation Action))

/-- The most active of the evaluations that can be acted on. -/
def favourite : Option (GoalEvaluation Action) :=
  maxBy GoalEvaluation.compareChallengers (evaluations.filter GoalEvaluation.eligible)

theorem favourite_mem {best : GoalEvaluation Action} (h : favourite evaluations = some best) :
    best ∈ evaluations.filter GoalEvaluation.eligible := maxBy_mem h

/-- The ways a selection goes: the commitment stays, or it passes to the most active goal. -/
inductive Selects : GoalSelection × GoalArbiter → Prop
  | stays (selection : GoalSelection) (next : GoalArbiter) (kept : selection.switched = false)
      (same : next.currentGoal = arbiter.currentGoal)
      (selected : selection.selectedGoal = next.currentGoal) : Selects (selection, next)
  | passes (selection : GoalSelection) (next : GoalArbiter) (moved : selection.switched = true)
      (passed : next.currentGoal = (favourite evaluations).map GoalEvaluation.goalId)
      (selected : selection.selectedGoal = next.currentGoal) : Selects (selection, next)

theorem select_selects : Selects arbiter evaluations (arbiter.select nowMs evaluations) := by
  unfold select
  cases hbest : maxBy GoalEvaluation.compareChallengers
      (evaluations.filter GoalEvaluation.eligible) with
  | none =>
    cases hcommitment : arbiter.commitment with
    | none => exact Selects.stays _ _ (by simp [currentGoal, hcommitment]) (by simp [release,
        currentGoal, hcommitment]) rfl
    | some commitment =>
      apply Selects.passes
      · simp [currentGoal, hcommitment]
      · rw [favourite, hbest]
        rfl
      · rfl
  | some challenger =>
    have hpasses : some challenger.goalId = (favourite evaluations).map GoalEvaluation.goalId := by
      rw [favourite, hbest]
      rfl
    cases hcommitment : arbiter.commitment with
    | none => exact Selects.passes _ _ rfl hpasses rfl
    | some commitment =>
      dsimp only
      unfold selectAgainst
      dsimp only
      cases hincumbent : (evaluations.filter GoalEvaluation.eligible).find?
          (fun evaluation => evaluation.goalId = commitment.goalId) with
      | none => exact Selects.passes _ _ rfl hpasses rfl
      | some incumbent =>
        have hsame : some incumbent.goalId = arbiter.currentGoal := by
          have hid := List.find?_some hincumbent
          simp only [decide_eq_true_eq] at hid
          rw [currentGoal, hcommitment, hid]
          rfl
        dsimp only
        split
        · exact Selects.stays _ _ rfl rfl hsame
        · unfold selectBetween
          dsimp only
          split
          · exact Selects.passes _ _ rfl hpasses rfl
          · exact Selects.stays _ _ rfl rfl hsame

theorem select_settled
    (h : arbiter.currentGoal = (favourite evaluations).map GoalEvaluation.goalId) :
    (arbiter.select nowMs evaluations).1.switched = false ∧
      (arbiter.select nowMs evaluations).2.currentGoal = arbiter.currentGoal := by
  unfold favourite at h
  unfold select
  cases hbest : maxBy GoalEvaluation.compareChallengers
      (evaluations.filter GoalEvaluation.eligible) with
  | none =>
    rw [hbest] at h
    rw [h]
    exact ⟨rfl, rfl⟩
  | some challenger =>
    rw [hbest] at h
    cases hcommitment : arbiter.commitment with
    | none =>
      rw [currentGoal, hcommitment] at h
      cases h
    | some commitment =>
      have hid : commitment.goalId = challenger.goalId := by
        rw [currentGoal, hcommitment] at h
        exact Option.some.inj h
      dsimp only
      unfold selectAgainst
      dsimp only
      cases hincumbent : (evaluations.filter GoalEvaluation.eligible).find?
          (fun evaluation => evaluation.goalId = commitment.goalId) with
      | none =>
        have hnot := List.find?_eq_none.mp hincumbent challenger (maxBy_mem hbest)
        exact absurd hid.symm (by simpa using hnot)
      | some incumbent =>
        have hsame := List.find?_some hincumbent
        simp only [decide_eq_true_eq] at hsame
        dsimp only
        rw [if_pos (hid.symm.trans hsame.symm)]
        exact ⟨rfl, rfl⟩

def selections (arbiter : GoalArbiter) : List Nat → List GoalSelection
  | [] => []
  | nowMs :: times =>
    (arbiter.select nowMs evaluations).1 ::
      selections (arbiter.select nowMs evaluations).2 times

theorem selections_settled (times : List Nat)
    (h : arbiter.currentGoal = (favourite evaluations).map GoalEvaluation.goalId) :
    (selections evaluations arbiter times).filter GoalSelection.switched = [] := by
  induction times generalizing arbiter with
  | nil => rfl
  | cons nowMs times ih =>
    obtain ⟨hkept, hsame⟩ := arbiter.select_settled nowMs evaluations h
    rw [selections, List.filter_cons_of_neg (by simp [hkept])]
    exact ih _ (hsame.trans h)

theorem selections_switch_once (times : List Nat) :
    ((selections evaluations arbiter times).filter GoalSelection.switched).length ≤ 1 := by
  induction times generalizing arbiter with
  | nil => exact Nat.zero_le 1
  | cons nowMs times ih =>
    have hselects := arbiter.select_selects nowMs evaluations
    rw [selections]
    generalize arbiter.select nowMs evaluations = result at hselects
    cases hselects with
    | stays selection next kept same selected =>
      rw [List.filter_cons_of_neg (by simp [kept])]
      exact ih next
    | passes selection next moved passed selected =>
      have hlater := selections_settled next evaluations times passed
      rw [List.filter_cons_of_pos moved, hlater]
      exact Nat.le_refl 1

end GoalArbiter

end Netherwick.Conductor
