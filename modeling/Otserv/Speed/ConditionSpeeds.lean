import Mathlib.Algebra.Order.Group.Int
import Otserv.Conditions.SubIds

/-!
# The speed that conditions give

A condition of speed adds its speed when it starts, the difference when it is
given another, and takes its speed away when it ends. Whatever is done with a
creature's conditions, its `varSpeed` changes as the sum of their speeds does:
what is left over stays (`Creature.leftover`, `runs_leftover`).
-/

namespace Otserv.Conditions

open Otserv.Foundation

variable (condition : Condition)

/-- The speed a condition gives. -/
def Condition.speedPart : Int :=
  if condition.conditionClass = .speed then condition.speedDelta else 0

variable (conditions : List Condition)

/-- The sum of the speeds of conditions. -/
def speedSum : Int := (conditions.map Condition.speedPart).sum

/-- The change of a creature's speed that is not from its conditions. -/
def Creature.leftover (creature : Creature) : Int :=
  creature.varSpeed - speedSum creature.conditions

@[simp] theorem speedSum_nil : speedSum [] = 0 := rfl

@[simp] theorem speedSum_cons :
    speedSum (condition :: conditions) = condition.speedPart + speedSum conditions := rfl

@[simp] theorem speedSum_append (conditions more : List Condition) :
    speedSum (conditions ++ more) = speedSum conditions + speedSum more := by
  rw [speedSum, List.map_append, List.sum_append]
  rfl

theorem endCondition_eq : condition.endCondition = -condition.speedPart := by
  unfold Condition.endCondition Condition.speedPart
  cases condition.conditionClass <;> rfl

theorem addCondition_speedPart (now drawn : Int) (condition added : Condition) :
    (condition.addCondition now drawn added).1.speedPart =
      condition.speedPart + (condition.addCondition now drawn added).2 := by
  unfold Condition.addCondition Condition.speedPart
  cases ofClass : condition.conditionClass with
  | speed =>
    dsimp only
    split
    · simp
    · split
      · simp
      · simp only [Condition.setTicks, ofClass, if_true]
        omega
  | _ =>
    dsimp only
    repeat' split
    all_goals simp_all [Condition.setTicks]

theorem startCondition_speedPart {now drawn : Int} {condition started : Condition}
    {speedChange : Int}
    (starts : condition.startCondition now drawn = some (started, speedChange)) :
    started.speedPart = speedChange := by
  unfold Condition.startCondition at starts
  cases ofClass : condition.conditionClass with
  | damage =>
    rw [ofClass] at starts
    cases starts
  | speed =>
    rw [ofClass] at starts
    cases starts
    simp only [Condition.speedPart]
    split <;> simp
  | _ =>
    rw [ofClass] at starts
    cases starts
    simp only [Condition.speedPart]
    split <;> simp [ofClass]

theorem executeCondition_speedPart {now interval : Int} {condition after : Condition}
    (executed : condition.executeCondition now interval = some after) :
    after.speedPart = condition.speedPart := by
  unfold Condition.executeCondition at executed
  split at executed
  · cases executed
    rfl
  · split at executed
    · cases executed
    · cases executed
      split <;> rfl

/-! ## Sums over lists -/

theorem speedSum_filter_add (matches_ : Condition → Bool) :
    ∀ conditions : List Condition,
      speedSum (conditions.filter fun condition => !matches_ condition) +
        speedSum (conditions.filter matches_) = speedSum conditions
  | [] => rfl
  | condition :: conditions => by
      have rest := speedSum_filter_add matches_ conditions
      cases here : matches_ condition <;> simp [here] <;> omega

theorem sum_endCondition : ∀ conditions : List Condition,
    (conditions.map Condition.endCondition).sum = -speedSum conditions
  | [] => rfl
  | condition :: conditions => by
      rw [List.map_cons, List.sum_cons, sum_endCondition conditions, endCondition_eq, speedSum_cons]
      omega

variable {matches_ : Condition → Bool}

theorem speedSum_onFirst (change : Condition → Condition)
    {first : Condition} {conditions : List Condition}
    (found : conditions.find? matches_ = some first) :
    speedSum (onFirst matches_ change conditions) =
      speedSum conditions + ((change first).speedPart - first.speedPart) := by
  induction conditions with
  | nil => cases found
  | cons condition conditions ih =>
    rw [List.find?_cons] at found
    rw [onFirst]
    cases here : matches_ condition with
    | true =>
      rw [here] at found
      cases found
      rw [if_pos rfl, speedSum_cons, speedSum_cons]
      omega
    | false =>
      rw [here] at found
      rw [if_neg (by decide), speedSum_cons, speedSum_cons, ih found]
      omega

theorem speedSum_eraseP {first : Condition}
    {conditions : List Condition} (found : conditions.find? matches_ = some first) :
    speedSum (conditions.eraseP matches_) = speedSum conditions - first.speedPart := by
  induction conditions with
  | nil => cases found
  | cons condition conditions ih =>
    rw [List.find?_cons] at found
    cases here : matches_ condition with
    | true =>
      rw [here] at found
      cases found
      rw [List.eraseP_cons_of_pos here, speedSum_cons]
      omega
    | false =>
      rw [here] at found
      rw [List.eraseP_cons_of_neg (by simp [here]), speedSum_cons, speedSum_cons, ih found]
      omega

theorem speedSum_execute (now interval : Int) : ∀ conditions : List Condition,
    speedSum (conditions.filterMap (Condition.executeCondition now interval)) =
      speedSum conditions - speedSum (conditions.filter fun condition =>
        (condition.executeCondition now interval).isNone)
  | [] => rfl
  | condition :: conditions => by
      have rest := speedSum_execute now interval conditions
      cases executed : condition.executeCondition now interval with
      | none =>
        rw [List.filterMap_cons_none executed, List.filter_cons_of_pos (by simp [executed]),
          speedSum_cons, speedSum_cons, rest]
        omega
      | some after =>
        rw [List.filterMap_cons_some executed, List.filter_cons_of_neg (by simp [executed]),
          speedSum_cons, speedSum_cons, rest, executeCondition_speedPart executed]
        omega

/-! ## Operations on the conditions -/

namespace Creature

theorem leftover_endConditions (matches_ : Condition → Bool) (creature : Creature) :
    (creature.endConditions matches_).leftover = creature.leftover := by
  have sums := speedSum_filter_add matches_ creature.conditions
  simp only [leftover, endConditions, sum_endCondition]
  omega

variable (type : ConditionType)

theorem leftover_removeCondition (force : Bool) (walkDelay : Int) (creature : Creature) :
    (creature.removeCondition type force walkDelay).leftover = creature.leftover := by
  unfold removeCondition
  split
  · rfl
  · exact leftover_endConditions _ creature

theorem leftover_removeConditionId (conditionId : Int8) (force : Bool)
    (walkDelay : Int) (creature : Creature) :
    (creature.removeConditionId type conditionId force walkDelay).leftover =
      creature.leftover := by
  unfold removeConditionId
  split
  · rfl
  · exact leftover_endConditions _ creature

theorem leftover_removeConditionAt (key : Key) (force : Bool) (walkDelay : Int)
    (creature : Creature) :
    (creature.removeConditionAt key force walkDelay).leftover = creature.leftover := by
  unfold removeConditionAt
  cases found : creature.getCondition key with
  | none => rfl
  | some condition =>
    dsimp only
    split
    · rfl
    · have sums := speedSum_eraseP found
      simp only [leftover, endCondition_eq, sums]
      omega

theorem leftover_executeConditions (now interval : Int) (creature : Creature) :
    (creature.executeConditions now interval).leftover = creature.leftover := by
  simp only [leftover, executeConditions, sum_endCondition, speedSum_execute]
  omega

/-- **Adding a condition** leaves what is not from conditions. -/
theorem leftover_addCondition (now drawn walkDelay : Int) (condition : Option Condition)
    (creature : Creature) :
    (creature.addCondition now drawn walkDelay condition).1.leftover = creature.leftover := by
  unfold addCondition
  rcases condition with _ | condition
  · rfl
  dsimp only
  cases found : creature.getCondition condition.key with
  | some prevCond =>
    have sums := speedSum_onFirst (fun other => (other.addCondition now drawn condition).1) found
    have given := addCondition_speedPart now drawn prevCond condition
    simp only [leftover, sums, given]
    omega
  | none =>
    cases starts : condition.startCondition now drawn with
    | none => rfl
    | some result =>
      obtain ⟨started, speedChange⟩ := result
      have gives := startCondition_speedPart starts
      have appended : leftover { creature with
          conditions := creature.conditions ++ [started]
          varSpeed := creature.varSpeed + speedChange } = creature.leftover := by
        simp only [leftover, speedSum_append, speedSum_cons, speedSum_nil, gives]
        omega
      dsimp only
      unfold onAddCondition
      split
      · rw [leftover_removeCondition]
        exact appended
      · exact appended

end Creature

/-! ## Runs -/

theorem leftover_add (drawn walkDelay : Int) (requests : List Request) (tracked : Tracked) :
    (requests.foldl (fun tracked request => tracked.add drawn walkDelay request)
      tracked).creature.leftover = tracked.creature.leftover := by
  induction requests generalizing tracked with
  | nil => rfl
  | cons request requests ih =>
    exact (ih _).trans (Creature.leftover_addCondition tracked.now drawn walkDelay _ tracked.creature)

end Otserv.Conditions
