import Otserv.Combat.DoCombat

/-!
# A spell aimed at a creature or at its tile

For a caster who neither hits critically nor leeches, and a target alone on its tile that the
tests of `doAreaCombat` admit, the two ways of combat make the same calls, but for what is halved
between players. `doTargetCombat` halves everything that is not drained from mana, and
`doAreaCombat` everything that is negative. So healing is halved in one of them only, and so is
what is drained from mana (`HalvedOnce`); all else agrees (`agrees_iff`).
-/

namespace Otserv.Combats.Fight

open Combat (CombatType)

/-- The caster has no chance of critical hits and of leeching. -/
structure Unskilled (fight : Fight) (caster : Option Nat) : Prop where
  critical : ∀ creature ∈ caster, fight.getSpecialSkill creature .criticalHitChance = 0
  lifeLeech : ∀ creature ∈ caster, fight.getSpecialSkill creature .lifeLeechChance = 0
  manaLeech : ∀ creature ∈ caster, fight.getSpecialSkill creature .manaLeechChance = 0

/-- A target that is alone on its tile, and that the tests of the tile and of the target admit. -/
structure Admitted (fight : Fight) (caster : Option Nat) (target : Nat) (params : CombatParams)
    (spot : Spot) : Prop where
  alone : spot.creatures = [target]
  onMap : spot.tile.z < MAP_MAX_LAYERS
  tile : fight.canDoCombatOnTile caster spot.tile params.aggressive = .noError
  creature : params.aggressive = true →
    caster ≠ some target ∧ fight.canDoCombat caster target = .noError

/-- The damage is halved between players in one of the two ways, and changes something. -/
def HalvedOnce (fight : Fight) (caster : Option Nat) (target : Nat) (damage : CombatDamage) :
    Prop :=
  (fight.casterPlayer caster).isSome ∧ fight.isSpared target ∧
    if damage.type = .manaDrain then damage.value < 0
    else damage.value > 0 ∧ fight.combatBlockHit caster target damage = false

variable {fight : Fight} {caster : Option Nat} {target : Nat} {damage : CombatDamage}
  {params : CombatParams} {spot : Spot}

theorem half_ne {value : Int64} (some : value ≠ 0) : value / 2 ≠ value := by
  intro same
  have half := value.toInt_div_of_ne_right 2 (by decide)
  rw [same] at half
  have two : (2 : Int64).toInt = 2 := by decide
  rw [two] at half
  refine some (Int64.toInt_inj.mp ?_)
  rcases value.toInt.lt_trichotomy 0 with low | zero | high
  · have := Int.tdiv_eq_ediv_of_nonneg (b := 2) (Int.neg_nonneg.mpr (Int.le_of_lt low))
    rw [Int.neg_tdiv] at this
    omega
  · exact zero
  · rw [Int.tdiv_eq_ediv_of_nonneg (Int.le_of_lt high)] at half
    omega

namespace Unskilled

variable (unskilled : fight.Unskilled caster)
include unskilled

theorem succeeds_eq_false {player : Nat} (isCaster : fight.casterPlayer caster = some player) :
    (∀ amount, fight.succeeds player .criticalHitChance amount = false) ∧
      (∀ amount, fight.succeeds player .lifeLeechChance amount = false) ∧
      ∀ amount, fight.succeeds player .manaLeechChance amount = false := by
  have isIn : player ∈ caster := (Option.filter_eq_some_iff.mp isCaster).1
  refine ⟨fun amount => ?_, fun amount => ?_, fun amount => ?_⟩
  · simp [succeeds, unskilled.critical player isIn]
  · simp [succeeds, unskilled.lifeLeech player isIn]
  · simp [succeeds, unskilled.manaLeech player isIn]

theorem mayBeCritical_eq_false (damage : CombatDamage) :
    fight.mayBeCritical caster damage = false := by
  rw [mayBeCritical]
  cases isCaster : fight.casterPlayer caster with
  | none => simp
  | some player => simp [(unskilled.succeeds_eq_false isCaster).1]

theorem leech_eq_nil (part : UInt16 → Int64) : fight.leech caster part = [] := by
  rw [leech]
  split
  next player isCaster =>
    obtain ⟨-, life, mana⟩ := unskilled.succeeds_eq_false isCaster
    simp [life, mana]
  next => rfl

end Unskilled

/-! ## What both ways do -/

/-- What comes of a call that has changed health or mana. -/
def following (fight : Fight) (caster : Option Nat) (target : Nat) (damage : CombatDamage)
    (params : CombatParams) (success : Bool) : List Effect :=
  if success then
    (if isThrough damage then fight.addConditions caster target params else []) ++
      [dispel target params]
  else []

/-- The calls of a combat that passes a value on. -/
def calls (fight : Fight) (caster : Option Nat) (target : Nat) (damage : CombatDamage)
    (params : CombatParams) (value : Int64) : List Effect :=
  if damage.type ≠ .manaDrain then
    if fight.combatBlockHit caster target damage then []
    else
      let damage := { damage with value, spellName := params.spellName }
      .combatChangeHealth caster target damage ::
        fight.following caster target damage params
          (fight.combatChangeHealth caster target damage).success
  else
    let damage := { damage with value }
    .combatChangeMana caster target damage ::
      fight.following caster target damage params
        (fight.combatChangeMana caster target damage).success

/-- The value that `doTargetCombat` passes on. -/
def targetValue (fight : Fight) (caster : Option Nat) (target : Nat) (damage : CombatDamage) :
    Int64 :=
  if damage.type ≠ .manaDrain ∧ (fight.casterPlayer caster).isSome ∧ fight.isSpared target then
    damage.value / 2
  else damage.value

/-- The value that `doAreaCombat` passes on. -/
def areaValue (fight : Fight) (caster : Option Nat) (target : Nat) (damage : CombatDamage) :
    Int64 :=
  if damage.value < 0 ∧ (fight.casterPlayer caster).isSome ∧ fight.isSpared target then
    damage.value / 2
  else damage.value

theorem afterTarget_eq (unskilled : fight.Unskilled caster) (changed : Changed) :
    fight.afterTarget caster target (damage.change changed) params changed.success =
      fight.following caster target damage params changed.success := by
  have through : isThrough (damage.change changed) = isThrough damage := rfl
  simp [afterTarget, following, unskilled.leech_eq_nil, through]

theorem reduced_eq (unskilled : fight.Unskilled caster) (health : damage.type ≠ .manaDrain) :
    fight.reduced caster target damage =
      { damage with value := fight.targetValue caster target damage } := by
  rw [Fight.reduced, targetValue]
  by_cases halved : (fight.casterPlayer caster).isSome ∧ fight.isSpared target
  · simp [halved, health, unskilled.mayBeCritical_eq_false]
  · simp [halved, unskilled.mayBeCritical_eq_false]

theorem doTargetCombat_eq (unskilled : fight.Unskilled caster) :
    fight.doTargetCombat caster target damage params =
      fight.calls caster target damage params (fight.targetValue caster target damage) := by
  rw [doTargetCombat, calls]
  by_cases health : damage.type ≠ .manaDrain
  · rw [if_pos health, if_pos health]
    simp only [reduced_eq unskilled health, afterTarget_eq unskilled]
  · have unchanged : fight.targetValue caster target damage = damage.value := by
      simp [targetValue, health]
    rw [if_neg health, if_neg health, unchanged]
    simp only [afterTarget_eq unskilled]

theorem damagedOn_eq (admitted : fight.Admitted caster target params spot) :
    (getCombatArea spot).flatMap (fight.damagedOn caster params) = [target] := by
  have onMap : ¬spot.tile.z ≥ MAP_MAX_LAYERS := UInt8.not_le.mpr admitted.onMap
  have meant : isMeant caster params spot target = true := by
    rw [isMeant, admitted.alone]
    cases caster with
    | none => simp
    | some creature =>
      by_cases here : creature = target
      · simp [here]
      · simp [here]
  have allowed : (!params.aggressive ||
      decide (caster ≠ some target) && decide (fight.canDoCombat caster target = .noError)) =
      true := by
    cases aggressive : params.aggressive with
    | false => rfl
    | true =>
      obtain ⟨other, may⟩ := admitted.creature aggressive
      simp [other, may]
  have tile : ¬fight.canDoCombatOnTile caster spot.tile params.aggressive ≠ .noError :=
    not_not.mpr admitted.tile
  rw [getCombatArea, if_neg onMap, List.flatMap_singleton, damagedOn, if_neg tile, admitted.alone]
  rw [List.filter_singleton, meant, Bool.true_and, allowed]
  split <;> rfl

theorem areaHit_eq (unskilled : fight.Unskilled caster) (targetsCount : Nat) :
    fight.areaHit caster damage params 0 targetsCount target =
      fight.calls caster target damage params (fight.areaValue caster target damage) := by
  have noHalf : (0 : Int32) / 2 = 0 := by decide
  have noValue : Int32.toInt64 0 = 0 := by decide
  have value : (if damage.value < 0 && (fight.casterPlayer caster).isSome && fight.isSpared target
      then damage.value / 2 else damage.value) = fight.areaValue caster target damage := by
    simp only [areaValue, Bool.and_eq_true, decide_eq_true_eq, and_assoc]
  rw [areaHit, calls]
  simp only [value, noHalf, ite_self, noValue, Int64.add_zero, unskilled.leech_eq_nil,
    List.append_nil]
  rfl

theorem doAreaCombat_eq (unskilled : fight.Unskilled caster)
    (admitted : fight.Admitted caster target params spot) :
    fight.doAreaCombat caster damage params spot =
      fight.calls caster target damage params (fight.areaValue caster target damage) := by
  rw [doAreaCombat]
  simp only [unskilled.mayBeCritical_eq_false, damagedOn_eq admitted, List.flatMap_singleton,
    Bool.or_false]
  exact areaHit_eq unskilled _

theorem calls_inj {value other : Int64} (taken : damage.type = .manaDrain ∨
      fight.combatBlockHit caster target damage = false)
    (same : fight.calls caster target damage params value =
      fight.calls caster target damage params other) : value = other := by
  rw [calls, calls] at same
  by_cases health : damage.type ≠ .manaDrain
  · rw [if_pos health, if_pos health, taken.resolve_left health] at same
    simp only [Bool.false_eq_true, if_false, List.cons.injEq, Effect.combatChangeHealth.injEq,
      CombatDamage.mk.injEq, true_and, and_true] at same
    exact same.1
  · rw [if_neg health, if_neg health] at same
    simp only [List.cons.injEq, Effect.combatChangeMana.injEq, CombatDamage.mk.injEq, true_and,
      and_true] at same
    exact same.1

/-! ## When they agree -/

theorem targetValue_eq_iff :
    fight.targetValue caster target damage = fight.areaValue caster target damage ↔
      ¬((fight.casterPlayer caster).isSome ∧ fight.isSpared target ∧
        if damage.type = .manaDrain then damage.value < 0 else damage.value > 0) := by
  rw [targetValue, areaValue]
  by_cases spared : (fight.casterPlayer caster).isSome ∧ fight.isSpared target
  · by_cases mana : damage.type = .manaDrain
    · by_cases low : damage.value < 0
      · simp [mana, low, (half_ne (Int64.ne_of_lt low)).symm]
      · simp [mana, low]
    · by_cases zero : damage.value = 0
      · simp [mana, zero]
      rcases Int64.lt_or_lt_of_ne zero with low | high
      · simp [mana, low, Int64.le_of_lt low]
      · have notLow : ¬damage.value < 0 := Int64.not_lt.mpr (Int64.le_of_lt high)
        simp [mana, high, notLow, half_ne (Int64.ne_of_lt high).symm]
  · rw [if_neg (fun both => spared both.2), if_neg (fun both => spared both.2)]
    simp only [true_iff]
    exact fun both => spared ⟨both.1, both.2.1⟩

/-- A combat that is aimed at a creature and one that is aimed at its tile do the same, unless the
damage is halved in one of them only. -/
theorem agrees_iff (unskilled : fight.Unskilled caster)
    (admitted : fight.Admitted caster target params spot) :
    fight.doTargetCombat caster target damage params =
        fight.doAreaCombat caster damage params spot ↔
      ¬fight.HalvedOnce caster target damage := by
  rw [doTargetCombat_eq unskilled, doAreaCombat_eq unskilled admitted, HalvedOnce]
  by_cases taken : damage.type = .manaDrain ∨ fight.combatBlockHit caster target damage = false
  · have values : fight.calls caster target damage params (fight.targetValue caster target damage) =
          fight.calls caster target damage params (fight.areaValue caster target damage) ↔
        fight.targetValue caster target damage = fight.areaValue caster target damage :=
      ⟨calls_inj taken, fun same => by rw [same]⟩
    rw [values, targetValue_eq_iff]
    by_cases mana : damage.type = .manaDrain
    · simp [mana]
    · simp [mana, taken.resolve_left mana]
  · obtain ⟨health, blocked⟩ := not_or.mp taken
    have nothing (value : Int64) : fight.calls caster target damage params value = [] := by
      simp [calls, health, blocked]
    simp [nothing, health, blocked]

/-- Two players of whom nothing is asked but that they may fight. -/
def duel : Fight where
  creature creature :=
    { kind := .player { guid := .ofNat creature, level := 100 }
      tile := {} }
  combatChangeHealth _ _ damage :=
    { success := true
      type := damage.type
      value := damage.value
      spellName := damage.spellName
      critical := damage.critical
      origin := damage.origin }
  combatChangeMana _ _ damage :=
    { success := true
      type := damage.type
      value := damage.value
      spellName := damage.spellName
      critical := damage.critical
      origin := damage.origin }

theorem unskilled_duel (caster : Option Nat) : duel.Unskilled caster :=
  ⟨fun _ _ => rfl, fun _ _ => rfl, fun _ _ => rfl⟩

theorem admitted_duel : duel.Admitted (some 0) 1 {} ⟨{}, [1]⟩ :=
  ⟨rfl, by decide, by decide, by decide⟩

/-- What hurts is halved in both. -/
theorem agrees_duel : duel.doTargetCombat (some 0) 1 { type := .fireDamage, value := -100 } {} =
    duel.doAreaCombat (some 0) { type := .fireDamage, value := -100 } {} ⟨{}, [1]⟩ :=
  (agrees_iff (unskilled_duel _) admitted_duel).mpr fun halved => absurd halved.2.2 (by decide)

/-- What heals is halved if the spell is aimed at the player only. -/
theorem heals_duel : duel.doTargetCombat (some 0) 1 { type := .healing, value := 100 }
      { aggressive := false } =
        [.combatChangeHealth (some 0) 1 { type := .healing, value := 50 },
          .removeCombatCondition 1 .none] ∧
    duel.doAreaCombat (some 0) { type := .healing, value := 100 } { aggressive := false }
      ⟨{}, [1]⟩ =
        [.combatChangeHealth (some 0) 1 { type := .healing, value := 100 },
          .removeCombatCondition 1 .none] := by
  decide

end Otserv.Combats.Fight
