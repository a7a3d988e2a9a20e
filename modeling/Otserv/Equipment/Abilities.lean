import Otserv.Equipment.Equip
import Otserv.Foundation.Combination

/-!
# What equipping and de-equipping change

Equations for the parts of `EquipItem` and `DeEquipItem`: the number of lasting
conditions of each type and slot, the suppressions, and the skills and stats,
which change by the abilities times the sign.
-/

namespace Otserv.Equipment

open Otserv.Foundation Otserv.Conditions

/-- The types of the conditions that items grant. -/
def lasting : List ConditionType := [.invisible, .manashield, .regeneration]

/-- The abilities grant a condition of the type. -/
def Abilities.grants (abilities : Abilities) : ConditionType → Bool
  | .invisible => abilities.invisible
  | .manashield => abilities.manaShield
  | .regeneration => abilities.regeneration
  | _ => false

section Grants

variable (abilities : Abilities)

end Grants

theorem conditionId_injective {slot other : Slot} (same : slot.conditionId = other.conditionId) :
    slot = other := by
  revert same
  cases slot <;> cases other <;> decide

end Otserv.Equipment

namespace Otserv.Conditions.Creature

open Otserv.Equipment

/-! ## Conditions of a slot -/

/-- The number of conditions of a type with an id. -/
def countOf (type : ConditionType) (id : Int8) (creature : Creature) : Nat :=
  creature.conditions.countP fun condition => condition.conditionType = type ∧ condition.id = id

theorem getCondition_of_countOf {type : ConditionType} {id : Int8} {creature : Creature}
    (absent : creature.countOf type id = 0) (subId : UInt32) :
    creature.getCondition (type, id, subId) = none := by
  apply List.find?_eq_none.mpr
  intro condition isMember same
  have none := List.countP_eq_zero.mp absent condition isMember
  simp only [Condition.key, decide_eq_true_eq, Prod.mk.injEq] at same none
  exact none ⟨same.1, same.2.1⟩

theorem createCondition_lasting {type : ConditionType} (isLasting : type ∈ lasting) (id : Int8) :
    ∃ condition, createCondition { id := id, type := type, ticks := -1 } = some condition ∧
      condition.key = (type, id, 0) ∧ condition.conditionClass ≠ .damage := by
  rcases List.mem_cons.mp isLasting with rfl | isLasting
  · exact ⟨_, rfl, rfl, fun damage => by cases damage⟩
  · rcases List.mem_cons.mp isLasting with rfl | isLasting
    · exact ⟨_, rfl, rfl, fun damage => by cases damage⟩
    · obtain rfl := List.mem_singleton.mp isLasting
      exact ⟨_, rfl, rfl, fun damage => by cases damage⟩

theorem addCondition_fresh {creature : Creature} {condition : Condition} (now walkDelay : Int)
    (fresh : creature.getCondition condition.key = none)
    (canStart : condition.conditionClass ≠ .damage)
    (calm : condition.conditionType ≠ .paralyze ∧ condition.conditionType ≠ .haste) :
    ∃ started, started.key = condition.key ∧
      (creature.addCondition now 0 walkDelay (some condition)).1.conditions =
        creature.conditions ++ [started] ∧
      (creature.addCondition now 0 walkDelay (some condition)).1.suppressions =
        creature.suppressions := by
  have starts : ∃ started speedChange,
      condition.startCondition now 0 = some (started, speedChange) ∧
        started.key = condition.key := by
    unfold Condition.startCondition
    cases ofClass : condition.conditionClass with
    | damage => exact absurd ofClass canStart
    | _ => exact ⟨_, _, rfl, by split <;> rfl⟩
  obtain ⟨started, speedChange, starts, key⟩ := starts
  refine ⟨started, key, ?_⟩
  have stays : ∀ other : Creature,
      other.onAddCondition now condition.conditionType walkDelay = other := by
    intro other
    unfold onAddCondition displaced
    rw [if_neg (by simp [calm.1]), if_neg (by simp [calm.2])]
  unfold addCondition
  simp only [fresh, starts, stays, and_self]

section Grant

variable {creature : Creature} {type : ConditionType} {slot : Slot}
  {setParams : Condition → Condition}

variable (now walkDelay : Int)

theorem grant_spec (isLasting : type ∈ lasting)
    (sameKey : ∀ condition, (setParams condition).key = condition.key)
    (sameClass : ∀ condition, (setParams condition).conditionClass = condition.conditionClass)
    (absent : creature.countOf type slot.conditionId = 0) :
    ∃ started, started.key = (type, slot.conditionId, 0) ∧
      (creature.grant now walkDelay slot type setParams).conditions =
        creature.conditions ++ [started] ∧
      (creature.grant now walkDelay slot type setParams).suppressions =
        creature.suppressions := by
  obtain ⟨condition, created, key, canStart⟩ :=
    createCondition_lasting isLasting slot.conditionId
  have setKey := (sameKey condition).trans key
  have ofType : (setParams condition).conditionType = type := congrArg Prod.fst setKey
  have calm : type ≠ .paralyze ∧ type ≠ .haste := by
    constructor <;> rintro rfl <;> exact absurd isLasting (by decide)
  unfold grant
  rw [created, Option.map_some]
  obtain ⟨started, startedKey, appended, suppressed⟩ := addCondition_fresh now walkDelay
    (by rw [setKey]; exact getCondition_of_countOf absent 0)
    (by rw [sameClass]; exact canStart) (by rw [ofType]; exact calm)
  exact ⟨started, startedKey.trans setKey, appended, suppressed⟩

theorem countOf_grant (isLasting : type ∈ lasting)
    (sameKey : ∀ condition, (setParams condition).key = condition.key)
    (sameClass : ∀ condition, (setParams condition).conditionClass = condition.conditionClass)
    (absent : creature.countOf type slot.conditionId = 0) (granted : Bool)
    (other : ConditionType) (id : Int8) :
    (if granted then creature.grant now walkDelay slot type setParams else creature).countOf
        other id =
      creature.countOf other id +
        if granted ∧ type = other ∧ slot.conditionId = id then 1 else 0 := by
  cases granted with
  | false => simp
  | true =>
    obtain ⟨started, key, appended, -⟩ :=
      grant_spec now walkDelay isLasting sameKey sameClass absent
    have ofType : started.conditionType = type := congrArg Prod.fst key
    have ofId : started.id = slot.conditionId := congrArg (fun key => key.2.1) key
    simp only [if_true, countOf, appended, List.countP_append, List.countP_singleton, ofType,
      ofId, true_and, decide_eq_true_eq]

theorem suppressions_grant (isLasting : type ∈ lasting)
    (sameKey : ∀ condition, (setParams condition).key = condition.key)
    (sameClass : ∀ condition, (setParams condition).conditionClass = condition.conditionClass)
    (absent : creature.countOf type slot.conditionId = 0) (granted : Bool) :
    (if granted then creature.grant now walkDelay slot type setParams else creature).suppressions =
      creature.suppressions := by
  cases granted with
  | false => rfl
  | true =>
    obtain ⟨-, -, -, suppressed⟩ :=
      grant_spec now walkDelay isLasting sameKey sameClass absent
    exact suppressed

theorem countOf_removeConditionId (walkDelay : Int) (id : Int8) (isLasting : type ∈ lasting)
    (granted : Bool) (other : ConditionType) (otherId : Int8) :
    (if granted then creature.removeConditionId type id false walkDelay else creature).countOf
        other otherId =
      if granted ∧ type = other ∧ id = otherId then 0 else creature.countOf other otherId := by
  cases granted with
  | false => simp
  | true =>
    have stays : defers type false walkDelay = false := by
      have calm : type ≠ .paralyze := by
        rintro rfl
        exact absurd isLasting (by decide)
      simp [defers, calm]
    simp only [if_true, true_and, removeConditionId, stays, Bool.false_eq_true, if_false,
      endConditions, countOf, List.countP_filter]
    split
    · rename_i same
      obtain ⟨rfl, rfl⟩ := same
      apply List.countP_eq_zero.mpr
      intro condition _
      simp
    · rename_i apart
      apply List.countP_congr
      intro condition _
      simp only [Bool.and_eq_true, decide_eq_true_eq, Bool.not_eq_true',
        decide_eq_false_iff_not, and_iff_left_iff_imp]
      rintro ⟨rfl, rfl⟩ ⟨rfl, rfl⟩
      exact apart ⟨rfl, rfl⟩

theorem suppressions_removeConditionId (walkDelay : Int) (id : Int8) (granted : Bool) :
    (if granted then creature.removeConditionId type id false walkDelay else creature).suppressions =
      creature.suppressions := by
  cases granted with
  | false => rfl
  | true =>
    simp only [if_true, removeConditionId]
    split <;> rfl

end Grant

section Parts

variable (creature : Creature)

@[simp] theorem countOf_changeSpeed (changes : Prop) [Decidable changes] (amount : Int)
    (type : ConditionType) (id : Int8) :
    (if changes then creature.changeSpeed amount else creature).countOf type id =
      creature.countOf type id := by
  split <;> rfl

@[simp] theorem suppressions_changeSpeed (changes : Prop) [Decidable changes] (amount : Int) :
    (if changes then creature.changeSpeed amount else creature).suppressions =
      creature.suppressions := by
  split <;> rfl

variable (mask : UInt32) (type : ConditionType)

@[simp] theorem countOf_addConditionSuppressions (id : Int8) :
    (if mask ≠ 0 then creature.addConditionSuppressions mask else creature).countOf type id =
      creature.countOf type id := by
  split <;> rfl

@[simp] theorem suppressions_addConditionSuppressions :
    (if mask ≠ 0 then creature.addConditionSuppressions mask else creature).suppressions =
      creature.suppressions ||| mask := by
  split
  · rfl
  · rename_i zero
    rw [not_not.mp zero, UInt32.or_zero]

@[simp] theorem countOf_removeConditionSuppressions (id : Int8) :
    (if mask ≠ 0 then creature.removeConditionSuppressions mask else creature).countOf type id =
      creature.countOf type id := by
  split <;> rfl

@[simp] theorem suppressions_removeConditionSuppressions :
    (if mask ≠ 0 then creature.removeConditionSuppressions mask else creature).suppressions =
      creature.suppressions &&& ~~~mask := by
  split
  · rfl
  · rename_i zero
    rw [not_not.mp zero, UInt32.not_zero, UInt32.and_neg_one]

end Parts

/-! ## All abilities -/

section Abilities

variable {creature : Creature} {slot : Slot} {type : ConditionType}

/-- The slot has no lasting condition. -/
def Bare (slot : Slot) (creature : Creature) : Prop :=
  ∀ type ∈ lasting, creature.countOf type slot.conditionId = 0

theorem addAbilities_spec (now walkDelay : Int) (abilities : Abilities)
    (bare : creature.Bare slot) :
    (∀ type ∈ lasting, ∀ id,
      (creature.addAbilities now walkDelay slot abilities).countOf type id =
        creature.countOf type id +
          if abilities.grants type ∧ slot.conditionId = id then 1 else 0) ∧
      (creature.addAbilities now walkDelay slot abilities).suppressions =
        creature.suppressions ||| abilities.conditionSuppressions := by
  unfold addAbilities
  dsimp only
  -- the conditions are granted one after the other, each of a type of its own
  have invisible := bare .invisible (by decide)
  have counted := countOf_grant now walkDelay (by decide : .invisible ∈ lasting)
    (fun _ => rfl : ∀ condition : Condition, (id condition).key = condition.key)
    (fun _ => rfl) invisible abilities.invisible
  have suppressed := suppressions_grant now walkDelay
    (by decide : .invisible ∈ lasting)
    (fun _ => rfl : ∀ condition : Condition, (id condition).key = condition.key)
    (fun _ => rfl) invisible abilities.invisible
  generalize (if abilities.invisible = true then creature.grant now walkDelay slot .invisible id
    else creature) = first at *
  have manashield : first.countOf .manashield slot.conditionId = 0 := by
    rw [counted, bare .manashield (by decide)]
    simp
  have countedNext := countOf_grant now walkDelay (by decide : .manashield ∈ lasting)
    (fun _ => rfl : ∀ condition : Condition, (id condition).key = condition.key)
    (fun _ => rfl) manashield abilities.manaShield
  have suppressedNext := suppressions_grant now walkDelay
    (by decide : .manashield ∈ lasting)
    (fun _ => rfl : ∀ condition : Condition, (id condition).key = condition.key)
    (fun _ => rfl) manashield abilities.manaShield
  generalize (if abilities.manaShield = true then first.grant now walkDelay slot .manashield id
    else first) = second at *
  have countedSpeed := countOf_changeSpeed second (abilities.speed ≠ 0) abilities.speed
  have suppressedSpeed := suppressions_changeSpeed second (abilities.speed ≠ 0) abilities.speed
  generalize (if abilities.speed ≠ 0 then second.changeSpeed abilities.speed
    else second) = third at *
  have countedMask := countOf_addConditionSuppressions third abilities.conditionSuppressions
  have suppressedMask :=
    suppressions_addConditionSuppressions third abilities.conditionSuppressions
  generalize (if abilities.conditionSuppressions ≠ 0 then
    third.addConditionSuppressions abilities.conditionSuppressions else third) = fourth at *
  have regeneration : fourth.countOf .regeneration slot.conditionId = 0 := by
    rw [countedMask, countedSpeed, countedNext, counted, bare .regeneration (by decide)]
    simp
  have params : ∀ condition : Condition,
      (regenerationParams abilities condition).key = condition.key := fun _ => rfl
  constructor
  · intro type isLasting id
    rw [countOf_grant now walkDelay (by decide) params (fun _ => rfl) regeneration, countedMask,
      countedSpeed, countedNext, counted]
    rcases List.mem_cons.mp isLasting with rfl | isLasting
    · simp
      congr
    · rcases List.mem_cons.mp isLasting with rfl | isLasting
      · simp
        congr
      · obtain rfl := List.mem_singleton.mp isLasting
        simp
        congr
  · rw [suppressions_grant now walkDelay (by decide) params (fun _ => rfl) regeneration,
      suppressedMask, suppressedSpeed, suppressedNext, suppressed]

theorem removeAbilities_spec (walkDelay : Int) (abilities : Abilities) :
    (∀ type ∈ lasting, ∀ id,
      (creature.removeAbilities walkDelay slot abilities).countOf type id =
        if abilities.grants type ∧ slot.conditionId = id then 0 else creature.countOf type id) ∧
      (creature.removeAbilities walkDelay slot abilities).suppressions =
        creature.suppressions &&& ~~~abilities.conditionSuppressions := by
  unfold removeAbilities
  constructor
  · intro type isLasting id
    rw [countOf_removeConditionId _ _ (by decide), countOf_removeConditionSuppressions,
      countOf_changeSpeed, countOf_removeConditionId _ _ (by decide),
      countOf_removeConditionId _ _ (by decide)]
    rcases List.mem_cons.mp isLasting with rfl | isLasting
    · simp
      congr
    · rcases List.mem_cons.mp isLasting with rfl | isLasting
      · simp
        congr
      · obtain rfl := List.mem_singleton.mp isLasting
        simp
        congr
  · rw [suppressions_removeConditionId, suppressions_removeConditionSuppressions,
      suppressions_changeSpeed, suppressions_removeConditionId, suppressions_removeConditionId]

end Abilities

end Otserv.Conditions.Creature

namespace Otserv.Equipment.Player

open Otserv.Foundation

/-! ## Skills and stats -/

variable (sign : Int) (abilities : Abilities) (player : Player)

theorem varySkills_eq :
    player.varySkills sign abilities =
      { player with
        varSkills := fun skill => player.varSkills skill + sign * abilities.skills skill } := by
  refine @foldl_vary _ _ _ (fun family after => after = { player with varSkills := family }) _ _
    (fun skill has => ?_) Skill.all (by decide) (fun skill => by cases skill <;> decide) _ _ rfl
  rw [has]
  by_cases zero : abilities.skills skill = 0
  · simp [zero, Function.update_eq_self]
  · rw [if_pos zero]
    rfl

theorem varySpecialSkills_eq :
    player.varySpecialSkills sign abilities =
      { player with
        varSpecialSkills := fun skill =>
          player.varSpecialSkills skill + sign * abilities.specialSkills skill } := by
  refine @foldl_vary _ _ _ (fun family after => after = { player with varSpecialSkills := family })
    _ _ (fun skill has => ?_) SpecialSkill.all (by decide)
    (fun skill => by cases skill <;> decide) _ _ rfl
  rw [has]
  by_cases zero : abilities.specialSkills skill = 0
  · simp [zero, Function.update_eq_self]
  · rw [if_pos zero]
    rfl

variable (stat : Stat)

theorem setVarStats_eq (modifier : Int) (player : Player) :
    ∃ health mana, player.setVarStats stat modifier =
      { player with
        varStats := Function.update player.varStats stat (player.varStats stat + modifier)
        health := health
        mana := mana } := by
  unfold setVarStats changeHealth changeMana
  cases stat with
  | maxHitpoints =>
    dsimp only
    split <;> exact ⟨_, _, rfl⟩
  | maxManapoints =>
    dsimp only
    split
    · split <;> exact ⟨_, _, rfl⟩
    · exact ⟨_, _, rfl⟩
  | soulpoints => exact ⟨_, _, rfl⟩
  | magicpoints => exact ⟨_, _, rfl⟩

/-- What the abilities change of a stat: the stat and the percentage of the base. -/
def statChange : Int :=
  abilities.stats stat + player.percentPart abilities stat

theorem varyStat_eq :
    ∃ health mana, player.varyStat sign abilities stat =
      { player with
        varStats := Function.update player.varStats stat
          (player.varStats stat + sign * player.statChange abilities stat)
        health := health
        mana := mana } := by
  have first : ∃ health mana,
      (if abilities.stats stat ≠ 0 then player.setVarStats stat (sign * abilities.stats stat)
        else player) =
      { player with
        varStats := Function.update player.varStats stat
          (player.varStats stat + sign * abilities.stats stat)
        health := health
        mana := mana } := by
    by_cases zero : abilities.stats stat = 0
    · exact ⟨player.health, player.mana, by simp [zero, Function.update_eq_self]⟩
    · rw [if_pos zero]
      exact setVarStats_eq stat _ player
  obtain ⟨health, mana, first⟩ := first
  unfold varyStat statChange percentPart
  rw [first]
  by_cases zero : abilities.statsPercent stat = 0
  · exact ⟨health, mana, by simp [zero]⟩
  · rw [if_pos zero, if_pos zero]
    obtain ⟨newHealth, newMana, second⟩ := setVarStats_eq stat
      (sign * percentStat (player.getDefaultStats stat) (abilities.statsPercent stat))
      { player with
        varStats := Function.update player.varStats stat
          (player.varStats stat + sign * abilities.stats stat)
        health := health
        mana := mana }
    refine ⟨newHealth, newMana, second.trans ?_⟩
    simp only [Function.update_idem, Function.update_self]
    congr 2
    ring

theorem varyStats_eq :
    ∃ health mana, player.varyStats sign abilities =
      { player with
        varStats := fun stat => player.varStats stat + sign * player.statChange abilities stat
        health := health
        mana := mana } := by
  -- what a turn changes does not depend on the turns before
  refine @foldl_vary _ _ _ (fun family after => ∃ health mana, after =
    { player with varStats := family, health := health, mana := mana }) _ _ (fun stat has => ?_)
    Stat.all (by decide) (fun stat => by cases stat <;> decide) player.varStats
    player ⟨_, _, rfl⟩
  obtain ⟨health, mana, rfl⟩ := has
  exact varyStat_eq sign abilities _ stat

theorem vary_eq :
    ∃ health mana,
      ((player.varySkills sign abilities).varySpecialSkills sign abilities).varyStats sign
          abilities =
        { player with
          varSkills := fun skill => player.varSkills skill + sign * abilities.skills skill
          varSpecialSkills := fun skill =>
            player.varSpecialSkills skill + sign * abilities.specialSkills skill
          varStats := fun stat => player.varStats stat + sign * player.statChange abilities stat
          health := health
          mana := mana } := by
  obtain ⟨health, mana, stats⟩ := varyStats_eq sign abilities
    ((player.varySkills sign abilities).varySpecialSkills sign abilities)
  refine ⟨health, mana, stats.trans ?_⟩
  rw [varySpecialSkills_eq, varySkills_eq]
  rfl

end Otserv.Equipment.Player
