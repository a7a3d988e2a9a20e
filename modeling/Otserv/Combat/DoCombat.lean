import Otserv.Combat.Health
import Otserv.Combat.Permission
import Otserv.Conditions.Condition

/-!
# Combat at a creature and at its tile

`doTargetCombat` is for a spell that is aimed at a creature, `doAreaCombat` for one that is aimed
at tiles. Both pass the damage on to `combatChangeHealth` or `combatChangeMana`, and then add and
dispel conditions; what they do is the list of these calls. Between players damage is halved.

There are no callbacks and no item is created. Messages and effects to be seen are left out.
-/

namespace Otserv.Combats

open Combat (CombatOrigin CombatType)
open Conditions (ConditionType)

inductive BlockType where
  | none | defense | armor | immunity
deriving DecidableEq

structure CombatDamage where
  type : CombatType
  value : Int64
  spellName : String := ""
  critical : Bool := false
  leeched : Bool := false
  blockType : BlockType := .none
  origin : CombatOrigin := .none
deriving DecidableEq

structure Condition where
  type : ConditionType
  ticks : Int32 := 0
  owner : UInt32 := 0
deriving DecidableEq

structure CombatParams where
  conditionList : List Condition := []
  dispelType : ConditionType := .none
  targetCasterOrTopMost : Bool := false
  aggressive : Bool := true
  spellName : String := ""

inductive SpecialSkill where
  | criticalHitChance | criticalHitAmount | lifeLeechChance | lifeLeechAmount | manaLeechChance
  | manaLeechAmount
deriving DecidableEq

/-- A tile and who is on it. -/
structure Spot where
  tile : Tile
  creatures : List Nat

/-- What a call that changes health or mana returns, and what it makes of the damage. -/
structure Changed where
  success : Bool
  type : CombatType
  value : Int64
  spellName : String
  critical : Bool
  origin : CombatOrigin

def CombatDamage.change (damage : CombatDamage) (changed : Changed) : CombatDamage :=
  { damage with
    type := changed.type
    value := changed.value
    spellName := changed.spellName
    critical := changed.critical
    origin := changed.origin }

/-- Calls that do something to a creature. -/
inductive Effect where
  | combatChangeHealth (attacker : Option Nat) (target : Nat) (damage : CombatDamage)
  | combatChangeMana (attacker : Option Nat) (target : Nat) (damage : CombatDamage)
  | addCombatCondition (target : Nat) (condition : Condition)
  | removeCondition (target : Nat) (type : ConditionType)
  | removeCombatCondition (target : Nat) (type : ConditionType)
deriving DecidableEq

/-- The world with what else is asked in a fight. -/
structure Fight extends World where
  getID : Nat → UInt32 := fun creature => .ofNat creature
  isInGhostMode : Nat → Bool := fun _ => false
  /-- `Monster::isTarget`. -/
  isTarget : Nat → Option Nat → Bool := fun _ _ => false
  isImmune : Nat → ConditionType → Bool := fun _ _ => false
  getSpecialSkill : Nat → SpecialSkill → UInt16 := fun _ _ => 0
  /-- The numbers from 1 to 100 that are drawn. -/
  random : SpecialSkill → Nat := fun _ => 100
  /-- `value * (skill / 100.)`, rounded. -/
  percent : Int64 → UInt16 → Int64 := fun value _ => value
  /-- What is leeched from one of several targets, rounded up. -/
  leechPercent : Int64 → UInt16 → Nat → Int64 := fun value _ _ => value
  missesHealth : Nat → Bool := fun _ => false
  missesMana : Nat → Bool := fun _ => false
  combatChangeHealth : Option Nat → Nat → CombatDamage → Changed
  combatChangeMana : Option Nat → Nat → CombatDamage → Changed

namespace Fight

variable (fight : Fight) (caster : Option Nat) (target : Nat) (damage : CombatDamage)
  (params : CombatParams)

/-- `Game::combatBlockHit`, which leaves the damage as it is. -/
def combatBlockHit : Bool :=
  damage.type = .none ||
    damage.type = .healing && caster ≠ some target && fight.isMonster target &&
      fight.isTarget target caster ||
    (fight.getPlayer target).isSome && fight.isInGhostMode target

/-- A skill has a chance, and the number that is drawn is in it. -/
def succeeds (player : Nat) (chance amount : SpecialSkill) : Bool :=
  fight.getSpecialSkill player chance > 0 && fight.getSpecialSkill player amount > 0 &&
    fight.random chance ≤ (fight.getSpecialSkill player chance).toNat

def casterPlayer : Option Nat :=
  caster.filter fun creature => (fight.getPlayer creature).isSome

/-- A player whom other players do not hit in full. -/
def isSpared : Bool := (fight.getPlayer target).any (·.skull ≠ .black)

/-- A critical hit may be made. -/
def mayBeCritical : Bool :=
  !damage.critical && damage.type ≠ .healing && damage.origin ≠ .condition &&
    (fight.casterPlayer caster).any fun player =>
      fight.succeeds player .criticalHitChance .criticalHitAmount

/-- The amount of a skill of the caster. -/
def amount (skill : SpecialSkill) : UInt16 :=
  ((fight.casterPlayer caster).map fun player => fight.getSpecialSkill player skill).getD 0

/-- The loop over the conditions. -/
def addConditions : List Effect :=
  (params.conditionList.filter fun condition =>
    caster = some target || !fight.isImmune target condition.type).map fun condition =>
      .addCombatCondition target
        (match caster with
        | some creature => { condition with owner := fight.getID creature }
        | none => condition)

def dispel : Effect :=
  if params.dispelType = .paralyze then .removeCondition target .paralyze
  else .removeCombatCondition target params.dispelType

/-- What the caster leeches, with how much of the damage goes to health and mana. -/
def leech (part : UInt16 → Int64) : List Effect :=
  match fight.casterPlayer caster with
  | some player =>
    let leechCombat (amount : SpecialSkill) : CombatDamage :=
      { type := .none
        value := part (fight.getSpecialSkill player amount)
        leeched := true }
    (if fight.missesHealth player && fight.succeeds player .lifeLeechChance .lifeLeechAmount then
      [.combatChangeHealth none player (leechCombat .lifeLeechAmount)] else []) ++
    (if fight.missesMana player && fight.succeeds player .manaLeechChance .manaLeechAmount then
      [.combatChangeMana none player (leechCombat .manaLeechAmount)] else [])
  | none => []

/-- A target that the damage is leeched from. -/
def isLeeched : Bool :=
  !damage.leeched && damage.type ≠ .healing && damage.origin ≠ .condition

/-- A hit that has not been blocked. -/
def isThrough : Bool := damage.blockType = .none || damage.blockType = .armor

/-- The damage is halved, for whatever value it has, and may be critical. -/
def reduced : CombatDamage :=
  let damage :=
    if (fight.casterPlayer caster).isSome && fight.isSpared target then
      { damage with value := damage.value / 2 }
    else damage
  if fight.mayBeCritical caster damage then
    { damage with
      value := damage.value + fight.percent damage.value (fight.amount caster .criticalHitAmount)
      critical := true }
  else damage

/-- What comes after health or mana have been changed, in `doTargetCombat`. -/
def afterTarget (success : Bool) : List Effect :=
  if success then
    (if isThrough damage then fight.addConditions caster target params else []) ++
      (if isLeeched damage then
        fight.leech caster fun skill => fight.percent damage.value.abs skill else []) ++
      [dispel target params]
  else []

/-- `Combat::doTargetCombat`. -/
def doTargetCombat : List Effect :=
  if damage.type ≠ .manaDrain then
    if fight.combatBlockHit caster target damage then []
    else
      let damage := { fight.reduced caster target damage with spellName := params.spellName }
      let changed := fight.combatChangeHealth caster target damage
      .combatChangeHealth caster target damage ::
        fight.afterTarget caster target (damage.change changed) params changed.success
  else
    let changed := fight.combatChangeMana caster target damage
    .combatChangeMana caster target damage ::
      fight.afterTarget caster target (damage.change changed) params changed.success

abbrev MAP_MAX_LAYERS : UInt8 := 16

/-- `Combat::getCombatArea` without an area. -/
def getCombatArea (spot : Spot) : List Spot := if spot.tile.z ≥ MAP_MAX_LAYERS then [] else [spot]

/-- The creature that is meant of those on a tile, if only one is. -/
def isMeant (spot : Spot) (creature : Nat) : Bool :=
  !params.targetCasterOrTopMost ||
    (if caster.any (· ∈ spot.creatures) then caster = some creature
    else spot.creatures.head? = some creature)

/-- The creatures on a tile that are to be damaged. -/
def damagedOn (spot : Spot) : List Nat :=
  if fight.canDoCombatOnTile caster spot.tile params.aggressive ≠ .noError then []
  else
    let damaged := spot.creatures.filter fun creature =>
      isMeant caster params spot creature &&
        (!params.aggressive ||
          caster ≠ some creature && fight.canDoCombat caster creature = .noError)
    if params.targetCasterOrTopMost then damaged.take 1 else damaged

/-- What `doAreaCombat` does to one creature of several. -/
def areaHit (criticalPrimary : Int32) (targetsCount : Nat) (target : Nat) : List Effect :=
  let playerCombatReduced :=
    damage.value < 0 && (fight.casterPlayer caster).isSome && fight.isSpared target
  let value := if playerCombatReduced then damage.value / 2 else damage.value
  let value :=
    if damage.critical then
      value + (if playerCombatReduced then criticalPrimary / 2 else criticalPrimary).toInt64
    else value
  let damageCopy := { damage with value }
  let after (changed : Changed) : List Effect :=
    if changed.success then
      (if isThrough damage then fight.addConditions caster target params else []) ++
        (if isLeeched damage then
          fight.leech caster fun skill => fight.leechPercent changed.value.abs skill targetsCount
          else []) ++
        [dispel target params]
    else []
  if damage.type ≠ .manaDrain then
    if fight.combatBlockHit caster target damageCopy then []
    else
      let damageCopy := { damageCopy with spellName := params.spellName }
      .combatChangeHealth caster target damageCopy ::
        after (fight.combatChangeHealth caster target damageCopy)
  else
    .combatChangeMana caster target damageCopy ::
      after (fight.combatChangeMana caster target damageCopy)

/-- `Combat::doAreaCombat` at a position, without an area. -/
def doAreaCombat (spot : Spot) : List Effect :=
  let isCritical := fight.mayBeCritical caster damage
  let criticalPrimary : Int32 :=
    if isCritical then
      (fight.percent damage.value (fight.amount caster .criticalHitAmount)).toInt32
    else 0
  let damage := { damage with critical := damage.critical || isCritical }
  let toDamageCreatures := (getCombatArea spot).flatMap (fight.damagedOn caster params)
  toDamageCreatures.flatMap
    (fight.areaHit caster damage params criticalPrimary toDamageCreatures.length)

end Fight

end Otserv.Combats
