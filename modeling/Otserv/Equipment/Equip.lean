import Mathlib.Data.Int.Log
import Mathlib.Data.Rat.Floor
import Otserv.Conditions.ConditionList

/-!
# Equipping and de-equipping

`MoveEvent::EquipItem` gives a player the abilities of an item put in a slot, and
`MoveEvent::DeEquipItem` takes them again: conditions that grant invisibility, a
mana shield or regeneration, speed, suppressed conditions, skills, special skills
and stats. A percentage of a stat is computed in floats from the base of the
player, both when it is given and when it is taken.

Network messages, the vocations' names and the transformed items are left out.
-/

namespace Otserv.Equipment

open Otserv.Conditions

inductive Skill where
  | fist | club | sword | axe | distance | shield | fishing
deriving DecidableEq

/-- `SKILL_FIRST` to `SKILL_LAST`. -/
def Skill.all : List Skill := [.fist, .club, .sword, .axe, .distance, .shield, .fishing]

inductive SpecialSkill where
  | criticalHitChance | criticalHitAmount | lifeLeechChance | lifeLeechAmount
  | manaLeechChance | manaLeechAmount
deriving DecidableEq

/-- `SPECIALSKILL_FIRST` to `SPECIALSKILL_LAST`. -/
def SpecialSkill.all : List SpecialSkill :=
  [.criticalHitChance, .criticalHitAmount, .lifeLeechChance, .lifeLeechAmount, .manaLeechChance,
    .manaLeechAmount]

inductive Stat where
  | maxHitpoints | maxManapoints | soulpoints | magicpoints
deriving DecidableEq

/-- `STAT_FIRST` to `STAT_LAST`. -/
def Stat.all : List Stat := [.maxHitpoints, .maxManapoints, .soulpoints, .magicpoints]

/-- `slots_t`. -/
inductive Slot where
  | wherever | head | necklace | backpack | armor | right | left | legs | feet | ring | ammo
  | order | info
deriving DecidableEq

def Slot.all : List Slot :=
  [.wherever, .head, .necklace, .backpack, .armor, .right, .left, .legs, .feet, .ring, .ammo,
    .order, .info]

instance : Fintype Slot := ⟨Slot.all.toFinset, fun slot => by cases slot <;> decide⟩

/-- `static_cast<ConditionId_t>(slot)`. -/
def Slot.conditionId : Slot → Int8
  | .wherever => 0
  | .head => 1
  | .necklace => 2
  | .backpack => 3
  | .armor => 4
  | .right => 5
  | .left => 6
  | .legs => 7
  | .feet => 8
  | .ring => 9
  | .ammo => 10
  | .order => 11
  | .info => 12

structure Abilities where
  healthGain : UInt32 := 0
  healthTicks : UInt32 := 0
  manaGain : UInt32 := 0
  manaTicks : UInt32 := 0
  conditionSuppressions : UInt32 := 0
  stats : Stat → Int := fun _ => 0
  statsPercent : Stat → Int := fun _ => 0
  skills : Skill → Int := fun _ => 0
  specialSkills : SpecialSkill → Int := fun _ => 0
  speed : Int := 0
  manaShield : Bool := false
  invisible : Bool := false
  regeneration : Bool := false

structure ItemType where
  transformEquipTo : UInt16 := 0
  transformDeEquipTo : UInt16 := 0
  abilities : Option Abilities := none

/-- What the event asks of who wields the item. -/
structure MoveEvent where
  wieldInfo : UInt32 := 0
  reqLevel : UInt32 := 0
  reqMagLevel : UInt32 := 0
  premium : Bool := false
  vocEquipMap : List UInt16 := []

structure Player where
  creature : Creature := {}
  inventoryAbilities : Slot → Bool := fun _ => false
  varSkills : Skill → Int := fun _ => 0
  varSpecialSkills : SpecialSkill → Int := fun _ => 0
  varStats : Stat → Int := fun _ => 0
  health : Int := 1000
  healthMax : Int := 1000
  mana : Int := 0
  manaMax : Int := 0
  magLevel : Int := 0
  level : UInt32 := 1
  vocationId : UInt16 := 0
  premium : Bool := false
  ignoreWeaponCheck : Bool := false
  infiniteMana : Bool := false

/-! ## Floats -/

/-- The nearest integer, the even one of two. -/
def roundHalfEven (value : ℚ) : Int :=
  let rest := value - ⌊value⌋
  if rest < 1 / 2 then ⌊value⌋
  else if 1 / 2 < rest then ⌊value⌋ + 1
  else if ⌊value⌋ % 2 = 0 then ⌊value⌋ else ⌊value⌋ + 1

/-- The nearest number of 24 binary digits. Neither the largest `float` nor the
smallest normal one is reached by what is computed here. -/
def toFloat (value : ℚ) : ℚ :=
  if value = 0 then 0
  else
    let lastDigit : ℚ := 2 ^ (Int.log 2 |value| - 23)
    roundHalfEven (value / lastDigit) * lastDigit

/-- The conversion to an integer of 32 bits. -/
def int32 (value : Int) : Int := Int.bmod value (2 ^ 32)

/-- `static_cast<int32_t>(value * ((percent - 100) / 100.f))`. -/
def percentStat (value percent : Int) : Int :=
  let factor := toFloat (toFloat (percent - 100 : Int) / 100)
  let product := toFloat (toFloat value * factor)
  if product < 0 then ⌈product⌉ else ⌊product⌋

namespace Player

/-! ## The player's own operations -/

def isItemAbilityEnabled (slot : Slot) (player : Player) : Bool := player.inventoryAbilities slot

def setItemAbility (slot : Slot) (enabled : Bool) (player : Player) : Player :=
  { player with inventoryAbilities := Function.update player.inventoryAbilities slot enabled }

def setVarSkill (skill : Skill) (modifier : Int) (player : Player) : Player :=
  { player with
    varSkills := Function.update player.varSkills skill (player.varSkills skill + modifier) }

def setVarSpecialSkill (skill : SpecialSkill) (modifier : Int) (player : Player) : Player :=
  { player with
    varSpecialSkills := Function.update player.varSpecialSkills skill
      (player.varSpecialSkills skill + modifier) }

variable (player : Player)

def getMaxHealth : Int :=
  max 1 (player.healthMax + player.varStats .maxHitpoints)

def getMaxMana : Int :=
  max 0 (int32 (player.manaMax + player.varStats .maxManapoints))

def getMagicLevel : Int := max 0 (player.magLevel + player.varStats .magicpoints)

def changeHealth (healthChange : Int) (player : Player) : Player :=
  { player with
    health :=
      if healthChange > 0 then
        player.health + min healthChange (player.getMaxHealth - player.health)
      else max 0 (player.health + healthChange) }

def changeMana (manaChange : Int) (player : Player) : Player :=
  if player.infiniteMana then player
  else
    { player with
      mana :=
        if manaChange > 0 then player.mana + min manaChange (player.getMaxMana - player.mana)
        else max 0 (player.mana + manaChange) }

/-- `Player::setVarStats`: health and mana above the new bounds are cut. -/
def setVarStats (stat : Stat) (modifier : Int) (player : Player) : Player :=
  let player := { player with
    varStats := Function.update player.varStats stat (player.varStats stat + modifier) }
  match stat with
  | .maxHitpoints =>
    if player.health > player.getMaxHealth then
      player.changeHealth (player.getMaxHealth - player.health)
    else player
  | .maxManapoints =>
    if player.mana > player.getMaxMana then player.changeMana (player.getMaxMana - player.mana)
    else player
  | _ => player

/-- `Player::getDefaultStats`. -/
def getDefaultStats (stat : Stat) (player : Player) : Int :=
  match stat with
  | .maxHitpoints => int32 player.healthMax
  | .maxManapoints => int32 player.manaMax
  | .magicpoints => int32 player.magLevel
  | .soulpoints => 0

/-- The part of a stat that comes from a percentage. -/
def percentPart (abilities : Abilities) (player : Player) (stat : Stat) : Int :=
  if abilities.statsPercent stat ≠ 0 then
    percentStat (player.getDefaultStats stat) (abilities.statsPercent stat)
  else 0

end Player

end Otserv.Equipment

namespace Otserv.Conditions.Creature

open Otserv.Equipment

/-! ## The conditions, the speed and the suppressions -/

/-- `Player::addConditionSuppressions`. -/
def addConditionSuppressions (suppressions : UInt32) (creature : Creature) : Creature :=
  { creature with suppressions := creature.suppressions ||| suppressions }

/-- `Player::removeConditionSuppressions`. -/
def removeConditionSuppressions (suppressions : UInt32) (creature : Creature) : Creature :=
  { creature with suppressions := creature.suppressions &&& ~~~suppressions }

/-- A lasting condition of the slot, its parameters set, is added. -/
def grant (now walkDelay : Int) (slot : Slot) (type : ConditionType)
    (setParams : Condition → Condition) (creature : Creature) : Creature :=
  (creature.addCondition now 0 walkDelay
    ((createCondition { id := slot.conditionId, type := type, ticks := -1 }).map setParams)).1

/-- The parameters of regeneration that are not zero. -/
def regenerationParams (abilities : Abilities) (condition : Condition) : Condition :=
  { condition with
    healthGain := if abilities.healthGain ≠ 0 then abilities.healthGain else condition.healthGain
    healthTicks :=
      if abilities.healthTicks ≠ 0 then abilities.healthTicks else condition.healthTicks
    manaGain := if abilities.manaGain ≠ 0 then abilities.manaGain else condition.manaGain
    manaTicks := if abilities.manaTicks ≠ 0 then abilities.manaTicks else condition.manaTicks }

/-- What `EquipItem` does with the conditions, the speed and the suppressions. -/
def addAbilities (now walkDelay : Int) (slot : Slot) (abilities : Abilities)
    (creature : Creature) : Creature :=
  let creature := if abilities.invisible then creature.grant now walkDelay slot .invisible id
    else creature
  let creature := if abilities.manaShield then creature.grant now walkDelay slot .manashield id
    else creature
  let creature := if abilities.speed ≠ 0 then creature.changeSpeed abilities.speed else creature
  let creature := if abilities.conditionSuppressions ≠ 0 then
      creature.addConditionSuppressions abilities.conditionSuppressions
    else creature
  if abilities.regeneration then
    creature.grant now walkDelay slot .regeneration (regenerationParams abilities)
  else creature

/-- What `DeEquipItem` does with the conditions, the speed and the suppressions. -/
def removeAbilities (walkDelay : Int) (slot : Slot) (abilities : Abilities)
    (creature : Creature) : Creature :=
  let creature := if abilities.invisible then
      creature.removeConditionId .invisible slot.conditionId false walkDelay
    else creature
  let creature := if abilities.manaShield then
      creature.removeConditionId .manashield slot.conditionId false walkDelay
    else creature
  let creature := if abilities.speed ≠ 0 then creature.changeSpeed (-abilities.speed) else creature
  let creature := if abilities.conditionSuppressions ≠ 0 then
      creature.removeConditionSuppressions abilities.conditionSuppressions
    else creature
  if abilities.regeneration then
    creature.removeConditionId .regeneration slot.conditionId false walkDelay
  else creature

end Otserv.Conditions.Creature

namespace Otserv.Equipment.Player

open Otserv.Conditions

/-! ## Skills and stats -/

variable (sign : Int) (abilities : Abilities) (player : Player)

/-- The loops over the skills: `EquipItem` adds them, `DeEquipItem` with sign `-1`. -/
def varySkills : Player :=
  Skill.all.foldl (fun player skill =>
    if abilities.skills skill ≠ 0 then player.setVarSkill skill (sign * abilities.skills skill)
    else player) player

def varySpecialSkills : Player :=
  SpecialSkill.all.foldl (fun player skill =>
    if abilities.specialSkills skill ≠ 0 then
      player.setVarSpecialSkill skill (sign * abilities.specialSkills skill)
    else player) player

/-- One turn of the loop over the stats: the stat, then its percentage of the base. -/
def varyStat (stat : Stat) : Player :=
  let player := if abilities.stats stat ≠ 0 then
      player.setVarStats stat (sign * abilities.stats stat)
    else player
  if abilities.statsPercent stat ≠ 0 then
    player.setVarStats stat
      (sign * percentStat (player.getDefaultStats stat) (abilities.statsPercent stat))
  else player

def varyStats : Player :=
  Stat.all.foldl (varyStat sign abilities) player

/-! ## The events -/

/-- The player may wield what the event is for. -/
def wields (moveEvent : MoveEvent) (player : Player) : Bool :=
  if !player.ignoreWeaponCheck ∧ moveEvent.wieldInfo ≠ 0 then
    if player.level < moveEvent.reqLevel ∨ player.getMagicLevel < moveEvent.reqMagLevel.toNat then
      false
    else if moveEvent.premium ∧ !player.premium then false
    else moveEvent.vocEquipMap.isEmpty || moveEvent.vocEquipMap.contains player.vocationId
  else true

/-- `MoveEvent::EquipItem`. -/
def equipItem (now walkDelay : Int) (moveEvent : MoveEvent) (item : ItemType) (slot : Slot)
    (isCheck : Bool) (player : Player) : UInt32 × Player :=
  if player.isItemAbilityEnabled slot then (1, player)
  else if !player.wields moveEvent then (0, player)
  else if isCheck then (1, player)
  else
    let player :=
      if item.transformEquipTo ≠ 0 then player else player.setItemAbility slot true
    match item.abilities with
    | none => (1, player)
    | some abilities =>
      let player := { player with
        creature := player.creature.addAbilities now walkDelay slot abilities }
      (1, ((player.varySkills 1 abilities).varySpecialSkills 1 abilities).varyStats 1 abilities)

/-- `MoveEvent::DeEquipItem`. -/
def deEquipItem (walkDelay : Int) (item : ItemType) (slot : Slot) (player : Player) :
    UInt32 × Player :=
  if !player.isItemAbilityEnabled slot then (1, player)
  else
    let player := player.setItemAbility slot false
    match item.abilities with
    | none => (1, player)
    | some abilities =>
      let player := { player with
        creature := player.creature.removeAbilities walkDelay slot abilities }
      (1, ((player.varySkills (-1) abilities).varySpecialSkills (-1) abilities).varyStats (-1)
        abilities)

/-- A change of level: another base, with health and mana filled up. -/
def changeLevel (level : UInt32) (healthMax manaMax : Int) (player : Player) : Player :=
  let player := { player with level := level, healthMax := healthMax, manaMax := manaMax }
  { player with health := player.getMaxHealth, mana := player.getMaxMana }

end Otserv.Equipment.Player
