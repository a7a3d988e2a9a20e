import Mathlib.Algebra.Order.Group.Int
import Otserv.Foundation.Numerals

/-!
# Damage and healing

`combatChangeHealth` heals a creature when the value is positive and hits it otherwise. The
creature's `CREATURE_EVENT_HEALTHCHANGE` handlers may change the damage: then the function calls
itself with what they have made of it and the origin `ORIGIN_NONE`, which calls no handlers.

The power of a spell against the target is a function of the attacker's. Messages and effects
are left out.
-/

namespace Otserv.Combat

inductive CombatType where
  | none | physicalDamage | energyDamage | earthDamage | fireDamage | undefinedDamage | lifeDrain
  | manaDrain | healing | drownDamage | iceDamage | holyDamage | deathDamage | psychicDamage
  | grassDamage | normalDamage | waterDamage | flyingDamage | poisonDamage | electricDamage
  | groundDamage | rockDamage | bugDamage | dragonDamage | ghostDamage | darkDamage | steelDamage
  | fairyDamage | fightingDamage
deriving DecidableEq

inductive CombatOrigin where
  | none
  | condition
  | spell
  | melee
  | ranged
  | return_
deriving DecidableEq

structure CombatDamage where
  type : CombatType
  value : Int
  spellName : String := ""
  critical : Bool := false
  origin : CombatOrigin := .none
deriving DecidableEq

/-! ## Handlers -/

/-- A `CREATURE_EVENT_HEALTHCHANGE` handler: the value, the type and whether the damage is
critical, or that the script has failed. -/
abbrev HealthChange : Type := CombatDamage → Option (Int × CombatType × Bool)

/-- A `CREATURE_EVENT_MANACHANGE` handler. -/
abbrev ManaChange : Type := CombatDamage → Option (Int × CombatType × String)

/-- `CreatureEvent::executeHealthChange`. -/
def executeHealthChange (damage : CombatDamage) (handler : HealthChange) : CombatDamage :=
  match handler damage with
  | none => damage
  | some (value, type, critical) =>
    { damage with
      type := type
      critical := critical
      value := if type ≠ .healing then -|value| else |value| }

/-- `CreatureEvent::executeManaChange`. -/
def executeManaChange (damage : CombatDamage) (handler : ManaChange) : CombatDamage :=
  match handler damage with
  | none => damage
  | some (value, type, spellName) =>
    { damage with value := value, type := type, spellName := spellName }

/-! ## Creatures -/

structure Monster where
  /-- The spell's power against the target, of the levels, boosts and elements. -/
  spellPower : String → CombatType → Nat
  hasMeleeRage : Bool := false
  hasRage : Bool := false

inductive Attacker where
  | monster (monster : Monster)
  /-- A player, who may have a black skull that the target gives no reason for. -/
  | player (blackSkull : Bool)
  | other

structure Target where
  isPlayer : Bool := false
  isAttackable : Bool := true
  hasManaShield : Bool := false
  /-- `PlayerFlag_HasInfiniteMana`. -/
  hasInfiniteMana : Bool := false
  maxHealth : Int
  maxMana : UInt32 := 0
  healthChange : List HealthChange := []
  manaChange : List ManaChange := []
  /-- What the `CREATURE_EVENT_PREPAREDEATH` handlers answer. -/
  prepareDeath : List Bool := []

structure Vitals where
  health : Int
  mana : UInt32 := 0
deriving DecidableEq

/-- A value as an `int32_t`. -/
def toInt32 (value : Int) : Int := value.bmod (2 ^ 32)

/-- A value as a `uint32_t`. -/
def toUInt32 (value : Int) : UInt32 := UInt32.ofNat (value % 2 ^ 32).toNat

namespace Target

variable (target : Target)

/-- `Creature::changeHealth`. -/
def changeHealth (health healthChange : Int) : Int :=
  if healthChange > 0 then health + min healthChange (target.maxHealth - health)
  else max 0 (health + healthChange)

/-- `Player::changeMana`, of an `int32_t`. -/
def changeMana (mana : UInt32) (manaChange : Int) : UInt32 :=
  if target.hasInfiniteMana then mana
  else if manaChange > 0 then
    toUInt32 (mana.toNat + min manaChange (toInt32 (target.maxMana.toNat - mana.toNat)))
  else toUInt32 (max 0 (toInt32 (mana.toNat + manaChange)))

/-- `Player::drainMana`, whose argument becomes an `int32_t`. -/
def drainMana (mana : UInt32) (manaDamage : Int) : UInt32 :=
  target.changeMana mana (toInt32 (-toInt32 manaDamage))

end Target

/-! ## The function -/

/-- What a call returns and leaves, and the handlers that it has called, by their places. -/
structure Outcome where
  result : Bool
  damage : CombatDamage
  vitals : Vitals
  calls : List Nat := []

/-- The value of a monster's hit. -/
def Monster.hitValue (monster : Monster) (damage : CombatDamage) : Int :=
  let value :=
    if damage.origin ≠ .return_ then (monster.spellPower damage.spellName damage.type : Int)
    else damage.value
  let value := if monster.hasMeleeRage ∧ damage.origin = .melee then value * 2 else value
  if monster.hasRage then value * 2 else value

/-- What the mana shield does: the vitals and the damage, and whether nothing is left because of
the handlers. -/
def shieldMana (target : Target) (vitals : Vitals) (damage : CombatDamage) :
    Vitals × CombatDamage × Bool :=
  if target.isPlayer ∧ target.hasManaShield ∧ damage.type ≠ .undefinedDamage ∧
      min (vitals.mana.toNat : Int) damage.value ≠ 0 then
    let damage :=
      if damage.origin ≠ .none then target.manaChange.foldl executeManaChange damage else damage
    if damage.value = 0 then (vitals, damage, true)
    else
      let manaDamage := min (vitals.mana.toNat : Int) damage.value
      ({ vitals with mana := target.drainMana vitals.mana manaDamage },
        { damage with value := max 0 (damage.value - manaDamage) }, false)
  else (vitals, damage, false)

/-- The end of a hit: what it takes from the health. -/
def takeHealth (target : Target) (vitals : Vitals) (damage : CombatDamage) : Outcome :=
  let damage :=
    if damage.value ≥ vitals.health then { damage with value := vitals.health } else damage
  if damage.value = 0 then ⟨true, damage, vitals, []⟩
  else if damage.value ≥ vitals.health ∧ target.prepareDeath.any (!·) then
    ⟨false, damage, vitals, []⟩
  else
    ⟨true, damage,
      { vitals with health := target.changeHealth vitals.health (-damage.value) }, []⟩

/-- What the attacker makes of the damage, if it may attack. -/
def attack (attacker : Option Attacker) (target : Target) (damage : CombatDamage) :
    Except CombatDamage CombatDamage :=
  let struck := { damage with value := |damage.value| }
  match attacker with
  | none => .ok struck
  | some (.monster monster) => .ok { struck with value := monster.hitValue struck }
  | some (.player blackSkull) =>
    .error (if target.isPlayer ∧ blackSkull then damage else struck)
  | some .other => .error struck

/-- `Game::combatChangeHealth`. -/
def combatChangeHealth (attacker : Option Attacker) (target : Target) (vitals : Vitals)
    (damage : CombatDamage) : Outcome :=
  if damage.value > 0 then
    if vitals.health ≤ 0 then ⟨false, damage, vitals, []⟩
    else if _handled : damage.origin ≠ .none ∧ target.healthChange ≠ [] then
      let changed := target.healthChange.foldl executeHealthChange damage
      let outcome := combatChangeHealth attacker target vitals { changed with origin := .none }
      { outcome with calls := List.range target.healthChange.length ++ outcome.calls }
    else
      ⟨true, damage,
        { vitals with health := target.changeHealth vitals.health damage.value }, []⟩
  else if !target.isAttackable then ⟨true, damage, vitals, []⟩
  else
    match attack attacker target damage with
    | .error damage => ⟨false, damage, vitals, []⟩
    | .ok struck =>
      if struck.value = 0 then ⟨true, struck, vitals, []⟩
      else
        let (vitals, shielded, finished) := shieldMana target vitals struck
        if finished ∨ shielded.value = 0 then ⟨true, shielded, vitals, []⟩
        else if _handled : damage.origin ≠ .none ∧ target.healthChange ≠ [] then
          let changed := target.healthChange.foldl executeHealthChange shielded
          let outcome :=
            combatChangeHealth attacker target vitals { changed with origin := .none }
          { outcome with calls := List.range target.healthChange.length ++ outcome.calls }
        else takeHealth target vitals shielded
termination_by if damage.origin = .none then 0 else 1
decreasing_by
  all_goals simp [_handled.1]

end Otserv.Combat
