import Otserv.Conditions.Condition

/-!
# A creature's conditions

`addCondition` gives a condition to the one of its type, id and sub id, or starts
it and appends it; starting to run removes paralysis and the other way round.
`executeConditions` drops the conditions whose end has passed, and
`hasCondition` finds a condition of a type and sub id whose end has not.

The time, the random speed of a condition of speed and the creature's delay for
its next step are arguments.
-/

namespace Otserv.Conditions

open Otserv.Foundation

/-- Type, id and sub id: what `getCondition` looks for. -/
abbrev Key := ConditionType × Int8 × UInt32

namespace Condition

def key (condition : Condition) : Key := (condition.conditionType, condition.id, condition.subId)

def setTicks (now newTicks : Int) (condition : Condition) : Condition :=
  { condition with ticks := newTicks, endTime := newTicks + now }

/-- `Condition::updateCondition`: whether the added condition replaces the ticks. -/
def updateCondition (now : Int) (condition addCondition : Condition) : Bool :=
  if condition.conditionType ≠ addCondition.conditionType then false
  else if condition.ticks = -1 ∧ addCondition.ticks > 0 then false
  else if addCondition.ticks ≥ 0 ∧ condition.endTime > now + addCondition.ticks then false
  else true

/-- The change of speed drawn from the formula when none is set. -/
def drawSpeed (drawn : Int) (speedDelta : Int) : Int := if speedDelta = 0 then drawn else speedDelta

/-- `addCondition` of the classes: the condition with the added one given to it,
and the change of speed. A condition of damage without damage changes nothing. -/
def addCondition (now drawn : Int) (condition added : Condition) : Condition × Int :=
  match condition.conditionClass with
  | .damage => (condition, 0)
  | .speed =>
    if condition.conditionType ≠ added.conditionType then (condition, 0)
    else if condition.ticks = -1 ∧ added.ticks > 0 then (condition, 0)
    else
      let speedDelta := drawSpeed drawn added.speedDelta
      ({ condition.setTicks now added.ticks with speedDelta := speedDelta },
        speedDelta - condition.speedDelta)
  | .light =>
    if condition.updateCondition now added then
      ({ condition.setTicks now added.ticks with
          lightLevel := added.lightLevel
          lightColor := added.lightColor }, 0)
    else (condition, 0)
  | .regeneration =>
    if condition.updateCondition now added then
      ({ condition.setTicks now added.ticks with
          healthTicks := added.healthTicks
          manaTicks := added.manaTicks
          healthGain := added.healthGain
          manaGain := added.manaGain }, 0)
    else (condition, 0)
  | _ =>
    if condition.updateCondition now added then (condition.setTicks now added.ticks, 0)
    else (condition, 0)

/-- `startCondition` of the classes: the started condition and the change of
speed. Without damage a condition of damage refuses to start. -/
def startCondition (now drawn : Int) (condition : Condition) : Option (Condition × Int) :=
  let started :=
    if condition.ticks > 0 then { condition with endTime := condition.ticks + now } else condition
  match condition.conditionClass with
  | .damage => none
  | .speed =>
    let speedDelta := drawSpeed drawn condition.speedDelta
    some ({ started with speedDelta := speedDelta }, speedDelta)
  | _ => some (started, 0)

/-- `endCondition` of the classes: the change of speed. -/
def endCondition (condition : Condition) : Int :=
  match condition.conditionClass with
  | .speed => -condition.speedDelta
  | _ => 0

/-- `executeCondition`: the condition, or nothing once its end has passed. -/
def executeCondition (now interval : Int) (condition : Condition) : Option Condition :=
  if condition.ticks = -1 then some condition
  else if condition.endTime < now then none
  else
    let condition :=
      if condition.conditionClass ≠ .damage ∧ condition.addEff > 0 ∧
          now - condition.lastEffTicks ≥ condition.addEffTicks then
        { condition with lastEffTicks := now }
      else condition
    some { condition with ticks := max 0 (condition.ticks - interval) }

end Condition

/-- The conditions, the change of the speed and the suppressed types of a creature. -/
structure Creature where
  conditions : List Condition := []
  varSpeed : Int := 0
  suppressions : UInt32 := 0

namespace Creature

/-- `Game::changeSpeed`. -/
def changeSpeed (varSpeedDelta : Int) (creature : Creature) : Creature :=
  { creature with varSpeed := creature.varSpeed + varSpeedDelta }

/-- `isSuppress`: the type is cut to 32 bits. -/
def isSuppress (type : ConditionType) (creature : Creature) : Bool :=
  type.flag.toUInt32 &&& creature.suppressions != 0

def getCondition (key : Key) (creature : Creature) : Option Condition :=
  creature.conditions.find? fun condition => condition.key = key

def hasCondition (timeNow : Int) (type : ConditionType) (subId : UInt32) (creature : Creature) :
    Bool :=
  if creature.isSuppress type then false
  else creature.conditions.any fun condition =>
    condition.conditionType = type ∧ condition.subId = subId ∧
      (condition.endTime ≥ timeNow ∨ condition.ticks = -1)

/-- Removing paralysis waits for the creature's step, unless it is forced. -/
def defers (type : ConditionType) (force : Bool) (walkDelay : Int) : Bool :=
  !force && type = .paralyze && walkDelay > 0

/-- The conditions that match end and are dropped. -/
def endConditions (matches_ : Condition → Bool) (creature : Creature) : Creature :=
  { creature with
    conditions := creature.conditions.filter fun condition => !matches_ condition
    varSpeed := creature.varSpeed +
      ((creature.conditions.filter matches_).map Condition.endCondition).sum }

/-- `removeCondition(type, force)`. -/
def removeCondition (type : ConditionType) (force : Bool) (walkDelay : Int)
    (creature : Creature) : Creature :=
  if defers type force walkDelay then creature
  else creature.endConditions fun condition => condition.conditionType = type

/-- `removeCondition(type, conditionId, force)`. -/
def removeConditionId (type : ConditionType) (conditionId : Int8) (force : Bool)
    (walkDelay : Int) (creature : Creature) : Creature :=
  if defers type force walkDelay then creature
  else creature.endConditions fun condition =>
    condition.conditionType = type ∧ condition.id = conditionId

/-- `removeCondition(condition, force)` of the condition `getCondition` finds. -/
def removeConditionAt (key : Key) (force : Bool) (walkDelay : Int) (creature : Creature) :
    Creature :=
  match creature.getCondition key with
  | none => creature
  | some condition =>
    if defers condition.conditionType force walkDelay then creature
    else
      { creature with
        conditions := creature.conditions.eraseP fun condition => condition.key = key
        varSpeed := creature.varSpeed + condition.endCondition }

/-- The type `onAddCondition` removes. -/
def displaced (now : Int) (type : ConditionType) (creature : Creature) : Option ConditionType :=
  if type = .paralyze ∧ creature.hasCondition now .haste 0 then some .haste
  else if type = .haste ∧ creature.hasCondition now .paralyze 0 then some .paralyze
  else none

/-- `Creature::onAddCondition`. -/
def onAddCondition (now : Int) (type : ConditionType) (walkDelay : Int) (creature : Creature) :
    Creature :=
  match creature.displaced now type with
  | some other => creature.removeCondition other false walkDelay
  | none => creature

/-- What `addCondition` did with the condition. -/
inductive Added where
  | refused
  | given
  | started
deriving DecidableEq

/-- `Creature::addCondition`, forced. -/
def addCondition (now drawn walkDelay : Int) (condition : Option Condition)
    (creature : Creature) : Creature × Added :=
  match condition with
  | none => (creature, .refused)
  | some condition =>
    match creature.getCondition condition.key with
    | some prevCond =>
      ({ creature with
          conditions := onFirst (fun other => other.key = condition.key)
            (fun other => (other.addCondition now drawn condition).1) creature.conditions
          varSpeed := creature.varSpeed + (prevCond.addCondition now drawn condition).2 },
        .given)
    | none =>
      match condition.startCondition now drawn with
      | none => (creature, .refused)
      | some (started, speedChange) =>
        let creature := { creature with
          conditions := creature.conditions ++ [started]
          varSpeed := creature.varSpeed + speedChange }
        (creature.onAddCondition now condition.conditionType walkDelay, .started)

/-- `Creature::executeConditions`. -/
def executeConditions (now interval : Int) (creature : Creature) : Creature :=
  { creature with
    conditions := creature.conditions.filterMap (Condition.executeCondition now interval)
    varSpeed := creature.varSpeed +
      ((creature.conditions.filter fun condition =>
        (condition.executeCondition now interval).isNone).map Condition.endCondition).sum }

end Creature

/-! ## Spells -/

/-- The cooldowns of a spell. -/
structure Spell where
  spellId : UInt8 := 0
  cooldown : UInt32 := 1000
  group : UInt8 := 0
  groupCooldown : UInt32 := 1000
  secondaryGroup : UInt8 := 0
  secondaryGroupCooldown : UInt32 := 0
deriving DecidableEq

/-- A condition of a cooldown as `postCastSpell` asks for it. -/
def Spell.cooldownRequest (type : ConditionType) (cooldown : UInt32) (subId : UInt8) : Request where
  id := -1
  type := type
  ticks := cooldown.toInt32.toInt
  subId := subId.toUInt32

/-- The conditions `postCastSpell` asks for, in its order. -/
def Spell.cooldowns (spell : Spell) : List Request :=
  (if spell.cooldown > 0 then
    [Spell.cooldownRequest .spellCooldown spell.cooldown spell.spellId] else []) ++
  (if spell.groupCooldown > 0 then
    [Spell.cooldownRequest .spellGroupCooldown spell.groupCooldown spell.group] else []) ++
  (if spell.secondaryGroupCooldown > 0 then
    [Spell.cooldownRequest .spellGroupCooldown spell.secondaryGroupCooldown spell.secondaryGroup]
    else [])

/-- The cooldowns `playerSpellCheck` refuses a spell for. -/
def Spell.exhausted (spell : Spell) (now : Int) (player : Creature) : Bool :=
  player.hasCondition now .spellGroupCooldown spell.group.toUInt32 ||
    player.hasCondition now .spellCooldown spell.spellId.toUInt32 ||
    (spell.secondaryGroup != 0 &&
      player.hasCondition now .spellGroupCooldown spell.secondaryGroup.toUInt32)

end Otserv.Conditions
