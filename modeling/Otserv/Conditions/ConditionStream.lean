import Otserv.Equipment.Equip
import Otserv.Foundation.ByteStream

/-!
# The stream of a player's conditions

Each class of conditions keeps what it changes, and is written as a sequence of tagged fields:
the fields of all conditions first, then those of its class. A saved player's persistent
conditions are written one behind the other, each with an end tag, and read back by making a
condition from the first fields and letting it read its own.

What only shows at the creature is left out: effects, messages, and the ticks since a condition
of regeneration or soul last gave something. What is drawn at random, computed in floats or
decided by the creature comes with the `Moment` of an operation. The floats of a speed formula
are their bits.
-/

namespace Otserv.ConditionStream

open Foundation Conditions Equipment

/-! ## Conditions -/

structure IntervalInfo where
  timeLeft : Int32
  value : Int32
  interval : Int32
deriving DecidableEq

structure Outfit_t where
  lookType : UInt16 := 0
  lookTypeEx : UInt16 := 0
  lookMount : UInt16 := 0
  lookWings : UInt16 := 0
  lookAura : UInt16 := 0
  lookShader : UInt16 := 0
  lookHead : UInt8 := 0
  lookBody : UInt8 := 0
  lookLegs : UInt8 := 0
  lookFeet : UInt8 := 0
  lookAddons : UInt8 := 0
deriving DecidableEq

structure ConditionDamage where
  maxDamage : Int32 := 0
  minDamage : Int32 := 0
  startDamage : Int32 := 0
  periodDamage : Int32 := 0
  periodDamageTick : Int32 := 0
  tickInterval : Int32 := 2000
  forceUpdate : Bool := false
  delayed : Bool := false
  field : Bool := false
  owner : UInt32 := 0
  damageList : List IntervalInfo := []
deriving DecidableEq

structure ConditionSpeed where
  speedDelta : Int32
  mina : UInt32 := 0
  minb : UInt32 := 0
  maxa : UInt32 := 0
  maxb : UInt32 := 0
deriving DecidableEq

structure ConditionLight where
  level : UInt8
  color : UInt8
  internalLightTicks : UInt32 := 0
  lightChangeInterval : UInt32 := 0
deriving DecidableEq

structure ConditionRegeneration where
  healthTicks : UInt32 := 1000
  manaTicks : UInt32 := 1000
  healthGain : UInt32 := 0
  manaGain : UInt32 := 0
deriving DecidableEq

structure ConditionSoul where
  soulTicks : UInt32 := 0
  soulGain : UInt32 := 0
deriving DecidableEq

structure ConditionAttributes where
  skills : Skill → Int32 := fun _ => 0
  skillsPercent : Skill → Int32 := fun _ => 0
  specialSkills : SpecialSkill → Int32 := fun _ => 0
  stats : Stat → Int32 := fun _ => 0
  statsPercent : Stat → Int32 := fun _ => 0
  currentSkill : Nat := 0
  currentStat : Nat := 0
  disableDefense : Bool := false

/-- What the classes add to a condition; most add nothing. -/
inductive State where
  | plain
  | damage (state : ConditionDamage)
  | speed (state : ConditionSpeed)
  | outfit (outfit : Outfit_t)
  | light (state : ConditionLight)
  | regeneration (state : ConditionRegeneration)
  | soul (state : ConditionSoul)
  | attributes (state : ConditionAttributes)

/-- A condition. Its type is a value of `ConditionType_t`, which need not have a name. -/
structure Condition where
  id : Int8
  conditionType : UInt64
  endTime : Int
  subId : UInt32
  ticks : Int32
  isBuff : Bool
  aggressive : Bool
  state : State

def ConditionType.all : List ConditionType :=
  [.none, .poison, .fire, .energy, .bleeding, .haste, .paralyze, .outfit, .invisible, .light,
    .manashield, .infight, .drunk, .exhaustWeapon, .regeneration, .soul, .drown, .muted,
    .channelMutedTicks, .yellTicks, .attributes, .freezing, .dazzled, .cursed, .exhaustCombat,
    .exhaustHeal, .pacified, .spellCooldown, .spellGroupCooldown, .sleep, .seed, .moving, .noMove,
    .attackBonus, .confusion, .stun, .silence, .blind, .defenseBonus, .fear, .snare, .rage,
    .meleeRage]

/-- The class that the switch of `createCondition` makes a value of the type. -/
def classOf (type : UInt64) : Option ConditionClass :=
  (ConditionType.all.find? fun named => named.flag = type).bind ConditionType.conditionClass

/-! ## Making conditions -/

/-- The call `Condition(id, type, ticks, buff, subId, aggressive)` of the classes, which takes
the flag of a buff for the ticks of the last effect. -/
def base (id : Int8) (type : UInt64) (ticks : Int32) (_lastEffTicks : Bool) (buff : UInt32)
    (subId : Bool) (state : State) : Condition where
  id := id
  conditionType := type
  endTime := if ticks = -1 then int64Max else 0
  subId := boolToUint32 subId
  ticks := ticks
  isBuff := uint32ToBool buff
  aggressive := false
  state := state

/-- `Condition::createCondition`. -/
def createCondition (id : Int8) (type : UInt64) (ticks param : Int32) (buff : Bool)
    (subId : UInt32) (aggressive : Bool) : Option Condition :=
  match classOf type with
  | some .damage => some (base id type 0 buff subId aggressive (.damage {}))
  | some .speed => some (base id type ticks buff subId aggressive (.speed { speedDelta := param }))
  | some .outfit => some (base id type ticks buff subId aggressive (.outfit {}))
  | some .light =>
    some (base id type ticks buff subId aggressive (.light
      { level := param.toUInt32.toUInt8, color := (param.toUInt32 >>> 8).toUInt8 }))
  | some .regeneration => some (base id type ticks buff subId aggressive (.regeneration {}))
  | some .soul => some (base id type ticks buff subId aggressive (.soul {}))
  | some .attributes => some (base id type ticks buff subId aggressive (.attributes {}))
  | some .status | some .invisible | some .spellCooldown | some .spellGroupCooldown
  | some .generic | some .bonus => some (base id type ticks buff subId aggressive .plain)
  | none => none

/-- The parameters that change something that is kept here. -/
inductive Param where
  | ticks | buffSpell | subId | aggressive
  | owner | forceUpdate | delayed | maxValue | minValue | startValue | tickInterval
  | periodicDamage | field
  | speed | lightLevel | lightColor
  | healthGain | healthTicks | manaGain | manaTicks | soulGain | soulTicks
  | skillMelee | skillMeleePercent | skill (skill : Skill) | skillPercent (skill : Skill)
  | maxHitpoints | maxManapoints | magicpoints
  | maxHitpointsPercent | maxManapointsPercent | magicpointsPercent
  | specialSkill (skill : SpecialSkill) | disableDefense

namespace ConditionDamage

def setParam (damage : ConditionDamage) (param : Param) (value : Int32) : ConditionDamage :=
  match param with
  | .owner => { damage with owner := value.toUInt32 }
  | .forceUpdate => { damage with forceUpdate := value != 0 }
  | .delayed => { damage with delayed := value != 0 }
  | .maxValue => { damage with maxDamage := value.abs }
  | .minValue => { damage with minDamage := value.abs }
  | .startValue => { damage with startDamage := value.abs }
  | .tickInterval => { damage with tickInterval := value.abs }
  | .periodicDamage => { damage with periodDamage := value }
  | .field => { damage with field := value != 0 }
  | _ => damage

end ConditionDamage

/-- `ConditionSpeed::setParam` of the speed: the type that the condition has then. -/
def speedType (value : Int32) : ConditionType :=
  if value > 0 then .haste else if value ≤ -1000 then .sleep else .paralyze

def ConditionLight.setParam (light : ConditionLight) (param : Param) (value : Int32) :
    ConditionLight :=
  match param with
  | .lightLevel => { light with level := value.toUInt32.toUInt8 }
  | .lightColor => { light with color := value.toUInt32.toUInt8 }
  | _ => light

def ConditionRegeneration.setParam (regeneration : ConditionRegeneration) (param : Param)
    (value : Int32) : ConditionRegeneration :=
  match param with
  | .healthGain => { regeneration with healthGain := value.toUInt32 }
  | .healthTicks => { regeneration with healthTicks := value.toUInt32 }
  | .manaGain => { regeneration with manaGain := value.toUInt32 }
  | .manaTicks => { regeneration with manaTicks := value.toUInt32 }
  | _ => regeneration

def ConditionSoul.setParam (soul : ConditionSoul) (param : Param) (value : Int32) : ConditionSoul :=
  match param with
  | .soulGain => { soul with soulGain := value.toUInt32 }
  | .soulTicks => { soul with soulTicks := value.toUInt32 }
  | _ => soul

namespace ConditionAttributes

variable (attributes : ConditionAttributes)

def setSkill (skill : Skill) (value : Int32) : ConditionAttributes :=
  { attributes with skills := Function.update attributes.skills skill value }

def setSkillPercent (skill : Skill) (value : Int32) : ConditionAttributes :=
  { attributes with skillsPercent := Function.update attributes.skillsPercent skill value }

def setStat (stat : Stat) (value : Int32) : ConditionAttributes :=
  { attributes with stats := Function.update attributes.stats stat value }

def setStatPercent (stat : Stat) (value : Int32) : ConditionAttributes :=
  { attributes with statsPercent := Function.update attributes.statsPercent stat (max 0 value) }

def setParam (param : Param) (value : Int32) : ConditionAttributes :=
  match param with
  | .skillMelee => ((attributes.setSkill .club value).setSkill .axe value).setSkill .sword value
  | .skillMeleePercent =>
    ((attributes.setSkillPercent .club value).setSkillPercent .axe value).setSkillPercent
      .sword value
  | .skill skill => attributes.setSkill skill value
  | .skillPercent skill => attributes.setSkillPercent skill value
  | .maxHitpoints => attributes.setStat .maxHitpoints value
  | .maxManapoints => attributes.setStat .maxManapoints value
  | .magicpoints => attributes.setStat .magicpoints value
  | .maxHitpointsPercent => attributes.setStatPercent .maxHitpoints value
  | .maxManapointsPercent => attributes.setStatPercent .maxManapoints value
  | .magicpointsPercent => attributes.setStatPercent .magicpoints value
  | .specialSkill skill =>
    { attributes with specialSkills := Function.update attributes.specialSkills skill value }
  | .disableDefense => { attributes with disableDefense := value != 0 }
  | _ => attributes

end ConditionAttributes

/-- `setParam` of the classes. -/
def State.setParam (state : State) (param : Param) (value : Int32) : State :=
  match state with
  | .plain => .plain
  | .damage own => .damage (own.setParam param value)
  | .speed own =>
    match param with
    | .speed => .speed { own with speedDelta := value }
    | _ => .speed own
  | .outfit own => .outfit own
  | .light own => .light (own.setParam param value)
  | .regeneration own => .regeneration (own.setParam param value)
  | .soul own => .soul (own.setParam param value)
  | .attributes own => .attributes (own.setParam param value)

namespace Condition

variable (condition : Condition)

/-- `setParam` of the condition that a class extends. -/
def setBaseParam (param : Param) (value : Int32) : Condition :=
  match param, condition.state with
  | .ticks, _ => { condition with ticks := value }
  | .buffSpell, _ => { condition with isBuff := value != 0 }
  | .subId, _ => { condition with subId := value.toUInt32 }
  | .aggressive, _ => { condition with aggressive := value != 0 }
  | .speed, .speed _ => { condition with conditionType := (speedType value).flag }
  | _, _ => condition

def setParam (param : Param) (value : Int32) : Condition :=
  { condition.setBaseParam param value with state := condition.state.setParam param value }

def setTicks (now : Int) (newTicks : Int32) : Condition :=
  { condition with ticks := newTicks, endTime := newTicks.toInt + now }

end Condition

/-! ## The conditions of a creature -/

/-- What an operation meets: the time, the creature and what is drawn. -/
structure Moment where
  now : Int
  isPlayer : Bool
  percentSkill : Skill → Int32 → Int32
  percentStat : Stat → Int32 → Int32
  drawnSpeed : Int32
  /-- What `uniform_random` gives between the damages, and the list made of it. -/
  amount : Int
  damages : List Int
  /-- The creature takes the damage. -/
  takes : Bool
  /-- `onTickCondition`. -/
  onTick : Bool → Bool

def EVENT_CREATURE_THINK_INTERVAL : Int := 1000

namespace ConditionDamage

/-- One round of the loop of `addDamage`, with the ticks of the condition. -/
def addRound (time value : Int) (state : Int32 × ConditionDamage) : Int32 × ConditionDamage :=
  let info : IntervalInfo := ⟨Int32.ofInt time, Int32.ofInt value, Int32.ofInt time⟩
  (if state.1 ≠ -1 then state.1 + info.interval else state.1,
    { state.2 with damageList := state.2.damageList ++ [info] })

/-- `addDamage` of one round, as `init` calls it. -/
def addDamage (time value : Int) (state : Int32 × ConditionDamage) : Int32 × ConditionDamage :=
  if state.2.periodDamage > 0 then state
  else addRound (max time EVENT_CREATURE_THINK_INTERVAL) value state

/-- `init`, with the ticks of the condition: those are set when there was nothing to do. -/
def init (moment : Moment) (ticks : Int32) (damage : ConditionDamage) :
    Bool × Int32 × ConditionDamage :=
  if damage.periodDamage ≠ 0 then (true, ticks, damage)
  else if damage.damageList ≠ [] then (true, ticks, damage)
  else if moment.amount = 0 then (false, 0, damage)
  else
    let startDamage :=
      if damage.startDamage > damage.maxDamage then damage.maxDamage
      else if damage.startDamage = 0 then Int32.ofInt (max 1 (-(-moment.amount / 20)))
      else damage.startDamage
    let (ticks, filled) := moment.damages.foldl
      (fun state value => addDamage damage.tickInterval.toInt (-value) state)
      (0, { damage with startDamage })
    (!filled.damageList.isEmpty, ticks, filled)

/-- `getTotalDamage`. -/
def getTotalDamage (damage : ConditionDamage) : Int :=
  Int.natAbs (if damage.damageList ≠ [] then
      (damage.damageList.map fun info => info.value.toInt).sum
    else damage.minDamage.toInt + Int.tdiv (damage.maxDamage.toInt - damage.minDamage.toInt) 2)

/-- What `executeCondition` does to the damage, and how much of the interval the condition
itself runs on. -/
def execute (moment : Moment) (ticks interval : Int32) (damage : ConditionDamage) :
    Int32 × ConditionDamage :=
  if damage.periodDamage ≠ 0 then
    let periodDamageTick := damage.periodDamageTick + interval
    (interval, { damage with
      periodDamageTick := if periodDamageTick ≥ damage.tickInterval then 0 else periodDamageTick })
  else
    match damage.damageList with
    | [] => (interval, damage)
    | info :: infos =>
      let remove := moment.onTick (ticks ≠ -1)
      let timeLeft := info.timeLeft - interval
      let damageList :=
        if timeLeft > 0 then { info with timeLeft } :: infos
        else if remove then infos
        else { info with timeLeft := info.interval } :: infos
      (if remove then interval else 0, { damage with damageList })

end ConditionDamage

namespace ConditionAttributes

variable (moment : Moment) (attributes : ConditionAttributes)

def updatePercentSkills : ConditionAttributes :=
  { attributes with
    skills := fun skill =>
      if attributes.skillsPercent skill = 0 then attributes.skills skill
      else moment.percentSkill skill (attributes.skillsPercent skill) }

def updatePercentStats : ConditionAttributes :=
  { attributes with
    stats := fun stat =>
      if attributes.statsPercent stat = 0 ∨ stat = .soulpoints then attributes.stats stat
      else moment.percentStat stat (attributes.statsPercent stat) }

def update : ConditionAttributes :=
  if moment.isPlayer then (attributes.updatePercentSkills moment).updatePercentStats moment
  else attributes

end ConditionAttributes

/-- The speed that is drawn for a formula. -/
def ConditionSpeed.draw (moment : Moment) (speed : ConditionSpeed) : ConditionSpeed :=
  if speed.speedDelta = 0 then { speed with speedDelta := moment.drawnSpeed } else speed

/-- The light fades in as many steps as it has levels; a light of no level divides by zero. -/
def ConditionLight.start (ticks : Int32) (light : ConditionLight) : Option ConditionLight :=
  if light.level = 0 then none
  else some { light with
    internalLightTicks := 0
    lightChangeInterval := (ticks / light.level.toUInt32.toInt32).toUInt32 }

namespace Condition

variable (moment : Moment) (condition : Condition)

/-- `startCondition`: the condition as it is kept, unless it does not start. -/
def startCondition : Option Condition :=
  let started :=
    if condition.ticks > 0 then
      { condition with endTime := condition.ticks.toInt + moment.now }
    else condition
  match condition.state with
  | .damage damage =>
    if !damage.delayed && !moment.takes then none
    else
      let (starts, ticks, after) := damage.init moment condition.ticks
      let initialized :=
        if damage.periodDamage = 0 ∧ damage.damageList = [] then started.setTicks moment.now ticks
        else started
      if starts then some { initialized with state := .damage after } else none
  | .speed speed => some { started with state := .speed (speed.draw moment) }
  | .light light =>
    (light.start condition.ticks).map fun light => { started with state := .light light }
  | .attributes attributes => some { started with state := .attributes (attributes.update moment) }
  | .plain | .outfit _ | .regeneration _ | .soul _ => some started

/-- `Condition::executeCondition`. -/
def executeBase (interval : Int32) : Option Condition :=
  if condition.ticks = -1 then some condition
  else if condition.endTime < moment.now then none
  else some { condition with ticks := max 0 (condition.ticks - interval) }

/-- `executeCondition`: the condition unless it ends. -/
def executeCondition (interval : Int32) : Option Condition :=
  match condition.state with
  | .damage damage =>
    let (left, after) := damage.execute moment condition.ticks interval
    let condition :=
      if left ≠ interval ∧ condition.ticks > 0 then
        { condition with endTime := condition.endTime + interval.toInt }
      else condition
    { condition with state := .damage after }.executeBase moment left
  | .light light =>
    let internalLightTicks := light.internalLightTicks + interval.toUInt32
    { condition with state := .light { light with
        internalLightTicks :=
          if internalLightTicks ≥ light.lightChangeInterval then 0
          else internalLightTicks } }.executeBase moment interval
  | _ => condition.executeBase moment interval

/-- `Condition::updateCondition`. -/
def updateCondition (addCondition : Condition) : Bool :=
  if condition.conditionType ≠ addCondition.conditionType then false
  else if condition.ticks = -1 ∧ addCondition.ticks > 0 then false
  else if addCondition.ticks ≥ 0 ∧
      condition.endTime > moment.now + addCondition.ticks.toInt then false
  else true

variable (damage : ConditionDamage)

/-- `ConditionDamage::updateCondition`. -/
def updateDamage (addCondition : Condition) (added : ConditionDamage) : Bool :=
  if added.forceUpdate then true
  else if condition.ticks = -1 ∧ addCondition.ticks > 0 then false
  else added.getTotalDamage > damage.getTotalDamage

/-- `ConditionDamage::addCondition`, once it is to be updated. -/
def replaceDamage (addCondition : Condition) (added : ConditionDamage) : Condition :=
  let nextTimeLeft :=
    match damage.damageList with
    | [] => added.tickInterval
    | info :: _ => info.timeLeft
  let replaced : ConditionDamage :=
    { damage with
      owner := added.owner
      maxDamage := added.maxDamage
      minDamage := added.minDamage
      startDamage := added.startDamage
      tickInterval := added.tickInterval
      periodDamage := added.periodDamage
      damageList := added.damageList }
  let condition := condition.setTicks moment.now addCondition.ticks
  let (starts, ticks, after) := replaced.init moment condition.ticks
  let condition :=
    if replaced.periodDamage = 0 ∧ replaced.damageList = [] then
      condition.setTicks moment.now ticks
    else condition
  if !starts then { condition with state := .damage after }
  else
    let restored :=
      match after.damageList with
      | [] => []
      | info :: infos => { info with timeLeft := nextTimeLeft } :: infos
    let damageList :=
      if !after.delayed ∧ after.periodDamage = 0 ∧ condition.ticks ≠ -1 then restored.tail
      else restored
    { condition with state := .damage { after with damageList } }

/-- `addCondition` of the classes. -/
def addCondition (addCondition : Condition) : Condition :=
  match condition.state, addCondition.state with
  | .damage damage, .damage added =>
    if addCondition.conditionType ≠ condition.conditionType then condition
    else if !condition.updateDamage damage addCondition added then condition
    else condition.replaceDamage moment damage addCondition added
  | .speed _, .speed added =>
    if condition.conditionType ≠ addCondition.conditionType then condition
    else if condition.ticks = -1 ∧ addCondition.ticks > 0 then condition
    else { condition.setTicks moment.now addCondition.ticks with
      state := .speed (added.draw moment) }
  | .light light, .light added =>
    if !condition.updateCondition moment addCondition then condition
    else
      match { light with level := added.level, color := added.color }.start
        addCondition.ticks with
      | none => condition
      | some light =>
        { condition.setTicks moment.now addCondition.ticks with state := .light light }
  | .attributes attributes, .attributes added =>
    if !condition.updateCondition moment addCondition then condition
    else { condition.setTicks moment.now addCondition.ticks with
      state := .attributes ({ added with
        currentSkill := attributes.currentSkill
        currentStat := attributes.currentStat }.update moment) }
  | .plain, .plain =>
    if !condition.updateCondition moment addCondition then condition
    else condition.setTicks moment.now addCondition.ticks
  | .outfit _, .outfit added =>
    if !condition.updateCondition moment addCondition then condition
    else { condition.setTicks moment.now addCondition.ticks with state := .outfit added }
  | .regeneration _, .regeneration added =>
    if !condition.updateCondition moment addCondition then condition
    else { condition.setTicks moment.now addCondition.ticks with state := .regeneration added }
  | .soul _, .soul added =>
    if !condition.updateCondition moment addCondition then condition
    else { condition.setTicks moment.now addCondition.ticks with state := .soul added }
  -- a condition is only given one of its own type
  | _, _ => condition

def isPersistent : Bool :=
  if condition.ticks = -1 then false
  else condition.id = -1 ∨ condition.id = 0 ∨ condition.conditionType = ConditionType.muted.flag

end Condition

/-- The conditions that come about: they are made, given parameters, started, executed, and
added to. -/
inductive Reachable : Condition → Prop
  | create {id : Int8} {type : UInt64} {ticks param : Int32} {buff : Bool} {subId : UInt32}
      {aggressive : Bool} {condition : Condition}
      (created : createCondition id type ticks param buff subId aggressive = some condition) :
      Reachable condition
  | setParam {condition : Condition} (reachable : Reachable condition) (param : Param)
      (value : Int32) : Reachable (condition.setParam param value)
  | start {condition started : Condition} (reachable : Reachable condition) (moment : Moment)
      (starts : condition.startCondition moment = some started) : Reachable started
  | execute {condition executed : Condition} (reachable : Reachable condition) (moment : Moment)
      (interval : Int32) (lasts : condition.executeCondition moment interval = some executed) :
      Reachable executed
  | add {condition added : Condition} (reachable : Reachable condition)
      (other : Reachable added) (moment : Moment) :
      Reachable (condition.addCondition moment added)

end Otserv.ConditionStream
