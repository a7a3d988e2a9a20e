import Otserv.Equipment.Equip
import Otserv.Foundation.Runs

/-!
# Conditions of attributes

A condition of attributes changes the skills, the special skills and the stats of a player while
it is active, and may take its defence. What it changes is added when the condition is started,
taken back when it ends, and exchanged when another of its type, id and sub id is added.

The percentages are of the base of the player, computed in floats. The other conditions of the
player and what is sent to the client are left out; that some conditions end by themselves and
others are removed makes no difference here.
-/

namespace Otserv.Attributes

open Foundation Conditions Equipment

structure ConditionAttributes where
  toCondition : Condition
  skills : Skill → Int := fun _ => 0
  skillsPercent : Skill → Int := fun _ => 0
  specialSkills : SpecialSkill → Int := fun _ => 0
  stats : Stat → Int := fun _ => 0
  statsPercent : Stat → Int := fun _ => 0
  disableDefense : Bool := false

/-- A player with the levels of its skills, its conditions, and whether it may defend itself. -/
structure Bearer where
  player : Player := {}
  baseSkill : Skill → Int := fun _ => 10
  canUseDefense : Bool := true
  conditions : List ConditionAttributes := []

namespace ConditionAttributes

variable (condition : ConditionAttributes)

def key : Key := condition.toCondition.key

def updatePercentSkills (baseSkill : Skill → Int) : ConditionAttributes :=
  { condition with
    skills := fun skill =>
      if condition.skillsPercent skill = 0 then condition.skills skill
      else percentStat (baseSkill skill) (condition.skillsPercent skill) }

variable (player : Player)

def updatePercentStats : ConditionAttributes :=
  { condition with
    stats := fun stat =>
      if condition.statsPercent stat = 0 then condition.stats stat
      else match stat with
        | .maxHitpoints => percentStat player.getMaxHealth (condition.statsPercent stat)
        | .maxManapoints => percentStat player.getMaxMana (condition.statsPercent stat)
        | .magicpoints => percentStat player.magLevel (condition.statsPercent stat)
        | .soulpoints => condition.stats stat }

def updateSkills : Player :=
  let player := Skill.all.foldl (fun player skill =>
    if condition.skills skill ≠ 0 then player.setVarSkill skill (condition.skills skill)
    else player) player
  SpecialSkill.all.foldl (fun player skill =>
    if condition.specialSkills skill ≠ 0 then
      player.setVarSpecialSkill skill (condition.specialSkills skill)
    else player) player

def updateStats : Player :=
  Stat.all.foldl (fun player stat =>
    if condition.stats stat ≠ 0 then player.setVarStats stat (condition.stats stat)
    else player) player

/-- What a start and an addition end with. The stats are computed after the skills have changed. -/
def update (bearer : Bearer) : ConditionAttributes × Player :=
  let condition := condition.updatePercentSkills bearer.baseSkill
  let player := condition.updateSkills bearer.player
  let condition := condition.updatePercentStats player
  (condition, condition.updateStats player)

/-- `ConditionAttributes::startCondition`. -/
def startCondition (now : Int) (bearer : Bearer) : Bearer :=
  let base := condition.toCondition
  let condition := { condition with
    toCondition := { base with
      endTime := if base.ticks > 0 then base.ticks + now else base.endTime } }
  let bearer := { bearer with canUseDefense := !condition.disableDefense }
  let (condition, player) := condition.update bearer
  { bearer with player := player, conditions := bearer.conditions ++ [condition] }

/-- `ConditionAttributes::endCondition`. -/
def endCondition (bearer : Bearer) : Bearer :=
  let player := Skill.all.foldl (fun player skill =>
    if condition.skills skill ≠ 0 ∨ condition.skillsPercent skill ≠ 0 then
      player.setVarSkill skill (-condition.skills skill)
    else player) bearer.player
  let player := SpecialSkill.all.foldl (fun player skill =>
    if condition.specialSkills skill ≠ 0 then
      player.setVarSpecialSkill skill (-condition.specialSkills skill)
    else player) player
  let player := Stat.all.foldl (fun player stat =>
    if condition.stats stat ≠ 0 then player.setVarStats stat (-condition.stats stat)
    else player) player
  { bearer with
    player := player
    canUseDefense := if condition.disableDefense then true else bearer.canUseDefense }

/-- `ConditionAttributes::addCondition` to the first condition of the key. -/
def addCondition (now : Int) (added : ConditionAttributes) (bearer : Bearer) : Bearer :=
  if condition.toCondition.updateCondition now added.toCondition then
    let bearer := condition.endCondition bearer
    let condition := { added with
      toCondition := condition.toCondition.setTicks now added.toCondition.ticks }
    let (condition, player) := condition.update bearer
    { bearer with
      player := player
      conditions := onFirst (fun other => other.key = condition.key) (fun _ => condition)
        bearer.conditions }
  else bearer

end ConditionAttributes

namespace Bearer

variable (bearer : Bearer)

/-- `Creature::getCondition`. -/
def getCondition (key : Key) : Option ConditionAttributes :=
  bearer.conditions.find? fun condition => condition.key = key

/-- `Creature::addCondition`. -/
def addCondition (now : Int) (condition : ConditionAttributes) : Bearer :=
  match bearer.getCondition condition.key with
  | some prevCond => prevCond.addCondition now condition bearer
  | none => condition.startCondition now bearer

/-- A condition is removed or comes to its end. -/
def removeCondition (key : Key) : Bearer :=
  match bearer.getCondition key with
  | some condition =>
    condition.endCondition
      { bearer with conditions := bearer.conditions.eraseP fun other => other.key = key }
  | none => bearer

end Bearer

inductive AttributeOp where
  | addCondition (now : Int) (condition : ConditionAttributes)
  | removeCondition (key : Key)

def attributes : System Bearer AttributeOp where
  legal _ _ := True
  step bearer
    | .addCondition now condition => bearer.addCondition now condition
    | .removeCondition key => bearer.removeCondition key

end Otserv.Attributes
