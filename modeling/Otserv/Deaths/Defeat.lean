import Otserv.Combat.Health
import Otserv.Foundation.Runs

/-!
# Defeat and death

Each change that leaves a creature without health adds a task of `Game::executeDeath` with its id
to the dispatcher. The task calls `onDeath` for a creature that is still in the game. A defeated
player gets its health again; the creature is removed where a corpse was dropped, which it is not
for a player whom another one defeats in a PvP zone.

It is kept how often the health of a creature dropped to zero and how often `onDeath` was called;
a task knows which drop was the last one when it was added. What is called inside `onDeath` comes
with it as far as it changes health: scripts, the summons of a monster that dies.
-/

namespace Otserv.Deaths

open Foundation

structure Creature where
  isPlayer : Bool
  health : Int
  healthMax : Nat
  skillLoss : Bool := true
  removed : Bool := false
  /-- How often its health dropped to zero. -/
  drops : Nat := 0
  /-- How often `onDeath` was called. -/
  deaths : Nat := 0

structure DeathTask where
  creatureId : Nat
  /-- The last drop of the creature when the task was added. -/
  drop : Nat
deriving DecidableEq

structure Game where
  creatures : Nat → Option Creature := fun _ => none
  /-- The tasks of `executeDeath`, the next one in front. -/
  tasks : List DeathTask := []

/-- A call of `changeHealth`, with the bonus on the maximum of a player. -/
structure HealthChange where
  creatureId : Nat
  healthChange : Int
  varStats : Int := 0

namespace Creature

variable (creature : Creature)

def getMaxHealth (varStats : Int) : Int :=
  if creature.isPlayer then max 1 (creature.healthMax + varStats) else creature.healthMax

def changeHealth (healthChange varStats : Int) : Creature :=
  let health := Combat.Target.changeHealth { maxHealth := creature.getMaxHealth varStats }
    creature.health healthChange
  { creature with
    health := health
    drops := if 0 < creature.health ∧ health ≤ 0 then creature.drops + 1 else creature.drops }

end Creature

/-- What a death depends on. -/
structure Death where
  inPvpZone : Bool
  lastHitIsPlayer : Bool
  /-- `SKULL_BLACK`. -/
  blackSkull : Bool := false
  /-- How many levels are lost, and the health that each one takes. -/
  lostLevels : Nat := 0
  hpGain : Nat := 0
  /-- What is changed inside `onDeath`. -/
  changes : List HealthChange := []

namespace Creature

variable (creature : Creature)

/-- `Player::death`; the death of other creatures leaves them as they are. -/
def death (death : Death) : Creature :=
  if ¬creature.isPlayer then creature
  else if creature.skillLoss then
    let healthMax := creature.healthMax - death.lostLevels * death.hpGain
    { creature with
      healthMax := healthMax
      health := if death.blackSkull then 40 else healthMax }
  else { creature with skillLoss := true, health := creature.healthMax }

/-- `Creature::dropCorpse` drops one always. -/
def dropCorpse (death : Death) : Bool :=
  !creature.isPlayer || !death.inPvpZone || !death.lastHitIsPlayer

end Creature

namespace Game

variable (game : Game)

def modify (creatureId : Nat) (change : Creature → Creature) : Game :=
  { game with
    creatures := Function.update game.creatures creatureId
      ((game.creatures creatureId).map change) }

def changeHealth (change : HealthChange) : Game :=
  match game.creatures change.creatureId with
  | none => game
  | some creature =>
    let changed := creature.changeHealth change.healthChange change.varStats
    let game := game.modify change.creatureId fun _ => changed
    if changed.health ≤ 0 then
      { game with tasks := game.tasks ++ [⟨change.creatureId, changed.drops⟩] }
    else game

end Game

/-- Changes one after the other. -/
def healthChanges : System Game HealthChange where
  legal game change := game.creatures change.creatureId ≠ none
  step game change := game.changeHealth change

namespace Game

variable (game : Game)

/-- The death is counted. -/
def counted (creatureId : Nat) : Game :=
  game.modify creatureId fun creature => { creature with deaths := creature.deaths + 1 }

def onDeath (creatureId : Nat) (droppedCorpse : Bool) (death : Death) : Game :=
  let game := healthChanges.run (game.counted creatureId) death.changes
  game.modify creatureId fun creature =>
    { creature.death death with removed := creature.removed || droppedCorpse }

/-- The next task. -/
def executeDeath (death : Death) : Game :=
  match game.tasks with
  | [] => game
  | task :: tasks =>
    let game := { game with tasks := tasks }
    match game.creatures task.creatureId with
    | none => game
    | some creature =>
      if creature.removed then game
      else game.onDeath task.creatureId (creature.dropCorpse death) death

end Game

inductive GameOp where
  /-- A creature comes into the game, whose id is new. -/
  | appear (creatureId : Nat) (isPlayer : Bool) (health : Int) (healthMax : Nat)
  | setSkillLoss (creatureId : Nat) (skillLoss : Bool)
  | changeHealth (change : HealthChange)
  | executeDeath (death : Death)
  | removeCreature (creatureId : Nat)

/-- What tasks do with the health of creatures, and the tasks of deaths between them. -/
def defeats : System Game GameOp where
  legal game
    | .appear creatureId _ health _ => game.creatures creatureId = none ∧ 0 ≤ health
    | .setSkillLoss creatureId _ => game.creatures creatureId ≠ none
    | .changeHealth change => game.creatures change.creatureId ≠ none
    | .executeDeath _ => game.tasks ≠ []
    | .removeCreature creatureId => game.creatures creatureId ≠ none
  step game
    | .appear creatureId isPlayer health healthMax =>
      { game with
        creatures := Function.update game.creatures creatureId
          (some { isPlayer := isPlayer, health := health, healthMax := healthMax }) }
    | .setSkillLoss creatureId skillLoss =>
      game.modify creatureId fun creature => { creature with skillLoss := skillLoss }
    | .changeHealth change => game.changeHealth change
    | .executeDeath death => game.executeDeath death
    | .removeCreature creatureId =>
      game.modify creatureId fun creature => { creature with removed := true }

end Otserv.Deaths
