import Mathlib.Data.Option.Basic

/-!
# Who may fight whom

`Combat::canDoCombat` is asked for a creature and its target, and for a creature and a tile. The
two may be players, or summons, which are masters' and mostly monsters. What scripts answer at
the end is a function of the two.
-/

namespace Otserv.Combats

inductive ReturnValue where
  | noError
  | youMayNotAttackThisCreature
  | youMayNotAttackThisPlayer
  | actionNotPermittedInANoPvpZone
  | actionNotPermittedInProtectionZone
  | notEnoughRoom
  | firstGoDownStairs
  | firstGoUpStairs
  /-- Another one, which a script gives. -/
  | script (value : Nat)
deriving DecidableEq

inductive ZoneType where
  | protection | noPvp | pvp | noLogout | normal
deriving DecidableEq

inductive WorldType where
  | noPvp | pvp | pvpEnforced
deriving DecidableEq

inductive Skull where
  | none | yellow | green | white | red | black | orange
deriving DecidableEq

structure Tile where
  z : UInt8 := 7
  protectionZone : Bool := false
  noPvpZone : Bool := false
  pvpZone : Bool := false
  noLogout : Bool := false
  floorChange : Bool := false
  blockProjectile : Bool := false
  teleport : Bool := false
deriving DecidableEq

def Tile.getZone (tile : Tile) : ZoneType :=
  if tile.protectionZone then .protection
  else if tile.noPvpZone then .noPvp
  else if tile.pvpZone then .pvp
  else if tile.noLogout then .noLogout
  else .normal

structure Player where
  guid : UInt32
  level : UInt32 := 1
  skull : Skull := .none
  cannotBeAttacked : Bool := false
  cannotAttackPlayer : Bool := false
  cannotAttackMonster : Bool := false
  ignoreProtectionZone : Bool := false
deriving DecidableEq

inductive Kind where
  | player (player : Player)
  | monster
  | npc
deriving DecidableEq

structure Creature where
  kind : Kind
  tile : Tile
  master : Option Nat := none
  summonCount : Nat := 0
  isMonsterGuardian : Bool := false
  /-- The guid of the player that a duelist has a contract with, 0 for none. -/
  contractPlayer : Option UInt32 := none
deriving DecidableEq

/-- The creatures, by their addresses, and what else is asked. -/
structure World where
  creature : Nat → Creature
  worldType : WorldType := .pvp
  protectionLevel : UInt32 := 0
  /-- `getSkullClient` of a player, about another one. -/
  getSkullClient : Nat → Nat → Skull := fun _ _ => .none
  /-- `Events::eventCreatureOnTargetCombat`. -/
  onTargetCombat : Option Nat → Nat → ReturnValue := fun _ _ => .noError
  /-- `Events::eventCreatureOnAreaCombat`. -/
  onAreaCombat : Option Nat → Tile → Bool → ReturnValue := fun _ _ _ => .noError

namespace World

variable (world : World) (creature : Nat)

def getPlayer : Option Player :=
  match (world.creature creature).kind with
  | .player player => some player
  | _ => none

def isMonster : Bool := (world.creature creature).kind = .monster

def getMaster : Option Nat := (world.creature creature).master

/-- The player that is the master of a summon. -/
def masterPlayer : Option (Nat × Player) :=
  (world.getMaster creature).bind fun master => (world.getPlayer master).map fun player =>
    (master, player)

def getTile : Tile := (world.creature creature).tile

def getZone : ZoneType := (world.getTile creature).getZone

/-- `Combat::isPlayerCombat`. -/
def isPlayerCombat (target : Nat) : Bool :=
  (world.getPlayer target).isSome || (world.masterPlayer target).isSome

/-- `Combat::isInPvpZone`. -/
def isInPvpZone (attacker target : Nat) : Bool :=
  world.getZone attacker = .pvp && world.getZone target = .pvp

/-- `Combat::isProtected`, of two players. -/
def isProtected (attacker : Nat) (attackerPlayer : Player) (target : Nat)
    (targetPlayer : Player) : Bool :=
  targetPlayer.level < world.protectionLevel || attackerPlayer.level < world.protectionLevel ||
    attackerPlayer.skull = .black && world.getSkullClient attacker target = .none

/-- A duelist who has a contract with another player. -/
def contracted (guid : UInt32) : Bool :=
  (world.creature creature).contractPlayer.any fun contract => contract > 0 && contract ≠ guid

variable (attacker target : Nat)

/-- The target, or its master, is a duelist who has a contract with another player than the one
who attacks. -/
def inContract : Bool :=
  ((world.getPlayer attacker).or ((world.masterPlayer attacker).map (·.2))).any fun player =>
    world.contracted target player.guid ||
      (world.getMaster target).any fun master => world.contracted master player.guid

/-- A player attacks a player. -/
def playerOnPlayer (attacker : Nat) (attackerPlayer : Player) (target : Nat)
    (targetPlayer : Player) : Option ReturnValue :=
  let targetTile := world.getTile target
  if attackerPlayer.cannotAttackPlayer then some .youMayNotAttackThisPlayer
  else if world.isProtected attacker attackerPlayer target targetPlayer then
    some .youMayNotAttackThisPlayer
  else if targetTile.noPvpZone then some .actionNotPermittedInANoPvpZone
  else if (world.getTile attacker).noPvpZone &&
      !(targetTile.noPvpZone || targetTile.protectionZone) then
    some .actionNotPermittedInANoPvpZone
  else none

/-- A summon of a player attacks a player. -/
def summonOnPlayer (master : Nat) (masterPlayer : Player) (target : Nat) (targetPlayer : Player) :
    Option ReturnValue :=
  if masterPlayer.cannotAttackPlayer then some .youMayNotAttackThisPlayer
  else if (world.getTile target).noPvpZone then some .actionNotPermittedInANoPvpZone
  else if world.isProtected master masterPlayer target targetPlayer then
    some .youMayNotAttackThisPlayer
  else none

/-- A target that is a monster. -/
def onMonster : Option ReturnValue :=
  match world.getPlayer attacker with
  | some attackerPlayer =>
    if attackerPlayer.cannotAttackMonster then some .youMayNotAttackThisCreature
    else if (world.masterPlayer target).isSome && world.getZone target = .noPvp then
      some .actionNotPermittedInANoPvpZone
    else none
  | none =>
    if world.isMonster attacker && (world.masterPlayer target).isNone &&
        (world.masterPlayer attacker).isNone then some .youMayNotAttackThisCreature
    else none

/-- What is answered for who the two are. -/
def byKind : Option ReturnValue :=
  match (world.creature target).kind with
  | .player targetPlayer =>
    if targetPlayer.cannotBeAttacked then some .youMayNotAttackThisPlayer
    else
      ((world.getPlayer attacker).bind fun attackerPlayer =>
        world.playerOnPlayer attacker attackerPlayer target targetPlayer).or
      ((world.masterPlayer attacker).bind fun (master, masterPlayer) =>
        world.summonOnPlayer master masterPlayer target targetPlayer)
  | .monster => world.onMonster attacker target
  | .npc => none

/-- What is answered for the type of the world. -/
def byWorldType : Option ReturnValue :=
  if world.worldType = .noPvp && world.isPlayerCombat attacker &&
      !world.isInPvpZone attacker target then
    if (world.getPlayer target).isSome then some .youMayNotAttackThisPlayer
    else if (world.masterPlayer target).isSome then some .youMayNotAttackThisCreature
    else none
  else none

/-- `Combat::canDoCombat` of two creatures. -/
def canDoCombat (attacker : Option Nat) (target : Nat) : ReturnValue :=
  match attacker with
  | none => world.onTargetCombat none target
  | some attacker =>
    if (world.creature target).summonCount > 0 || (world.creature target).isMonsterGuardian then
      .youMayNotAttackThisCreature
    else if world.inContract attacker target then .youMayNotAttackThisCreature
    else
      ((world.byKind attacker target).or (world.byWorldType attacker target)).getD
        (world.onTargetCombat (some attacker) target)

/-- `Combat::canDoCombat` of a creature and a tile. -/
def canDoCombatOnTile (caster : Option Nat) (tile : Tile) (aggressive : Bool) : ReturnValue :=
  if tile.blockProjectile || tile.floorChange || tile.teleport then .notEnoughRoom
  else
    let allowed : ReturnValue :=
      if aggressive && tile.protectionZone then .actionNotPermittedInProtectionZone
      else world.onAreaCombat caster tile aggressive
    match caster with
    | some creature =>
      if (world.getTile creature).z < tile.z then .firstGoDownStairs
      else if (world.getTile creature).z > tile.z then .firstGoUpStairs
      else if (world.getPlayer creature).any (·.ignoreProtectionZone) then .noError
      else allowed
    | none => allowed

end World

end Otserv.Combats
