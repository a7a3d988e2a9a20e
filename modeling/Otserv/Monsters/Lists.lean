import Otserv.Foundation.Runs
import Otserv.World.WalkCache

/-!
# The lists of a monster

A monster keeps the creatures it sees in two lists, friends and targets, with a reference to
each. A creature enters a list by its relation to the monster (`isFriend`, `isOpponent`) when
it appears or comes into sight, and is looked for in a list by the same relation when it
leaves. The monster looks at all creatures around when it has moved itself, and forgets
everything when it goes idle.

The creatures that `Map::getSpectators` finds and what the scripts answer are arguments; a
move that a handler makes while it runs is a step of its own, but for the guardian's. What the
monster attacks or follows is left out.
-/

namespace Otserv.Monsters

open Foundation
open World (Position maxViewportX maxViewportY)
open Function (update)

structure Player where
  guid : UInt32
  /-- `PlayerFlag_IgnoredByMonsters`. -/
  ignoredByMonsters : Bool := false
  party : Option Nat := none
deriving DecidableEq

inductive Kind where
  | player (player : Player)
  | monster
  | duelist (contractPlayer : UInt32)
  | npc
deriving DecidableEq

/-- What a creature is to others, beside its place. -/
structure Traits where
  kind : Kind
  master : Option Nat := none
  summonCount : Nat := 0
  isMonsterGuardian : Bool := false
  health : Int := 100
  /-- Some condition of the creature is aggressive. -/
  hasAggressiveCondition : Bool := false
deriving DecidableEq

inductive Presence where
  | unplaced
  | onMap
  | removed
deriving DecidableEq

/-- The creatures, one of them the monster itself. -/
structure Surroundings where
  self : Nat
  traits : Nat → Traits
  position : Nat → Position
  presence : Nat → Presence

structure Lists where
  targetList : List Nat := []
  friendList : List Nat := []
  /-- The references to a creature that the monster holds. -/
  references : Nat → Nat := fun _ => 0

/-! ## Relations -/

/-- `Creature::canSee`. -/
def canSee (myPos pos : Position) : Bool :=
  let offsetz := myPos.getZ - pos.getZ
  (if myPos.z ≤ 7 then pos.z ≤ 7
    else if pos.z < 8 then false
    else |offsetz| ≤ 2) ∧
    pos.getX ≥ myPos.getX - (maxViewportX - 2) + offsetz ∧
    pos.getX ≤ myPos.getX + (maxViewportX - 2) + offsetz ∧
    pos.getY ≥ myPos.getY - (maxViewportY - 1) + offsetz ∧
    pos.getY ≤ myPos.getY + (maxViewportY - 1) + offsetz

namespace Surroundings

variable (around : Surroundings)

/-- `Monster::canSee`. -/
def sees (pos : Position) : Bool := canSee (around.position around.self) pos

/-- `Creature::getPlayer`. -/
def getPlayer (creature : Nat) : Option Player :=
  match (around.traits creature).kind with
  | .player player => some player
  | _ => none

/-- `Creature::getMaster`. -/
def getMaster (creature : Nat) : Option Nat := (around.traits creature).master

variable (creature : Nat)

/-- `getMaster()->getPlayer()`, where there is a master. -/
def getMasterPlayer : Option Player :=
  (around.getMaster creature).bind around.getPlayer

/-- `Player::isPartner`. -/
def isPartner (masterPlayer player : Nat) : Bool :=
  match around.getPlayer masterPlayer, around.getPlayer player with
  | some one, some other =>
    one.party.isSome ∧ player ≠ masterPlayer ∧ one.party = other.party
  | _, _ => false

/-- `Monster::isFriend`. -/
def isFriend (creature : Nat) : Bool :=
  if (around.traits creature).isMonsterGuardian then true
  else
    match around.getMaster around.self, around.getMasterPlayer around.self with
    | some masterPlayer, some _ =>
      let tmpPlayer :=
        if (around.getPlayer creature).isSome then some creature
        else if (around.getMasterPlayer creature).isSome then around.getMaster creature
        else none
      tmpPlayer.any fun tmpPlayer =>
        tmpPlayer = masterPlayer ∨ around.isPartner masterPlayer tmpPlayer
    | _, _ =>
      (around.traits creature).kind = .monster ∧ around.getMaster creature = none

/-- What a master that is a duelist makes an opponent. -/
def isDuelOpponent (contractPlayer : UInt32) (creature : Nat) : Bool :=
  if contractPlayer = 0 then true
  else
    match (around.getPlayer creature).or (around.getMasterPlayer creature) with
    | some player => player.guid = contractPlayer
    | none => false

/-- `Monster::isOpponent`. -/
def isOpponent (creature : Nat) : Bool :=
  if (around.traits creature).summonCount > 0 ∨ (around.traits creature).isMonsterGuardian then
    false
  else if ((around.getMaster around.self).any fun master =>
      match (around.traits master).kind with
      | .duelist contractPlayer => around.isDuelOpponent contractPlayer creature
      | _ => false) then
    true
  else if (around.getMasterPlayer around.self).isSome then
    if around.getMaster creature = around.getMaster around.self then false
    else some creature ≠ around.getMaster around.self
  else
    ((around.getPlayer creature).any fun player => !player.ignoredByMonsters) ∨
      (around.getMasterPlayer creature).isSome

/-! ## The lists -/

variable (lists : Lists)

/-- `Monster::addFriend`. -/
def addFriend (creature : Nat) : Lists :=
  if creature ∈ lists.friendList then lists
  else
    { lists with
      friendList := creature :: lists.friendList
      references := update lists.references creature (lists.references creature + 1) }

/-- `Monster::removeFriend`. -/
def removeFriend (creature : Nat) : Lists :=
  if creature ∈ lists.friendList then
    { lists with
      friendList := lists.friendList.erase creature
      references := update lists.references creature (lists.references creature - 1) }
  else lists

/-- `Monster::addTarget`. -/
def addTarget (creature : Nat) (pushFront : Bool) : Lists :=
  if creature ∈ lists.targetList then lists
  else
    { lists with
      targetList := if pushFront then creature :: lists.targetList
        else lists.targetList ++ [creature]
      references := update lists.references creature (lists.references creature + 1) }

/-- `Monster::removeTarget`. -/
def removeTarget (creature : Nat) : Lists :=
  if creature ∈ lists.targetList then
    { lists with
      targetList := lists.targetList.erase creature
      references := update lists.references creature (lists.references creature - 1) }
  else lists

/-- The entries of both lists that are dropped, with their references. -/
def drop (gone : Nat → Bool) : Lists where
  targetList := lists.targetList.filter fun creature => !gone creature
  friendList := lists.friendList.filter fun creature => !gone creature
  references := fun creature =>
    if gone creature then
      lists.references creature -
        (lists.targetList.count creature + lists.friendList.count creature)
    else lists.references creature

/-- `Monster::setIdle`, with `clearTargetList` and `clearFriendList`. -/
def setIdle (idle : Bool) : Lists :=
  if around.presence around.self = .removed ∨ (around.traits around.self).health ≤ 0 then lists
  else if idle then drop lists fun _ => true
  else lists

/-- `Monster::updateIdleStatus`. -/
def updateIdleStatus : Lists :=
  let idle : Bool :=
    if around.getMaster around.self = none ∧ lists.targetList = [] then
      !(around.traits around.self).hasAggressiveCondition
    else false
  around.setIdle lists idle

/-- `Monster::onCreatureFound`. -/
def onCreatureFound (creature : Nat) (pushFront : Bool) : Lists :=
  if creature = around.self then lists
  else if !around.sees (around.position creature) then lists
  else
    let lists := if around.isFriend creature then addFriend lists creature else lists
    let lists := if around.isOpponent creature then addTarget lists creature pushFront else lists
    around.updateIdleStatus lists

/-- `Monster::updateTargetList`. -/
def updateTargetList (spectators : List Nat) : Lists :=
  let lists := drop lists fun creature =>
    (around.traits creature).health ≤ 0 ∨ !around.sees (around.position creature)
  (spectators.erase around.self).foldl
    (fun lists spectator => around.onCreatureFound lists spectator false) lists

/-- `Monster::onCreatureEnter`. -/
def onCreatureEnter (creature : Nat) : Lists := around.onCreatureFound lists creature true

/-- `Monster::onCreatureLeave`. -/
def onCreatureLeave (creature : Nat) : Lists :=
  let lists := if around.isFriend creature then removeFriend lists creature else lists
  if around.isOpponent creature then
    let lists := removeTarget lists creature
    if lists.targetList = [] then around.updateIdleStatus lists else lists
  else lists

/-- `Monster::onFollowCreatureComplete`. -/
def onFollowCreatureComplete (creature : Nat) (hasFollowPath : Bool) : Lists :=
  if creature ∈ lists.targetList then
    let targetList := lists.targetList.erase creature
    if hasFollowPath then { lists with targetList := creature :: targetList }
    else if around.getMaster around.self = none then
      { lists with targetList := targetList ++ [creature] }
    else
      { lists with
        targetList := targetList
        references :=
          update lists.references creature (lists.references creature - 1) }
  else lists

/-! ## Events -/

/-- A creature is at a position. -/
def setPosition (pos : Position) : Surroundings :=
  { around with position := update around.position creature pos }

def setPresence (presence : Presence) : Surroundings :=
  { around with presence := update around.presence creature presence }

end Surroundings

structure World extends Surroundings, Lists

namespace World

variable (world : World)

/-- `Monster::onCreatureAppear`, when the creature is placed. -/
def onCreatureAppear (creature : Nat) (pos : Position) (spectators : List Nat)
    (handled : Bool) : World :=
  let around := (world.setPosition creature pos).setPresence creature .onMap
  if handled then ⟨around, world.toLists⟩
  else if creature = world.self then
    ⟨around, around.updateIdleStatus (around.updateTargetList world.toLists spectators)⟩
  else ⟨around, around.onCreatureEnter world.toLists creature⟩

/-- `Monster::onRemoveCreature`, when the creature is removed. -/
def onRemoveCreature (creature : Nat) (handled : Bool) : World :=
  let lists :=
    if handled then world.toLists
    else if creature = world.self then world.setIdle world.toLists true
    else world.onCreatureLeave world.toLists creature
  ⟨world.setPresence creature .removed, lists⟩

/-- The position of the master that a guardian is moved to when it is too far. -/
def guardianTo (around : Surroundings) (newPos : Position) : Option Position :=
  if (around.traits around.self).isMonsterGuardian then
    ((around.getMaster around.self).map around.position).filter fun pos =>
      newPos.z ≠ pos.z ∨ newPos.getDistanceX pos > 11 ∨ newPos.getDistanceY pos > 7
  else none

/-- `Monster::onCreatureMove` when the monster itself moves. The guardian's move to its master
is an event of its own, that a script may handle too. -/
def onOwnMove (newPos : Position) (spectators : Position → List Nat)
    (handled handledAgain : Bool) : World :=
  let around := world.setPosition world.self newPos
  if handled then ⟨around, world.toLists⟩
  else
    match guardianTo around newPos with
    | none =>
      ⟨around,
        around.updateIdleStatus (around.updateTargetList world.toLists (spectators newPos))⟩
    | some pos =>
      let around := around.setPosition world.self pos
      let lists :=
        if handledAgain then world.toLists
        else
          around.updateIdleStatus (around.updateTargetList world.toLists (spectators pos))
      ⟨around, around.updateIdleStatus (around.updateTargetList lists (spectators pos))⟩

/-- `Monster::onCreatureMove` when another creature moves. -/
def onCreatureMove (creature : Nat) (newPos : Position) (handled : Bool) : World :=
  let oldPos := world.position creature
  let around := world.setPosition creature newPos
  if handled then ⟨around, world.toLists⟩
  else
    let canSeeNewPos := around.sees newPos
    let canSeeOldPos := around.sees oldPos
    let lists :=
      if canSeeNewPos ∧ !canSeeOldPos then around.onCreatureEnter world.toLists creature
      else if !canSeeNewPos ∧ canSeeOldPos then around.onCreatureLeave world.toLists creature
      else world.toLists
    ⟨around, around.updateIdleStatus lists⟩

end World

inductive Op where
  | appear (creature : Nat) (pos : Position) (spectators : List Nat) (handled : Bool)
  | move (creature : Nat) (newPos : Position) (handled : Bool)
  | ownMove (newPos : Position) (spectators : Position → List Nat) (handled handledAgain : Bool)
  | remove (creature : Nat) (handled : Bool)
  | change (creature : Nat) (traits : Traits)
  | follow (creature : Nat) (hasFollowPath : Bool)

/-- Events are delivered while the monster is on the map, and to it when it is placed; a
creature is placed once. Anything about a creature but its place may change. -/
def system : System World Op where
  legal world
    | .appear creature _ spectators _ =>
      world.presence creature = .unplaced ∧
        (creature = world.self ∨ world.presence world.self = .onMap) ∧
        ∀ spectator ∈ spectators, spectator = creature ∨ world.presence spectator = .onMap
    | .move creature _ _ =>
      creature ≠ world.self ∧ world.presence creature = .onMap ∧
        world.presence world.self = .onMap
    | .ownMove _ spectators _ _ =>
      world.presence world.self = .onMap ∧
        ∀ pos, ∀ spectator ∈ spectators pos, world.presence spectator = .onMap
    | .remove creature _ =>
      world.presence creature = .onMap ∧ world.presence world.self = .onMap
    | .change _ _ => True
    | .follow _ _ => world.presence world.self = .onMap
  step world
    | .appear creature pos spectators handled =>
      world.onCreatureAppear creature pos spectators handled
    | .move creature newPos handled => world.onCreatureMove creature newPos handled
    | .ownMove newPos spectators handled handledAgain =>
      world.onOwnMove newPos spectators handled handledAgain
    | .remove creature handled => world.onRemoveCreature creature handled
    | .change creature traits =>
      { world with traits := update world.traits creature traits }
    | .follow creature hasFollowPath =>
      { world with toLists := world.onFollowCreatureComplete world.toLists creature hasFollowPath }

end Otserv.Monsters
