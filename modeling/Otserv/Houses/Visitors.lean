import Otserv.Houses.House

/-!
# Visitors of houses

Players walk, are placed on the map and are teleported, and the tiles of a house let in those who
are invited only. Whoever is not invited any longer when a list is changed, and everybody when the
house changes its owner, is kicked to the entry of the house.

What changes is the houses and where the creatures are; the map, the players and their guilds do
not. A tile is known by a number. What else a tile refuses a creature for, and the tile that a
walk in a direction leads to, come with each operation; scripts and what is sent to clients are
left out. An event at the border of a zone allows every teleport.
-/

namespace Otserv.Houses

open Foundation

inductive AccessHouseLevel where
  | notInvited | guest | subOwner | owner
deriving DecidableEq

namespace AccessHouseLevel

def rank : AccessHouseLevel → Nat
  | .notInvited => 0
  | .guest => 1
  | .subOwner => 2
  | .owner => 3

end AccessHouseLevel

/-- A player. The numbers that the database gives to players and accounts start with one. -/
structure Player where
  guid : Nat
  accountNumber : Nat
  canEditHouses : Bool := false
  guild : Option Nat := none
  guid_pos : 0 < guid
  accountNumber_pos : 0 < accountNumber

def AccessList.isInList (access : AccessList) (player : Player) : Bool :=
  access.allowEveryone || access.playerList.contains player.guid ||
    player.guild.any access.guildRankList.contains

namespace House

/-- `House::getHouseAccessLevel` of a player, or of none. -/
def getHouseAccessLevel (ownedByAccount : Bool) (house : House) :
    Option Player → AccessHouseLevel
  | none => .owner
  | some player =>
    if ownedByAccount && house.ownerAccountId == player.accountNumber then .owner
    else if player.canEditHouses then .owner
    else if player.guid = house.owner then .owner
    else if house.subOwnerList.isInList player then .subOwner
    else if house.guestList.isInList player then .guest
    else .notInvited

def isInvited (ownedByAccount : Bool) (house : House) (player : Player) : Bool :=
  house.getHouseAccessLevel ownedByAccount player != .notInvited

end House

/-- What does not change: the map and the creatures. -/
structure Land where
  /-- `HOUSE_OWNED_BY_ACCOUNT`. -/
  ownedByAccount : Bool := false
  /-- The house of a tile. -/
  house : Nat → Option Nat
  houseTiles : Nat → List Nat
  mem_houseTiles : ∀ {number tile}, tile ∈ houseTiles number ↔ house tile = some number
  /-- The tile at the entry position of a house. -/
  entry : Nat → Option Nat
  /-- Where the teleport on a tile leads to. -/
  teleport : Nat → Option Nat := fun _ => none
  /-- How many teleports may follow one another. -/
  depth : Nat := 0
  /-- Where stairs and holes on a tile lead to. -/
  floorChange : Nat → Option Nat := fun _ => none
  player : Nat → Option Player
  /-- The tile at the temple position of a player. -/
  temple : Nat → Option Nat := fun _ => none
  nullptrTile : Nat
  /-- `Npc::getWasHolder`. -/
  wasHolder : Nat → Bool := fun _ => false

abbrev MAP_MAX_LAYERS : Nat := 16

namespace Land

variable (land : Land)

/-- `Teleport::checkInfinityLoop` of a teleport on a tile. -/
def checkInfinityLoop (tile : Nat) : Nat → Nat → Bool
  | 0, _ => false
  | depth + 1, destTile =>
    match land.teleport destTile with
    | some nextDest => nextDest == tile || checkInfinityLoop tile depth nextDest
    | none => false

/-- The tile a teleport takes a creature to. -/
def teleportDest (tile : Nat) : Option Nat :=
  (land.teleport tile).filter fun destTile => !land.checkInfinityLoop tile land.depth destTile

end Land

inductive ReturnValue where
  | noError | notPossible | playerIsNotInvited | other
deriving DecidableEq

/-- The houses, the creatures on each tile, and the tile of each creature. -/
structure Visits where
  houses : Nat → House
  creatures : Nat → List Nat := fun _ => []
  parent : Nat → Option Nat := fun _ => none

namespace Visits

variable (land : Land) (visits : Visits) (number : Nat)

def isInvited (player : Player) : Bool :=
  (visits.houses number).isInvited land.ownedByAccount player

def setHouse (house : House) : Visits :=
  { visits with houses := Function.update visits.houses number house }

/-! ## Tiles -/

/-- `Tile::addThing` of a creature. -/
def addThing (tile creature : Nat) : Visits :=
  { visits with
    creatures := Function.update visits.creatures tile (creature :: visits.creatures tile)
    parent := Function.update visits.parent creature (some tile) }

/-- `Tile::removeThing` of a creature. -/
def removeThing (tile creature : Nat) : Visits :=
  { visits with
    creatures := Function.update visits.creatures tile ((visits.creatures tile).erase creature)
    parent := Function.update visits.parent creature none }

/-- `queryAdd` of a tile, with `FLAG_NOLIMIT` or not. -/
def queryAdd (tile creature : Nat) (noLimit : Bool) (otherwise : ReturnValue) : ReturnValue :=
  let ofTile := if noLimit then .noError else otherwise
  match land.house tile with
  | some number =>
    match land.player creature with
    | some player => if visits.isInvited land number player then ofTile else .playerIsNotInvited
    | none => if land.wasHolder creature then ofTile else .notPossible
  | none => ofTile

/-- `queryDestination` of a tile. -/
def queryDestination (creature tile : Nat) : Nat :=
  let ofTile := (land.floorChange tile).getD tile
  match land.house tile, land.player creature with
  | some number, some player =>
    if visits.isInvited land number player then ofTile
    else (land.entry number).getD ((land.temple creature).getD land.nullptrTile)
  | _, _ => ofTile

/-- `Map::moveCreature`. A teleport on the new tile moves the creature on. -/
def moveCreatureWithin (creature : Nat) : Nat → Nat → Visits → Visits
  | depth, newTile, visits =>
    match visits.parent creature with
    | none => visits
    | some oldTile =>
      if creature ∉ visits.creatures oldTile then visits
      else
        let visits := (visits.removeThing oldTile creature).addThing newTile creature
        match depth, land.teleportDest newTile with
        | depth + 1, some destTile => moveCreatureWithin creature depth destTile visits
        | _, _ => visits

def moveCreature (creature newTile : Nat) : Visits :=
  moveCreatureWithin land creature land.depth newTile visits

/-- `Tile::postAddNotification` of a creature. -/
def postAddNotification (creature tile : Nat) : Visits :=
  match land.teleportDest tile with
  | some destTile => visits.moveCreature land creature destTile
  | none => visits

/-! ## Movement -/

/-- The loop of `Game::internalMoveCreature` over the destinations. -/
def followDestinations (creature : Nat) : Nat → Nat → Visits → Visits
  | 0, _, visits => visits
  | layers + 1, toCylinder, visits =>
    let subCylinder := visits.queryDestination land creature toCylinder
    if subCylinder = toCylinder then visits
    else
      let visits := visits.moveCreature land creature subCylinder
      if visits.parent creature = some subCylinder then
        followDestinations creature layers subCylinder visits
      else visits

/-- `Game::internalMoveCreature`. -/
def internalMoveCreature (creature toTile : Nat) (otherwise : ReturnValue) : Visits :=
  if visits.queryAdd land toTile creature false otherwise ≠ .noError then visits
  else
    let visits := visits.moveCreature land creature toTile
    if visits.parent creature = some toTile then
      visits.followDestinations land creature MAP_MAX_LAYERS toTile
    else visits

/-- `Game::internalTeleport`, to the tile at a position. -/
def internalTeleport (creature : Nat) (newTile : Option Nat) : Visits :=
  match newTile with
  | none => visits
  | some toTile =>
    if visits.parent creature = some toTile then visits
    else if visits.queryAdd land toTile creature true .noError ≠ .noError then visits
    else visits.moveCreature land creature toTile

/-- The tile that `Map::placeCreature` finds: that in the middle, or one of those around it in
the order they are tried. What they refuse a creature for comes with them. -/
def foundTile (creature : Nat) (centre : Option (Nat × ReturnValue))
    (around : List (Nat × ReturnValue)) (forceLogin : Bool) : Option Nat :=
  let ret (tried : Nat × ReturnValue) := visits.queryAdd land tried.1 creature false tried.2
  let nearby := (around.find? fun tried => ret tried = .noError).map Prod.fst
  match centre with
  | some tried =>
    if forceLogin ∨ ret tried = .noError ∨ ret tried = .playerIsNotInvited then some tried.1
    else nearby
  | none => nearby

/-- `Game::placeCreature`. -/
def placeCreature (creature : Nat) (centre : Option (Nat × ReturnValue))
    (around : List (Nat × ReturnValue)) (forceLogin : Bool) : Visits :=
  if visits.parent creature ≠ none then visits
  else
    match visits.foundTile land creature centre around forceLogin with
    | none => visits
    | some tile =>
      let toCylinder := visits.queryDestination land creature tile
      (visits.addThing toCylinder creature).postAddNotification land creature toCylinder

/-! ## Houses -/

/-- `House::kickPlayer`, of a creature that may be no player. -/
def kickPlayer (number : Nat) (kicker : Option Player) (target : Nat) : Visits :=
  match land.player target with
  | none => visits
  | some player =>
    if (visits.parent target).bind land.house ≠ some number then visits
    else
      let level := (visits.houses number).getHouseAccessLevel land.ownedByAccount
      if (level kicker).rank < (level player).rank ∨ player.canEditHouses then visits
      else visits.internalTeleport land target (land.entry number)

/-- A loop over the creatures of a tile from the last one on. -/
def kickLoop (kick : Visits → Nat → Visits) (tile : Nat) : Nat → Visits → Visits
  | 0, visits => visits
  | index + 1, visits =>
    kickLoop kick tile index
      (match (visits.creatures tile)[index]? with
      | some creature => kick visits creature
      | none => visits)

/-- Such a loop on every tile of a house. -/
def kickTiles (kick : Visits → Nat → Visits) (number : Nat) : Visits :=
  (land.houseTiles number).foldl
    (fun visits tile => visits.kickLoop kick tile (visits.creatures tile).length) visits

/-- A turn of the loop in `House::setAccessList`. -/
def kickUninvited (visits : Visits) (creature : Nat) : Visits :=
  match land.player creature with
  | some player =>
    if visits.isInvited land number player then visits
    else visits.kickPlayer land number none creature
  | none => visits

/-- `House::setAccessList`. -/
def setAccessList (lookup : Lookup) (number listId : Nat) (textlist : Text) : Visits :=
  let changed :=
    visits.setHouse number ((visits.houses number).setAccessList lookup listId textlist)
  if listId = GUEST_LIST ∨ listId = SUBOWNER_LIST then
    changed.kickTiles land (kickUninvited land number) number
  else changed

variable (lookup : Lookup)

/-- The access lists of a house that loses its owner are cleaned. -/
def cleanAccessLists (number : Nat) : Visits :=
  let visits := visits.setHouse number
    { visits.houses number with owner := 0, ownerAccountId := 0 }
  let visits := visits.setAccessList land lookup number SUBOWNER_LIST []
  let visits := visits.setAccessList land lookup number GUEST_LIST []
  visits.setHouse number
    { visits.houses number with
      doorSet := (visits.houses number).doorSet.map (Door.setAccessList lookup []) }

/-- The house loses the owner it had, if there was one. -/
def dropOwner (number : Nat) : Visits :=
  let visits := visits.setHouse number { visits.houses number with isLoaded := true }
  if (visits.houses number).owner ≠ 0 then
    let visits := visits.kickTiles land (fun visits => visits.kickPlayer land number none) number
    visits.cleanAccessLists land lookup number
  else
    visits.setHouse number
      { visits.houses number with paidUntil := House.paidUntilFrom lookup }

/-- The house gets the owner of a number, if there is one. -/
def giveOwner (number guid : Nat) : Visits :=
  let house := { visits.houses number with rentWarnings := 0 }
  let name := lookup.getNameByGuid guid
  visits.setHouse number
    (if guid ≠ 0 ∧ name ≠ [] then
      { house with
        owner := guid
        ownerName := name
        ownerAccountId := lookup.getAccountIdByPlayerName name }
    else house)

/-- `House::setOwner`. -/
def setOwner (lookup : Lookup) (number guid : Nat) : Visits :=
  let house := visits.houses number
  if house.isLoaded ∧ house.owner = guid then visits
  else (visits.dropOwner land lookup number).giveOwner lookup number guid

end Visits

/-! ## Runs -/

inductive VisitOp where
  | internalMoveCreature (creature toTile : Nat) (otherwise : ReturnValue)
  | placeCreature (creature : Nat) (centre : Option (Nat × ReturnValue))
      (around : List (Nat × ReturnValue)) (forceLogin : Bool)
  | internalTeleport (creature : Nat) (newTile : Option Nat)
  | setAccessList (lookup : Lookup) (number listId : Nat) (textlist : Text)
  | setOwner (lookup : Lookup) (number guid : Nat)
  | kickPlayer (number : Nat) (kicker : Option Player) (target : Nat)

def visiting (land : Land) : System Visits VisitOp where
  legal _ _ := True
  step visits
    | .internalMoveCreature creature toTile otherwise =>
      visits.internalMoveCreature land creature toTile otherwise
    | .placeCreature creature centre around forceLogin =>
      visits.placeCreature land creature centre around forceLogin
    | .internalTeleport creature newTile => visits.internalTeleport land creature newTile
    | .setAccessList lookup number listId textlist =>
      visits.setAccessList land lookup number listId textlist
    | .setOwner lookup number guid => visits.setOwner land lookup number guid
    | .kickPlayer number kicker target => visits.kickPlayer land number kicker target

end Otserv.Houses
