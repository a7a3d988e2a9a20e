import Otserv.Foundation.Runs
import Otserv.Foundation.SwapRemove
import Otserv.World.Spectators

/-!
# The spectator caches

`getSpectators` keeps the answers to its default calls: those on several floors
with the default ranges. One cache is for all creatures, one for players only,
and the cache of all creatures also answers for players. Both are cleared when a
player enters or leaves a tile, only the first when another creature does.

What a call stores is the vector it hands back, and that holds what the caller
had in it before. Nothing foreign is stored when those are creatures that the
scan selects (`Otserv.World.getSpectators_answers_of_own_scan`).
-/

namespace Otserv.World

open Otserv.Foundation

/-- The map with its creatures. Tiles are told apart by their positions, and the
creatures of each are kept by position. -/
structure LiveMap where
  map : Map Unit := {}
  position : Creature → Position := fun _ => ⟨0, 0, 0⟩
  creatures : Position → List Creature := fun _ => []
  spectatorCache : Position → Option (List Creature) := fun _ => none
  playersSpectatorCache : Position → Option (List Creature) := fun _ => none

/-- The arguments of `Map::getSpectators` besides the vector. -/
structure SpectatorsCall where
  centerPos : Position
  multifloor : Bool := false
  onlyPlayers : Bool := false
  minRangeX : Int := 0
  maxRangeX : Int := 0
  minRangeY : Int := 0
  maxRangeY : Int := 0
deriving DecidableEq

/-- `MAP_MAX_LAYERS`. -/
def mapMaxLayers : Nat := 16

/-- The floors a call looks at. -/
def floorRange (centerPos : Position) (multifloor : Bool) : Int × Int :=
  if multifloor then
    if centerPos.z > 7 then
      (max (centerPos.getZ - 2) 0, min (centerPos.getZ + 2) (mapMaxLayers - 1))
    else if centerPos.z = 6 then (0, 8)
    else if centerPos.z = 7 then (0, 9)
    else (0, 7)
  else (centerPos.getZ, centerPos.getZ)

/-- The ranges of a call, with the viewport in place of zeros. -/
def SpectatorsCall.range (call : SpectatorsCall) : Range where
  minRangeX := if call.minRangeX = 0 then -maxViewportX else -call.minRangeX
  maxRangeX := if call.maxRangeX = 0 then maxViewportX else call.maxRangeX
  minRangeY := if call.minRangeY = 0 then -maxViewportY else -call.minRangeY
  maxRangeY := if call.maxRangeY = 0 then maxViewportY else call.maxRangeY
  minRangeZ := (floorRange call.centerPos call.multifloor).1
  maxRangeZ := (floorRange call.centerPos call.multifloor).2

/-- The calls the caches serve. -/
def SpectatorsCall.cacheable (call : SpectatorsCall) : Bool :=
  call.range.minRangeX = -maxViewportX ∧ call.range.maxRangeX = maxViewportX ∧
    call.range.minRangeY = -maxViewportY ∧ call.range.maxRangeY = maxViewportY ∧ call.multifloor

/-- `SpectatorVec::addSpectators`. -/
def addSpectators (spectators added : List Creature) : List Creature :=
  added.foldl (fun vec spectator => if spectator ∈ vec then vec else vec ++ [spectator]) spectators

/-- An answer from a cache: the vector, with what is cached. -/
def addCached (spectators cached : List Creature) : List Creature :=
  if spectators.isEmpty then cached else addSpectators spectators cached

/-- `Map::getSpectators`: the world and the vector after the call. -/
def getSpectators (world : LiveMap) (spectators : List Creature) (call : SpectatorsCall) :
    LiveMap × List Creature :=
  if mapMaxLayers ≤ call.centerPos.z.toNat then (world, spectators)
  else
    let scanned := getSpectatorsInternal world.map world.position spectators call.centerPos
      call.range call.onlyPlayers
    if call.cacheable then
      let players := if call.onlyPlayers then world.playersSpectatorCache call.centerPos else none
      match players, world.spectatorCache call.centerPos with
      | some cached, _ => (world, addCached spectators cached)
      | none, some cached =>
        if call.onlyPlayers then (world, spectators ++ cached.filter Creature.isPlayer)
        else (world, addCached spectators cached)
      | none, none =>
        if call.onlyPlayers then
          ({ world with playersSpectatorCache :=
               Function.update world.playersSpectatorCache call.centerPos (some scanned) },
            scanned)
        else
          ({ world with spectatorCache :=
               Function.update world.spectatorCache call.centerPos (some scanned) },
            scanned)
    else (world, scanned)

/-- `clearSpectatorCache`, and `clearPlayersSpectatorCache` for a player. -/
def clearCaches (creature : Creature) (world : LiveMap) : LiveMap :=
  { world with
    spectatorCache := fun _ => none
    playersSpectatorCache :=
      if creature.isPlayer then fun _ => none else world.playersSpectatorCache }

/-- `Tile::addThing` and `Tile::internalAddThing` of a creature. -/
def addThing (pos : Position) (creature : Creature) (world : LiveMap) : LiveMap :=
  let world := clearCaches creature world
  { world with
    position := Function.update world.position creature pos
    creatures := Function.update world.creatures pos (creature :: world.creatures pos) }

/-- `Tile::removeThing` of a creature. -/
def removeThing (pos : Position) (creature : Creature) (world : LiveMap) : LiveMap :=
  if creature ∈ world.creatures pos then
    let world := clearCaches creature world
    { world with
      creatures :=
        Function.update world.creatures pos ((world.creatures pos).erase creature) }
  else world

/-- `QTreeLeafNode::addCreature`. -/
def addCreature (creature : Creature) (node : QTreeLeafNode Unit) : QTreeLeafNode Unit :=
  { node with
    creatureList := node.creatureList ++ [creature]
    playerList := if creature.isPlayer then node.playerList ++ [creature] else node.playerList }

/-- `QTreeLeafNode::removeCreature`. -/
def removeCreature (creature : Creature) (node : QTreeLeafNode Unit) : QTreeLeafNode Unit :=
  { node with
    creatureList := swapRemove creature node.creatureList
    playerList :=
      if creature.isPlayer then swapRemove creature node.playerList else node.playerList }

/-- A change of the leaf of a position, as by `getQTNode(pos.x, pos.y)->`. -/
def changeLeaf (pos : Position) (change : QTreeLeafNode Unit → QTreeLeafNode Unit)
    (world : LiveMap) : LiveMap :=
  match world.map.leafOf pos with
  | some leaf => { world with map := world.map.modifyLeaf leaf change }
  | none => world

/-- What `placeCreature` asks of tiles, creatures and chance. -/
structure PlaceSearch where
  /-- the tile at the centre takes the creature, or the login is forced -/
  centerAccepts : Bool := true
  /-- a flying player logs in -/
  flyingLogin : Bool := false
  /-- the shuffled neighbours -/
  relList : List (Int × Int) := []
  /-- a neighbouring tile takes the creature, by protection zone, `queryAdd` and sight -/
  accepts : Position → Bool := fun _ => true
  /-- the tile that `queryDestination` leads to, when it is another one -/
  destination : Position → Option Position := fun _ => none

/-- The neighbour at an offset, in the sixteen bits of a coordinate. -/
def neighbour (centerPos : Position) (offset : Int × Int) : Position where
  x := UInt16.ofInt (centerPos.getX + offset.1)
  y := UInt16.ofInt (centerPos.getY + offset.2)
  z := centerPos.z

/-- The tile `placeCreature` finds, and the map with the tile a flying login makes. -/
def findTile (search : PlaceSearch) (centerPos : Position) (map : Map Unit) :
    Map Unit × Option Position :=
  let tile := map.getTile centerPos
  if tile.isSome ∧ search.centerAccepts then (map, some centerPos)
  else if search.flyingLogin then
    if tile.isSome then (map, some centerPos)
    else (map.setTile (fun old _ => old) centerPos (), some centerPos)
  else
    (map, (search.relList.map (neighbour centerPos)).find? fun tryPos =>
      (map.getTile tryPos).isSome && search.accepts tryPos)

/-- The position of the tile a creature ends on: `queryDestination` stays on the
tile when it leads to no tile. -/
def queryDestination (search : PlaceSearch) (map : Map Unit) (pos : Position) : Position :=
  match search.destination pos with
  | some dest => if (map.getTile dest).isSome then dest else pos
  | none => pos

/-- `Map::placeCreature`. -/
def placeCreature (search : PlaceSearch) (centerPos : Position) (creature : Creature)
    (world : LiveMap) : LiveMap × Bool :=
  match findTile search centerPos world.map with
  | (map, none) => ({ world with map := map }, false)
  | (map, some pos) =>
    let dest := queryDestination search map pos
    let world := addThing dest creature { world with map := map }
    (changeLeaf dest (addCreature creature) world, true)

/-- The part of `moveCreature` that takes the creature from one tile and leaf to
the other. -/
def switchTile (oldPos newPos : Position) (creature : Creature) (world : LiveMap) : LiveMap :=
  let world := removeThing oldPos creature world
  let world :=
    if world.map.leafOf oldPos = world.map.leafOf newPos then world
    else changeLeaf newPos (addCreature creature)
      (changeLeaf oldPos (removeCreature creature) world)
  addThing newPos creature world

/-- `Map::moveCreature` to a tile of the map. -/
def moveCreature (creature : Creature) (newPos : Position) (world : LiveMap) : LiveMap :=
  let oldPos := world.position creature
  if creature ∈ world.creatures oldPos then
    let world := (getSpectators world [] { centerPos := oldPos, multifloor := true }).1
    let world := (getSpectators world [] { centerPos := newPos, multifloor := true }).1
    switchTile oldPos newPos creature world
  else world

/-- `Tile::removeCreature` of the tile at the position. -/
def removeFromTile (pos : Position) (creature : Creature) (world : LiveMap) : LiveMap :=
  removeThing pos creature (changeLeaf pos (removeCreature creature) world)

end Otserv.World
