import Otserv.Foundation.SlidingWindow
import Otserv.World.Tiles

/-!
# The walk cache of a creature

A creature that uses the map cache keeps, for a window of 31 by 19 tiles around
it, whether it may walk on each. When it makes a step the table is shifted, row
by row and then column by column, and what came into view is asked from the map;
a teleport or a change of floor asks everything anew.

Whether a tile is there and lets the creature in is a function of the position.
The time and cost of the step, the summons, the guardians and the followed
creature are left out.
-/

namespace Otserv.World

open Otserv.Foundation

def mapWalkWidth : Nat := (maxViewportX * 2 + 1).toNat

def mapWalkHeight : Nat := (maxViewportY * 2 + 1).toNat

def maxWalkCacheWidth : Nat := (mapWalkWidth - 1) / 2

def maxWalkCacheHeight : Nat := (mapWalkHeight - 1) / 2

namespace Position

variable (p1 p2 : Position)

def getOffsetX : Int := p1.getX - p2.getX

def getOffsetY : Int := p1.getY - p2.getY

def getDistanceX : Int := |getOffsetX p1 p2|

def getDistanceY : Int := |getOffsetY p1 p2|

end Position

/-- The values of a loop from `-bound` to `bound`. -/
def offsets (bound : Nat) : List Int :=
  (List.range (2 * bound + 1)).map fun (place : Nat) => (place : Int) - bound

/-- A creature with its position and its cache. -/
structure Walker where
  position : Position
  localMapCache : Table Bool := fun _ _ => false
  isMapLoaded : Bool := false
  useCacheMap : Bool := true

/-- The tiles the creature may walk on: there, and `queryAdd` lets it in. -/
abbrev Walkable := Position → Bool

/-- A coordinate as the map takes it. -/
def coordinate (value : Int) : UInt16 := UInt16.ofNat (value % 2 ^ 16).toNat

/-- Whether the tile at the coordinates is walkable, as `getTile` takes them. -/
def Walkable.at (walkable : Walkable) (x y : Int) (z : UInt8) : Bool :=
  walkable ⟨coordinate x, coordinate y, z⟩

namespace Walker

/-- `updateTileCache(tile, dx, dy)`. -/
def updateTileCache (tile : Bool) (dx dy : Int) (cache : Table Bool) : Table Bool :=
  if |dx| ≤ maxWalkCacheWidth ∧ |dy| ≤ maxWalkCacheHeight then
    cache.put (maxWalkCacheHeight + dy).toNat (maxWalkCacheWidth + dx).toNat tile
  else cache

/-- `updateTileCache(tile, pos)` of a creature at a position. -/
def updateTileCacheAt (myPos : Position) (tile : Bool) (pos : Position) (cache : Table Bool) :
    Table Bool :=
  if pos.z = myPos.z then
    updateTileCache tile (Position.getOffsetX pos myPos) (Position.getOffsetY pos myPos) cache
  else cache

variable (walkable : Walkable)

/-- The turn of the loops of `updateMapCache`. -/
def updateMapCacheAt (myPos : Position) (y x : Int) (cache : Table Bool) : Table Bool :=
  let pos : Position := ⟨coordinate (myPos.getX + x), coordinate (myPos.getY + y), myPos.z⟩
  updateTileCacheAt myPos (walkable pos) pos cache

/-- `Creature::updateMapCache`. -/
def updateMapCache (walkable : Walkable) (myPos : Position) (cache : Table Bool) : Table Bool :=
  (offsets maxWalkCacheHeight).foldl (fun cache y =>
    (offsets maxWalkCacheWidth).foldl (fun cache x => updateMapCacheAt walkable myPos y x cache)
      cache) cache

/-- The part of `onCreatureAppear` for the creature itself. -/
def onAppear (walker : Walker) : Walker :=
  if walker.useCacheMap then
    { walker with
      isMapLoaded := true
      localMapCache := updateMapCache walkable walker.position walker.localMapCache }
  else walker

/-- The loop that refreshes the row at `dy`. -/
def updateRow (myPos : Position) (dy : Int) (cache : Table Bool) : Table Bool :=
  (offsets maxWalkCacheWidth).foldl (fun cache x =>
    updateTileCache (walkable.at (myPos.getX + x) (myPos.getY + dy) myPos.z) x dy cache) cache

/-- The loop that refreshes the column at `dx`. -/
def updateColumn (myPos : Position) (dx : Int) (cache : Table Bool) : Table Bool :=
  (offsets maxWalkCacheHeight).foldl (fun cache y =>
    updateTileCache (walkable.at (myPos.getX + dx) (myPos.getY + y) myPos.z) dx y cache) cache

/-- The rows the columns of which are shifted, from the distance `dy` of the step. -/
def shiftedRows (dy : Int) : Int × Int :=
  let starty := 0
  let endy := (mapWalkHeight : Int) - 1
  if dy < 0 then (starty, endy + dy)
  else if dy > 0 then (dy, endy)
  else (starty, endy)

/-- The loop over the rows that shifts the columns. -/
def shiftColumns (dy : Int) (shift : (Nat → Bool) → Nat → Bool) (cache : Table Bool) : Table Bool :=
  let (starty, endy) := shiftedRows dy
  (List.range' starty.toNat (endy - starty + 1).toNat).foldl
    (fun cache y => Function.update cache y (shift (cache y))) cache

/-- The part of `onCreatureMove` for north and south. -/
def shiftY (oldPos newPos : Position) (cache : Table Bool) : Table Bool :=
  if oldPos.getY > newPos.getY then
    updateRow walkable newPos (-maxWalkCacheHeight) (copyForth (mapWalkHeight - 1) cache)
  else if oldPos.getY < newPos.getY then
    updateRow walkable newPos maxWalkCacheHeight (copyBack (mapWalkHeight - 1) cache)
  else cache

/-- The part of `onCreatureMove` for east and west. -/
def shiftX (oldPos newPos : Position) (cache : Table Bool) : Table Bool :=
  let dy := Position.getDistanceY oldPos newPos
  if oldPos.getX < newPos.getX then
    updateColumn walkable newPos maxWalkCacheWidth
      (shiftColumns dy (copyBack (mapWalkWidth - 1)) cache)
  else if oldPos.getX > newPos.getX then
    updateColumn walkable newPos (-maxWalkCacheWidth)
      (shiftColumns dy (copyForth (mapWalkWidth - 1)) cache)
  else cache

/-- `onCreatureMove` of the creature itself, which is at the new position by then. -/
def onMove (newPos : Position) (teleport : Bool) (walker : Walker) : Walker :=
  let oldPos := walker.position
  let walker := { walker with position := newPos }
  if !walker.isMapLoaded then walker
  else if teleport ∨ oldPos.z ≠ newPos.z then
    { walker with localMapCache := updateMapCache walkable newPos walker.localMapCache }
  else
    { walker with
      localMapCache := updateTileCacheAt newPos (walkable oldPos) oldPos
        (shiftX walkable oldPos newPos (shiftY walkable oldPos newPos walker.localMapCache)) }

/-- `onCreatureMove` of another creature. -/
def onOtherMove (oldPos newPos : Position) (walker : Walker) : Walker :=
  if !walker.isMapLoaded then walker
  else
    let myPos := walker.position
    let cache := if newPos.z = myPos.z then
        updateTileCacheAt myPos (walkable newPos) newPos walker.localMapCache
      else walker.localMapCache
    let cache := if oldPos.z = myPos.z then
        updateTileCacheAt myPos (walkable oldPos) oldPos cache
      else cache
    { walker with localMapCache := cache }

/-- `Creature::getWalkCache`: 0 for blocked, 1 for walkable, 2 for unknown. -/
def getWalkCache (pos : Position) (walker : Walker) : Int :=
  if !walker.useCacheMap then 2
  else
    let myPos := walker.position
    if myPos.z ≠ pos.z then 0
    else if pos = myPos then 1
    else
      let dx := Position.getOffsetX pos myPos
      if |dx| ≤ maxWalkCacheWidth then
        let dy := Position.getOffsetY pos myPos
        if |dy| ≤ maxWalkCacheHeight then
          if walker.localMapCache (maxWalkCacheHeight + dy).toNat (maxWalkCacheWidth + dx).toNat
          then 1 else 0
        else 2
      else 2

end Walker

end Otserv.World
