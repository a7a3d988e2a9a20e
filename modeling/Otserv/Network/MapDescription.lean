import Otserv.Network.Frames
import Otserv.Foundation.SkipRuns

/-!
# Map descriptions

The part of the map that a client sees is written to a message cell by cell: the tiles that
are there are described, and the cells between them are counted. The bytes that are written
for an item or a creature are arguments, one list for each call that adds to the message, and
so is the map.
-/

namespace Otserv.Network

variable (msg : NetworkMessage)

/-- `addByte`. -/
def NetworkMessage.addByte (value : UInt8) : NetworkMessage :=
  msg.addBytes [value]

/-- `add<uint16_t>`. -/
def NetworkMessage.add16 (value : UInt16) : NetworkMessage :=
  msg.addBytes (bytes16 value)

namespace ProtocolGame

def MAP_MAX_LAYERS : Int := 16

/-- The bytes that `addItem` or `AddCreature` writes, call by call. -/
abbrev Thing := List (List UInt8)

/-- A tile as it is described: a creature stands with whether the player can see it, and what
is written of it. -/
structure Tile where
  ground : Option Thing
  topItems : List Thing
  creatures : List (Bool × Thing)
  downItems : List Thing

def addThing (msg : NetworkMessage) (thing : Thing) : NetworkMessage :=
  thing.foldl NetworkMessage.addBytes msg

/-- The loops over the items of a tile, up to the tenth thing. -/
def addItems : List Thing → NetworkMessage → Nat → NetworkMessage × Nat
  | [], msg, count => (msg, count)
  | item :: items, msg, count =>
    if count + 1 = 10 then (addThing msg item, count + 1)
    else addItems items (addThing msg item) (count + 1)

/-- The loop over the creatures of a tile. -/
def addCreatures : List (Bool × Thing) → NetworkMessage → Nat → NetworkMessage × Nat
  | [], msg, count => (msg, count)
  | (canSee, creature) :: creatures, msg, count =>
    if !canSee then addCreatures creatures msg count
    else addCreatures creatures (addThing msg creature) (count + 1)

variable (tile : Tile)

def GetTileDescription (msg : NetworkMessage) : NetworkMessage :=
  let msg := msg.add16 0
  let (msg, count) :=
    match tile.ground with
    | some ground => (addThing msg ground, 1)
    | none => (msg, 0)
  let (msg, count) := addItems tile.topItems msg count
  let (msg, count) := addCreatures tile.creatures.reverse msg count
  if count < 10 then (addItems tile.downItems msg count).1 else msg

/-- The run of empty cells is written that ends here. -/
def addSkip (skip : Int) (msg : NetworkMessage) : NetworkMessage :=
  if 0 ≤ skip then (msg.addByte (UInt8.ofInt skip)).addByte 0xFF else msg

section

variable (getTile : UInt16 → UInt16 → UInt8 → Option Tile)

/-- The body of the loops of `GetFloorDescription`, with `skip`. -/
def describeCell (tile : Option Tile) (state : NetworkMessage × Int) : NetworkMessage × Int :=
  match tile with
  | some tile => (GetTileDescription tile (addSkip state.2 state.1), 0)
  | none =>
    if state.2 = 0xFE then ((state.1.addByte 0xFF).addByte 0xFF, -1)
    else (state.1, state.2 + 1)

def GetFloorDescription (x y z width height offset : Int) (state : NetworkMessage × Int) :
    NetworkMessage × Int :=
  (List.range width.toNat).foldl (fun state (nx : Nat) =>
    (List.range height.toNat).foldl (fun state (ny : Nat) =>
      describeCell (getTile (UInt16.ofInt (x + nx + offset)) (UInt16.ofInt (y + ny + offset))
        (UInt8.ofInt z)) state) state) state

/-- The floors from `startz` to `endz`, in the order of the loop. -/
def floors (z : Fin 16) : List Int :=
  let (startz, endz, zstep) : Int × Int × Int :=
    if (z : Nat) > 7 then (z - 2, min (MAP_MAX_LAYERS - 1) (z + 2), 1) else (7, 0, -1)
  (List.range ((endz + zstep - startz) * zstep).toNat).map fun (step : Nat) => startz + zstep * step

def GetMapDescription (x y : Int) (z : Fin 16) (width height : Int) (msg : NetworkMessage) :
    NetworkMessage :=
  let (msg, skip) := (floors z).foldl (fun state nz =>
    GetFloorDescription getTile x y nz width height (z - nz) state) (msg, -1)
  addSkip skip msg

end

/-! ## What is described -/

/-- A cell of the map that is described, by its floor, column and row. -/
structure Cell where
  nz : Int
  nx : Nat
  ny : Nat
  deriving DecidableEq, Repr

/-- The cells floor by floor and column by column. -/
def cells (z : Fin 16) (width height : Int) : List Cell :=
  (floors z).flatMap fun nz => (List.range width.toNat).flatMap fun nx =>
    (List.range height.toNat).map fun ny => ⟨nz, nx, ny⟩

variable (getTile : UInt16 → UInt16 → UInt8 → Option Tile)

/-- The tile that a cell shows: a floor is seen shifted by its distance. -/
def tileAt (x y : Int) (z : Fin 16) (cell : Cell) : Option Tile :=
  getTile (UInt16.ofInt (x + cell.nx + (z - cell.nz)))
    (UInt16.ofInt (y + cell.ny + (z - cell.nz))) (UInt8.ofInt cell.nz)

/-- The things of a tile that a client is shown. -/
def Tile.shown : List Thing :=
  let ground := tile.ground.toList
  let top := ground ++ tile.topItems.take (10 - ground.length)
  let standing := top ++ (tile.creatures.reverse.filter (·.1)).map (·.2)
  standing ++ tile.downItems.take (10 - standing.length)

/-- The description of a tile. -/
def Tile.description : List UInt8 := bytes16 0 ++ tile.shown.flatten.flatten

/-- The description of every cell. -/
def described (x y : Int) (z : Fin 16) (width height : Int) : List (Cell × Option (List UInt8)) :=
  (cells z width height).map fun cell => (cell, (tileAt getTile x y z cell).map Tile.description)

end ProtocolGame

/-- What was added to a message since it was `before`. -/
def NetworkMessage.since (msg before : NetworkMessage) : List UInt8 :=
  msg.buffer.bytes before.position.toNat (msg.position.toNat - before.position.toNat)

end Otserv.Network
