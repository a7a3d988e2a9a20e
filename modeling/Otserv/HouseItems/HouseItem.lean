import Otserv.Foundation.ByteStream
import Otserv.Foundation.StableInsertion
import Otserv.Items.Item
import Otserv.World.Tiles

/-!
# The items of a house, written and read

`IOMapSerialize` writes the items of a house tile as trees: the id and the attributes of
an item, for a container its items from the last to the first under a tag of the attribute
stream, and an end byte. `loadItem` makes the items anew, or reads into an item of the map
that does not move, and gives each to its parent.

What an item holds besides its id, its class and its items is its own: how it is written and
which tag reads what is up to its class (`Game`). Whether an item decays or waits to decay
is not told apart. Sleepers, doors and beds of the house and the warnings that are printed
are left out.
-/

namespace Otserv.HouseItems

open Otserv.Foundation

/-- The classes that `Item::CreateItem` makes items of. -/
inductive ItemClass where
  | item | container | depotLocker | teleport | magicField | door | trashHolder | mailbox | bed
deriving DecidableEq

/-- An item type, with what only the saving of tiles asks for. -/
structure ItemType extends Items.ItemType where
  forceSerialize : Bool := false
  canWriteText : Bool := false

/-- An item with what is its own, and the items in it. -/
inductive Item (Own : Type*) where
  | mk (id : UInt16) (cls : ItemClass) (own : Own) (itemlist : List (Item Own))

namespace Item

variable {Own : Type*}

def id : Item Own → UInt16 | ⟨id, _, _, _⟩ => id
def cls : Item Own → ItemClass | ⟨_, cls, _, _⟩ => cls
def own : Item Own → Own | ⟨_, _, own, _⟩ => own
def itemlist : Item Own → List (Item Own) | ⟨_, _, _, itemlist⟩ => itemlist

/-- `getContainer`; a depot locker is a container. -/
def isContainer (item : Item Own) : Bool := item.cls = .container || item.cls = .depotLocker

section Fields

variable (type : UInt16) (c : ItemClass) (o : Own) (items : List (Item Own))

@[simp] theorem id_mk : (⟨type, c, o, items⟩ : Item Own).id = type := rfl
@[simp] theorem cls_mk : (⟨type, c, o, items⟩ : Item Own).cls = c := rfl
@[simp] theorem own_mk : (⟨type, c, o, items⟩ : Item Own).own = o := rfl
@[simp] theorem itemlist_mk : (⟨type, c, o, items⟩ : Item Own).itemlist = items := rfl

@[simp] theorem mk_fields (item : Item Own) :
    (⟨item.id, item.cls, item.own, item.itemlist⟩ : Item Own) = item := by
  cases item
  rfl

end Fields

end Item

/-- `Tile`, with its `TileItemVector`. -/
structure Tile (Own : Type*) where
  position : World.Position
  ground : Option (Item Own) := none
  items : List (Item Own) := []
  downItemCount : UInt16 := 0

/-- What the saving asks the game and the classes of its items. -/
structure Game (Own : Type*) where
  items : UInt16 → ItemType
  /-- What the constructor of the class gives an item. -/
  construct : ItemClass → UInt16 → Own
  serializeAttr : ItemClass → UInt16 → Own → List UInt8
  /-- `readAttr` of the class at any tag but that of a container's items: whether it could
  be read, what the item has then, and the rest of the stream. -/
  readAttr : ItemClass → UInt16 → UInt8 → Own → List UInt8 → Bool × Own × List UInt8
  /-- What is in a container on a tile once the decay of an item in it has started. -/
  startDecayingIn : Item Own → List (Item Own) → List (Item Own)
  /-- What is on a tile once the decay of an item on it, and of those in it, has started. -/
  startDecayingOn : Item Own → Tile Own → Tile Own
  /-- `Game::transformItem` on the item at an index of a tile's item list, to another id. -/
  transformItem : Nat → UInt16 → Tile Own → Tile Own

variable {Own : Type*} (game : Game Own)

/-! ## Making an item -/

/-- The id that a plain item of a type gets. -/
def plainId (it : ItemType) (type : UInt16) : UInt16 :=
  if it.id ≥ 2210 ∧ it.id ≤ 2212 then type - 3
  else if it.id = 2215 ∨ it.id = 2216 then type - 2
  else if it.id ≥ 2202 ∧ it.id ≤ 2206 then type - 37
  else if it.id = 2640 then 6132
  else if it.id = 6301 then 6300
  else if it.id = 18528 then 18408
  else type

/-- The class of the items of a type. -/
def ItemType.cls (it : ItemType) : ItemClass :=
  if it.isDepot then .depotLocker
  else if it.isContainer then .container
  else if it.isTeleport then .teleport
  else if it.isMagicField then .magicField
  else if it.isDoor then .door
  else if it.isTrashHolder then .trashHolder
  else if it.isMailbox then .mailbox
  else if it.isBed then .bed
  else .item

/-- `Item::CreateItem`. -/
def createItem (type : UInt16) : Option (Item Own) :=
  let it := game.items type
  if it.group = .deprecated then none
  else if it.id ≠ 0 then
    let id := if it.cls = .item then plainId it type else type
    some ⟨id, it.cls, game.construct it.cls id, []⟩
  else none

/-! ## Writing -/

def ATTR_CONTAINER_ITEMS : UInt8 := 23

mutual

/-- `IOMapSerialize::saveItem`. -/
def saveItem : Item Own → List UInt8
  | ⟨id, cls, own, itemlist⟩ =>
    writeNat 2 id.toNat ++ (game.serializeAttr cls id own ++
      ((if cls = .container || cls = .depotLocker then
        ATTR_CONTAINER_ITEMS :: (writeNat 4 itemlist.length ++ saveReversed itemlist)
      else []) ++ [0]))

/-- The items from `getReversedItems` on. -/
def saveReversed : List (Item Own) → List UInt8
  | [] => []
  | item :: items => saveReversed items ++ saveItem item

end

/-! ## Reading -/

/-- An item whose attributes were read, or not all of them, the count that its container
items were announced with, and the rest of the stream. -/
structure Unserialized (Own : Type*) where
  ok : Bool
  item : Item Own
  serializationCount : Nat
  rest : List UInt8

/-- The loop of `Item::unserializeAttr`. A tag is a byte, so as much fuel as there are
bytes is enough. -/
def readAttrs (id : UInt16) (cls : ItemClass) (itemlist : List (Item Own)) :
    Nat → Own → List UInt8 → Unserialized Own
  | _, own, [] => ⟨true, ⟨id, cls, own, itemlist⟩, 0, []⟩
  | 0, own, bytes => ⟨false, ⟨id, cls, own, itemlist⟩, 0, bytes⟩
  | fuel + 1, own, attr :: bytes =>
    if attr = 0 then ⟨true, ⟨id, cls, own, itemlist⟩, 0, bytes⟩
    else if attr = ATTR_CONTAINER_ITEMS then
      -- `Container::readAttr`; a depot locker has one of its own, which hands the tag on
      -- to `Item::readAttr`, and so do the other classes
      if cls = .container then
        match readNat 4 bytes with
        | some (count, rest) => ⟨true, ⟨id, cls, own, itemlist⟩, count, rest⟩
        | none => ⟨false, ⟨id, cls, own, itemlist⟩, 0, bytes⟩
      else ⟨false, ⟨id, cls, own, itemlist⟩, 0, bytes⟩
    else
      match game.readAttr cls id attr own bytes with
      | (true, own, rest) => readAttrs id cls itemlist fuel own rest
      | (false, own, rest) => ⟨false, ⟨id, cls, own, itemlist⟩, 0, rest⟩

/-- `Item::unserializeAttr`. -/
def Item.unserializeAttr (item : Item Own) (bytes : List UInt8) : Unserialized Own :=
  readAttrs game item.id item.cls item.itemlist bytes.length item.own bytes

/-- A `loadItem` whose parent is a container: whether it went well, the parent's items and
the rest of the stream. -/
abbrev Loader (Own : Type*) := List (Item Own) → List UInt8 → Bool × List (Item Own) × List UInt8

/-- `IOMapSerialize::loadContainer`. -/
def loadContainer (load : Loader Own) : Nat → Loader Own
  | 0, itemlist, [] => (false, itemlist, [])
  | 0, itemlist, endAttr :: rest => (endAttr = 0, itemlist, rest)
  | serializationCount + 1, itemlist, bytes =>
    match load itemlist bytes with
    | (true, itemlist, rest) => loadContainer load serializationCount itemlist rest
    | (false, itemlist, rest) => (false, itemlist, rest)

/-- The items of an item that was read, if it is a container. -/
def loadContents (load : Loader Own) (read : Unserialized Own) : Bool × Item Own × List UInt8 :=
  if read.item.isContainer then
    match loadContainer load read.serializationCount read.item.itemlist read.rest with
    | (ok, itemlist, rest) => (ok, ⟨read.item.id, read.item.cls, read.item.own, itemlist⟩, rest)
  else (true, read.item, read.rest)

/-- The branch of `loadItem` that makes a new item, as far as to the item. -/
def loadNew (load : Loader Own) (id : UInt16) (bytes : List UInt8) :
    Bool × Option (Item Own) × List UInt8 :=
  match createItem game id with
  | none => (true, none, bytes)
  | some item =>
    let read := item.unserializeAttr game bytes
    if read.ok then
      match loadContents load read with
      | (true, item, rest) => (true, some item, rest)
      | (false, _, rest) => (false, none, rest)
    else (false, none, read.rest)

/-- `Container::internalAddThing` and `startDecaying`. What is in a container that has no
parent yet counts as removed and does not decay. -/
def placeIn (onTile : Bool) (item : Item Own) (itemlist : List (Item Own)) : List (Item Own) :=
  if onTile then game.startDecayingIn item (item :: itemlist) else item :: itemlist

/-- What becomes of a container's items when a new item is to be among them. -/
def placeNew (onTile : Bool) (itemlist : List (Item Own)) :
    Bool × Option (Item Own) × List UInt8 → Bool × List (Item Own) × List UInt8
  | (ok, some item, rest) => (ok, placeIn game onTile item itemlist, rest)
  | (ok, none, rest) => (ok, itemlist, rest)

@[simp] theorem placeNew_some (onTile ok : Bool) (itemlist : List (Item Own)) (item : Item Own)
    (rest : List UInt8) : placeNew game onTile itemlist (ok, some item, rest) =
      (ok, placeIn game onTile item itemlist, rest) := rfl

@[simp] theorem placeNew_none (onTile ok : Bool) (itemlist : List (Item Own)) (rest : List UInt8) :
    placeNew game onTile itemlist (ok, none, rest) = (ok, itemlist, rest) := rfl

/-- `IOMapSerialize::loadItem` whose parent is a container, on a tile or without a parent.
Each item in another costs a byte, so as much fuel as there are bytes is enough. -/
def loadItem : Nat → Bool → Loader Own
  | 0, _, itemlist, bytes => (false, itemlist, bytes)
  | fuel + 1, onTile, itemlist, bytes =>
    match readNat 2 bytes with
    | none => (false, itemlist, bytes)
    | some (id, rest) =>
      placeNew game onTile itemlist (loadNew game (loadItem fuel false) (.ofNat id) rest)

namespace Tile

variable (tile : Tile Own)

/-- From `getBeginDownItem` to `getEndDownItem`. -/
def downItems : List (Item Own) := tile.items.take tile.downItemCount.toNat

/-- From `getBeginTopItem` to `getEndTopItem`. -/
def topItems : List (Item Own) := tile.items.drop tile.downItemCount.toNat

end Tile

def alwaysOnTopOrder (item : Item Own) : Nat := (game.items item.id).alwaysOnTopOrder.toNat

namespace Tile

variable (tile : Tile Own)

/-- `Tile::internalAddThing`, of an item. -/
def internalAddThing (item : Item Own) : Tile Own :=
  let itemType := game.items item.id
  if itemType.isGroundTile then
    match tile.ground with
    | none => { tile with ground := some item }
    | some _ => tile
  else if tile.items.length ≥ 0xFFFF then tile
  else if itemType.alwaysOnTop then
    { tile with
      items := tile.downItems ++ insertBehind (alwaysOnTopOrder game) item tile.topItems }
  else
    { tile with
      items := item :: tile.items
      downItemCount := tile.downItemCount + 1 }

/-- An item that is read in place of the one it was before. -/
def put (index : Nat) (item : Item Own) : Tile Own :=
  { tile with items := tile.items.set index item }

/-- The item of the map that what was saved of a stationary item is for. -/
def isFound (id : UInt16) (findItem : Item Own) : Bool :=
  findItem.id = id || ((game.items id).isDoor && findItem.cls = .door) ||
    ((game.items id).isBed && findItem.cls = .bed)

/-- The branch of `loadItem` for stationary items like doors, beds, blackboards and
bookcases. -/
def loadStationary (load : Bool → Loader Own) (id : UInt16) (bytes : List UInt8) :
    Bool × Tile Own × List UInt8 :=
  match tile.items.zipIdx.find? fun entry => isFound game id entry.1 with
  | some (item, index) =>
    let read := item.unserializeAttr game bytes
    if read.ok then
      match loadContents (load true) read with
      | (true, item, rest) =>
        (true,
          if item.id = id then tile.put index item
          else game.transformItem index id (tile.put index item),
          rest)
      | (false, item, rest) => (false, tile.put index item, rest)
    else (true, tile.put index read.item, read.rest)
  | none =>
    -- the map changed since the last save: the attributes are only read
    match createItem game id with
    | none => (true, tile, bytes)
    | some dummy =>
      match loadContents (load false) (dummy.unserializeAttr game bytes) with
      | (ok, _, rest) => (ok, tile, rest)

/-- `IOMapSerialize::loadItem` whose parent is a tile. -/
def loadItem (bytes : List UInt8) : Bool × Tile Own × List UInt8 :=
  match readNat 2 bytes with
  | none => (false, tile, bytes)
  | some (id, rest) =>
    let id : UInt16 := .ofNat id
    let iType := game.items id
    if iType.moveable || iType.forceSerialize then
      match loadNew game (HouseItems.loadItem game bytes.length false) id rest with
      | (ok, some item, rest) =>
        (ok, game.startDecayingOn item (tile.internalAddThing game item), rest)
      | (ok, none, rest) => (ok, tile, rest)
    else tile.loadStationary game (HouseItems.loadItem game bytes.length) id rest

/-! ## Tiles -/

/-- The items that `saveTile` writes. -/
def isSaved (item : Item Own) : Bool :=
  let it := game.items item.id
  it.moveable || it.forceSerialize || item.cls = .door ||
    (item.isContainer && !item.itemlist.isEmpty) || it.canWriteText || item.cls = .bed

/-- `IOMapSerialize::saveTile`. -/
def saveTile : List UInt8 :=
  let items := (tile.items.filter (isSaved game)).reverse
  let count : UInt16 := .ofNat items.length
  if items.isEmpty then []
  else
    writeNat 2 tile.position.x.toNat ++ (writeNat 2 tile.position.y.toNat ++
      (writeNat 1 tile.position.z.toNat ++ (writeNat 4 count.toNat ++
        items.flatMap (saveItem game))))

/-- The loop of `loadHouseItems` over the items of a row. -/
def loadItems : Nat → Tile Own → List UInt8 → Tile Own
  | 0, tile, _ => tile
  | count + 1, tile, bytes =>
    match tile.loadItem game bytes with
    | (_, tile, rest) => loadItems count tile rest

end Tile

/-- The tiles of the map. -/
abbrev TileMap (Own : Type*) := World.Position → Option (Tile Own)

/-- One row of `IOMapSerialize::loadHouseItems`. -/
def loadRow (map : TileMap Own) (data : List UInt8) : TileMap Own :=
  match readNat 2 data with
  | none => map
  | some (x, data) =>
    match readNat 2 data with
    | none => map
    | some (y, data) =>
      match readNat 1 data with
      | none => map
      | some (z, data) =>
        let position : World.Position := ⟨.ofNat x, .ofNat y, .ofNat z⟩
        match map position with
        | none => map
        | some tile =>
          match readNat 4 data with
          | none => map
          | some (item_count, data) =>
            Function.update map position (some (Tile.loadItems game item_count tile data))

/-- `IOMapSerialize::loadHouseItems`. -/
def loadHouseItems (map : TileMap Own) (result : List (List UInt8)) : TileMap Own :=
  result.foldl (loadRow game) map

/-- The rows that `IOMapSerialize::saveHouseItems` writes of tiles. -/
def saveHouseItems (tiles : List (Tile Own)) : List (List UInt8) :=
  (tiles.map (Tile.saveTile game)).filter (!·.isEmpty)

end Otserv.HouseItems
