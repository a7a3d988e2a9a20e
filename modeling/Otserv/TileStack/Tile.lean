import Otserv.Decay.DecayingItems

/-!
# The things on a tile

A tile has a ground, items and creatures. One vector holds the items: first the down
items, the last one added in front, then the items that are always on top, by their
order; `downItemCount` says where the second part begins. In the index order of things
the ground comes first, then the top items, the creatures and the down items.

Items are known by their addresses; what is stored of an item is found by its address,
so that `updateThing` changes it in place. Parents, released references, notifications
and the container through which players browse a tile are left out.
-/

namespace Otserv.TileStack

open Otserv.Items

/-- The classes that are told apart on a tile. -/
inductive ItemClass where
  | item | container | depotLocker | teleport | magicField | mailbox | trashHolder | bed
deriving DecidableEq

/-- An item, which stays of the class it was made of when its type changes. -/
structure TileItem where
  item : Item
  cls : ItemClass := .item

inductive Thing where
  | item (address : Nat)
  | creature (address : Nat)
deriving DecidableEq

/-- `ITEMPROPERTY`. -/
inductive ItemProperty where
  | blockSolid | hasHeight | blockProjectile | blockPath | isVertical | isHorizontal | moveable
  | immovableBlockSolid | immovableBlockPath | immovableNoFieldBlockPath | noFieldBlockPath
  | supportHangable
deriving DecidableEq

/-- `Item::hasProperty`. -/
def TileItem.hasProperty (game : Game) (item : TileItem) (prop : ItemProperty) : Bool :=
  let it := game.items item.item.id
  match prop with
  | .blockSolid => it.blockSolid
  | .moveable => it.moveable && !item.item.hasAttribute .uniqueId
  | .hasHeight => it.hasHeight
  | .blockProjectile => it.blockProjectile
  | .blockPath => it.blockPathFind
  | .isVertical => it.isVertical
  | .isHorizontal => it.isHorizontal
  | .immovableBlockSolid => it.blockSolid && (!it.moveable || item.item.hasAttribute .uniqueId)
  | .immovableBlockPath => it.blockPathFind && (!it.moveable || item.item.hasAttribute .uniqueId)
  | .immovableNoFieldBlockPath =>
    !it.isMagicField && it.blockPathFind && (!it.moveable || item.item.hasAttribute .uniqueId)
  | .noFieldBlockPath => !it.isMagicField && it.blockPathFind
  | .supportHangable => it.isHorizontal || it.isVertical

/-! ## Flags -/

/-- The flags of `tileflags_t` that are derived from items; `floorChange` is all the bits
of the floor change. -/
inductive TileFlag where
  | floorChange | teleport | magicField | mailbox | trashHolder | bed | depot | blockSolid
  | blockPath | immovableBlockSolid | immovableBlockPath | immovableNoFieldBlockPath
  | noFieldBlockPath | supportsHangable
deriving DecidableEq

/-- `TILESTATE_FLOORCHANGE`, `TILESTATE_TELEPORT` and so on. -/
def TileFlag.mask : TileFlag → BitVec 32
  | .floorChange => 0x7F
  | .teleport => 1 <<< 11
  | .magicField => 1 <<< 12
  | .mailbox => 1 <<< 13
  | .trashHolder => 1 <<< 14
  | .bed => 1 <<< 15
  | .depot => 1 <<< 16
  | .blockSolid => 1 <<< 17
  | .blockPath => 1 <<< 18
  | .immovableBlockSolid => 1 <<< 19
  | .immovableBlockPath => 1 <<< 20
  | .immovableNoFieldBlockPath => 1 <<< 21
  | .noFieldBlockPath => 1 <<< 22
  | .supportsHangable => 1 <<< 23

/-- `Tile::hasFlag`. -/
def hasFlag (flag flags : BitVec 32) : Bool := flags &&& flag ≠ 0

variable (flag flags : BitVec 32)

def setFlag : BitVec 32 := flags ||| flag

def resetFlag : BitVec 32 := flags &&& ~~~flag

/-- One statement of `Tile::setTileFlags`. -/
def setIf (holds : Bool) (flag : TileFlag) (flags : BitVec 32) : BitVec 32 :=
  if holds then setFlag flag.mask flags else flags

/-- One statement of `Tile::resetTileFlags`. -/
def resetIf (holds : Bool) (flag : TileFlag) (flags : BitVec 32) : BitVec 32 :=
  if holds then resetFlag flag.mask flags else flags

/-- `Tile::setTileFlags`. -/
def setTileFlags (game : Game) (item : TileItem) (flags : BitVec 32) : BitVec 32 :=
  let it := game.items item.item.id
  let flags :=
    if !hasFlag TileFlag.floorChange.mask flags then
      if it.floorChange ≠ 0 then setFlag (.ofNat 32 it.floorChange.val) flags else flags
    else flags
  let flags := setIf (item.hasProperty game .immovableBlockSolid) .immovableBlockSolid flags
  let flags := setIf (item.hasProperty game .blockPath) .blockPath flags
  let flags := setIf (item.hasProperty game .noFieldBlockPath) .noFieldBlockPath flags
  let flags :=
    setIf (item.hasProperty game .immovableNoFieldBlockPath) .immovableNoFieldBlockPath flags
  let flags := setIf (item.cls = .teleport) .teleport flags
  let flags := setIf (item.cls = .magicField) .magicField flags
  let flags := setIf (item.cls = .mailbox) .mailbox flags
  let flags := setIf (item.cls = .trashHolder) .trashHolder flags
  let flags := setIf (item.hasProperty game .blockSolid) .blockSolid flags
  let flags := setIf (item.cls = .bed) .bed flags
  let flags := setIf (item.cls = .depotLocker) .depot flags
  setIf (item.hasProperty game .supportHangable) .supportsHangable flags

/-- `Tile::resetTileFlags`, given which properties another item on the tile has. -/
def resetTileFlags (game : Game) (others : ItemProperty → Bool) (item : TileItem)
    (flags : BitVec 32) : BitVec 32 :=
  let it := game.items item.item.id
  let resetLast (prop : ItemProperty) := resetIf (item.hasProperty game prop && !others prop)
  let flags := resetIf (it.floorChange ≠ 0) .floorChange flags
  let flags := resetLast .blockSolid .blockSolid flags
  let flags := resetLast .immovableBlockSolid .immovableBlockSolid flags
  let flags := resetLast .blockPath .blockPath flags
  let flags := resetLast .noFieldBlockPath .noFieldBlockPath flags
  let flags := resetLast .immovableBlockPath .immovableBlockPath flags
  let flags := resetLast .immovableNoFieldBlockPath .immovableNoFieldBlockPath flags
  let flags := resetIf (item.cls = .teleport) .teleport flags
  let flags := resetIf (item.cls = .magicField) .magicField flags
  let flags := resetIf (item.cls = .mailbox) .mailbox flags
  let flags := resetIf (item.cls = .trashHolder) .trashHolder flags
  let flags := resetIf (item.cls = .bed) .bed flags
  let flags := resetIf (item.cls = .depotLocker) .depot flags
  resetIf (item.hasProperty game .supportHangable) .supportsHangable flags

/-! ## Tiles -/

/-- `Tile`, with its `TileItemVector` and what is stored of each item. -/
structure Tile where
  ground : Option Nat := none
  items : List Nat := []
  downItemCount : UInt16 := 0
  creatures : List Nat := []
  flags : BitVec 32 := 0
  stored : Nat → TileItem

namespace Tile

variable (game : Game) (tile : Tile)

/-- From `getBeginDownItem` to `getEndDownItem`. -/
def downItems : List Nat := tile.items.take tile.downItemCount.toNat

/-- From `getBeginTopItem` to `getEndTopItem`. -/
def topItems : List Nat := tile.items.drop tile.downItemCount.toNat

variable (address : Nat)

def itemType : ItemType := game.items (tile.stored address).item.id

/-- `Tile::hasProperty` without an item. -/
def hasProperty (exclude : Nat) (prop : ItemProperty) : Bool :=
  (tile.ground.any fun ground =>
    exclude ≠ ground && (tile.stored ground).hasProperty game prop) ||
  tile.items.any fun item => item ≠ exclude && (tile.stored item).hasProperty game prop

/-- The flags are set for an item. -/
def flagged : Tile :=
  { tile with flags := setTileFlags game (tile.stored address) tile.flags }

/-- The flags are reset for an item. -/
def unflagged : Tile :=
  { tile with
    flags := resetTileFlags game (tile.hasProperty game address) (tile.stored address) tile.flags }

/-- What is stored of an item changes. -/
def store (address : Nat) (item : TileItem) : Tile :=
  { tile with stored := Function.update tile.stored address item }

/-! ## Indices -/

/-- `Tile::getThingIndex`. -/
def getThingIndex (thing : Thing) : Int :=
  let afterGround : Nat := if tile.ground.isSome then 1 else 0
  match thing with
  | .item address =>
    if tile.ground = some address then 0
    else if (tile.itemType game address).alwaysOnTop then
      if address ∈ tile.topItems then (afterGround + tile.topItems.idxOf address : Nat) else -1
    else if address ∈ tile.downItems then
      (afterGround + tile.topItems.length + tile.creatures.length +
        tile.downItems.idxOf address : Nat)
    else -1
  | .creature address =>
    if address ∈ tile.creatures then
      (afterGround + tile.topItems.length + tile.creatures.idxOf address : Nat)
    else -1

/-- `Tile::getThing`. -/
def getThing (index : Nat) : Option Thing :=
  if tile.ground.isSome ∧ index = 0 then tile.ground.map .item
  else
    let index := if tile.ground.isSome then index - 1 else index
    if index < tile.topItems.length then tile.topItems[index]?.map .item
    else
      let index := index - tile.topItems.length
      if index < tile.creatures.length then tile.creatures[index]?.map .creature
      else tile.downItems[index - tile.creatures.length]?.map .item

/-- `Tile::getThingCount`. -/
def getThingCount : Nat :=
  tile.creatures.length + tile.items.length + if tile.ground.isSome then 1 else 0

/-! ## Operations -/

/-- `Tile::removeThing`. -/
def removeThing (thing : Thing) (count : UInt32) : Tile :=
  match thing with
  | .creature address => { tile with creatures := tile.creatures.erase address }
  | .item address =>
    if tile.getThingIndex game thing = -1 then tile
    else if tile.ground = some address then { tile with ground := none }.unflagged game address
    else
      let it := tile.itemType game address
      let item := (tile.stored address).item
      if it.alwaysOnTop then
        if address ∈ tile.topItems then
          { tile with items := tile.downItems ++ tile.topItems.erase address }.unflagged game address
        else tile
      else if address ∈ tile.downItems then
        if it.stackable ∧ count.toNat ≠ item.count.toNat then
          -- the difference counts as none when it is negative as a 32-bit integer
          let newCount : UInt32 := .ofNat item.count.toNat - count
          let newCount : UInt16 := if newCount < 0x80000000 then .ofNat newCount.toNat else 0
          tile.store address { tile.stored address with item := item.setItemCount newCount }
        else
          { tile with
            items := tile.downItems.erase address ++ tile.topItems
            downItemCount := tile.downItemCount - 1 }.unflagged game address
      else tile

/-- An item goes before the first top item that the order has it before. -/
def insertTop (before : Nat → Bool) : Tile :=
  { tile with
    items := tile.downItems ++ (tile.topItems.takeWhile (!before ·) ++
      address :: tile.topItems.dropWhile (!before ·)) }.flagged game address

/-- An item goes in front of the down items. -/
def insertDown : Tile :=
  { tile with
    items := address :: tile.items
    downItemCount := tile.downItemCount + 1 }.flagged game address

/-- `Tile::addThing`. -/
def addThing (thing : Thing) : Tile :=
  match thing with
  | .creature address => { tile with creatures := address :: tile.creatures }
  | .item address =>
    if tile.items.length ≥ 0xFFFF then tile
    else
      let it := tile.itemType game address
      if it.isGroundTile then
        match tile.ground with
        | none => { tile with ground := some address }.flagged game address
        | some oldGround =>
          ({ tile with ground := some address }.unflagged game oldGround).flagged game address
      else if it.alwaysOnTop then
        let tile :=
          if it.isSplash then
            match tile.topItems.find? fun other => (tile.itemType game other).isSplash with
            | none => tile
            | some oldSplash => tile.removeThing game (.item oldSplash) 1
          else tile
        tile.insertTop game address fun other =>
          it.alwaysOnTopOrder ≤ (tile.itemType game other).alwaysOnTopOrder
      else if it.isMagicField then
        match tile.downItems.find? fun other => (tile.stored other).cls = .magicField with
        | none => tile.insertDown game address
        | some oldField =>
          if (tile.itemType game oldField).replaceable then
            (tile.removeThing game (.item oldField) 1).insertDown game address
          else tile
      else tile.insertDown game address

/-- `Tile::internalAddThing`. -/
def internalAddThing (thing : Thing) : Tile :=
  match thing with
  | .creature address => { tile with creatures := address :: tile.creatures }
  | .item address =>
    let it := tile.itemType game address
    if it.isGroundTile then
      match tile.ground with
      | none => { tile with ground := some address }.flagged game address
      | some _ => tile
    else if tile.items.length ≥ 0xFFFF then tile
    else if it.alwaysOnTop then
      tile.insertTop game address fun other =>
        (tile.itemType game other).alwaysOnTopOrder > it.alwaysOnTopOrder
    else tile.insertDown game address

/-- `Tile::updateThing`. -/
def updateThing (thing : Thing) (itemId count : UInt16) : Tile :=
  if tile.getThingIndex game thing = -1 then tile
  else
    match thing with
    | .creature _ => tile
    | .item address =>
      let item := ((tile.stored address).item.setID game itemId).setSubType game count
      ((tile.unflagged game address).store address
        { tile.stored address with item := item }).flagged game address

/-- The slot of an item that `replaceThing` finds at an index: the ground, a place among
the top items or one among the down items. -/
inductive Slot where
  | ground (old : Nat)
  | top (pos old : Nat)
  | down (pos old : Nat)

/-- The item that is in the slot. -/
def Slot.old : Slot → Nat
  | .ground old | .top _ old | .down _ old => old

def slotAt (index : Nat) : Option Slot :=
  if tile.ground.isSome ∧ index = 0 then tile.ground.map .ground
  else
    let pos := if tile.ground.isSome then index - 1 else index
    if pos < tile.topItems.length then tile.topItems[pos]?.map (.top pos)
    else
      let pos := pos - tile.topItems.length
      if pos < tile.creatures.length then none
      else
        let pos := pos - tile.creatures.length
        tile.downItems[pos]?.map (.down pos)

/-- Another item comes into a slot. -/
def fill (slot : Slot) (address : Nat) : Tile :=
  match slot with
  | .ground _ => { tile with ground := some address }
  | .top pos _ => { tile with items := tile.downItems ++ tile.topItems.set pos address }
  | .down pos _ => { tile with items := tile.downItems.set pos address ++ tile.topItems }

/-- `Tile::replaceThing`. -/
def replaceThing (index address : Nat) : Tile :=
  match tile.slotAt index with
  | none => tile
  | some slot => ((tile.fill slot address).unflagged game slot.old).flagged game address

end Tile

end Otserv.TileStack
