import Otserv.TileStack.Exactness
import Otserv.World.Tiles

/-!
# The container of a tile

A player who browses a tile gets a window with a container that lists items of it. There is one
such container for a tile; it is made when the first player browses, and is kept for the windows
that show it and, for thirty seconds, for the entry of the tile in `browseFields`. The callbacks of
the tile keep the list up.

A container is known by how many were made before it. Only windows of players in the game are
modelled, and of other containers only that a window shows one. Weights and what is sent to clients
are left out.
-/

namespace Otserv.TileStack

/-- `getContainer`; a depot locker is a container. -/
def TileItem.isContainer (item : TileItem) : Bool :=
  item.cls = .container || item.cls = .depotLocker

variable (game : Items.Game)

/-- What the constructor of the container lists. -/
def TileItem.isBrowsed (item : TileItem) : Bool :=
  (item.isContainer || item.hasProperty game .moveable) && !item.item.hasAttribute .uniqueId

/-- What the callbacks of the tile are about. -/
def TileItem.isWatched (item : TileItem) : Bool :=
  item.hasProperty game .moveable || item.isContainer

/-- The container of a tile. -/
structure BrowseField where
  itemlist : List Nat
  referenceCounter : Nat

/-- The parent of an item. -/
inductive Parent where
  | tile
  | container (container : Nat)
deriving DecidableEq

/-- A window with the container of the tile. -/
structure Window where
  player : Nat
  cid : Nat
  container : Nat
deriving DecidableEq

/-- A tile with what is known of its container. -/
structure Field where
  tile : Tile
  position : World.Position
  containers : Nat → Option BrowseField := fun _ => none
  /-- The entry of the tile in `browseFields`. -/
  browseFields : Option Nat := none
  /-- How many containers were made. -/
  made : Nat := 0
  windows : List Window := []
  /-- The windows, by player and number, that show another container. -/
  others : List (Nat × Nat) := []
  /-- How many calls of `decreaseBrowseFieldRef` are to come. -/
  scheduled : Nat := 0
  parent : Nat → Option Parent := fun _ => none

namespace Field

variable (game : Items.Game) (field : Field) (container : Nat)

def modifyContainer (change : BrowseField → BrowseField) : Field :=
  { field with
    containers := Function.update field.containers container
      ((field.containers container).map change) }

def setParent (item : Nat) (parent : Option Parent) : Field :=
  { field with parent := Function.update field.parent item parent }

/-! ## Callbacks -/

/-- `Container::addItemBack`. -/
def addItemBack (container item : Nat) : Field :=
  (field.modifyContainer container fun browse =>
    { browse with itemlist := browse.itemlist ++ [item] }).setParent item
      (some (.container container))

/-- Whether the container lists the item. -/
def lists (container item : Nat) : Bool :=
  (field.containers container).any fun browse => item ∈ browse.itemlist

/-- `Container::replaceThing` at the index of an item that is listed. -/
def replaceListed (container oldItem newItem : Nat) : Field :=
  ((field.modifyContainer container fun browse =>
    { browse with
      itemlist := browse.itemlist.set (browse.itemlist.idxOf oldItem) newItem }).setParent
        newItem (some (.container container))).setParent oldItem none

/-- `Container::removeThing` of the whole item. -/
def removeListed (container item : Nat) : Field :=
  if field.lists container item then
    (field.modifyContainer container fun browse =>
      { browse with itemlist := browse.itemlist.erase item }).setParent item none
  else field

/-- `Tile::onAddTileItem`. -/
def onAddTileItem (item : Nat) : Field :=
  if (field.tile.stored item).isWatched game then
    match field.browseFields with
    | some container => (field.addItemBack container item).setParent item (some .tile)
    | none => field
  else field

/-- `Tile::onUpdateTileItem`. -/
def onUpdateTileItem (oldItem newItem : Nat) : Field :=
  if (field.tile.stored newItem).isWatched game then
    match field.browseFields with
    | some container =>
      if field.lists container oldItem then
        (field.replaceListed container oldItem newItem).setParent newItem (some .tile)
      else field
    | none => field
  else if (field.tile.stored oldItem).isWatched game then
    match field.browseFields with
    | some container =>
      let oldParent := field.parent oldItem
      (field.removeListed container oldItem).setParent oldItem oldParent
    | none => field
  else field

/-- `Tile::onRemoveTileItem`. -/
def onRemoveTileItem (item : Nat) : Field :=
  if (field.tile.stored item).isWatched game then
    match field.browseFields with
    | some container => field.removeListed container item
    | none => field
  else field

/-! ## The tile -/

/-- `Tile::removeThing`. -/
def removeThing (thing : Thing) (count : UInt32) : Field :=
  let after := { field with tile := field.tile.removeThing game thing count }
  match thing with
  | .creature _ => after
  | .item address =>
    if field.tile.getThingIndex game thing = -1 then after
    else
      match field.tile.removed game thing count with
      | some item => (after.setParent item none).onRemoveTileItem game item
      -- a part of a stack
      | none => after.onUpdateTileItem game address address

/-- A new item makes a splash or a field go. -/
def discard (item : Nat) : Field :=
  (field.removeThing game (.item item) 1).setParent item none

/-- `Tile::addThing`. -/
def addThing (thing : Thing) : Field :=
  let tile := field.tile
  let added := tile.addThing game thing
  match thing with
  | .creature _ => { field with tile := added }
  | .item address =>
    if tile.items.length ≥ 0xFFFF then field
    else
      let field := field.setParent address (some .tile)
      let it := tile.itemType game address
      if it.isGroundTile then
        match tile.ground with
        | none => { field with tile := added }.onAddTileItem game address
        | some oldGround =>
          { field.setParent oldGround none with tile := added }.onUpdateTileItem game oldGround
            address
      else if it.alwaysOnTop then
        let field :=
          if it.isSplash then
            match tile.topItems.find? fun other => (tile.itemType game other).isSplash with
            | none => field
            | some oldSplash => field.discard game oldSplash
          else field
        { field with tile := added }.onAddTileItem game address
      else if it.isMagicField then
        match tile.downItems.find? fun other => (tile.stored other).cls = .magicField with
        | none => { field with tile := added }.onAddTileItem game address
        | some oldField =>
          if (tile.itemType game oldField).replaceable then
            { field.discard game oldField with tile := added }.onAddTileItem game address
          else field.setParent address none
      else { field with tile := added }.onAddTileItem game address

/-- `Tile::updateThing`. -/
def updateThing (thing : Thing) (itemId count : UInt16) : Field :=
  if field.tile.getThingIndex game thing = -1 then field
  else
    match thing with
    | .creature _ => field
    | .item address =>
      { field with
        tile := field.tile.updateThing game thing itemId count }.onUpdateTileItem game address
          address

/-- `Tile::replaceThing`. -/
def replaceThing (index address : Nat) : Field :=
  match field.tile.slotAt index with
  | none => field
  | some slot =>
    (({ field.setParent address (some .tile) with
        tile := field.tile.replaceThing game index address }.onUpdateTileItem game slot.old
          address).setParent slot.old none)

/-! ## Windows -/

/-- The items that a container of the tile would list. -/
def listing (tile : Tile) : List Nat :=
  (tile.items.filter fun item => (tile.stored item).isBrowsed game).reverse

/-- `Container::Container(Tile*)`, registered and with its call scheduled. -/
def makeContainer : Field :=
  let itemlist := listing game field.tile
  { field with
    containers := Function.update field.containers field.made
      (some { itemlist := itemlist, referenceCounter := 1 })
    browseFields := some field.made
    made := field.made + 1
    scheduled := field.scheduled + 1
    parent := fun item =>
      if item ∈ itemlist then some (.container field.made) else field.parent item }

/-- The container that is registered, or else a new one. -/
def browseContainer : Nat × Field :=
  match field.browseFields with
  | some container => (container, field)
  | none => (field.made, field.makeContainer game)

/-- `Container::~Container`. -/
def destroy (browse : BrowseField) : Field :=
  { field with
    containers := Function.update field.containers container none
    browseFields := none
    parent := fun item => if item ∈ browse.itemlist then some .tile else field.parent item }

def incrementReferenceCounter : Field :=
  field.modifyContainer container fun browse =>
    { browse with referenceCounter := browse.referenceCounter + 1 }

def decrementReferenceCounter : Field :=
  match field.containers container with
  | none => field
  | some browse =>
    if browse.referenceCounter = 1 then field.destroy container browse
    else field.modifyContainer container fun browse =>
      { browse with referenceCounter := browse.referenceCounter - 1 }

/-- The window of the player with that number, when it shows the container of the tile. -/
def window (player cid : Nat) : Option Window :=
  field.windows.find? fun window => window.player = player && window.cid = cid

/-- The window with the container of the tile does not show it any more. -/
def dropWindow (player cid : Nat) : Field :=
  match field.window player cid with
  | none => field
  | some window =>
    { field with windows := field.windows.erase window }.decrementReferenceCounter
      window.container

/-- `Player::addContainer`, of a container of the tile. -/
def addContainer (player cid container : Nat) : Field :=
  let field := (field.incrementReferenceCounter container).dropWindow player cid
  { field with
    windows := ⟨player, cid, container⟩ :: field.windows
    others := field.others.filter (· ≠ (player, cid)) }

/-- `Player::addContainer`, of another container. -/
def addOther (player cid : Nat) : Field :=
  let field := field.dropWindow player cid
  { field with others := (player, cid) :: field.others.filter (· ≠ (player, cid)) }

/-- `Player::closeContainer`. -/
def closeContainer (player cid : Nat) : Field :=
  let field := field.dropWindow player cid
  { field with others := field.others.filter (· ≠ (player, cid)) }

/-- The window in which a tile of that position is browsed. -/
def dummyContainerId (pos : World.Position) : Nat := 0xF - (pos.x.toNat % 3 * 3 + pos.y.toNat % 3)

/-- `Game::playerBrowseField`, by a player who is near enough and may. -/
def playerBrowseField (player : Nat) : Field :=
  let (container, field) := field.browseContainer game
  let cid := dummyContainerId field.position
  if (field.window player cid).isSome || (player, cid) ∈ field.others then
    field.closeContainer player cid
  else field.addContainer player cid container

/-- `Game::playerMoveUpContainer`, from a container that is on the tile. -/
def playerMoveUpContainer (player cid : Nat) : Field :=
  let (container, field) := field.browseContainer game
  field.addContainer player cid container

/-- `Game::decreaseBrowseFieldRef`. -/
def decreaseBrowseFieldRef : Field :=
  let field := { field with scheduled := field.scheduled - 1 }
  match field.browseFields with
  | some container => field.decrementReferenceCounter container
  | none => field

end Field

inductive BrowseOp where
  | addThing (thing : Thing)
  | updateThing (thing : Thing) (itemId count : UInt16)
  | replaceThing (index address : Nat)
  | removeThing (thing : Thing) (count : UInt32)
  /-- What happens to an item that is not on the tile. -/
  | elsewhere (address : Nat) (item : TileItem)
  | playerBrowseField (player : Nat)
  | playerMoveUpContainer (player cid : Nat)
  | addOther (player cid : Nat)
  | closeContainer (player cid : Nat)
  | decreaseBrowseFieldRef

namespace BrowseOp

/-- What is done to a tile is done as without a container, and fields are not stackable. The call
that was scheduled is made, and a player moves up in a window with another container. -/
def Legal (game : Items.Game) (field : Field) : BrowseOp → Prop
  | addThing thing => (TileOp.addThing thing).Legal game field.tile ∧
      ∀ other ∈ field.tile.downItems, (field.tile.stored other).cls = .magicField →
        (field.tile.itemType game other).stackable = false
  | updateThing thing itemId count => (TileOp.updateThing thing itemId count).Legal game field.tile
  | replaceThing index address => (TileOp.replaceThing index address).Legal game field.tile
  | elsewhere address _ => Absent field.tile address
  | playerMoveUpContainer player cid => (player, cid) ∈ field.others
  | decreaseBrowseFieldRef => 0 < field.scheduled
  | removeThing _ _ | playerBrowseField _ | addOther _ _ | closeContainer _ _ => True

def apply (game : Items.Game) (field : Field) : BrowseOp → Field
  | addThing thing => field.addThing game thing
  | updateThing thing itemId count => field.updateThing game thing itemId count
  | replaceThing index address => field.replaceThing game index address
  | removeThing thing count => field.removeThing game thing count
  | elsewhere address item => { field with tile := field.tile.store address item }
  | playerBrowseField player => field.playerBrowseField game player
  | playerMoveUpContainer player cid => field.playerMoveUpContainer game player cid
  | addOther player cid => field.addOther player cid
  | closeContainer player cid => field.closeContainer player cid
  | decreaseBrowseFieldRef => field.decreaseBrowseFieldRef

end BrowseOp

def browseSystem : Foundation.System Field BrowseOp where
  legal := BrowseOp.Legal game
  step := BrowseOp.apply game

end Otserv.TileStack
