import Otserv.Containers.PokeballCaches

/-!
# The inventory of a player

A player wears items in slots, and what is worn may be a container. The player too has a list of
the pokeballs, beside those of the containers. It is changed by the functions of `Container` when
they find the player above the container, and when the inventory is loaded; the functions of
`Player` for the slots leave it alone.

One player is followed, who is on a tile except while the inventory is loaded. What is sent to
clients, weights the player keeps and scripts of what is worn are left out.
-/

namespace Otserv.Containers.Heap

/-- The last of the containers above, with fuel. -/
def topWithin (heap : Heap) : Nat → Nat → Nat
  | 0, pointer => pointer
  | fuel + 1, pointer =>
    match heap.parent pointer with
    | some above => topWithin heap fuel above
    | none => pointer

/-- The last of the containers above. There are not more of them than items. -/
def top (heap : Heap) (pointer : Nat) : Nat := heap.topWithin heap.live.card pointer

end Otserv.Containers.Heap

namespace Otserv.Inventories

open Containers (Heap)
open Items (Game Item)

abbrev CONST_SLOT_FIRST : Nat := 1
abbrev CONST_SLOT_LAST : Nat := 12

/-- The slots and the list of pokeballs of a player, and the items of the game. The parent of
an item may be the player, and is no container then. -/
structure Player where
  heap : Heap
  parented : Nat → Bool := fun _ => false
  inventory : Nat → Option Nat := fun _ => none
  pokeballs : List Nat := []

namespace Player

variable (game : Game) (player : Player)

def insertPokeball (pokeball : Nat) : Player :=
  { player with pokeballs := player.pokeballs ++ [pokeball] }

def removeBallFromCache (pokeball : Nat) : Player :=
  { player with pokeballs := player.pokeballs.erase pokeball }

/-! ## Slots -/

/-- `Item::setParent` with the player. -/
def adopt (item : Nat) : Player :=
  { player with
    heap := player.heap.setParent item none
    parented := Function.update player.parented item true }

/-- `Item::setParent` with nothing. -/
def disown (item : Nat) : Player :=
  { player with
    heap := player.heap.setParent item none
    parented := Function.update player.parented item false }

def setSlot (slot : Nat) (item : Option Nat) : Player :=
  { player with inventory := Function.update player.inventory slot item }

def getInventoryItem (slot : Nat) : Option Nat :=
  if slot < CONST_SLOT_FIRST ∨ slot > CONST_SLOT_LAST then none else player.inventory slot

/-- `Player::getThingIndex`. -/
def getThingIndex (item : Nat) : Option Nat :=
  (List.range' CONST_SLOT_FIRST CONST_SLOT_LAST).find? fun slot =>
    player.inventory slot = some item

/-- `Player::addThing`. -/
def addThing (index : Int32) (item : Nat) : Player :=
  if index.toInt < CONST_SLOT_FIRST ∨ index.toInt > CONST_SLOT_LAST then player
  else (player.adopt item).setSlot index.toInt.toNat (some item)

/-- `Player::replaceThing`. The parent of the old item stays. -/
def replaceThing (index : UInt32) (item : Nat) : Player :=
  if index.toNat > CONST_SLOT_LAST then player
  else
    match player.getInventoryItem index.toNat with
    | none => player
    | some _ => (player.adopt item).setSlot index.toNat (some item)

/-- `Player::removeThing`. What is left of a stack is cut to eight bits. -/
def removeThing (item : Nat) (count : UInt32) : Player :=
  match player.getThingIndex item with
  | none => player
  | some index =>
    if player.heap.takesPart game item count then
      let newCount := (player.heap.newCount item count).toUInt8.toUInt16
      { player with
        heap := player.heap.setItem item ((player.heap.item item).setItemCount newCount) }
    else (player.disown item).setSlot index none

/-- `Player::internalAddThing`. -/
def internalAddThing (index : Nat) (item : Nat) : Player :=
  if 0 < index ∧ index ≤ CONST_SLOT_LAST then
    match player.inventory index with
    | some _ => player
    | none => (player.setSlot index (some item)).adopt item
  else player

/-! ## Containers -/

variable (pointer : Nat)

/-- `getTopParent` of a container is the player. When a `DepotChest` or an `Inbox` is right in a
slot, its parent is what the player is on. -/
def isTopParent : Bool :=
  player.parented (player.heap.top pointer) && !player.heap.skips (player.heap.top pointer)

/-- `Container::addThing`. -/
def containerAddThing (index : Int32) (item : Nat) : Player :=
  if index ≥ (player.heap.capacity pointer).toInt32 then player
  else
    let after := { player with heap := player.heap.addThing game pointer index item }
    if after.isTopParent pointer then (player.heap.cached game item).foldl insertPokeball after
    else after

/-- `Container::addItemBack`. -/
def containerAddItemBack (pointer item : Nat) : Player :=
  { player with heap := player.heap.addItemBack game pointer item }

/-- `Container::replaceThing`. -/
def containerReplaceThing (index : UInt32) (item : Nat) : Player :=
  { player with heap := player.heap.replaceThing game pointer index item }

/-- `Container::removeThing`. -/
def containerRemoveThing (pointer item : Nat) (count : UInt32) : Player :=
  let after := { player with heap := player.heap.removeThing game pointer item count }
  if item ∈ player.heap.itemlist pointer ∧ ¬ player.heap.takesPart game item count then
    if after.isTopParent pointer then
      (player.heap.cached game item).foldl removeBallFromCache after
    else after
  else after

/-! ## Loading -/

/-- A row of the saved inventory: an item that was made from it, its own number, and that of
its slot or of the row of its container. -/
structure Row where
  item : Nat
  sid : UInt32
  pid : UInt32

def Row.inSlot (row : Row) : Prop :=
  CONST_SLOT_FIRST ≤ row.pid.toNat ∧ row.pid.toNat ≤ CONST_SLOT_LAST

instance (row : Row) : Decidable row.inSlot := inferInstanceAs (Decidable (_ ∧ _))

/-- A turn of the loop over the inventory items in `IOLoginData::loadPlayer`. The player is on no
tile yet, so no container finds the player above. -/
def loadRow (rows : List Row) (player : Player) (row : Row) : Player :=
  let player :=
    if (player.heap.item row.item).isPokeballItem game then player.insertPokeball row.item
    else player
  if row.inSlot then player.internalAddThing row.pid.toNat row.item
  else
    match rows.find? fun other => other.sid = row.pid with
    | none => player
    | some above =>
      if player.heap.isContainer above.item then
        { player with heap := player.heap.internalAddThing game above.item row.item }
      else player

/-- The inventory items in `IOLoginData::loadPlayer`, from the rows by descending numbers. -/
def load (rows : List Row) : Player := rows.foldl (loadRow game rows) player

end Player

/-! ## Runs -/

/-- What is done to the slots and to the containers, whether they are worn or not. -/
inductive InventoryOp where
  | addThing (index : Int32) (item : Nat)
  | replaceThing (index : UInt32) (item : Nat)
  | removeThing (item : Nat) (count : UInt32)
  | containerAddThing (pointer : Nat) (index : Int32) (item : Nat)
  | containerAddItemBack (pointer item : Nat)
  | containerReplaceThing (pointer : Nat) (index : UInt32) (item : Nat)
  | containerRemoveThing (pointer item : Nat) (count : UInt32)
  | load (rows : List Player.Row)

/-- What is put into a slot lies nowhere, and is no depot. -/
structure Player.Spare (player : Player) (item : Nat) : Prop where
  loose : player.heap.parent item = none
  unworn : player.parented item = false
  plain : player.heap.skips item = false

/-- The rows of an inventory that was saved: by descending numbers, where a container has a lower
number than what is in it, with a new item for each. -/
structure Player.Saved (player : Player) (rows : List Player.Row) : Prop where
  descending : rows.Pairwise fun first second => second.sid < first.sid
  numbered : ∀ row ∈ rows, row.pid < row.sid
  distinct : (rows.map Player.Row.item).Nodup
  present : ∀ row ∈ rows, row.item ∈ player.heap.live
  spare : ∀ row ∈ rows, player.Spare row.item
  empty : ∀ row ∈ rows, player.heap.itemlist row.item = []

/-- The callers put an item into an empty slot, or into a container, that lies nowhere, and the
inventory is loaded for a player who has nothing yet. -/
def legal (player : Player) : InventoryOp → Prop
  | .addThing index item =>
    player.Spare item ∧ player.inventory index.toInt.toNat = none
  | .replaceThing _ item => player.Spare item
  | .removeThing _ _ => True
  | .containerAddThing pointer _ item | .containerAddItemBack pointer item
  | .containerReplaceThing pointer _ item =>
    player.heap.Fits pointer item ∧ player.parented item = false
  | .containerRemoveThing pointer _ _ =>
    player.heap.isContainer pointer ∧ pointer ∈ player.heap.live
  | .load rows =>
    player.Saved rows ∧ (∀ slot, player.inventory slot = none) ∧ player.pokeballs = []

/-- An item that has been replaced in a slot is left without a parent by the callers. -/
def step (game : Game) (player : Player) : InventoryOp → Player
  | .addThing index item => player.addThing index item
  | .replaceThing index item =>
    match player.getInventoryItem index.toNat with
    | some oldItem => (player.replaceThing index item).disown oldItem
    | none => player.replaceThing index item
  | .removeThing item count => player.removeThing game item count
  | .containerAddThing pointer index item => player.containerAddThing game pointer index item
  | .containerAddItemBack pointer item => player.containerAddItemBack game pointer item
  | .containerReplaceThing pointer index item =>
    player.containerReplaceThing game pointer index item
  | .containerRemoveThing pointer item count =>
    player.containerRemoveThing game pointer item count
  | .load rows => player.load game rows

def system (game : Game) : Foundation.System Player InventoryOp := ⟨legal, step game⟩

end Otserv.Inventories
