import Otserv.Inventories.Inventory

/-!
# Cylinders

A cylinder is what items lie in: a container, the slots of a player, or something that is not
looked into, a tile or another player. A container is asked through its top parent whether the
one who carries it can carry more, so what is above an item is followed up to the tile
(`getTopParent`).

One player is followed, who is on a tile. What scripts do, what is sent to clients, and what
notifications do besides bringing the weight of the inventory up to date are left out. Depot
lockers, which take nothing, and the containers through which players browse a tile are left out
too.
-/

namespace Otserv.Cylinders

open Containers (Heap Kind)
open Inventories (CONST_SLOT_FIRST CONST_SLOT_LAST)
open Items (Game Item)

/-- What may hold an item besides the player and containers. -/
inductive Outside where
  | tile | player
deriving DecidableEq

inductive Cylinder where
  | player
  | container (pointer : Nat)
  | outside (holder : Outside)
deriving DecidableEq

/-- The values of `ReturnValue` that are given for items. -/
inductive ReturnValue where
  | noError | notPossible | notEnoughRoom | notMoveable | dropTwoHandedItem
  | bothHandsNeedToBeFree | canOnlyUseOneWeapon | needExchange | cannotBeDressed
  | putThisObjectInYourHand | putThisObjectInBothHands | containerNotEnoughRoom
  | notEnoughCapacity | cannotPickup | thisIsImpossible | depotIsFull | canOnlyUseOneShield
deriving DecidableEq

/-- The bits of `cylinderflags_t` that are asked for items. -/
structure Flags where
  noLimit : Bool := false
  childIsOwner : Bool := false
  ignoreNotMoveable : Bool := false
  ignoreAutoStack : Bool := false
deriving DecidableEq

abbrev INDEX_WHEREEVER : Int32 := -1
abbrev MAX_ITEM_COUNT : UInt32 := 10000

/-- The items of the game with those of the player, who has a stack in a trade, and what carries
them limited: the capacity of the player, and the items that a depot may have. -/
structure World extends Inventories.Player where
  outside : Nat → Option Outside := fun _ => none
  maxDepotItems : Nat → UInt32 := fun _ => 1500
  tradeItem : Option Nat := none
  capacity : UInt32 := 0
  inventoryWeight : UInt32 := 0
  hasInfiniteCapacity : Bool := false
  cannotPickupItem : Bool := false
  toDecayItems : List Nat := []

inductive WeaponType where
  | none | sword | club | axe | shield | distance | wand | ammo
deriving DecidableEq

/-- What does not change meanwhile: the types of items, the configuration, and the answers of
scripts and of other players. -/
structure Rules where
  game : Game
  slotPosition : UInt16 → BitVec 16 := fun _ => 0
  weaponType : UInt16 → WeaponType := fun _ => .none
  classicEquipmentSlots : Bool := false
  /-- `MoveEvents::onPlayerEquip` as a question, of an item and a slot. -/
  onPlayerEquip : World → Nat → Int32 → Bool := fun _ _ _ => true
  /-- What another player says to an item that one of the containers takes. -/
  queryAddOwner : World → Nat → UInt32 → ReturnValue := fun _ _ _ => .noError

namespace World

variable (game : Game) (world : World)

/-! ## Items -/

variable (pointer : Nat)

def item : Item := world.heap.item pointer

def getItemCount : UInt32 := (world.item pointer).count.toUInt32

def isStackable : Bool := (world.item pointer).isStackable game

def isPickupable : Bool := (game.items (world.item pointer).id).isPickupable

def isContainer : Bool := world.heap.isContainer pointer

def itemlist : List Nat := world.heap.itemlist pointer

def kind : Kind := (world.heap.container pointer).elim .container (·.kind)

/-- An inbox is built locked. -/
def unlocked : Bool := world.kind pointer != .inbox

/-- `Item::equals`. An item equals itself, with custom attributes or not. -/
def equals (pointer other : Nat) : Bool :=
  pointer = other || (world.item pointer).equals (world.item other)

/-- A stack that an item can be put on. -/
def hasRoom (pointer item : Nat) : Bool :=
  world.equals pointer item && world.getItemCount pointer < MAX_ITEM_COUNT

def setItem (item : Item) : World :=
  { world with heap := world.heap.setItem pointer item }

/-! ## Parents -/

/-- The member `parent` of an item. -/
def parent (item : Nat) : Option Cylinder :=
  match world.heap.parent item with
  | some above => some (.container above)
  | none =>
    if world.parented item then some .player
    else (world.outside item).map .outside

/-- The virtual `getParent`, of a cylinder or of an item that is none. That of `DepotChest` and
`Inbox` asks the parent for its parent; the fuel bounds how often that goes on. -/
def getParentWithin : Nat → Cylinder → Option Cylinder
  | _, .player => some (.outside .tile)
  | _, .outside .player => some (.outside .tile)
  | _, .outside .tile => none
  | 0, .container _ => none
  | fuel + 1, .container pointer =>
    if world.heap.skips pointer then (world.parent pointer).bind (getParentWithin fuel)
    else world.parent pointer

/-- More than there can be cylinders above one another. -/
def height : Nat := world.heap.live.card + 2

variable (cylinder : Cylinder)

def getParent : Option Cylinder :=
  world.getParentWithin world.height cylinder

/-- The cylinders above one another, from the parent on. -/
def parentsWithin : Nat → Cylinder → List Cylinder
  | 0, _ => []
  | fuel + 1, cylinder =>
    match world.getParent cylinder with
    | some above => above :: parentsWithin fuel above
    | none => []

def parents : List Cylinder := world.parentsWithin world.height cylinder

/-- The loop of `Item::getTopParent`. -/
def topParentWithin : Nat → Option Cylinder → Cylinder → Cylinder
  | 0, prevaux, aux => prevaux.getD aux
  | fuel + 1, prevaux, aux =>
    match world.getParent aux with
    | some above => topParentWithin fuel (some aux) above
    | none => prevaux.getD aux

/-- `Item::getTopParent`. -/
def getTopParent (item : Nat) : Option Cylinder :=
  let prevaux := if world.isContainer item then some (.container item) else none
  match world.getParent (.container item) with
  | some aux => some (world.topParentWithin world.height prevaux aux)
  | none => prevaux

/-! ## Containers within containers -/

/-- `ContainerIterator`: what lies in the containers of a queue, which the containers found join
at its end. The fuel bounds their number. -/
def iterator : Nat → List Nat → List Nat
  | 0, _ => []
  | _, [] => []
  | fuel + 1, pointer :: rest =>
    world.itemlist pointer ++
      iterator fuel (rest ++ (world.itemlist pointer).filter world.isContainer)

/-- All that is inside a container. -/
def inside (pointer : Nat) : List Nat := world.iterator world.heap.live.card [pointer]

/-- `Container::getItemHoldingCount`. -/
def getItemHoldingCount (pointer : Nat) : UInt32 := .ofNat (world.inside pointer).length

/-! ## Weights -/

/-- `CONST_SLOT_FIRST` to `CONST_SLOT_LAST`. -/
def slots : List Nat := List.range' CONST_SLOT_FIRST CONST_SLOT_LAST

/-- `Player::getFreeCapacity`. -/
def getFreeCapacity : UInt32 :=
  if world.cannotPickupItem then 0
  else if world.hasInfiniteCapacity then 0xFFFFFFFF
  else (max 0 (world.capacity - world.inventoryWeight).toInt32).toUInt32

/-- `Player::hasCapacity`. -/
def hasCapacity (item : Nat) (count : UInt32) : Bool :=
  if world.cannotPickupItem then false
  else if world.hasInfiniteCapacity || world.getTopParent item = some .player then true
  else
    let itemWeight :=
      if world.isContainer item then world.heap.getWeight game item
      else (world.item item).getBaseWeight game
    let itemWeight := if world.isStackable game item then itemWeight * count else itemWeight
    itemWeight ≤ world.getFreeCapacity

/-- `Player::updateInventoryWeight`. -/
def updateInventoryWeight : World :=
  if world.hasInfiniteCapacity then world
  else
    { world with
      inventoryWeight := ((slots.filterMap world.inventory).map (world.heap.getWeight game)).sum }

/-- What `postAddNotification` and `postRemoveNotification` of a cylinder do to the weight of
the inventory. A depot chest and an inbox hand the notification to their parent. -/
def notify : World :=
  match cylinder with
  | .player => world.updateInventoryWeight game
  | .outside _ => world
  | .container _ =>
    match (cylinder :: world.parents cylinder).find? (fun above =>
        match above with
        | .container other => !world.heap.skips other
        | _ => true) with
    | some (.container other) =>
      if world.getTopParent other = some .player then world.updateInventoryWeight game
      else world
    | _ => world

end World

end Otserv.Cylinders
