import Otserv.Cylinders.Queries

/-!
# Adding an item

`Game::internalAddItem` puts an item that lies nowhere into a cylinder. A stack may go on another
stack; what is left of it then is a clone, which is added anew, and when that is refused the
caller is told how many are left.

Whether the item could be added without adding it is not asked here. Released items stay, in
nothing.
-/

namespace Otserv.Cylinders

open Items (Game Item)

namespace World

variable (game : Game) (world : World)

/-! ## Changing what is in a cylinder -/

def setItemCount (pointer : Nat) (count : UInt16) : World :=
  world.setItem pointer ((world.item pointer).setItemCount count)

/-- `getThingIndex`, as far as it is not -1. -/
def hasThing (cylinder : Cylinder) (item : Nat) : Bool :=
  match cylinder with
  | .player => (world.getThingIndex item).isSome
  | .container pointer => item ∈ world.itemlist pointer
  | .outside _ => false

/-- `updateThing`. -/
def updateThing (cylinder : Cylinder) (item : Nat) (itemId : UInt16) (count : UInt32) : World :=
  match cylinder with
  | .player =>
    if world.hasThing .player item then
      world.setItem item (((world.item item).setID game itemId).setSubType game count.toUInt16)
    else world
  | .container pointer =>
    { world with heap := world.heap.updateThing game pointer item itemId count }
  | .outside _ => world

/-- `addThing`; nothing is added to what is outside. -/
def addThing (cylinder : Cylinder) (index : Int32) (item : Nat) : World :=
  match cylinder with
  | .player => { world with toPlayer := world.toPlayer.addThing index item }
  | .container pointer =>
    { world with toPlayer := world.toPlayer.containerAddThing game pointer index item }
  | .outside _ => world

/-! ## New items -/

/-- The next address. -/
def next : Nat := world.heap.live.sup id + 1

/-- An item that is no container comes to exist, in nothing. -/
def allocate (item : Item) : World :=
  let pointer := world.next
  let heap := world.heap
  { world with
    heap :=
      { live := insert pointer heap.live
        item := Function.update heap.item pointer item
        parent := Function.update heap.parent pointer none
        container := Function.update heap.container pointer none }
    parented := Function.update world.parented pointer false
    outside := Function.update world.outside pointer none }

/-- The item is marked as decaying and waits to be put in the decay queue. -/
def pushToDecay (pointer : Nat) : World :=
  { world.setItem pointer ((world.item pointer).setDecaying .decaying) with
    toDecayItems := pointer :: world.toDecayItems }

/-- `Item::clone`, of an item that is no container. An item without attributes has no list of
them. -/
def clone (pointer : Nat) : World × Option Nat :=
  let item := world.item pointer
  match item.copied game true with
  | some copy =>
    let cloned := world.allocate copy
    if !item.attributeless && copy.getDuration > 0 then
      (cloned.pushToDecay world.next, some world.next)
    else (cloned, some world.next)
  | none => (world, none)

end World

/-! ## Adding -/

/-- What comes of one item: it is refused, it is in the cylinder, or some of it is left over as
another item. -/
inductive Outcome where
  | refused (ret : ReturnValue)
  | placed (world : World)
  | left (world : World) (remainderItem : Nat) (count : UInt32)

namespace World

variable (rules : Rules) (world : World)

/-- The item goes into a cylinder of its own, and the cylinder is told. -/
def put (destination : Destination) (item : Nat) : World :=
  let world := world.addThing rules.game destination.cylinder destination.index item
  if world.hasThing destination.cylinder item then world.notify rules.game destination.cylinder
  else world

/-- The item goes on a stack, or as many of it as fit there. -/
def stack (destination : Destination) (item toItem : Nat) (maxQueryCount : UInt32) : Outcome :=
  let m := min (world.getItemCount item) maxQueryCount
  let n := min (world.remainder toItem) m
  let merged := world.updateThing rules.game destination.cylinder toItem (world.item toItem).id
    (world.getItemCount toItem + n)
  let count := m - n
  if count > 0 then
    if world.getItemCount item ≠ count then
      match merged.clone rules.game item with
      | (world, some remainderItem) =>
        .left (world.setItemCount remainderItem count.toUInt16) remainderItem count
      | (world, none) => .placed world
    else .placed (merged.put rules destination item)
  else if merged.hasThing destination.cylinder toItem then
    .placed (merged.notify rules.game destination.cylinder)
  else .placed merged

variable (destCylinder : Cylinder) (item : Nat)

/-- `Game::internalAddItem` up to where it calls itself for what is left over. -/
def addItem (index : Int32) (flags : Flags) : Outcome :=
  let destination := world.queryDestination rules destCylinder index item flags
  let ret := world.queryAdd rules destination.cylinder destination.index item
    (world.getItemCount item) flags
  if ret ≠ .noError then .refused ret
  else
    let (ret, maxQueryCount) := world.queryMaxCount rules destCylinder INDEX_WHEREEVER item
      (world.getItemCount item) flags
    if ret ≠ .noError then .refused ret
    else
      match destination.destItem.filter fun toItem =>
          world.isStackable rules.game item && world.equals item toItem with
      | some toItem => world.stack rules destination item toItem maxQueryCount
      | none => .placed (world.put rules destination item)

/-- An item with a duration starts to decay. -/
def startDecay : World :=
  if (world.item item).getDuration > 0 then world.pushToDecay item else world

/-- `Game::internalAddItem`: what it returns, and the remainder it reports. Each item that is
left over has a lower count, which is what the fuel is for. -/
def internalAddItemWithin (rules : Rules) (destCylinder : Cylinder) (flags : Flags) :
    Nat → World → Nat → Int32 → World × ReturnValue × UInt32
  | 0, world, _, _ => (world, .notPossible, 0)
  | fuel + 1, world, item, index =>
    match world.addItem rules destCylinder item index flags with
    | .refused ret => (world, ret, 0)
    | .placed world => (world.startDecay item, .noError, 0)
    | .left world remainderItem count =>
      match internalAddItemWithin rules destCylinder flags fuel world remainderItem
          INDEX_WHEREEVER with
      | (world, .noError, _) => (world.startDecay item, .noError, 0)
      | (world, _, _) => (world.startDecay item, .noError, count)

def internalAddItem (index : Int32) (flags : Flags) : World × ReturnValue × UInt32 :=
  internalAddItemWithin rules destCylinder flags ((world.getItemCount item).toNat + 1) world item
    index

end World

end Otserv.Cylinders
