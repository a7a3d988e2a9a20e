import Otserv.Cylinders.World

/-!
# What cylinders answer

Before an item is put anywhere, the cylinder is asked where exactly it should go
(`queryDestination`), whether it may (`queryAdd`) and how many of a stack (`queryMaxCount`).
A player goes through the slots and then through the containers, container by container in the
order in which they are met; a stack goes on another one of its kind if there is any.
-/

namespace Otserv.Cylinders

open Inventories (CONST_SLOT_FIRST CONST_SLOT_LAST)

abbrev CONST_SLOT_WHEREEVER : Nat := 0
abbrev CONST_SLOT_HEAD : Nat := 1
abbrev CONST_SLOT_NECKLACE : Nat := 2
abbrev CONST_SLOT_BACKPACK : Nat := 3
abbrev CONST_SLOT_ARMOR : Nat := 4
abbrev CONST_SLOT_RIGHT : Nat := 5
abbrev CONST_SLOT_LEFT : Nat := 6
abbrev CONST_SLOT_LEGS : Nat := 7
abbrev CONST_SLOT_FEET : Nat := 8
abbrev CONST_SLOT_RING : Nat := 9
abbrev CONST_SLOT_AMMO : Nat := 10
abbrev CONST_SLOT_ORDER : Nat := 11
abbrev CONST_SLOT_INFO : Nat := 12

abbrev SLOTP_HEAD : BitVec 16 := 1 <<< 0
abbrev SLOTP_NECKLACE : BitVec 16 := 1 <<< 1
abbrev SLOTP_BACKPACK : BitVec 16 := 1 <<< 2
abbrev SLOTP_ARMOR : BitVec 16 := 1 <<< 3
abbrev SLOTP_RIGHT : BitVec 16 := 1 <<< 4
abbrev SLOTP_LEFT : BitVec 16 := 1 <<< 5
abbrev SLOTP_LEGS : BitVec 16 := 1 <<< 6
abbrev SLOTP_FEET : BitVec 16 := 1 <<< 7
abbrev SLOTP_RING : BitVec 16 := 1 <<< 8
abbrev SLOTP_AMMO : BitVec 16 := 1 <<< 9
abbrev SLOTP_TWO_HAND : BitVec 16 := 1 <<< 11
abbrev SLOTP_ORDER : BitVec 16 := 1 <<< 12
abbrev SLOTP_INFO : BitVec 16 := 1 <<< 13

/-- Some bits of a mask are set. -/
def hasBits (position mask : BitVec 16) : Bool := position &&& mask != 0

namespace World

variable (rules : Rules) (world : World)

/-! ## Slots -/

variable (item : Nat)

def getSlotPosition : BitVec 16 := rules.slotPosition (world.item item).id

def getWeaponType : WeaponType := rules.weaponType (world.item item).id

/-- What `Player::queryAdd` says to an item whose slot is not the one asked for. -/
def misplaced : ReturnValue :=
  let slotPosition := world.getSlotPosition rules item
  if hasBits slotPosition (SLOTP_HEAD ||| SLOTP_NECKLACE ||| SLOTP_BACKPACK ||| SLOTP_ARMOR |||
      SLOTP_LEGS ||| SLOTP_FEET ||| SLOTP_ORDER ||| SLOTP_INFO ||| SLOTP_RING) then
    .cannotBeDressed
  else if hasBits slotPosition SLOTP_TWO_HAND then .putThisObjectInBothHands
  else if hasBits slotPosition (SLOTP_RIGHT ||| SLOTP_LEFT) then
    if !rules.classicEquipmentSlots then .cannotBeDressed else .putThisObjectInYourHand
  else .noError

variable (count : UInt32)

/-- Two items in the two hands, with classic equipment slots. -/
def besides (other : Nat) : ReturnValue :=
  let type := world.getWeaponType rules item
  let otherType := world.getWeaponType rules other
  if hasBits (world.getSlotPosition rules other) SLOTP_TWO_HAND then .dropTwoHandedItem
  else if item = other && count == world.getItemCount item then .noError
  else if otherType = .shield && type = .shield then .canOnlyUseOneShield
  else if otherType = .none || type = .none || otherType = .shield || otherType = .ammo ||
      type = .shield || type = .ammo then .noError
  else .canOnlyUseOneWeapon

/-- An item in one hand, with what is in the other, with classic equipment slots. -/
def classicHand (other : Option Nat) : ReturnValue :=
  if hasBits (world.getSlotPosition rules item) SLOTP_TWO_HAND then
    if other.any (· ≠ item) then .bothHandsNeedToBeFree else .noError
  else
    match other with
    | some other => world.besides rules item count other
    | none => .noError

def rightHand : ReturnValue :=
  let left := world.inventory CONST_SLOT_LEFT
  if rules.classicEquipmentSlots then world.classicHand rules item count left
  else if world.getWeaponType rules item ≠ .shield then .cannotBeDressed
  else if left.any fun leftItem =>
      hasBits (world.getSlotPosition rules leftItem ||| world.getSlotPosition rules item)
        SLOTP_TWO_HAND then .bothHandsNeedToBeFree
  else .noError

def leftHand : ReturnValue :=
  let right := world.inventory CONST_SLOT_RIGHT
  let type := world.getWeaponType rules item
  if rules.classicEquipmentSlots then world.classicHand rules item count right
  else if type = .none || type = .shield then .cannotBeDressed
  else if right.isSome && hasBits (world.getSlotPosition rules item) SLOTP_TWO_HAND then
    .bothHandsNeedToBeFree
  else .noError

variable (index : Int32)

/-- The slot that `Player::queryAdd` is asked for. -/
def slotAnswer (item : Nat) (count : UInt32) : ReturnValue :=
  let slotPosition := world.getSlotPosition rules item
  let dressed (mask : BitVec 16) : ReturnValue :=
    if hasBits slotPosition mask then .noError else world.misplaced rules item
  match index.toInt with
  | 1 => dressed SLOTP_HEAD
  | 2 => dressed SLOTP_NECKLACE
  | 3 => dressed SLOTP_BACKPACK
  | 4 => dressed SLOTP_ARMOR
  | 5 =>
    if hasBits slotPosition SLOTP_RIGHT then world.rightHand rules item count
    else world.misplaced rules item
  | 6 =>
    if hasBits slotPosition SLOTP_LEFT then world.leftHand rules item count
    else world.misplaced rules item
  | 7 => dressed SLOTP_LEGS
  | 8 => dressed SLOTP_FEET
  | 9 => dressed SLOTP_RING
  | 10 =>
    if hasBits slotPosition SLOTP_AMMO || rules.classicEquipmentSlots then .noError
    else world.misplaced rules item
  | 11 => dressed SLOTP_ORDER
  | 12 => dressed SLOTP_INFO
  | 0 | -1 => .notEnoughRoom
  | _ => .notPossible

/-- The top parent is a depot chest or a player. -/
def mayExchange : Bool :=
  match world.getTopParent item with
  | some .player | some (.outside .player) => true
  | some (.container pointer) => world.kind pointer = .depotChest
  | _ => false

/-- `Player::queryAdd`. -/
def playerQueryAdd (item : Nat) (count : UInt32) (flags : Flags) : ReturnValue :=
  if flags.childIsOwner then
    if flags.noLimit || world.hasCapacity rules.game item (world.getItemCount item) then .noError
    else .notEnoughCapacity
  else if !world.isPickupable rules.game item then .cannotPickup
  else
    let ret := world.slotAnswer rules index item count
    if ret ≠ .noError ∧ ret ≠ .notEnoughRoom then ret
    else if (world.getInventoryItem index.toInt.toNat).any fun inventoryItem =>
        !world.isStackable rules.game inventoryItem ||
          (world.item inventoryItem).id != (world.item item).id then
      if world.mayExchange item then .needExchange else .notEnoughRoom
    else if !world.hasCapacity rules.game item (world.getItemCount item) then .notEnoughCapacity
    else if !rules.onPlayerEquip world item index then .cannotBeDressed
    else ret

/-! ## Containers -/

/-- `DepotChest::queryAdd` finds the depot full. -/
def isDepotFull (chest item : Nat) (count : UInt32) : Bool :=
  let addCount : UInt32 :=
    if world.getTopParent item ≠ some (.container chest) then
      if world.isContainer item then world.getItemHoldingCount item + 1 else 1
    else if world.isStackable rules.game item && world.getItemCount item != count then 1
    else 0
  world.getItemHoldingCount chest + addCount > world.maxDepotItems chest

/-- `queryAdd` of a top parent, which is asked by a container below. -/
def queryAddOwner (top : Cylinder) (item : Nat) (count : UInt32) (flags : Flags) : ReturnValue :=
  match top with
  | .player =>
    world.playerQueryAdd rules INDEX_WHEREEVER item count { flags with childIsOwner := true }
  | .outside .player => rules.queryAddOwner world item count
  | .outside .tile => .noError
  | .container pointer =>
    match world.kind pointer with
    | .container => .noError
    | .depotChest =>
      if !flags.noLimit && world.isDepotFull rules pointer item count then .depotIsFull
      else .noError
    | .inbox =>
      if !flags.noLimit then .containerNotEnoughRoom
      else if item = pointer then .thisIsImpossible
      else if !world.isPickupable rules.game item then .cannotPickup
      else .noError

/-- The loop of `Container::queryAdd` over the cylinders above: the item must not be among
them, nor an inbox. -/
def hindered (pointer item : Nat) (flags : Flags) : Option ReturnValue :=
  (world.parents (.container pointer)).findSome? fun cylinder =>
    match cylinder with
    | .container above =>
      if above = item then some .thisIsImpossible
      else if !flags.noLimit && world.kind above == .inbox then some .containerNotEnoughRoom
      else none
    | _ => none

variable (pointer : Nat)

def size : UInt32 := .ofNat (world.itemlist pointer).length

def maxSize : UInt32 := world.heap.capacity pointer

/-- `Container::queryAdd`. -/
def plainQueryAdd (index : Int32) (item : Nat) (count : UInt32) (flags : Flags) : ReturnValue :=
  if flags.childIsOwner then .noError
  else if !world.unlocked pointer then .notPossible
  else if !world.isPickupable rules.game item then .cannotPickup
  else if item = pointer then .thisIsImpossible
  else
    match world.hindered pointer item flags with
    | some ret => ret
    | none =>
      if !flags.noLimit && index == INDEX_WHEREEVER && world.size pointer ≥ world.maxSize pointer
      then .containerNotEnoughRoom
      else
        match world.getTopParent pointer with
        | some top =>
          if top ≠ .container pointer then world.queryAddOwner rules top item count flags
          else .noError
        | none => .noError

/-- `queryAdd` of `Container`, `DepotChest` or `Inbox`. -/
def containerQueryAdd (index : Int32) (item : Nat) (count : UInt32) (flags : Flags) : ReturnValue :=
  match world.kind pointer with
  | .container => world.plainQueryAdd rules pointer index item count flags
  | .depotChest =>
    if !flags.noLimit && world.isDepotFull rules pointer item count then .depotIsFull
    else world.plainQueryAdd rules pointer index item count flags
  | .inbox =>
    if !flags.noLimit then .containerNotEnoughRoom
    else if item = pointer then .thisIsImpossible
    else if !world.isPickupable rules.game item then .cannotPickup
    else .noError

/-- `queryAdd`; what is outside is not asked. -/
def queryAdd (cylinder : Cylinder) (index : Int32) (item : Nat) (count : UInt32)
    (flags : Flags) : ReturnValue :=
  match cylinder with
  | .player => world.playerQueryAdd rules index item count flags
  | .container pointer => world.containerQueryAdd rules pointer index item count flags
  | .outside _ => .notPossible

/-- The number of slots that are free in a container. -/
def freeSlots : UInt32 :=
  (max 0 (world.maxSize pointer - world.size pointer).toInt32).toUInt32

/-- What still fits on a stack. -/
def remainder : UInt32 := MAX_ITEM_COUNT - world.getItemCount pointer

/-- `getItemByIndex`. -/
def getItemByIndex (pointer : Nat) (index : Int32) : Option Nat :=
  if index < 0 then none else (world.itemlist pointer)[index.toInt.toNat]?

/-- What fits on the stacks of a container that the item can be put on. -/
def stackRoom (index : Int32) (item : Nat) (flags : Flags) : UInt32 :=
  let room (slotIndex : Int32) (other : Nat) : UInt32 :=
    if world.containerQueryAdd rules pointer slotIndex item (world.remainder other) flags =
        .noError then world.remainder other
    else 0
  if index = INDEX_WHEREEVER then
    let others := (world.itemlist pointer).filter fun other =>
      other ≠ item && world.hasRoom other item
    (others.zipIdx.map fun (other, slotIndex) => room (.ofNat slotIndex) other).sum
  else
    match world.getItemByIndex pointer index with
    | some destItem =>
      if world.equals item destItem && world.getItemCount destItem < MAX_ITEM_COUNT then
        room index destItem
      else 0
    | none => 0

/-- `Container::queryMaxCount`. -/
def containerQueryMaxCount (index : Int32) (item : Nat) (count : UInt32)
    (flags : Flags) : ReturnValue × UInt32 :=
  if flags.noLimit then (.noError, max 1 count)
  else if world.isStackable rules.game item then
    let maxQueryCount :=
      world.freeSlots pointer * MAX_ITEM_COUNT + world.stackRoom rules pointer index item flags
    (if maxQueryCount < count then .containerNotEnoughRoom else .noError, maxQueryCount)
  else
    let maxQueryCount := world.freeSlots pointer
    (if maxQueryCount = 0 then .containerNotEnoughRoom else .noError, maxQueryCount)

/-- What of an item the slot and what is in it can take. -/
def slotMaxCount (slot item : Nat) (flags : Flags) : UInt32 :=
  match world.inventory slot with
  | some inventoryItem =>
    if world.isContainer inventoryItem then
      let containers := inventoryItem :: (world.inside inventoryItem).filter world.isContainer
      (containers.map fun container => (world.containerQueryMaxCount rules container
        INDEX_WHEREEVER item (world.getItemCount item) flags).2).sum
    else if world.isStackable rules.game inventoryItem && world.equals item inventoryItem &&
        world.getItemCount inventoryItem < MAX_ITEM_COUNT &&
        world.playerQueryAdd rules (.ofNat slot) item (world.remainder inventoryItem) flags =
          .noError then
      world.remainder inventoryItem
    else 0
  | none =>
    if world.playerQueryAdd rules (.ofNat slot) item (world.getItemCount item) flags = .noError
    then if world.isStackable rules.game item then MAX_ITEM_COUNT else 1
    else 0

/-- `Player::getThing`. -/
def getThing (index : Int32) : Option Nat := world.getInventoryItem index.toInt.toNat

/-- `Player::queryMaxCount`. The count of a slot that is not to be used stays as it is given,
which is 0. -/
def playerQueryMaxCount (item : Nat) (count : UInt32) (flags : Flags) : ReturnValue × UInt32 :=
  let enough (maxQueryCount : UInt32) : ReturnValue × UInt32 :=
    (if maxQueryCount < count then .notEnoughRoom else .noError, maxQueryCount)
  if index = INDEX_WHEREEVER then
    enough (slots.map fun slot => world.slotMaxCount rules slot item flags).sum
  else
    match world.getThing index with
    | some destItem =>
      if world.isStackable rules.game destItem && world.equals item destItem &&
          world.getItemCount destItem < MAX_ITEM_COUNT then
        enough (world.remainder destItem)
      else enough 0
    | none =>
      if world.playerQueryAdd rules index item count flags = .noError then
        (.noError, if world.isStackable rules.game item then MAX_ITEM_COUNT else 1)
      else enough 0

def queryMaxCount (cylinder : Cylinder) (index : Int32) (item : Nat) (count : UInt32)
    (flags : Flags) : ReturnValue × UInt32 :=
  match cylinder with
  | .player => world.playerQueryMaxCount rules index item count flags
  | .container pointer => world.containerQueryMaxCount rules pointer index item count flags
  | .outside _ => (.notPossible, 0)

/-! ## Destinations -/

/-- Where an item goes: a cylinder, an index in it, and the stack it is put on. -/
structure Destination where
  cylinder : Cylinder
  index : Int32
  destItem : Option Nat := none

/-- The end of `Container::queryDestination`, which looks for a stack to put the item on. -/
def stackDestination (index : Int32) (destItem : Option Nat) (item : Nat)
    (flags : Flags) : Destination :=
  let this : Cylinder := .container pointer
  if !flags.ignoreAutoStack && world.isStackable rules.game item &&
      world.parent item ≠ some this then
    if destItem.any fun other => world.equals other item && world.getItemCount other < 100 then
      { cylinder := this, index, destItem }
    else
      match (world.itemlist pointer).zipIdx.find? fun (listItem, _) =>
          listItem ≠ item && world.hasRoom listItem item with
      | some (listItem, n) => { cylinder := this, index := .ofNat n, destItem := some listItem }
      | none => { cylinder := this, index, destItem }
  else { cylinder := this, index, destItem }

/-- `Container::queryDestination`. -/
def containerQueryDestination (index : Int32) (item : Nat) (flags : Flags) : Destination :=
  let this : Cylinder := .container pointer
  if !world.unlocked pointer then { cylinder := this, index }
  else if index = 254 then
    match world.getParent this with
    | some (.container parentContainer) =>
      { cylinder := .container parentContainer, index := INDEX_WHEREEVER }
    | _ => { cylinder := this, index := INDEX_WHEREEVER }
  else
    let index := if index = 255 || index ≥ (world.maxSize pointer).toInt32 then INDEX_WHEREEVER
      else index
    let destItem := if index ≠ INDEX_WHEREEVER then world.getItemByIndex pointer index else none
    match destItem with
    | some other =>
      if world.isContainer other then { cylinder := .container other, index := INDEX_WHEREEVER }
      else world.stackDestination rules pointer index destItem item flags
    | none => world.stackDestination rules pointer index destItem item flags

/-- The loop of `Player::queryDestination` over the slots: a slot with the stack in it, or the
containers that are worn. -/
def scanSlots (item : Nat) (flags : Flags) (containers : List Nat) :
    List Nat → (Nat × Option Nat) ⊕ List Nat
  | [] => .inr containers
  | slot :: slots =>
    match world.inventory slot with
    | some inventoryItem =>
      if world.tradeItem = some inventoryItem then scanSlots item flags containers slots
      else if inventoryItem = item then scanSlots item flags containers slots
      else if !flags.ignoreAutoStack && world.isStackable rules.game item &&
          world.playerQueryAdd rules (.ofNat slot) item (world.getItemCount item) {} =
            .noError &&
          world.hasRoom inventoryItem item then .inl (slot, some inventoryItem)
      else if world.isContainer inventoryItem then
        scanSlots item flags (containers ++ [inventoryItem]) slots
      else scanSlots item flags containers slots
    | none =>
      if world.playerQueryAdd rules (.ofNat slot) item (world.getItemCount item) flags =
          .noError then .inl (slot, none)
      else scanSlots item flags containers slots

/-- The loop over the free slots of a container: the first of `n` that can be used. -/
def freeIndex (container item : Nat) (flags : Flags) : Nat → Option Int32
  | 0 => none
  | n + 1 =>
    let index := (world.maxSize container - .ofNat (n + 1)).toInt32
    if world.containerQueryAdd rules container index item (world.getItemCount item) flags =
        .noError then some index
    else freeIndex container item flags n

/-- A place in a container for an item that is put on a stack, or else in a free slot. -/
def stackPlace (container item : Nat) (flags : Flags) : Option (Int32 × Option Nat) :=
  let others := (world.itemlist container).filter fun tmpItem =>
    world.tradeItem ≠ some tmpItem ∧ tmpItem ≠ item
  match others.zipIdx.find? fun (tmpItem, _) => world.hasRoom tmpItem item with
  | some (tmpItem, n) => some (.ofNat n, some tmpItem)
  | none =>
    let n := others.length
    if .ofNat n < world.maxSize container &&
        world.containerQueryAdd rules container (.ofNat n) item (world.getItemCount item)
          flags = .noError then some (.ofNat n, none)
    else none

/-- A place in a container for an item, stacked or not. -/
def placeIn (container item : Nat) (flags : Flags) : Option (Int32 × Option Nat) :=
  if flags.ignoreAutoStack || !world.isStackable rules.game item then
    let n := (world.maxSize container - world.size container).toNat
    (world.freeIndex rules container item flags n).map fun index => (index, none)
  else world.stackPlace rules container item flags

/-- The containers in a container that are to be gone through, too. Among stacks the stack in
the trade and the item itself are passed over. -/
def subContainers (container item : Nat) (flags : Flags) : List Nat :=
  (world.itemlist container).filter fun tmpItem => world.isContainer tmpItem &&
    (flags.ignoreAutoStack || !world.isStackable rules.game item ||
      world.tradeItem ≠ some tmpItem && tmpItem ≠ item)

/-- The loop of `Player::queryDestination` over the containers. The fuel bounds their number. -/
def scanContainers (item : Nat) (flags : Flags) : Nat → List Nat → Option Destination
  | 0, _ => none
  | _, [] => none
  | fuel + 1, tmpContainer :: containers =>
    match world.placeIn rules tmpContainer item flags with
    | some (index, destItem) => some { cylinder := .container tmpContainer, index, destItem }
    | none =>
      scanContainers item flags fuel
        (containers ++ world.subContainers rules tmpContainer item flags)

/-- `Player::queryDestination`. -/
def playerQueryDestination (item : Nat) (flags : Flags) : Destination :=
  if index = 0 || index = INDEX_WHEREEVER then
    match world.scanSlots rules item flags [] slots with
    | .inl (slot, destItem) => { cylinder := .player, index := .ofNat slot, destItem }
    | .inr containers =>
      (world.scanContainers rules item flags (world.heap.live.card + 1) containers).getD
        { cylinder := .player, index }
  else
    match world.getThing index with
    | some destThing =>
      if world.isContainer destThing then
        { cylinder := .container destThing, index := INDEX_WHEREEVER }
      else { cylinder := .player, index, destItem := some destThing }
    | none => { cylinder := .player, index }

def queryDestination (cylinder : Cylinder) (index : Int32) (item : Nat) (flags : Flags) :
    Destination :=
  match cylinder with
  | .player => world.playerQueryDestination rules index item flags
  | .container pointer => world.containerQueryDestination rules pointer index item flags
  | .outside _ => { cylinder, index }

end World

end Otserv.Cylinders
