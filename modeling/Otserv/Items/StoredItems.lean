import Otserv.Foundation.Runs
import Otserv.Items.Attributes
import Otserv.Decay.DecayingItems

/-!
# Items in memory

An item has a list of attributes in memory, or none yet. Items are created, their attributes are
set and removed, and items are copied, each with what it owns at addresses of its own: what is
allocated at the same time lies at different addresses (`Allocated`). `Item::equals` compares two
items by their masks and the unions of their attributes.
-/

namespace Otserv.Items

open Otserv.Foundation

/-- An item with its attributes as they lie in memory. -/
structure StoredItem where
  id : UInt16
  count : UInt16 := 1
  attributes : Option ItemAttributes := none

namespace StoredItem

/-- `getAttributes`, which allocates the list if there is none. -/
def getAttributes (item : StoredItem) : ItemAttributes := item.attributes.getD {}

variable (places : Places) (grows : Bool) (item : StoredItem) (type : AttrType)

def setIntAttr (value : Int64) : StoredItem :=
  { item with attributes := some (item.getAttributes.setIntAttr places grows type value) }

def increaseIntAttr (value : Int64) : StoredItem :=
  { item with attributes := some (item.getAttributes.increaseIntAttr places grows type value) }

def setStrAttr (value : List UInt8) : StoredItem :=
  { item with attributes := some (item.getAttributes.setStrAttr places grows type value) }

def removeAttribute : StoredItem :=
  { item with attributes := item.attributes.map (·.removeAttribute places type) }

def setCustomAttribute (key : List UInt8) (value : CustomAttribute) : StoredItem :=
  { item with attributes := some (item.getAttributes.setCustomAttribute places grows key value) }

def removeCustomAttribute (key : List UInt8) : StoredItem :=
  { item with attributes := item.attributes.map (·.removeCustomAttribute key) }

/-! ## Creation -/

variable (n : UInt16)

def setItemCount : StoredItem := { item with count := n }

def setCharges : StoredItem :=
  item.setIntAttr places grows (.int .charges) n.toUInt64.toInt64

def setFluidType : StoredItem :=
  item.setIntAttr places grows (.int .fluidType) n.toUInt64.toInt64

def setDuration (time : Int32) : StoredItem :=
  item.setIntAttr places grows (.int .duration) time.toInt64

variable (game : Game)

def setDefaultDuration (item : StoredItem) : StoredItem :=
  let duration := (game.items item.id).decayTime * 1000
  if duration ≠ 0 then item.setDuration places grows duration.toInt32 else item

/-- The constructor `Item::Item`. -/
def new (type count : UInt16) : StoredItem :=
  let it := game.items type
  let item : StoredItem := { id := type }
  setDefaultDuration places grows game <|
    if it.isFluidContainer || it.isSplash then item.setFluidType places grows count
    else if it.stackable then
      if count ≠ 0 then item.setItemCount count
      else if it.charges ≠ 0 then item.setItemCount it.charges.toUInt16
      else item
    else if it.charges ≠ 0 then
      if count ≠ 0 then item.setCharges places grows count
      else item.setCharges places grows it.charges.toUInt16
    else item

/-- What `Item::CreateItem` gives to the constructor, and whether it builds a bed. -/
def constructed (type count : UInt16) : Option (UInt16 × UInt16 × Bool) :=
  let it := game.items type
  if it.group = .deprecated then none
  else
    let count := if it.stackable && count == 0 then 1 else count
    if it.id ≠ 0 then
      some <|
        if it.isDepot then (type, 0, false)
        else if it.isContainer then (type, 0, false)
        else if it.isTeleport then (type, 0, false)
        else if it.isMagicField then (type, 0, false)
        else if it.isDoor then (type, 0, false)
        else if it.isTrashHolder then (type, 0, false)
        else if it.isMailbox then (type, 0, false)
        else if it.isBed then (type, 0, true)
        else if it.id ≥ 2210 ∧ it.id ≤ 2212 then (type - 3, count, false)
        else if it.id = 2215 ∨ it.id = 2216 then (type - 2, count, false)
        else if it.id ≥ 2202 ∧ it.id ≤ 2206 then (type - 37, count, false)
        else if it.id = 2640 then (6132, count, false)
        else if it.id = 6301 then (6300, count, false)
        else if it.id = 18528 then (18408, count, false)
        else (type, count, false)
    else none

/-- `Item::CreateItem`. The constructor of a bed describes it. -/
def createItem (type count : UInt16) : Option StoredItem :=
  (constructed game type count).map fun (id, n, bed) =>
    let item := new places grows game id n
    if bed then item.setStrAttr places grows (.str .description) Item.nobodySleeping else item

/-! ## Copies -/

/-- The copy constructor. -/
def copy (item : StoredItem) : StoredItem :=
  { item with attributes := item.attributes.map (·.copy places) }

def getDuration : UInt32 :=
  match item.attributes with
  | none => 0
  | some attributes => (attributes.getIntAttr (.int .duration)).toUInt64.toUInt32

def setDecaying (state : DecayState) : StoredItem :=
  item.setIntAttr places grows (.int .decayState) state.value.toUInt64.toInt64

/-- `Item::clone`, up to the list of items that decay. -/
def clone (game : Game) (item : StoredItem) : Option StoredItem :=
  (createItem places grows game item.id item.count).map fun created =>
    match item.attributes with
    | none => created
    | some attributes =>
      let created := { created with attributes := some (attributes.copy places) }
      if created.getDuration > 0 then created.setDecaying places grows .decaying else created

/-! ## Equality -/

/-- The values of two attributes of a type: texts are compared, and else the unions are read as
numbers. -/
def sameValue (value other : AttrValue) : Bool :=
  if type.isStrAttrType then value.deref = other.deref else value.asInteger = other.asInteger

/-- `Item::equals`. -/
def equals (item otherItem : StoredItem) : Bool :=
  if item.id ≠ otherItem.id then false
  else
    match item.attributes, otherItem.attributes with
    | none, none => true
    | none, some otherAttributes => otherAttributes.attributeBits = 0
    | some attributes, none => attributes.attributeBits = 0
    | some attributes, some otherAttributes =>
      if attributes.attributeBits ≠ otherAttributes.attributeBits then false
      else attributes.attributes.all fun attr =>
        otherAttributes.attributes.all fun otherAttr =>
          !(attr.type = otherAttr.type && !sameValue attr.type attr.value otherAttr.value)

end StoredItem

/-! ## Memory -/

/-- The items at their pointers. -/
abbrev Memory := Nat → Option StoredItem

/-- An attribute of the item at the pointer owns what lies at the address. -/
def Owns (memory : Memory) (pointer : Nat) (type : AttrType) (address : UInt64) : Prop :=
  ∃ item, memory pointer = some item ∧ ∃ attr ∈ item.getAttributes.attributes,
    attr.type = type ∧ attr.value.address? = some address

/-- What is allocated at the same time lies at different addresses. -/
def Allocated (memory : Memory) : Prop :=
  ∀ p q type other address, Owns memory p type address → Owns memory q other address →
    p = q ∧ type = other

inductive ItemOp where
  | createItem (pointer : Nat) (type count : UInt16)
  | setIntAttr (pointer : Nat) (type : AttrType) (value : Int64)
  | increaseIntAttr (pointer : Nat) (type : AttrType) (value : Int64)
  | setStrAttr (pointer : Nat) (type : AttrType) (value : List UInt8)
  | removeAttribute (pointer : Nat) (type : AttrType)
  | setCustomAttribute (pointer : Nat) (key : List UInt8) (value : CustomAttribute)
  | removeCustomAttribute (pointer : Nat) (key : List UInt8)
  | copy (original pointer : Nat)
  | clone (original pointer : Nat)

/-- An operation, with the addresses of what it allocates, and whether the vector has to grow. -/
structure ItemStep where
  op : ItemOp
  places : Places
  grows : Bool

namespace ItemStep

/-- The pointer to the item that is made or changed. -/
def pointer (step : ItemStep) : Nat :=
  match step.op with
  | .createItem pointer _ _ => pointer
  | .setIntAttr pointer _ _ => pointer
  | .increaseIntAttr pointer _ _ => pointer
  | .setStrAttr pointer _ _ => pointer
  | .removeAttribute pointer _ => pointer
  | .setCustomAttribute pointer _ _ => pointer
  | .removeCustomAttribute pointer _ => pointer
  | .copy _ pointer => pointer
  | .clone _ pointer => pointer

/-- The item that is made or that the item is changed to. -/
def result (game : Game) (memory : Memory) (step : ItemStep) : Option StoredItem :=
  match step.op with
  | .createItem _ type count => StoredItem.createItem step.places step.grows game type count
  | .setIntAttr pointer type value =>
    (memory pointer).map (·.setIntAttr step.places step.grows type value)
  | .increaseIntAttr pointer type value =>
    (memory pointer).map (·.increaseIntAttr step.places step.grows type value)
  | .setStrAttr pointer type value =>
    (memory pointer).map (·.setStrAttr step.places step.grows type value)
  | .removeAttribute pointer type => (memory pointer).map (·.removeAttribute step.places type)
  | .setCustomAttribute pointer key value =>
    (memory pointer).map (·.setCustomAttribute step.places step.grows key value)
  | .removeCustomAttribute pointer key => (memory pointer).map (·.removeCustomAttribute key)
  | .copy original _ => (memory original).map (·.copy step.places)
  | .clone original _ => (memory original).bind (·.clone step.places step.grows game)

/-- The operation makes another item. -/
def Makes (step : ItemStep) : Prop :=
  match step.op with
  | .createItem _ _ _ => True
  | .copy _ _ => True
  | .clone _ _ => True
  | _ => False

end ItemStep

/-- The memory in which items are made and changed. A new item comes to a free pointer. -/
def memories (game : Game) : System Memory ItemStep where
  step memory step := Function.update memory step.pointer (step.result game memory)
  legal memory step :=
    (step.Makes → memory step.pointer = none) ∧ (step.result game memory).isSome ∧
      Allocated (Function.update memory step.pointer (step.result game memory))

end Otserv.Items
