import Otserv.Decay.DecayingItems
import Otserv.Foundation.Forests
import Otserv.Foundation.Runs

/-!
# Containers

Items lie in containers, which are items themselves. The items of the game are a heap:
under each pointer an item, the container it lies in, and for a container what its class
adds to that. Every container keeps the weight of what lies in it and a list of pokeballs.

Only parents that are containers are kept: a tile, a slot of a player and nothing at all
are the same to the functions here. Tiles and players stand in no container, so what
`getParentContainer` finds through them is nothing. Of the lists of pokeballs those of the
players are left out, and so is what is sent to clients. Things are items throughout.
-/

namespace Otserv.Items.Item

/-- `Item::getBaseWeight`. -/
def getBaseWeight (game : Game) (item : Item) : UInt32 :=
  if item.hasAttribute .weight then .ofInt (item.getIntAttr .weight)
  else (game.items item.id).weight

def isStackable (game : Game) (item : Item) : Bool := (game.items item.id).stackable

/-- `Item::getWeight`. -/
def getWeight (game : Game) (item : Item) : UInt32 :=
  let weight := item.getBaseWeight game
  if item.isStackable game then weight * max 1 item.count.toUInt32
  else weight

def isPokeballItem (game : Game) (item : Item) : Bool := (game.items item.id).isPokeballItem

end Otserv.Items.Item

namespace Otserv.Containers

open Foundation
open Function (update update_of_ne update_self)
open Items (Game Item)

/-- The classes of containers. `DepotChest` and `Inbox` have a `getParent` of their own. -/
inductive Kind where
  | container | depotChest | inbox
deriving DecidableEq

/-- What `Container` adds to `Item`. -/
structure Container where
  kind : Kind := .container
  maxSize : UInt32
  itemlist : List Nat := []
  totalWeight : UInt32 := 0
  pokeballs : List Nat := []
deriving DecidableEq

structure Heap where
  live : Finset Nat
  item : Nat → Item
  parent : Nat → Option Nat
  container : Nat → Option Container

namespace Heap

variable (heap : Heap) (pointer : Nat)

def isContainer : Bool := (heap.container pointer).isSome

def capacity : UInt32 := (heap.container pointer).elim 0 Container.maxSize

def itemlist : List Nat := (heap.container pointer).elim [] Container.itemlist

def totalWeight : UInt32 :=
  (heap.container pointer).elim 0 Container.totalWeight

/-- `getPokeballsCached`. -/
def pokeballs : List Nat := (heap.container pointer).elim [] Container.pokeballs

/-- The class has a `getParent` that skips the parent. -/
def skips (pointer : Nat) : Bool :=
  (heap.container pointer).elim false fun it => it.kind = .depotChest || it.kind = .inbox

/-! ## Setters -/

def setItem (item : Item) : Heap :=
  { heap with item := update heap.item pointer item }

def setParent (above : Option Nat) : Heap :=
  { heap with parent := update heap.parent pointer above }

/-- Changes the members of a container. -/
def modify (change : Container → Container) : Heap :=
  { heap with
    container := update heap.container pointer ((heap.container pointer).map change) }

def setItemlist (list : List Nat) : Heap :=
  heap.modify pointer fun it => { it with itemlist := list }

def setTotalWeight (weight : UInt32) : Heap :=
  heap.modify pointer fun it => { it with totalWeight := weight }

def setPokeballs (list : List Nat) : Heap :=
  heap.modify pointer fun it => { it with pokeballs := list }

section Fields

variable {heap : Heap} {pointer : Nat} {change : Container → Container}

@[simp] theorem item_setItem_self (item : Item) : (heap.setItem pointer item).item pointer = item :=
  update_self _ _ _

theorem item_setItem_of_ne {other : Nat} (here : other ≠ pointer) (item : Item) :
    (heap.setItem pointer item).item other = heap.item other :=
  update_of_ne here _ _

theorem container_modify_self :
    (heap.modify pointer change).container pointer = (heap.container pointer).map change :=
  update_self _ _ _

theorem container_modify_of_ne {other : Nat} (here : other ≠ pointer) :
    (heap.modify pointer change).container other = heap.container other :=
  update_of_ne here _ _

theorem modify_modify (second : Container → Container) :
    (heap.modify pointer change).modify pointer second = heap.modify pointer (second ∘ change) := by
  simp only [modify, update_self, Function.update_idem, Option.map_map]

theorem modify_eq_self (same : ∀ it ∈ heap.container pointer, change it = it) :
    heap.modify pointer change = heap := by
  have kept : (heap.container pointer).map change = heap.container pointer := by
    cases isIt : heap.container pointer with
    | none => rfl
    | some it => exact congrArg some (same it isIt)
  rw [modify, kept, Function.update_eq_self]

theorem elim_modify {Value : Type} (default : Value) {view : Container → Value}
    (same : ∀ it, view (change it) = view it) (other : Nat) :
    ((heap.modify pointer change).container other).elim default view =
      (heap.container other).elim default view := by
  by_cases here : other = pointer
  · subst here
    rw [container_modify_self]
    cases heap.container other with
    | none => rfl
    | some it => exact same it
  · rw [container_modify_of_ne here]

theorem elim_modify_self {Value : Type} (default : Value) {view : Container → Value} {value : Value}
    (container : heap.isContainer pointer) (gets : ∀ it, view (change it) = value) :
    (fun other => ((heap.modify pointer change).container other).elim default view) =
      update (fun other => (heap.container other).elim default view) pointer value := by
  funext other
  by_cases here : other = pointer
  · subst here
    obtain ⟨it, isIt⟩ := Option.isSome_iff_exists.mp container
    rw [container_modify_self, update_self, isIt]
    exact gets it
  · rw [container_modify_of_ne here, update_of_ne here]

@[simp] theorem isContainer_modify : (heap.modify pointer change).isContainer = heap.isContainer := by
  funext other
  by_cases here : other = pointer
  · rw [here, isContainer, isContainer, container_modify_self, Option.isSome_map]
  · rw [isContainer, isContainer, container_modify_of_ne here]

variable {list : List Nat} {weight : UInt32}

@[simp] theorem isContainer_setItemlist :
    (heap.setItemlist pointer list).isContainer = heap.isContainer := isContainer_modify

@[simp] theorem isContainer_setTotalWeight :
    (heap.setTotalWeight pointer weight).isContainer = heap.isContainer := isContainer_modify

@[simp] theorem isContainer_setPokeballs :
    (heap.setPokeballs pointer list).isContainer = heap.isContainer := isContainer_modify

@[simp] theorem skips_setItemlist : (heap.setItemlist pointer list).skips = heap.skips :=
  funext (elim_modify false fun _ => rfl)

@[simp] theorem skips_setTotalWeight : (heap.setTotalWeight pointer weight).skips = heap.skips :=
  funext (elim_modify false fun _ => rfl)

@[simp] theorem skips_setPokeballs : (heap.setPokeballs pointer list).skips = heap.skips :=
  funext (elim_modify false fun _ => rfl)

@[simp] theorem itemlist_setTotalWeight :
    (heap.setTotalWeight pointer weight).itemlist = heap.itemlist :=
  funext (elim_modify [] fun _ => rfl)

@[simp] theorem itemlist_setPokeballs : (heap.setPokeballs pointer list).itemlist = heap.itemlist :=
  funext (elim_modify [] fun _ => rfl)

@[simp] theorem totalWeight_setItemlist :
    (heap.setItemlist pointer list).totalWeight = heap.totalWeight :=
  funext (elim_modify 0 fun _ => rfl)

@[simp] theorem totalWeight_setPokeballs :
    (heap.setPokeballs pointer list).totalWeight = heap.totalWeight :=
  funext (elim_modify 0 fun _ => rfl)

@[simp] theorem pokeballs_setItemlist : (heap.setItemlist pointer list).pokeballs = heap.pokeballs :=
  funext (elim_modify [] fun _ => rfl)

@[simp] theorem pokeballs_setTotalWeight :
    (heap.setTotalWeight pointer weight).pokeballs = heap.pokeballs :=
  funext (elim_modify [] fun _ => rfl)

theorem itemlist_setItemlist (container : heap.isContainer pointer) :
    (heap.setItemlist pointer list).itemlist = update heap.itemlist pointer list :=
  elim_modify_self [] container fun _ => rfl

theorem totalWeight_setTotalWeight (container : heap.isContainer pointer) :
    (heap.setTotalWeight pointer weight).totalWeight =
      update heap.totalWeight pointer weight :=
  elim_modify_self 0 container fun _ => rfl

theorem pokeballs_setPokeballs (container : heap.isContainer pointer) :
    (heap.setPokeballs pointer list).pokeballs = update heap.pokeballs pointer list :=
  elim_modify_self [] container fun _ => rfl

end Fields

/-! ## Weights -/

/-- `getWeight`, of `Container` or of `Item`. -/
def getWeight (game : Game) (pointer : Nat) : UInt32 :=
  match heap.container pointer with
  | some it => (heap.item pointer).getWeight game + it.totalWeight
  | none => (heap.item pointer).getWeight game

/-- The virtual `getParent`, as far as it is a container. That of `DepotChest` and `Inbox`
asks the parent for its parent; the fuel bounds how often that goes on. -/
def getParentWithin : Nat → Nat → Option Nat
  | 0, _ => none
  | fuel + 1, pointer =>
    if heap.skips pointer then (heap.parent pointer).bind (getParentWithin fuel)
    else heap.parent pointer

/-- `Container::getParentContainer`. There are not more containers above one another than
items. -/
def getParentContainer (pointer : Nat) : Option Nat :=
  heap.getParentWithin heap.live.card pointer

/-- `Container::updateItemWeight`, with fuel for the containers above. -/
def updateItemWeightWithin (heap : Heap) : Nat → Nat → Int32 → Heap
  | 0, _, _ => heap
  | fuel + 1, pointer, diff =>
    let heap := heap.setTotalWeight pointer (heap.totalWeight pointer + diff.toUInt32)
    match heap.getParentContainer pointer with
    | some parentContainer => updateItemWeightWithin heap fuel parentContainer diff
    | none => heap

def updateItemWeight (diff : Int32) : Heap :=
  heap.updateItemWeightWithin heap.live.card pointer diff

/-! ## Pokeballs -/

def insertPokeball (pointer pokeball : Nat) : Heap :=
  heap.setPokeballs pointer (heap.pokeballs pointer ++ [pokeball])

def removeBallFromCache (pointer pokeball : Nat) : Heap :=
  heap.setPokeballs pointer ((heap.pokeballs pointer).erase pokeball)

variable (game : Game) (item : Nat)

/-- A pokeball, or else the pokeballs of a container. -/
def cached : List Nat :=
  if (heap.item item).isPokeballItem game then [item] else heap.pokeballs item

/-- Inserts the pokeballs that an item brings. -/
def insertCached (pointer item : Nat) : Heap :=
  (heap.cached game item).foldl (fun heap pokeball => heap.insertPokeball pointer pokeball) heap

/-- Removes the pokeballs that an item takes along. -/
def removeCached (pointer item : Nat) : Heap :=
  (heap.cached game item).foldl
    (fun heap pokeball => heap.removeBallFromCache pointer pokeball) heap

/-! ## Operations -/

/-- `Container::internalAddThing`. -/
def internalAddThing (game : Game) (pointer item : Nat) : Heap :=
  let heap := heap.setParent item (some pointer)
  let heap := heap.setItemlist pointer (item :: heap.itemlist pointer)
  let heap := heap.updateItemWeight pointer (heap.getWeight game item).toInt32
  heap.insertCached game pointer item

/-- `Container::addThing`, which goes on as `internalAddThing` does. -/
def addThing (game : Game) (pointer : Nat) (index : Int32) (item : Nat) : Heap :=
  if index ≥ (heap.capacity pointer).toInt32 then heap
  else heap.internalAddThing game pointer item

/-- `Container::addItem`. -/
def addItem (pointer item : Nat) : Heap :=
  (heap.setItemlist pointer (heap.itemlist pointer ++ [item])).setParent item (some pointer)

/-- `Container::addItemBack`. -/
def addItemBack (game : Game) (pointer item : Nat) : Heap :=
  let heap := heap.addItem pointer item
  heap.updateItemWeight pointer (heap.getWeight game item).toInt32

/-- `Container::updateThing`. -/
def updateThing (game : Game) (pointer item : Nat) (itemId : UInt16) (count : UInt32) : Heap :=
  if item ∈ heap.itemlist pointer then
    let oldWeight := (heap.getWeight game item).toInt32
    let changed := (heap.item item).setID game itemId
    let heap := heap.setItem item (changed.setSubType game count.toUInt16)
    heap.updateItemWeight pointer ((-oldWeight).toUInt32 + heap.getWeight game item).toInt32
  else heap

/-- `Container::replaceThing`. -/
def replaceThing (game : Game) (pointer : Nat) (index : UInt32) (item : Nat) : Heap :=
  match (heap.itemlist pointer)[index.toNat]? with
  | some replacedItem =>
    let heap := heap.setItemlist pointer ((heap.itemlist pointer).set index.toNat item)
    let heap := heap.setParent item (some pointer)
    let heap := heap.updateItemWeight pointer
      ((-(heap.getWeight game replacedItem).toInt32).toUInt32 + heap.getWeight game item).toInt32
    heap.setParent replacedItem none
  | none => heap

/-- Less than the whole stack is taken. -/
def takesPart (count : UInt32) : Bool :=
  (heap.item item).isStackable game && count != (heap.item item).count.toUInt32

/-- What is left of a stack. -/
def newCount (count : UInt32) : UInt16 :=
  (max 0 ((heap.item item).count.toUInt32 - count).toInt32).toUInt32.toUInt16

/-- `Container::removeThing`. -/
def removeThing (game : Game) (pointer item : Nat) (count : UInt32) : Heap :=
  if item ∈ heap.itemlist pointer then
    if heap.takesPart game item count then
      let oldWeight := (heap.getWeight game item).toInt32
      let heap := heap.setItem item ((heap.item item).setItemCount (heap.newCount item count))
      heap.updateItemWeight pointer ((-oldWeight).toUInt32 + heap.getWeight game item).toInt32
    else
      let heap := heap.updateItemWeight pointer (-(heap.getWeight game item).toInt32)
      let heap := heap.setParent item none
      let heap := heap.setItemlist pointer ((heap.itemlist pointer).erase item)
      heap.removeCached game pointer item
  else heap

end Heap

end Otserv.Containers
