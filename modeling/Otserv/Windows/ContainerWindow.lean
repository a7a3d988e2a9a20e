import Otserv.Foundation.Pages
import Otserv.Foundation.Runs

/-!
# Container windows

A player may have a container open in several windows, each of which shows a page of it. Every
change of the container is told to each window by a message with one slot and one item at most,
from which the client finds out what it shows now.

An item is what the client is shown of it, so that an item that changes is another one. A slot of
a message has two bytes, and so has the end of a page where it is computed as one; a page message
has 255 items at most.
-/

namespace Otserv.Windows

open Foundation

variable {Item : Type}

def uint16 (value : Nat) : Nat := value % 65536

structure Container (Item : Type) where
  capacity : Nat
  /-- Its id is `ITEM_BROWSEFIELD`. -/
  browseField : Bool
  itemlist : List Item

/-- An entry of `openContainers`, with what the client shows in the window. -/
structure Window (Item : Type) where
  cid : Nat
  index : Nat
  shown : List Item

namespace Container

variable (container : Container Item)

def size : Nat := container.itemlist.length

def getItemByIndex (index : Nat) : Option Item := container.itemlist[index]?

end Container

/-! ## What a client does -/

namespace Window

variable (window : Window Item)

def onContainer (items : List Item) : Window Item := { window with shown := items }

/-- A slot before the page is its front. -/
def onAddItem (capacity slot : Nat) (item : Item) : Window Item :=
  { window with shown := (window.shown.insertIdx (slot - window.index) item).take capacity }

def onUpdateItem (slot : Nat) (item : Item) : Window Item :=
  { window with shown := window.shown.set (slot - window.index) item }

def onRemoveItem (slot : Nat) (lastItem : Option Item) : Window Item :=
  { window with shown := window.shown.eraseIdx (slot - window.index) ++ lastItem.toList }

end Window

/-! ## What a player sends -/

namespace Container

variable (container : Container Item) (window : Window Item)

def sendContainer : Window Item :=
  window.onContainer ((container.itemlist.drop window.index).take
    (min (min container.capacity (container.size - window.index)) 255))

variable (slot : Nat)

/-- No message can be made of no item. -/
def addItemTo : Option Item → Window Item
  | none => window
  | some item => window.onAddItem container.capacity slot item

/-- The item is a variable that the loop over the windows goes on with. -/
def sendAddContainerItem : Option Item → List (Window Item) → List (Window Item)
  | _, [] => []
  | item, window :: rest =>
    if container.browseField then
      let containerSize := uint16 (container.size - 1)
      let pageEnd := uint16 (window.index + container.capacity - 1)
      if pageEnd < containerSize then
        let item := container.getItemByIndex pageEnd
        container.addItemTo window pageEnd item :: sendAddContainerItem item rest
      else
        container.addItemTo window containerSize item :: sendAddContainerItem item rest
    else if container.capacity ≤ window.index then
      let item := container.getItemByIndex (window.index - 1)
      container.addItemTo window window.index item :: sendAddContainerItem item rest
    else
      container.addItemTo window window.index item :: sendAddContainerItem item rest

def sendUpdateContainerItem (newItem : Item) (window : Window Item) : Window Item :=
  if slot < window.index then window
  else if uint16 (window.index + container.capacity) ≤ slot then window
  else window.onUpdateItem slot newItem

def sendRemoveContainerItem (window : Window Item) : Window Item :=
  let window :=
    if 0 < window.index ∧ container.size - 1 ≤ window.index then
      container.sendContainer { window with index := window.index - container.capacity }
    else window
  window.onRemoveItem (max slot window.index)
    (container.getItemByIndex (container.capacity + window.index))

end Container

/-! ## A container and the windows of a player -/

structure View (Item : Type) where
  container : Container Item
  /-- In the order of their ids. -/
  openContainers : List (Window Item) := []

namespace View

variable (view : View Item)

/-- `Player::addContainer`, and the page is sent. -/
def addContainer (cid : Nat) : View Item :=
  let opened := view.container.sendContainer { cid := cid, index := 0, shown := [] }
  { view with
    openContainers :=
      view.openContainers.takeWhile (fun window => window.cid < cid) ++
        opened :: view.openContainers.filter fun window => cid < window.cid }

/-- `Player::closeContainer`, or another container in the window. -/
def closeContainer (cid : Nat) : View Item :=
  { view with openContainers := view.openContainers.filter fun window => window.cid ≠ cid }

def onSendContainer : View Item :=
  { view with openContainers := view.openContainers.map view.container.sendContainer }

/-- `Game::playerSeekInContainer`. -/
def seekInContainer (cid index : Nat) : View Item :=
  if index % view.container.capacity ≠ 0 ∨ view.container.size ≤ index then view
  else
    { view with
      openContainers := view.openContainers.map fun window =>
        if window.cid = cid then view.container.sendContainer { window with index := index }
        else window }

def onAddContainerItem (item : Item) (itemlist : List Item) : View Item :=
  let container := { view.container with itemlist := itemlist }
  ⟨container, container.sendAddContainerItem (some item) view.openContainers⟩

def addThing (index : Int) (item : Item) : View Item :=
  if (view.container.capacity : Int) ≤ index then view
  else view.onAddContainerItem item (item :: view.container.itemlist)

def addItemBack (item : Item) : View Item :=
  view.onAddContainerItem item (view.container.itemlist ++ [item])

variable (index : Nat)

def onUpdateContainerItem (newItem : Item) : View Item :=
  let container :=
    { view.container with itemlist := view.container.itemlist.set index newItem }
  ⟨container, view.openContainers.map (container.sendUpdateContainerItem (uint16 index) newItem)⟩

/-- The item at `index` changes; one that is not in the container does not. -/
def updateThing (changed : Item) : View Item :=
  if index < view.container.size then view.onUpdateContainerItem index changed else view

def replaceThing (item : Item) : View Item :=
  match view.container.getItemByIndex index with
  | none => view
  | some _ => view.onUpdateContainerItem index item

/-- `left`: the item at `index`, if it is a stack of which only a part is removed. -/
def removeThing (left : Option Item) : View Item :=
  if index < view.container.size then
    match left with
    | some left => view.onUpdateContainerItem index left
    | none =>
      ⟨{ view.container with itemlist := view.container.itemlist.eraseIdx index },
        view.openContainers.map (view.container.sendRemoveContainerItem (uint16 index))⟩
  else view

end View

inductive ViewOp (Item : Type) where
  | addContainer (cid : Nat)
  | closeContainer (cid : Nat)
  | onSendContainer
  | seekInContainer (cid index : Nat)
  | addThing (index : Int) (item : Item)
  | addItemBack (item : Item)
  | updateThing (index : Nat) (changed : Item)
  | replaceThing (index : Nat) (item : Item)
  | removeThing (index : Nat) (left : Option Item)

def views (Item : Type) : System (View Item) (ViewOp Item) where
  legal _ _ := True
  step view
    | .addContainer cid => view.addContainer cid
    | .closeContainer cid => view.closeContainer cid
    | .onSendContainer => view.onSendContainer
    | .seekInContainer cid index => view.seekInContainer cid index
    | .addThing index item => view.addThing index item
    | .addItemBack item => view.addItemBack item
    | .updateThing index changed => view.updateThing index changed
    | .replaceThing index item => view.replaceThing index item
    | .removeThing index left => view.removeThing index left

end Otserv.Windows
