import Otserv.Houses.House

/-!
# Deliveries

A mailbox sends the parcels and letters that are put on its tile, and a house that is given to
somebody else sends what its owner had in it: to the inbox of a player who is in the game, or else
to that of a temporary player, whose record is loaded before and saved behind it.

An item has a number of its own, which stays with it when it is cloned to be moved, loaded or saved.
An inbox is saved and loaded as it is; what else there is in a record, the decay of items, unique
ids, and the creatures and beds in the house are left out.
-/

namespace Otserv.Deliveries

open Houses (Text)

abbrev ITEM_PARCEL : Nat := 2595
abbrev ITEM_LETTER : Nat := 2597
abbrev ITEM_LABEL : Nat := 2599

structure ItemType where
  isContainer : Bool := false
  isPickupable : Bool := false
  isMoveable : Bool := false
  isStackable : Bool := false

inductive Item where
  | mk (number id count : Nat) (text : Text) (itemlist : List Item)

namespace Item

def number : Item → Nat | ⟨number, _, _, _, _⟩ => number
def id : Item → Nat | ⟨_, id, _, _, _⟩ => id
def count : Item → Nat | ⟨_, _, count, _, _⟩ => count
def itemlist : Item → List Item | ⟨_, _, _, _, itemlist⟩ => itemlist

/-- The item with another id, of a type that is like that of the first. -/
def setID (newId : Nat) : Item → Item
  | ⟨number, _, count, text, itemlist⟩ => ⟨number, newId, count, text, itemlist⟩

@[simp] theorem number_setID (newId : Nat) (item : Item) :
    (item.setID newId).number = item.number := by
  cases item
  rfl

end Item

section Types

variable (types : Nat → ItemType)

/-! ## The receiver -/

def getFirstLine (text : Text) : Text := text.takeWhile (· != '\n')

mutual

/-- `Mailbox::getReceiver`. -/
def getReceiver : Item → Option Text
  | ⟨_, id, _, text, itemlist⟩ =>
    if (types id).isContainer then getLabelled itemlist
    else if text = [] then none
    else some (Houses.AccessList.trim ' ' (getFirstLine text))

/-- The loop of `Mailbox::getReceiver` over the items in a container. -/
def getLabelled : List Item → Option Text
  | [] => none
  | item :: items =>
    if item.id = ITEM_LABEL then
      match getReceiver item with
      | some name => some name
      | none => getLabelled items
    else getLabelled items

end

/-- `Mailbox::canSend`. -/
def canSend (item : Item) : Prop := item.id = ITEM_PARCEL ∨ item.id = ITEM_LETTER

/-! ## Moving -/

/-- What an item is in: a tile, or a container on a tile of a house. -/
inductive Cylinder where
  | tile (tile : Nat)
  | container

/-- What the item is taken from, and the inbox it goes into. -/
structure Transfer where
  tiles : Nat → List Item
  inbox : List Item

namespace Transfer

variable (transfer : Transfer)

/-- `Tile::queryRemove` and `Container::queryRemove`, of the whole item. -/
def queryRemove (cylinder : Cylinder) (item : Item) : Bool :=
  match cylinder with
  | .tile tile =>
    (transfer.tiles tile).any (fun other => other.number = item.number) &&
      !((types item.id).isStackable && item.count = 0) && (types item.id).isMoveable
  -- the house tile is asked too, and does not have what is in the container
  | .container => false

def removeThing (cylinder : Cylinder) (item : Item) : Nat → List Item :=
  match cylinder with
  | .tile tile =>
    Function.update transfer.tiles tile
      ((transfer.tiles tile).eraseP fun other => other.number = item.number)
  | .container => transfer.tiles

/-- `Game::internalMoveItem` of the whole item to an inbox, with `FLAG_NOLIMIT`. -/
def internalMoveItem (cylinder : Cylinder) (item : Item) : Option Transfer :=
  if (types item.id).isPickupable && transfer.queryRemove types cylinder item then
    some
      { tiles := transfer.removeThing cylinder item
        inbox := item :: transfer.inbox }
  else none

/-- `Game::transformItem` of the item that was moved to the inbox. What is stackable was cloned for
it, and the item itself is nowhere any more. -/
def transformItem (item : Item) (newId : Nat) : Transfer :=
  if (types item.id).isStackable then transfer
  else
    { transfer with
      inbox := transfer.inbox.map fun other =>
        if other.number = item.number then other.setID newId else other }

/-- The loop of `House::transferToDepot`. -/
def moveItems (moveItemList : List (Cylinder × Item)) : Transfer :=
  moveItemList.foldl
    (fun transfer entry => (transfer.internalMoveItem types entry.1 entry.2).getD transfer) transfer

end Transfer

end Types

/-! ## The server -/

/-- What `IOLoginData::savePlayer` meets. -/
inductive SaveAnswer where
  /-- Whether the record is to be saved is not known. -/
  | unread
  /-- The record is not to be saved, but for the last login. -/
  | excluded (executed : Bool)
  /-- A query of the transaction fails, or all are executed. -/
  | written (executed : Bool)
deriving DecidableEq

structure Answers where
  /-- Whether the record is loaded. -/
  loaded : Bool
  /-- Whether the rows of the inbox are. -/
  inboxLoaded : Bool
  save : SaveAnswer

structure Server where
  types : Nat → ItemType
  tiles : Nat → List Item
  house : Houses.House := {}
  houseTiles : List Nat := []
  /-- The inboxes of the players in the game. -/
  inboxes : Nat → Option (List Item) := fun _ => none
  /-- The inboxes in the records that there are. -/
  records : Nat → Option (List Item) := fun _ => none
  guidByName : Text → Option Nat := fun _ => none

namespace Server

variable (server : Server)

def loadPlayer (answers : Answers) (guid : Nat) : Option (List Item) :=
  if answers.loaded then
    (server.records guid).map fun saved => if answers.inboxLoaded then saved else []
  else none

def savePlayer (answer : SaveAnswer) (guid : Nat) (inbox : List Item) : Bool × Server :=
  match answer with
  | .unread => (false, server)
  | .excluded executed => (executed, server)
  | .written false => (false, server)
  | .written true =>
    (true, { server with records := Function.update server.records guid (some inbox) })

/-- What was moved to the inbox of a player in the game. -/
def setInbox (guid : Nat) (transfer : Transfer) : Server :=
  { server with
    tiles := transfer.tiles
    inboxes := Function.update server.inboxes guid (some transfer.inbox) }

/-- `Mailbox::sendItem`. -/
def sendItem (answers : Answers) (tile : Nat) (item : Item) : Bool × Server :=
  match getReceiver server.types item with
  | none => (false, server)
  | some receiver =>
    if receiver = [] then (false, server)
    else
      match server.guidByName receiver with
      | none => (false, server)
      | some guid =>
        match server.inboxes guid with
        | some inbox =>
          let transfer : Transfer := ⟨server.tiles, inbox⟩
          match transfer.internalMoveItem server.types (.tile tile) item with
          | some moved =>
            (true, server.setInbox guid
              (moved.transformItem server.types item (item.id + 1)))
          | none => (false, server)
        | none =>
          match server.loadPlayer answers guid with
          | none => (false, server)
          | some inbox =>
            let transfer : Transfer := ⟨server.tiles, inbox⟩
            match transfer.internalMoveItem server.types (.tile tile) item with
            | some moved =>
              let moved := moved.transformItem server.types item (item.id + 1)
              let server := { server with tiles := moved.tiles }
              (true, (server.savePlayer answers.save guid moved.inbox).2)
            | none => (false, server)

/-- The items that `House::transferToDepot` is to move. -/
def moveItemList : List (Cylinder × Item) :=
  server.houseTiles.flatMap fun tile =>
    (server.tiles tile).flatMap fun item =>
      if (server.types item.id).isPickupable then [(.tile tile, item)]
      else if (server.types item.id).isContainer then
        item.itemlist.map fun containerItem => (.container, containerItem)
      else []

/-- `House::transferToDepot` to an inbox. -/
def emptyInto (inbox : List Item) : Transfer :=
  (⟨server.tiles, inbox⟩ : Transfer).moveItems server.types server.moveItemList

/-- `House::transferToDepot`. -/
def transferToDepot (answers : Answers) (owner : Nat) : Bool × Server :=
  match server.inboxes owner with
  | some inbox => (true, server.setInbox owner (server.emptyInto inbox))
  | none =>
    match server.loadPlayer answers owner with
    | none => (false, server)
    | some inbox =>
      let transfer := server.emptyInto inbox
      let server := { server with tiles := transfer.tiles }
      (true, (server.savePlayer answers.save owner transfer.inbox).2)

/-- `House::setOwner`, with the player in the game, if any, that it is called with. -/
def setOwner (answers : Answers) (lookup : Houses.Lookup) (guid : Nat) (player : Option Nat) :
    Server :=
  if server.house.isLoaded ∧ server.house.owner = guid then server
  else
    let house := server.house.setOwner lookup guid
    if server.house.owner ≠ 0 then
      { (server.transferToDepot answers (player.getD server.house.owner)).2 with house := house }
    else { server with house := house }

/-- Where a player's items come to: the inbox, or that in the record. -/
def inboxOf (guid : Nat) : List Item :=
  (server.inboxes guid).getD ((server.records guid).getD [])

end Server

inductive DeliveryOp where
  | sendItem (answers : Answers) (tile : Nat) (item : Item)
  | setOwner (answers : Answers) (lookup : Houses.Lookup) (guid : Nat) (player : Option Nat)

namespace DeliveryOp

def apply (server : Server) : DeliveryOp → Server
  | sendItem answers tile item => (server.sendItem answers tile item).2
  | setOwner answers lookup guid player => server.setOwner answers lookup guid player

end DeliveryOp

end Otserv.Deliveries
