import Otserv.Foundation.Numerals

/-!
# The rows of a player's items

`IOLoginData::saveItems` writes a row for each item of a player: first those in the slots, then
what the containers hold, container by container in the order in which they were met. A row has
a number of its own and that of its slot or of its container. `loadPlayer` makes the items anew
and hangs each into its slot or into its container, from the highest number to the lowest.

What a row says of an item besides is not looked into: it is told apart only whether the item
made from it is a container. The numbers of rows are far from the end of their 32 bits. The
weights and pokeballs of containers, and what equipping an item does, are left out.
-/

namespace Otserv.ItemSaves

def CONST_SLOT_FIRST : Nat := 1
def CONST_SLOT_LAST : Nat := 12

variable {Plain Pack : Type}

/-- An item with what is written of it. A container has what it holds. -/
inductive Item (Plain Pack : Type) where
  | plain (data : Plain)
  | container (data : Pack) (itemlist : List (Item Plain Pack))

def Item.data : Item Plain Pack → Plain ⊕ Pack
  | .plain data => .inl data
  | .container data _ => .inr data

/-- What is in the item: nothing if it is no container. -/
def Item.itemlist : Item Plain Pack → List (Item Plain Pack)
  | .plain _ => []
  | .container _ itemlist => itemlist

structure Row (Plain Pack : Type) where
  pid : Nat
  sid : Nat
  data : Plain ⊕ Pack

/-! ## Saving -/

/-- The state of `saveItems`: the last number, the containers that are to be written with their
numbers, and the rows so far. -/
structure Saving (Plain Pack : Type) where
  runningId : Nat := 100
  queue : List (List (Item Plain Pack) × Nat) := []
  rows : List (Row Plain Pack) := []

/-- The body of both loops: an item of a slot or a container is written. -/
def Saving.saveItem (saving : Saving Plain Pack) (pid : Nat) (item : Item Plain Pack) :
    Saving Plain Pack :=
  let runningId := saving.runningId + 1
  { runningId
    queue :=
      match item with
      | .container _ itemlist => saving.queue ++ [(itemlist, runningId)]
      | .plain _ => saving.queue
    rows := saving.rows ++ [⟨pid, runningId, item.data⟩] }

/-- The loop over the queue, of at most so many containers. -/
def Saving.saveQueue : Nat → Saving Plain Pack → Saving Plain Pack
  | 0, saving => saving
  | fuel + 1, saving =>
    match saving.queue with
    | [] => saving
    | (itemlist, parentId) :: queue =>
      saveQueue fuel
        (itemlist.foldl (fun saving item => saving.saveItem parentId item)
          { saving with queue })

mutual

/-- The items in an item, itself among them. -/
def Item.size : Item Plain Pack → Nat
  | .plain _ => 1
  | .container _ itemlist => sizeAll itemlist + 1

def sizeAll : List (Item Plain Pack) → Nat
  | [] => 0
  | item :: items => item.size + sizeAll items

end

/-- `IOLoginData::saveItems`: there are no more containers than items. -/
def saveItems (itemList : List (Nat × Item Plain Pack)) : List (Row Plain Pack) :=
  let saving := itemList.foldl (fun (saving : Saving Plain Pack) entry =>
    saving.saveItem entry.1 entry.2) {}
  (saving.saveQueue (sizeAll (itemList.map (·.2)))).rows

/-! ## Loading -/

/-- `itemMap[sid] = pair`, in a map that is sorted by its keys. -/
def insertRow (row : Row Plain Pack) : List (Row Plain Pack) → List (Row Plain Pack)
  | [] => [row]
  | other :: rows =>
    if row.sid < other.sid then row :: other :: rows
    else if row.sid = other.sid then row :: rows
    else other :: insertRow row rows

/-- `IOLoginData::loadItems`. -/
def loadItems (result : List (Row Plain Pack)) : List (Row Plain Pack) :=
  result.foldl (fun itemMap row => insertRow row itemMap) []

/-- The slots of a player and what the containers hold. An item is known by the number of the
row it was made from. -/
structure Loading where
  inventory : Nat → Option Nat := fun _ => none
  itemlist : Nat → List Nat := fun _ => []

variable (loading : Loading)

/-- `Player::internalAddThing`. -/
def Loading.equip (index item : Nat) : Loading :=
  match loading.inventory index with
  | some _ => loading
  | none => { loading with inventory := Function.update loading.inventory index (some item) }

/-- `Container::internalAddThing`. -/
def Loading.internalAddThing (container item : Nat) : Loading :=
  { loading with
    itemlist := Function.update loading.itemlist container (item :: loading.itemlist container) }

/-- The body of the loop over the inventory items in `loadPlayer`. -/
def loadRow (itemMap : List (Row Plain Pack)) (loading : Loading) (row : Row Plain Pack) :
    Loading :=
  if CONST_SLOT_FIRST ≤ row.pid ∧ row.pid ≤ CONST_SLOT_LAST then loading.equip row.pid row.sid
  else
    match itemMap.find? fun other => other.sid = row.pid with
    | none => loading
    | some above =>
      match above.data with
      | .inl _ => loading
      | .inr _ => loading.internalAddThing above.sid row.sid

/-- The inventory items in `loadPlayer`, from the highest key of the map to the lowest. -/
def loadPlayer (result : List (Row Plain Pack)) : Loading :=
  let itemMap := loadItems result
  itemMap.reverse.foldl (loadRow itemMap) {}

/-! ## What is loaded -/

variable (rows : List (Row Plain Pack))

/-- What was made from the row with a number. -/
def dataOf (sid : Nat) : Option (Plain ⊕ Pack) :=
  (rows.find? fun row => row.sid = sid).map Row.data

mutual

/-- The loaded item is the saved one, with the same items in it in the same order. -/
def Holds (data : Nat → Option (Plain ⊕ Pack)) (itemlist : Nat → List Nat) :
    Nat → Item Plain Pack → Prop
  | sid, .plain own => data sid = some (.inl own) ∧ itemlist sid = []
  | sid, .container own items => data sid = some (.inr own) ∧
      HoldsAll data itemlist (itemlist sid) items

def HoldsAll (data : Nat → Option (Plain ⊕ Pack)) (itemlist : Nat → List Nat) :
    List Nat → List (Item Plain Pack) → Prop
  | [], [] => True
  | sid :: sids, item :: items => Holds data itemlist sid item ∧ HoldsAll data itemlist sids items
  | _, _ => False

end

/-- What hangs anywhere: in the slots, and in what was made from the rows. -/
def Loading.hung : List Nat :=
  (List.range' CONST_SLOT_FIRST CONST_SLOT_LAST).filterMap loading.inventory ++
    rows.flatMap fun row => loading.itemlist row.sid

/-- The items come back: each slot has its item again, the other slots are empty, and every
item hangs in one place. -/
structure Restored (itemList : List (Nat × Item Plain Pack)) (rows : List (Row Plain Pack))
    (loading : Loading) : Prop where
  worn : ∀ entry ∈ itemList, ∃ sid, loading.inventory entry.1 = some sid ∧
    Holds (dataOf rows) loading.itemlist sid entry.2
  bare : ∀ slot, slot ∉ itemList.map (·.1) → loading.inventory slot = none
  once : (loading.hung rows).Perm (rows.map Row.sid)

end Otserv.ItemSaves
