import Otserv.Deliveries.Delivery

/-!
# Where delivered items are

After a delivery each item should be once where it was, or once in the receiver's inbox: that of the
player in the game, or else that in the record (`Whole`).

What was moved into the inbox of the temporary player is in the record only when the record is saved
behind it, and it is not looked at whether it is. All else comes to good: what is refused stays
where it was, and so does everything when the record cannot be loaded. So deliveries are whole
exactly when a record that was loaded for items that go is saved (`deliveries_whole_iff`).
-/

namespace Otserv.Deliveries

open Function (update update_of_ne update_self)

/-- The items of the number among some. -/
def copies (number : Nat) (items : List Item) : List Item :=
  items.filter fun item => item.number = number

/-- The item lies on the tile, and nowhere else. -/
structure Lies (tiles : Nat → List Item) (tile : Nat) (item : Item) : Prop where
  once : copies item.number (tiles tile) = [item]
  nowhere : ∀ other ≠ tile, copies item.number (tiles other) = []

/-- Whether the item can be removed from where it is and goes into an inbox. -/
def goes (types : Nat → ItemType) : Cylinder × Item → Bool
  | (.tile _, item) =>
    (types item.id).isPickupable &&
      (!((types item.id).isStackable && item.count = 0) && (types item.id).isMoveable)
  | (.container, _) => false

namespace DeliveryOp

variable (server : Server)

/-- The player whom the items are for, if there is one. -/
def receiver : DeliveryOp → Option Nat
  | sendItem _ _ item =>
    (getReceiver server.types item).bind fun name =>
      if name = [] then none else server.guidByName name
  | setOwner _ _ guid player =>
    if server.house.isLoaded ∧ server.house.owner = guid then none
    else if server.house.owner ≠ 0 then some (player.getD server.house.owner)
    else none

/-- What an item is once it is sent: a letter or parcel gets stamped. -/
def sent (item : Item) : DeliveryOp → Item
  | sendItem .. => if (server.types item.id).isStackable then item else item.setID (item.id + 1)
  | setOwner .. => item

def answers : DeliveryOp → Answers
  | sendItem answers _ _ | setOwner answers _ _ _ => answers

/-- The items that are to be moved. -/
def moveItemList : DeliveryOp → List (Cylinder × Item)
  | sendItem _ tile item => [(.tile tile, item)]
  | setOwner .. => server.moveItemList

/-- A letter or parcel is on the tile of the mailbox. A player that the house is left by is in the
game. Each item has a number of its own. -/
structure Legal (op : DeliveryOp) : Prop where
  letter : ∀ answers tile item, op = sendItem answers tile item →
    canSend item ∧ item ∈ server.tiles tile
  leaver : ∀ answers lookup guid player, op = setOwner answers lookup guid (some player) →
    (server.inboxes player).isSome
  placed : ∀ tile, ∀ item ∈ server.tiles tile, Lies server.tiles tile item
  fresh : ∀ tile, ∀ item ∈ server.tiles tile, ∀ guid,
    ∀ inbox, server.inboxes guid = some inbox ∨
        server.inboxes guid = none ∧ server.records guid = some inbox →
      copies item.number inbox = []

end DeliveryOp

/-- The item is once where it was, or once in the receiver's inbox. -/
def Held (before : Server) (op : DeliveryOp) (after : Server) (item : Item) : Prop :=
  ((∀ tile, copies item.number (after.tiles tile) = copies item.number (before.tiles tile)) ∧
      ∀ guid, copies item.number (after.inboxOf guid) = []) ∨
    ∃ guid, op.receiver before = some guid ∧
      (∀ tile, copies item.number (after.tiles tile) = []) ∧
      copies item.number (after.inboxOf guid) = [op.sent before item] ∧
      ∀ other ≠ guid, copies item.number (after.inboxOf other) = []

/-- Each item is held. -/
def Whole (before : Server) (op : DeliveryOp) (after : Server) : Prop :=
  ∀ tile, ∀ item ∈ before.tiles tile, Held before op after item

/-- The record of a receiver that is loaded for items that go is saved behind them. -/
def Stored (server : Server) (op : DeliveryOp) : Prop :=
  ∀ guid, op.receiver server = some guid → server.inboxes guid = none →
    (server.loadPlayer op.answers guid).isSome →
      (∃ entry ∈ op.moveItemList server, goes server.types entry) →
        op.answers.save = .written true

/-! ## Copies -/

section Copies

variable {number : Nat} {item : Item} {items : List Item}

theorem copies_cons (number : Nat) (item : Item) (items : List Item) :
    copies number (item :: items) =
      if item.number = number then item :: copies number items else copies number items := by
  by_cases same : item.number = number
  · rw [if_pos same]
    exact List.filter_cons_of_pos (by simpa using same)
  · rw [if_neg same]
    exact List.filter_cons_of_neg (by simpa using same)

theorem mem_copies {other : Item} :
    other ∈ copies number items ↔ other ∈ items ∧ other.number = number := by
  rw [copies, List.mem_filter, decide_eq_true_iff]

theorem copies_eraseP_ne {gone : Nat} (apart : gone ≠ number) (items : List Item) :
    copies number (items.eraseP fun other => other.number = gone) = copies number items := by
  induction items with
  | nil => rfl
  | cons first rest ih =>
    by_cases isGone : first.number = gone
    · rw [List.eraseP_cons_of_pos (by simpa using isGone), copies_cons,
        if_neg fun same => apart (isGone.symm.trans same)]
    · rw [List.eraseP_cons_of_neg (by simpa using isGone), copies_cons, copies_cons, ih]

theorem copies_eraseP_self (once : copies item.number items = [item]) :
    copies item.number (items.eraseP fun other => other.number = item.number) = [] := by
  induction items with
  | nil => cases once
  | cons first rest ih =>
    rw [copies_cons] at once
    by_cases same : first.number = item.number
    · rw [if_pos same] at once
      rw [List.eraseP_cons_of_pos (by simpa using same)]
      exact (List.cons.inj once).2
    · rw [if_neg same] at once
      rw [List.eraseP_cons_of_neg (by simpa using same), copies_cons, if_neg same]
      exact ih once

theorem copies_map {change : Item → Item} (keeps : ∀ item, (change item).number = item.number)
    (items : List Item) : copies number (items.map change) = (copies number items).map change := by
  rw [copies, List.filter_map]
  congr 2
  funext item
  exact congrArg (fun other => decide (other = number)) (keeps item)

end Copies

namespace Lies

variable {tiles : Nat → List Item} {tile : Nat} {item : Item}

theorem mem (lies : Lies tiles tile item) : item ∈ tiles tile :=
  (mem_copies.mp (lies.once ▸ List.mem_singleton_self item)).1

theorem eq_of_number (lies : Lies tiles tile item) {other : Item} {place : Nat}
    (there : other ∈ tiles place) (same : other.number = item.number) :
    place = tile ∧ other = item := by
  have copy : other ∈ copies item.number (tiles place) := mem_copies.mpr ⟨there, same⟩
  by_cases here : place = tile
  · subst here
    rw [lies.once, List.mem_singleton] at copy
    exact ⟨rfl, copy⟩
  · rw [lies.nowhere place here] at copy
    cases copy

end Lies

/-! ## Moving -/

namespace Transfer

variable {types : Nat → ItemType} {transfer moved : Transfer} {cylinder : Cylinder}
  {tile number : Nat} {item : Item}

/-- What there is of the number is where it was. -/
structure Keeps (number : Nat) (transfer moved : Transfer) : Prop where
  tiles : ∀ tile, copies number (moved.tiles tile) = copies number (transfer.tiles tile)
  inbox : copies number moved.inbox = copies number transfer.inbox

/-- The item is in the inbox, and on no tile any more. -/
structure Sends (sent item : Item) (transfer moved : Transfer) : Prop where
  tiles : ∀ tile, copies item.number (moved.tiles tile) = []
  inbox : copies item.number moved.inbox = sent :: copies item.number transfer.inbox

theorem Keeps.refl (number : Nat) (transfer : Transfer) : Keeps number transfer transfer :=
  ⟨fun _ => rfl, rfl⟩

theorem Keeps.trans {last : Transfer} (first : Keeps number transfer moved)
    (second : Keeps number moved last) : Keeps number transfer last :=
  ⟨fun tile => (second.tiles tile).trans (first.tiles tile), second.inbox.trans first.inbox⟩

theorem Keeps.lies (keeps : Keeps item.number transfer moved)
    (lies : Lies transfer.tiles tile item) : Lies moved.tiles tile item :=
  ⟨(keeps.tiles tile).trans lies.once,
    fun other apart => (keeps.tiles other).trans (lies.nowhere other apart)⟩

/-- **What a move does**: it is of an item that goes and that the tile has. -/
theorem internalMoveItem_some
    (answer : transfer.internalMoveItem types cylinder item = some moved) :
    goes types (cylinder, item) ∧
      ∃ tile, cylinder = .tile tile ∧ (∃ other ∈ transfer.tiles tile, other.number = item.number) ∧
        moved = ⟨transfer.removeThing (.tile tile) item, item :: transfer.inbox⟩ := by
  unfold internalMoveItem at answer
  split at answer
  · rename_i may
    cases cylinder with
    | tile tile =>
      simp only [queryRemove, Bool.and_eq_true, List.any_eq_true, decide_eq_true_eq] at may
      obtain ⟨pickupable, ⟨there, counted⟩, moveable⟩ := may
      refine ⟨?_, tile, rfl, there, (Option.some.inj answer).symm⟩
      simp only [goes, Bool.and_eq_true]
      exact ⟨pickupable, counted, moveable⟩
    | container =>
      rw [queryRemove, Bool.and_false] at may
      cases may
  · cases answer

theorem internalMoveItem_of_lies (lies : Lies transfer.tiles tile item)
    (may : goes types (.tile tile, item)) :
    transfer.internalMoveItem types (.tile tile) item =
      some ⟨transfer.removeThing (.tile tile) item, item :: transfer.inbox⟩ := by
  simp only [goes, Bool.and_eq_true] at may
  obtain ⟨pickupable, counted, moveable⟩ := may
  have there : (transfer.tiles tile).any (fun other => other.number = item.number) = true :=
    List.any_eq_true.mpr ⟨item, lies.mem, decide_eq_true rfl⟩
  rw [internalMoveItem, if_pos]
  rw [queryRemove, there, pickupable, moveable, Bool.and_true, Bool.true_and, Bool.true_and]
  exact counted

theorem keeps_of_internalMoveItem
    (answer : transfer.internalMoveItem types cylinder item = some moved)
    (apart : item.number ≠ number) : Keeps number transfer moved := by
  obtain ⟨-, tile, rfl, -, rfl⟩ := internalMoveItem_some answer
  refine ⟨fun place => ?_, ?_⟩
  · change copies number (update transfer.tiles tile _ place) = _
    by_cases here : place = tile
    · subst here
      rw [update_self, copies_eraseP_ne apart]
    · rw [update_of_ne here]
  · rw [copies_cons, if_neg apart]

theorem sends_of_lies (lies : Lies transfer.tiles tile item) :
    Sends item item transfer
      ⟨transfer.removeThing (.tile tile) item, item :: transfer.inbox⟩ := by
  refine ⟨fun place => ?_, ?_⟩
  · change copies item.number (update transfer.tiles tile _ place) = []
    by_cases here : place = tile
    · subst here
      rw [update_self]
      exact copies_eraseP_self lies.once
    · rw [update_of_ne here]
      exact lies.nowhere place here
  · rw [copies_cons, if_pos rfl]

theorem keeps_round (apart : goes types (cylinder, item) → item.number ≠ number) :
    Keeps number transfer ((transfer.internalMoveItem types cylinder item).getD transfer) := by
  cases answer : transfer.internalMoveItem types cylinder item with
  | none => exact .refl number transfer
  | some moved =>
    exact keeps_of_internalMoveItem answer (apart (internalMoveItem_some answer).1)

theorem keeps_round_of_gone (gone : ∀ tile, copies number (transfer.tiles tile) = []) :
    Keeps number transfer ((transfer.internalMoveItem types cylinder item).getD transfer) := by
  cases answer : transfer.internalMoveItem types cylinder item with
  | none => exact .refl number transfer
  | some moved =>
    refine keeps_of_internalMoveItem answer fun same => ?_
    obtain ⟨-, tile, -, ⟨other, there, numbered⟩, -⟩ := internalMoveItem_some answer
    have copy : other ∈ copies number (transfer.tiles tile) :=
      mem_copies.mpr ⟨there, numbered.trans same⟩
    rw [gone tile] at copy
    cases copy

variable (moveItemList : List (Cylinder × Item))

theorem keeps_moveItems (transfer : Transfer)
    (apart : ∀ entry ∈ moveItemList, goes types entry → entry.2.number ≠ number) :
    Keeps number transfer (transfer.moveItems types moveItemList) := by
  induction moveItemList generalizing transfer with
  | nil => exact .refl number transfer
  | cons entry rest ih =>
    exact (keeps_round (apart entry (List.mem_cons_self ..))).trans
      (ih _ fun other member => apart other (List.mem_cons_of_mem _ member))

theorem keeps_moveItems_of_gone (transfer : Transfer)
    (gone : ∀ tile, copies number (transfer.tiles tile) = []) :
    Keeps number transfer (transfer.moveItems types moveItemList) := by
  induction moveItemList generalizing transfer with
  | nil => exact .refl number transfer
  | cons entry rest ih =>
    have kept : Keeps number transfer
        ((transfer.internalMoveItem types entry.1 entry.2).getD transfer) :=
      keeps_round_of_gone gone
    exact kept.trans (ih _ fun tile => (kept.tiles tile).trans (gone tile))

theorem sends_moveItems (moveItemList : List (Cylinder × Item)) (transfer : Transfer)
    (lies : Lies transfer.tiles tile item) (listed : (.tile tile, item) ∈ moveItemList)
    (may : goes types (.tile tile, item))
    (own : ∀ entry ∈ moveItemList, goes types entry → entry.2.number = item.number →
      entry = (.tile tile, item)) :
    Sends item item transfer (transfer.moveItems types moveItemList) := by
  induction moveItemList generalizing transfer with
  | nil => cases listed
  | cons entry rest ih =>
    by_cases first : entry = (.tile tile, item)
    · subst first
      have sends := sends_of_lies lies
      have kept := @keeps_moveItems_of_gone types item.number rest
        ⟨transfer.removeThing (.tile tile) item, item :: transfer.inbox⟩ sends.tiles
      rw [moveItems, List.foldl_cons, internalMoveItem_of_lies lies may]
      exact ⟨fun place => (kept.tiles place).trans (sends.tiles place),
        kept.inbox.trans sends.inbox⟩
    · have kept : Keeps item.number transfer
          ((transfer.internalMoveItem types entry.1 entry.2).getD transfer) :=
        keeps_round fun goesOn same => first (own entry (List.mem_cons_self ..) goesOn same)
      have later := ih _ (kept.lies lies)
        ((List.mem_cons.mp listed).resolve_left fun same => first same.symm)
        fun other member => own other (List.mem_cons_of_mem _ member)
      exact ⟨later.tiles, later.inbox.trans (by rw [kept.inbox])⟩

/-! ## Stamping -/

theorem number_stamp (item other : Item) (newId : Nat) :
    (if other.number = item.number then other.setID newId else other).number = other.number := by
  split
  · exact Item.number_setID newId other
  · rfl

theorem keeps_transformItem (apart : item.number ≠ number) (newId : Nat) :
    Keeps number transfer (transfer.transformItem types item newId) := by
  unfold transformItem
  split
  · exact .refl number transfer
  · refine ⟨fun _ => rfl, ?_⟩
    rw [copies_map fun other => number_stamp item other newId]
    refine (List.map_congr_left fun other member => ?_).trans (List.map_id _)
    exact if_neg fun same => apart (same.symm.trans (mem_copies.mp member).2)

theorem sends_transformItem (sends : Sends item item transfer moved)
    (absent : copies item.number transfer.inbox = []) (newId : Nat) :
    Sends (if (types item.id).isStackable then item else item.setID newId) item transfer
      (moved.transformItem types item newId) := by
  unfold transformItem
  split
  · exact sends
  · refine ⟨sends.tiles, ?_⟩
    rw [copies_map fun other => number_stamp item other newId, sends.inbox, absent]
    exact congrArg (fun stamped => [stamped]) (if_pos rfl)

end Transfer

/-! ## Outcomes -/

section Outcomes

variable {before after : Server} {op : DeliveryOp} {guid : Nat} {inbox : List Item}

theorem inboxOf_of_inGame (inGame : before.inboxes guid = some inbox) :
    before.inboxOf guid = inbox := by
  rw [Server.inboxOf, inGame, Option.getD_some]

theorem inboxOf_fresh (legal : op.Legal before) {tile : Nat} {item : Item}
    (there : item ∈ before.tiles tile) (guid : Nat) :
    copies item.number (before.inboxOf guid) = [] := by
  unfold Server.inboxOf
  cases inGame : before.inboxes guid with
  | some inbox => exact legal.fresh tile item there guid inbox (.inl inGame)
  | none =>
    cases saved : before.records guid with
    | some inbox => exact legal.fresh tile item there guid inbox (.inr ⟨inGame, saved⟩)
    | none => rfl

theorem loadPlayer_fresh (legal : op.Legal before) {answers : Answers}
    (notInGame : before.inboxes guid = none)
    (loads : before.loadPlayer answers guid = some inbox) {tile : Nat} {item : Item}
    (there : item ∈ before.tiles tile) : copies item.number inbox = [] := by
  unfold Server.loadPlayer at loads
  split at loads
  · obtain ⟨saved, isSaved, rfl⟩ := Option.map_eq_some_iff.mp loads
    split
    · exact legal.fresh tile item there guid saved (.inr ⟨notInGame, isSaved⟩)
    · rfl
  · cases loads

theorem whole_of_same (legal : op.Legal before) (tiles : after.tiles = before.tiles)
    (inboxes : ∀ guid, after.inboxOf guid = before.inboxOf guid) : Whole before op after := by
  intro tile item there
  refine .inl ⟨fun place => by rw [tiles], fun guid => ?_⟩
  rw [inboxes]
  exact inboxOf_fresh legal there guid

/-- The server with an inbox that items have come into. -/
structure Reached (before : Server) (guid : Nat) (moved : Transfer) (after : Server) : Prop where
  tiles : after.tiles = moved.tiles
  inbox : after.inboxOf guid = moved.inbox
  others : ∀ other ≠ guid, after.inboxOf other = before.inboxOf other

theorem whole_of_reached (legal : op.Legal before) {moved : Transfer}
    (isReceiver : op.receiver before = some guid) (reached : Reached before guid moved after)
    (fresh : ∀ tile, ∀ item ∈ before.tiles tile, copies item.number inbox = [])
    (arrives : ∀ tile, ∀ item ∈ before.tiles tile,
      (⟨before.tiles, inbox⟩ : Transfer).Keeps item.number moved ∨
        (⟨before.tiles, inbox⟩ : Transfer).Sends (op.sent before item) item moved) :
    Whole before op after := by
  intro tile item there
  have elsewhere : ∀ other ≠ guid, copies item.number (after.inboxOf other) = [] := by
    intro other apart
    rw [reached.others other apart]
    exact inboxOf_fresh legal there other
  rcases arrives tile item there with keeps | sends
  · refine .inl ⟨fun place => by rw [reached.tiles, keeps.tiles], fun other => ?_⟩
    by_cases same : other = guid
    · subst same
      rw [reached.inbox, keeps.inbox]
      exact fresh tile item there
    · exact elsewhere other same
  · refine .inr ⟨guid, isReceiver, fun place => by rw [reached.tiles, sends.tiles], ?_, elsewhere⟩
    rw [reached.inbox, sends.inbox]
    exact congrArg _ (fresh tile item there)

theorem not_whole_of_lost (legal : op.Legal before)
    (inboxes : ∀ guid, after.inboxOf guid = before.inboxOf guid) {tile : Nat} {item : Item}
    (there : item ∈ before.tiles tile) (gone : copies item.number (after.tiles tile) = []) :
    ¬Whole before op after := by
  intro whole
  rcases whole tile item there with ⟨stays, -⟩ | ⟨guid, -, -, inbox, -⟩
  · have once := stays tile
    rw [gone, (legal.placed tile item there).once] at once
    cases once
  · rw [inboxes, inboxOf_fresh legal there guid] at inbox
    cases inbox

theorem reached_setInbox (before : Server) (guid : Nat) (moved : Transfer) :
    Reached before guid moved (before.setInbox guid moved) := by
  refine ⟨rfl, ?_, fun other apart => ?_⟩
  · exact inboxOf_of_inGame (update_self ..)
  · have same : (before.setInbox guid moved).inboxes other = before.inboxes other :=
      update_of_ne apart ..
    rw [Server.inboxOf, same]
    rfl

theorem reached_savePlayer (notInGame : before.inboxes guid = none) (moved : Transfer) :
    Reached before guid moved
      ({ before with tiles := moved.tiles }.savePlayer (.written true) guid moved.inbox).2 := by
  refine ⟨rfl, ?_, fun other apart => ?_⟩
  · change (before.inboxes guid).getD
      ((update before.records guid (some moved.inbox) guid).getD []) = _
    rw [notInGame, update_self, Option.getD_none, Option.getD_some]
  · change (before.inboxes other).getD
      ((update before.records guid (some moved.inbox) other).getD []) = _
    rw [update_of_ne apart]
    rfl

theorem savePlayer_of_ne {answer : SaveAnswer} (fails : answer ≠ .written true) (server : Server) :
    (server.savePlayer answer guid inbox).2 = server := by
  match answer, fails with
  | .unread, _ => rfl
  | .excluded _, _ => rfl
  | .written false, _ => rfl
  | .written true, fails => exact absurd rfl fails

/-- **The save behind a transfer** to the temporary player decides. -/
theorem whole_savePlayer_iff (legal : op.Legal before) (isReceiver : op.receiver before = some guid)
    (notInGame : before.inboxes guid = none)
    (loads : before.loadPlayer op.answers guid = some inbox) {moved : Transfer}
    (arrives : ∀ tile, ∀ item ∈ before.tiles tile,
      (⟨before.tiles, inbox⟩ : Transfer).Keeps item.number moved ∨
        (⟨before.tiles, inbox⟩ : Transfer).Sends (op.sent before item) item moved)
    (stays : (∀ entry ∈ op.moveItemList before, ¬goes before.types entry) →
      ∀ number, (⟨before.tiles, inbox⟩ : Transfer).Keeps number moved)
    (gone : ∀ entry ∈ op.moveItemList before, goes before.types entry →
      ∃ tile, entry.2 ∈ before.tiles tile ∧ copies entry.2.number (moved.tiles tile) = []) :
    Whole before op
        ({ before with tiles := moved.tiles }.savePlayer op.answers.save guid moved.inbox).2 ↔
      Stored before op := by
  by_cases isStored : op.answers.save = .written true
  · refine ⟨fun _ _ _ _ _ _ => isStored, fun _ => ?_⟩
    rw [isStored]
    exact whole_of_reached legal isReceiver (reached_savePlayer notInGame moved)
      (fun tile item there => loadPlayer_fresh legal notInGame loads there) arrives
  · rw [savePlayer_of_ne isStored]
    by_cases any : ∃ entry ∈ op.moveItemList before, goes before.types entry
    · have unstored : ¬Stored before op := fun stored =>
        isStored (stored guid isReceiver notInGame (by rw [loads]; rfl) any)
      refine iff_of_false ?_ unstored
      obtain ⟨entry, listed, may⟩ := any
      obtain ⟨tile, there, isGone⟩ := gone entry listed may
      exact not_whole_of_lost legal (fun _ => rfl) there isGone
    · refine ⟨fun _ => fun _ _ _ _ some => absurd some any, fun _ tile item there => ?_⟩
      have keeps := stays (fun entry listed may => any ⟨entry, listed, may⟩) item.number
      exact .inl ⟨keeps.tiles, inboxOf_fresh legal there⟩

end Outcomes

/-! ## Deliveries -/

section Deliveries

variable {server : Server} {answers : Answers} {tile : Nat} {item : Item}

section

variable (legal : (DeliveryOp.sendItem answers tile item).Legal server)
include legal

theorem stamp_arrives
    {inbox : List Item} (absent : copies item.number inbox = []) {moved : Transfer}
    (answer : (⟨server.tiles, inbox⟩ : Transfer).internalMoveItem server.types (.tile tile) item =
      some moved) :
    (∀ number ≠ item.number, (⟨server.tiles, inbox⟩ : Transfer).Keeps number
      (moved.transformItem server.types item (item.id + 1))) ∧
    (⟨server.tiles, inbox⟩ : Transfer).Sends
      ((DeliveryOp.sendItem answers tile item).sent server item) item
      (moved.transformItem server.types item (item.id + 1)) := by
  have there := (legal.letter answers tile item rfl).2
  have lies := legal.placed tile item there
  constructor
  · intro number apart
    exact (Transfer.keeps_of_internalMoveItem answer apart.symm).trans
      (Transfer.keeps_transformItem apart.symm _)
  · rw [Transfer.internalMoveItem_of_lies lies (Transfer.internalMoveItem_some answer).1] at answer
    obtain rfl := Option.some.inj answer
    exact Transfer.sends_transformItem (Transfer.sends_of_lies lies) absent _

theorem sendItem_arrives
    {inbox : List Item} (absent : copies item.number inbox = []) {moved : Transfer}
    (answer : (⟨server.tiles, inbox⟩ : Transfer).internalMoveItem server.types (.tile tile) item =
      some moved) (place : Nat) (other : Item) (there : other ∈ server.tiles place) :
    (⟨server.tiles, inbox⟩ : Transfer).Keeps other.number
        (moved.transformItem server.types item (item.id + 1)) ∨
      (⟨server.tiles, inbox⟩ : Transfer).Sends
        ((DeliveryOp.sendItem answers tile item).sent server other) other
        (moved.transformItem server.types item (item.id + 1)) := by
  obtain ⟨keeps, sends⟩ := stamp_arrives legal absent answer
  by_cases same : other.number = item.number
  · have lies := legal.placed tile item (legal.letter answers tile item rfl).2
    obtain ⟨-, rfl⟩ := lies.eq_of_number there same
    exact .inr sends
  · exact .inl (keeps other.number same)

theorem whole_sendItem_iff :
    Whole server (.sendItem answers tile item)
        ((DeliveryOp.sendItem answers tile item).apply server) ↔
      Stored server (.sendItem answers tile item) := by
  have there := (legal.letter answers tile item rfl).2
  have same : Whole server (.sendItem answers tile item) server :=
    whole_of_same legal rfl fun _ => rfl
  -- no receiver, and nothing to store
  have noReceiver (none : (DeliveryOp.sendItem answers tile item).receiver server = none) :
      Stored server (.sendItem answers tile item) := by
    intro guid isReceiver
    rw [none] at isReceiver
    cases isReceiver
  rw [DeliveryOp.apply, Server.sendItem]
  cases read : getReceiver server.types item with
  | none =>
    refine iff_of_true same (noReceiver ?_)
    rw [DeliveryOp.receiver, read, Option.bind_none]
  | some name =>
    have receiver : (DeliveryOp.sendItem answers tile item).receiver server =
        if name = [] then none else server.guidByName name := by
      rw [DeliveryOp.receiver, read, Option.bind_some]
    dsimp only
    split
    · rename_i empty
      exact iff_of_true same (noReceiver (receiver.trans (if_pos empty)))
    · rename_i named
      rw [if_neg named] at receiver
      cases known : server.guidByName name with
      | none => exact iff_of_true same (noReceiver (receiver.trans known))
      | some guid =>
        rw [known] at receiver
        cases inGame : server.inboxes guid with
        | some inbox =>
          have stored : Stored server (.sendItem answers tile item) := by
            intro other isReceiver notInGame
            obtain rfl := Option.some.inj (receiver.symm.trans isReceiver)
            rw [inGame] at notInGame
            cases notInGame
          have fresh := fun place (other : Item) (there : other ∈ server.tiles place) =>
            legal.fresh place other there guid inbox (.inl inGame)
          cases answer : (⟨server.tiles, inbox⟩ : Transfer).internalMoveItem server.types
              (.tile tile) item with
          | none =>
            simp only [inGame, answer]
            exact iff_of_true same stored
          | some moved =>
            simp only [inGame, answer]
            exact iff_of_true (whole_of_reached legal receiver (reached_setInbox ..) fresh
              (sendItem_arrives legal (fresh tile item there) answer)) stored
        | none =>
          cases loads : server.loadPlayer answers guid with
          | none =>
            simp only [inGame, loads]
            refine iff_of_true same fun other isReceiver _ isLoaded => ?_
            obtain rfl := Option.some.inj (receiver.symm.trans isReceiver)
            rw [DeliveryOp.answers, loads] at isLoaded
            cases isLoaded
          | some inbox =>
            have absent := loadPlayer_fresh legal inGame loads there
            cases answer : (⟨server.tiles, inbox⟩ : Transfer).internalMoveItem
                server.types (.tile tile) item with
            | none =>
              simp only [inGame, loads, answer]
              refine iff_of_true same fun _ _ _ _ any => ?_
              obtain ⟨entry, listed, may⟩ := any
              obtain rfl := List.mem_singleton.mp listed
              rw [Transfer.internalMoveItem_of_lies (legal.placed tile item there) may]
                at answer
              cases answer
            | some moved =>
              simp only [inGame, loads, answer]
              have may := (Transfer.internalMoveItem_some answer).1
              refine whole_savePlayer_iff legal receiver inGame loads
                (sendItem_arrives legal absent answer) (fun none => ?_) ?_
              · exact absurd may (none _ (List.mem_singleton_self _))
              · intro entry listed _
                obtain rfl := List.mem_singleton.mp listed
                exact ⟨tile, there, (stamp_arrives legal absent answer).2.tiles tile⟩

end

theorem mem_moveItemList_of_goes {entry : Cylinder × Item} (listed : entry ∈ server.moveItemList)
    (may : goes server.types entry) :
    ∃ tile, entry.1 = .tile tile ∧ entry.2 ∈ server.tiles tile := by
  obtain ⟨tile, -, inTile⟩ := List.mem_flatMap.mp listed
  obtain ⟨item, there, ofItem⟩ := List.mem_flatMap.mp inTile
  split at ofItem
  · obtain rfl := List.mem_singleton.mp ofItem
    exact ⟨tile, rfl, there⟩
  · split at ofItem
    · obtain ⟨containerItem, -, rfl⟩ := List.mem_map.mp ofItem
      cases may
    · cases ofItem

variable {op : DeliveryOp}

theorem eq_of_goes (legal : op.Legal server) (there : item ∈ server.tiles tile)
    {entry : Cylinder × Item} (listed : entry ∈ server.moveItemList)
    (may : goes server.types entry) (same : entry.2.number = item.number) :
    entry = (.tile tile, item) := by
  obtain ⟨place, isTile, lies⟩ := mem_moveItemList_of_goes listed may
  obtain ⟨rfl, sameItem⟩ := (legal.placed tile item there).eq_of_number lies same
  exact Prod.ext isTile sameItem

theorem emptyInto_arrives (legal : op.Legal server) (inbox : List Item)
    (there : item ∈ server.tiles tile) :
    (⟨server.tiles, inbox⟩ : Transfer).Keeps item.number (server.emptyInto inbox) ∨
      (⟨server.tiles, inbox⟩ : Transfer).Sends item item (server.emptyInto inbox) := by
  by_cases leaves : (.tile tile, item) ∈ server.moveItemList ∧
      goes server.types (.tile tile, item)
  · exact .inr (Transfer.sends_moveItems _ _ (legal.placed tile item there) leaves.1 leaves.2
      fun entry listed may same => eq_of_goes legal there listed may same)
  · refine .inl (Transfer.keeps_moveItems _ _ fun entry listed may same => leaves ?_)
    obtain rfl := eq_of_goes legal there listed may same
    exact ⟨listed, may⟩

theorem whole_transferToDepot_iff (legal : op.Legal server) {guid : Nat}
    (isReceiver : op.receiver server = some guid) (entries : op.moveItemList server =
      server.moveItemList) (unstamped : ∀ item, op.sent server item = item) :
    Whole server op (server.transferToDepot op.answers guid).2 ↔ Stored server op := by
  have arrives (inbox : List Item) (place : Nat) (other : Item)
      (there : other ∈ server.tiles place) :
      (⟨server.tiles, inbox⟩ : Transfer).Keeps other.number (server.emptyInto inbox) ∨
        (⟨server.tiles, inbox⟩ : Transfer).Sends (op.sent server other) other
          (server.emptyInto inbox) := by
    rw [unstamped]
    exact emptyInto_arrives legal inbox there
  unfold Server.transferToDepot
  cases inGame : server.inboxes guid with
  | some inbox =>
    have fresh := fun place (other : Item) (there : other ∈ server.tiles place) =>
      legal.fresh place other there guid inbox (.inl inGame)
    refine iff_of_true (whole_of_reached legal isReceiver (reached_setInbox ..) fresh
      (arrives inbox)) fun other isOther notInGame => ?_
    obtain rfl := Option.some.inj (isReceiver.symm.trans isOther)
    rw [inGame] at notInGame
    cases notInGame
  | none =>
    cases loads : server.loadPlayer op.answers guid with
    | none =>
      refine iff_of_true (whole_of_same legal rfl fun _ => rfl) fun other isOther _ loaded => ?_
      obtain rfl := Option.some.inj (isReceiver.symm.trans isOther)
      rw [loads] at loaded
      cases loaded
    | some inbox =>
      refine whole_savePlayer_iff legal isReceiver inGame loads (arrives inbox)
        (fun none number => ?_) fun entry listed may => ?_
      · rw [entries] at none
        exact Transfer.keeps_moveItems _ _ fun entry listed may => absurd may
          (none entry listed)
      · rw [entries] at listed
        obtain ⟨tile, isTile, there⟩ := mem_moveItemList_of_goes listed may
        obtain ⟨cylinder, item⟩ := entry
        obtain rfl := isTile
        have sends := @Transfer.sends_moveItems server.types tile item server.moveItemList
          ⟨server.tiles, inbox⟩ (legal.placed tile item there) listed may
          fun other isListed goesOn same => eq_of_goes legal there isListed goesOn same
        exact ⟨tile, there, sends.tiles tile⟩

theorem whole_setOwner_iff {lookup : Houses.Lookup} {guid : Nat} {player : Option Nat}
    (legal : (DeliveryOp.setOwner answers lookup guid player).Legal server) :
    Whole server (.setOwner answers lookup guid player)
        ((DeliveryOp.setOwner answers lookup guid player).apply server) ↔
      Stored server (.setOwner answers lookup guid player) := by
  have receiver : (DeliveryOp.setOwner answers lookup guid player).receiver server =
      if server.house.isLoaded ∧ server.house.owner = guid then none
      else if server.house.owner ≠ 0 then some (player.getD server.house.owner)
      else none := rfl
  have noReceiver (none : (DeliveryOp.setOwner answers lookup guid player).receiver server = none) :
      Stored server (.setOwner answers lookup guid player) := by
    intro guid isReceiver
    rw [none] at isReceiver
    cases isReceiver
  rw [DeliveryOp.apply, Server.setOwner]
  by_cases stays : server.house.isLoaded ∧ server.house.owner = guid
  · rw [if_pos stays] at receiver ⊢
    exact iff_of_true (whole_of_same legal rfl fun _ => rfl) (noReceiver receiver)
  · rw [if_neg stays] at receiver ⊢
    by_cases owned : server.house.owner ≠ 0
    · rw [if_pos owned] at receiver ⊢
      exact whole_transferToDepot_iff legal receiver rfl fun _ => rfl
    · rw [if_neg owned] at receiver ⊢
      exact iff_of_true (whole_of_same legal rfl fun _ => rfl) (noReceiver receiver)

end Deliveries

/-- A parcel with a label, on a tile with a mailbox that belongs to a house. -/
def parcel : Item := ⟨7, ITEM_PARCEL, 1, [], [⟨8, ITEM_LABEL, 1, ['A', 'n', 'n', ' '], []⟩]⟩

/-- The owner of the house is not in the game. -/
def post : Server where
  types id :=
    { isContainer := id = ITEM_PARCEL
      isPickupable := true
      isMoveable := true }
  tiles tile := if tile = 1 then [parcel] else []
  house := { owner := 3, isLoaded := true }
  houseTiles := [1]
  records guid := if guid = 3 then some [] else none
  guidByName name := if name = ['A', 'n', 'n'] then some 3 else none

theorem mem_post {tile : Nat} {item : Item} (there : item ∈ post.tiles tile) :
    tile = 1 ∧ item = parcel := by
  change item ∈ if tile = 1 then [parcel] else [] at there
  split at there
  · exact ⟨‹_›, List.mem_singleton.mp there⟩
  · cases there

theorem placed_post (tile : Nat) (item : Item) (there : item ∈ post.tiles tile) :
    Lies post.tiles tile item := by
  obtain ⟨rfl, rfl⟩ := mem_post there
  refine ⟨rfl, fun other apart => ?_⟩
  change copies _ (if other = 1 then [parcel] else []) = []
  rw [if_neg apart]
  rfl

theorem fresh_post (number guid : Nat) (inbox : List Item)
    (either : post.inboxes guid = some inbox ∨
      post.inboxes guid = none ∧ post.records guid = some inbox) :
    copies number inbox = [] := by
  rcases either with inGame | ⟨-, saved⟩
  · cases inGame
  · change (if guid = 3 then some [] else none) = some inbox at saved
    split at saved
    · obtain rfl := Option.some.inj saved
      rfl
    · cases saved

theorem legal_post (answers : Answers) :
    (DeliveryOp.sendItem answers 1 parcel).Legal post where
  letter _ _ _ same := by
    obtain ⟨-, rfl, rfl⟩ := DeliveryOp.sendItem.inj same
    exact ⟨.inl rfl, List.mem_singleton_self _⟩
  leaver _ _ _ _ same := by cases same
  placed := placed_post
  fresh _ item _ := fresh_post item.number

end Otserv.Deliveries
