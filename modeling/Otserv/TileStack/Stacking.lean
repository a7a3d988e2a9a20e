import Otserv.TileStack.Order

/-!
# Tiles stay in order

Every operation on a tile keeps the split of its item vector: what is taken away leaves
the rest in its place (`Taken`, `removeThing_taken`), and what comes goes to the side of
its class (`Addition.kept`, `updateThing_kept`, `replaceThing_kept`). With it the two index
functions stay inverse to each other.

The order of the top items is kept by adding and by taking away. `updateThing` and
`replaceThing` leave an item where it is when its order changes: there the order is kept
exactly when the new one fits between those of the neighbours (`runs_ordered_iff`).
-/

namespace Otserv.TileStack

open Otserv.Foundation Otserv.Items
open Function (update update_of_ne update_self)

variable {game : Game} {tile after : Tile}

/-! ## Taking away -/

/-- Things were taken from a tile, the others are as they were. -/
structure Taken (game : Game) (tile after : Tile) : Prop where
  split : after.downItemCount.toNat ≤ after.items.length
  itemType : after.itemType game = tile.itemType game
  ground : after.ground.toList.Sublist tile.ground.toList
  down : after.downItems.Sublist tile.downItems
  top : after.topItems.Sublist tile.topItems
  creatures : after.creatures.Sublist tile.creatures

namespace Taken

theorem of_arranged {ground : Option Nat} {down top creatures : List Nat}
    (arranged : Arranged ground down top creatures after)
    (itemType : after.itemType game = tile.itemType game)
    (subGround : ground.toList.Sublist tile.ground.toList)
    (subDown : down.Sublist tile.downItems) (subTop : top.Sublist tile.topItems)
    (subCreatures : creatures.Sublist tile.creatures) : Taken game tile after where
  split := arranged.split
  itemType := itemType
  ground := by rwa [arranged.ground]
  down := by rwa [arranged.downItems]
  top := by rwa [arranged.topItems]
  creatures := by rwa [arranged.creatures]

theorem refl (placed : Placed tile) : Taken game tile tile :=
  of_arranged placed.arranged rfl (.refl _) (.refl _)
    (.refl _) (.refl _)

section

variable (taken : Taken game tile after)
include taken

theorem stacked (before : Stacked game tile) :
    Stacked game after where
  split := taken.split
  fine := by
    rw [taken.itemType]
    refine before.fine.move
      (before.placed.distinct.sublist taken.ground taken.down taken.top taken.creatures) ?_ ?_
    · intro address member new
      exact absurd (taken.down.subset member) new
    · intro address member new
      exact absurd (taken.top.subset member) new

theorem placed (before : Placed tile) : Placed after where
  split := taken.split
  distinct := before.distinct.sublist taken.ground taken.down taken.top taken.creatures

theorem sorted (before : Sorted game tile) : Sorted game after := by
  rw [Sorted, Tile.topOrders, taken.itemType]
  exact before.sublist (taken.top.map _)

theorem absent {address : Nat} (before : Absent tile address) :
    Absent after address := fun member =>
  before ((taken.ground.append (taken.top.append taken.down)).subset member)

theorem length_le : after.items.length ≤ tile.items.length := by
  have parts (tile : Tile) : tile.items.length = tile.downItems.length + tile.topItems.length := by
    rw [← List.length_append, Tile.downItems, Tile.topItems, List.take_append_drop]
  rw [parts, parts]
  exact Nat.add_le_add taken.down.length_le taken.top.length_le

end

end Taken

theorem itemType_store (tile : Tile) (address : Nat) (item : TileItem) :
    (tile.store address item).itemType game =
      update (tile.itemType game) address (game.items item.item.id) := by
  funext other
  rw [Tile.itemType, Tile.store]
  by_cases here : other = address
  · rw [here, update_self]
    simp only [update_self]
  · simp only [update_of_ne here, Tile.itemType]

theorem removeThing_taken (placed : Placed tile) (thing : Thing) (count : UInt32) :
    Taken game tile (tile.removeThing game thing count) := by
  have parts := placed.arranged
  have same {entries : List Nat} : entries.Sublist entries := .refl _
  cases thing with
  | creature address =>
    have rest : Arranged tile.ground tile.downItems tile.topItems (tile.creatures.erase address)
        { tile with creatures := tile.creatures.erase address } :=
      ⟨rfl, parts.items, parts.count, rfl⟩
    exact .of_arranged rest rfl same same same List.erase_sublist
  | item address =>
    have restacked (count : UInt16) : Taken game tile (tile.store address
        { tile.stored address with item := (tile.stored address).item.setItemCount count }) := by
      refine .of_arranged (parts.store address _) ?_ same same same same
      rw [itemType_store]
      exact Function.update_eq_self address _
    rw [Tile.removeThing]
    simp only
    split_ifs with missing isGround isTop inTop inDown part
    · exact .refl placed
    · have rest : Arranged none tile.downItems tile.topItems tile.creatures
          { tile with ground := none } := ⟨rfl, parts.items, parts.count, rfl⟩
      exact .of_arranged (rest.unflagged address) rfl (List.nil_sublist _) same same same
    · have rest : Arranged tile.ground tile.downItems (tile.topItems.erase address)
          tile.creatures { tile with items := tile.downItems ++ tile.topItems.erase address } :=
        ⟨rfl, rfl, parts.count, rfl⟩
      exact .of_arranged (rest.unflagged address) rfl same same List.erase_sublist same
    · exact .refl placed
    · exact restacked _
    · exact restacked _
    · have rest : Arranged tile.ground (tile.downItems.erase address) tile.topItems
          tile.creatures { tile with
            items := tile.downItems.erase address ++ tile.topItems
            downItemCount := tile.downItemCount - 1 } := by
        refine ⟨rfl, rfl, ?_, rfl⟩
        have some : 1 ≤ tile.downItemCount := by
          rw [UInt16.le_iff_toNat_le, parts.count]
          exact List.length_pos_of_mem inDown
        rw [UInt16.toNat_sub_of_le _ _ some, parts.count, List.length_erase_of_mem inDown]
        rfl
      exact .of_arranged (rest.unflagged address) rfl same List.erase_sublist same same
    · exact .refl placed

/-! ## Adding -/

/-- The item that leaves a tile, and what is stored of the item that enters it. -/
structure Change where
  leaves : Option Nat := none
  enters : Option TileItem := none

/-- The item that `removeThing` takes off the tile. -/
def Tile.removed (game : Game) (tile : Tile) (thing : Thing) (count : UInt32) : Option Nat :=
  match thing with
  | .creature _ => none
  | .item address =>
    if tile.getThingIndex game thing = -1 then none
    else if tile.ground = some address then some address
    else
      let it := tile.itemType game address
      -- of a stack a part may be taken
      if !it.alwaysOnTop ∧ it.stackable ∧ count.toNat ≠ (tile.stored address).item.count.toNat then
        none
      else some address

/-- What `addThing` changes. -/
def Tile.addChange (game : Game) (tile : Tile) (address : Nat) : Change :=
  let enters := some (tile.stored address)
  if tile.items.length ≥ 0xFFFF then {}
  else
    let it := tile.itemType game address
    if it.isGroundTile then { leaves := tile.ground, enters := enters }
    else if it.alwaysOnTop then
      if it.isSplash then
        match tile.topItems.find? fun other => (tile.itemType game other).isSplash with
        | none => { enters := enters }
        | some oldSplash => { leaves := tile.removed game (.item oldSplash) 1, enters := enters }
      else { enters := enters }
    else if it.isMagicField then
      match tile.downItems.find? fun other => (tile.stored other).cls = .magicField with
      | none => { enters := enters }
      | some oldField =>
        if (tile.itemType game oldField).replaceable then
          { leaves := tile.removed game (.item oldField) 1, enters := enters }
        else {}
    else { enters := enters }

/-- What `internalAddThing` changes. -/
def Tile.internalAddChange (game : Game) (tile : Tile) (address : Nat) : Change :=
  let enters := some (tile.stored address)
  if (tile.itemType game address).isGroundTile then
    match tile.ground with
    | none => { enters := enters }
    | some _ => {}
  else if tile.items.length ≥ 0xFFFF then {}
  else { enters := enters }

/-- What is left of a tile for a new item: all of it, or all but an old item. -/
inductive Rest (game : Game) (tile : Tile) : Option Nat → Tile → Prop
  | whole : Rest game tile none tile
  | removed (old : Nat) : Rest game tile (tile.removed game (.item old) 1)
      (tile.removeThing game (.item old) 1)

theorem Rest.taken {leaves : Option Nat} (rest : Rest game tile leaves after)
    (placed : Placed tile) : Taken game tile after := by
  cases rest with
  | whole => exact .refl placed
  | removed old => exact removeThing_taken placed (.item old) 1

/-- The ways in which an item is added, and what each changes. A top item goes where its
order is between those of its neighbours. -/
inductive Addition (game : Game) (tile : Tile) (address : Nat) : Change → Tile → Prop
  | refused : Addition game tile address {} tile
  | bare (none : tile.ground = none) :
      Addition game tile address { enters := some (tile.stored address) }
        ({ tile with ground := some address }.flagged game address)
  | ground {old : Nat} (there : tile.ground = some old) :
      Addition game tile address { leaves := some old, enters := some (tile.stored address) }
        (({ tile with ground := some address }.unflagged game old).flagged game address)
  | top {leaves : Option Nat} {rest : Tile} (left : Rest game tile leaves rest)
      (room : tile.items.length < 0xFFFF)
      (isTop : (tile.itemType game address).alwaysOnTop = true) {before : Nat → Bool}
      (below : ∀ other, before other = false → (tile.itemType game other).alwaysOnTopOrder ≤
        (tile.itemType game address).alwaysOnTopOrder)
      (above : ∀ other, before other = true → (tile.itemType game address).alwaysOnTopOrder ≤
        (tile.itemType game other).alwaysOnTopOrder) :
      Addition game tile address { leaves := leaves, enters := some (tile.stored address) }
        (rest.insertTop game address before)
  | down {leaves : Option Nat} {rest : Tile} (left : Rest game tile leaves rest)
      (room : tile.items.length < 0xFFFF)
      (isDown : (tile.itemType game address).alwaysOnTop = false) :
      Addition game tile address { leaves := leaves, enters := some (tile.stored address) }
        (rest.insertDown game address)

theorem addThing_addition (placed : Placed tile) (address : Nat) :
    Addition game tile address (tile.addChange game address)
      (tile.addThing game (.item address)) := by
  have insertTop {leaves : Option Nat} {rest : Tile} (left : Rest game tile leaves rest)
      (room : tile.items.length < 0xFFFF)
      (isTop : (tile.itemType game address).alwaysOnTop = true) :
      Addition game tile address { leaves := leaves, enters := some (tile.stored address) }
        (rest.insertTop game address fun other =>
          (tile.itemType game address).alwaysOnTopOrder ≤
            (rest.itemType game other).alwaysOnTopOrder) := by
    rw [(left.taken placed).itemType]
    refine .top left room isTop (fun other notBefore => ?_) fun other isBefore => ?_
    · exact UInt8.le_of_lt (UInt8.not_le.mp (of_decide_eq_false notBefore))
    · exact of_decide_eq_true isBefore
  rw [Tile.addThing, Tile.addChange]
  by_cases full : tile.items.length ≥ 0xFFFF
  · rw [if_pos full, if_pos full]
    exact .refused
  rw [if_neg full, if_neg full]
  have room : tile.items.length < 0xFFFF := Nat.lt_of_not_ge full
  by_cases isGround : (tile.itemType game address).isGroundTile = true
  · rw [if_pos isGround, if_pos isGround]
    cases there : tile.ground with
    | none => exact .bare there
    | some old => exact .ground there
  rw [if_neg isGround, if_neg isGround]
  by_cases isTop : (tile.itemType game address).alwaysOnTop = true
  · rw [if_pos isTop, if_pos isTop]
    by_cases isSplash : (tile.itemType game address).isSplash = true
    · rw [if_pos isSplash, if_pos isSplash]
      cases tile.topItems.find? fun other => (tile.itemType game other).isSplash with
      | none => exact insertTop .whole room isTop
      | some oldSplash => exact insertTop (.removed oldSplash) room isTop
    · rw [if_neg isSplash, if_neg isSplash]
      exact insertTop .whole room isTop
  · have isDown := Bool.eq_false_iff.mpr isTop
    rw [if_neg isTop, if_neg isTop]
    by_cases isField : (tile.itemType game address).isMagicField = true
    · rw [if_pos isField, if_pos isField]
      cases tile.downItems.find? fun other => (tile.stored other).cls = .magicField with
      | none => exact .down .whole room isDown
      | some oldField =>
        simp only
        split_ifs with replaceable
        · exact .down (.removed oldField) room isDown
        · exact .refused
    · rw [if_neg isField, if_neg isField]
      exact .down .whole room isDown

theorem internalAddThing_addition (tile : Tile) (address : Nat) :
    Addition game tile address (tile.internalAddChange game address)
      (tile.internalAddThing game (.item address)) := by
  rw [Tile.internalAddThing, Tile.internalAddChange]
  split_ifs with isGround full isTop
  · cases there : tile.ground with
    | none => exact .bare there
    | some old => exact .refused
  · exact .refused
  · refine .top .whole (by omega) isTop (fun other notBefore => ?_) fun other isBefore => ?_
    · exact UInt8.not_lt.mp (of_decide_eq_false notBefore)
    · exact UInt8.le_of_lt (of_decide_eq_true isBefore)
  · exact .down .whole (by omega) (Bool.eq_false_iff.mpr isTop)

theorem setGround_arranged (placed : Placed tile) (address : Nat) :
    Arranged (some address) tile.downItems tile.topItems tile.creatures
      { tile with ground := some address } :=
  have parts := placed.arranged
  ⟨rfl, parts.items, parts.count, rfl⟩

variable {address : Nat}

theorem Absent.setGround (placed : Placed tile) (absent : Absent tile address) :
    Distinct (some address) tile.downItems tile.topItems tile.creatures :=
  placed.distinct.setGround fun member => absent (List.mem_append_right _ member)

theorem Addition.placed {change : Change}
    (addition : Addition game tile address change after) (placed : Placed tile)
    (absent : Absent tile address) : Placed after := by
  have arranged := setGround_arranged placed address
  cases addition with
  | refused => exact placed
  | bare none => exact (arranged.flagged address).placed (absent.setGround placed)
  | ground there =>
    exact ((arranged.unflagged _).flagged address).placed (absent.setGround placed)
  | top left room isTop below above =>
    have taken := left.taken placed
    have rest := taken.placed placed
    exact (insertTop_arranged rest address _).placed
      (insertTop_distinct rest (taken.length_le.trans_lt room) (taken.absent absent) _)
  | down left room isDown =>
    have taken := left.taken placed
    have rest := taken.placed placed
    have fits := taken.length_le.trans_lt room
    exact (insertDown_arranged rest fits address).placed
      (insertDown_distinct rest fits (taken.absent absent))

/-- The operation keeps the split, and the order of the top items where they had one. -/
structure Kept (game : Game) (tile after : Tile) : Prop where
  stacked : Stacked game after
  sorted : Sorted game tile → Sorted game after

theorem Taken.kept (taken : Taken game tile after) (stacked : Stacked game tile) :
    Kept game tile after :=
  ⟨taken.stacked stacked, taken.sorted⟩

theorem Arranged.kept {ground : Option Nat} {down creatures : List Nat}
    (arranged : Arranged ground down tile.topItems creatures after) (stacked : Stacked game tile)
    (itemType : after.itemType game = tile.itemType game)
    (distinct : Distinct ground down tile.topItems creatures)
    (isDown : ∀ address ∈ down, address ∉ tile.downItems →
      (tile.itemType game address).alwaysOnTop = false) : Kept game tile after where
  stacked := arranged.stacked (by
    rw [itemType]
    exact stacked.fine.move distinct isDown fun address member new => absurd member new)
  sorted := fun sorted => by
    rw [Sorted, arranged.topOrders, itemType]
    exact sorted

theorem addCreature_kept (stacked : Stacked game tile) (absent : address ∉ tile.creatures) :
    Kept game tile { tile with creatures := address :: tile.creatures } := by
  have parts := stacked.placed.arranged
  have arranged : Arranged tile.ground tile.downItems tile.topItems (address :: tile.creatures)
      { tile with creatures := address :: tile.creatures } :=
    ⟨rfl, parts.items, parts.count, rfl⟩
  exact arranged.kept stacked rfl (stacked.placed.distinct.consCreature absent)
    fun address member new => absurd member new

theorem insertDown_kept (stacked : Stacked game tile) (room : tile.items.length < 0xFFFF)
    (isDown : (tile.itemType game address).alwaysOnTop = false)
    (absent : Absent tile address) : Kept game tile (tile.insertDown game address) := by
  obtain ⟨stays, sameOrders⟩ := insertDown_stacked stacked room isDown absent
  refine ⟨stays, fun sorted => ?_⟩
  rw [Sorted, sameOrders]
  exact sorted

theorem insertTop_kept (stacked : Stacked game tile) (room : tile.items.length < 0xFFFF)
    (isTop : (tile.itemType game address).alwaysOnTop = true)
    (absent : Absent tile address) {before : Nat → Bool}
    (below : ∀ other, before other = false → (tile.itemType game other).alwaysOnTopOrder ≤
      (tile.itemType game address).alwaysOnTopOrder)
    (above : ∀ other, before other = true → (tile.itemType game address).alwaysOnTopOrder ≤
      (tile.itemType game other).alwaysOnTopOrder) :
    Kept game tile (tile.insertTop game address before) where
  stacked := insertTop_stacked stacked room isTop absent before
  sorted := fun sorted => insertTop_sorted stacked sorted address below above

theorem Kept.trans {middle : Tile} (first : Kept game tile middle)
    (second : Kept game middle after) : Kept game tile after :=
  ⟨second.stacked, second.sorted ∘ first.sorted⟩

/-- What is added to a tile comes to the side of its class, in its order. -/
theorem Addition.kept {change : Change}
    (addition : Addition game tile address change after) (stacked : Stacked game tile)
    (absent : Absent tile address) : Kept game tile after := by
  have placed := stacked.placed
  have arranged := setGround_arranged placed address
  have distinct := absent.setGround placed
  cases addition with
  | refused => exact (Taken.refl placed).kept stacked
  | bare none =>
    exact (arranged.flagged address).kept stacked rfl distinct
      fun address member new => absurd member new
  | ground there =>
    exact ((arranged.unflagged _).flagged address).kept stacked rfl distinct
      fun address member new => absurd member new
  | top left room isTop below above =>
    have taken := left.taken placed
    refine (taken.kept stacked).trans (insertTop_kept (taken.stacked stacked)
      (taken.length_le.trans_lt room) ?_ (taken.absent absent) ?_ ?_)
    · rwa [taken.itemType]
    · rwa [taken.itemType]
    · rwa [taken.itemType]
  | down left room isDown =>
    have taken := left.taken placed
    refine (taken.kept stacked).trans (insertDown_kept (taken.stacked stacked)
      (taken.length_le.trans_lt room) ?_ (taken.absent absent))
    rwa [taken.itemType]

/-! ## Changing an item in its place -/

theorem getThingIndex_ne (stacked : Stacked game tile) (thing : Thing) :
    tile.getThingIndex game thing ≠ -1 ↔ thing ∈ tile.things := by
  rw [getThingIndex_eq stacked]
  by_cases present : thing ∈ tile.things
  · rw [if_pos present]
    exact iff_of_true (by omega) present
  · rw [if_neg present]
    exact iff_of_false (not_not.mpr rfl) present

/-- The type of an item changes within its class, as all that `updateThing` does to the
parts of the tile. -/
theorem update_stacked {ground : Option Nat} {down top creatures : List Nat}
    {itemType : Nat → ItemType} (fine : Fine itemType ground down top creatures)
    {newType : ItemType}
    (sameClass : ground ≠ some address →
      newType.alwaysOnTop = (itemType address).alwaysOnTop) :
    Fine (update itemType address newType) ground down top creatures := by
  refine fine.congr fun other member => ?_
  by_cases here : other = address
  · subst here
    rw [update_self]
    refine sameClass fun isGround => ?_
    have distinct := fine.distinct
    rw [isGround] at distinct
    exact (List.nodup_cons.mp distinct).1 member
  · rw [update_of_ne here]

theorem updateThing_arranged (stacked : Stacked game tile)
    (present : .item address ∈ tile.things) (itemId count : UInt16) :
    Arranged tile.ground tile.downItems tile.topItems tile.creatures
        (tile.updateThing game (.item address) itemId count) ∧
      (tile.updateThing game (.item address) itemId count).itemType game =
        update (tile.itemType game) address (game.items itemId) := by
  rw [Tile.updateThing, if_neg ((getThingIndex_ne stacked _).mpr present)]
  refine ⟨((stacked.placed.arranged.unflagged address).store address _).flagged address, ?_⟩
  have newId : (((tile.stored address).item.setID game itemId).setSubType game count).id =
      itemId := by
    rw [Item.setSubType_id, Item.setID_id]
  exact (itemType_store _ address _).trans (by rw [newId]; rfl)

theorem topOrders_update (distinct : tile.topItems.Nodup) (address : Nat) (newType : ItemType) :
    (tile.topItems.map fun other =>
        (update (tile.itemType game) address newType other).alwaysOnTopOrder) =
      if address ∈ tile.topItems then
        (tile.topOrders game).set (tile.topItems.idxOf address) newType.alwaysOnTopOrder
      else tile.topOrders game := by
  rw [Tile.topOrders, ← distinct.map_update]
  congr 1
  exact Function.comp_update ItemType.alwaysOnTopOrder (tile.itemType game) address newType

theorem updateThing_kept (stacked : Stacked game tile) {itemId : UInt16}
    (sameClass : tile.ground ≠ some address →
      (game.items itemId).alwaysOnTop = (tile.itemType game address).alwaysOnTop)
    (count : UInt16) :
    Stacked game (tile.updateThing game (.item address) itemId count) ∧
      (Sorted game tile →
        (Sorted game (tile.updateThing game (.item address) itemId count) ↔
          (address ∈ tile.topItems → Fits (tile.topOrders game) (tile.topItems.idxOf address)
            (game.items itemId).alwaysOnTopOrder))) := by
  by_cases present : .item address ∈ tile.things
  · obtain ⟨arranged, itemType⟩ := updateThing_arranged stacked present itemId count
    refine ⟨arranged.stacked ?_, fun sorted => ?_⟩
    · rw [itemType]
      exact update_stacked stacked.fine sameClass
    · rw [Sorted, arranged.topOrders, itemType, topOrders_update stacked.fine.nodup_top]
      by_cases member : address ∈ tile.topItems
      · have within : tile.topItems.idxOf address < (tile.topOrders game).length := by
          rw [Tile.topOrders, List.length_map]
          exact List.idxOf_lt_length_of_mem member
        rw [if_pos member, pairwise_set_iff sorted within]
        simp only [member, forall_const]
      · simp only [member, false_implies, iff_true]
        exact sorted
  · have unchanged : tile.updateThing game (.item address) itemId count = tile := by
      rw [Tile.updateThing, if_pos (not_not.mp fun some =>
        present ((getThingIndex_ne stacked _).mp some))]
    have notTop : address ∉ tile.topItems := fun member =>
      present (mem_things_item.mpr (.inr (.inl member)))
    rw [unchanged]
    exact ⟨stacked, fun sorted => iff_of_true sorted fun member => absurd member notTop⟩

/-! ## Putting an item in the place of another -/

/-- The old item is where the slot says. -/
def Tile.Slot.Found (tile : Tile) : Tile.Slot → Prop
  | .ground old => tile.ground = some old
  | .top pos old => tile.topItems[pos]? = some old
  | .down pos old => tile.downItems[pos]? = some old

theorem slotAt_found {index : Nat} {slot : Tile.Slot} (found : tile.slotAt index = some slot) :
    slot.Found tile := by
  rw [Tile.slotAt] at found
  simp only at found
  split_ifs at found
  all_goals
    obtain ⟨old, there, rfl⟩ := Option.map_eq_some_iff.mp found
    exact there

/-- The new item is of the class of the slot. -/
def Tile.Slot.Allows (itemType : ItemType) : Tile.Slot → Prop
  | .ground _ => True
  | .top _ _ => itemType.alwaysOnTop = true
  | .down _ _ => itemType.alwaysOnTop = false

/-- The order of the new item fits, where it comes among the top items. -/
def Tile.Slot.FitsIn (orders : List UInt8) (order : UInt8) : Tile.Slot → Prop
  | .top pos _ => Fits orders pos order
  | _ => True

namespace Tile.Slot

variable (tile : Tile) (address : Nat)

/-- The ground, the down items and the top items once a slot is filled. -/
def groundWith : Slot → Option Nat
  | .ground _ => some address
  | _ => tile.ground

def downWith : Slot → List Nat
  | .down pos _ => tile.downItems.set pos address
  | _ => tile.downItems

def topWith : Slot → List Nat
  | .top pos _ => tile.topItems.set pos address
  | _ => tile.topItems

end Tile.Slot

theorem fill_arranged (placed : Placed tile) (slot : Tile.Slot) (address : Nat) :
    Arranged (slot.groundWith tile address) (slot.downWith tile address)
      (slot.topWith tile address) tile.creatures (tile.fill slot address) := by
  have parts := placed.arranged
  cases slot with
  | ground old => exact setGround_arranged placed address
  | top pos old => exact ⟨rfl, rfl, parts.count, rfl⟩
  | down pos old =>
    refine ⟨rfl, rfl, ?_, rfl⟩
    rw [Tile.Slot.downWith, List.length_set]
    exact parts.count

theorem fill_distinct (placed : Placed tile) {slot : Tile.Slot} (found : slot.Found tile)
    (absent : Absent tile address) :
    Distinct (slot.groundWith tile address) (slot.downWith tile address)
      (slot.topWith tile address) tile.creatures := by
  cases slot with
  | ground old => exact absent.setGround placed
  | top pos old => exact placed.distinct.setTop (List.getElem?_eq_some_iff.mp found).1 absent
  | down pos old => exact placed.distinct.setDown (List.getElem?_eq_some_iff.mp found).1 absent

theorem replaceThing_kept (stacked : Stacked game tile) {index address : Nat}
    (absent : Absent tile address)
    (allowed : ∀ slot ∈ tile.slotAt index, slot.Allows (tile.itemType game address)) :
    Stacked game (tile.replaceThing game index address) ∧
      (Sorted game tile → (Sorted game (tile.replaceThing game index address) ↔
        ∀ slot ∈ tile.slotAt index, slot.FitsIn (tile.topOrders game)
          (tile.itemType game address).alwaysOnTopOrder)) := by
  rw [Tile.replaceThing]
  cases found : tile.slotAt index with
  | none => exact ⟨stacked, fun sorted => iff_of_true sorted fun _ never => by simp at never⟩
  | some slot =>
    have there := slotAt_found found
    have allowed := allowed slot found
    simp only [Option.mem_def, Option.some.injEq, forall_eq']
    have arranged : Arranged _ _ _ _
        (((tile.fill slot address).unflagged game slot.old).flagged game address) :=
      ((fill_arranged stacked.placed slot address).unflagged slot.old).flagged address
    have fine : Fine (tile.itemType game) (slot.groundWith tile address)
        (slot.downWith tile address) (slot.topWith tile address) tile.creatures := by
      refine stacked.fine.move (fill_distinct stacked.placed there absent) ?_ ?_
      · intro other member new
        cases slot with
        | ground old => exact absurd member new
        | top pos old => exact absurd member new
        | down pos old =>
          rcases List.mem_or_eq_of_mem_set member with old | rfl
          · exact absurd old new
          · exact allowed
      · intro other member new
        cases slot with
        | ground old => exact absurd member new
        | down pos old => exact absurd member new
        | top pos old =>
          rcases List.mem_or_eq_of_mem_set member with old | rfl
          · exact absurd old new
          · exact allowed
    have sameType : (((tile.fill slot address).unflagged game slot.old).flagged game
        address).itemType game = tile.itemType game := by
      cases slot <;> rfl
    refine ⟨arranged.stacked (by rwa [sameType]), fun sorted => ?_⟩
    rw [Sorted, arranged.topOrders, sameType]
    cases slot with
    | ground old => exact iff_of_true sorted trivial
    | down pos old => exact iff_of_true sorted trivial
    | top pos old =>
      have within : pos < tile.topItems.length := (List.getElem?_eq_some_iff.mp there).1
      rw [Tile.Slot.topWith, List.map_set]
      exact pairwise_set_iff sorted (by rwa [Tile.topOrders, List.length_map]) _

/-! ## Sequences of operations -/

/-- The operations on a tile; `elsewhere` is what happens to an item that is not on it. -/
inductive TileOp where
  | addThing (thing : Thing)
  | internalAddThing (thing : Thing)
  | updateThing (thing : Thing) (itemId count : UInt16)
  | replaceThing (index address : Nat)
  | removeThing (thing : Thing) (count : UInt32)
  | elsewhere (address : Nat) (item : TileItem)

namespace TileOp

/-- What is added is not on the tile. -/
def New (tile : Tile) : Thing → Prop
  | .item address => Absent tile address
  | .creature address => address ∉ tile.creatures

/-- What is added is not on the tile yet, and an item takes the place of one of its
class. -/
def Legal (game : Game) (tile : Tile) : TileOp → Prop
  | .addThing thing | .internalAddThing thing => New tile thing
  | .updateThing (.creature _) _ _ => True
  | .updateThing (.item address) itemId _ => tile.ground ≠ some address →
      (game.items itemId).alwaysOnTop = (tile.itemType game address).alwaysOnTop
  | .replaceThing index address => Absent tile address ∧
      ∀ slot ∈ tile.slotAt index, slot.Allows (tile.itemType game address)
  | .removeThing _ _ => True
  | .elsewhere address _ => Absent tile address

def step (game : Game) (tile : Tile) : TileOp → Tile
  | .addThing thing => tile.addThing game thing
  | .internalAddThing thing => tile.internalAddThing game thing
  | .updateThing thing itemId count => tile.updateThing game thing itemId count
  | .replaceThing index address => tile.replaceThing game index address
  | .removeThing thing count => tile.removeThing game thing count
  | .elsewhere address item => tile.store address item

/-- A top item that is changed, or takes the place of another, fits in there. -/
def Fitting (game : Game) (tile : Tile) : TileOp → Prop
  | .updateThing (.item address) itemId _ => address ∈ tile.topItems →
      Fits (tile.topOrders game) (tile.topItems.idxOf address)
        (game.items itemId).alwaysOnTopOrder
  | .replaceThing index address => ∀ slot ∈ tile.slotAt index,
      slot.FitsIn (tile.topOrders game) (tile.itemType game address).alwaysOnTopOrder
  | _ => True

end TileOp

def tileSystem (game : Game) : System Tile TileOp where
  legal := TileOp.Legal game
  step := TileOp.step game

/-- The item vector is partitioned, its top items are in their order, and the two index
functions are inverse to each other. -/
structure Ordered (game : Game) (tile : Tile) : Prop where
  split : tile.downItemCount.toNat ≤ tile.items.length
  isDown : ∀ address ∈ tile.items.take tile.downItemCount.toNat,
    (tile.itemType game address).alwaysOnTop = false
  isTop : ∀ address ∈ tile.items.drop tile.downItemCount.toNat,
    (tile.itemType game address).alwaysOnTop = true
  sorted : Sorted game tile
  indexed : Indexed game tile

theorem Stacked.ordered_iff (stacked : Stacked game tile) : Ordered game tile ↔ Sorted game tile :=
  ⟨Ordered.sorted, fun sorted =>
    ⟨stacked.split, stacked.fine.isDown, stacked.fine.isTop, sorted, stacked.indexed⟩⟩

theorem elsewhere_kept (stacked : Stacked game tile)
    (absent : Absent tile address) (item : TileItem) :
    Kept game tile (tile.store address item) := by
  have arranged := stacked.placed.arranged.store address item
  have others {other : Nat} (member : other ∈ tile.topItems ++ tile.downItems) :
      update (tile.itemType game) address (game.items item.item.id) other =
        tile.itemType game other :=
    update_of_ne
      (fun here => absent (List.mem_append_right _ (by rwa [here] at member))) _ _
  refine ⟨arranged.stacked ?_, fun sorted => ?_⟩
  · rw [itemType_store]
    exact stacked.fine.congr fun other member => by rw [others member]
  · rw [Sorted, arranged.topOrders, itemType_store]
    have same : (tile.topItems.map fun other => (update (tile.itemType game) address
        (game.items item.item.id) other).alwaysOnTopOrder) = tile.topOrders game :=
      List.map_congr_left fun other member => by rw [others (List.mem_append_left _ member)]
    rw [same]
    exact sorted

/-- **One operation.** The split is kept, and so is the order exactly when what changes
its order in its place fits in there. -/
theorem step_kept (stacked : Stacked game tile) {op : TileOp} (legal : op.Legal game tile) :
    Stacked game (op.step game tile) ∧
      (Sorted game tile → (Sorted game (op.step game tile) ↔ op.Fitting game tile)) := by
  have always {after : Tile} (kept : Kept game tile after) :
      Stacked game after ∧ (Sorted game tile → (Sorted game after ↔ True)) :=
    ⟨kept.stacked, fun sorted => iff_of_true (kept.sorted sorted) trivial⟩
  cases op with
  | addThing thing =>
    cases thing with
    | item address => exact always ((addThing_addition stacked.placed address).kept stacked legal)
    | creature address => exact always (addCreature_kept stacked legal)
  | internalAddThing thing =>
    cases thing with
    | item address => exact always ((internalAddThing_addition tile address).kept stacked legal)
    | creature address => exact always (addCreature_kept stacked legal)
  | updateThing thing itemId count =>
    cases thing with
    | item address => exact updateThing_kept stacked legal count
    | creature address =>
      have unchanged : tile.updateThing game (.creature address) itemId count = tile := by
        exact ite_self tile
      refine always ?_
      rw [TileOp.step, unchanged]
      exact (Taken.refl stacked.placed).kept stacked
  | replaceThing index address => exact replaceThing_kept stacked legal.1 legal.2
  | removeThing thing count =>
    exact always ((removeThing_taken stacked.placed thing count).kept stacked)
  | elsewhere address item => exact always (elsewhere_kept stacked legal item)

theorem empty_stacked (stored : Nat → TileItem) (flags : BitVec 32) :
    Stacked game { stored := stored, flags := flags } where
  split := Nat.le_refl 0
  fine := ⟨⟨Nat.zero_le _, by simp [Tile.downItems, Tile.topItems], List.nodup_nil⟩,
    by simp [Tile.downItems], by simp [Tile.topItems]⟩

/-- **Tiles stay in order exactly as long as what is changed in place fits.** After every
operation of a sequence on a tile that starts empty, the item vector is partitioned, the
top items are in non-decreasing order and the index functions are inverse to each other,
if and only if each `updateThing` and `replaceThing` of a top item gives it an order
between those of its neighbours. -/
theorem runs_ordered_iff (stored : Nat → TileItem) (ops : List TileOp)
    (legal : (tileSystem game).Legal { stored := stored } ops) :
    (tileSystem game).Throughout (fun _ _ after => Ordered game after) { stored := stored } ops ↔
      (tileSystem game).Throughout (fun tile op _ => op.Fitting game tile)
        { stored := stored } ops := by
  have step : ∀ (tile : Tile) (op : TileOp), Stacked game tile ∧ Sorted game tile →
      op.Legal game tile →
      (Ordered game (op.step game tile) ↔ op.Fitting game tile) ∧
        (Ordered game (op.step game tile) →
          Stacked game (op.step game tile) ∧ Sorted game (op.step game tile)) := by
    rintro tile op ⟨stacked, sorted⟩ legal
    obtain ⟨stays, order⟩ := step_kept stacked legal
    exact ⟨stays.ordered_iff.trans (order sorted), fun ordered => ⟨stays, ordered.sorted⟩⟩
  exact System.Throughout.iff_of_invariant step ⟨empty_stacked stored 0, .nil⟩ legal

/-- **The split and the index functions are right** in every run, also where the order is lost. -/
theorem runs_stacked (stored : Nat → TileItem) {ops : List TileOp}
    (legal : (tileSystem game).Legal { stored := stored } ops) :
    Stacked game ((tileSystem game).run { stored := stored } ops) ∧
      Indexed game ((tileSystem game).run { stored := stored } ops) := by
  have step : ∀ (tile : Tile) (op : TileOp), Stacked game tile → op.Legal game tile →
      Stacked game (op.step game tile) := fun _ _ stacked legal => (step_kept stacked legal).1
  have stacked := System.run_invariant_of_legal step (empty_stacked stored 0) legal
  exact ⟨stacked, stacked.indexed⟩

/-! ## An order that does not fit -/

/-- Items 1, 2 and 3 are always on top, in this order. -/
def layered : Game where
  items id := { id := id, alwaysOnTop := true, alwaysOnTopOrder := id.toUInt8 }
  uniqueItems _ := false

/-- The first item is of type 1, the others are of type 2. -/
def layeredItems (address : Nat) : TileItem :=
  ⟨{ id := if address = 0 then 1 else 2 }, .item⟩

/-- The lower item comes to the order of the upper one. -/
theorem runs_ordered_iff_layered :
    (tileSystem layered).Throughout (fun _ _ after => Ordered layered after)
      { stored := layeredItems }
      [.addThing (.item 0), .addThing (.item 1), .updateThing (.item 0) 2 1] := by
  have fits : Fits [1, 2] 0 2 := by
    refine ⟨fun _ none => absurd none List.not_mem_nil, fun other member => ?_⟩
    have same : other = 2 := List.mem_singleton.mp member
    rw [same]
    exact UInt8.le_refl 2
  refine (runs_ordered_iff layeredItems _ ?_).mpr ⟨trivial, trivial, fun _ => fits, trivial⟩
  exact ⟨(by decide : Absent _ 0), (by decide : Absent _ 1), fun _ => rfl, trivial⟩

theorem runs_stacked_layered : Indexed layered ((tileSystem layered).run { stored := layeredItems }
    [.addThing (.item 0), .addThing (.item 1), .updateThing (.item 0) 3 1]) := by
  refine (runs_stacked layeredItems ?_).2
  exact ⟨(by decide : Absent _ 0), (by decide : Absent _ 1), fun _ => rfl, trivial⟩

/-- **The order is lost.** The lower item comes to an order above that of the upper one,
and stays below it. -/
theorem update_past_neighbour_unordered :
    ¬ ∀ ops, (tileSystem layered).Legal { stored := layeredItems } ops →
      (tileSystem layered).Throughout (fun _ _ after => Ordered layered after)
        { stored := layeredItems } ops := by
  intro holds
  have ordered := holds [.addThing (.item 0), .addThing (.item 1), .updateThing (.item 0) 3 1]
    ⟨(by decide : Absent _ 0), (by decide : Absent _ 1), (fun _ => rfl), trivial⟩
  have sorted := ordered.2.2.1.sorted
  revert sorted
  decide

end Otserv.TileStack
