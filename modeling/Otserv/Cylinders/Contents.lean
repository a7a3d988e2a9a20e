import Otserv.Cylinders.AddItem
import Otserv.Inventories.WornBalls

/-!
# What is in a cylinder

All that lies in a cylinder, in what lies in it and so on is a tree of items (`InTree`). How many
there are of a type is told by the types and counts of the items and by what lies where, and so
is whether all stacks and containers keep to their limits (`Tidy`). An item that is put on a
stack, hung into a container or worn changes that in one place.
-/

namespace Otserv.Cylinders

open Foundation
open Function (update update_of_ne update_apply)

/-- The types and counts of the items, and what lies where. -/
structure Contents where
  live : Finset Nat
  id : Nat → UInt16
  count : Nat → UInt16
  parent : Nat → Option Nat
  itemlist : Nat → List Nat
  isContainer : Nat → Bool
  maxSize : Nat → UInt32
  inventory : Nat → Option Nat

def World.contents (world : World) : Contents where
  live := world.heap.live
  id pointer := (world.item pointer).id
  count pointer := (world.item pointer).count
  parent := world.heap.parent
  itemlist := world.heap.itemlist
  isContainer := world.heap.isContainer
  maxSize := world.heap.capacity
  inventory := world.inventory

namespace Contents

/-- What lies right in a cylinder: what a player wears. A container is counted itself. -/
def Root (contents : Contents) : Cylinder → Nat → Prop
  | .player, item => ∃ slot, item ∈ contents.inventory slot
  | .container pointer, item => item = pointer
  | .outside _, _ => False

/-- An item lies in a cylinder, or in what lies in it. -/
def InTree (contents : Contents) (cylinder : Cylinder) : Nat → Prop :=
  Held (contents.Root cylinder) contents.parent

open Classical in
/-- How many there are of a type. -/
noncomputable def itemTypeCount (contents : Contents) (cylinder : Cylinder) (id : UInt16) : Nat :=
  ∑ item ∈ contents.live with contents.InTree cylinder item ∧ contents.id item = id,
    (contents.count item).toNat

/-- No stack is too large and no container too full. A container is built for less than
`2 ^ 16` items. -/
structure Tidy (contents : Contents) (cylinder : Cylinder) : Prop where
  counts : ∀ item, contents.InTree cylinder item →
    (contents.count item).toUInt32 ≤ MAX_ITEM_COUNT
  sizes : ∀ item, contents.InTree cylinder item →
    (contents.itemlist item).length ≤ (contents.maxSize item).toNat
  built : ∀ item, (contents.maxSize item).toNat < 2 ^ 16

variable {contents : Contents} {cylinder : Cylinder} {item : Nat}

theorem inTree_of_root (isRoot : contents.Root cylinder item) : contents.InTree cylinder item :=
  ⟨item, isRoot, .refl⟩

theorem inTree_of_parent {above : Nat} (isParent : contents.parent item = some above)
    (inTree : contents.InTree cylinder above) : contents.InTree cylinder item :=
  inTree.imp fun _ => .imp_right (.head isParent)

section

variable (formed : Forest contents.live contents.parent contents.itemlist)
include formed

theorem live_of_inTree (present : ∀ root, contents.Root cylinder root → root ∈ contents.live)
    (inTree : contents.InTree cylinder item) : item ∈ contents.live := by
  obtain ⟨root, isRoot, within⟩ := inTree
  rcases within.cases_head with rfl | ⟨above, isParent, -⟩
  · exact present _ isRoot
  · exact formed.present isParent

/-- What does not live lies nowhere and holds nothing. -/
theorem parent_of_not_live (absent : item ∉ contents.live) : contents.parent item = none := by
  cases isParent : contents.parent item with
  | none => rfl
  | some above => exact absurd (formed.present isParent) absent

theorem itemlist_of_not_live (absent : item ∉ contents.live) : contents.itemlist item = [] := by
  rw [List.eq_nil_iff_forall_not_mem]
  intro child member
  obtain ⟨cost, rising⟩ := formed.rising
  have isParent := formed.mem_iff.mp member
  exact absent (rising child (formed.present isParent) _ isParent).1

/-- An item that holds nothing and lies nowhere is below itself only. -/
theorem eq_of_within (empty : contents.itemlist item = []) {other : Nat}
    (within : Within contents.parent other item) : other = item := by
  rcases within.cases_tail with same | ⟨below, -, isParent⟩
  · exact same.symm
  · have member := formed.mem_iff.mpr isParent
    rw [empty] at member
    exact absurd member List.not_mem_nil

end

theorem not_inTree_of_loose (loose : contents.parent item = none)
    (notRoot : ¬contents.Root cylinder item) : ¬contents.InTree cylinder item := by
  rintro ⟨root, isRoot, within⟩
  rw [within_root loose] at within
  exact notRoot (within ▸ isRoot)

theorem itemTypeCount_congr {after : Contents}
    (inTree : ∀ item, after.InTree cylinder item ↔ contents.InTree cylinder item)
    (same : ∀ item, contents.InTree cylinder item → (item ∈ after.live ↔ item ∈ contents.live) ∧
      after.id item = contents.id item ∧ after.count item = contents.count item)
    (id : UInt16) : after.itemTypeCount cylinder id = contents.itemTypeCount cylinder id := by
  classical
  have items : (after.live.filter fun item => after.InTree cylinder item ∧ after.id item = id) =
      contents.live.filter fun item => contents.InTree cylinder item ∧ contents.id item = id := by
    ext item
    rw [Finset.mem_filter, Finset.mem_filter, inTree]
    constructor
    · rintro ⟨isLive, isIn, isType⟩
      obtain ⟨live, sameId, -⟩ := same item isIn
      exact ⟨live.mp isLive, isIn, sameId ▸ isType⟩
    · rintro ⟨isLive, isIn, isType⟩
      obtain ⟨live, sameId, -⟩ := same item isIn
      exact ⟨live.mpr isLive, isIn, sameId.trans isType⟩
  rw [itemTypeCount, itemTypeCount, items]
  refine Finset.sum_congr rfl fun item member => ?_
  rw [(same item (Finset.mem_filter.mp member).2.1).2.2]

/-! ## A stack of another count -/

def restack (contents : Contents) (item : Nat) (count : UInt16) : Contents :=
  { contents with count := update contents.count item count }

theorem itemTypeCount_restack (present : item ∈ contents.live)
    (inTree : contents.InTree cylinder item) (count : UInt16) :
    (contents.restack item count).itemTypeCount cylinder (contents.id item) +
        (contents.count item).toNat =
      contents.itemTypeCount cylinder (contents.id item) + count.toNat := by
  classical
  have member : item ∈ contents.live.filter fun other =>
      contents.InTree cylinder other ∧ contents.id other = contents.id item :=
    Finset.mem_filter.mpr ⟨present, inTree, rfl⟩
  have same : ((contents.restack item count).live.filter fun other =>
      (contents.restack item count).InTree cylinder other ∧
        (contents.restack item count).id other = contents.id item) =
      contents.live.filter fun other =>
        contents.InTree cylinder other ∧ contents.id other = contents.id item :=
    Finset.filter_congr fun other _ => .rfl
  rw [itemTypeCount, itemTypeCount, same, ← Finset.add_sum_erase _ _ member,
    ← Finset.add_sum_erase (_ : Finset Nat) (fun other => (contents.count other).toNat) member]
  have others : ∑ other ∈ (contents.live.filter fun other =>
        contents.InTree cylinder other ∧ contents.id other = contents.id item).erase item,
      ((contents.restack item count).count other).toNat =
      ∑ other ∈ (contents.live.filter fun other =>
        contents.InTree cylinder other ∧ contents.id other = contents.id item).erase item,
      (contents.count other).toNat := by
    refine Finset.sum_congr rfl fun other isOther => congrArg UInt16.toNat ?_
    exact update_of_ne (Finset.mem_erase.mp isOther).1 ..
  have own : (contents.restack item count).count item = count := Function.update_self ..
  rw [others, own]
  omega

theorem Tidy.restack (tidy : contents.Tidy cylinder) {count : UInt16}
    (small : count.toUInt32 ≤ MAX_ITEM_COUNT) : (contents.restack item count).Tidy cylinder where
  counts other inTree := by
    have isCount : (contents.restack item count).count other =
        if other = item then count else contents.count other := update_apply ..
    rw [isCount]
    split
    · exact small
    · exact tidy.counts other inTree
  sizes := tidy.sizes
  built := tidy.built

/-! ## A new item -/

/-- An item that is no container comes to exist, in nothing. -/
def bear (contents : Contents) (item : Nat) (id count : UInt16) : Contents :=
  { contents with
    live := insert item contents.live
    id := update contents.id item id
    count := update contents.count item count
    isContainer := update contents.isContainer item false
    maxSize := update contents.maxSize item 0 }

theorem restack_bear (id count other : UInt16) :
    (contents.bear item id count).restack item other = contents.bear item id other := by
  rw [restack, bear, bear, Function.update_idem]

theorem inTree_bear (id count : UInt16) (other : Nat) :
    (contents.bear item id count).InTree cylinder other ↔ contents.InTree cylinder other := by
  cases cylinder <;> exact .rfl

section Bear

variable {id count : UInt16} (new : item ∉ contents.live)
include new

theorem bear_of_live {other : Nat} (isLive : other ∈ contents.live) :
    (contents.bear item id count).id other = contents.id other ∧
      (contents.bear item id count).count other = contents.count other ∧
      (contents.bear item id count).isContainer other = contents.isContainer other ∧
      (contents.bear item id count).maxSize other = contents.maxSize other := by
  have different : other ≠ item := fun same => new (same ▸ isLive)
  exact ⟨update_of_ne different .., update_of_ne different ..,
    update_of_ne different .., update_of_ne different ..⟩

variable (present : ∀ other, contents.InTree cylinder other → other ∈ contents.live)
include present

theorem itemTypeCount_bear (type : UInt16) :
    (contents.bear item id count).itemTypeCount cylinder type =
      contents.itemTypeCount cylinder type := by
  refine itemTypeCount_congr (fun other => inTree_bear id count other)
    (fun other inTree => ?_) type
  have isLive := present other inTree
  obtain ⟨sameId, sameCount, -, -⟩ := @bear_of_live _ _ id count new _ isLive
  exact ⟨iff_of_true (Finset.mem_insert_of_mem isLive) isLive, sameId, sameCount⟩

theorem Tidy.bear (tidy : contents.Tidy cylinder) :
    (contents.bear item id count).Tidy cylinder := by
  have was {other : Nat} := (@inTree_bear contents cylinder item id count other).mp
  refine ⟨fun other inTree => ?_, fun other inTree => ?_, fun other => ?_⟩
  · rw [(bear_of_live new (present other (was inTree))).2.1]
    exact tidy.counts other (was inTree)
  · rw [(bear_of_live new (present other (was inTree))).2.2.2]
    exact tidy.sizes other (was inTree)
  · have isSize : (contents.bear item id count).maxSize other =
        if other = item then 0 else contents.maxSize other := update_apply ..
    rw [isSize]
    split
    · decide
    · exact tidy.built other

end Bear

/-! ## Another item -/

/-- Where an item is found that was not there before, and all else stays. -/
structure Gains (contents after : Contents) (cylinder : Cylinder) (item : Nat) : Prop where
  live : after.live = contents.live
  id : after.id = contents.id
  count : after.count = contents.count
  inTree : ∀ other, after.InTree cylinder other ↔ contents.InTree cylinder other ∨ other = item

theorem Gains.itemTypeCount {after : Contents} (gains : contents.Gains after cylinder item)
    (present : item ∈ contents.live) (new : ¬contents.InTree cylinder item) :
    after.itemTypeCount cylinder (contents.id item) =
      contents.itemTypeCount cylinder (contents.id item) + (contents.count item).toNat := by
  classical
  have absent : item ∉ contents.live.filter fun other =>
      contents.InTree cylinder other ∧ contents.id other = contents.id item := fun member =>
    new (Finset.mem_filter.mp member).2.1
  have same : (after.live.filter fun other =>
      after.InTree cylinder other ∧ after.id other = contents.id item) =
      insert item (contents.live.filter fun other =>
        contents.InTree cylinder other ∧ contents.id other = contents.id item) := by
    ext other
    rw [Finset.mem_insert, Finset.mem_filter, Finset.mem_filter, gains.live, gains.id,
      gains.inTree]
    constructor
    · rintro ⟨isLive, inTree | rfl, isType⟩
      · exact .inr ⟨isLive, inTree, isType⟩
      · exact .inl rfl
    · rintro (rfl | ⟨isLive, inTree, isType⟩)
      · exact ⟨present, .inr rfl, rfl⟩
      · exact ⟨isLive, .inl inTree, isType⟩
  rw [Contents.itemTypeCount, Contents.itemTypeCount, same, Finset.sum_insert absent, gains.count,
    Nat.add_comm]

/-- An item is hung into a container. -/
def hang (contents : Contents) (pointer item : Nat) : Contents :=
  { contents with
    parent := update contents.parent item (some pointer)
    itemlist := update contents.itemlist pointer (item :: contents.itemlist pointer) }

/-- An item is worn. -/
def wear (contents : Contents) (slot item : Nat) : Contents :=
  { contents with inventory := update contents.inventory slot (some item) }

theorem gains_hang {pointer : Nat} (loose : contents.parent item = none)
    (bare : ∀ other, Within contents.parent other item → other = item)
    (inTree : contents.InTree cylinder pointer) :
    contents.Gains (contents.hang pointer item) cylinder item where
  live := rfl
  id := rfl
  count := rfl
  inTree other := by
    have attached := @Held.attach_iff _ (contents.Root cylinder) contents.parent _ item pointer
      loose other
    refine attached.trans (or_congr_right ⟨fun below => bare other below.1, ?_⟩)
    rintro rfl
    exact ⟨.refl, inTree⟩

theorem gains_wear {slot : Nat} (bare : ∀ other, Within contents.parent other item → other = item)
    (empty : contents.inventory slot = none) :
    contents.Gains (contents.wear slot item) .player item where
  live := rfl
  id := rfl
  count := rfl
  inTree other := by
    have inventory (place : Nat) : (contents.wear slot item).inventory place =
        if place = slot then some item else contents.inventory place := update_apply ..
    have isRoot (root : Nat) : (contents.wear slot item).Root .player root ↔
        contents.Root .player root ∨ root = item := by
      constructor
      · rintro ⟨place, isIn⟩
        rw [inventory] at isIn
        by_cases here : place = slot
        · rw [if_pos here, Option.mem_some_iff] at isIn
          exact .inr isIn.symm
        · rw [if_neg here] at isIn
          exact .inl ⟨place, isIn⟩
      · rintro (⟨place, isIn⟩ | rfl)
        · have here : place ≠ slot := by
            rintro rfl
            rw [empty] at isIn
            cases isIn
          exact ⟨place, by rw [inventory, if_neg here]; exact isIn⟩
        · exact ⟨slot, by rw [inventory, if_pos rfl]; rfl⟩
    have inserted : (contents.wear slot item).InTree .player other ↔
        contents.InTree .player other ∨ Within contents.parent other item :=
      (Held.congr isRoot other).trans (Held.insert_iff item other)
    refine inserted.trans (or_congr_right ⟨bare other, ?_⟩)
    rintro rfl
    exact .refl

/-- Only a container that has room gets fuller. -/
theorem Tidy.sizes_hang {pointer : Nat} (tidy : contents.Tidy cylinder)
    (gains : contents.Gains (contents.hang pointer item) cylinder item)
    (empty : contents.itemlist item = [])
    (room : (contents.itemlist pointer).length < (contents.maxSize pointer).toNat) (other : Nat)
    (inTree : (contents.hang pointer item).InTree cylinder other) :
    ((contents.hang pointer item).itemlist other).length ≤ (contents.maxSize other).toNat := by
  have isList : (contents.hang pointer item).itemlist other =
      if other = pointer then item :: contents.itemlist pointer else contents.itemlist other :=
    update_apply ..
  rw [isList]
  split
  next here =>
    rw [here, List.length_cons]
    exact room
  next =>
    rcases (gains.inTree other).mp inTree with was | rfl
    · exact tidy.sizes other was
    · rw [empty]
      exact Nat.zero_le _

theorem Tidy.sizes_wear {slot : Nat} (tidy : contents.Tidy .player)
    (gains : contents.Gains (contents.wear slot item) .player item)
    (empty : contents.itemlist item = []) (other : Nat)
    (inTree : (contents.wear slot item).InTree .player other) :
    (contents.itemlist other).length ≤ (contents.maxSize other).toNat := by
  rcases (gains.inTree other).mp inTree with was | rfl
  · exact tidy.sizes other was
  · rw [empty]
    exact Nat.zero_le _

end Contents

end Otserv.Cylinders

namespace Otserv.Containers.Heap

open Items (Game)

variable {heap : Heap} {game : Game}

@[simp] theorem capacity_modify {pointer : Nat} {change : Container → Container}
    (same : ∀ it, (change it).maxSize = it.maxSize) :
    (heap.modify pointer change).capacity = heap.capacity := funext (elim_modify 0 same)

theorem capacity_updateItemWeight (pointer : Nat) (diff : Int32) :
    (heap.updateItemWeight pointer diff).capacity = heap.capacity := by
  rw [updateItemWeight]
  generalize heap.live.card = fuel
  induction fuel generalizing heap pointer with
  | zero => rfl
  | succ fuel ih =>
    have same (weight : UInt32) : (heap.setTotalWeight pointer weight).capacity = heap.capacity :=
      capacity_modify fun _ => rfl
    simp only [updateItemWeightWithin]
    split
    · rw [ih, same]
    · rw [same]

theorem capacity_internalAddThing {pointer : Nat} (container : heap.isContainer pointer)
    (item : Nat) : (heap.internalAddThing game pointer item).capacity = heap.capacity := by
  have same {heap : Heap} (list : List Nat) :
      (heap.setPokeballs pointer list).capacity = heap.capacity := capacity_modify fun _ => rfl
  rw [internalAddThing, insertCached_eq, same, capacity_updateItemWeight]
  · exact capacity_modify fun _ => rfl
  · rwa [isContainer_updateItemWeight, isContainer_setItemlist]

theorem capacity_updateThing (pointer item : Nat) (itemId : UInt16) (count : UInt32) :
    (heap.updateThing game pointer item itemId count).capacity = heap.capacity := by
  rw [updateThing]
  split
  · exact capacity_updateItemWeight ..
  · rfl

end Otserv.Containers.Heap

namespace Otserv.Cylinders.World

open Function (update update_of_ne update_eq_self update_apply)
open Containers (Tree)
open Containers.Heap (tree_internalAddThing tree_updateThing capacity_internalAddThing
  capacity_updateThing)
open Inventories (CONST_SLOT_FIRST CONST_SLOT_LAST)
open Items (Game Item)

/-! ## What is done to the contents -/

variable {game : Game} {world : World} {item : Nat}

theorem contents_of_tree {tree : Tree} (isTree : world.heap.tree = tree)
    {maxSize : Nat → UInt32} (isSize : world.heap.capacity = maxSize)
    {inventory : Nat → Option Nat} (isInventory : world.inventory = inventory) :
    world.contents =
      { live := tree.live, id := fun pointer => (tree.item pointer).id,
        count := fun pointer => (tree.item pointer).count, parent := tree.parent,
        itemlist := tree.itemlist, isContainer := tree.isContainer, maxSize, inventory } := by
  subst isTree isSize isInventory
  rfl

@[simp] theorem contents_notify (cylinder : Cylinder) :
    (world.notify game cylinder).contents = world.contents := by
  have weighed : (world.updateInventoryWeight game).contents = world.contents := by
    rw [updateInventoryWeight]
    split <;> rfl
  cases cylinder with
  | player => exact weighed
  | outside holder => rfl
  | container pointer =>
    rw [notify]
    split
    · split
      · exact weighed
      · rfl
    · rfl

theorem contents_setItem {changed : Item} (same : changed.id = (world.item item).id) :
    (world.setItem item changed).contents = world.contents.restack item changed.count := by
  have items (other : Nat) : (world.setItem item changed).item other =
      if other = item then changed else world.item other := update_apply ..
  have ids : (world.setItem item changed).contents.id = world.contents.id := by
    funext other
    change ((world.setItem item changed).item other).id = (world.item other).id
    rw [items]
    split
    next here => rw [same, here]
    next => rfl
  have counts : (world.setItem item changed).contents.count =
      update world.contents.count item changed.count := by
    funext other
    change ((world.setItem item changed).item other).count = _
    rw [items, update_apply, apply_ite Item.count]
    rfl
  rw [contents, Contents.restack]
  congr 1

@[simp] theorem contents_restack_self :
    world.contents.restack item (world.item item).count = world.contents := by
  have same : update world.contents.count item (world.item item).count =
      world.contents.count := update_eq_self item world.contents.count
  rw [Contents.restack, same]

@[simp] theorem contents_pushToDecay : (world.pushToDecay item).contents = world.contents :=
  (@contents_setItem world item ((world.item item).setDecaying .decaying) rfl).trans
    contents_restack_self

@[simp] theorem contents_startDecay : (world.startDecay item).contents = world.contents := by
  rw [startDecay]
  split
  · exact contents_pushToDecay
  · rfl

theorem contents_setItemCount (count : UInt16) :
    (world.setItemCount item count).contents = world.contents.restack item count :=
  contents_setItem rfl

/-- A stack is updated where it is, if its type counts stacks. -/
theorem contents_updateThing {cylinder : Cylinder} (there : world.hasThing cylinder item)
    (stackable : world.isStackable game item)
    (dry : ¬((game.items (world.item item).id).isFluidContainer ||
      (game.items (world.item item).id).isSplash) = true) (count : UInt32) :
    (world.updateThing game cylinder item (world.item item).id count).contents =
      world.contents.restack item count.toUInt16 := by
  have changed : ((world.item item).setID game (world.item item).id).setSubType game
      count.toUInt16 = ((world.item item).setID game (world.item item).id).setItemCount
        count.toUInt16 := by
    rw [Item.setSubType, Item.setID_id, if_neg dry]
    exact if_pos stackable
  have sameId : (((world.item item).setID game (world.item item).id).setItemCount
      count.toUInt16).id = (world.item item).id := Item.setID_id ..
  cases cylinder with
  | player =>
    rw [updateThing, if_pos there, changed]
    exact contents_setItem sameId
  | outside holder => exact absurd there Bool.false_ne_true
  | container pointer =>
    have member : item ∈ world.heap.itemlist pointer := of_decide_eq_true there
    have isItem : (world.updateThing game (.container pointer) item (world.item item).id
        count).contents = (world.setItem item (((world.item item).setID game
          (world.item item).id).setSubType game count.toUInt16)).contents := by
      refine (@contents_of_tree (world.updateThing game (.container pointer) item _ count) _
        (tree_updateThing member _ count) _ (capacity_updateThing ..) world.inventory rfl).trans ?_
      rfl
    rw [isItem, changed]
    exact contents_setItem sameId

theorem next_not_mem (world : World) : world.next ∉ world.heap.live := by
  intro member
  have below : world.next ≤ world.heap.live.sup id := Finset.le_sup (f := id) member
  rw [next] at below
  omega

/-- Nothing is known of the next address. -/
theorem contents_allocate (formed : world.heap.Formed) (item : Item) :
    (world.allocate item).contents = world.contents.bear world.next item.id item.count := by
  have absent := world.next_not_mem
  have loose : world.heap.parent world.next = none :=
    @Contents.parent_of_not_live world.contents world.next formed absent
  have empty : world.heap.itemlist world.next = [] :=
    @Contents.itemlist_of_not_live world.contents world.next formed absent
  have parent : update world.heap.parent world.next none = world.heap.parent := by
    rw [← loose, update_eq_self]
  have elim {Value : Type} (default : Value) (view : Containers.Container → Value) :
      (fun pointer => (update world.heap.container world.next none pointer).elim default
        view) = update (fun pointer => (world.heap.container pointer).elim default view)
          world.next default := by
    funext pointer
    rw [update_apply, update_apply]
    split <;> rfl
  have itemlist : (world.allocate item).heap.itemlist = world.heap.itemlist := by
    have updated : update world.heap.itemlist world.next [] = world.heap.itemlist := by
      rw [← empty, update_eq_self]
    exact (elim [] Containers.Container.itemlist).trans updated
  have isContainer : (world.allocate item).heap.isContainer =
      update world.heap.isContainer world.next false := by
    funext pointer
    have isIt : (world.allocate item).heap.container pointer =
        if pointer = world.next then none else world.heap.container pointer :=
      update_apply ..
    rw [Containers.Heap.isContainer, isIt, update_apply]
    split <;> rfl
  have items {Value : Type} (view : Item → Value) :
      (fun pointer => view (update world.heap.item world.next item pointer)) =
        update (fun pointer => view (world.heap.item pointer)) world.next (view item) := by
    funext pointer
    rw [update_apply, update_apply]
    split <;> rfl
  have capacity : (world.allocate item).heap.capacity =
      update world.heap.capacity world.next 0 := elim 0 Containers.Container.maxSize
  rw [contents, Contents.bear, itemlist, isContainer, capacity]
  congr 1
  · exact items Item.id
  · exact items Item.count

theorem contents_addThing_container {pointer : Nat} {index : Int32}
    (container : world.isContainer pointer)
    (fits : ¬index ≥ (world.heap.capacity pointer).toInt32) :
    (world.addThing game (.container pointer) index item).contents =
      world.contents.hang pointer item := by
  have added : (world.toPlayer.containerAddThing game pointer index item).heap =
        world.heap.internalAddThing game pointer item ∧
      (world.toPlayer.containerAddThing game pointer index item).inventory = world.inventory := by
    have hung : world.heap.addThing game pointer index item =
        world.heap.internalAddThing game pointer item := if_neg fits
    rw [Inventories.Player.containerAddThing, if_neg fits, hung]
    dsimp only
    split
    · rw [Inventories.Player.foldl_insertPokeball]
      exact ⟨rfl, rfl⟩
    · exact ⟨rfl, rfl⟩
  have tree : (world.addThing game (.container pointer) index item).heap.tree = _ :=
    (congrArg Containers.Heap.tree added.1).trans (tree_internalAddThing container item)
  have capacity : (world.addThing game (.container pointer) index item).heap.capacity = _ :=
    (congrArg Containers.Heap.capacity added.1).trans (capacity_internalAddThing container item)
  exact contents_of_tree tree capacity added.2

theorem contents_addThing_player {index : Int32} (loose : world.heap.parent item = none)
    (inRange : CONST_SLOT_FIRST ≤ index.toInt ∧ index.toInt ≤ CONST_SLOT_LAST) :
    (world.addThing game .player index item).contents =
      world.contents.wear index.toInt.toNat item := by
  have outOfRange : ¬(index.toInt < CONST_SLOT_FIRST ∨ index.toInt > CONST_SLOT_LAST) := by
    omega
  have sameParent : world.heap.setParent item none = world.heap := by
    rw [Containers.Heap.setParent, ← loose, update_eq_self]
  have added : world.toPlayer.addThing index item =
      (world.toPlayer.adopt item).setSlot index.toInt.toNat (some item) := if_neg outOfRange
  rw [addThing, added, Inventories.Player.adopt, sameParent]
  rfl

end Otserv.Cylinders.World
