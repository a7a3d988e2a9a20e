import Otserv.Cylinders.Contents

/-!
# Where an item lands

What `queryDestination` finds for an item that lies nowhere is, when nothing is refused, a stack
that has room (`Onto`) or a free place (`Free`). Two things can go wrong with a player. A slot
that is asked for by its number may have a stack of the type in it that takes nothing of the item;
and among stacks the one in the trade is passed over without being counted, so that a container
which has it looks less full than it is.
-/

namespace Otserv.Cylinders

open Foundation
open Inventories (CONST_SLOT_FIRST CONST_SLOT_LAST)
open Items (Game Item)

theorem toInt_toInt32 {value : UInt32} (small : value.toNat < 2 ^ 31) :
    value.toInt32.toInt = value.toNat := by
  rw [Int32.toInt, UInt32.toBitVec_toInt32, BitVec.toInt_eq_toNat_of_lt]
  · rfl
  · exact Nat.lt_of_lt_of_eq (Nat.mul_lt_mul_of_pos_left small Nat.two_pos) rfl

/-- An item that is no container lies in no cylinder, and may be put into one that exists. -/
structure Contents.Ready (contents : Contents) (tree : Cylinder) (item : Nat) : Prop where
  forest : Forest contents.live contents.parent contents.itemlist
  present : ∀ root, contents.Root tree root → root ∈ contents.live
  container : ∀ pointer, tree = .container pointer → contents.isContainer pointer
  itemPresent : item ∈ contents.live
  loose : contents.parent item = none
  notRoot : ¬contents.Root tree item
  plain : contents.isContainer item = false
  empty : contents.itemlist item = []
  count : 0 < contents.count item

namespace World

variable {rules : Rules} {world : World} {item : Nat} {count : UInt32}

/-! ## What is not refused -/

variable {pointer : Nat} {flags : Flags} {index : Int32}

theorem slotAnswer_inRange (answer : world.slotAnswer rules index item count = .noError) :
    CONST_SLOT_FIRST ≤ index.toInt ∧ index.toInt ≤ CONST_SLOT_LAST := by
  rw [slotAnswer] at answer
  generalize index.toInt = slot at answer
  split at answer
  all_goals first
    | exact ⟨by decide, by decide⟩
    | cases answer

theorem slot_of_queryAdd (answer : world.playerQueryAdd rules index item count {} = .noError) :
    (CONST_SLOT_FIRST ≤ index.toInt ∧ index.toInt ≤ CONST_SLOT_LAST) ∧
      ∀ other ∈ world.getInventoryItem index.toInt.toNat,
        world.isStackable rules.game other = true ∧ (world.item other).id = (world.item item).id := by
  rw [playerQueryAdd, if_neg Bool.false_ne_true] at answer
  split at answer
  · cases answer
  · dsimp only at answer
    split at answer
    next wrong => exact absurd answer wrong.1
    next right =>
      split at answer
      · split at answer <;> cases answer
      next takes =>
        split at answer
        · cases answer
        · split at answer
          · cases answer
          · refine ⟨slotAnswer_inRange answer, fun other isOther => ?_⟩
            rw [isOther, Option.any_some, Bool.or_eq_true, Bool.not_eq_true', bne_iff_ne,
              not_or, Bool.not_eq_false, not_ne_iff] at takes
            exact takes

theorem hindered_ne_noError : world.hindered pointer item flags ≠ some .noError := by
  intro hindered
  obtain ⟨cylinder, -, found⟩ := List.exists_of_findSome?_eq_some hindered
  split at found
  · split at found
    · cases found
    · split at found <;> cases found
  · cases found

theorem size_lt_of_queryAdd
    (answer : world.containerQueryAdd rules pointer INDEX_WHEREEVER item count {} = .noError) :
    world.size pointer < world.maxSize pointer := by
  have plain (answer : world.plainQueryAdd rules pointer INDEX_WHEREEVER item count {} = .noError) :
      world.size pointer < world.maxSize pointer := by
    rw [plainQueryAdd, if_neg Bool.false_ne_true] at answer
    split at answer
    · cases answer
    · split at answer
      · cases answer
      · split at answer
        · cases answer
        · split at answer
          next ret hindered => exact absurd (answer ▸ hindered) hindered_ne_noError
          next =>
            split at answer
            · cases answer
            next free =>
              rw [Bool.not_false, Bool.true_and, beq_self_eq_true, Bool.true_and,
                decide_eq_true_eq] at free
              exact UInt32.not_le.mp free
  rw [containerQueryAdd] at answer
  split at answer
  · exact plain answer
  · split at answer
    · cases answer
    · exact plain answer
  · cases answer

/-! ## Places -/

/-- A stack in the tree that the item can be put on. -/
structure Onto (world : World) (tree : Cylinder) (destination : Destination)
    (item toItem : Nat) : Prop where
  there : world.hasThing destination.cylinder toItem
  inTree : world.contents.InTree tree toItem
  equals : world.equals item toItem
  room : world.getItemCount toItem < MAX_ITEM_COUNT

/-- A free place in the tree: an empty slot, or a container that is not full. -/
def Free (world : World) (tree : Cylinder) (destination : Destination) : Prop :=
  match destination.cylinder with
  | .player => tree = .player ∧
      (CONST_SLOT_FIRST ≤ destination.index.toInt ∧ destination.index.toInt ≤ CONST_SLOT_LAST) ∧
      world.inventory destination.index.toInt.toNat = none
  | .container pointer => world.contents.InTree tree pointer ∧ world.isContainer pointer ∧
      (world.itemlist pointer).length < (world.maxSize pointer).toNat ∧
      ¬destination.index ≥ (world.heap.capacity pointer).toInt32
  | .outside _ => False

theorem equals_comm (first second : Nat) : world.equals first second = world.equals second first := by
  have general (item other : Item) : item.equals other → other.equals item := by
    intro equal
    rw [Item.equals, decide_eq_true_eq] at equal ⊢
    obtain ⟨sameId, ints, strs, none, otherNone⟩ := equal
    rw [List.all_eq_true] at ints strs
    refine ⟨sameId.symm, ?_, ?_, otherNone, none⟩
    · rw [List.all_eq_true]
      exact fun type member => decide_eq_true (of_decide_eq_true (ints type member)).symm
    · rw [List.all_eq_true]
      exact fun type member => decide_eq_true (of_decide_eq_true (strs type member)).symm
  rw [equals, equals, Bool.eq_iff_iff, Bool.or_eq_true, Bool.or_eq_true, decide_eq_true_eq,
    decide_eq_true_eq, eq_comm]
  exact or_congr_right ⟨general _ _, general _ _⟩

section Places

variable {tree : Cylinder} (tidy : world.contents.Tidy tree)
include tidy

theorem maxSize_toInt (pointer : Nat) :
    (world.heap.capacity pointer).toInt32.toInt = (world.maxSize pointer).toNat :=
  toInt_toInt32 (Nat.lt_trans (tidy.built pointer) (by decide))

variable {pointer : Nat}

/-- A container counts right what is in it. -/
theorem size_toNat (inTree : world.contents.InTree tree pointer) :
    (world.size pointer).toNat = (world.itemlist pointer).length := by
  have small : (world.itemlist pointer).length < 2 ^ 32 :=
    Nat.lt_of_le_of_lt (tidy.sizes pointer inTree) (Nat.lt_trans (tidy.built pointer) (by decide))
  exact Nat.mod_eq_of_lt small

theorem free_of_queryAdd {destItem : Option Nat}
    (inTree : world.contents.InTree tree pointer) (isContainer : world.isContainer pointer)
    (answer : world.containerQueryAdd rules pointer INDEX_WHEREEVER item count {} = .noError) :
    world.Free tree ⟨.container pointer, INDEX_WHEREEVER, destItem⟩ := by
  have free := size_lt_of_queryAdd answer
  rw [UInt32.lt_iff_toNat_lt, size_toNat tidy inTree] at free
  refine ⟨inTree, isContainer, free, ?_⟩
  rw [ge_iff_le, Int32.not_le, Int32.lt_iff_toInt_lt, maxSize_toInt tidy]
  exact Int.lt_of_lt_of_le (by decide : INDEX_WHEREEVER.toInt < 0) (Int.natCast_nonneg _)

theorem length_lt_of_freeSlots (inTree : world.contents.InTree tree pointer)
    (free : world.freeSlots pointer ≠ 0) :
    (world.itemlist pointer).length < (world.maxSize pointer).toNat := by
  refine Nat.lt_of_le_of_ne (tidy.sizes pointer inTree) fun full => free ?_
  have same : world.maxSize pointer = world.size pointer := by
    rw [← UInt32.toNat_inj, size_toNat tidy inTree]
    exact full.symm
  rw [freeSlots, same, UInt32.sub_self]
  rfl

end Places

/-- The cylinder an item really goes to: a container with the index that means "up" hands it to
the one it lies in. -/
def receiver (world : World) (cylinder : Cylinder) (index : Int32) : Cylinder :=
  match cylinder with
  | .container pointer =>
    if world.unlocked pointer && index = 254 then
      match world.getParent cylinder with
      | some (.container parentContainer) => .container parentContainer
      | _ => cylinder
    else cylinder
  | _ => cylinder

/-- Where an item lands: on a stack that has room, or in a free place. -/
def Lands (rules : Rules) (world : World) (tree : Cylinder) (destination : Destination)
    (item : Nat) : Prop :=
  (world.isStackable rules.game item ∧
      ∃ toItem, destination.destItem = some toItem ∧ world.Onto tree destination item toItem) ∨
    world.Free tree destination ∧ ∀ toItem, destination.destItem = some toItem →
      world.isStackable rules.game item → world.equals item toItem →
      world.getItemCount toItem = MAX_ITEM_COUNT

theorem stackRoom_eq_zero
    (none : ∀ other ∈ world.itemlist pointer, ¬(other ≠ item ∧ world.hasRoom other item)) :
    world.stackRoom rules pointer INDEX_WHEREEVER item flags = 0 := by
  have nothing : ((world.itemlist pointer).filter fun other =>
      other ≠ item && world.hasRoom other item) = [] := by
    refine List.filter_eq_nil_iff.mpr fun other member => ?_
    rw [Bool.and_eq_true, decide_eq_true_eq]
    exact none other member
  rw [stackRoom, if_pos rfl, nothing]
  rfl

section Container

variable {tree : Cylinder} {pointer : Nat} (tidy : world.contents.Tidy tree)
  (inTree : world.contents.InTree tree pointer) (isContainer : world.isContainer pointer)
include tidy inTree isContainer

theorem free_of_freeSlots {index : Int32} {destItem : Option Nat}
    (low : index.toInt < (world.maxSize pointer).toNat) (free : world.freeSlots pointer ≠ 0) :
    world.Free tree ⟨.container pointer, index, destItem⟩ := by
  refine ⟨inTree, isContainer, length_lt_of_freeSlots tidy inTree free, ?_⟩
  rw [ge_iff_le, Int32.not_le, Int32.lt_iff_toInt_lt, maxSize_toInt tidy]
  exact low

theorem lands_here {index : Int32} {destItem : Option Nat}
    (low : index.toInt < (world.maxSize pointer).toNat)
    (isThere : ∀ toItem, destItem = some toItem → toItem ∈ world.itemlist pointer)
    (formed : world.heap.Formed) (loose : world.parent item = none)
    (counted : 0 < world.getItemCount item)
    (enough : (world.containerQueryMaxCount rules pointer INDEX_WHEREEVER item
      (world.getItemCount item) {}).1 = .noError) :
    world.Lands rules tree (world.stackDestination rules pointer index destItem item {}) item := by
  have apart (other : Nat) (member : other ∈ world.itemlist pointer) : other ≠ item := by
    rintro rfl
    have isParent : world.heap.parent other = some pointer := formed.mem_iff.mp member
    rw [parent, isParent] at loose
    cases loose
  have below (other : Nat) (member : other ∈ world.itemlist pointer) :
      world.contents.InTree tree other :=
    Contents.inTree_of_parent (formed.mem_iff.mp member) inTree
  have onto {destination : Destination} {toItem : Nat}
      (here : destination.cylinder = .container pointer) (member : toItem ∈ world.itemlist pointer)
      (hasRoom : world.hasRoom toItem item) : world.Onto tree destination item toItem := by
    rw [World.hasRoom, Bool.and_eq_true, decide_eq_true_eq] at hasRoom
    refine ⟨?_, below toItem member, (equals_comm ..).trans hasRoom.1, hasRoom.2⟩
    rw [here]
    exact decide_eq_true member
  rw [containerQueryMaxCount, if_neg Bool.false_ne_true] at enough
  rw [stackDestination]
  by_cases stackable : world.isStackable rules.game item
  · rw [if_pos stackable] at enough
    rw [if_pos (by rw [loose, stackable]; rfl)]
    split
    next isStack =>
      cases isDest : destItem with
      | none =>
        rw [isDest] at isStack
        exact absurd isStack Bool.false_ne_true
      | some toItem =>
        rw [isDest, Option.any_some, Bool.and_eq_true, decide_eq_true_eq] at isStack
        have member := isThere toItem isDest
        refine .inl ⟨stackable, toItem, rfl, onto rfl member ?_⟩
        rw [World.hasRoom, isStack.1, Bool.true_and, decide_eq_true_eq]
        exact UInt32.lt_trans isStack.2 (by decide)
    next =>
      split
      next listItem n found =>
        have hasRoom := List.find?_some found
        have member := List.fst_mem_of_mem_zipIdx (List.mem_of_find?_eq_some found)
        rw [Bool.and_eq_true] at hasRoom
        exact .inl ⟨stackable, listItem, rfl, onto rfl member hasRoom.2⟩
      next nowhere =>
        have none : ∀ other ∈ world.itemlist pointer,
            ¬(other ≠ item ∧ world.hasRoom other item) := by
          intro other member
          obtain ⟨n, isOther⟩ := List.getElem?_of_mem member
          have not := List.find?_eq_none.mp nowhere (other, n)
            (List.mk_mem_zipIdx_iff_getElem?.mpr isOther)
          rwa [Bool.and_eq_true, decide_eq_true_eq] at not
        refine .inr ⟨free_of_freeSlots tidy inTree isContainer low fun full => ?_, ?_⟩
        · rw [full, stackRoom_eq_zero none] at enough
          dsimp only at enough
          rw [UInt32.zero_mul, UInt32.add_zero, if_pos counted] at enough
          cases enough
        · intro toItem found _ equal
          have member := isThere toItem found
          have full := fun room => none toItem member ⟨apart toItem member, room⟩
          rw [World.hasRoom, equals_comm, equal, Bool.true_and, decide_eq_true_eq] at full
          exact UInt32.le_antisymm (tidy.counts toItem (below toItem member))
            (UInt32.not_lt.mp full)
  · rw [if_neg stackable] at enough
    rw [if_neg (by
      rw [Bool.eq_false_iff.mpr stackable, Bool.and_false, Bool.false_and]
      exact Bool.false_ne_true)]
    refine .inr ⟨free_of_freeSlots tidy inTree isContainer low fun full => ?_, ?_⟩
    · dsimp only at enough
      rw [if_pos full] at enough
      cases enough
    · exact fun _ _ isStackable => absurd isStackable stackable

end Container

theorem getItemByIndex_mem {toItem : Nat}
    (found : world.getItemByIndex pointer index = some toItem) :
    toItem ∈ world.itemlist pointer := by
  rw [getItemByIndex] at found
  split at found
  · cases found
  · exact List.mem_of_getElem? found

theorem lands_container
    (ready : world.contents.Ready (world.receiver (.container pointer) index) item)
    (tidy : world.contents.Tidy (world.receiver (.container pointer) index))
    (loose : world.parent item = none)
    (answer : world.queryAdd rules (world.containerQueryDestination rules pointer index item
        {}).cylinder (world.containerQueryDestination rules pointer index item {}).index item count
      {} = .noError)
    (enough : (world.containerQueryMaxCount rules pointer INDEX_WHEREEVER item
      (world.getItemCount item) {}).1 = .noError) :
    world.Lands rules (world.receiver (.container pointer) index)
      (world.containerQueryDestination rules pointer index item {}) item := by
  have formed : world.heap.Formed := ready.forest
  have root {above : Nat} (isTree : world.receiver (.container pointer) index = .container above) :
      world.contents.InTree (world.receiver (.container pointer) index) above ∧
        world.isContainer above := by
    refine ⟨Contents.inTree_of_root ?_, ready.container above isTree⟩
    rw [isTree]
    rfl
  have free {above : Nat}
      (inTree : world.contents.InTree (world.receiver (.container pointer) index) above)
      (isContainer : world.isContainer above)
      (answer : world.queryAdd rules (.container above) INDEX_WHEREEVER item count {} = .noError) :
      world.Lands rules (world.receiver (.container pointer) index)
        ⟨.container above, INDEX_WHEREEVER, none⟩ item :=
    .inr ⟨free_of_queryAdd tidy inTree isContainer answer, fun toItem found => by cases found⟩
  generalize isDestination : world.containerQueryDestination rules pointer index item {} =
    destination at answer ⊢
  rw [containerQueryDestination] at isDestination
  dsimp only at isDestination
  split at isDestination
  next locked =>
    rw [unlocked, Bool.not_eq_true', bne_eq_false_iff_eq] at locked
    rw [← isDestination, queryAdd, containerQueryAdd, locked] at answer
    cases answer
  next isUnlocked =>
    rw [Bool.not_eq_true', Bool.not_eq_false] at isUnlocked
    split at isDestination
    next up =>
      have isTree : world.receiver (.container pointer) index =
          match world.getParent (.container pointer) with
          | some (.container parentContainer) => .container parentContainer
          | _ => .container pointer := if_pos (by rw [isUnlocked, up]; rfl)
      split at isDestination
      next parentContainer isParent =>
        rw [isParent] at isTree
        subst isDestination
        exact free (root isTree).1 (root isTree).2 answer
      next noParent =>
        have isTree : world.receiver (.container pointer) index = .container pointer := by
          rw [isTree]
          split
          next parentContainer isParent => exact absurd isParent (noParent parentContainer)
          next => rfl
        subst isDestination
        exact free (root isTree).1 (root isTree).2 answer
    next notUp =>
      have isTree : world.receiver (.container pointer) index = .container pointer :=
        if_neg (by rw [Bool.and_eq_true, decide_eq_true_eq]; exact fun both => notUp both.2)
      obtain ⟨inTree, isContainer⟩ := root isTree
      generalize isIndex : (if (index = 255 || index ≥ (world.maxSize pointer).toInt32) = true
        then INDEX_WHEREEVER else index) = place at isDestination
      have low : place.toInt < (world.maxSize pointer).toNat := by
        rw [← maxSize_toInt tidy, ← isIndex]
        split
        · rw [maxSize_toInt tidy]
          exact Int.lt_of_lt_of_le (by decide : INDEX_WHEREEVER.toInt < 0) (Int.natCast_nonneg _)
        next within =>
          rw [Bool.or_eq_true, decide_eq_true_eq, decide_eq_true_eq, not_or, ge_iff_le,
            Int32.not_le, Int32.lt_iff_toInt_lt] at within
          exact within.2
      have isThere : ∀ toItem, (if place ≠ INDEX_WHEREEVER then
          world.getItemByIndex pointer place else none) = some toItem →
          toItem ∈ world.itemlist pointer := by
        intro toItem found
        split at found
        · exact getItemByIndex_mem found
        · cases found
      have here := lands_here tidy inTree isContainer low isThere formed loose
        ready.count enough
      split at isDestination
      next other found =>
        split at isDestination
        next isSub =>
          subst isDestination
          have inSub := Contents.inTree_of_parent
            (formed.mem_iff.mp (isThere other found)) inTree
          exact free inSub isSub answer
        next => exact isDestination ▸ here
      next => exact isDestination ▸ here

/-! ## The loops of a player -/

/-- A container that a player carries. -/
def Carried (world : World) (pointer : Nat) : Prop :=
  world.contents.InTree .player pointer ∧ world.isContainer pointer

theorem slot_inRange {slot : Nat} (inRange : slot ∈ slots) :
    CONST_SLOT_FIRST ≤ slot ∧ slot ≤ CONST_SLOT_LAST :=
  (List.mem_range'_1.mp inRange).imp_right fun below => Nat.lt_succ_iff.mp below

theorem hasThing_of_slot {slot toItem : Nat} (inRange : slot ∈ slots)
    (isIn : world.inventory slot = some toItem) : world.hasThing .player toItem := by
  refine List.find?_isSome.mpr ⟨slot, inRange, ?_⟩
  rw [isIn]
  exact decide_eq_true rfl

/-- What the loop over the slots finds. -/
def Scanned (rules : Rules) (world : World) (item : Nat) :
    (Nat × Option Nat) ⊕ List Nat → Prop
  | .inl (slot, some toItem) => slot ∈ slots ∧ world.inventory slot = some toItem ∧
      world.isStackable rules.game item ∧ world.hasRoom toItem item
  | .inl (slot, none) => slot ∈ slots ∧ world.inventory slot = none
  | .inr containers => ∀ pointer ∈ containers, world.Carried pointer

theorem scanned (flags : Flags) {containers list : List Nat}
    (carried : ∀ pointer ∈ containers, world.Carried pointer) (inRange : ∀ slot ∈ list, slot ∈ slots) :
    world.Scanned rules item (world.scanSlots rules item flags containers list) := by
  induction list generalizing containers with
  | nil => exact carried
  | cons slot list ih =>
    have rest : ∀ slot ∈ list, slot ∈ slots := fun slot member =>
      inRange slot (List.mem_cons_of_mem _ member)
    have here := inRange slot List.mem_cons_self
    rw [scanSlots]
    split
    next inventoryItem isIn =>
      split
      · exact ih carried rest
      · split
        · exact ih carried rest
        · split
          next merges =>
            rw [Bool.and_eq_true, Bool.and_eq_true, Bool.and_eq_true] at merges
            exact ⟨here, isIn, merges.1.1.2, merges.2⟩
          next =>
            split
            next isContainer =>
              refine ih (fun pointer member => ?_) rest
              rcases List.mem_append.mp member with member | member
              · exact carried pointer member
              · rw [List.mem_singleton.mp member]
                exact ⟨Contents.inTree_of_root ⟨slot, isIn⟩, isContainer⟩
            next => exact ih carried rest
    next isEmpty =>
      split
      · exact ⟨here, isEmpty⟩
      · exact ih carried rest

theorem scanContainers_spec (formed : world.heap.Formed) (flags : Flags) (fuel : Nat)
    {containers : List Nat} (carried : ∀ pointer ∈ containers, world.Carried pointer)
    {destination : Destination}
    (found : world.scanContainers rules item flags fuel containers = some destination) :
    ∃ pointer, world.Carried pointer ∧ destination.cylinder = .container pointer ∧
      world.placeIn rules pointer item flags = some (destination.index, destination.destItem) := by
  induction fuel generalizing containers with
  | zero => cases found
  | succ fuel ih =>
    cases containers with
    | nil => cases found
    | cons tmpContainer containers =>
      rw [scanContainers] at found
      split at found
      next index destItem isPlace =>
        obtain rfl := Option.some.inj found
        exact ⟨tmpContainer, carried tmpContainer List.mem_cons_self, rfl, isPlace⟩
      next =>
        refine ih (fun pointer member => ?_) found
        rcases List.mem_append.mp member with member | member
        · exact carried pointer (List.mem_cons_of_mem _ member)
        · obtain ⟨isIn, isSub⟩ := List.mem_filter.mp member
          rw [Bool.and_eq_true] at isSub
          exact ⟨Contents.inTree_of_parent (formed.mem_iff.mp isIn)
            (carried tmpContainer List.mem_cons_self).1, isSub.1⟩

theorem freeIndex_spec {container : Nat} {n : Nat}
    (found : world.freeIndex rules container item flags n = some index) :
    ∃ k, 1 ≤ k ∧ k ≤ n ∧ index = (world.maxSize container - .ofNat k).toInt32 := by
  induction n with
  | zero => cases found
  | succ n ih =>
    rw [freeIndex] at found
    split at found
    · exact ⟨n + 1, n.succ_pos, Nat.le_refl _, (Option.some.inj found).symm⟩
    · obtain ⟨k, first, last, isIndex⟩ := ih found
      exact ⟨k, first, Nat.le_succ_of_le last, isIndex⟩

/-- The kinds of places a player is asked for that bring an item to where it can be: a slot that
is asked for by its number has no stack of the type that takes nothing of the item, and the stack
in the trade lies in no full container. -/
structure Fitting (rules : Rules) (world : World) (item : Nat) (index : Int32) : Prop where
  named : ∀ other ∈ world.getThing index, world.isStackable rules.game other →
    (world.item other).id = (world.item item).id → world.hasRoom other item
  shown : ∀ pointer, world.Carried pointer →
    (∃ other ∈ world.itemlist pointer, world.tradeItem = some other) →
      (world.itemlist pointer).length < (world.maxSize pointer).toNat

theorem getThing_eq_some {toItem : Nat} (isThing : world.getThing index = some toItem) :
    index.toInt.toNat ∈ slots ∧ world.inventory index.toInt.toNat = some toItem := by
  rw [getThing, Inventories.Player.getInventoryItem] at isThing
  split at isThing
  · cases isThing
  next inRange =>
    refine ⟨List.mem_range'_1.mpr ⟨?_, ?_⟩, isThing⟩
    · exact Nat.not_lt.mp fun low => inRange (.inl low)
    · exact Nat.lt_succ_of_le (Nat.not_lt.mp fun high => inRange (.inr high))

theorem onto_of_slot {slot toItem : Nat} (inRange : slot ∈ slots)
    (isIn : world.inventory slot = some toItem) (hasRoom : world.hasRoom toItem item)
    (index : Int32) : world.Onto .player ⟨.player, index, some toItem⟩ item toItem := by
  rw [World.hasRoom, Bool.and_eq_true, decide_eq_true_eq] at hasRoom
  exact ⟨hasThing_of_slot inRange isIn, Contents.inTree_of_root ⟨slot, isIn⟩,
    (equals_comm ..).trans hasRoom.1, hasRoom.2⟩

section Player

variable (ready : world.contents.Ready .player item)
include ready

theorem onto_of_mem {pointer toItem : Nat} (carried : world.Carried pointer)
    (member : toItem ∈ world.itemlist pointer) (hasRoom : world.hasRoom toItem item)
    (index : Int32) (destItem : Option Nat) :
    world.Onto .player ⟨.container pointer, index, destItem⟩ item toItem := by
  rw [World.hasRoom, Bool.and_eq_true, decide_eq_true_eq] at hasRoom
  exact ⟨decide_eq_true member,
    Contents.inTree_of_parent (ready.forest.mem_iff.mp member) carried.1,
    (equals_comm ..).trans hasRoom.1, hasRoom.2⟩

/-- The stack in the trade does not make a container that is not full look less full. -/
theorem length_filter_lt {pointer n : Nat}
    (shown : (∃ other ∈ world.itemlist pointer, world.tradeItem = some other) →
      (world.itemlist pointer).length < n)
    (free : ((world.itemlist pointer).filter fun tmpItem =>
      world.tradeItem ≠ some tmpItem ∧ tmpItem ≠ item).length < n) :
    (world.itemlist pointer).length < n := by
  by_cases traded : ∃ other ∈ world.itemlist pointer, world.tradeItem = some other
  · exact shown traded
  · rwa [List.filter_eq_self.mpr fun tmpItem member => ?_] at free
    refine decide_eq_true ⟨fun isTraded => traded ⟨tmpItem, member, isTraded⟩, ?_⟩
    rintro rfl
    have isParent : world.contents.parent tmpItem = some pointer := ready.forest.mem_iff.mp member
    rw [ready.loose] at isParent
    cases isParent

variable (tidy : world.contents.Tidy .player)
include tidy

theorem lands_placeIn {pointer : Nat} {index : Int32} {destItem : Option Nat}
    (shown : (∃ other ∈ world.itemlist pointer, world.tradeItem = some other) →
      (world.itemlist pointer).length < (world.maxSize pointer).toNat)
    (carried : world.Carried pointer)
    (found : world.placeIn rules pointer item {} = some (index, destItem)) :
    world.Lands rules .player ⟨.container pointer, index, destItem⟩ item := by
  have sizes : (world.itemlist pointer).length ≤ (world.maxSize pointer).toNat :=
    tidy.sizes pointer carried.1
  have built : (world.maxSize pointer).toNat < 2 ^ 16 := tidy.built pointer
  have isSize := size_toNat tidy carried.1
  have isMax := maxSize_toInt tidy pointer
  have free {place : Int32} (low : place.toInt < (world.maxSize pointer).toNat)
      (room : (world.itemlist pointer).length < (world.maxSize pointer).toNat) :
      world.Lands rules .player ⟨.container pointer, place, none⟩ item := by
    refine .inr ⟨⟨carried.1, carried.2, room, ?_⟩, fun toItem found => by cases found⟩
    rw [ge_iff_le, Int32.not_le, Int32.lt_iff_toInt_lt, isMax]
    exact low
  rw [placeIn] at found
  split at found
  next plain =>
    obtain ⟨place, isPlace, same⟩ := Option.map_eq_some_iff.mp found
    obtain ⟨rfl, rfl⟩ := Prod.mk.inj same
    obtain ⟨k, first, last, rfl⟩ := freeIndex_spec isPlace
    have isLess : world.size pointer ≤ world.maxSize pointer := by
      rw [UInt32.le_iff_toNat_le, isSize]
      exact sizes
    rw [UInt32.toNat_sub_of_le _ _ isLess, isSize] at last
    have isK : (UInt32.ofNat k).toNat = k := by
      rw [UInt32.toNat_ofNat']
      omega
    have lower : UInt32.ofNat k ≤ world.maxSize pointer := by
      rw [UInt32.le_iff_toNat_le, isK]
      omega
    have isPlace : (world.maxSize pointer - UInt32.ofNat k).toNat =
        (world.maxSize pointer).toNat - k := by
      rw [UInt32.toNat_sub_of_le _ _ lower, isK]
    refine free ?_ (by omega)
    rw [toInt_toInt32 (by omega), isPlace]
    omega
  next stackable =>
    rw [Bool.false_or, Bool.not_eq_true', Bool.not_eq_false] at stackable
    rw [stackPlace] at found
    dsimp only at found
    split at found
    next tmpItem n isStack =>
      obtain ⟨rfl, rfl⟩ := Prod.mk.inj (Option.some.inj found)
      have hasRoom := List.find?_some isStack
      have member := List.fst_mem_of_mem_zipIdx (List.mem_of_find?_eq_some isStack)
      exact .inl ⟨stackable, tmpItem, rfl,
        onto_of_mem ready carried (List.mem_filter.mp member).1 hasRoom _ _⟩
    next =>
      split at found
      next isFree =>
        obtain ⟨rfl, rfl⟩ := Prod.mk.inj (Option.some.inj found)
        have shorter := List.length_filter_le (fun tmpItem =>
          decide (world.tradeItem ≠ some tmpItem ∧ tmpItem ≠ item)) (world.itemlist pointer)
        rw [Bool.and_eq_true, decide_eq_true_eq, UInt32.lt_iff_toNat_lt,
          UInt32.toNat_ofNat', Nat.mod_eq_of_lt (by omega)] at isFree
        refine free ?_ (length_filter_lt ready shown isFree.1)
        rw [Int32.toInt_ofNat_of_lt (by omega)]
        exact_mod_cast isFree.1
      next => cases found

theorem lands_player {index : Int32} (fitting : world.Fitting rules item index)
    (answer : world.queryAdd rules (world.playerQueryDestination rules index item {}).cylinder
      (world.playerQueryDestination rules index item {}).index item count {} = .noError) :
    world.Lands rules .player (world.playerQueryDestination rules index item {}) item := by
  generalize isDestination : world.playerQueryDestination rules index item {} = destination
    at answer ⊢
  have empty {place : Int32} (inRange : CONST_SLOT_FIRST ≤ place.toInt ∧ place.toInt ≤ CONST_SLOT_LAST)
      (isEmpty : world.inventory place.toInt.toNat = none) :
      world.Lands rules .player ⟨.player, place, none⟩ item :=
    .inr ⟨⟨rfl, inRange, isEmpty⟩, fun toItem found => by cases found⟩
  rw [playerQueryDestination] at isDestination
  split at isDestination
  next wherever =>
    have carried := @scanned rules world item {} [] slots (fun pointer member => by cases member)
      fun slot member => member
    split at isDestination
    next slot destItem found =>
      rw [found] at carried
      subst isDestination
      cases destItem with
      | some toItem =>
        obtain ⟨inRange, isIn, stackable, hasRoom⟩ := carried
        exact .inl ⟨stackable, toItem, rfl, onto_of_slot inRange isIn hasRoom _⟩
      | none =>
        obtain ⟨inRange, isEmpty⟩ := carried
        have bounds := slot_inRange inRange
        have isSlot : (Int32.ofNat slot).toInt = slot :=
          Int32.toInt_ofNat_of_lt (Nat.lt_of_le_of_lt bounds.2 (by decide))
        refine empty ?_ ?_
        · omega
        · rw [isSlot]
          exact isEmpty
    next containers found =>
      rw [found] at carried
      cases isPlace : world.scanContainers rules item {} (world.heap.live.card + 1)
          containers with
      | some place =>
        rw [isPlace, Option.getD_some] at isDestination
        subst isDestination
        obtain ⟨cylinder, index, destItem⟩ := place
        obtain ⟨pointer, isCarried, rfl, isIn⟩ :=
          scanContainers_spec ready.forest {} _ carried isPlace
        exact lands_placeIn ready tidy (fitting.shown pointer isCarried) isCarried isIn
      | none =>
        rw [isPlace, Option.getD_none] at isDestination
        subst isDestination
        have bounds := (slot_of_queryAdd answer).1
        rw [Bool.or_eq_true, decide_eq_true_eq, decide_eq_true_eq] at wherever
        rcases wherever with rfl | rfl
        · exact absurd bounds.1 (by decide)
        · exact absurd bounds.1 (by decide)
  next =>
    split at isDestination
    next destThing isThing =>
      obtain ⟨inRange, isIn⟩ := getThing_eq_some isThing
      split at isDestination
      next isContainer =>
        subst isDestination
        exact .inr ⟨free_of_queryAdd tidy (Contents.inTree_of_root ⟨_, isIn⟩) isContainer
          answer, fun toItem found => by cases found⟩
      next =>
        subst isDestination
        obtain ⟨stackable, sameId⟩ := (slot_of_queryAdd answer).2 destThing isThing
        have hasRoom := fitting.named destThing isThing stackable sameId
        have isStackable : world.isStackable rules.game item := by
          rw [World.isStackable, Item.isStackable, sameId] at stackable
          exact stackable
        exact .inl ⟨isStackable, destThing, rfl, onto_of_slot inRange isIn hasRoom _⟩
    next nothing =>
      subst isDestination
      have bounds := (slot_of_queryAdd answer).1
      rw [getThing, Inventories.Player.getInventoryItem, if_neg (by dsimp only at bounds; omega)]
        at nothing
      exact empty bounds nothing

end Player

/-- **Where an item lands.** -/
theorem lands {cylinder : Cylinder}
    (ready : world.contents.Ready (world.receiver cylinder index) item)
    (tidy : world.contents.Tidy (world.receiver cylinder index)) (loose : world.parent item = none)
    (fitting : cylinder = .player → world.Fitting rules item index)
    (answer : world.queryAdd rules (world.queryDestination rules cylinder index item {}).cylinder
      (world.queryDestination rules cylinder index item {}).index item count {} = .noError)
    (enough : (world.queryMaxCount rules cylinder INDEX_WHEREEVER item
      (world.getItemCount item) {}).1 = .noError) :
    world.Lands rules (world.receiver cylinder index)
      (world.queryDestination rules cylinder index item {}) item := by
  cases cylinder with
  | player => exact lands_player ready tidy (fitting rfl) answer
  | container pointer => exact lands_container ready tidy loose answer enough
  | outside holder => cases answer

end World

end Otserv.Cylinders
