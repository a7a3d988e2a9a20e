import Otserv.Containers.Container

/-!
# Trees of containers

What the operations on containers make of the forest that parents and contents are
(`Heap.Formed`). Propagated weights and lists of pokeballs are no part of it
(`tree_updateItemWeight`, `tree_insertCached`, `tree_removeCached`), so each operation
hangs an item up, takes one down, does both, or changes one where it is.

An item that enters a container is loose and not above that container; the forest is kept
by all operations (`step_formed`).
-/

namespace Otserv.Containers

open Foundation
open Function (update update_self)
open Items (Game Item)

/-- The heap without weights and lists of pokeballs. -/
structure Tree where
  live : Finset Nat
  item : Nat → Item
  parent : Nat → Option Nat
  itemlist : Nat → List Nat
  isContainer : Nat → Bool
  skips : Nat → Bool

namespace Heap

def tree (heap : Heap) : Tree where
  live := heap.live
  item := heap.item
  parent := heap.parent
  itemlist := heap.itemlist
  isContainer := heap.isContainer
  skips := heap.skips

variable {game : Game} {heap : Heap} {pointer item : Nat}

@[simp] theorem tree_setTotalWeight (weight : UInt32) :
    (heap.setTotalWeight pointer weight).tree = heap.tree := by
  simp only [tree, itemlist_setTotalWeight, isContainer_setTotalWeight, skips_setTotalWeight]
  rfl

@[simp] theorem tree_setPokeballs (list : List Nat) :
    (heap.setPokeballs pointer list).tree = heap.tree := by
  simp only [tree, itemlist_setPokeballs, isContainer_setPokeballs, skips_setPokeballs]
  rfl

@[simp] theorem tree_setParent (above : Option Nat) :
    (heap.setParent pointer above).tree =
      { heap.tree with parent := update heap.parent pointer above } := rfl

theorem tree_setItemlist (container : heap.isContainer pointer) (list : List Nat) :
    (heap.setItemlist pointer list).tree =
      { heap.tree with itemlist := update heap.itemlist pointer list } := by
  simp only [tree, itemlist_setItemlist container, isContainer_setItemlist, skips_setItemlist]
  rfl

/-! ## Weights on the way up -/

/-- The virtual parent is looked for above the item. -/
theorem getParentWithin_congr {other : Heap} {node : Nat} (skips : other.skips = heap.skips)
    (chain : ∀ {passed}, Within heap.parent node passed → other.parent passed = heap.parent passed)
    (fuel : Nat) : other.getParentWithin fuel node = heap.getParentWithin fuel node := by
  induction fuel generalizing node with
  | zero => rfl
  | succ fuel ih =>
    rw [getParentWithin, getParentWithin, skips, chain .refl]
    cases isParent : heap.parent node with
    | none => rfl
    | some above => rw [Option.bind_some, Option.bind_some, ih fun within =>
      chain (.head isParent within)]

theorem inside_of_getParentWithin {fuel node beyond : Nat}
    (isParent : beyond ∈ heap.getParentWithin fuel node) : Inside heap.parent node beyond := by
  induction fuel generalizing node with
  | zero => cases isParent
  | succ fuel ih =>
    rw [getParentWithin] at isParent
    by_cases skips : heap.skips node
    · rw [if_pos skips, Option.mem_def, Option.bind_eq_some_iff] at isParent
      obtain ⟨above, isAbove, isParent⟩ := isParent
      exact .head isAbove (ih isParent)
    · rw [if_neg skips] at isParent
      exact .single isParent

theorem inside_of_skips {fuel node above beyond : Nat} (skips : heap.skips node)
    (isAbove : heap.parent node = some above)
    (isParent : beyond ∈ heap.getParentWithin fuel node) : Inside heap.parent above beyond := by
  cases fuel with
  | zero => cases isParent
  | succ fuel =>
    rw [getParentWithin, if_pos skips, isAbove, Option.bind_some] at isParent
    exact inside_of_getParentWithin isParent

/-- Parents and contents agree, and nothing lies in itself. -/
abbrev Formed (heap : Heap) : Prop := Forest heap.live heap.parent heap.itemlist

/-- Nothing lies anywhere yet. -/
structure Untouched (heap : Heap) : Prop where
  loose : ∀ pointer, heap.parent pointer = none
  empty : ∀ pointer, heap.itemlist pointer = []
  weightless : ∀ pointer, heap.totalWeight pointer = 0
  unlisted : ∀ pointer, heap.pokeballs pointer = []

theorem Untouched.formed (untouched : heap.Untouched) : heap.Formed where
  nodup := by
    intro node
    rw [untouched.empty]
    exact List.nodup_nil
  mem_iff := by
    intro node child
    rw [untouched.empty, untouched.loose]
    exact iff_of_false List.not_mem_nil (Option.not_mem_none node)
  present := by
    intro node above isParent
    rw [untouched.loose] at isParent
    cases isParent
  rising := by
    refine ⟨fun _ => 0, fun node _ above isParent => ?_⟩
    rw [untouched.loose] at isParent
    cases isParent

theorem Formed.isContainer (formed : heap.Formed) {node above : Nat}
    (isParent : above ∈ heap.parent node) : heap.isContainer above := by
  have member := formed.mem_iff.mpr isParent
  rw [Heap.isContainer]
  cases isIt : heap.container above with
  | none =>
    rw [itemlist, isIt] at member
    cases member
  | some it => rfl

theorem tree_updateItemWeight (pointer : Nat) (diff : Int32) :
    (heap.updateItemWeight pointer diff).tree = heap.tree := by
  rw [updateItemWeight]
  generalize heap.live.card = fuel
  induction fuel generalizing heap pointer with
  | zero => rfl
  | succ fuel ih =>
    simp only [updateItemWeightWithin]
    split
    · rw [ih, tree_setTotalWeight]
    · rw [tree_setTotalWeight]

theorem pokeballs_updateItemWeight (pointer : Nat) (diff : Int32) :
    (heap.updateItemWeight pointer diff).pokeballs = heap.pokeballs := by
  rw [updateItemWeight]
  generalize heap.live.card = fuel
  induction fuel generalizing heap pointer with
  | zero => rfl
  | succ fuel ih =>
    simp only [updateItemWeightWithin]
    split
    · rw [ih, pokeballs_setTotalWeight]
    · rw [pokeballs_setTotalWeight]

/-- The sums are raised from a container on, along the virtual parents. What is not above
the container may differ while that is done. -/
theorem totalWeight_updateItemWeight (formed : heap.Formed) (other : Heap)
    (container : heap.isContainer pointer) (live : other.live = heap.live)
    (isContainer : other.isContainer = heap.isContainer) (skips : other.skips = heap.skips)
    (chain : ∀ {passed}, Within heap.parent pointer passed →
      other.parent passed = heap.parent passed) (diff : Int32) :
    (other.updateItemWeight pointer diff).totalWeight =
      raise heap.getParentContainer heap.live.card pointer diff.toUInt32 other.totalWeight := by
  rw [updateItemWeight, live]
  generalize heap.live.card = fuel
  induction fuel generalizing other pointer with
  | zero => rfl
  | succ fuel ih =>
    have raised := @totalWeight_setTotalWeight other pointer
      (other.totalWeight pointer + diff.toUInt32) (by rw [isContainer, container])
    have sameParent : (other.setTotalWeight pointer (other.totalWeight pointer +
        diff.toUInt32)).getParentContainer pointer = heap.getParentContainer pointer := by
      rw [getParentContainer, getParentContainer, ← live]
      exact getParentWithin_congr (skips_setTotalWeight.trans skips) chain _
    simp only [updateItemWeightWithin]
    rw [raise, sameParent]
    cases isParent : heap.getParentContainer pointer with
    | none => exact raised
    | some parentContainer =>
      have inside : Inside heap.parent pointer parentContainer :=
        inside_of_getParentWithin isParent
      obtain ⟨below, -, isAbove⟩ := Relation.TransGen.tail'_iff.mp inside
      rw [← raised]
      refine ih _ (formed.isContainer isAbove) live (isContainer_setTotalWeight.trans isContainer)
        (skips_setTotalWeight.trans skips) fun within => ?_
      exact chain (inside.to_reflTransGen.trans within)

/-! ## Pokeballs that are passed on -/

theorem foldl_setPokeballs (container : heap.isContainer pointer)
    (change : List Nat → Nat → List Nat) (list : List Nat) :
    list.foldl (fun heap pokeball =>
        heap.setPokeballs pointer (change (heap.pokeballs pointer) pokeball)) heap =
      heap.setPokeballs pointer (list.foldl change (heap.pokeballs pointer)) := by
  have again (heap : Heap) (first second : List Nat) :
      (heap.setPokeballs pointer first).setPokeballs pointer second =
        heap.setPokeballs pointer second := modify_modify _
  induction list generalizing heap with
  | nil =>
    rw [List.foldl_nil, List.foldl_nil]
    refine (modify_eq_self fun it isIt => ?_).symm
    rw [pokeballs, Option.mem_def.mp isIt]
    rfl
  | cons pokeball list ih =>
    rw [List.foldl_cons, List.foldl_cons, ih (by rwa [isContainer_setPokeballs]),
      pokeballs_setPokeballs container, update_self, again]

theorem insertCached_eq (container : heap.isContainer pointer) (item : Nat) :
    heap.insertCached game pointer item =
      heap.setPokeballs pointer (heap.pokeballs pointer ++ heap.cached game item) := by
  have appended (list first : List Nat) :
      list.foldl (fun first pokeball => first ++ [pokeball]) first = first ++ list := by
    induction list generalizing first with
    | nil => rw [List.foldl_nil, List.append_nil]
    | cons pokeball list ih => rw [List.foldl_cons, ih, List.append_assoc, List.singleton_append]
  rw [insertCached, ← appended]
  exact foldl_setPokeballs container (fun list pokeball => list ++ [pokeball]) _

theorem removeCached_eq (container : heap.isContainer pointer) (item : Nat) :
    heap.removeCached game pointer item =
      heap.setPokeballs pointer ((heap.pokeballs pointer).diff (heap.cached game item)) := by
  rw [removeCached, List.diff_eq_foldl]
  exact foldl_setPokeballs container List.erase _

@[simp] theorem isContainer_updateItemWeight (pointer other : Nat) (diff : Int32) :
    (heap.updateItemWeight pointer diff).isContainer other = heap.isContainer other :=
  congrFun (congrArg Tree.isContainer (tree_updateItemWeight pointer diff)) other

theorem itemlist_updateItemWeight (pointer : Nat) (diff : Int32) :
    (heap.updateItemWeight pointer diff).itemlist = heap.itemlist :=
  congrArg Tree.itemlist (tree_updateItemWeight pointer diff)

theorem parent_updateItemWeight (pointer : Nat) (diff : Int32) :
    (heap.updateItemWeight pointer diff).parent = heap.parent :=
  congrArg Tree.parent (tree_updateItemWeight pointer diff)

/-! ## What the operations do to the tree -/

theorem tree_internalAddThing (container : heap.isContainer pointer) (item : Nat) :
    (heap.internalAddThing game pointer item).tree =
      { heap.tree with
        parent := update heap.parent item (some pointer)
        itemlist := update heap.itemlist pointer (item :: heap.itemlist pointer) } := by
  rw [internalAddThing, insertCached_eq, tree_setPokeballs, tree_updateItemWeight,
    tree_setItemlist]
  · rfl
  · exact container
  · rwa [isContainer_updateItemWeight, isContainer_setItemlist]

theorem tree_addItemBack (container : heap.isContainer pointer) (item : Nat) :
    (heap.addItemBack game pointer item).tree =
      { heap.tree with
        parent := update heap.parent item (some pointer)
        itemlist := update heap.itemlist pointer (heap.itemlist pointer ++ [item]) } := by
  rw [addItemBack, tree_updateItemWeight, addItem, tree_setParent, tree_setItemlist container]
  rfl

theorem tree_updateThing (member : item ∈ heap.itemlist pointer) (itemId : UInt16)
    (count : UInt32) :
    (heap.updateThing game pointer item itemId count).tree =
      { heap.tree with
        item := update heap.item item
          (((heap.item item).setID game itemId).setSubType game count.toUInt16) } := by
  rw [updateThing, if_pos member, tree_updateItemWeight]
  rfl

theorem tree_replaceThing (container : heap.isContainer pointer) {index : UInt32}
    {replacedItem : Nat} (found : (heap.itemlist pointer)[index.toNat]? = some replacedItem)
    (item : Nat) :
    (heap.replaceThing game pointer index item).tree =
      { heap.tree with
        parent := update (update heap.parent item (some pointer))
          replacedItem none
        itemlist := update heap.itemlist pointer
          ((heap.itemlist pointer).set index.toNat item) } := by
  rw [replaceThing, found]
  rw [tree_setParent, tree_updateItemWeight, parent_updateItemWeight, tree_setParent,
    tree_setItemlist container]
  rfl

theorem tree_removeThing_part (member : item ∈ heap.itemlist pointer) {count : UInt32}
    (part : heap.takesPart game item count) :
    (heap.removeThing game pointer item count).tree =
      { heap.tree with
        item := update heap.item item
          ((heap.item item).setItemCount (heap.newCount item count)) } := by
  rw [removeThing, if_pos member, if_pos part, tree_updateItemWeight]
  rfl

theorem tree_removeThing (container : heap.isContainer pointer)
    (member : item ∈ heap.itemlist pointer) {count : UInt32}
    (whole : ¬ heap.takesPart game item count) :
    (heap.removeThing game pointer item count).tree =
      { heap.tree with
        parent := update heap.parent item none
        itemlist := update heap.itemlist pointer
          ((heap.itemlist pointer).erase item) } := by
  have sameList : ((heap.updateItemWeight pointer (-(heap.getWeight game item).toInt32)).setParent
      item none).itemlist = heap.itemlist := itemlist_updateItemWeight _ _
  have stays : ((heap.updateItemWeight pointer (-(heap.getWeight game item).toInt32)).setParent
      item none).isContainer pointer :=
    (isContainer_updateItemWeight pointer pointer _).trans container
  rw [removeThing, if_pos member, if_neg whole, removeCached_eq, tree_setPokeballs,
    tree_setItemlist stays, tree_setParent, tree_updateItemWeight, parent_updateItemWeight,
    sameList]
  rwa [isContainer_setItemlist]

/-! ## Runs of operations -/

/-- An item may enter a container: it is loose, and not above the container. -/
structure Fits (heap : Heap) (pointer item : Nat) : Prop where
  container : heap.isContainer pointer
  present : pointer ∈ heap.live
  itemPresent : item ∈ heap.live
  loose : heap.parent item = none
  apart : ¬ Within heap.parent pointer item

namespace Formed

/-- An item enters a container. -/
theorem hang (formed : heap.Formed) (fits : heap.Fits pointer item) {list : List Nat}
    (listed : list.Perm (item :: heap.itemlist pointer)) :
    Forest heap.live (update heap.parent item (some pointer))
      (update heap.itemlist pointer list) :=
  formed.attach fits.itemPresent fits.present fits.loose fits.apart listed

/-- An item leaves a container. -/
theorem take (formed : heap.Formed) (member : item ∈ heap.itemlist pointer) {list : List Nat}
    (listed : (item :: list).Perm (heap.itemlist pointer)) :
    Forest heap.live (update heap.parent item none)
      (update heap.itemlist pointer list) :=
  formed.detach (formed.mem_iff.mp member) listed

/-- An item enters a container in the place of another. -/
theorem swap (formed : heap.Formed) (fits : heap.Fits pointer item) {index : Nat}
    {replacedItem : Nat} (found : (heap.itemlist pointer)[index]? = some replacedItem) :
    Forest heap.live
      (update (update heap.parent item (some pointer)) replacedItem none)
      (update heap.itemlist pointer ((heap.itemlist pointer).set index item)) := by
  obtain ⟨inside, isReplaced⟩ := List.getElem?_eq_some_iff.mp found
  have member : replacedItem ∈ heap.itemlist pointer := List.mem_of_getElem? found
  have isParent := formed.mem_iff.mp member
  have different : replacedItem ≠ item := by
    rintro rfl
    rw [fits.loose] at isParent
    cases isParent
  have rest : (replacedItem :: (heap.itemlist pointer).eraseIdx index).Perm
      (heap.itemlist pointer) := by
    rw [← isReplaced]
    exact List.getElem_cons_eraseIdx_perm inside
  have taken := formed.take member rest
  have loose : update heap.parent replacedItem none item = none := by
    rw [Function.update_of_ne different.symm, fits.loose]
  have apart : ¬ Within (update heap.parent replacedItem none) pointer item := by
    rw [within_update (formed.not_within_of_parent isParent)]
    exact fits.apart
  have listed : ((heap.itemlist pointer).set index item).Perm
      (item :: update heap.itemlist pointer ((heap.itemlist pointer).eraseIdx index)
        pointer) := by
    rw [update_self]
    exact List.set_perm_cons_eraseIdx inside item
  have hung := taken.attach fits.itemPresent fits.present loose apart listed
  rwa [Function.update_comm different, Function.update_idem] at hung

end Formed

end Heap

/-- The operations: those of `Container` on one of the containers, and whatever changes an
item elsewhere. -/
inductive Op where
  | addThing (pointer : Nat) (index : Int32) (item : Nat)
  | internalAddThing (pointer item : Nat)
  | addItemBack (pointer item : Nat)
  | updateThing (pointer item : Nat) (itemId : UInt16) (count : UInt32)
  | replaceThing (pointer : Nat) (index : UInt32) (item : Nat)
  | removeThing (pointer item : Nat) (count : UInt32)
  | elsewhere (item : Nat) (changed : Item)

/-- An item that lies in a container does not change its weight and its type elsewhere. -/
def legal (game : Game) (heap : Heap) : Op → Prop
  | .addThing pointer _ item | .internalAddThing pointer item | .addItemBack pointer item
  | .replaceThing pointer _ item => heap.Fits pointer item
  | .updateThing pointer _ _ _ | .removeThing pointer _ _ =>
    heap.isContainer pointer ∧ pointer ∈ heap.live
  | .elsewhere item changed =>
    heap.parent item = none ∨ changed.id = (heap.item item).id ∧
      changed.getWeight game = (heap.item item).getWeight game

def step (game : Game) (heap : Heap) : Op → Heap
  | .addThing pointer index item => heap.addThing game pointer index item
  | .internalAddThing pointer item => heap.internalAddThing game pointer item
  | .addItemBack pointer item => heap.addItemBack game pointer item
  | .updateThing pointer item itemId count => heap.updateThing game pointer item itemId count
  | .replaceThing pointer index item => heap.replaceThing game pointer index item
  | .removeThing pointer item count => heap.removeThing game pointer item count
  | .elsewhere item changed => heap.setItem item changed

def system (game : Game) : System Heap Op := ⟨legal game, step game⟩

theorem Heap.Formed.of_tree {heap after : Heap} {items : Nat → Item} {parent : Nat → Option Nat}
    {itemlist : Nat → List Nat}
    (same : after.tree =
      { heap.tree with item := items, parent := parent, itemlist := itemlist })
    (forest : Forest heap.live parent itemlist) : after.Formed := by
  have sameLive : after.live = heap.live := congrArg Tree.live same
  have sameParent : after.parent = parent := congrArg Tree.parent same
  have sameList : after.itemlist = itemlist := congrArg Tree.itemlist same
  rwa [Heap.Formed, sameLive, sameParent, sameList]

/-- **The forest is kept** by every operation. -/
theorem step_formed {game : Game} {heap : Heap} (formed : heap.Formed) {op : Op}
    (isLegal : legal game heap op) : (step game heap op).Formed := by
  cases op with
  | addThing pointer index item =>
    rw [step, Heap.addThing]
    split_ifs
    · exact formed
    · exact .of_tree (Heap.tree_internalAddThing isLegal.container item)
        (formed.hang isLegal (.refl _))
  | internalAddThing pointer item =>
    exact .of_tree (Heap.tree_internalAddThing isLegal.container item)
      (formed.hang isLegal (.refl _))
  | addItemBack pointer item =>
    exact .of_tree (Heap.tree_addItemBack isLegal.container item)
      (formed.hang isLegal (List.perm_append_singleton _ _))
  | updateThing pointer item itemId count =>
    by_cases member : item ∈ heap.itemlist pointer
    · exact .of_tree (Heap.tree_updateThing member itemId count) formed
    · rwa [step, Heap.updateThing, if_neg member]
  | replaceThing pointer index item =>
    cases found : (heap.itemlist pointer)[index.toNat]? with
    | some replacedItem =>
      exact .of_tree (Heap.tree_replaceThing isLegal.container found item)
        (formed.swap isLegal found)
    | none => rwa [step, Heap.replaceThing, found]
  | removeThing pointer item count =>
    by_cases member : item ∈ heap.itemlist pointer
    · by_cases part : heap.takesPart game item count
      · exact .of_tree (Heap.tree_removeThing_part member part) formed
      · exact .of_tree (Heap.tree_removeThing isLegal.1 member part)
          (formed.take member (List.perm_cons_erase member).symm)
    · rwa [step, Heap.removeThing, if_neg member]
  | elsewhere item changed => exact formed

end Otserv.Containers
