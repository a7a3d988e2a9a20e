import Otserv.Containers.Weights
import Otserv.Foundation.CachedLists

/-!
# The pokeballs of containers

Every container has a list of pokeballs, which is to hold those anywhere inside it
(`Heap.ListsBalls`). What `addThing`, `internalAddThing` and `removeThing` insert and remove
is done to the container they are made on and to no container above it, for a pokeball
without what may lie in it; `addItemBack`, `replaceThing` and `updateThing` change no list
(`runs_listsBalls_iff`).
-/

namespace Otserv.Containers

open Foundation
open Function (update)
open Items (Game Item)

namespace Heap

variable {game : Game} {heap : Heap} {pointer item : Nat}

def isBall (game : Game) (heap : Heap) (pointer : Nat) : Prop :=
  (heap.item pointer).isPokeballItem game

instance (pointer : Nat) : Decidable (heap.isBall game pointer) :=
  inferInstanceAs (Decidable (_ = true))

theorem isBall_congr {other : Heap} (same : other.item = heap.item) :
    other.isBall game = heap.isBall game := by
  funext ball
  rw [isBall, isBall, same]

theorem isBall_setItem (changed : Item) (ball : Nat) :
    (heap.setItem item changed).isBall game ball ↔
      if ball = item then changed.isPokeballItem game = true else heap.isBall game ball := by
  rw [isBall]
  split_ifs with here
  · rw [here, item_setItem_self]
  · rw [item_setItem_of_ne here, isBall]

/-- Every container lists the pokeballs anywhere inside it, each once. -/
def ListsBalls (game : Game) (heap : Heap) : Prop :=
  ∀ pointer, heap.isContainer pointer → (heap.pokeballs pointer).Nodup ∧
    ∀ ball, ball ∈ heap.pokeballs pointer ↔ heap.isBall game ball ∧ Inside heap.parent ball pointer

theorem listsBalls_iff (formed : heap.Formed) :
    heap.ListsBalls game ↔ Lists (heap.isBall game) heap.parent heap.pokeballs := by
  constructor
  · intro right pointer
    cases isIt : heap.container pointer with
    | some it => exact right pointer (Option.isSome_iff_exists.mpr ⟨it, isIt⟩)
    | none =>
      have empty : heap.pokeballs pointer = [] := by
        rw [pokeballs, isIt]
        rfl
      rw [empty]
      refine ⟨List.nodup_nil, fun ball => iff_of_false List.not_mem_nil ?_⟩
      rintro ⟨-, inside⟩
      obtain ⟨below, -, isParent⟩ := Relation.TransGen.tail'_iff.mp inside
      have container := formed.isContainer isParent
      rw [isContainer, isIt] at container
      cases container
  · exact fun right pointer _ => right pointer

theorem Untouched.listsBalls (untouched : heap.Untouched) : heap.ListsBalls game := by
  rw [listsBalls_iff untouched.formed]
  intro pointer
  rw [untouched.unlisted]
  refine ⟨List.nodup_nil, fun ball => iff_of_false List.not_mem_nil ?_⟩
  rintro ⟨-, inside⟩
  obtain ⟨below, -, isParent⟩ := Relation.TransGen.tail'_iff.mp inside
  rw [Above, untouched.loose] at isParent
  cases isParent

/-! ## What the operations do to the lists -/

theorem cached_congr {other : Heap} (sameItem : other.item = heap.item)
    (sameLists : other.pokeballs = heap.pokeballs) : other.cached game = heap.cached game := by
  funext pointer
  rw [cached, cached, sameItem, sameLists]

theorem pokeballs_internalAddThing (container : heap.isContainer pointer) (item : Nat) :
    (heap.internalAddThing game pointer item).pokeballs =
      update heap.pokeballs pointer
        (heap.pokeballs pointer ++ heap.cached game item) := by
  have sameCached (list : List Nat) (diff : Int32) : (((heap.setParent item (some pointer)).setItemlist
      pointer list).updateItemWeight pointer diff).cached game = heap.cached game :=
    cached_congr (congrArg Tree.item (tree_updateItemWeight pointer diff))
      ((pokeballs_updateItemWeight pointer diff).trans pokeballs_setItemlist)
  have stays (list : List Nat) (diff : Int32) : (((heap.setParent item (some pointer)).setItemlist
      pointer list).updateItemWeight pointer diff).isContainer pointer := by
    rwa [isContainer_updateItemWeight, isContainer_setItemlist]
  rw [internalAddThing, insertCached_eq (stays _ _), pokeballs_setPokeballs (stays _ _), sameCached,
    pokeballs_updateItemWeight, pokeballs_setItemlist]
  rfl

theorem pokeballs_addItemBack (pointer item : Nat) :
    (heap.addItemBack game pointer item).pokeballs = heap.pokeballs := by
  rw [addItemBack, pokeballs_updateItemWeight]
  exact pokeballs_setItemlist

theorem pokeballs_updateThing (pointer item : Nat) (itemId : UInt16) (count : UInt32) :
    (heap.updateThing game pointer item itemId count).pokeballs = heap.pokeballs := by
  rw [updateThing]
  split_ifs
  · rw [pokeballs_updateItemWeight]
    rfl
  · rfl

theorem pokeballs_replaceThing (pointer : Nat) (index : UInt32) (item : Nat) :
    (heap.replaceThing game pointer index item).pokeballs = heap.pokeballs := by
  rw [replaceThing]
  cases (heap.itemlist pointer)[index.toNat]? with
  | none => rfl
  | some replacedItem =>
    exact (pokeballs_updateItemWeight pointer _).trans pokeballs_setItemlist

theorem pokeballs_removeThing_part (member : item ∈ heap.itemlist pointer) {count : UInt32}
    (part : heap.takesPart game item count) :
    (heap.removeThing game pointer item count).pokeballs = heap.pokeballs := by
  rw [removeThing, if_pos member, if_pos part, pokeballs_updateItemWeight]
  rfl

theorem pokeballs_removeThing (container : heap.isContainer pointer)
    (member : item ∈ heap.itemlist pointer) {count : UInt32}
    (whole : ¬ heap.takesPart game item count) :
    (heap.removeThing game pointer item count).pokeballs =
      update heap.pokeballs pointer
        ((heap.pokeballs pointer).diff (heap.cached game item)) := by
  have sameLists (list : List Nat) (diff : Int32) : (((heap.updateItemWeight pointer diff).setParent
      item none).setItemlist pointer list).pokeballs = heap.pokeballs :=
    pokeballs_setItemlist.trans (pokeballs_updateItemWeight pointer diff)
  have sameCached (list : List Nat) (diff : Int32) : (((heap.updateItemWeight pointer diff).setParent
      item none).setItemlist pointer list).cached game = heap.cached game :=
    cached_congr (congrArg Tree.item (tree_updateItemWeight pointer diff)) (sameLists list diff)
  have stays (list : List Nat) (diff : Int32) : (((heap.updateItemWeight pointer diff).setParent
      item none).setItemlist pointer list).isContainer pointer := by
    rw [isContainer_setItemlist]
    exact (isContainer_updateItemWeight pointer pointer diff).trans container
  rw [removeThing, if_pos member, if_neg whole, removeCached_eq (stays _ _),
    pokeballs_setPokeballs (stays _ _), sameCached, sameLists]

/-! ## What an item brings along -/

/-- A pokeball that moves with an item. -/
abbrev Brings (game : Game) (heap : Heap) (item ball : Nat) : Prop :=
  Marked (heap.isBall game) heap.parent item ball

/-- The pokeballs that move are those that the lists of the item and of the container tell
of: a pokeball has none inside, and there is no container above when one moves. -/
def Told (game : Game) (heap : Heap) (pointer item : Nat) : Prop :=
  (heap.isBall game item → ∀ ball, heap.isBall game ball → ¬ Inside heap.parent ball item) ∧
    ((∃ ball, heap.Brings game item ball) → heap.parent pointer = none)

section Lists

variable (right : Lists (heap.isBall game) heap.parent heap.pokeballs)
include right

theorem nodup_cached (item : Nat) : (heap.cached game item).Nodup := by
  rw [cached]
  split_ifs
  · exact List.nodup_singleton item
  · exact (right item).1

theorem brings_of_mem_cached {ball : Nat} (member : ball ∈ heap.cached game item) :
    heap.Brings game item ball := by
  rw [cached] at member
  split_ifs at member with itself
  · rw [List.mem_singleton.mp member]
    exact ⟨itself, .refl⟩
  · obtain ⟨isBall, inside⟩ := ((right item).2 ball).mp member
    exact ⟨isBall, inside.to_reflTransGen⟩

/-- An item lists all that it brings, but a pokeball that holds others. -/
theorem mem_cached_iff (formed : heap.Formed) :
    (∀ ball, heap.Brings game item ball → ball ∈ heap.cached game item) ↔
      (heap.isBall game item → ∀ ball, heap.isBall game ball →
        ¬ Inside heap.parent ball item) := by
  by_cases itself : heap.isBall game item
  · have alone : heap.cached game item = [item] := if_pos itself
    rw [alone]
    constructor
    · intro all _ ball isBall inside
      have same := List.mem_singleton.mp (all ball ⟨isBall, inside.to_reflTransGen⟩)
      rw [same] at inside
      exact formed.irrefl item inside
    · rintro none ball ⟨isBall, within⟩
      rcases Relation.reflTransGen_iff_eq_or_transGen.mp within with same | inside
      · exact List.mem_singleton.mpr same.symm
      · exact absurd inside (none itself ball isBall)
  · have listed : heap.cached game item = heap.pokeballs item := if_neg itself
    refine iff_of_true ?_ fun isBall => absurd isBall itself
    rintro ball ⟨isBall, within⟩
    rw [listed, (right item).2]
    rcases Relation.reflTransGen_iff_eq_or_transGen.mp within with same | inside
    · exact absurd (same ▸ isBall) itself
    · exact ⟨isBall, inside⟩

end Lists

end Heap

open Heap

/-! ## Runs -/

/-- What an operation has to keep to for the lists to stay right. -/
def KeepsLists (game : Game) (heap : Heap) : Op → Prop
  | .addThing pointer index item =>
    index ≥ (heap.capacity pointer).toInt32 ∨ heap.Told game pointer item
  | .internalAddThing pointer item => heap.Told game pointer item
  | .addItemBack _ item => ∀ ball, ¬ heap.Brings game item ball
  | .updateThing pointer item itemId _ => item ∈ heap.itemlist pointer →
      ((game.items itemId).isPokeballItem ↔ heap.isBall game item)
  | .replaceThing pointer index item => ∀ replacedItem ∈ (heap.itemlist pointer)[index.toNat]?,
      (∀ ball, ¬ heap.Brings game item ball) ∧ ∀ ball, ¬ heap.Brings game replacedItem ball
  | .removeThing pointer item count => item ∈ heap.itemlist pointer →
      heap.takesPart game item count ∨ heap.Told game pointer item
  | .elsewhere _ _ => True

section Step

variable {game : Game} {heap : Heap} (formed : heap.Formed)
  (right : Lists (heap.isBall game) heap.parent heap.pokeballs) {pointer item : Nat}
include formed right

theorem lists_internalAddThing (fits : heap.Fits pointer item) :
    Lists (heap.isBall game) (update heap.parent item (some pointer))
      (update heap.pokeballs pointer
        (heap.pokeballs pointer ++ heap.cached game item)) ↔ heap.Told game pointer item := by
  rw [lists_attach_iff formed right fits.loose fits.apart, Told, ← mem_cached_iff right formed]
  refine and_congr_left fun _ => ?_
  have apart {ball : Nat} (listed : ball ∈ heap.pokeballs pointer) :
      ¬ heap.Brings game item ball := fun brings =>
    not_inside_of_root fits.loose fits.apart brings.2 .refl (((right pointer).2 ball).mp listed).2
  constructor
  · rintro ⟨-, mem⟩ ball brings
    rcases List.mem_append.mp ((mem ball).mpr (.inr brings)) with listed | cached
    · exact absurd brings (apart listed)
    · exact cached
  · intro all
    refine ⟨List.nodup_append.mpr ⟨(right pointer).1, nodup_cached right item, ?_⟩, fun ball => ?_⟩
    · rintro ball listed other cached rfl
      exact apart listed (brings_of_mem_cached right cached)
    · rw [List.mem_append]
      exact or_congr_right ⟨brings_of_mem_cached right, all ball⟩

theorem lists_removeThing (member : item ∈ heap.itemlist pointer) :
    Lists (heap.isBall game) (update heap.parent item none)
      (update heap.pokeballs pointer
        ((heap.pokeballs pointer).diff (heap.cached game item))) ↔
      heap.Told game pointer item := by
  have isParent := formed.mem_iff.mp member
  rw [lists_detach_iff formed right isParent, Told, ← mem_cached_iff right formed]
  refine and_congr_left fun _ => ?_
  constructor
  · rintro ⟨-, mem⟩ ball brings
    by_contra notCached
    have listed := ((right pointer).2 ball).mpr ⟨brings.1, .tail' brings.2 isParent⟩
    have stays := (right pointer).1.mem_sdiff_iff.mpr ⟨listed, notCached⟩
    exact ((mem ball).mp stays).2 brings
  · intro all
    refine ⟨(right pointer).1.diff, fun ball => ?_⟩
    rw [(right pointer).1.mem_sdiff_iff]
    exact and_congr_right fun _ => not_congr ⟨brings_of_mem_cached right, all ball⟩

theorem lists_addItemBack (fits : heap.Fits pointer item) :
    Lists (heap.isBall game) (update heap.parent item (some pointer)) heap.pokeballs ↔
      ∀ ball, ¬ heap.Brings game item ball := by
  have general : Lists (heap.isBall game) (update heap.parent item (some pointer))
      (update heap.pokeballs pointer (heap.pokeballs pointer)) ↔ _ :=
    lists_attach_iff formed right fits.loose fits.apart
  rw [Function.update_eq_self] at general
  rw [general]
  constructor
  · rintro ⟨⟨-, mem⟩, -⟩ ball brings
    have listed := (mem ball).mpr (.inr brings)
    exact not_inside_of_root fits.loose fits.apart brings.2 .refl (((right pointer).2 ball).mp listed).2
  · intro none
    refine ⟨⟨(right pointer).1, fun ball => (or_iff_left (none ball)).symm⟩, ?_⟩
    rintro ⟨ball, brings⟩
    exact absurd brings (none ball)

theorem lists_setItem (member : item ∈ heap.itemlist pointer) (changed : Item) :
    Lists ((heap.setItem item changed).isBall game) heap.parent heap.pokeballs ↔
      (changed.isPokeballItem game ↔ heap.isBall game item) := by
  have inside : Inside heap.parent item pointer := .single (formed.mem_iff.mp member)
  constructor
  · intro after
    have now := (after pointer).2 item
    rw [(right pointer).2, isBall_setItem, if_pos rfl, and_iff_left inside,
      and_iff_left inside] at now
    exact now.symm
  · intro same
    have unchanged : (heap.setItem item changed).isBall game = heap.isBall game := by
      funext ball
      rw [eq_iff_iff, isBall_setItem]
      split_ifs with here
      · rw [here, same]
      · rfl
    rwa [unchanged]

omit formed in
/-- An item that lies in no container, or keeps its type, changes. -/
theorem lists_elsewhere {changed : Item}
    (loose : heap.parent item = none ∨ changed.id = (heap.item item).id ∧
      changed.getWeight game = (heap.item item).getWeight game) :
    Lists ((heap.setItem item changed).isBall game) heap.parent heap.pokeballs := by
  intro top
  refine ⟨(right top).1, fun ball => ?_⟩
  rw [(right top).2, isBall_setItem]
  refine and_congr_left fun inside => ?_
  split_ifs with here
  · rcases loose with isRoot | ⟨sameType, -⟩
    · obtain ⟨above, isParent, -⟩ := Relation.TransGen.head'_iff.mp inside
      rw [Above, here, isRoot] at isParent
      cases isParent
    · rw [here, isBall, Item.isPokeballItem, Item.isPokeballItem, sameType]
  · rfl

/-- **One operation** keeps the lists right exactly when it moves no pokeball past them. -/
theorem step_lists {op : Op} (isLegal : legal game heap op) :
    Lists ((step game heap op).isBall game) (step game heap op).parent
      (step game heap op).pokeballs ↔ KeepsLists game heap op := by
  -- an item enters a container
  have entering {pointer item : Nat} (fits : heap.Fits pointer item) :
      Lists ((heap.internalAddThing game pointer item).isBall game)
        (heap.internalAddThing game pointer item).parent
        (heap.internalAddThing game pointer item).pokeballs ↔ heap.Told game pointer item := by
    have tree := @tree_internalAddThing game _ _ fits.container item
    have sameItem : (heap.internalAddThing game pointer item).item = heap.item :=
      congrArg Tree.item tree
    have parent : (heap.internalAddThing game pointer item).parent =
        update heap.parent item (some pointer) := congrArg Tree.parent tree
    rw [isBall_congr sameItem, parent, pokeballs_internalAddThing fits.container]
    exact lists_internalAddThing formed right fits
  -- an item changes in its container
  have changing {pointer item : Nat} {changed : Item} {after : Heap}
      (member : item ∈ heap.itemlist pointer)
      (tree : after.tree =
        { heap.tree with item := update heap.item item changed })
      (sameLists : after.pokeballs = heap.pokeballs) :
      Lists (after.isBall game) after.parent after.pokeballs ↔
        (changed.isPokeballItem game ↔ heap.isBall game item) := by
    have sameItem : after.item = (heap.setItem item changed).item := congrArg Tree.item tree
    have parent : after.parent = heap.parent := congrArg Tree.parent tree
    rw [isBall_congr sameItem, parent, sameLists]
    exact lists_setItem formed right member changed
  cases op with
  | addThing pointer index item =>
    by_cases beyond : index ≥ (heap.capacity pointer).toInt32
    · rw [step, addThing, if_pos beyond]
      exact iff_of_true right (.inl beyond)
    · rw [step, addThing, if_neg beyond, entering isLegal]
      exact (or_iff_right beyond).symm
  | internalAddThing pointer item => exact entering isLegal
  | addItemBack pointer item =>
    have tree := @tree_addItemBack game _ _ isLegal.container item
    have sameItem : (heap.addItemBack game pointer item).item = heap.item :=
      congrArg Tree.item tree
    have parent : (heap.addItemBack game pointer item).parent =
        update heap.parent item (some pointer) := congrArg Tree.parent tree
    rw [step, isBall_congr sameItem, parent, pokeballs_addItemBack]
    exact lists_addItemBack formed right isLegal
  | updateThing pointer item itemId count =>
    by_cases member : item ∈ heap.itemlist pointer
    · rw [step, changing member (tree_updateThing member itemId count)
        (pokeballs_updateThing pointer item itemId count), KeepsLists, Item.isPokeballItem,
        Item.setSubType_id, Item.setID_id]
      exact ⟨fun same _ => same, fun keeps => keeps member⟩
    · rw [step, updateThing, if_neg member]
      exact iff_of_true right fun present => absurd present member
  | replaceThing pointer index item =>
    cases found : (heap.itemlist pointer)[index.toNat]? with
    | some replacedItem =>
      have tree := @tree_replaceThing game _ _ isLegal.container _ _ found item
      have sameItem : (heap.replaceThing game pointer index item).item = heap.item :=
        congrArg Tree.item tree
      have parent : (heap.replaceThing game pointer index item).parent =
          update (update heap.parent item (some pointer)) replacedItem none :=
        congrArg Tree.parent tree
      have isParent := formed.mem_iff.mp (List.mem_of_getElem? found)
      rw [step, isBall_congr sameItem, parent, pokeballs_replaceThing, KeepsLists, found,
        lists_swap_iff formed right isParent isLegal.loose isLegal.apart]
      simp only [Option.mem_some_iff, forall_eq']
    | none =>
      rw [step, replaceThing, found]
      refine iff_of_true right fun replacedItem isReplaced => ?_
      rw [found] at isReplaced
      cases isReplaced
  | removeThing pointer item count =>
    by_cases member : item ∈ heap.itemlist pointer
    · by_cases part : heap.takesPart game item count
      · rw [step, changing member (tree_removeThing_part member part)
          (pokeballs_removeThing_part member part)]
        exact iff_of_true .rfl fun _ => .inl part
      · have tree := tree_removeThing isLegal.1 member part
        have sameItem : (heap.removeThing game pointer item count).item = heap.item :=
          congrArg Tree.item tree
        have parent : (heap.removeThing game pointer item count).parent =
            update heap.parent item none := congrArg Tree.parent tree
        rw [step, isBall_congr sameItem, parent, pokeballs_removeThing isLegal.1 member part,
          lists_removeThing formed right member, KeepsLists]
        exact ⟨fun told _ => .inr told, fun keeps => (keeps member).resolve_left part⟩
    · rw [step, removeThing, if_neg member]
      exact iff_of_true right fun present => absurd present member
  | elsewhere item changed => exact iff_of_true (lists_elsewhere right isLegal) trivial

end Step

/-- **Exactly when the lists of pokeballs stay right.** On any trees of containers with
right lists, the lists are right after each operation of a sequence exactly when no
operation moves a pokeball past them. -/
theorem runs_listsBalls_iff (game : Game) {start : Heap} {ops : List Op} (formed : start.Formed)
    (right : start.ListsBalls game) (isLegal : (system game).Legal start ops) :
    (system game).Throughout (fun _ _ after => after.ListsBalls game) start ops ↔
      (system game).Throughout (fun before op _ => KeepsLists game before op) start ops := by
  have step : ∀ (before : Heap) (op : Op), before.Formed ∧ before.ListsBalls game →
      legal game before op → ((step game before op).ListsBalls game ↔ KeepsLists game before op) ∧
        ((step game before op).ListsBalls game → (step game before op).Formed ∧
          (step game before op).ListsBalls game) := by
    rintro before op ⟨formed, right⟩ isLegal
    have after := step_formed formed isLegal
    have exactly := step_lists formed ((listsBalls_iff formed).mp right) isLegal
    exact ⟨(listsBalls_iff after).trans exactly, fun listed => ⟨after, listed⟩⟩
  exact System.Throughout.iff_of_invariant step ⟨formed, right⟩ isLegal

/-! ## A pokeball in a bag in a locker -/

/-- The locker does not list a pokeball that is put into a bag in it. -/
theorem bagged_not_listed :
    ¬ ∀ (game : Game) (start : Heap) (ops : List Op), start.Formed → start.ListsBalls game →
      (system game).Legal start ops →
        (system game).Throughout (fun _ _ after => after.ListsBalls game) start ops := by
  intro always
  have untouched := locker_untouched .container
  have right := always scales (locker .container) stowing untouched.formed untouched.listsBalls
    (stowing_legal _)
  have list := ((right.2.1 0 (by decide)).2 2).mpr
    ⟨by decide, .tail (.single (show Above _ 2 1 by decide)) (by decide)⟩
  revert list
  decide

/-- It does list one that is in a bag when that is put into it. -/
theorem runs_listsBalls_iff_packed :
    (system scales).Throughout (fun _ _ after => after.ListsBalls scales) (locker .container)
      [.internalAddThing 1 2, .internalAddThing 0 1] := by
  have untouched := locker_untouched .container
  have bag : ¬ Within (update (locker .container).parent 2 (some 1)) 0 1 := by
    rw [within_root rfl]
    decide
  have isLegal : (system scales).Legal (locker .container)
      [.internalAddThing 1 2, .internalAddThing 0 1] :=
    ⟨locker_fits rfl (by decide) (by decide) (by decide),
      locker_fits_next rfl rfl (by decide) (by decide) (by decide) bag, trivial⟩
  refine (runs_listsBalls_iff scales untouched.formed untouched.listsBalls isLegal).mpr
    ⟨⟨?_, fun _ => rfl⟩, ⟨?_, fun _ => by decide⟩, trivial⟩
  · rintro - pokeball - inside
    obtain ⟨above, isParent, -⟩ := Relation.TransGen.head'_iff.mp inside
    cases isParent
  · exact fun isBall => absurd isBall (by decide)

end Otserv.Containers
