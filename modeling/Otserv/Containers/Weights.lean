import Otserv.Containers.Trees

/-!
# Weights of containers

Every container is to keep the sum of the weights of what lies directly in it, so that its
weight is its own and that of all its content (`Heap.Weighed`). An operation hands the
change of weight up from the container it is made on, to the containers `getParent` leads
to. `DepotChest` and `Inbox` lead past the container they lie in, whose sum is then wrong,
unless the change is nothing (`runs_weighed_iff`).
-/

namespace Otserv.Containers

open Foundation
open Items (Game Item)
open Function (update update_of_ne update_self)

namespace Heap

variable {game : Game} {heap : Heap} {pointer item : Nat}

/-- The weight of an item without what lies in it. -/
def baseWeight (game : Game) (heap : Heap) (pointer : Nat) : UInt32 :=
  (heap.item pointer).getWeight game

theorem getWeight_eq : heap.getWeight game = weight (heap.baseWeight game) heap.totalWeight := by
  funext pointer
  rw [getWeight, weight, totalWeight, baseWeight]
  cases heap.container pointer with
  | none => exact (UInt32.add_zero _).symm
  | some it => rfl

theorem getWeight_congr {other : Heap} (sameItem : other.item = heap.item)
    (sameTotal : other.totalWeight = heap.totalWeight) :
    other.getWeight game = heap.getWeight game := by
  rw [getWeight_eq, getWeight_eq, sameTotal]
  funext pointer
  rw [weight, weight, baseWeight, baseWeight, sameItem]

open Classical in
/-- Every container keeps the sum of the weights of what lies in it, and weighs as much as
it does itself and all its content. -/
def Weighed (game : Game) (heap : Heap) : Prop :=
  ∀ pointer, heap.isContainer pointer →
    heap.totalWeight pointer = ((heap.itemlist pointer).map (heap.getWeight game)).sum ∧
      heap.getWeight game pointer = heap.baseWeight game pointer +
        ∑ below ∈ heap.live with Inside heap.parent below pointer, heap.baseWeight game below

/-- The sums are right. -/
abbrev SumsUp (game : Game) (heap : Heap) : Prop :=
  Balanced (heap.baseWeight game) heap.totalWeight heap.itemlist

theorem weighed_iff (formed : heap.Formed) : heap.Weighed game ↔ heap.SumsUp game := by
  constructor
  · intro weighed pointer
    cases isIt : heap.container pointer with
    | none =>
      rw [contents, itemlist, totalWeight, isIt]
      rfl
    | some it =>
      have container : heap.isContainer pointer := Option.isSome_iff_exists.mpr ⟨it, isIt⟩
      rw [contents, ← getWeight_eq]
      exact (weighed pointer container).1.symm
  · intro sums pointer _
    rw [getWeight_eq]
    refine ⟨(sums pointer).symm, ?_⟩
    rw [weight, formed.total_eq_sum_inside sums pointer]

theorem Untouched.weighed (untouched : heap.Untouched) : heap.Weighed game := by
  rw [weighed_iff untouched.formed]
  intro pointer
  rw [contents, untouched.empty, untouched.weightless]
  rfl

/-! ## Handing a change up -/

/-- No container that is met on the way up from a container is passed over. -/
def Connected (heap : Heap) (pointer : Nat) : Prop :=
  ∀ skipping, Within heap.parent pointer skipping → heap.skips skipping →
    heap.parent skipping = none

/-- A container is changed, and the change of its weight is handed up. -/
structure Handed (game : Game) (before after : Heap) (pointer : Nat) (diff : UInt32) : Prop where
  live : after.live = before.live
  formed : after.Formed
  common : ∃ cost, Rising before.live before.parent cost ∧ Rising before.live after.parent cost
  chain : ∀ {passed}, Within before.parent pointer passed →
    after.parent passed = before.parent passed
  owes : Owes (after.baseWeight game) before.totalWeight after.itemlist pointer diff
  total : after.totalWeight =
    raise before.getParentContainer before.live.card pointer diff before.totalWeight

theorem Handed.of_tree {after : Heap} {diff : UInt32} {items : Nat → Item}
    {parent : Nat → Option Nat} {itemlist : Nat → List Nat}
    (same : after.tree =
      { heap.tree with item := items, parent := parent, itemlist := itemlist })
    (formed : Forest heap.live parent itemlist)
    (common : ∃ cost, Rising heap.live heap.parent cost ∧ Rising heap.live parent cost)
    (chain : ∀ {passed}, Within heap.parent pointer passed → parent passed = heap.parent passed)
    (owes : Owes (fun node => (items node).getWeight game) heap.totalWeight itemlist pointer diff)
    (total : after.totalWeight =
      raise heap.getParentContainer heap.live.card pointer diff heap.totalWeight) :
    Handed game heap after pointer diff := by
  have sameLive : after.live = heap.live := congrArg Tree.live same
  have sameItem : after.item = items := congrArg Tree.item same
  have sameParent : after.parent = parent := congrArg Tree.parent same
  have sameList : after.itemlist = itemlist := congrArg Tree.itemlist same
  subst sameItem sameParent sameList
  rw [← sameLive] at formed
  exact ⟨sameLive, formed, common, chain, owes, total⟩

theorem getParentContainer_eq (present : heap.live.Nonempty) {node : Nat}
    (straight : heap.skips node = false) : heap.getParentContainer node = heap.parent node := by
  rw [getParentContainer]
  obtain ⟨fuel, isFuel⟩ := Nat.exists_eq_succ_of_ne_zero present.card_pos.ne'
  rw [isFuel, getParentWithin, straight]
  rfl

theorem getParentContainer_root {node : Nat} (isRoot : heap.parent node = none) :
    heap.getParentContainer node = none := by
  rw [getParentContainer]
  cases heap.live.card with
  | zero => rfl
  | succ fuel =>
    rw [getParentWithin, isRoot]
    exact ite_self _

/-- **Exactly when the sums are right again.** -/
theorem Handed.sumsUp_iff {before after : Heap} {diff : UInt32}
    (handed : Handed game before after pointer diff) (present : pointer ∈ before.live) :
    after.SumsUp game ↔ diff = 0 ∨ before.Connected pointer := by
  obtain ⟨cost, rising, risingAfter⟩ := handed.common
  have formed : Forest before.live after.parent after.itemlist := handed.live ▸ handed.formed
  have nonempty : before.live.Nonempty := ⟨pointer, present⟩
  have within {top : Nat} : Within after.parent pointer top ↔ Within before.parent pointer top :=
    within_congr handed.chain top
  rw [SumsUp, handed.total]
  constructor
  · intro sums
    by_contra neither
    obtain ⟨notNothing, apart⟩ := not_or.mp neither
    rw [Connected] at apart
    push Not at apart
    obtain ⟨skipping, reaches, skips, hasParent⟩ := apart
    have risingNext : Rising before.live before.getParentContainer cost :=
      fun node member beyond isNext => rising.ancestor member (inside_of_getParentWithin isNext)
    have mem {passed : Nat} (reaches : Within before.parent pointer passed) : passed ∈ before.live := by
      rcases Relation.reflTransGen_iff_eq_or_transGen.mp reaches with same | inside
      · rwa [same]
      · exact (rising.ancestor present inside).1
    have beyond {passed above next : Nat} (reaches : Within before.parent pointer passed)
        (skips : before.skips passed) (isParent : before.parent passed = some above)
        (isNext : before.getParentContainer passed = some next) : cost next < cost above :=
      (rising.ancestor (rising passed (mem reaches) above isParent).1
        (inside_of_skips skips isParent isNext)).2
    refine formed.raise_unbalanced risingAfter risingNext (fun {passed} reaches => ?_) present handed.owes
      notNothing (within.mpr reaches) ?_ sums
    · -- each container on the way finds its parent, or only what is above that
      have reaches := within.mp reaches
      rw [handed.chain reaches]
      cases skips : before.skips passed with
      | false => exact .inl (getParentContainer_eq nonempty skips)
      | true =>
        cases isParent : before.parent passed with
        | none => exact .inl (getParentContainer_root isParent)
        | some above => exact .inr ⟨above, rfl, fun next => beyond reaches skips isParent⟩
    · rw [handed.chain reaches]
      obtain ⟨above, isParent⟩ := Option.ne_none_iff_exists'.mp hasParent
      rw [isParent]
      exact fun isNext => lt_irrefl _ (beyond reaches skips isParent isNext)
  · rintro (nothing | connected)
    · have owes := handed.owes
      subst nothing
      rw [raise_zero]
      exact owes.balanced
    · refine formed.raise_balanced risingAfter present (Rising.rank_lt_card present)
        (fun {passed} reaches => ?_) handed.owes
      have reaches := within.mp reaches
      rw [handed.chain reaches]
      cases skips : before.skips passed with
      | false => exact getParentContainer_eq nonempty skips
      | true =>
        have isRoot := connected passed reaches skips
        rw [isRoot]
        exact getParentContainer_root isRoot

/-! ## The operations -/

section Operations

variable (formed : heap.Formed)
include formed

theorem totalWeight_internalAddThing (fits : heap.Fits pointer item) :
    (heap.internalAddThing game pointer item).totalWeight =
      raise heap.getParentContainer heap.live.card pointer (heap.getWeight game item)
        heap.totalWeight := by
  have raised := totalWeight_updateItemWeight formed
    ((heap.setParent item (some pointer)).setItemlist pointer (item :: heap.itemlist pointer))
    fits.container rfl isContainer_setItemlist skips_setItemlist (update_of_within fits.apart _)
    (heap.getWeight game item).toInt32
  have sameWeight (list : List Nat) : ((heap.setParent item (some pointer)).setItemlist pointer
      list).getWeight game = heap.getWeight game := getWeight_congr rfl totalWeight_setItemlist
  rw [UInt32.toUInt32_toInt32, totalWeight_setItemlist] at raised
  rw [internalAddThing, insertCached_eq, totalWeight_setPokeballs, sameWeight]
  · exact raised
  · rw [isContainer_updateItemWeight, isContainer_setItemlist]
    exact fits.container

theorem totalWeight_addItemBack (fits : heap.Fits pointer item) :
    (heap.addItemBack game pointer item).totalWeight =
      raise heap.getParentContainer heap.live.card pointer (heap.getWeight game item)
        heap.totalWeight := by
  have same : (heap.addItem pointer item).totalWeight = heap.totalWeight :=
    totalWeight_setItemlist
  have raised := totalWeight_updateItemWeight formed (heap.addItem pointer item) fits.container rfl
    isContainer_setItemlist skips_setItemlist (update_of_within fits.apart _)
    (heap.getWeight game item).toInt32
  rw [UInt32.toUInt32_toInt32, same] at raised
  have sameWeight : (heap.addItem pointer item).getWeight game = heap.getWeight game :=
    getWeight_congr rfl same
  rw [addItemBack, sameWeight]
  exact raised

theorem handed_hang (sums : heap.SumsUp game) (fits : heap.Fits pointer item) {after : Heap}
    {list : List Nat} (listed : list.Perm (item :: heap.itemlist pointer))
    (same : after.tree =
      { heap.tree with
        parent := update heap.parent item (some pointer)
        itemlist := update heap.itemlist pointer list })
    (total : after.totalWeight = raise heap.getParentContainer heap.live.card pointer
      (heap.getWeight game item) heap.totalWeight) :
    Handed game heap after pointer (heap.getWeight game item) := by
  have hung := formed.hang fits listed
  obtain ⟨cost, rising⟩ := hung.rising
  refine .of_tree same hung ⟨cost, rising.of_attach fits.loose, rising⟩
    (update_of_within fits.apart _) (Forest.owes_of_list sums ?_) total
  rw [(listed.map _).sum_eq, List.map_cons, List.sum_cons, getWeight_eq, add_comm]
  rfl

theorem totalWeight_removeThing (container : heap.isContainer pointer)
    (member : item ∈ heap.itemlist pointer) {count : UInt32}
    (whole : ¬ heap.takesPart game item count) :
    (heap.removeThing game pointer item count).totalWeight =
      raise heap.getParentContainer heap.live.card pointer (-heap.getWeight game item)
        heap.totalWeight := by
  have raised := totalWeight_updateItemWeight formed heap container rfl rfl rfl (fun _ => rfl)
    (-(heap.getWeight game item).toInt32)
  have stays : ((heap.updateItemWeight pointer (-(heap.getWeight game item).toInt32)).setParent
      item none).isContainer pointer :=
    (isContainer_updateItemWeight pointer pointer _).trans container
  rw [removeThing, if_pos member, if_neg whole, removeCached_eq, totalWeight_setPokeballs,
    totalWeight_setItemlist]
  · exact raised
  · rwa [isContainer_setItemlist]

theorem handed_removeThing (sums : heap.SumsUp game) (container : heap.isContainer pointer)
    (member : item ∈ heap.itemlist pointer) {count : UInt32}
    (whole : ¬ heap.takesPart game item count) :
    Handed game heap (heap.removeThing game pointer item count) pointer
      (-heap.getWeight game item) := by
  have listed := (List.perm_cons_erase member).symm
  have apart := formed.not_within_of_parent (formed.mem_iff.mp member)
  obtain ⟨cost, rising⟩ := formed.rising
  refine .of_tree (tree_removeThing container member whole) (formed.take member listed)
    ⟨cost, rising, rising.detach item⟩ (update_of_within apart none)
    (Forest.owes_of_list sums ?_) (totalWeight_removeThing formed container member whole)
  rw [contents, ← (listed.map _).sum_eq, List.map_cons, List.sum_cons, getWeight_eq]
  abel

theorem totalWeight_replaceThing (fits : heap.Fits pointer item) {index : UInt32}
    {replacedItem : Nat} (found : (heap.itemlist pointer)[index.toNat]? = some replacedItem) :
    (heap.replaceThing game pointer index item).totalWeight =
      raise heap.getParentContainer heap.live.card pointer
        (-heap.getWeight game replacedItem + heap.getWeight game item) heap.totalWeight := by
  have raised := totalWeight_updateItemWeight formed
    ((heap.setItemlist pointer ((heap.itemlist pointer).set index.toNat item)).setParent item
      (some pointer))
    fits.container rfl isContainer_setItemlist skips_setItemlist (update_of_within fits.apart _)
    (-heap.getWeight game replacedItem + heap.getWeight game item).toInt32
  have sameTotal : ((heap.setItemlist pointer ((heap.itemlist pointer).set index.toNat
      item)).setParent item (some pointer)).totalWeight = heap.totalWeight :=
    totalWeight_setItemlist
  have sameWeight : ((heap.setItemlist pointer ((heap.itemlist pointer).set index.toNat
      item)).setParent item (some pointer)).getWeight game = heap.getWeight game :=
    getWeight_congr rfl sameTotal
  rw [UInt32.toUInt32_toInt32, sameTotal] at raised
  rw [replaceThing, found]
  simp only []
  rw [sameWeight]
  exact raised

/-- An item that enters a container in the place of another. -/
theorem handed_replaceThing (sums : heap.SumsUp game) (fits : heap.Fits pointer item)
    {index : UInt32} {replacedItem : Nat}
    (found : (heap.itemlist pointer)[index.toNat]? = some replacedItem) :
    Handed game heap (heap.replaceThing game pointer index item) pointer
      (-heap.getWeight game replacedItem + heap.getWeight game item) := by
  have isParent := formed.mem_iff.mp (List.mem_of_getElem? found)
  obtain ⟨inside, isReplaced⟩ := List.getElem?_eq_some_iff.mp found
  obtain ⟨cost, rising⟩ := (formed.hang fits (.refl _)).rising
  have apart := formed.not_within_of_parent isParent
  refine .of_tree (tree_replaceThing fits.container found item) (formed.swap fits found)
    ⟨cost, rising.of_attach fits.loose, rising.detach replacedItem⟩ (fun {passed} within => ?_)
    (Forest.owes_of_list sums ?_) (totalWeight_replaceThing formed fits found)
  · have notReplaced : passed ≠ replacedItem := by
      rintro rfl
      exact apart within
    rw [update_of_ne notReplaced]
    exact update_of_within fits.apart _ within
  · -- the rest of the content weighs the same
    have before := ((List.getElem_cons_eraseIdx_perm inside).map
      (weight (heap.baseWeight game) heap.totalWeight)).sum_eq
    have after := ((List.set_perm_cons_eraseIdx inside item).map
      (weight (heap.baseWeight game) heap.totalWeight)).sum_eq
    rw [List.map_cons, List.sum_cons, isReplaced] at before
    rw [after, contents, ← before, List.map_cons, List.sum_cons, getWeight_eq]
    abel

theorem handed_change (sums : heap.SumsUp game) (container : heap.isContainer pointer)
    (member : item ∈ heap.itemlist pointer) (changed : Item) :
    let heap' := heap.setItem item changed
    Handed game heap (heap'.updateItemWeight pointer
      ((-(heap.getWeight game item).toInt32).toUInt32 + heap'.getWeight game item).toInt32) pointer
      (changed.getWeight game - heap.baseWeight game item) := by
  intro heap'
  have isParent := formed.mem_iff.mp member
  obtain ⟨cost, rising⟩ := formed.rising
  have own : heap'.baseWeight game =
      update (heap.baseWeight game) item (changed.getWeight game) := by
    funext other
    by_cases here : other = item
    · rw [here, update_self, baseWeight, item_setItem_self]
    · rw [update_of_ne here, baseWeight, baseWeight, item_setItem_of_ne here]
  have diff : (-(heap.getWeight game item).toInt32).toUInt32 + heap'.getWeight game item =
      changed.getWeight game - heap.baseWeight game item := by
    have same : heap'.totalWeight = heap.totalWeight := rfl
    rw [getWeight_eq, getWeight_eq, weight, weight, same, own, update_self]
    change -(heap.baseWeight game item + heap.totalWeight item) + _ = _
    abel
  have raised := totalWeight_updateItemWeight formed heap' container rfl rfl rfl (fun _ => rfl)
    (changed.getWeight game - heap.baseWeight game item).toInt32
  rw [diff]
  refine .of_tree (tree_updateItemWeight pointer _) formed ⟨cost, rising, rising⟩ (fun _ => rfl)
    ?_ raised
  have owes := formed.owes_of_own sums isParent (changed.getWeight game)
  rwa [← own] at owes

end Operations

end Heap

open Heap

/-! ## Runs -/

/-- The container an operation is made on. -/
def Op.pointer : Op → Nat
  | .addThing pointer _ _ | .internalAddThing pointer _ | .addItemBack pointer _
  | .updateThing pointer _ _ _ | .replaceThing pointer _ _ | .removeThing pointer _ _ => pointer
  | .elsewhere item _ => item

/-- The weight that the content of the container gains. -/
def gained (game : Game) (heap : Heap) : Op → UInt32
  | .addThing pointer index item =>
    if index ≥ (heap.capacity pointer).toInt32 then 0 else heap.getWeight game item
  | .internalAddThing _ item | .addItemBack _ item => heap.getWeight game item
  | .updateThing pointer item itemId count =>
    if item ∈ heap.itemlist pointer then
      (((heap.item item).setID game itemId).setSubType game count.toUInt16).getWeight game -
        heap.baseWeight game item
    else 0
  | .replaceThing pointer index item =>
    match (heap.itemlist pointer)[index.toNat]? with
    | some replacedItem => -heap.getWeight game replacedItem + heap.getWeight game item
    | none => 0
  | .removeThing pointer item count =>
    if item ∈ heap.itemlist pointer then
      if heap.takesPart game item count then
        ((heap.item item).setItemCount (heap.newCount item count)).getWeight game -
          heap.baseWeight game item
      else -heap.getWeight game item
    else 0
  | .elsewhere _ _ => 0

/-- The weight does not change, or the change reaches all the containers above. -/
def HandsUp (game : Game) (heap : Heap) (op : Op) : Prop :=
  gained game heap op = 0 ∨ heap.Connected op.pointer

/-- What an item weighs that lies in no container, or whose weight stays, is nothing to the
containers. -/
theorem sumsUp_elsewhere {game : Game} {heap : Heap} (formed : heap.Formed)
    (sums : heap.SumsUp game) {item : Nat} {changed : Item}
    (loose : heap.parent item = none ∨ changed.id = (heap.item item).id ∧
      changed.getWeight game = (heap.item item).getWeight game) :
    (heap.setItem item changed).SumsUp game := by
  intro pointer
  have same : contents ((heap.setItem item changed).baseWeight game) heap.totalWeight heap.itemlist
      pointer = contents (heap.baseWeight game) heap.totalWeight heap.itemlist pointer := by
    refine congrArg List.sum (List.map_congr_left fun child member => congrArg (· + _) ?_)
    rw [baseWeight, baseWeight]
    by_cases here : child = item
    · subst here
      rcases loose with isRoot | ⟨-, sameWeight⟩
      · have isParent := formed.mem_iff.mp member
        rw [isRoot] at isParent
        cases isParent
      · rw [← sameWeight, item_setItem_self]
    · rw [item_setItem_of_ne here]
  exact same.trans (sums pointer)

/-- **One operation** keeps the sums exactly when the change of weight is nothing or reaches
all the containers above. -/
theorem step_sumsUp {game : Game} {heap : Heap} (formed : heap.Formed) (sums : heap.SumsUp game)
    {op : Op} (isLegal : legal game heap op) :
    (step game heap op).SumsUp game ↔ HandsUp game heap op := by
  have nothing (zero : gained game heap op = 0) : heap.SumsUp game ↔ HandsUp game heap op :=
    iff_of_true sums (.inl zero)
  have handed {after : Heap} (handed : Handed game heap after op.pointer (gained game heap op))
      (present : op.pointer ∈ heap.live) : after.SumsUp game ↔ HandsUp game heap op :=
    handed.sumsUp_iff present
  cases op with
  | addThing pointer index item =>
    by_cases beyond : index ≥ (heap.capacity pointer).toInt32
    · rw [step, addThing, if_pos beyond]
      exact nothing (if_pos beyond)
    · rw [step, addThing, if_neg beyond]
      refine handed ?_ isLegal.present
      rw [gained, if_neg beyond]
      exact handed_hang formed sums isLegal (.refl _)
        (tree_internalAddThing isLegal.container item)
        (totalWeight_internalAddThing formed isLegal)
  | internalAddThing pointer item =>
    exact handed (handed_hang formed sums isLegal (.refl _)
      (tree_internalAddThing isLegal.container item)
      (totalWeight_internalAddThing formed isLegal)) isLegal.present
  | addItemBack pointer item =>
    exact handed (handed_hang formed sums isLegal (List.perm_append_singleton _ _)
      (tree_addItemBack isLegal.container item)
      (totalWeight_addItemBack formed isLegal)) isLegal.present
  | updateThing pointer item itemId count =>
    by_cases member : item ∈ heap.itemlist pointer
    · rw [step, updateThing, if_pos member]
      refine handed ?_ isLegal.2
      rw [gained, if_pos member]
      exact handed_change formed sums isLegal.1 member _
    · rw [step, updateThing, if_neg member]
      exact nothing (if_neg member)
  | replaceThing pointer index item =>
    cases found : (heap.itemlist pointer)[index.toNat]? with
    | some replacedItem =>
      refine handed ?_ isLegal.present
      rw [gained, found]
      exact handed_replaceThing formed sums isLegal found
    | none =>
      rw [step, replaceThing, found]
      refine nothing ?_
      rw [gained, found]
  | removeThing pointer item count =>
    by_cases member : item ∈ heap.itemlist pointer
    · by_cases part : heap.takesPart game item count
      · rw [step, removeThing, if_pos member, if_pos part]
        refine handed ?_ isLegal.2
        rw [gained, if_pos member, if_pos part]
        exact handed_change formed sums isLegal.1 member _
      · refine handed ?_ isLegal.2
        rw [gained, if_pos member, if_neg part]
        exact handed_removeThing formed sums isLegal.1 member part
    · rw [step, removeThing, if_neg member]
      exact nothing (if_neg member)
  | elsewhere item changed =>
    exact iff_of_true (sumsUp_elsewhere formed sums isLegal) (.inl rfl)

/-- **Exactly when the weights stay right.** On any trees of containers with right sums,
the sums are right after each operation of a sequence exactly when each operation changes
no weight or is made on a container from which every container above is reached. -/
theorem runs_weighed_iff (game : Game) {start : Heap} {ops : List Op} (formed : start.Formed)
    (weighed : start.Weighed game) (isLegal : (system game).Legal start ops) :
    (system game).Throughout (fun _ _ after => after.Weighed game) start ops ↔
      (system game).Throughout (fun before op _ => HandsUp game before op) start ops := by
  have step : ∀ (before : Heap) (op : Op), before.Formed ∧ before.SumsUp game →
      legal game before op → ((step game before op).Weighed game ↔ HandsUp game before op) ∧
        ((step game before op).Weighed game → (step game before op).Formed ∧
          (step game before op).SumsUp game) := by
    rintro before op ⟨formed, sums⟩ isLegal
    have after := step_formed formed isLegal
    have exactly := step_sumsUp formed sums isLegal
    have same := @weighed_iff game _ after
    exact ⟨same.trans exactly, fun weighed => ⟨after, same.mp weighed⟩⟩
  exact System.Throughout.iff_of_invariant step ⟨formed, (weighed_iff formed).mp weighed⟩ isLegal

/-- **The containers stay a forest** in every run, whatever becomes of the weights. -/
theorem runs_formed (game : Game) {start : Heap} {ops : List Op} (formed : start.Formed)
    (isLegal : (system game).Legal start ops) : ((system game).run start ops).Formed := by
  have step : ∀ (before : Heap) (op : Op), before.Formed → legal game before op →
      (step game before op).Formed := fun _ _ formed allowed => step_formed formed allowed
  exact System.run_invariant_of_legal step formed isLegal

/-! ## A chest in a locker -/

section Locker

/-- Every item weighs 100, and those of type 2 are pokeballs. -/
def scales : Game := ⟨fun id => { id := id, weight := 100, isPokeball := id = 2 }, fun _ => false⟩

/-- A locker (0), a bag of the given kind (1) and a pokeball (2). -/
def locker (kind : Kind) : Heap where
  live := {0, 1, 2}
  item := fun pointer => { id := if pointer = 2 then 2 else 1 }
  parent := fun _ => none
  container
    | 0 => some { maxSize := 3 }
    | 1 => some { kind := kind, maxSize := 30 }
    | _ => none

theorem locker_untouched (kind : Kind) : (locker kind).Untouched where
  loose := fun _ => rfl
  empty := fun | 0 => rfl | 1 => rfl | _ + 2 => rfl
  weightless := fun | 0 => rfl | 1 => rfl | _ + 2 => rfl
  unlisted := fun | 0 => rfl | 1 => rfl | _ + 2 => rfl

variable {kind : Kind} {pointer item other another : Nat}

theorem locker_live (small : pointer < 3) : pointer ∈ (locker kind).live := by
  change pointer ∈ ({0, 1, 2} : Finset Nat)
  revert pointer
  decide

theorem locker_fits (container : (locker kind).isContainer pointer) (small : pointer < 3)
    (itemSmall : item < 3) (different : item ≠ pointer) : (locker kind).Fits pointer item where
  container := container
  present := locker_live small
  itemPresent := locker_live itemSmall
  loose := rfl
  apart := by
    rw [within_root rfl]
    exact different

theorem locker_fits_next (first : (locker kind).isContainer pointer)
    (container : (locker kind).isContainer other) (small : other < 3) (itemSmall : another < 3)
    (different : another ≠ item)
    (apart : ¬ Within (update (locker kind).parent item (some pointer)) other another) :
    ((locker kind).internalAddThing scales pointer item).Fits other another := by
  have tree := @tree_internalAddThing scales _ _ first item
  have live : ((locker kind).internalAddThing scales pointer item).live = (locker kind).live :=
    congrArg Tree.live tree
  have parent : ((locker kind).internalAddThing scales pointer item).parent =
      update (locker kind).parent item (some pointer) := congrArg Tree.parent tree
  exact
    { container := (congrFun (congrArg Tree.isContainer tree) other).trans container
      present := live ▸ locker_live small
      itemPresent := live ▸ locker_live itemSmall
      loose := by
        rw [parent, update_of_ne different]
        rfl
      apart := parent ▸ apart }

/-- The bag is put into the locker, and then the pokeball into the bag. -/
def stowing : List Op := [.internalAddThing 0 1, .internalAddThing 1 2]

theorem stowing_legal (kind : Kind) : (system scales).Legal (locker kind) stowing := by
  refine ⟨locker_fits rfl (by decide) (by decide) (by decide),
    locker_fits_next rfl rfl (by decide) (by decide) (by decide) ?_, trivial⟩
  intro within
  rcases within.cases_head with same | ⟨above, isParent, further⟩
  · cases same
  · cases isParent
    have same : 2 = 0 := (within_root rfl).mp further
    cases same

theorem runs_formed_stowing : ((system scales).run (locker .depotChest) stowing).Formed :=
  runs_formed scales (locker_untouched _).formed (stowing_legal _)

/-- Where the bag is a chest, the weight of the pokeball does not reach the locker. -/
theorem depotChest_not_weighed :
    ¬ ∀ (game : Game) (start : Heap) (ops : List Op), start.Formed → start.Weighed game →
      (system game).Legal start ops →
        (system game).Throughout (fun _ _ after => after.Weighed game) start ops := by
  intro always
  have untouched := locker_untouched .depotChest
  have weighed := always scales (locker .depotChest) stowing untouched.formed untouched.weighed
    (stowing_legal _)
  have sum := (weighed.2.1 0 (by decide)).1
  revert sum
  decide

/-- Where it is none, it does. -/
theorem runs_weighed_iff_bag :
    (system scales).Throughout (fun _ _ after => after.Weighed scales) (locker .container)
      stowing := by
  have untouched := locker_untouched .container
  have isLegal := stowing_legal .container
  have straight : ∀ pointer, (locker .container).skips pointer = false :=
    fun | 0 => rfl | 1 => rfl | _ + 2 => rfl
  have tree := @tree_internalAddThing scales _ _ isLegal.1.container 1
  have skips : ((locker .container).internalAddThing scales 0 1).skips =
      (locker .container).skips := congrArg Tree.skips tree
  refine (runs_weighed_iff scales untouched.formed untouched.weighed isLegal).mpr
    ⟨.inr fun skipping _ skipsIt => ?_, .inr fun skipping _ skipsIt => ?_, trivial⟩
  · rw [straight] at skipsIt
    cases skipsIt
  · change ((locker .container).internalAddThing scales 0 1).skips skipping = true at skipsIt
    rw [skips, straight] at skipsIt
    cases skipsIt

end Locker

end Otserv.Containers
