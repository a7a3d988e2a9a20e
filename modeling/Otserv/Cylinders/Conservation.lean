import Otserv.Cylinders.Landing

/-!
# Added items are conserved

An item that is put on a stack leaves the rest of it to be added anew, and so on until nothing is
left or the rest is refused. The stacks it is put on get full and nothing else changes
(`Remains`), so the cylinder has as many more of the type at the end as the item had, but for
what was refused (`added_of_noError`).

Three things are left to what can be said of the items before: stacks hold up to
`MAX_ITEM_COUNT`, which is 10000; the index 254 hands an item to the container above; and only
what is left over of the item itself is reported, not what is left over of that.
-/

namespace Otserv.Cylinders

open Foundation
open Items (Game Item)

/-- Types that stack are counted as stacks, and cloned as they are. -/
structure Stackables (game : Game) : Prop where
  dry : ∀ id, (game.items id).stackable →
    ¬((game.items id).isFluidContainer || (game.items id).isSplash) = true
  cloned : ∀ id count, (game.items id).stackable →
    ∃ created, Item.createItem game id count = some created ∧ created.id = id

/-- So many more of a type are in a tree, where stacks and containers still keep to their
limits. -/
structure Contents.Added (before after : Contents) (tree : Cylinder) (id : UInt16)
    (amount : Nat) : Prop where
  risen : after.itemTypeCount tree id = before.itemTypeCount tree id + amount
  counts : ∀ item, before.InTree tree item → (after.count item).toUInt32 ≤ MAX_ITEM_COUNT
  sizes : ∀ item, after.InTree tree item →
    (after.itemlist item).length ≤ (after.maxSize item).toNat

theorem Contents.Added.trans {first second third : Contents} {tree : Cylinder} {id : UInt16}
    {amount more : Nat} (added : first.Added second tree id amount)
    (same : ∀ item, second.InTree tree item ↔ first.InTree tree item)
    (next : second.Added third tree id more) : first.Added third tree id (amount + more) := by
  refine ⟨?_, fun item inTree => next.counts item ((same item).mpr inTree), next.sizes⟩
  rw [next.risen, added.risen, Nat.add_assoc]

namespace World

variable {rules : Rules} {world : World} {item : Nat} {tree : Cylinder}

/-! ## One item -/

/-- An item in a place of its own. -/
theorem added_put (ready : world.contents.Ready tree item) (tidy : world.contents.Tidy tree)
    {destination : Destination} (free : world.Free tree destination) :
    world.contents.Added (world.put rules destination item).contents tree (world.item item).id
      (world.item item).count.toNat := by
  have bare : ∀ other, Within world.contents.parent other item → other = item :=
    fun other => Contents.eq_of_within ready.forest ready.empty
  have new : ¬world.contents.InTree tree item :=
    Contents.not_inTree_of_loose ready.loose ready.notRoot
  have isPut : (world.put rules destination item).contents =
      (world.addThing rules.game destination.cylinder destination.index item).contents := by
    rw [put]
    split
    · exact contents_notify _
    · rfl
  rw [isPut]
  obtain ⟨cylinder, index, destItem⟩ := destination
  cases cylinder with
  | player =>
    obtain ⟨rfl, inRange, isEmpty⟩ := free
    have gains := @Contents.gains_wear world.contents item _ bare isEmpty
    rw [contents_addThing_player ready.loose inRange]
    exact ⟨gains.itemTypeCount ready.itemPresent new, tidy.counts,
      tidy.sizes_wear gains ready.empty⟩
  | container pointer =>
    obtain ⟨inTree, isContainer, room, fits⟩ := free
    have gains := @Contents.gains_hang world.contents tree item pointer ready.loose bare inTree
    rw [contents_addThing_container isContainer fits]
    exact ⟨gains.itemTypeCount ready.itemPresent new, tidy.counts,
      tidy.sizes_hang gains ready.empty room⟩
  | outside holder => exact free.elim

/-- A stack that grows. -/
theorem added_restack (tidy : world.contents.Tidy tree) (ready : world.contents.Ready tree item)
    {toItem : Nat} (inTree : world.contents.InTree tree toItem) {more : Nat}
    (fits : (world.item toItem).count.toNat + more ≤ 10000) {count : UInt16}
    (isCount : count.toNat = (world.item toItem).count.toNat + more) :
    world.contents.Added (world.contents.restack toItem count) tree (world.item toItem).id more := by
  have small : count.toUInt32 ≤ MAX_ITEM_COUNT := by
    rw [UInt32.le_iff_toNat_le, UInt16.toNat_toUInt32, isCount]
    exact fits
  have restacked := @Contents.Tidy.restack _ _ toItem tidy _ small
  have present := Contents.live_of_inTree ready.forest ready.present inTree
  have risen := Contents.itemTypeCount_restack present inTree count
  refine ⟨?_, restacked.counts, restacked.sizes⟩
  change _ = world.contents.itemTypeCount tree (world.contents.id toItem) + more
  have isOld : (world.contents.count toItem).toNat = (world.item toItem).count.toNat := rfl
  change (world.contents.restack toItem count).itemTypeCount tree (world.contents.id toItem) = _
  omega

theorem id_eq_of_equals {toItem : Nat} (equal : world.equals item toItem) :
    (world.item toItem).id = (world.item item).id := by
  rw [equals, Bool.or_eq_true, decide_eq_true_eq] at equal
  rcases equal with rfl | equal
  · rfl
  · rw [Item.equals, decide_eq_true_eq] at equal
    exact equal.1.symm

theorem clone_spec (stackables : Stackables rules.game) (formed : world.heap.Formed)
    (stackable : world.isStackable rules.game item) :
    ∃ cloned count, world.clone rules.game item = (cloned, some world.next) ∧
      cloned.contents = world.contents.bear world.next (world.item item).id count ∧
      cloned.parent world.next = none ∧ cloned.tradeItem = world.tradeItem := by
  obtain ⟨created, isCreated, sameId⟩ := stackables.cloned _ (world.item item).count stackable
  obtain ⟨copy, isCopy, copyId⟩ : ∃ copy, (world.item item).copied rules.game true = some copy ∧
      copy.id = (world.item item).id := by
    rw [Item.copied, isCreated, Option.map_some]
    refine ⟨_, rfl, ?_⟩
    split
    · exact sameId
    · exact sameId
  have born := contents_allocate formed copy
  rw [copyId] at born
  have loose : (world.allocate copy).parent world.next = none := by
    have isParent : (world.allocate copy).heap.parent world.next = none :=
      Function.update_self ..
    have isParented : (world.allocate copy).parented world.next = false :=
      Function.update_self ..
    have isOutside : (world.allocate copy).outside world.next = none :=
      Function.update_self ..
    rw [parent, isParent]
    rw [isParented, isOutside]
    rfl
  rw [clone]
  rw [isCopy]
  dsimp only
  split
  · exact ⟨_, copy.count, rfl, contents_pushToDecay.trans born, loose, rfl⟩
  · exact ⟨_, copy.count, rfl, born, loose, rfl⟩

/-- What a stack takes, and what it leaves. -/
inductive Stacked (rules : Rules) (world : World) (tree : Cylinder) (item toItem : Nat) :
    Outcome → Prop
  | all {after : World}
      (added : world.contents.Added after.contents tree (world.item item).id
        (world.item item).count.toNat) : Stacked rules world tree item toItem (.placed after)
  | part {after : World} {full : UInt16} {rest : UInt32}
      (isContents : after.contents = (world.contents.restack toItem full).bear world.next
        (world.item item).id rest.toUInt16)
      (isFull : full.toNat = 10000) (isRest : rest.toNat + 10000 =
        (world.item item).count.toNat + (world.item toItem).count.toNat)
      (less : rest.toNat < (world.item item).count.toNat) (rests : 0 < rest.toNat)
      (loose : after.parent world.next = none) (trade : after.tradeItem = world.tradeItem) :
      Stacked rules world tree item toItem (.left after world.next rest)

theorem stacked (stackables : Stackables rules.game) (ready : world.contents.Ready tree item)
    (tidy : world.contents.Tidy tree) {destination : Destination} {toItem : Nat}
    (onto : world.Onto tree destination item toItem)
    (stackable : world.isStackable rules.game item) {maxQueryCount : UInt32}
    (enough : world.getItemCount item ≤ maxQueryCount) :
    world.Stacked rules tree item toItem (world.stack rules destination item toItem
      maxQueryCount) := by
  have sameId := id_eq_of_equals onto.equals
  have toStackable : world.isStackable rules.game toItem := by
    rw [isStackable, Item.isStackable, sameId]
    exact stackable
  have isCount (pointer : Nat) :
      (world.getItemCount pointer).toNat = (world.item pointer).count.toNat :=
    UInt16.toNat_toUInt32 _
  have room := onto.room
  have room : (world.item toItem).count.toNat < 10000 := room
  have isRemainder : (world.remainder toItem).toNat = 10000 - (world.item toItem).count.toNat := by
    rw [remainder, UInt32.toNat_sub_of_le _ _ (UInt32.le_of_lt onto.room), isCount]
    rfl
  have isM : min (world.getItemCount item) maxQueryCount = world.getItemCount item :=
    if_pos enough
  have updated (n : UInt32) : (world.updateThing rules.game destination.cylinder toItem
      (world.item toItem).id (world.getItemCount toItem + n)).contents =
      world.contents.restack toItem (world.getItemCount toItem + n).toUInt16 :=
    contents_updateThing onto.there toStackable (stackables.dry _ toStackable) _
  have isMin : min (world.remainder toItem) (world.getItemCount item) =
      if world.remainder toItem ≤ world.getItemCount item then world.remainder toItem
      else world.getItemCount item := rfl
  rw [stack, isM]
  by_cases fits : world.getItemCount item ≤ world.remainder toItem
  · -- all of it goes on the stack
    have isN : min (world.remainder toItem) (world.getItemCount item) =
        world.getItemCount item := by
      rw [isMin]
      split
      next other => exact UInt32.le_antisymm other fits
      next => rfl
    rw [isN, UInt32.sub_self, if_neg (UInt32.lt_irrefl 0)]
    rw [UInt32.le_iff_toNat_le, isCount, isRemainder] at fits
    have sum : (world.getItemCount toItem + world.getItemCount item).toUInt16.toNat =
        (world.item toItem).count.toNat + (world.item item).count.toNat := by
      rw [UInt32.toNat_toUInt16, UInt32.toNat_add, isCount, isCount]
      omega
    have added := added_restack tidy ready onto.inTree (by omega) sum
    rw [sameId, ← updated] at added
    split
    · refine .all ?_
      rw [contents_notify]
      exact added
    · exact .all added
  · have isN : min (world.remainder toItem) (world.getItemCount item) =
        world.remainder toItem := by
      rw [isMin, if_pos (UInt32.le_of_lt (UInt32.not_le.mp fits))]
    rw [UInt32.le_iff_toNat_le, isCount, isRemainder] at fits
    have isRest : (world.getItemCount item - world.remainder toItem).toNat =
        (world.item item).count.toNat - (10000 - (world.item toItem).count.toNat) := by
      rw [UInt32.toNat_sub_of_le, isCount, isRemainder]
      rw [UInt32.le_iff_toNat_le, isCount, isRemainder]
      omega
    have rests : 0 < world.getItemCount item - world.remainder toItem := by
      rw [UInt32.lt_iff_toNat_lt, isRest, UInt32.toNat_zero]
      omega
    have differs : world.getItemCount item ≠
        world.getItemCount item - world.remainder toItem := by
      intro same
      have same := congrArg UInt32.toNat same
      rw [isRest, isCount] at same
      omega
    rw [isN, if_pos rests, if_pos differs]
    have full : (world.getItemCount toItem + world.remainder toItem).toUInt16.toNat = 10000 := by
      rw [UInt32.toNat_toUInt16, UInt32.toNat_add, isCount, isRemainder]
      omega
    have isContents := updated (world.remainder toItem)
    have trade : (world.updateThing rules.game destination.cylinder toItem
        (world.item toItem).id (world.getItemCount toItem + world.remainder toItem)).tradeItem =
        world.tradeItem := by
      rw [updateThing.eq_def]
      split
      · split <;> rfl
      · rfl
      · rfl
    generalize world.updateThing rules.game destination.cylinder toItem (world.item toItem).id
      (world.getItemCount toItem + world.remainder toItem) = merged at isContents trade ⊢
    have sameItem : (merged.item item).id = (world.item item).id :=
      congrFun (congrArg Contents.id isContents) item
    have live : merged.heap.live = world.heap.live := congrArg Contents.live isContents
    have formed : merged.heap.Formed := by
      have parent : merged.heap.parent = world.heap.parent := congrArg Contents.parent isContents
      have itemlist : merged.heap.itemlist = world.heap.itemlist :=
        congrArg Contents.itemlist isContents
      rw [Containers.Heap.Formed, live, parent, itemlist]
      exact ready.forest
    have isNext : merged.next = world.next := by
      rw [next, live, next]
    have isStackable : merged.isStackable rules.game item := by
      rw [World.isStackable, Item.isStackable, sameItem]
      exact stackable
    obtain ⟨cloned, count, isCloned, born, loose, sameTrade⟩ :=
      clone_spec stackables formed isStackable
    rw [isNext] at isCloned born loose
    rw [isCloned]
    refine .part ?_ full ?_ ?_ ?_ loose (sameTrade.trans trade)
    · rw [contents_setItemCount, born, isContents, sameItem, Contents.restack_bear]
    · omega
    · omega
    · exact UInt32.lt_iff_toNat_lt.mp rests

/-! ## What is left over -/

/-- What the whole of it comes to, and in what state it leaves what is left over. -/
structure Remains (rules : Rules) (world : World) (cylinder : Cylinder) (item : Nat)
    (after : World) (remainderItem : Nat) (rest : UInt32) : Prop where
  added : world.contents.Added after.contents cylinder (world.item item).id
    ((world.item item).count.toNat - rest.toNat)
  same : ∀ other, after.contents.InTree cylinder other ↔ world.contents.InTree cylinder other
  tidy : after.contents.Tidy cylinder
  ready : after.contents.Ready cylinder remainderItem
  loose : after.parent remainderItem = none
  id : (after.item remainderItem).id = (world.item item).id
  count : (after.item remainderItem).count.toNat = rest.toNat
  less : rest.toNat < (world.item item).count.toNat
  fitting : cylinder = .player → after.Fitting rules remainderItem INDEX_WHEREEVER

variable {cylinder : Cylinder} {index : Int32} {after : World}

theorem remains (ready : world.contents.Ready tree item) (tidy : world.contents.Tidy tree)
    {toItem : Nat} (inTree : world.contents.InTree tree toItem)
    (sameId : (world.item toItem).id = (world.item item).id)
    (shown : tree = .player → ∀ pointer, world.Carried pointer →
      (∃ other ∈ world.itemlist pointer, world.tradeItem = some other) →
        (world.itemlist pointer).length < (world.maxSize pointer).toNat)
    {remainderItem : Nat} {rest : UInt32}
    (left : world.Stacked rules tree item toItem (.left after remainderItem rest)) :
    world.Remains rules tree item after remainderItem rest := by
  generalize isLeft : Outcome.left after remainderItem rest = outcome at left
  cases left with
  | all added => cases isLeft
  | @part merged full left isContents isFull isRest less rests loose trade =>
    obtain ⟨rfl, rfl, rfl⟩ := Outcome.left.inj isLeft
    have bound : rest.toNat < 2 ^ 16 := Nat.lt_trans less (UInt16.toNat_lt _)
    have isCount : rest.toUInt16.toNat = rest.toNat := by
      rw [UInt32.toNat_toUInt16]
      omega
    have full10000 : full.toUInt32 ≤ MAX_ITEM_COUNT := by
      rw [UInt32.le_iff_toNat_le, UInt16.toNat_toUInt32, isFull]
      exact Nat.le_refl 10000
    have stacked := @added_restack world item tree tidy ready toItem inTree
      (10000 - (world.item toItem).count.toNat) (by omega) full (by omega)
    have absent := world.next_not_mem
    have present (other : Nat) : world.contents.InTree tree other → other ∈ world.contents.live :=
      Contents.live_of_inTree ready.forest ready.present
    have sameTree (other : Nat) : after.contents.InTree tree other ↔
        world.contents.InTree tree other := by
      rw [isContents]
      exact Contents.inTree_bear _ _ other
    have tidyAfter : after.contents.Tidy tree := by
      rw [isContents]
      exact (tidy.restack full10000).bear absent present
    obtain ⟨isId, isBorn⟩ : after.contents.id world.next = (world.item item).id ∧
        after.contents.count world.next = rest.toUInt16 := by
      rw [isContents]
      exact ⟨Function.update_self .., Function.update_self ..⟩
    have isOld {other : Nat} (isLive : other ∈ world.contents.live) :=
      @Contents.bear_of_live (world.contents.restack toItem full) world.next
        (world.item item).id rest.toUInt16 absent other isLive
    have isParent : after.contents.parent = world.contents.parent := by
      rw [isContents]
      rfl
    have isList : after.contents.itemlist = world.contents.itemlist := by
      rw [isContents]
      rfl
    have isLive : after.contents.live = insert world.next world.contents.live := by
      rw [isContents]
      rfl
    have isRoot (other : Nat) : after.contents.Root tree other ↔ world.contents.Root tree other := by
      rw [isContents]
      cases tree <;> exact .rfl
    have forest : Forest after.contents.live after.contents.parent after.contents.itemlist := by
      rw [isLive, isParent, isList]
      exact ready.forest.mono (Finset.subset_insert _ _)
    refine ⟨⟨?_, fun other inTree => ?_, tidyAfter.sizes⟩, sameTree, tidyAfter, ?_, loose, isId,
      (congrArg UInt16.toNat isBorn).trans isCount, less, ?_⟩
    · have risen := stacked.risen
      rw [sameId] at risen
      rw [isContents, @Contents.itemTypeCount_bear (world.contents.restack toItem full) tree
        world.next (world.item item).id rest.toUInt16 absent present]
      omega
    · rw [isContents, (isOld (present other inTree)).2.1]
      exact stacked.counts other inTree
    · refine ⟨forest, fun root found => ?_, fun pointer isTree => ?_, ?_, ?_, fun found => ?_,
        ?_, ?_, ?_⟩
      · rw [isLive]
        exact Finset.mem_insert_of_mem (ready.present root ((isRoot root).mp found))
      · have isIn : pointer ∈ world.contents.live := ready.present pointer (by
          rw [isTree]
          rfl)
        rw [isContents, (isOld isIn).2.2.1]
        exact ready.container pointer isTree
      · rw [isLive]
        exact Finset.mem_insert_self _ _
      · rw [isParent]
        exact Contents.parent_of_not_live ready.forest absent
      · exact absent (ready.present _ ((isRoot _).mp found))
      · rw [isContents]
        exact Function.update_self ..
      · rw [isList]
        exact Contents.itemlist_of_not_live ready.forest absent
      · rw [isBorn, UInt16.lt_iff_toNat_lt, isCount]
        exact rests
    · rintro rfl
      refine ⟨fun other isThing => ?_, fun pointer carried traded => ?_⟩
      · cases isThing
      have wasIn := (sameTree pointer).mp carried.1
      have isIn := present pointer wasIn
      obtain ⟨-, -, sameContainer, sameSize⟩ := isOld isIn
      have was : world.Carried pointer := by
        refine ⟨wasIn, ?_⟩
        have isContainer := carried.2
        change after.contents.isContainer pointer = true at isContainer
        rw [isContents, sameContainer] at isContainer
        exact isContainer
      change (∃ other ∈ after.contents.itemlist pointer, after.tradeItem = some other) at traded
      change (after.contents.itemlist pointer).length < (after.contents.maxSize pointer).toNat
      rw [isList, trade] at traded
      rw [isList, isContents, sameSize]
      exact shown rfl pointer was traded

/-! ## Adding -/

/-- An item in nothing that may be put into a cylinder. -/
structure Addable (rules : Rules) (world : World) (cylinder : Cylinder) (index : Int32)
    (item : Nat) : Prop where
  ready : world.contents.Ready (world.receiver cylinder index) item
  tidy : world.contents.Tidy (world.receiver cylinder index)
  loose : world.parent item = none
  fitting : cylinder = .player → world.Fitting rules item index

theorem free_congr (same : after.contents = world.contents)
    {destination : Destination} (free : world.Free tree destination) :
    after.Free tree destination := by
  obtain ⟨cylinder, index, destItem⟩ := destination
  have inventory : after.inventory = world.inventory := congrArg Contents.inventory same
  have isContainer : after.heap.isContainer = world.heap.isContainer :=
    congrArg Contents.isContainer same
  have itemlist : after.heap.itemlist = world.heap.itemlist := congrArg Contents.itemlist same
  have capacity : after.heap.capacity = world.heap.capacity := congrArg Contents.maxSize same
  cases cylinder with
  | player =>
    obtain ⟨isTree, inRange, isEmpty⟩ := free
    exact ⟨isTree, inRange, by rw [inventory]; exact isEmpty⟩
  | container pointer =>
    obtain ⟨inTree, isIn, room, fits⟩ := free
    refine ⟨same ▸ inTree, ?_, ?_, ?_⟩
    · rw [World.isContainer, isContainer]
      exact isIn
    · rw [World.itemlist, World.maxSize, itemlist, capacity]
      exact room
    · rw [capacity]
      exact fits
  | outside holder => exact free

/-- A stack that is updated to the count it has. -/
theorem contents_updateThing_self {toItem : Nat}
    (stackables : Stackables rules.game) (stackable : world.isStackable rules.game toItem) :
    (world.updateThing rules.game cylinder toItem (world.item toItem).id
      (world.getItemCount toItem)).contents = world.contents := by
  by_cases there : world.hasThing cylinder toItem
  · have isCount : (world.getItemCount toItem).toUInt16 = (world.item toItem).count :=
      UInt16.toUInt16_toUInt32 _
    rw [contents_updateThing there stackable (stackables.dry _ stackable), isCount,
      contents_restack_self]
  · cases cylinder with
    | player => rw [updateThing, if_neg there]
    | outside holder => rfl
    | container pointer =>
      have absent : toItem ∉ world.heap.itemlist pointer := fun member =>
        there (decide_eq_true member)
      rw [updateThing, Containers.Heap.updateThing, if_neg absent]

theorem added_full (stackables : Stackables rules.game) (ready : world.contents.Ready tree item)
    (tidy : world.contents.Tidy tree) {destination : Destination} {toItem : Nat}
    (free : world.Free tree destination) (stackable : world.isStackable rules.game item)
    (equals : world.equals item toItem) (full : world.getItemCount toItem = MAX_ITEM_COUNT)
    {maxQueryCount : UInt32} (enough : world.getItemCount item ≤ maxQueryCount) :
    ∃ after, world.stack rules destination item toItem maxQueryCount = .placed after ∧
      world.contents.Added after.contents tree (world.item item).id
        (world.item item).count.toNat := by
  have toStackable : world.isStackable rules.game toItem := by
    rw [isStackable, Item.isStackable, id_eq_of_equals equals]
    exact stackable
  have isM : min (world.getItemCount item) maxQueryCount = world.getItemCount item :=
    if_pos enough
  have isN : min (world.remainder toItem) (world.getItemCount item) = 0 := by
    rw [remainder, full, UInt32.sub_self]
    exact if_pos (UInt32.zero_le)
  have counted : 0 < world.getItemCount item := by
    have some := ready.count
    exact some
  have same := @contents_updateThing_self rules world destination.cylinder toItem stackables
    toStackable
  rw [stack, isM, isN, UInt32.sub_zero, UInt32.add_zero]
  rw [if_pos counted, if_neg (fun differs => differs rfl)]
  generalize world.updateThing rules.game destination.cylinder toItem (world.item toItem).id
    (world.getItemCount toItem) = merged at same ⊢
  refine ⟨_, rfl, ?_⟩
  have added := @added_put rules merged item tree (same ▸ ready) (same ▸ tidy) destination
    (free_congr same free)
  have sameId : (merged.item item).id = (world.item item).id :=
    congrFun (congrArg Contents.id same) item
  have sameCount : (merged.item item).count = (world.item item).count :=
    congrFun (congrArg Contents.count same) item
  rw [same, sameId, sameCount] at added
  exact added

/-- What is not refused can all be taken. -/
theorem le_of_queryMaxCount {count : UInt32} (stackable : world.isStackable rules.game item)
    (enough : (world.queryMaxCount rules cylinder INDEX_WHEREEVER item count {}).1 = .noError) :
    count ≤ (world.queryMaxCount rules cylinder INDEX_WHEREEVER item count {}).2 := by
  cases cylinder with
  | player =>
    rw [queryMaxCount, playerQueryMaxCount] at enough ⊢
    dsimp only at enough ⊢
    rw [if_pos rfl] at enough ⊢
    split at enough
    · cases enough
    next fits => exact UInt32.not_lt.mp fits
  | container pointer =>
    rw [queryMaxCount, containerQueryMaxCount, if_neg Bool.false_ne_true, if_pos stackable]
      at enough ⊢
    dsimp only at enough ⊢
    split at enough
    · cases enough
    next fits => exact UInt32.not_lt.mp fits
  | outside holder => cases enough

theorem receiver_of_destItem {toItem : Nat}
    (isDest : (world.queryDestination rules cylinder index item {}).destItem = some toItem) :
    world.receiver cylinder index = cylinder := by
  cases cylinder with
  | player => rfl
  | outside holder => rfl
  | container pointer =>
    rw [receiver]
    split
    next up =>
      rw [Bool.and_eq_true, decide_eq_true_eq] at up
      rw [queryDestination, containerQueryDestination, up.1, Bool.not_true,
        if_neg Bool.false_ne_true, if_pos up.2] at isDest
      split at isDest <;> cases isDest
    next => rfl

theorem receiver_wherever (cylinder : Cylinder) :
    world.receiver cylinder INDEX_WHEREEVER = cylinder := by
  cases cylinder with
  | player => rfl
  | outside holder => rfl
  | container pointer =>
    have notUp : ¬(world.unlocked pointer && decide (INDEX_WHEREEVER = 254)) = true := by
      rw [Bool.and_eq_true]
      exact fun both => absurd both.2 (by decide)
    exact if_neg notUp

/-- What comes of an item: it is all there, or what is left of it is again in nothing. -/
inductive Comes (rules : Rules) (world : World) (cylinder : Cylinder) (index : Int32)
    (item : Nat) : Outcome → Prop
  | refused {ret : ReturnValue} (isError : ret ≠ .noError) :
      Comes rules world cylinder index item (.refused ret)
  | placed {after : World}
      (added : world.contents.Added after.contents (world.receiver cylinder index)
        (world.item item).id (world.item item).count.toNat) :
      Comes rules world cylinder index item (.placed after)
  | left {after : World} {remainderItem : Nat} {rest : UInt32}
      (here : world.receiver cylinder index = cylinder)
      (remains : world.Remains rules cylinder item after remainderItem rest) :
      Comes rules world cylinder index item (.left after remainderItem rest)

/-- **What comes of an item.** -/
theorem comes (stackables : Stackables rules.game)
    (addable : world.Addable rules cylinder index item) :
    world.Comes rules cylinder index item (world.addItem rules cylinder item index {}) := by
  rw [addItem]
  dsimp only
  split
  next isError => exact .refused isError
  next answer =>
    rw [ne_eq, not_not] at answer
    split
    next isError => exact .refused isError
    next enough =>
      rw [ne_eq, not_not] at enough
      have lands := lands addable.ready addable.tidy addable.loose addable.fitting answer enough
      split
      next toItem isTo =>
        rw [Option.filter_eq_some_iff, Bool.and_eq_true] at isTo
        obtain ⟨isDest, stackable, equals⟩ := isTo
        have all := le_of_queryMaxCount stackable enough
        have here := receiver_of_destItem isDest
        rcases lands with ⟨-, other, isOther, onto⟩ | ⟨free, full⟩
        · obtain rfl : other = toItem := Option.some.inj (isOther.symm.trans isDest)
          have stacked := stacked stackables addable.ready addable.tidy onto stackable all
          generalize world.stack rules _ item other _ = outcome at stacked ⊢
          cases outcome with
          | refused ret => cases stacked
          | placed after =>
            cases stacked with
            | all added => exact .placed added
          | left after remainderItem rest =>
            have ready := addable.ready
            have tidy := addable.tidy
            have inTree := onto.inTree
            rw [here] at ready tidy inTree stacked
            exact .left here (remains ready tidy inTree (id_eq_of_equals equals)
              (fun isPlayer => (addable.fitting isPlayer).shown) stacked)
        · obtain ⟨after, isPlaced, added⟩ := added_full stackables addable.ready addable.tidy
            free stackable equals (full toItem isDest stackable equals) all
          rw [isPlaced]
          exact .placed added
      next noStack =>
        rcases lands with ⟨stackable, toItem, isDest, onto⟩ | ⟨free, -⟩
        · rw [isDest, Option.filter_some, stackable, onto.equals] at noStack
          cases noStack
        · exact .placed (added_put addable.ready addable.tidy free)

theorem Remains.addable {remainderItem : Nat}
    {rest : UInt32} (remains : world.Remains rules cylinder item after remainderItem rest) :
    after.Addable rules cylinder INDEX_WHEREEVER remainderItem where
  ready := by
    rw [receiver_wherever]
    exact remains.ready
  tidy := by
    rw [receiver_wherever]
    exact remains.tidy
  loose := remains.loose
  fitting := remains.fitting

/-- What is left over finds its place, whatever is left over of it then. -/
inductive Settles (rules : Rules) (cylinder : Cylinder) : World → Nat → Int32 → Prop
  | placed {world after : World} {item : Nat} {index : Int32}
      (isPlaced : world.addItem rules cylinder item index {} = .placed after) :
      Settles rules cylinder world item index
  | left {world after : World} {item remainderItem : Nat} {index : Int32} {rest : UInt32}
      (isLeft : world.addItem rules cylinder item index {} = .left after remainderItem rest)
      (settles : Settles rules cylinder after remainderItem INDEX_WHEREEVER) :
      Settles rules cylinder world item index

theorem added_of_settles (stackables : Stackables rules.game)
    (settles : Settles rules cylinder world item index)
    (addable : world.Addable rules cylinder index item) {fuel : Nat}
    (deep : (world.item item).count.toNat < fuel) :
    ∃ after, internalAddItemWithin rules cylinder {} fuel world item index = (after, .noError, 0) ∧
      world.contents.Added after.contents (world.receiver cylinder index) (world.item item).id
        (world.item item).count.toNat := by
  induction settles generalizing fuel with
  | @placed world after item index isPlaced =>
    have comes := comes stackables addable
    rw [isPlaced] at comes
    cases comes with
    | placed added =>
      obtain ⟨fuel, rfl⟩ := Nat.exists_eq_add_one_of_ne_zero (Nat.ne_zero_of_lt deep)
      refine ⟨after.startDecay item, ?_, ?_⟩
      · rw [internalAddItemWithin, isPlaced]
      · rw [contents_startDecay]
        exact added
  | @left world after item remainderItem index rest isLeft settles ih =>
    have comes := comes stackables addable
    rw [isLeft] at comes
    cases comes with
    | left here remains =>
      obtain ⟨fuel, rfl⟩ := Nat.exists_eq_add_one_of_ne_zero (Nat.ne_zero_of_lt deep)
      have less := remains.less
      have isCount := remains.count
      have below : (after.item remainderItem).count.toNat < fuel := by omega
      obtain ⟨last, isLast, added⟩ := ih remains.addable below
      refine ⟨last.startDecay item, ?_, ?_⟩
      · rw [internalAddItemWithin, isLeft]
        dsimp only
        rw [isLast]
      · rw [contents_startDecay, here]
        rw [receiver_wherever, remains.id, isCount] at added
        have whole := remains.added.trans remains.same added
        have sum : (world.item item).count.toNat - rest.toNat + rest.toNat =
            (world.item item).count.toNat := by omega
        rwa [sum] at whole

/-- **Adding conserves items.** The cylinder has as many more of the type as the item had, but
for what is reported to be left over, and what is refused changes nothing. What is left of a part
that is left over finds its place, too. -/
theorem added_of_noError (stackables : Stackables rules.game) {cylinder : Cylinder}
    {index : Int32} (addable : world.Addable rules cylinder index item)
    (settles : ∀ after remainderItem rest,
      world.addItem rules cylinder item index {} = .left after remainderItem rest →
      (∃ ret, after.addItem rules cylinder remainderItem INDEX_WHEREEVER {} = .refused ret) ∨
        Settles rules cylinder after remainderItem INDEX_WHEREEVER) :
    ((world.internalAddItem rules cylinder item index {}).2.1 = .noError →
        world.contents.Added (world.internalAddItem rules cylinder item index {}).1.contents
          (world.receiver cylinder index) (world.item item).id
          ((world.item item).count.toNat -
            (world.internalAddItem rules cylinder item index {}).2.2.toNat)) ∧
      ((world.internalAddItem rules cylinder item index {}).2.1 ≠ .noError →
        (world.internalAddItem rules cylinder item index {}).1 = world) := by
  have counted : (world.getItemCount item).toNat = (world.item item).count.toNat :=
    UInt16.toNat_toUInt32 _
  have comes := comes stackables addable
  generalize isOutcome : world.addItem rules cylinder item index {} = outcome at comes settles
  cases comes with
  | @refused ret isError =>
    have isAdd : world.internalAddItem rules cylinder item index {} = (world, ret, 0) := by
      rw [internalAddItem, internalAddItemWithin, isOutcome]
    rw [isAdd]
    exact ⟨fun noError => absurd noError isError, fun _ => rfl⟩
  | @placed after added =>
    have isAdd : world.internalAddItem rules cylinder item index {} =
        (after.startDecay item, .noError, 0) := by
      rw [internalAddItem, internalAddItemWithin, isOutcome]
    rw [isAdd]
    refine ⟨fun _ => ?_, fun isError => absurd rfl isError⟩
    rw [contents_startDecay]
    exact added
  | @left after remainderItem rest here remains =>
    rcases settles after remainderItem rest rfl with ⟨ret, isRefused⟩ | settled
    · have isError : ret ≠ .noError := by
        have comes := World.comes stackables remains.addable
        rw [isRefused] at comes
        cases comes with
        | refused isError => exact isError
      have isNested (fuel : Nat) : internalAddItemWithin rules cylinder {} (fuel + 1) after
          remainderItem INDEX_WHEREEVER = (after, ret, 0) := by
        rw [internalAddItemWithin, isRefused]
      have isAdd : world.internalAddItem rules cylinder item index {} =
          (after.startDecay item, .noError, rest) := by
        obtain ⟨fuel, isFuel⟩ := Nat.exists_eq_add_one_of_ne_zero
          (Nat.ne_zero_of_lt (counted ▸ remains.less))
        rw [internalAddItem, internalAddItemWithin, isOutcome]
        dsimp only
        rw [isFuel, isNested]
        cases ret <;> first | rfl | exact absurd rfl isError
      rw [isAdd]
      refine ⟨fun _ => ?_, fun isError => absurd rfl isError⟩
      rw [contents_startDecay, here]
      exact remains.added
    · obtain ⟨last, isLast, added⟩ :=
        added_of_settles stackables (.left isOutcome settled) addable
          (counted ▸ Nat.lt_succ_self _ : _ < (world.getItemCount item).toNat + 1)
      rw [internalAddItem, isLast]
      exact ⟨fun _ => added, fun isError => absurd rfl isError⟩

/-- A bag, and coins of which stacks are made. -/
def coins : Rules where
  game :=
    { items := fun id =>
        if id = 1 then { id, group := .container, pickupable := true, maxItems := 20 }
        else if id = 2 then { id, stackable := true, pickupable := true }
        else { id := 0 }
      uniqueItems := fun _ => false }

/-- A bag with a stack of coins in it, and some coins beside it. -/
def bag (stacked loose : UInt16) : World where
  heap :=
    { live := {0, 1, 2}
      item := fun pointer =>
        if pointer = 0 then { id := 1 }
        else if pointer = 1 then { id := 2, count := stacked }
        else if pointer = 2 then { id := 2, count := loose }
        else { id := 0 }
      parent := fun pointer => if pointer = 1 then some 0 else none
      container := fun pointer =>
        if pointer = 0 then some { maxSize := 20, itemlist := [1] } else none }

theorem stackables_coins : Stackables coins.game := by
  have isCoin {id : UInt16} (stackable : (coins.game.items id).stackable) : id = 2 := by
    by_contra other
    by_cases isBag : id = 1
    · subst isBag
      exact absurd stackable (by decide)
    · have isType : coins.game.items id = { id := 0 } := by
        change ite _ _ (ite _ _ _) = _
        rw [if_neg isBag, if_neg other]
      rw [isType] at stackable
      exact absurd stackable (by decide)
  refine ⟨fun id stackable => ?_, fun id count stackable => ?_⟩
  · obtain rfl := isCoin stackable
    decide
  · obtain rfl := isCoin stackable
    exact ⟨_, rfl, Item.new_id ..⟩

theorem addable_bag : (bag 9990 60).Addable coins (.container 0) INDEX_WHEREEVER 2 where
  ready := by
    have lists (pointer : Nat) : (bag 9990 60).contents.itemlist pointer =
        if pointer = 0 then [1] else [] := by
      change Option.elim (ite _ _ _) _ _ = _
      split <;> rfl
    have parents (pointer : Nat) : (bag 9990 60).contents.parent pointer =
        if pointer = 1 then some 0 else none := rfl
    refine ⟨⟨fun pointer => ?_, fun {pointer child} => ?_, fun {pointer above} isAbove => ?_,
      id, fun pointer isLive above isAbove => ?_⟩,
      fun root isRoot => ?_, fun pointer isTree => ?_, by decide, rfl, fun isRoot => ?_, rfl, rfl,
      by decide⟩
    · rw [lists]
      split <;> simp
    · rw [lists, parents]
      by_cases isBag : pointer = 0 <;> by_cases isStack : child = 1 <;> simp [isBag, isStack]
      omega
    · rw [parents] at isAbove
      split at isAbove
      next isStack => simp [isStack, contents, bag]
      next => cases isAbove
    · rw [parents] at isAbove
      split at isAbove
      next isStack =>
        cases isAbove
        simp [isStack, contents, bag]
      next => cases isAbove
    · cases isRoot
      decide
    · cases isTree
      rfl
    · cases isRoot
  tidy := by
    refine ⟨fun pointer _ => ?_, fun pointer _ => ?_, fun pointer => ?_⟩
    · simp only [contents, World.item, bag]
      split_ifs <;> decide
    · simp only [contents, Containers.Heap.itemlist, Containers.Heap.capacity, bag]
      split_ifs <;> decide
    · simp only [contents, Containers.Heap.capacity, bag]
      split_ifs <;> decide
  loose := rfl
  fitting isPlayer := nomatch isPlayer

/-- 50 of 60 coins are left over, and go beside the stack. -/
theorem added_of_noError_bag :
    (bag 9990 60).contents.Added
      ((bag 9990 60).internalAddItem coins (.container 0) 2 INDEX_WHEREEVER {}).1.contents
      ((bag 9990 60).receiver (.container 0) INDEX_WHEREEVER) 2 60 := by
  refine (added_of_noError stackables_coins addable_bag ?_).1 (by decide)
  intro after remainderItem rest isLeft
  cases isLeft
  exact .inr (.placed rfl)

/-- Two stacks of 60 make one of 120. -/
theorem count_addItem_bag :
    ((bag 60 60).internalAddItem coins (.container 0) 2 INDEX_WHEREEVER {}).2.1 = .noError ∧
      ((bag 60 60).item 1).count ≤ 100 ∧
      100 < (((bag 60 60).internalAddItem coins (.container 0) 2 INDEX_WHEREEVER {}).1.item
        1).count := by
  decide

end World

end Otserv.Cylinders
