import Otserv.TileStack.Tile
import Otserv.Foundation.Runs
import Mathlib.Data.List.TakeWhile

/-!
# The order of the things on a tile

The item vector is split where `downItemCount` says, whatever is done to the tile
(`Stacked`): no down item is always on top, every other is, and no thing is on the tile
twice. That is enough for the two index functions to be inverse to each other
(`Stacked.indexed`): both read off one list of things (`things`).
-/

namespace Otserv.TileStack

open Otserv.Foundation Otserv.Items

variable {game : Game} {tile : Tile}

/-! ## The list of things -/

/-- The things on a tile in the order of their indices. -/
def Tile.things (tile : Tile) : List Thing :=
  tile.ground.toList.map .item ++ (tile.topItems.map .item ++
    (tile.creatures.map .creature ++ tile.downItems.map .item))

/-- No thing is twice among the parts of a tile, and the items can be counted. -/
structure Distinct (ground : Option Nat) (down top creatures : List Nat) : Prop where
  fits : down.length + top.length ≤ 0xFFFF
  distinct : (ground.toList ++ (top ++ down)).Nodup
  distinctCreatures : creatures.Nodup

/-- What holds of the parts of a tile, given the type of each item. -/
structure Fine (itemType : Nat → ItemType) (ground : Option Nat) (down top creatures : List Nat) :
    Prop extends Distinct ground down top creatures where
  isDown : ∀ address ∈ down, (itemType address).alwaysOnTop = false
  isTop : ∀ address ∈ top, (itemType address).alwaysOnTop = true

/-- The split is within the item vector, and no thing is there twice. -/
structure Placed (tile : Tile) : Prop where
  split : tile.downItemCount.toNat ≤ tile.items.length
  distinct : Distinct tile.ground tile.downItems tile.topItems tile.creatures

/-- The split is where it should be. -/
structure Stacked (game : Game) (tile : Tile) : Prop where
  split : tile.downItemCount.toNat ≤ tile.items.length
  fine : Fine (tile.itemType game) tile.ground tile.downItems tile.topItems tile.creatures

theorem Stacked.placed (stacked : Stacked game tile) : Placed tile :=
  ⟨stacked.split, stacked.fine.toDistinct⟩

theorem getThing_eq (tile : Tile) (index : Nat) : tile.getThing index = tile.things[index]? := by
  have afterGround (index : Nat) :
      (if index < tile.topItems.length then tile.topItems[index]?.map .item
        else if index - tile.topItems.length < tile.creatures.length then
          tile.creatures[index - tile.topItems.length]?.map .creature
        else tile.downItems[index - tile.topItems.length - tile.creatures.length]?.map
          .item) =
        (tile.topItems.map Thing.item ++
          (tile.creatures.map .creature ++ tile.downItems.map .item))[index]? := by
    simp only [List.getElem?_append, List.length_map, List.getElem?_map]
  rw [Tile.getThing, Tile.things]
  cases ground : tile.ground with
  | none => simpa using afterGround index
  | some address =>
    cases index with
    | zero => simp
    | succ index => simpa using afterGround index

theorem length_things (split : tile.downItemCount.toNat ≤ tile.items.length) :
    tile.things.length = tile.getThingCount := by
  have parts : tile.downItems.length + tile.topItems.length = tile.items.length := by
    rw [Tile.downItems, Tile.topItems, List.length_take, List.length_drop]
    omega
  rw [Tile.things, Tile.getThingCount]
  cases tile.ground <;> simp <;> omega

theorem idxOf_map {α β : Type*} [DecidableEq α] [DecidableEq β] {f : α → β}
    (injective : Function.Injective f) (entries : List α) (entry : α) :
    (entries.map f).idxOf (f entry) = entries.idxOf entry := by
  induction entries with
  | nil => rfl
  | cons first entries ih =>
    rw [List.map_cons, List.idxOf_cons, List.idxOf_cons, ih]
    by_cases same : first = entry
    · rw [same, beq_self_eq_true, beq_self_eq_true]
    · rw [beq_false_of_ne same, beq_false_of_ne (injective.ne same)]

theorem item_injective : Function.Injective Thing.item := fun _ _ same => Thing.item.inj same

theorem creature_injective : Function.Injective Thing.creature :=
  fun _ _ same => Thing.creature.inj same

@[simp] theorem mem_map_item (address : Nat) (addresses : List Nat) :
    Thing.item address ∈ addresses.map Thing.item ↔ address ∈ addresses :=
  List.mem_map_of_injective item_injective

@[simp] theorem mem_map_creature (address : Nat) (addresses : List Nat) :
    Thing.creature address ∈ addresses.map Thing.creature ↔ address ∈ addresses :=
  List.mem_map_of_injective creature_injective

@[simp] theorem item_not_mem_creatures (address : Nat) (addresses : List Nat) :
    Thing.item address ∉ addresses.map Thing.creature := by simp

@[simp] theorem creature_not_mem_items (address : Nat) (addresses : List Nat) :
    Thing.creature address ∉ addresses.map Thing.item := by simp

variable {address : Nat}

theorem mem_things_item : .item address ∈ tile.things ↔
    tile.ground = some address ∨ address ∈ tile.topItems ∨ address ∈ tile.downItems := by
  simp [Tile.things, Option.mem_toList]

theorem mem_things_creature : .creature address ∈ tile.things ↔ address ∈ tile.creatures := by
  simp [Tile.things]

theorem getThingIndex_eq (stacked : Stacked game tile) (thing : Thing) :
    tile.getThingIndex game thing =
      if thing ∈ tile.things then (tile.things.idxOf thing : Int) else -1 := by
  have fine := stacked.fine
  have groundLength : tile.ground.toList.length = if tile.ground.isSome then 1 else 0 := by
    cases tile.ground <;> rfl
  cases thing with
  | creature address =>
    rw [Tile.getThingIndex]
    simp only [mem_things_creature]
    by_cases member : address ∈ tile.creatures
    · rw [if_pos member, if_pos member, Tile.things]
      simp only [List.idxOf_append, creature_not_mem_items, if_false, mem_map_creature, member,
        if_true, idxOf_map creature_injective, List.length_map, groundLength]
      omega
    · rw [if_neg member, if_neg member]
  | item address =>
    rw [Tile.getThingIndex]
    simp only [mem_things_item]
    by_cases isGround : tile.ground = some address
    · rw [if_pos isGround, if_pos (.inl isGround), Tile.things, isGround]
      simp
    · have notGround : address ∉ tile.ground.toList := by simpa [Option.mem_toList] using isGround
      rw [if_neg isGround]
      simp only [isGround, false_or]
      by_cases onTop : (tile.itemType game address).alwaysOnTop
      · have notDown : address ∉ tile.downItems := fun member => by
          simp [fine.isDown address member] at onTop
        rw [if_pos onTop]
        simp only [notDown, or_false]
        by_cases member : address ∈ tile.topItems
        · rw [if_pos member, if_pos member, Tile.things]
          simp only [List.idxOf_append, mem_map_item, notGround, if_false, member, if_true,
            idxOf_map item_injective, List.length_map, groundLength]
          omega
        · rw [if_neg member, if_neg member]
      · have notTop : address ∉ tile.topItems := fun member => onTop (fine.isTop address member)
        rw [if_neg onTop]
        simp only [notTop, false_or]
        by_cases member : address ∈ tile.downItems
        · rw [if_pos member, if_pos member, Tile.things]
          simp only [List.idxOf_append, mem_map_item, notGround, notTop, if_false,
            item_not_mem_creatures, idxOf_map item_injective, List.length_map, groundLength]
          omega
        · rw [if_neg member, if_neg member]

theorem things_nodup (stacked : Stacked game tile) : tile.things.Nodup := by
  have fine := stacked.fine
  have rearranged : tile.things.Perm
      ((tile.ground.toList ++ (tile.topItems ++ tile.downItems)).map .item ++
        tile.creatures.map .creature) := by
    rw [Tile.things, List.map_append, List.map_append, List.append_assoc, List.append_assoc]
    exact (List.perm_append_comm.append_left _).append_left _
  rw [rearranged.nodup_iff, List.nodup_append]
  refine ⟨fine.distinct.map item_injective, fine.distinctCreatures.map creature_injective, ?_⟩
  intro left inItems right inCreatures
  obtain ⟨item, _, rfl⟩ := List.mem_map.mp inItems
  obtain ⟨creature, _, rfl⟩ := List.mem_map.mp inCreatures
  simp

/-- The two index functions are inverse to each other, and there is nothing past the
last index. -/
structure Indexed (game : Game) (tile : Tile) : Prop where
  thing : ∀ thing ∈ tile.things, ∃ index : Nat, tile.getThingIndex game thing = index ∧
    tile.getThing index = some thing
  index : ∀ index < tile.getThingCount, ∃ thing ∈ tile.things,
    tile.getThing index = some thing ∧ tile.getThingIndex game thing = index
  past : ∀ index ≥ tile.getThingCount, tile.getThing index = none

theorem Stacked.indexed (stacked : Stacked game tile) : Indexed game tile where
  thing := by
    intro thing member
    refine ⟨tile.things.idxOf thing, ?_, ?_⟩
    · rw [getThingIndex_eq stacked, if_pos member]
    · rw [getThing_eq, List.getElem?_idxOf member]
  index := by
    intro index within
    rw [← length_things stacked.split] at within
    refine ⟨tile.things[index], List.getElem_mem within, ?_, ?_⟩
    · rw [getThing_eq, List.getElem?_eq_getElem within]
    · rw [getThingIndex_eq stacked, if_pos (List.getElem_mem within),
        (things_nodup stacked).idxOf_getElem]
  past := by
    intro index past
    rw [← length_things stacked.split] at past
    rw [getThing_eq, List.getElem?_eq_none past]

/-! ## What the operations do to the parts -/

/-- The parts of a tile. -/
structure Arranged (ground : Option Nat) (down top creatures : List Nat) (tile : Tile) : Prop where
  ground : tile.ground = ground
  items : tile.items = down ++ top
  count : tile.downItemCount.toNat = down.length
  creatures : tile.creatures = creatures

namespace Arranged

variable {ground : Option Nat} {down top creatures : List Nat}

section

variable (arranged : Arranged ground down top creatures tile)
include arranged

theorem downItems : tile.downItems = down := by
  rw [Tile.downItems, arranged.items, arranged.count, List.take_left]

theorem topItems : tile.topItems = top := by
  rw [Tile.topItems, arranged.items, arranged.count, List.drop_left]

theorem split : tile.downItemCount.toNat ≤ tile.items.length := by
  rw [arranged.items, arranged.count, List.length_append]
  omega

theorem placed (distinct : Distinct ground down top creatures) : Placed tile where
  split := arranged.split
  distinct := by
    rw [arranged.ground, arranged.downItems, arranged.topItems, arranged.creatures]
    exact distinct

theorem stacked
    (fine : Fine (tile.itemType game) ground down top creatures) : Stacked game tile where
  split := arranged.split
  fine := by
    rw [arranged.ground, arranged.downItems, arranged.topItems, arranged.creatures]
    exact fine

/-- Flags are not a part. -/
theorem flagged (address : Nat) : Arranged ground down top creatures (tile.flagged game address) :=
  ⟨arranged.ground, arranged.items, arranged.count, arranged.creatures⟩

theorem unflagged (address : Nat) :
    Arranged ground down top creatures (tile.unflagged game address) :=
  ⟨arranged.ground, arranged.items, arranged.count, arranged.creatures⟩

/-- Neither is what is stored of an item. -/
theorem store (address : Nat)
    (item : TileItem) : Arranged ground down top creatures (tile.store address item) :=
  ⟨arranged.ground, arranged.items, arranged.count, arranged.creatures⟩

end

end Arranged

theorem Placed.arranged (placed : Placed tile) :
    Arranged tile.ground tile.downItems tile.topItems tile.creatures tile where
  ground := rfl
  items := (List.take_append_drop _ _).symm
  count := by
    rw [Tile.downItems, List.length_take]
    have := placed.split
    omega
  creatures := rfl

namespace Distinct

variable {ground : Option Nat} {down top creatures : List Nat}

theorem nodup_top (fine : Distinct ground down top creatures) : top.Nodup :=
  (List.nodup_append.mp (List.nodup_append.mp fine.distinct).2.1).1

/-- Things that are taken away leave the rest in its place. -/
theorem sublist (fine : Distinct ground down top creatures) {ground' : Option Nat}
    {down' top' creatures' : List Nat} (subGround : ground'.toList.Sublist ground.toList)
    (subDown : down'.Sublist down) (subTop : top'.Sublist top)
    (subCreatures : creatures'.Sublist creatures) : Distinct ground' down' top' creatures' where
  fits := Nat.le_trans (Nat.add_le_add subDown.length_le subTop.length_le) fine.fits
  distinct := fine.distinct.sublist (subGround.append (subTop.append subDown))
  distinctCreatures := fine.distinctCreatures.sublist subCreatures

variable {before after : List Nat}

theorem insertDown (fine : Distinct ground (before ++ after) top creatures) {address : Nat}
    (room : (before ++ after).length + top.length < 0xFFFF)
    (absent : address ∉ ground.toList ++ (top ++ (before ++ after))) :
    Distinct ground (before ++ address :: after) top creatures where
  fits := by
    simp only [List.length_append, List.length_cons] at room ⊢
    omega
  distinct := by
    have middle := @List.nodup_middle _ address (ground.toList ++ (top ++ before)) after
    simp only [List.append_assoc] at middle
    exact middle.mpr (List.nodup_cons.mpr ⟨absent, fine.distinct⟩)
  distinctCreatures := fine.distinctCreatures

theorem insertTop (fine : Distinct ground down (before ++ after) creatures) {address : Nat}
    (room : down.length + (before ++ after).length < 0xFFFF)
    (absent : address ∉ ground.toList ++ ((before ++ after) ++ down)) :
    Distinct ground down (before ++ address :: after) creatures where
  fits := by
    simp only [List.length_append, List.length_cons] at room ⊢
    omega
  distinct := by
    have middle := @List.nodup_middle _ address (ground.toList ++ before) (after ++ down)
    have distinct := fine.distinct
    simp only [List.append_assoc, List.cons_append] at middle absent distinct ⊢
    exact middle.mpr (List.nodup_cons.mpr ⟨absent, distinct⟩)
  distinctCreatures := fine.distinctCreatures

theorem setGround (fine : Distinct ground down top creatures) {address : Nat}
    (absent : address ∉ top ++ down) : Distinct (some address) down top creatures where
  fits := fine.fits
  distinct := List.nodup_cons.mpr ⟨absent, (List.nodup_append.mp fine.distinct).2.1⟩
  distinctCreatures := fine.distinctCreatures

theorem consCreature (fine : Distinct ground down top creatures) {address : Nat}
    (absent : address ∉ creatures) : Distinct ground down top (address :: creatures) where
  fits := fine.fits
  distinct := fine.distinct
  distinctCreatures := List.nodup_cons.mpr ⟨absent, fine.distinctCreatures⟩

theorem take_drop_sublist {entries : List Nat} {pos : Nat} (within : pos < entries.length) :
    (entries.take pos ++ entries.drop (pos + 1)).Sublist entries ∧
      (entries.take pos ++ entries.drop (pos + 1)).length < entries.length := by
  constructor
  · rw [← List.eraseIdx_eq_take_drop_succ]
    exact entries.eraseIdx_sublist pos
  · simp only [List.length_append, List.length_take, List.length_drop]
    omega

/-- An item may take the place of another top item. -/
theorem setTop (fine : Distinct ground down top creatures) {address pos : Nat}
    (within : pos < top.length) (absent : address ∉ ground.toList ++ (top ++ down)) :
    Distinct ground down (top.set pos address) creatures := by
  obtain ⟨less, room⟩ := take_drop_sublist within
  have fits := fine.fits
  rw [List.set_eq_take_append_cons_drop, if_pos within]
  refine (fine.sublist (.refl _) (.refl _) less
    (.refl _)).insertTop (by omega) fun member => absent ?_
  exact ((List.Sublist.refl _).append (less.append (.refl _))).subset member

/-- An item may take the place of another down item. -/
theorem setDown (fine : Distinct ground down top creatures) {address pos : Nat}
    (within : pos < down.length) (absent : address ∉ ground.toList ++ (top ++ down)) :
    Distinct ground (down.set pos address) top creatures := by
  obtain ⟨less, room⟩ := take_drop_sublist within
  have fits := fine.fits
  rw [List.set_eq_take_append_cons_drop, if_pos within]
  refine (fine.sublist (.refl _) less (.refl _)
    (.refl _)).insertDown (by omega) fun member => absent ?_
  exact ((List.Sublist.refl _).append ((List.Sublist.refl _).append less)).subset member

end Distinct

namespace Fine

variable {itemType : Nat → ItemType} {ground : Option Nat} {down top creatures : List Nat}

/-- Other things are there, of the classes of the parts they are in. -/
theorem move (fine : Fine itemType ground down top creatures) {ground' : Option Nat}
    {down' top' creatures' : List Nat} (distinct : Distinct ground' down' top' creatures')
    (isDown : ∀ address ∈ down', address ∉ down → (itemType address).alwaysOnTop = false)
    (isTop : ∀ address ∈ top', address ∉ top → (itemType address).alwaysOnTop = true) :
    Fine itemType ground' down' top' creatures' where
  toDistinct := distinct
  isDown := fun address member =>
    (em (address ∈ down)).elim (fine.isDown address) (isDown address member)
  isTop := fun address member =>
    (em (address ∈ top)).elim (fine.isTop address) (isTop address member)

/-- The classes of the items on the tile are all that counts. -/
theorem congr (fine : Fine itemType ground down top creatures) {itemType' : Nat → ItemType}
    (same : ∀ address ∈ top ++ down,
      (itemType' address).alwaysOnTop = (itemType address).alwaysOnTop) :
    Fine itemType' ground down top creatures where
  toDistinct := fine.toDistinct
  isDown := fun address member =>
    (same address (List.mem_append_right _ member)).trans (fine.isDown address member)
  isTop := fun address member =>
    (same address (List.mem_append_left _ member)).trans (fine.isTop address member)

end Fine

/-! ## The order of the top items -/

/-- The orders of the top items. -/
def Tile.topOrders (game : Game) (tile : Tile) : List UInt8 :=
  tile.topItems.map fun address => (tile.itemType game address).alwaysOnTopOrder

/-- The top items are in non-decreasing order. -/
def Sorted (game : Game) (tile : Tile) : Prop := (tile.topOrders game).Pairwise (· ≤ ·)

instance (game : Game) (tile : Tile) : Decidable (Sorted game tile) :=
  inferInstanceAs (Decidable ((tile.topOrders game).Pairwise (· ≤ ·)))

theorem Arranged.topOrders {ground : Option Nat} {down top creatures : List Nat}
    (arranged : Arranged ground down top creatures tile) :
    tile.topOrders game = top.map fun address => (tile.itemType game address).alwaysOnTopOrder := by
  rw [Tile.topOrders, arranged.topItems]

/-- An order fits at a place when it is between those before and those after it. -/
def Fits (orders : List UInt8) (pos : Nat) (order : UInt8) : Prop :=
  (∀ other ∈ orders.take pos, other ≤ order) ∧ ∀ other ∈ orders.drop (pos + 1), order ≤ other

theorem pairwise_set_iff {orders : List UInt8} (sorted : orders.Pairwise (· ≤ ·)) {pos : Nat}
    (within : pos < orders.length) (order : UInt8) :
    (orders.set pos order).Pairwise (· ≤ ·) ↔ Fits orders pos order := by
  have split : orders = orders.take pos ++ orders[pos] :: orders.drop (pos + 1) := by
    rw [List.getElem_cons_drop, List.take_append_drop]
  rw [split, List.pairwise_append, List.pairwise_cons] at sorted
  obtain ⟨before, ⟨_, after⟩, across⟩ := sorted
  rw [List.set_eq_take_append_cons_drop, if_pos within, List.pairwise_append, List.pairwise_cons,
    Fits]
  constructor
  · rintro ⟨_, ⟨above, _⟩, below⟩
    exact ⟨fun other member => below other member order List.mem_cons_self, above⟩
  · rintro ⟨below, above⟩
    refine ⟨before, ⟨above, after⟩, fun left inLeft right inRight => ?_⟩
    rcases List.mem_cons.mp inRight with rfl | inRight
    · exact below left inLeft
    · exact across left inLeft right (List.mem_cons_of_mem _ inRight)

theorem le_of_mem_dropWhile {entries : List Nat} {orderOf : Nat → UInt8}
    (sorted : (entries.map orderOf).Pairwise (· ≤ ·)) {below : Nat → Bool} {order : UInt8}
    (above : ∀ entry, below entry = false → order ≤ orderOf entry) :
    ∀ entry ∈ entries.dropWhile below, order ≤ orderOf entry := by
  induction entries with
  | nil => simp
  | cons first entries ih =>
    rw [List.map_cons, List.pairwise_cons] at sorted
    intro entry member
    rw [List.dropWhile_cons] at member
    split_ifs at member with isBelow
    · exact ih sorted.2 entry member
    · have least : order ≤ orderOf first := above first (by simpa using isBelow)
      rcases List.mem_cons.mp member with rfl | later
      · exact least
      · exact UInt8.le_trans least (sorted.1 _ (List.mem_map_of_mem later))

/-! ## Inserting -/

/-- The item is not on the tile. -/
def Absent (tile : Tile) (address : Nat) : Prop :=
  address ∉ tile.ground.toList ++ (tile.topItems ++ tile.downItems)

instance (tile : Tile) (address : Nat) : Decidable (Absent tile address) :=
  inferInstanceAs (Decidable (¬ _))

theorem insertDown_arranged (placed : Placed tile) (room : tile.items.length < 0xFFFF)
    (address : Nat) :
    Arranged tile.ground (address :: tile.downItems) tile.topItems tile.creatures
      (tile.insertDown game address) := by
  have parts := placed.arranged
  have count : tile.downItems.length ≤ tile.items.length := by
    rw [parts.items, List.length_append]
    omega
  apply Arranged.flagged
  refine ⟨rfl, ?_, ?_, rfl⟩
  · rw [List.cons_append, ← parts.items]
  · rw [UInt16.toNat_add, parts.count, List.length_cons]
    change (tile.downItems.length + 1) % 65536 = _
    omega

theorem insertDown_distinct (placed : Placed tile) (room : tile.items.length < 0xFFFF)
    (absent : Absent tile address) :
    Distinct tile.ground (address :: tile.downItems) tile.topItems tile.creatures := by
  have some : tile.downItems.length + tile.topItems.length < 0xFFFF := by
    rwa [← List.length_append, ← placed.arranged.items]
  exact @Distinct.insertDown _ _ _ [] _ placed.distinct _ some absent

/-- The top items with a new one. -/
abbrev Tile.topWith (tile : Tile) (address : Nat) (before : Nat → Bool) : List Nat :=
  tile.topItems.takeWhile (!before ·) ++ address :: tile.topItems.dropWhile (!before ·)

theorem insertTop_arranged (placed : Placed tile) (address : Nat) (before : Nat → Bool) :
    Arranged tile.ground tile.downItems (tile.topWith address before) tile.creatures
      (tile.insertTop game address before) := by
  exact ⟨rfl, rfl, placed.arranged.count, rfl⟩

theorem insertTop_distinct (placed : Placed tile) (room : tile.items.length < 0xFFFF)
    (absent : Absent tile address) (before : Nat → Bool) :
    Distinct tile.ground tile.downItems (tile.topWith address before) tile.creatures := by
  have whole : tile.topItems.takeWhile (!before ·) ++ tile.topItems.dropWhile (!before ·) =
      tile.topItems := List.takeWhile_append_dropWhile
  apply Distinct.insertTop
  · rw [whole]
    exact placed.distinct
  · rwa [whole, ← List.length_append, ← placed.arranged.items]
  · rw [whole]
    exact absent

theorem mem_topWith {address other : Nat} {before : Nat → Bool} :
    other ∈ tile.topWith address before ↔ other = address ∨ other ∈ tile.topItems := by
  have whole : tile.topItems.takeWhile (!before ·) ++ tile.topItems.dropWhile (!before ·) =
      tile.topItems := List.takeWhile_append_dropWhile
  conv_rhs => rw [← whole]
  simp only [List.mem_append, List.mem_cons]
  tauto

theorem insertDown_stacked (stacked : Stacked game tile) (room : tile.items.length < 0xFFFF)
    (isDown : (tile.itemType game address).alwaysOnTop = false) (absent : Absent tile address) :
    Stacked game (tile.insertDown game address) ∧
      (tile.insertDown game address).topOrders game = tile.topOrders game := by
  have arranged : Arranged _ _ _ _ (tile.insertDown game address) :=
    insertDown_arranged stacked.placed room address
  refine ⟨arranged.stacked ?_, arranged.topOrders⟩
  refine stacked.fine.move (insertDown_distinct stacked.placed room absent) ?_ ?_
  · intro other member new
    rcases List.mem_cons.mp member with rfl | old
    · exact isDown
    · exact absurd old new
  · intro other member new
    exact absurd member new

theorem insertTop_stacked (stacked : Stacked game tile) (room : tile.items.length < 0xFFFF)
    (isTop : (tile.itemType game address).alwaysOnTop = true)
    (absent : Absent tile address) (before : Nat → Bool) :
    Stacked game (tile.insertTop game address before) := by
  refine (insertTop_arranged stacked.placed address before).stacked ?_
  refine stacked.fine.move (insertTop_distinct stacked.placed room absent before) ?_ ?_
  · intro other member new
    exact absurd member new
  · intro other member new
    rcases mem_topWith.mp member with rfl | old
    · exact isTop
    · exact absurd old new

theorem insertTop_sorted (stacked : Stacked game tile) (sorted : Sorted game tile) (address : Nat)
    {before : Nat → Bool}
    (below : ∀ other, before other = false → (tile.itemType game other).alwaysOnTopOrder ≤
      (tile.itemType game address).alwaysOnTopOrder)
    (above : ∀ other, before other = true → (tile.itemType game address).alwaysOnTopOrder ≤
      (tile.itemType game other).alwaysOnTopOrder) :
    Sorted game (tile.insertTop game address before) := by
  have sameTypes : (tile.insertTop game address before).itemType game = tile.itemType game := rfl
  rw [Sorted, (insertTop_arranged stacked.placed address before).topOrders, sameTypes, List.map_append,
    List.map_cons, List.pairwise_append, List.pairwise_cons]
  have sortedParts : ((tile.topItems.takeWhile (!before ·) ++
      tile.topItems.dropWhile (!before ·)).map fun address =>
        (tile.itemType game address).alwaysOnTopOrder).Pairwise (· ≤ ·) := by
    rw [List.takeWhile_append_dropWhile]
    exact sorted
  rw [List.map_append, List.pairwise_append] at sortedParts
  obtain ⟨sortedBefore, sortedAfter, across⟩ := sortedParts
  have least : ∀ entry ∈ tile.topItems.takeWhile (!before ·),
      (tile.itemType game entry).alwaysOnTopOrder ≤
        (tile.itemType game address).alwaysOnTopOrder := fun entry member =>
    below entry (by simpa using List.mem_takeWhile_imp member)
  have greatest : ∀ entry ∈ tile.topItems.dropWhile (!before ·),
      (tile.itemType game address).alwaysOnTopOrder ≤
        (tile.itemType game entry).alwaysOnTopOrder :=
    le_of_mem_dropWhile sorted fun entry notBelow => above entry (by simpa using notBelow)
  refine ⟨sortedBefore, ⟨?_, sortedAfter⟩, ?_⟩
  · intro order member
    obtain ⟨entry, inAfter, rfl⟩ := List.mem_map.mp member
    exact greatest entry inAfter
  · intro left inLeft right inRight
    rcases List.mem_cons.mp inRight with rfl | later
    · obtain ⟨entry, inBefore, rfl⟩ := List.mem_map.mp inLeft
      exact least entry inBefore
    · exact across left inLeft right later

end Otserv.TileStack
