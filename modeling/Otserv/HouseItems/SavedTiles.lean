import Otserv.HouseItems.ItemTrees

/-!
# Tiles that come back

`saveTile` writes the items of a tile from the last to the first, and `internalAddThing`
puts a down item in front of the others, and a top item behind those of its order. So the
down items come back as they were, in front of those that are not saved; but the top items
of one order come back in reverse, behind those that are not saved.
(`restored_iff`).
-/

namespace Otserv.HouseItems

open Otserv.Foundation

variable {Own : Type*} (game : Game Own)

namespace Tile

variable (tile : Tile Own)

/-- The item list is split where it should be, and the top items are sorted by order. -/
structure Layered : Prop where
  split : tile.downItemCount.toNat ≤ tile.items.length
  down : ∀ item ∈ tile.downItems, (game.items item.id).alwaysOnTop = false
  top : ∀ item ∈ tile.topItems, (game.items item.id).alwaysOnTop = true
  sorted : InKeyOrder (alwaysOnTopOrder game) tile.topItems

/-- The items that are saved are made anew when they are loaded, their own attributes are
read back, and no time of theirs is up then. -/
structure Savable : Prop where
  anew : ∀ item ∈ tile.items, isSaved game item →
    (game.items item.id).moveable ∨ (game.items item.id).forceSerialize
  creatable : ∀ item ∈ tile.items, isSaved game item → item.Creatable game
  lasting : ∀ item ∈ tile.items, isSaved game item →
    ∀ tile, game.startDecayingOn item tile = tile

/-- The tile without the items that are saved of it. -/
def emptied : Tile Own :=
  { tile with
    items := tile.items.filter (!isSaved game ·)
    downItemCount := .ofNat (tile.downItems.filter (!isSaved game ·)).length }

/-- Loaded onto the tile emptied of its saved items, what was saved of the tile makes its
item list what it was. -/
def Restored : Prop :=
  ∀ map : TileMap Own, map tile.position = some (tile.emptied game) →
    ((loadHouseItems game map (saveHouseItems game [tile])) tile.position).map Tile.items =
      some tile.items

/-- The ways in which nothing goes wrong: the item list is not too long, no item in it is a
ground, no item that stays lies over a saved one, and of the top items of one order those
that stay come first and the saved ones are the same back to front. -/
structure InOrder : Prop where
  few : (∃ item ∈ tile.items, isSaved game item) → tile.items.length ≤ 0xFFFF
  noGround : ∀ item ∈ tile.items, isSaved game item → (game.items item.id).isGroundTile = false
  down : tile.downItems.Pairwise fun earlier later => isSaved game later → isSaved game earlier
  top : ∀ order, (tile.topItems.filter (alwaysOnTopOrder game · = order)).Pairwise
      (fun earlier later => isSaved game earlier → isSaved game later) ∧
    ((tile.topItems.filter (alwaysOnTopOrder game · = order)).filter (isSaved game)).reverse =
      (tile.topItems.filter (alwaysOnTopOrder game · = order)).filter (isSaved game)

/-- The tile once what was saved of it is loaded again. -/
def reloaded : Tile Own :=
  let items := (tile.items.filter (isSaved game)).reverse
  (items.take (UInt16.ofNat items.length).toNat).foldl (internalAddThing game)
    (tile.emptied game)

end Tile

variable {game} {tile : Tile Own}

/-! ## Loading the rows -/

theorem loadItems_saved {items : List (Item Own)}
    (loads : ∀ item ∈ items, ∀ (tile : Tile Own) rest,
      tile.loadItem game (saveItem game item ++ rest) =
        (true, tile.internalAddThing game item, rest))
    {count : Nat} (few : count ≤ items.length) (tile : Tile Own) :
    Tile.loadItems game count tile (items.flatMap (saveItem game)) =
      (items.take count).foldl (Tile.internalAddThing game) tile := by
  induction items generalizing count tile with
  | nil =>
    obtain rfl : count = 0 := Nat.le_zero.mp few
    rfl
  | cons item items ih =>
    cases count with
    | zero => rfl
    | succ count =>
      rw [List.flatMap_cons, Tile.loadItems, loads item List.mem_cons_self]
      exact ih (fun inner member => loads inner (List.mem_cons_of_mem item member))
        (Nat.le_of_succ_le_succ few) (tile.internalAddThing game item)

theorem saved_nonempty (saved : ∃ item ∈ tile.items, Tile.isSaved game item) :
    (tile.items.filter (Tile.isSaved game)).reverse.isEmpty = false := by
  obtain ⟨item, member, isSaved⟩ := saved
  rw [List.isEmpty_reverse, List.isEmpty_eq_false_iff_exists_mem]
  exact ⟨item, List.mem_filter.mpr ⟨member, isSaved⟩⟩

theorem loadRow_saveTile (saved : ∃ item ∈ tile.items, Tile.isSaved game item)
    (map : TileMap Own) {onto : Tile Own} (found : map tile.position = some onto) :
    loadRow game map (tile.saveTile game) =
      Function.update map tile.position (some (Tile.loadItems game
        (UInt16.ofNat (tile.items.filter (Tile.isSaved game)).reverse.length).toNat onto
        ((tile.items.filter (Tile.isSaved game)).reverse.flatMap (saveItem game)))) := by
  have counted : (UInt16.ofNat (tile.items.filter (Tile.isSaved game)).reverse.length).toNat %
      256 ^ 4 = (UInt16.ofNat (tile.items.filter (Tile.isSaved game)).reverse.length).toNat :=
    Nat.mod_eq_of_lt (Nat.lt_trans (UInt16.toNat_lt _) (by decide))
  have readNat_z (z : UInt8) (rest : List UInt8) :
      readNat 1 (writeNat 1 z.toNat ++ rest) = some (z.toNat, rest) := by
    have fits : z.toNat % 256 ^ 1 = z.toNat := Nat.mod_eq_of_lt z.toNat_lt
    rw [readNat_writeNat, fits]
  rw [Tile.saveTile]
  simp only [saved_nonempty saved, Bool.false_eq_true, if_false]
  rw [loadRow, readNat_id]
  simp only
  rw [readNat_id]
  simp only
  rw [readNat_z]
  simp only [UInt16.ofNat_toNat, UInt8.ofNat_toNat]
  rw [found]
  rw [readNat_writeNat, counted]

theorem filter_saved_eq_nil (none : ¬ ∃ item ∈ tile.items, Tile.isSaved game item) :
    tile.items.filter (Tile.isSaved game) = [] := by
  rw [List.filter_eq_nil_iff]
  exact fun item member isSaved => none ⟨item, member, isSaved⟩

theorem isEmpty_saveTile (saved : ∃ item ∈ tile.items, Tile.isSaved game item) :
    (tile.saveTile game).isEmpty = false := by
  rw [Tile.saveTile]
  simp [saved_nonempty saved, writeNat]

/-- With nothing to save nothing is taken away. -/
theorem emptied_of_none (none : ¬ ∃ item ∈ tile.items, Tile.isSaved game item) :
    (tile.emptied game).items = tile.items := by
  refine List.filter_eq_self.mpr fun item member => ?_
  simpa using fun isSaved => none ⟨item, member, isSaved⟩

theorem reloaded_of_none (none : ¬ ∃ item ∈ tile.items, Tile.isSaved game item) :
    (tile.reloaded game).items = tile.items := by
  simp [Tile.reloaded, filter_saved_eq_nil none, emptied_of_none none]

/-- **One tile.** Loading what was saved of a tile onto the emptied one reloads it, and
changes no other. -/
theorem loadHouseItems_tile (savable : tile.Savable game)
    (plain : ∀ item ∈ tile.items, Tile.isSaved game item → item.Plain) (map : TileMap Own)
    (found : map tile.position = some (tile.emptied game)) :
    loadHouseItems game map (saveHouseItems game [tile]) =
      Function.update map tile.position (some (tile.reloaded game)) := by
  by_cases saved : ∃ item ∈ tile.items, Tile.isSaved game item
  · have loads : ∀ item ∈ (tile.items.filter (Tile.isSaved game)).reverse,
        ∀ (onto : Tile Own) rest, onto.loadItem game (saveItem game item ++ rest) =
          (true, onto.internalAddThing game item, rest) := by
      intro item member onto rest
      obtain ⟨member, isSaved⟩ := List.mem_filter.mp (List.mem_reverse.mp member)
      rw [loadItem_onTile (savable.creatable item member isSaved) (plain item member isSaved)
        (savable.anew item member isSaved), savable.lasting item member isSaved]
    have few : (UInt16.ofNat (tile.items.filter (Tile.isSaved game)).reverse.length).toNat ≤
        (tile.items.filter (Tile.isSaved game)).reverse.length := by
      exact Nat.mod_le _ _
    have rows : saveHouseItems game [tile] = [tile.saveTile game] := by
      simp [saveHouseItems, isEmpty_saveTile saved]
    rw [rows, loadHouseItems, List.foldl_cons, List.foldl_nil, loadRow_saveTile saved map found,
      loadItems_saved loads few]
    rfl
  · -- no row is written, and the tile stays as it is
    have rows : saveHouseItems game [tile] = [] := by
      simp [saveHouseItems, Tile.saveTile, filter_saved_eq_nil saved]
    have stays : tile.reloaded game = tile.emptied game := by
      simp [Tile.reloaded, filter_saved_eq_nil saved]
    rw [rows, loadHouseItems, List.foldl_nil, stays, ← found, Function.update_eq_self]

theorem restored_iff_reloaded (savable : tile.Savable game)
    (plain : ∀ item ∈ tile.items, Tile.isSaved game item → item.Plain) :
    tile.Restored game ↔ (tile.reloaded game).items = tile.items := by
  have loaded (map : TileMap Own) (found : map tile.position = some (tile.emptied game)) :
      (loadHouseItems game map (saveHouseItems game [tile])) tile.position =
        some (tile.reloaded game) := by
    rw [loadHouseItems_tile savable plain map found, Function.update_self]
  constructor
  · intro restored
    have whole := restored (fun _ => some (tile.emptied game)) rfl
    rw [loaded _ rfl] at whole
    exact Option.some.inj whole
  · intro same map found
    rw [loaded map found, Option.map_some, same]

/-! ## How many items there are -/

section Lengths

variable (game)

/-- An item of a type that goes into the item list. -/
def isListed (item : Item Own) : Bool := !(game.items item.id).isGroundTile

theorem length_internalAddThing_le (tile : Tile Own) (item : Item Own) :
    (tile.internalAddThing game item).items.length ≤ max tile.items.length 0xFFFF ∧
      (tile.internalAddThing game item).items.length ≤
        tile.items.length + [item].countP (isListed game) := by
  have parts : tile.downItems.length + tile.topItems.length = tile.items.length := by
    rw [← List.length_append, Tile.downItems, Tile.topItems, List.take_append_drop]
  have grows : (tile.downItems ++
      insertBehind (alwaysOnTopOrder game) item tile.topItems).length = tile.items.length + 1 := by
    rw [List.length_append, length_insertBehind]
    omega
  rw [Tile.internalAddThing]
  by_cases ground : (game.items item.id).isGroundTile
  · simp only [if_pos ground]
    cases tile.ground with
    | none => exact ⟨le_max_left _ _, Nat.le_add_right _ _⟩
    | some _ => exact ⟨le_max_left _ _, Nat.le_add_right _ _⟩
  have listed : [item].countP (isListed game) = 1 := by simp [isListed, ground]
  simp only [if_neg ground, listed]
  by_cases full : tile.items.length ≥ 0xFFFF
  · rw [if_pos full]
    omega
  · rw [if_neg full]
    split
    · dsimp only
      omega
    · rw [List.length_cons]
      omega

theorem length_foldl_internalAddThing_le (items : List (Item Own)) (tile : Tile Own) :
    (items.foldl (Tile.internalAddThing game) tile).items.length ≤
        max tile.items.length 0xFFFF ∧
      (items.foldl (Tile.internalAddThing game) tile).items.length ≤
        tile.items.length + items.countP (isListed game) := by
  induction items generalizing tile with
  | nil => simp
  | cons item items ih =>
    obtain ⟨full, added⟩ := length_internalAddThing_le game tile item
    obtain ⟨fullLater, addedLater⟩ := ih (tile.internalAddThing game item)
    rw [List.foldl_cons, ← List.singleton_append, List.countP_append]
    omega

end Lengths

/-! ## Where the items go -/

section Parts

/-- The parts of an item list. -/
structure Parts (tile : Tile Own) (down top : List (Item Own)) : Prop where
  items : tile.items = down ++ top
  count : tile.downItemCount.toNat = down.length

variable {down top : List (Item Own)} {item : Item Own}

theorem Parts.downItems (parts : Parts tile down top) : tile.downItems = down := by
  rw [Tile.downItems, parts.items, parts.count, List.take_left]

theorem Parts.topItems (parts : Parts tile down top) : tile.topItems = top := by
  rw [Tile.topItems, parts.items, parts.count, List.drop_left]

theorem Parts.length (parts : Parts tile down top) :
    tile.items.length = down.length + top.length := by
  rw [parts.items, List.length_append]

theorem Tile.Layered.parts (layered : tile.Layered game) :
    Parts tile tile.downItems tile.topItems where
  items := (List.take_append_drop _ _).symm
  count := by rw [Tile.downItems, List.length_take, Nat.min_eq_left layered.split]

theorem Parts.addDown (parts : Parts tile down top) (few : tile.items.length < 0xFFFF)
    (notGround : (game.items item.id).isGroundTile = false)
    (isDown : (game.items item.id).alwaysOnTop = false) :
    Parts (tile.internalAddThing game item) (item :: down) top := by
  have few' : ¬ tile.items.length ≥ 0xFFFF := by omega
  simp only [Tile.internalAddThing, notGround, isDown, Bool.false_eq_true, if_false, if_neg few']
  refine ⟨by rw [parts.items, List.cons_append], ?_⟩
  have bound := parts.length
  rw [UInt16.toNat_add, parts.count, List.length_cons, UInt16.toNat_one,
    Nat.mod_eq_of_lt (by omega)]

theorem Parts.addTop (parts : Parts tile down top) (few : tile.items.length < 0xFFFF)
    (notGround : (game.items item.id).isGroundTile = false)
    (isTop : (game.items item.id).alwaysOnTop = true) :
    Parts (tile.internalAddThing game item) down
      (insertBehind (alwaysOnTopOrder game) item top) := by
  have few' : ¬ tile.items.length ≥ 0xFFFF := by omega
  simp only [Tile.internalAddThing, notGround, isTop, Bool.false_eq_true, if_false, if_neg few',
    if_true]
  exact ⟨by rw [parts.downItems, parts.topItems], parts.count⟩

variable {arriving : List (Item Own)}

theorem Parts.addDowns (parts : Parts tile down top)
    (few : tile.items.length + arriving.length ≤ 0xFFFF)
    (notGround : ∀ item ∈ arriving, (game.items item.id).isGroundTile = false)
    (isDown : ∀ item ∈ arriving, (game.items item.id).alwaysOnTop = false) :
    Parts (arriving.foldl (Tile.internalAddThing game) tile) (arriving.reverse ++ down) top := by
  induction arriving generalizing tile down with
  | nil => exact parts
  | cons item arriving ih =>
    rw [List.length_cons] at few
    have next := parts.addDown (by omega) (notGround item List.mem_cons_self)
      (isDown item List.mem_cons_self)
    have room : (tile.internalAddThing game item).items.length + arriving.length ≤ 0xFFFF := by
      rw [next.length, List.length_cons]
      have before := parts.length
      omega
    rw [List.reverse_cons, List.append_assoc, List.singleton_append]
    exact ih next room (fun item member => notGround item (List.mem_cons_of_mem _ member))
      (fun item member => isDown item (List.mem_cons_of_mem _ member))

theorem Parts.addTops (parts : Parts tile down top)
    (few : tile.items.length + arriving.length ≤ 0xFFFF)
    (notGround : ∀ item ∈ arriving, (game.items item.id).isGroundTile = false)
    (isTop : ∀ item ∈ arriving, (game.items item.id).alwaysOnTop = true) :
    Parts (arriving.foldl (Tile.internalAddThing game) tile) down
      (insertAll (alwaysOnTopOrder game) arriving top) := by
  induction arriving generalizing tile top with
  | nil => exact parts
  | cons item arriving ih =>
    rw [List.length_cons] at few
    have next := parts.addTop (by omega) (notGround item List.mem_cons_self)
      (isTop item List.mem_cons_self)
    have room : (tile.internalAddThing game item).items.length + arriving.length ≤ 0xFFFF := by
      rw [next.length, length_insertBehind]
      have before := parts.length
      omega
    exact ih next room (fun item member => notGround item (List.mem_cons_of_mem _ member))
      (fun item member => isTop item (List.mem_cons_of_mem _ member))

end Parts

/-! ## The tile reloaded -/

section Reloaded

theorem reloaded_parts (layered : tile.Layered game) (few : tile.items.length ≤ 0xFFFF)
    (noGround : ∀ item ∈ tile.items, Tile.isSaved game item →
      (game.items item.id).isGroundTile = false) :
    Parts (tile.reloaded game)
      (tile.downItems.filter (Tile.isSaved game) ++
        tile.downItems.filter (!Tile.isSaved game ·))
      (insertAll (alwaysOnTopOrder game) (tile.topItems.filter (Tile.isSaved game)).reverse
        (tile.topItems.filter (!Tile.isSaved game ·))) := by
  have whole : tile.items = tile.downItems ++ tile.topItems := layered.parts.items
  have lengths : tile.downItems.length + tile.topItems.length ≤ 0xFFFF := by
    rw [← layered.parts.length]
    exact few
  have split (entries : List (Item Own)) :
      entries.length = (entries.filter (Tile.isSaved game)).length +
        (entries.filter (!Tile.isSaved game ·)).length :=
    List.length_eq_length_filter_add _
  have splitDown := split tile.downItems
  have splitTop := split tile.topItems
  have emptied : Parts (tile.emptied game) (tile.downItems.filter (!Tile.isSaved game ·))
      (tile.topItems.filter (!Tile.isSaved game ·)) := by
    refine ⟨by rw [Tile.emptied, whole, List.filter_append], ?_⟩
    rw [Tile.emptied, UInt16.toNat_ofNat', Nat.mod_eq_of_lt (by omega)]
  have tops : Parts ((tile.topItems.filter (Tile.isSaved game)).reverse.foldl
        (.internalAddThing game) (tile.emptied game)) _ _ := emptied.addTops
    (by rw [emptied.length, List.length_reverse]; omega)
    (fun item member => by
      obtain ⟨member, isSaved⟩ := List.mem_filter.mp (List.mem_reverse.mp member)
      exact noGround item (whole ▸ List.mem_append_right _ member) isSaved)
    (fun item member => layered.top item
      (List.mem_filter.mp (List.mem_reverse.mp member)).1)
  have downs : Parts ((tile.downItems.filter (Tile.isSaved game)).reverse.foldl
        (.internalAddThing game) _) _ _ := tops.addDowns
    (by rw [tops.length, length_insertAll, List.length_reverse, List.length_reverse]; omega)
    (fun item member => by
      obtain ⟨member, isSaved⟩ := List.mem_filter.mp (List.mem_reverse.mp member)
      exact noGround item (whole ▸ List.mem_append_left _ member) isSaved)
    (fun item member => layered.down item
      (List.mem_filter.mp (List.mem_reverse.mp member)).1)
  rw [← List.foldl_append, ← List.reverse_append, ← List.filter_append, ← whole,
    List.reverse_reverse] at downs
  have all : (UInt16.ofNat (tile.items.filter (Tile.isSaved game)).reverse.length).toNat =
      (tile.items.filter (Tile.isSaved game)).reverse.length := by
    have fits := List.length_filter_le (Tile.isSaved game) tile.items
    rw [UInt16.toNat_ofNat', Nat.mod_eq_of_lt (by rw [List.length_reverse]; omega)]
  rw [Tile.reloaded, all, List.take_length]
  exact downs

theorem fits_of_reloaded (same : (tile.reloaded game).items = tile.items)
    (saved : ∃ item ∈ tile.items, Tile.isSaved game item) :
    tile.items.length ≤ 0xFFFF ∧ ∀ item ∈ tile.items, Tile.isSaved game item →
      (game.items item.id).isGroundTile = false := by
  have split := @List.length_eq_length_filter_add _ tile.items (Tile.isSaved game)
  have stays : (tile.emptied game).items.length =
      (tile.items.filter (!Tile.isSaved game ·)).length := rfl
  have some : 0 < (tile.items.filter (Tile.isSaved game)).length := by
    obtain ⟨item, member, isSaved⟩ := saved
    exact List.length_pos_of_mem (List.mem_filter.mpr ⟨member, isSaved⟩)
  obtain ⟨full, added⟩ := length_foldl_internalAddThing_le game
    ((tile.items.filter (Tile.isSaved game)).reverse.take
      (UInt16.ofNat (tile.items.filter (Tile.isSaved game)).reverse.length).toNat)
    (tile.emptied game)
  rw [show (List.foldl _ _ _ : Tile Own).items.length = tile.items.length from
    congrArg List.length same] at full added
  refine ⟨by omega, ?_⟩
  -- each saved item adds one to the list, so none of them is a ground
  have taken : _ ≤ (tile.items.filter (Tile.isSaved game)).reverse.countP (isListed game) :=
    (List.take_sublist
      (UInt16.ofNat (tile.items.filter (Tile.isSaved game)).reverse.length).toNat _).countP_le
  rw [List.countP_reverse] at taken
  have most : (tile.items.filter (Tile.isSaved game)).countP (isListed game) ≤
      (tile.items.filter (Tile.isSaved game)).length := List.countP_le_length
  have all : (tile.items.filter (Tile.isSaved game)).countP (isListed game) =
      (tile.items.filter (Tile.isSaved game)).length := by omega
  rw [List.countP_eq_length] at all
  intro item member isSaved
  simpa [isListed] using all item (List.mem_filter.mpr ⟨member, isSaved⟩)

theorem reloaded_iff (layered : tile.Layered game) (few : tile.items.length ≤ 0xFFFF)
    (noGround : ∀ item ∈ tile.items, Tile.isSaved game item →
      (game.items item.id).isGroundTile = false) :
    (tile.reloaded game).items = tile.items ↔ tile.InOrder game := by
  have parts := reloaded_parts layered few noGround
  have sides : (tile.reloaded game).items = tile.items ↔
      tile.downItems.filter (Tile.isSaved game) ++
          tile.downItems.filter (!Tile.isSaved game ·) = tile.downItems ∧
        insertAll (alwaysOnTopOrder game) (tile.topItems.filter (Tile.isSaved game)).reverse
          (tile.topItems.filter (!Tile.isSaved game ·)) = tile.topItems := by
    have lengths : (tile.downItems.filter (Tile.isSaved game) ++
        tile.downItems.filter (!Tile.isSaved game ·)).length = tile.downItems.length := by
      rw [List.length_append]
      exact (List.length_eq_length_filter_add _).symm
    rw [parts.items, layered.parts.items]
    exact ⟨fun same => List.append_inj same lengths, fun ⟨down, top⟩ => by rw [down, top]⟩
  rw [sides, eq_comm, eq_filter_append_iff, insertAll_reverse_eq_iff _ layered.sorted]
  exact ⟨fun ⟨down, top⟩ => ⟨fun _ => few, noGround, down, top⟩, fun inOrder =>
    ⟨inOrder.down, inOrder.top⟩⟩

/-- **Which tiles come back.** -/
theorem restored_iff (layered : tile.Layered game) (savable : tile.Savable game)
    (plain : ∀ item ∈ tile.items, Tile.isSaved game item → item.Plain) :
    tile.Restored game ↔ tile.InOrder game := by
  rw [restored_iff_reloaded savable plain]
  by_cases saved : ∃ item ∈ tile.items, Tile.isSaved game item
  · constructor
    · intro same
      obtain ⟨few, noGround⟩ := fits_of_reloaded same saved
      exact (reloaded_iff layered few noGround).mp same
    · intro inOrder
      exact (reloaded_iff layered (inOrder.few saved) inOrder.noGround).mpr inOrder
  · -- nothing is taken away and nothing comes back
    refine iff_of_true (reloaded_of_none saved) ?_
    have noneDown : ∀ item ∈ tile.downItems, ¬ Tile.isSaved game item := fun item member isSaved =>
      saved ⟨item, List.mem_of_mem_take member, isSaved⟩
    have noneTop (order : Nat) : ∀ item ∈ tile.topItems.filter (alwaysOnTopOrder game · = order),
        ¬ Tile.isSaved game item := fun item member isSaved =>
      saved ⟨item, List.mem_of_mem_drop (List.mem_filter.mp member).1, isSaved⟩
    refine ⟨fun any => absurd any saved, fun item member isSaved =>
      absurd ⟨item, member, isSaved⟩ saved, ?_, fun order => ⟨?_, ?_⟩⟩
    · exact List.pairwise_of_forall_mem_list fun _ _ later member isSaved =>
        absurd isSaved (noneDown later member)
    · exact List.pairwise_of_forall_mem_list fun earlier member _ _ isSaved =>
        absurd isSaved (noneTop order earlier member)
    · rw [List.filter_eq_nil_iff.mpr (noneTop order), List.reverse_nil]

end Reloaded

end Otserv.HouseItems
