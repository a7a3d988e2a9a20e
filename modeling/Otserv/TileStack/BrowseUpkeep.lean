import Otserv.TileStack.BrowseField

/-!
# The container follows its tile

What is done to a tile calls back, and the callbacks change the list of the registered container
(`Follows`) and the parents of items. The list that this leads to is that of the tile as it is then,
and an item of the tile has the tile as its parent or the parent that it had (`Upkeep`).

For the list this asks that a new item is one that the callbacks take as the constructor does and
comes behind all others (`Steadily`), and that an item which is changed, or comes for another one,
is listed as that was (`ListedAlike`, `ExchangedAlike`).
-/

namespace Otserv.TileStack

open Function (update update_of_ne update_self comp_apply)

variable {game : Items.Game} {tile : Tile} {field after : Field}

/-! ## Lists -/

section Lists

/-- The entry in place of another. -/
def exchange (old new entry : Nat) : Nat := if entry = old then new else entry

variable {old new : Nat} {entries : List Nat}

theorem map_exchange_of_notMem (absent : old ∉ entries) :
    entries.map (exchange old new) = entries := by
  refine (List.map_congr_left fun entry member => ?_).trans (List.map_id _)
  refine if_neg fun same => absent ?_
  rwa [← same]

theorem set_idxOf (distinct : entries.Nodup) (old new : Nat) :
    entries.set (entries.idxOf old) new = entries.map (exchange old new) := by
  induction entries with
  | nil => rfl
  | cons entry rest ih =>
    obtain ⟨apart, distinctRest⟩ := List.nodup_cons.mp distinct
    by_cases same : entry = old
    · subst same
      rw [List.idxOf_cons_self, List.set_cons_zero, List.map_cons,
        map_exchange_of_notMem apart, exchange, if_pos rfl]
    · rw [List.idxOf_cons_ne _ same, List.set_cons_succ, List.map_cons, ih distinctRest, exchange,
        if_neg same]

theorem reverse_erase (distinct : entries.Nodup) (entry : Nat) :
    (entries.erase entry).reverse = entries.reverse.erase entry := by
  rw [distinct.erase_eq_filter, (List.nodup_reverse.mpr distinct).erase_eq_filter,
    List.filter_reverse]

variable {listed : Nat → Bool}

theorem filter_erase_comm (distinct : entries.Nodup) (entry : Nat) :
    (entries.erase entry).filter listed = (entries.filter listed).erase entry := by
  rw [distinct.erase_eq_filter, (distinct.filter _).erase_eq_filter, List.filter_comm]

theorem filter_exchange (same : listed new = listed old) :
    (entries.map (exchange old new)).filter listed =
      (entries.filter listed).map (exchange old new) := by
  rw [List.filter_map]
  congr 2
  funext entry
  rw [comp_apply, exchange]
  split
  · rename_i isOld
    rw [same, isOld]
  · rfl

theorem filter_exchange_unlisted (distinct : entries.Nodup) (unlisted : listed new = false) :
    (entries.map (exchange old new)).filter listed = (entries.filter listed).erase old := by
  rw [(distinct.filter _).erase_eq_filter, List.filter_map, List.filter_filter]
  have others : entries.filter (listed ∘ exchange old new) =
      entries.filter fun entry => (entry != old) && listed entry := by
    refine List.filter_congr fun entry _ => ?_
    rw [comp_apply, exchange]
    split
    · rename_i isOld
      rw [unlisted, isOld, bne_self_eq_false, Bool.false_and]
    · rename_i other
      rw [bne_iff_ne.mpr other, Bool.true_and]
  rw [others]
  refine map_exchange_of_notMem fun member => ?_
  have kept := (List.mem_filter.mp member).2
  rw [bne_self_eq_false, Bool.false_and] at kept
  cases kept

end Lists

/-! ## What a container of the tile would list -/

theorem mem_listing {item : Nat} :
    item ∈ Field.listing game tile ↔ item ∈ tile.items ∧ (tile.stored item).isBrowsed game := by
  rw [Field.listing, List.mem_reverse, List.mem_filter]

theorem TileItem.isWatched_of_isBrowsed {item : TileItem} (browsed : item.isBrowsed game) :
    item.isWatched game := by
  rw [isBrowsed, Bool.and_eq_true] at browsed
  rw [isWatched, Bool.or_comm]
  exact browsed.1

theorem nodup_items (placed : Placed tile) : tile.items.Nodup := by
  rw [placed.arranged.items]
  have distinct := (List.nodup_append.mp placed.distinct.distinct).2.1
  exact List.nodup_append_comm.mp distinct

theorem nodup_listing (placed : Placed tile) : (Field.listing game tile).Nodup :=
  List.nodup_reverse.mpr ((nodup_items placed).filter _)

/-! ## What the callbacks do to the container -/

/-- The registered container has its list changed, and the windows and calls are as they were. -/
structure Follows (field after : Field) (change : List Nat → List Nat) : Prop where
  browseFields : after.browseFields = field.browseFields
  windows : after.windows = field.windows
  scheduled : after.scheduled = field.scheduled
  containers : ∀ container, after.containers container =
    (field.containers container).map fun browse =>
      if field.browseFields = some container then
        { browse with itemlist := change browse.itemlist }
      else browse

namespace Follows

variable {change later : List Nat → List Nat} {middle : Field}

theorem of_same (browseFields : after.browseFields = field.browseFields)
    (windows : after.windows = field.windows) (scheduled : after.scheduled = field.scheduled)
    (containers : after.containers = field.containers) : Follows field after id := by
  refine ⟨browseFields, windows, scheduled, fun container => ?_⟩
  rw [containers]
  cases field.containers container with
  | none => rfl
  | some browse => exact congrArg some (ite_self browse).symm

theorem refl (field : Field) : Follows field field id := of_same rfl rfl rfl rfl

theorem trans (first : Follows field middle change) (second : Follows middle after later) :
    Follows field after fun entries => later (change entries) where
  browseFields := second.browseFields.trans first.browseFields
  windows := second.windows.trans first.windows
  scheduled := second.scheduled.trans first.scheduled
  containers container := by
    rw [second.containers, first.containers, Option.map_map, first.browseFields]
    congr 1
    funext browse
    split
    · rfl
    · rfl

theorem setParent (follows : Follows field after change) (item : Nat) (parent : Option Parent) :
    Follows field (after.setParent item parent) change :=
  ⟨follows.browseFields, follows.windows, follows.scheduled, follows.containers⟩

/-- What the change does to the list of the registered container is all that matters. -/
theorem congr (follows : Follows field after change)
    (same : ∀ container browse, field.browseFields = some container →
      field.containers container = some browse → change browse.itemlist = later browse.itemlist) :
    Follows field after later := by
  refine ⟨follows.browseFields, follows.windows, follows.scheduled, fun container => ?_⟩
  rw [follows.containers]
  cases there : field.containers container with
  | none => rfl
  | some browse =>
    by_cases isRegistered : field.browseFields = some container
    · rw [Option.map_some, Option.map_some, if_pos isRegistered, if_pos isRegistered,
        same container browse isRegistered there]
    · rw [Option.map_some, Option.map_some, if_neg isRegistered, if_neg isRegistered]

end Follows

variable {container : Nat} {other : Tile}

theorem modifyContainer_follows
    (isRegistered : field.browseFields = some container) (change : List Nat → List Nat) :
    Follows field (field.modifyContainer container fun browse =>
      { browse with itemlist := change browse.itemlist }) change := by
  refine ⟨rfl, rfl, rfl, fun other => ?_⟩
  change update field.containers container _ other = _
  by_cases same : other = container
  · subst same
    rw [update_self]
    simp only [isRegistered, if_pos]
  · rw [update_of_ne same, isRegistered]
    simp only [Option.some.injEq, Ne.symm same, if_false, Option.map_id']

theorem unlisted {container item : Nat} (notListed : ¬field.lists container item)
    {browse : BrowseField} (there : field.containers container = some browse) :
    item ∉ browse.itemlist := by
  intro member
  refine notListed ?_
  rw [Field.lists, there, Option.any_some]
  exact decide_eq_true member

theorem removeListed_follows (isRegistered : field.browseFields = some container)
    (item : Nat) : Follows field (field.removeListed container item) (·.erase item) := by
  rw [Field.removeListed]
  split
  · exact (modifyContainer_follows isRegistered (·.erase item)).setParent item none
  · rename_i notListed
    refine (Follows.refl field).congr fun other browse isOther there => ?_
    obtain rfl := Option.some.inj (isRegistered.symm.trans isOther)
    exact (List.erase_of_not_mem (unlisted notListed there)).symm

theorem replaceListed_follows
    (isRegistered : field.browseFields = some container) (oldItem newItem : Nat) :
    Follows field (field.replaceListed container oldItem newItem)
      fun entries => entries.set (entries.idxOf oldItem) newItem :=
  ((modifyContainer_follows isRegistered fun entries =>
    entries.set (entries.idxOf oldItem) newItem).setParent newItem _).setParent oldItem none

theorem follows_of_unregistered (none : field.browseFields = none) (change : List Nat → List Nat) :
    Follows field field change := by
  refine (Follows.refl field).congr fun container _ isRegistered _ => ?_
  rw [none] at isRegistered
  cases isRegistered

/-- What `onAddTileItem` does to the list. -/
def addListed (watched : Bool) (item : Nat) (entries : List Nat) : List Nat :=
  if watched then entries ++ [item] else entries

/-- What `onUpdateTileItem` does to it. -/
def updateListed (oldWatched newWatched : Bool) (oldItem newItem : Nat) (entries : List Nat) :
    List Nat :=
  if newWatched then entries.set (entries.idxOf oldItem) newItem
  else if oldWatched then entries.erase oldItem
  else entries

/-- What `onRemoveTileItem` does to it. -/
def dropListed (watched : Bool) (item : Nat) (entries : List Nat) : List Nat :=
  if watched then entries.erase item else entries

theorem onAddTileItem_follows (field : Field) (item : Nat) :
    Follows field (field.onAddTileItem game item)
      (addListed ((field.tile.stored item).isWatched game) item) := by
  unfold Field.onAddTileItem addListed
  split
  · split
    · rename_i container isRegistered
      exact ((modifyContainer_follows isRegistered (· ++ [item])).setParent item _).setParent item _
    · rename_i none
      exact follows_of_unregistered none _
  · exact .refl field

theorem onRemoveTileItem_follows (field : Field) (item : Nat) :
    Follows field (field.onRemoveTileItem game item)
      (dropListed ((field.tile.stored item).isWatched game) item) := by
  unfold Field.onRemoveTileItem dropListed
  split
  · split
    · rename_i container isRegistered
      exact removeListed_follows isRegistered item
    · rename_i none
      exact follows_of_unregistered none _
  · exact .refl field

theorem onUpdateTileItem_follows (field : Field) (oldItem newItem : Nat) :
    Follows field (field.onUpdateTileItem game oldItem newItem)
      (updateListed ((field.tile.stored oldItem).isWatched game)
        ((field.tile.stored newItem).isWatched game) oldItem newItem) := by
  unfold Field.onUpdateTileItem updateListed
  split
  · split
    · rename_i container isRegistered
      split
      · exact (replaceListed_follows isRegistered oldItem newItem).setParent newItem _
      · rename_i notListed
        refine (Follows.refl field).congr fun other browse isOther there => ?_
        obtain rfl := Option.some.inj (isRegistered.symm.trans isOther)
        have past := List.idxOf_eq_length (unlisted notListed there)
        exact (List.set_eq_of_length_le (Nat.le_of_eq past.symm)).symm
    · rename_i none
      exact follows_of_unregistered none _
  · split
    · split
      · rename_i container isRegistered
        exact (removeListed_follows isRegistered oldItem).setParent oldItem _
      · rename_i none
        exact follows_of_unregistered none _
    · exact .refl field

/-! ## What the callbacks do to parents -/

theorem onAddTileItem_parent (field : Field) (item other : Nat) :
    (field.onAddTileItem game item).parent other = field.parent other ∨
      other = item ∧ (field.onAddTileItem game item).parent other = some .tile := by
  unfold Field.onAddTileItem
  split
  · split
    · by_cases same : other = item
      · exact .inr ⟨same, by rw [same]; exact update_self ..⟩
      · exact .inl ((update_of_ne same ..).trans (update_of_ne same ..))
    · exact .inl rfl
  · exact .inl rfl

theorem removeListed_parent (field : Field) (container item : Nat) {other : Nat}
    (apart : other ≠ item) :
    (field.removeListed container item).parent other = field.parent other := by
  unfold Field.removeListed
  split
  · exact update_of_ne apart ..
  · rfl

theorem onRemoveTileItem_parent (field : Field) (item : Nat) {other : Nat} (apart : other ≠ item) :
    (field.onRemoveTileItem game item).parent other = field.parent other := by
  unfold Field.onRemoveTileItem
  split
  · split
    · exact removeListed_parent field _ item apart
    · rfl
  · rfl

theorem onUpdateTileItem_parent (field : Field) (oldItem newItem other : Nat) :
    (field.onUpdateTileItem game oldItem newItem).parent other = field.parent other ∨
      other = newItem ∧
        (field.onUpdateTileItem game oldItem newItem).parent other = some .tile ∨
      other = oldItem ∧ other ≠ newItem := by
  unfold Field.onUpdateTileItem
  split
  · split
    · split
      · by_cases isNew : other = newItem
        · refine .inr (.inl ⟨isNew, ?_⟩)
          rw [isNew]
          exact update_self ..
        · by_cases isOld : other = oldItem
          · exact .inr (.inr ⟨isOld, isNew⟩)
          · refine .inl ((update_of_ne isNew ..).trans ?_)
            exact (update_of_ne isOld ..).trans (update_of_ne isNew ..)
      · exact .inl rfl
    · exact .inl rfl
  · split
    · split
      · by_cases isOld : other = oldItem
        · subst isOld
          exact .inl (update_self ..)
        · exact .inl ((update_of_ne isOld ..).trans
            (removeListed_parent field _ oldItem isOld))
      · exact .inl rfl
    · exact .inl rfl

/-! ## What is done to a tile -/

/-- The list of the registered container goes on to be that of the tile. -/
structure Lists (game : Items.Game) (field after : Field) (change : List Nat → List Nat) :
    Prop extends Follows field after change where
  listing : field.browseFields.isSome →
    change (Field.listing game field.tile) = Field.listing game after.tile

/-- An item that is on the tile was there, with the same parent and listed if it was, or has the
tile as its parent. -/
def KeepsParents (game : Items.Game) (field after : Field) : Prop :=
  ∀ item, after.tile.Holds item → after.parent item = some .tile ∨
    field.tile.Holds item ∧ after.parent item = field.parent item ∧
      (field.browseFields.isSome → item ∈ Field.listing game field.tile →
        item ∈ Field.listing game after.tile)

theorem listing_congr (items : other.items = tile.items)
    (browsed : ∀ item ∈ tile.items,
      (other.stored item).isBrowsed game = (tile.stored item).isBrowsed game) :
    Field.listing game other = Field.listing game tile := by
  rw [Field.listing, Field.listing, items]
  congr 1
  exact List.filter_congr browsed

theorem listing_erase (placed : Placed tile) {item : Nat}
    (items : other.items = tile.items.erase item) (stored : other.stored = tile.stored) :
    Field.listing game other = (Field.listing game tile).erase item := by
  rw [Field.listing, Field.listing, items, stored, filter_erase_comm (nodup_items placed)]
  exact reverse_erase ((nodup_items placed).filter _) item

theorem dropListed_listing (item : Nat) :
    dropListed ((tile.stored item).isWatched game) item (Field.listing game tile) =
      (Field.listing game tile).erase item := by
  rw [dropListed]
  split
  · rfl
  · rename_i unwatched
    refine (List.erase_of_not_mem fun member => unwatched ?_).symm
    exact TileItem.isWatched_of_isBrowsed (mem_listing.mp member).2

theorem exchange_self (item : Nat) : exchange item item = id := by
  funext entry
  rw [exchange]
  split
  · rename_i same
    exact same.symm
  · rfl

theorem updateListed_self (watched : Bool) (item : Nat) {entries : List Nat}
    (distinct : entries.Nodup) : updateListed watched watched item item entries = entries := by
  rw [updateListed]
  split
  · rw [set_idxOf distinct, exchange_self, List.map_id]
  · rfl

/-- **What `Tile::removeThing` does** to an item that is on the tile: it is gone, or it is a stack
that a part is taken of. -/
theorem removeThing_cases (placed : Placed tile) {address : Nat} (count : UInt32)
    (there : tile.getThingIndex game (.item address) ≠ -1) :
    (tile.removed game (.item address) count = some address ∧
      (tile.removeThing game (.item address) count).ground =
        (if tile.ground = some address then none else tile.ground) ∧
      (tile.removeThing game (.item address) count).items = tile.items.erase address ∧
      (tile.removeThing game (.item address) count).stored = tile.stored) ∨
    (tile.removed game (.item address) count = none ∧
      ∃ newCount, tile.removeThing game (.item address) count = tile.store address
        { tile.stored address with
          item := (tile.stored address).item.setItemCount newCount }) := by
  have parts := placed.arranged
  rw [Tile.removed, Tile.removeThing]
  simp only [if_neg there]
  by_cases isGround : tile.ground = some address
  · rw [if_pos isGround, if_pos isGround]
    refine .inl ⟨rfl, ?_, ?_, rfl⟩
    · rw [if_pos isGround]
      rfl
    · exact (List.erase_of_not_mem (placed.apart.1 isGround)).symm
  · rw [if_neg isGround, if_neg isGround]
    by_cases onTop : (tile.itemType game address).alwaysOnTop
    · have inTop : address ∈ tile.topItems := by
        by_contra missing
        exact there (by simp [Tile.getThingIndex, isGround, onTop, missing])
      have notDown := placed.apart.2 inTop
      simp only [onTop, inTop, if_true, Bool.not_true, Bool.false_eq_true, false_and, if_false]
      refine .inl ⟨trivial, (if_neg isGround).symm, ?_, rfl⟩
      rw [parts.items]
      exact (List.erase_append_right _ notDown).symm
    · have inDown : address ∈ tile.downItems := by
        by_contra missing
        exact there (by simp [Tile.getThingIndex, isGround, onTop, missing])
      simp only [onTop, inDown, if_true, Bool.not_false, true_and, Bool.false_eq_true, if_false]
      split
      · exact .inr ⟨rfl, _, rfl⟩
      · refine .inl ⟨rfl, rfl, ?_, rfl⟩
        rw [parts.items]
        exact (List.erase_append_left _ inDown).symm

@[simp] theorem onAddTileItem_tile (field : Field) (item : Nat) :
    (field.onAddTileItem game item).tile = field.tile := by
  unfold Field.onAddTileItem
  repeat' split
  all_goals rfl

@[simp] theorem onRemoveTileItem_tile (field : Field) (item : Nat) :
    (field.onRemoveTileItem game item).tile = field.tile := by
  unfold Field.onRemoveTileItem Field.removeListed
  repeat' split
  all_goals rfl

@[simp] theorem onUpdateTileItem_tile (field : Field) (oldItem newItem : Nat) :
    (field.onUpdateTileItem game oldItem newItem).tile = field.tile := by
  unfold Field.onUpdateTileItem Field.removeListed
  repeat' split
  all_goals rfl

/-- The container and the parents follow the tile. -/
structure Upkeep (game : Items.Game) (field after : Field) : Prop where
  lists : ∃ change, Lists game field after change
  parents : KeepsParents game field after

namespace Upkeep

theorem trans {middle : Field} (first : Upkeep game field middle)
    (second : Upkeep game middle after) : Upkeep game field after := by
  obtain ⟨change, lists⟩ := first.lists
  obtain ⟨later, listsLater⟩ := second.lists
  refine ⟨⟨_, lists.toFollows.trans listsLater.toFollows, fun isRegistered => ?_⟩,
    fun item held => ?_⟩
  · rw [lists.listing isRegistered]
    exact listsLater.listing (by rw [lists.browseFields]; exact isRegistered)
  · rcases second.parents item held with here | ⟨heldBefore, same, listed⟩
    · exact .inl here
    · rcases first.parents item heldBefore with here | ⟨heldFirst, sameFirst, listedFirst⟩
      · exact .inl (same.trans here)
      · refine .inr ⟨heldFirst, same.trans sameFirst, fun isRegistered member => ?_⟩
        exact listed (by rw [lists.browseFields]; exact isRegistered)
          (listedFirst isRegistered member)

theorem of_tile {other : Tile} (ground : other.ground = field.tile.ground)
    (items : other.items = field.tile.items)
    (browsed : ∀ item ∈ field.tile.items,
      (other.stored item).isBrowsed game = (field.tile.stored item).isBrowsed game) :
    Upkeep game field { field with tile := other } where
  lists := ⟨id, .of_same rfl rfl rfl rfl, fun _ => (listing_congr items browsed).symm⟩
  parents item held := by
    refine .inr ⟨?_, rfl, fun _ member => ?_⟩
    · rwa [Tile.Holds, ground, items] at held
    · rwa [listing_congr items browsed]

theorem refl (field : Field) : Upkeep game field field :=
  of_tile rfl rfl fun _ _ => rfl

end Upkeep

theorem removed_upkeep (placed : Placed field.tile) {address : Nat}
    (ground : other.ground =
      if field.tile.ground = some address then none else field.tile.ground)
    (items : other.items = field.tile.items.erase address)
    (stored : other.stored = field.tile.stored) :
    Upkeep game field (({ field with tile := other }.setParent address none).onRemoveTileItem game
      address) := by
  have distinct := nodup_items placed
  have moved : Follows field ({ field with tile := other }.setParent address none) id :=
    .of_same rfl rfl rfl rfl
  have follows := moved.trans (@onRemoveTileItem_follows game _ address)
  refine ⟨⟨_, follows, fun _ => ?_⟩, fun item held => ?_⟩
  · rw [onRemoveTileItem_tile]
    change dropListed ((other.stored address).isWatched game) address
      (Field.listing game field.tile) = Field.listing game other
    rw [stored, dropListed_listing, listing_erase placed items stored]
  · rw [onRemoveTileItem_tile] at held
    change other.Holds item at held
    have apart : item ≠ address := by
      rintro rfl
      rcases held with isGround | member
      · rw [ground] at isGround
        split at isGround
        · cases isGround
        · rename_i notGround
          exact notGround isGround
      · rw [items, distinct.mem_erase_iff] at member
        exact member.1 rfl
    refine .inr ⟨?_, ?_, fun _ listed => ?_⟩
    · rcases held with isGround | member
      · rw [ground] at isGround
        split at isGround
        · cases isGround
        · exact .inl isGround
      · rw [items] at member
        exact .inr (List.mem_of_mem_erase member)
    · rw [onRemoveTileItem_parent _ _ apart]
      exact update_of_ne apart ..
    · rw [onRemoveTileItem_tile]
      change item ∈ Field.listing game other
      rw [listing_erase placed items stored]
      exact (List.mem_erase_of_ne apart).mpr listed

/-- An item is changed in its place and listed as it was. -/
theorem updated_upkeep (placed : Placed field.tile) {address : Nat}
    (ground : other.ground = field.tile.ground) (items : other.items = field.tile.items)
    (browsed : field.browseFields.isSome → ∀ item ∈ field.tile.items,
      (other.stored item).isBrowsed game = (field.tile.stored item).isBrowsed game) :
    Upkeep game field ({ field with tile := other }.onUpdateTileItem game address address) := by
  have changed : Follows field { field with tile := other } id := .of_same rfl rfl rfl rfl
  have follows := changed.trans (@onUpdateTileItem_follows game _ address address)
  have sameList (isRegistered : field.browseFields.isSome) :=
    listing_congr items (browsed isRegistered)
  refine ⟨⟨_, follows, fun isRegistered => ?_⟩, fun item held => ?_⟩
  · rw [onUpdateTileItem_tile]
    change updateListed _ _ address address (Field.listing game field.tile) =
      Field.listing game other
    rw [updateListed_self _ address (nodup_listing placed), sameList isRegistered]
  · rw [onUpdateTileItem_tile] at held ⊢
    rcases @onUpdateTileItem_parent game { field with tile := other } address address item with
      same | ⟨-, here⟩ | ⟨isOld, notNew⟩
    · refine .inr ⟨?_, same, fun isRegistered listed => ?_⟩
      · rwa [Tile.Holds, ground, items] at held
      · rwa [sameList isRegistered]
    · exact .inl here
    · exact absurd isOld notNew

theorem isBrowsed_setItemCount (item : TileItem) (count : UInt16) :
    TileItem.isBrowsed game { item with item := item.item.setItemCount count } =
      item.isBrowsed game := rfl

variable {address : Nat}

theorem isBrowsed_store {item : TileItem}
    (same : item.isBrowsed game = (tile.stored address).isBrowsed game) (other : Nat) :
    ((tile.store address item).stored other).isBrowsed game =
      (tile.stored other).isBrowsed game := by
  change (update tile.stored address item other).isBrowsed game = _
  by_cases here : other = address
  · subst here
    rw [update_self, same]
  · rw [update_of_ne here]

theorem removeThing_upkeep (placed : Placed field.tile) (thing : Thing) (count : UInt32) :
    Upkeep game field (field.removeThing game thing count) := by
  cases thing with
  | creature address => exact .of_tile rfl rfl fun _ _ => rfl
  | item address =>
    rw [Field.removeThing]
    split
    · rename_i missing
      have same : field.tile.removeThing game (.item address) count = field.tile := by
        exact if_pos missing
      rw [same]
      exact .refl field
    · rename_i there
      rcases removeThing_cases placed count there with
        ⟨removed, ground, items, stored⟩ | ⟨removed, newCount, same⟩
      · rw [removed]
        exact removed_upkeep placed ground items stored
      · rw [removed, same]
        exact updated_upkeep placed rfl rfl fun _ item _ =>
          isBrowsed_store (isBrowsed_setItemCount _ newCount) item

/-! ## What comes to a tile -/

theorem setParent_upkeep {item : Nat} {parent : Option Parent}
    (either : parent = some .tile ∨ ¬field.tile.Holds item) :
    Upkeep game field (field.setParent item parent) where
  lists := ⟨id, (Follows.refl field).setParent item parent, fun _ => rfl⟩
  parents other held := by
    by_cases same : other = item
    · subst same
      refine .inl ((update_self ..).trans ?_)
      exact either.resolve_right fun notHeld => notHeld held
    · exact .inr ⟨held, update_of_ne same .., fun _ => id⟩

theorem removeThing_parent (field : Field) {item other : Nat} (apart : other ≠ item)
    (count : UInt32) :
    (field.removeThing game (.item item) count).parent other = field.parent other := by
  rw [Field.removeThing]
  split
  · rfl
  · split
    · rename_i removed isRemoved
      have same : removed = item := by
        unfold Tile.removed at isRemoved
        simp only at isRemoved
        split_ifs at isRemoved
        · exact (Option.some.inj isRemoved).symm
        · exact (Option.some.inj isRemoved).symm
      subst same
      rw [onRemoveTileItem_parent _ _ apart]
      exact update_of_ne apart ..
    · rcases @onUpdateTileItem_parent game
        { field with tile := field.tile.removeThing game (.item item) count } item item other with
        same | ⟨isNew, -⟩ | ⟨isOld, -⟩
      · exact same
      · exact absurd isNew apart
      · exact absurd isOld apart

theorem removeThing_tile (field : Field) (thing : Thing) (count : UInt32) :
    (field.removeThing game thing count).tile = field.tile.removeThing game thing count := by
  cases thing with
  | creature address => rfl
  | item address =>
    rw [Field.removeThing]
    split
    · rfl
    · split
      · rw [onRemoveTileItem_tile]
        rfl
      · rw [onUpdateTileItem_tile]

theorem discard_upkeep (placed : Placed field.tile) {item : Nat}
    (whole : field.tile.removed game (.item item) 1 = some item) :
    Upkeep game field (field.discard game item) := by
  refine (removeThing_upkeep placed (.item item) 1).trans (setParent_upkeep (.inr ?_))
  rw [removeThing_tile]
  have there : field.tile.getThingIndex game (.item item) ≠ -1 := by
    intro missing
    rw [Tile.removed] at whole
    simp only [missing, if_true] at whole
    cases whole
  rcases removeThing_cases placed 1 there with ⟨-, ground, items, -⟩ | ⟨none, -⟩
  · rintro (isGround | member)
    · rw [ground] at isGround
      split at isGround
      · cases isGround
      · rename_i notGround
        exact notGround isGround
    · rw [items, (nodup_items placed).mem_erase_iff] at member
      exact member.1 rfl
  · rw [whole] at none
    cases none

theorem onAddTileItem_upkeep (stored : other.stored = field.tile.stored)
    (held : ∀ item, other.Holds item → item = address ∨ field.tile.Holds item)
    (items : ∀ item ∈ field.tile.items, item ∈ other.items)
    (here : field.parent address = some .tile) (listing : field.browseFields.isSome →
      addListed ((field.tile.stored address).isWatched game) address
        (Field.listing game field.tile) = Field.listing game other) :
    Upkeep game field ({ field with tile := other }.onAddTileItem game address) := by
  have changed : Follows field { field with tile := other } id := .of_same rfl rfl rfl rfl
  have follows := changed.trans (@onAddTileItem_follows game _ address)
  refine ⟨⟨_, follows, fun isRegistered => ?_⟩, fun item isHeld => ?_⟩
  · rw [onAddTileItem_tile]
    rw [stored]
    exact listing isRegistered
  · rw [onAddTileItem_tile] at isHeld ⊢
    rcases @onAddTileItem_parent game { field with tile := other } address item with
      same | ⟨-, isTile⟩
    · rcases held item isHeld with rfl | heldBefore
      · exact .inl (same.trans here)
      · refine .inr ⟨heldBefore, same, fun _ listed => ?_⟩
        obtain ⟨member, browsed⟩ := mem_listing.mp listed
        refine mem_listing.mpr ⟨items item member, ?_⟩
        rwa [stored]
    · exact .inl isTile

theorem isBrowsed_of_unwatched {item : TileItem} (unwatched : ¬item.isWatched game) :
    item.isBrowsed game = false :=
  Bool.eq_false_iff.mpr fun browsed => unwatched (TileItem.isWatched_of_isBrowsed browsed)

theorem insertTop_upkeep (before : Nat → Bool) (here : field.parent address = some .tile)
    (unwatched : field.browseFields.isSome → ¬(field.tile.stored address).isWatched game) :
    Upkeep game field
      ({ field with tile := field.tile.insertTop game address before }.onAddTileItem game
        address) := by
  have member (item : Nat) : item ∈ (field.tile.insertTop game address before).items ↔
      item = address ∨ item ∈ field.tile.items := by
    change item ∈ field.tile.downItems ++ field.tile.topWith address before ↔ _
    rw [List.mem_append, mem_topWith, items_eq, List.mem_append]
    tauto
  refine onAddTileItem_upkeep rfl (fun item held => ?_)
    (fun item old => (member item).mpr (.inr old)) here fun isRegistered => ?_
  · rcases held with isGround | isItem
    · exact .inr (.inl isGround)
    · exact ((member item).mp isItem).imp id .inr
  · rw [addListed, if_neg (unwatched isRegistered), Field.listing, Field.listing]
    congr 1
    have unbrowsed := isBrowsed_of_unwatched (unwatched isRegistered)
    have split : field.tile.items = field.tile.downItems ++
        (field.tile.topItems.takeWhile (!before ·) ++
          field.tile.topItems.dropWhile (!before ·)) := by
      rw [List.takeWhile_append_dropWhile, ← items_eq]
    change _ = (field.tile.downItems ++ (_ ++ address :: _)).filter fun item =>
      (field.tile.stored item).isBrowsed game
    rw [List.filter_append, List.filter_append, List.filter_cons_of_neg (by simpa using unbrowsed),
      ← List.filter_append, ← List.filter_append, ← split]

theorem insertDown_upkeep (here : field.parent address = some .tile)
    (browsed : field.browseFields.isSome → (field.tile.stored address).isWatched game →
      (field.tile.stored address).isBrowsed game) :
    Upkeep game field
      ({ field with tile := field.tile.insertDown game address }.onAddTileItem game address) := by
  refine onAddTileItem_upkeep rfl (fun item held => ?_)
    (fun item old => List.mem_cons_of_mem _ old) here fun isRegistered => ?_
  · rcases held with isGround | isItem
    · exact .inr (.inl isGround)
    · exact (List.mem_cons.mp isItem).imp id .inr
  · rw [addListed, Field.listing, Field.listing]
    change _ = ((address :: field.tile.items).filter fun item =>
      (field.tile.stored item).isBrowsed game).reverse
    split
    · rename_i watched
      rw [List.filter_cons_of_pos (by simpa using browsed isRegistered watched),
        List.reverse_cons]
    · rename_i unwatched
      rw [List.filter_cons_of_neg (by simpa using isBrowsed_of_unwatched unwatched)]

/-- An item comes for another one. What was done to parents before the callback was done to these
two. -/
theorem exchanged_upkeep {start : Field} {old address : Nat}
    (moved : Follows field start id) (stored : start.tile.stored = field.tile.stored)
    (here : start.parent address = some .tile)
    (others : ∀ item, item ≠ old → item ≠ address → start.parent item = field.parent item)
    (held : ∀ item, start.tile.Holds item →
      item = address ∨ field.tile.Holds item ∧ item ≠ old ∧ item ≠ address)
    (items : ∀ item ∈ field.tile.items, item ≠ old → item ∈ start.tile.items)
    (listing : field.browseFields.isSome →
      updateListed ((field.tile.stored old).isWatched game)
        ((field.tile.stored address).isWatched game) old address
          (Field.listing game field.tile) = Field.listing game start.tile) :
    Upkeep game field (start.onUpdateTileItem game old address) := by
  have follows := moved.trans (@onUpdateTileItem_follows game start old address)
  refine ⟨⟨_, follows, fun isRegistered => ?_⟩, fun item isHeld => ?_⟩
  · rw [onUpdateTileItem_tile, stored]
    exact listing isRegistered
  · rw [onUpdateTileItem_tile] at isHeld ⊢
    rcases held item isHeld with rfl | ⟨heldBefore, notOld, notNew⟩
    · rcases @onUpdateTileItem_parent game start old item item with same | ⟨-, isTile⟩ | ⟨-, notNew⟩
      · exact .inl (same.trans here)
      · exact .inl isTile
      · exact absurd rfl notNew
    · rcases @onUpdateTileItem_parent game start old address item with
        same | ⟨isNew, -⟩ | ⟨isOld, -⟩
      · refine .inr ⟨heldBefore, same.trans (others item notOld notNew), fun _ listed => ?_⟩
        obtain ⟨member, browsed⟩ := mem_listing.mp listed
        refine mem_listing.mpr ⟨items item member notOld, ?_⟩
        rwa [stored]
      · exact absurd isNew notNew
      · exact absurd isOld notOld

theorem updateListed_of_notMem {oldWatched newWatched : Bool} {old address : Nat}
    {entries : List Nat} (absent : old ∉ entries) :
    updateListed oldWatched newWatched old address entries = entries := by
  rw [updateListed, List.idxOf_eq_length absent, List.set_eq_of_length_le (Nat.le_refl _),
    List.erase_of_not_mem absent, ite_self, ite_self]

theorem exchangeGround_upkeep (placed : Placed field.tile) {start : Field} {old address : Nat}
    (isGround : field.tile.ground = some old) (absent : Absent field.tile address)
    (ground : start.tile.ground = some address) (items : start.tile.items = field.tile.items)
    (stored : start.tile.stored = field.tile.stored) (moved : Follows field start id)
    (here : start.parent address = some .tile)
    (others : ∀ item, item ≠ old → item ≠ address → start.parent item = field.parent item) :
    Upkeep game field (start.onUpdateTileItem game old address) := by
  have notItem : old ∉ field.tile.items := placed.apart.1 isGround
  refine exchanged_upkeep moved stored here others (fun item held => ?_) (fun item member _ => ?_)
    fun _ => ?_
  · rcases held with isNew | member
    · exact .inl (Option.some.inj (isNew.symm.trans ground))
    · rw [items] at member
      exact .inr ⟨.inr member, fun isOld => notItem (isOld ▸ member),
        (absent.ne (.inr member)).symm⟩
  · rw [items]
    exact member
  · rw [updateListed_of_notMem fun member => notItem (mem_listing.mp member).1]
    exact (listing_congr items fun item _ => by rw [stored]).symm

/-- A new item, as far as a container lists it: it comes among the down items, and has no unique
id. -/
def Steadily (game : Items.Game) (tile : Tile) (address : Nat) : Prop :=
  (tile.stored address).isWatched game →
    (tile.stored address).isBrowsed game ∧ (tile.itemType game address).isGroundTile = false ∧
      (tile.itemType game address).alwaysOnTop = false

@[simp] theorem setParent_tile (field : Field) (item : Nat) (parent : Option Parent) :
    (field.setParent item parent).tile = field.tile := rfl

theorem getThingIndex_of_removed {item removed : Nat} {count : UInt32}
    (whole : tile.removed game (.item item) count = some removed) :
    tile.getThingIndex game (.item item) ≠ -1 := by
  intro missing
  rw [Tile.removed] at whole
  simp only [missing, if_true] at whole
  cases whole

theorem stored_of_removed (placed : Placed tile) {item : Nat}
    (whole : tile.removed game (.item item) 1 = some item) :
    (tile.removeThing game (.item item) 1).stored = tile.stored := by
  rcases removeThing_cases placed 1 (getThingIndex_of_removed whole) with
    ⟨-, -, -, stored⟩ | ⟨none, -⟩
  · exact stored
  · rw [whole] at none
    cases none

theorem removed_of_stacked (stacked : Stacked game tile) {item : Nat}
    (there : item ∈ tile.topItems ∨
      item ∈ tile.downItems ∧ (tile.itemType game item).stackable = false) :
    tile.removed game (.item item) 1 = some item := by
  have isThere : tile.getThingIndex game (.item item) ≠ -1 := by
    refine (getThingIndex_ne stacked _).mpr (mem_things_item.mpr (.inr ?_))
    exact there.imp id And.left
  rw [Tile.removed]
  simp only [if_neg isThere]
  split
  · rfl
  · refine if_neg ?_
    rintro ⟨notTop, stackable, -⟩
    rcases there with isTop | ⟨-, notStackable⟩
    · rw [stacked.fine.isTop item isTop] at notTop
      cases notTop
    · rw [notStackable] at stackable
      cases stackable

/-- An item that makes another go comes to the rest of the tile. -/
theorem discard_onwardsupkeep (placed : Placed field.tile) {address old : Nat}
    (absent : Absent field.tile address) (here : field.parent address = some .tile)
    (whole : field.tile.removed game (.item old) 1 = some old)
    (onwards : ∀ middle : Field, middle.tile = field.tile.removeThing game (.item old) 1 →
      middle.parent address = some .tile → middle.browseFields = field.browseFields →
        Upkeep game middle ({ middle with tile := other }.onAddTileItem game address)) :
    Upkeep game field
      ({ field.discard game old with tile := other }.onAddTileItem game address) := by
  have discarded := discard_upkeep placed whole
  obtain ⟨change, lists⟩ := discarded.lists
  have apart : address ≠ old :=
    absent.ne (holds_of_getThingIndex (getThingIndex_of_removed whole))
  refine discarded.trans (onwards _ (removeThing_tile field (.item old) 1) ?_ lists.browseFields)
  refine (update_of_ne apart ..).trans ?_
  rw [removeThing_parent field apart]
  exact here

theorem addThing_upkeep (stacked : Stacked game field.tile) {address : Nat}
    (absent : Absent field.tile address)
    (fields : ∀ other ∈ field.tile.downItems, (field.tile.stored other).cls = .magicField →
      (field.tile.itemType game other).stackable = false)
    (steadily : field.browseFields.isSome → Steadily game field.tile address) :
    Upkeep game field (field.addThing game (.item address)) := by
  have placed : Placed (field.setParent address (some .tile)).tile := stacked.placed
  have notHeld : ¬field.tile.Holds address := absent.not_holds
  have based : Upkeep game field (field.setParent address (some .tile)) :=
    setParent_upkeep (.inl rfl)
  have here : (field.setParent address (some .tile)).parent address = some .tile :=
    update_self ..
  by_cases full : field.tile.items.length ≥ 0xFFFF
  · rw [Field.addThing, if_pos full]
    exact .refl field
  by_cases isGround : (field.tile.itemType game address).isGroundTile = true
  · have unwatched : field.browseFields.isSome → ¬(field.tile.stored address).isWatched game := by
      intro isRegistered watched
      have notGround := (steadily isRegistered watched).2.1
      rw [isGround] at notGround
      cases notGround
    cases ground : field.tile.ground with
    | none =>
      simp only [Field.addThing, Tile.addThing, full, isGround, ground, if_true,
        if_false]
      refine based.trans (onAddTileItem_upkeep rfl (fun item held => ?_) (fun _ => id) here
        fun isRegistered => ?_)
      · rcases held with isNew | member
        · exact .inl (Option.some.inj isNew).symm
        · exact .inr (.inr member)
      · exact if_neg (unwatched isRegistered)
    | some old =>
      simp only [Field.addThing, Tile.addThing, full, isGround, ground, if_true,
        if_false]
      refine based.trans (exchangeGround_upkeep placed ground absent rfl rfl rfl
        (.of_same rfl rfl rfl rfl) ?_ fun item notOld _ => update_of_ne notOld ..)
      exact (update_of_ne (absent.ne (.inl ground)) ..).trans here
  by_cases isTop : (field.tile.itemType game address).alwaysOnTop = true
  · have unwatched : field.browseFields.isSome → ¬(field.tile.stored address).isWatched game := by
      intro isRegistered watched
      have notTop := (steadily isRegistered watched).2.2
      rw [isTop] at notTop
      cases notTop
    by_cases isSplash : (field.tile.itemType game address).isSplash = true
    · cases found : field.tile.topItems.find? fun other =>
          (field.tile.itemType game other).isSplash with
      | none =>
        simp only [Field.addThing, Tile.addThing, full, isGround, isTop, isSplash,
          found, if_true, if_false]
        exact based.trans (insertTop_upkeep _ here unwatched)
      | some old =>
        simp only [Field.addThing, Tile.addThing, full, isGround, isTop, isSplash,
          found, if_true, if_false]
        have whole := removed_of_stacked stacked (.inl (List.mem_of_find?_eq_some found))
        refine based.trans (discard_onwardsupkeep placed absent here whole
          fun middle same isHere registered => ?_)
        rw [setParent_tile] at same
        rw [← same]
        refine insertTop_upkeep _ isHere fun isRegistered => ?_
        rw [same, stored_of_removed stacked.placed whole]
        rw [registered] at isRegistered
        exact unwatched isRegistered
    · simp only [Field.addThing, Tile.addThing, full, isGround, isTop, isSplash,
        if_true, if_false]
      exact based.trans (insertTop_upkeep _ here unwatched)
  have browsed : field.browseFields.isSome → (field.tile.stored address).isWatched game →
      (field.tile.stored address).isBrowsed game :=
    fun isRegistered watched => (steadily isRegistered watched).1
  by_cases isField : (field.tile.itemType game address).isMagicField = true
  · cases found : field.tile.downItems.find? fun other =>
        (field.tile.stored other).cls = .magicField with
    | none =>
      simp only [Field.addThing, Tile.addThing, full, isGround, isTop, isField,
        found, if_true, Bool.false_eq_true, if_false]
      exact based.trans (insertDown_upkeep here browsed)
    | some old =>
      by_cases replaceable : (field.tile.itemType game old).replaceable = true
      · simp only [Field.addThing, Tile.addThing, full, isGround, isTop, isField,
          found, replaceable, if_true, Bool.false_eq_true, if_false]
        have inDown := List.mem_of_find?_eq_some found
        have isField : (field.tile.stored old).cls = .magicField := by
          simpa using List.find?_some found
        have whole := removed_of_stacked stacked (.inr ⟨inDown, fields old inDown isField⟩)
        refine based.trans (discard_onwardsupkeep placed absent here whole
          fun middle same isHere registered => ?_)
        rw [setParent_tile] at same
        rw [← same]
        refine insertDown_upkeep isHere fun isRegistered => ?_
        rw [same, stored_of_removed stacked.placed whole]
        rw [registered] at isRegistered
        exact browsed isRegistered
      · simp only [Field.addThing, Tile.addThing, full, isGround, isTop, isField,
          found, replaceable, if_true, Bool.false_eq_true, if_false]
        exact based.trans (setParent_upkeep (.inr notHeld))
  · simp only [Field.addThing, Tile.addThing, full, isGround, isTop, isField,
      Bool.false_eq_true, if_false]
    exact based.trans (insertDown_upkeep here browsed)

/-! ## What is changed or exchanged on a tile -/

/-- The item is listed after its change as it was before. -/
def ListedAlike (game : Items.Game) (tile : Tile) (address : Nat) (itemId count : UInt16) : Prop :=
  ((tile.updateThing game (.item address) itemId count).stored address).isBrowsed game =
    (tile.stored address).isBrowsed game

theorem updateThing_upkeep (stacked : Stacked game field.tile) {thing : Thing}
    {itemId count : UInt16}
    (alike : field.browseFields.isSome → ∀ address, thing = .item address →
      ListedAlike game field.tile address itemId count) :
    Upkeep game field (field.updateThing game thing itemId count) := by
  unfold Field.updateThing
  split
  · exact .refl field
  · rename_i there
    cases thing with
    | creature address => exact .refl field
    | item address =>
      have ground : (field.tile.updateThing game (.item address) itemId count).ground =
          field.tile.ground := by
        rw [Tile.updateThing, if_neg there]
        rfl
      have items : (field.tile.updateThing game (.item address) itemId count).items =
          field.tile.items := by
        rw [Tile.updateThing, if_neg there]
        rfl
      refine updated_upkeep stacked.placed ground items fun isRegistered item _ => ?_
      by_cases here : item = address
      · subst here
        exact alike isRegistered item rfl
      · rw [Tile.updateThing, if_neg there]
        change TileItem.isBrowsed game (update field.tile.stored address _ item) = _
        rw [update_of_ne here]

theorem items_fill (placed : Placed tile) {slot : Tile.Slot} (found : slot.Found tile)
    (notGround : ∀ old, slot ≠ .ground old) (address : Nat) :
    (tile.fill slot address).items = tile.items.map (exchange slot.old address) := by
  have distinct := nodup_items placed
  rw [← set_idxOf distinct]
  cases slot with
  | ground old => exact absurd rfl (notGround old)
  | down pos old =>
    obtain ⟨within, rfl⟩ := List.getElem?_eq_some_iff.mp found
    have place : tile.items.idxOf tile.downItems[pos] = pos := by
      rw [items_eq, List.idxOf_append_of_mem (List.getElem_mem within)]
      rw [items_eq] at distinct
      exact (List.nodup_append.mp distinct).1.idxOf_getElem pos within
    rw [Tile.Slot.old, place]
    conv_rhs => rw [items_eq]
    exact (List.set_append_left _ _ within).symm
  | top pos old =>
    obtain ⟨within, rfl⟩ := List.getElem?_eq_some_iff.mp found
    change tile.downItems ++ tile.topItems.set pos address = _
    have notDown := placed.apart.2 (List.getElem_mem within)
    have place : tile.items.idxOf tile.topItems[pos] = tile.downItems.length + pos := by
      rw [items_eq, List.idxOf_append_of_notMem notDown]
      rw [items_eq] at distinct
      rw [(List.nodup_append.mp distinct).2.1.idxOf_getElem pos within]
    rw [Tile.Slot.old, place]
    conv_rhs => rw [items_eq]
    rw [List.set_append_right _ _ (Nat.le_add_right _ _), Nat.add_sub_cancel_left]

theorem listing_exchange (placed : Placed tile) {old address : Nat}
    (items : other.items = tile.items.map (exchange old address))
    (stored : other.stored = tile.stored)
    (alike : (tile.stored address).isWatched game →
      (tile.stored address).isBrowsed game = (tile.stored old).isBrowsed game) :
    updateListed ((tile.stored old).isWatched game) ((tile.stored address).isWatched game) old
      address (Field.listing game tile) = Field.listing game other := by
  have distinct := @nodup_listing game _ placed
  have unlisted (none : ¬(tile.stored old).isBrowsed game) : old ∉ Field.listing game tile :=
    fun member => none (mem_listing.mp member).2
  rw [updateListed]
  split
  · rename_i watched
    rw [set_idxOf distinct, Field.listing, Field.listing, items, stored, filter_exchange,
      List.map_reverse]
    exact alike watched
  · rename_i unwatched
    have gone : Field.listing game other = (Field.listing game tile).erase old := by
      rw [Field.listing, Field.listing, items, stored,
        filter_exchange_unlisted (nodup_items placed), reverse_erase ((nodup_items placed).filter _)]
      exact isBrowsed_of_unwatched unwatched
    rw [gone]
    split
    · rfl
    · rename_i oldUnwatched
      refine (List.erase_of_not_mem (unlisted ?_)).symm
      exact Bool.eq_false_iff.mp (isBrowsed_of_unwatched oldUnwatched)

/-- An item that takes the place of one that is listed as it is, or is not watched. -/
def ExchangedAlike (game : Items.Game) (tile : Tile) (index address : Nat) : Prop :=
  ∀ slot, tile.slotAt index = some slot → (∀ old, slot ≠ .ground old) →
    (tile.stored address).isWatched game →
      (tile.stored address).isBrowsed game = (tile.stored slot.old).isBrowsed game

theorem replaceThing_upkeep (stacked : Stacked game field.tile) {index address : Nat}
    (absent : Absent field.tile address)
    (alike : field.browseFields.isSome → ExchangedAlike game field.tile index address) :
    Upkeep game field (field.replaceThing game index address) := by
  have placed := stacked.placed
  rw [Field.replaceThing]
  cases found : field.tile.slotAt index with
  | none => exact .refl field
  | some slot =>
    have there := slotAt_found found
    have filled : field.tile.replaceThing game index address =
        ((field.tile.fill slot address).unflagged game slot.old).flagged game address := by
      rw [Tile.replaceThing, found]
    have here : (field.setParent address (some .tile)).parent address = some .tile :=
      update_self ..
    have others (item : Nat) (_ : item ≠ slot.old) (notNew : item ≠ address) :
        (field.setParent address (some .tile)).parent item = field.parent item :=
      update_of_ne notNew ..
    obtain ⟨moved, heldBefore⟩ := @fill_moved _ placed _ there address
    have apart : slot.old ≠ address := (absent.ne heldBefore).symm
    have heldAfter (item : Nat) (held : (field.tile.fill slot address).Holds item) :
        item = address ∨ field.tile.Holds item ∧ item ≠ slot.old ∧ item ≠ address := by
      rcases (moved.holds item).mp held with ⟨before, notOld⟩ | isNew
      · exact .inr ⟨before, fun same => notOld (congrArg some same.symm), (absent.ne before).symm⟩
      · exact .inl (Option.some.inj isNew).symm
    rw [filled]
    refine .trans ?_ (setParent_upkeep (.inr ?_))
    · by_cases isGround : ∃ old, slot = .ground old
      · obtain ⟨old, rfl⟩ := isGround
        exact exchangeGround_upkeep placed there absent rfl rfl rfl (.of_same rfl rfl rfl rfl)
          here others
      · have notGround : ∀ old, slot ≠ .ground old := fun old same => isGround ⟨old, same⟩
        have items := items_fill placed there notGround address
        refine exchanged_upkeep (.of_same rfl rfl rfl rfl) moved.stored here others heldAfter
          (fun item member notOld => ?_) fun isRegistered => ?_
        · change item ∈ (field.tile.fill slot address).items
          rw [items]
          exact List.mem_map.mpr ⟨item, member, if_neg notOld⟩
        · exact listing_exchange placed items moved.stored
            (alike isRegistered slot found notGround)
    · rw [onUpdateTileItem_tile]
      intro held
      rcases heldAfter slot.old held with same | ⟨-, notOld, -⟩
      · exact apart same
      · exact notOld rfl

end Otserv.TileStack
