import Otserv.HouseItems.SavedTiles
import Otserv.Items.Restoring

/-!
# What survives in a house

The trees of items and the tiles of a house that come back when they are saved and loaded,
each with its exact condition, in one statement (`houseItems_sound_iff`).

The attributes of plain items are those of `Item::serializeAttr` and `Item::readAttr`
(`plainGame`): where the updates of what was written make an item of the fresh one, its
attributes are read back as the trees need it (`readsBack_serializeAttr`).
-/

namespace Otserv.HouseItems

open Otserv.Foundation

/-! ## The attributes of plain items -/

section PlainItems

variable (items : UInt16 → ItemType)

/-- The types, as attributes are asked for them. -/
def plainTypes : Items.Game where
  items id := (items id).toItemType
  uniqueItems _ := false

/-- Items with the attributes of `Item`, none of which decay. -/
def plainGame : Game Items.Item where
  items := items
  construct _ id := .new (plainTypes items) id 0
  serializeAttr _ _ own := own.serializeAttr (plainTypes items)
  readAttr _ _ attr own bytes :=
    match Items.Item.readTag (plainTypes items) attr own bytes with
    | some (own, rest) => (true, own, rest)
    | none => (false, own, bytes)
  startDecayingIn _ itemlist := itemlist
  startDecayingOn _ tile := tile
  transformItem _ _ tile := tile

variable {items}

theorem readsBack_flatten (id : UInt16) (cls : ItemClass) {fields : List (List UInt8)}
    {nexts : List (Items.Item → Option Items.Item)}
    (reads : List.Forall₂ (Reads (Items.Item.readTag (plainTypes items))) fields nexts)
    {own result : Items.Item} (updated : inTurn nexts own = some result) :
    Item.ReadsBack (plainGame items) id cls own fields.flatten result := by
  induction reads generalizing own with
  | nil =>
    obtain rfl : own = result := Option.some.inj updated
    exact .done own
  | @cons field next fields nexts first _ ih =>
    cases first with
    | absent => exact ih updated
    | @field tag payload _ nonzero reads =>
      obtain ⟨between, sets, later⟩ := Option.bind_eq_some_iff.mp updated
      have read (rest : List UInt8) : Items.Item.readTag (plainTypes items) tag own
          (payload ++ rest) = some (between, rest) := by
        rw [reads, sets, Option.map_some]
      -- the tag of a container's items is read by no item
      have notItems : tag ≠ ATTR_CONTAINER_ITEMS := by
        rintro rfl
        have reads := read []
        contradiction
      exact .attr nonzero notItems (fun rest => by simp only [plainGame, read]) (ih later)

theorem readsBack_serializeAttr (id : UInt16) (cls : ItemClass) {fresh own : Items.Item}
    (wellFormed : own.WellFormed)
    (updated : inTurn (own.updates (plainTypes items)) fresh = some own) :
    Item.ReadsBack (plainGame items) id cls fresh (own.serializeAttr (plainTypes items)) own :=
  readsBack_flatten id cls (Items.Item.reads_attrFields wellFormed) updated

end PlainItems

/-! ## Houses -/

/-- **House items survive, and which do not.** A tree of items comes back exactly when it
is plain. The items that a tile is saved with, and their order among the others of the
tile, come back exactly when each of their trees is plain and the tile is in order. -/
theorem houseItems_sound_iff {Own : Type*} (game : Game Own) :
    (∀ item : Item Own, item.Creatable game → (item.Rebuilt game ↔ item.Plain)) ∧
      ∀ tile : Tile Own, tile.Layered game → tile.Savable game →
        (((∀ item ∈ tile.items, Tile.isSaved game item → item.Rebuilt game) ∧
            tile.Restored game) ↔
          (∀ item ∈ tile.items, Tile.isSaved game item → item.Plain) ∧ tile.InOrder game) := by
  refine ⟨fun item creatable => rebuilt_iff creatable, fun tile layered savable => ?_⟩
  have trees : (∀ item ∈ tile.items, Tile.isSaved game item → item.Rebuilt game) ↔
      ∀ item ∈ tile.items, Tile.isSaved game item → item.Plain :=
    forall_congr' fun item => forall_congr' fun member => forall_congr' fun isSaved =>
      rebuilt_iff (savable.creatable item member isSaved)
  rw [trees]
  exact and_congr_right fun plain => restored_iff layered savable plain

section Furnished

/-- Coins (1), bags (2), two kinds of banners (3 and 6), lamps that stay (4) and depots
(5). -/
def furniture (id : UInt16) : ItemType :=
  if id = 2 then { id := 2, group := .container, moveable := true }
  else if id = 3 then { id := 3, alwaysOnTop := true, alwaysOnTopOrder := 2, moveable := true }
  else if id = 4 then { id := 4, alwaysOnTop := true, alwaysOnTopOrder := 2 }
  else if id = 5 then { id := 5, group := .container, type := .depot, moveable := true }
  else if id = 6 then { id := 6, alwaysOnTop := true, alwaysOnTopOrder := 2, moveable := true }
  else { id := 1, stackable := true, moveable := true }

def coins (count : UInt16) : Item Items.Item := ⟨1, .item, { id := 1, count := count }, []⟩
def emptyBag : Item Items.Item := ⟨2, .container, { id := 2 }, []⟩
def bag : Item Items.Item := ⟨2, .container, { id := 2 }, [coins 3, emptyBag, coins 7]⟩
def banner : Item Items.Item := ⟨3, .item, { id := 3 }, []⟩
def pennant : Item Items.Item := ⟨6, .item, { id := 6 }, []⟩
def lamp : Item Items.Item := ⟨4, .item, { id := 4 }, []⟩
def depot : Item Items.Item := ⟨5, .depotLocker, { id := 5 }, []⟩

/-- A bag and coins on the floor, and a banner behind a lamp. -/
def furnished : Tile Items.Item where
  position := ⟨95, 117, 7⟩
  items := [bag, coins 1, lamp, banner]
  downItemCount := 2

/-- Two banners of one order. -/
def decorated : Tile Items.Item where
  position := ⟨95, 118, 7⟩
  items := [banner, pennant]

theorem coins_creatable (count : UInt16) : (coins count).Creatable (plainGame furniture) := by
  have read (rest : List UInt8) : Items.Item.readTag (plainTypes furniture)
      Items.AttrTypes.count.value (.new (plainTypes furniture) 1 0)
        (writeInt 2 count.toNat ++ rest) = some ((coins count).own, rest) :=
    Items.Item.store_uint16 count rest _
  have back : Item.ReadsBack (plainGame furniture) 1 .item (.new (plainTypes furniture) 1 0)
      (Items.AttrTypes.count.value :: (writeInt 2 count.toNat ++ [])) (coins count).own :=
    .attr (by decide) (by decide) (fun rest => by simp only [plainGame, read]) (.done _)
  refine ⟨⟨rfl, ?_, fun _ => rfl⟩, by simp [coins]⟩
  simp only [coins, Item.id_mk, Item.cls_mk, Item.own_mk] at back ⊢
  exact back

theorem emptyBag_creatable : emptyBag.Creatable (plainGame furniture) :=
  ⟨⟨rfl, .done _, fun container => by simp [emptyBag, Item.isContainer] at container⟩,
    by simp [emptyBag]⟩

theorem bag_creatable : bag.Creatable (plainGame furniture) := by
  refine ⟨⟨rfl, .done _, fun container => by simp [bag, Item.isContainer] at container⟩, ?_⟩
  simp only [bag, Item.itemlist_mk, List.forall_mem_cons]
  exact ⟨coins_creatable 3, emptyBag_creatable, coins_creatable 7, by simp⟩

theorem banner_creatable : banner.Creatable (plainGame furniture) :=
  ⟨⟨rfl, .done _, fun _ => rfl⟩, by simp [banner]⟩

theorem plain_coins (count : UInt16) : (coins count).Plain :=
  ⟨⟨by simp [coins], by simp [coins]⟩, by simp [coins]⟩

theorem plain_banner : banner.Plain :=
  ⟨⟨by simp [banner], by simp [banner]⟩, by simp [banner]⟩

theorem plain_bag : bag.Plain := by
  have empty : emptyBag.Plain := ⟨⟨by simp [emptyBag], by simp [emptyBag]⟩, by simp [emptyBag]⟩
  refine ⟨⟨by simp [bag], by simp [bag]⟩, ?_⟩
  simp only [bag, Item.itemlist_mk, List.forall_mem_cons]
  exact ⟨plain_coins 3, empty, plain_coins 7, by simp⟩

theorem furnished_layered : furnished.Layered (plainGame furniture) where
  split := by decide
  down := by simp [furnished, Tile.downItems]; decide
  top := by simp [furnished, Tile.topItems]; decide
  sorted := by simp [furnished, Tile.topItems, InKeyOrder]; decide

theorem furnished_savable : furnished.Savable (plainGame furniture) where
  anew := by simp [furnished]; decide
  creatable := by
    simp only [furnished, List.forall_mem_cons]
    exact ⟨fun _ => bag_creatable, fun _ => coins_creatable 1,
      fun saved => absurd saved (by decide), fun _ => banner_creatable, by simp⟩
  lasting _ _ _ _ := rfl

theorem furnished_plain :
    ∀ item ∈ furnished.items, Tile.isSaved (plainGame furniture) item → item.Plain := by
  simp only [furnished, List.forall_mem_cons]
  exact ⟨fun _ => plain_bag, fun _ => plain_coins 1, fun saved => absurd saved (by decide),
    fun _ => plain_banner, by simp⟩

theorem furnished_inOrder : furnished.InOrder (plainGame furniture) where
  few _ := by decide
  noGround := by simp [furnished]; decide
  down := by simp [furnished, Tile.downItems]; decide
  top order := by
    by_cases second : order = 2
    · subst second
      exact ⟨by simp [furnished, Tile.topItems]; decide, rfl⟩
    · have none : furnished.topItems.filter
          (alwaysOnTopOrder (plainGame furniture) · = order) = [] := by
        have orders : ∀ item ∈ furnished.topItems,
            alwaysOnTopOrder (plainGame furniture) item = 2 := by
          decide
        rw [List.filter_eq_nil_iff]
        intro item member
        simpa [orders item member] using Ne.symm second
      simp [none]

/-- The bag comes back with its coins in their order, and the tile with the banner behind
the lamp. -/
theorem houseItems_sound_iff_furnished :
    bag.Rebuilt (plainGame furniture) ∧ furnished.Restored (plainGame furniture) :=
  ⟨((houseItems_sound_iff (plainGame furniture)).1 bag bag_creatable).mpr plain_bag,
    (((houseItems_sound_iff (plainGame furniture)).2 furnished furnished_layered
      furnished_savable).mpr ⟨furnished_plain, furnished_inOrder⟩).2⟩

/-- A depot locker does not come back, and two banners of one order come back in reverse. -/
theorem banners_swapped :
    (depot.Creatable (plainGame furniture) ∧ ¬ depot.Rebuilt (plainGame furniture)) ∧
      decorated.Layered (plainGame furniture) ∧ decorated.Savable (plainGame furniture) ∧
      (∀ item ∈ decorated.items, item.Rebuilt (plainGame furniture)) ∧
      ¬ decorated.Restored (plainGame furniture) := by
  have locker : depot.Creatable (plainGame furniture) :=
    ⟨⟨rfl, .done _, fun container => by simp [depot, Item.isContainer] at container⟩,
      by simp [depot]⟩
  have creatable : pennant.Creatable (plainGame furniture) :=
    ⟨⟨rfl, .done _, fun _ => rfl⟩, by simp [pennant]⟩
  have plain : pennant.Plain := ⟨⟨by simp [pennant], by simp [pennant]⟩, by simp [pennant]⟩
  have layered : decorated.Layered (plainGame furniture) :=
    { split := by decide
      down := by simp [decorated, Tile.downItems]
      top := by simp [decorated, Tile.topItems]; decide
      sorted := by simp [decorated, Tile.topItems, InKeyOrder]; decide }
  have savable : decorated.Savable (plainGame furniture) :=
    { anew := by simp [decorated]; decide
      creatable := by
        simp only [decorated, List.forall_mem_cons]
        exact ⟨fun _ => banner_creatable, fun _ => creatable, by simp⟩
      lasting := fun _ _ _ _ => rfl }
  have plainAll : ∀ item ∈ decorated.items, item.Plain := by
    simp only [decorated, List.forall_mem_cons]
    exact ⟨plain_banner, plain, by simp⟩
  refine ⟨⟨locker, fun rebuilt => ?_⟩, layered, savable, ?_, fun restored => ?_⟩
  · exact ((rebuilt_iff locker).mp rebuilt).here.notLocker rfl
  · simp only [decorated, List.forall_mem_cons]
    exact ⟨(rebuilt_iff banner_creatable).mpr plain_banner, (rebuilt_iff creatable).mpr plain,
      by simp⟩
  · have inOrder := (restored_iff layered savable fun item member _ =>
      plainAll item member).mp restored
    have reversed := congrArg (List.map Item.id) (inOrder.top 2).2
    exact absurd reversed (by decide)

end Furnished

end Otserv.HouseItems
