import Otserv.TileStack.BrowseUpkeep

/-!
# Browsing over whole runs

A container should list, while it is there, the items of its tile that are containers or moveable
and have no unique id, in their order from the bottom to the top, and be there as long as a window
or the call to come needs it (`Mirrored`). Items that are on the tile when the container is made
have it as their parent until they are changed; the game asks for the tile in its place.

References are counted with those to spare while a window changes (`Registered`). With the list and
the parents (`Shown`) they are kept by each step (`Browsing`), as long as new, changed and exchanged
items are listed as the callbacks have it (`Steady`).
-/

namespace Otserv.TileStack

open Foundation
open Function (update update_of_ne update_self)

variable {game : Items.Game} {tile : Tile} {field after : Field}

/-! ## Windows and references -/

/-- The registered container is the only one, and its references are counted: those of the windows,
that of the call to come, and some to spare. -/
structure Registered (field : Field) (spare : Nat) : Prop where
  only : ∀ container browse, field.containers container = some browse →
    field.browseFields = some container
  counted : ∀ container, field.browseFields = some container →
    ∃ browse, field.containers container = some browse ∧
      browse.referenceCounter = field.windows.length + field.scheduled + spare
  shown : ∀ window ∈ field.windows, field.browseFields = some window.container
  referred : field.browseFields.isSome → 0 < field.windows.length + field.scheduled + spare
  idle : field.browseFields = none → field.scheduled + spare = 0

namespace Registered

variable {spare : Nat} {container : Nat}

theorem follows (registered : Registered field spare) {change : List Nat → List Nat}
    (follows : Follows field after change) : Registered after spare := by
  refine ⟨fun other browse there => ?_, fun other isRegistered => ?_, ?_, ?_, ?_⟩
  · rw [follows.containers] at there
    obtain ⟨old, isOld, -⟩ := Option.map_eq_some_iff.mp there
    rw [follows.browseFields]
    exact registered.only other old isOld
  · rw [follows.browseFields] at isRegistered
    obtain ⟨browse, there, count⟩ := registered.counted other isRegistered
    refine ⟨{ browse with itemlist := change browse.itemlist }, ?_, ?_⟩
    · rw [follows.containers, there, Option.map_some, if_pos isRegistered]
    · rw [follows.windows, follows.scheduled]
      exact count
  · rw [follows.windows, follows.browseFields]
    exact registered.shown
  · rw [follows.windows, follows.browseFields, follows.scheduled]
    exact registered.referred
  · rw [follows.browseFields, follows.scheduled]
    exact registered.idle

theorem recount (registered : Registered field spare)
    (isRegistered : field.browseFields = some container) {windows : List Window}
    {scheduled other : Nat} (change : BrowseField → BrowseField)
    (shown : ∀ window ∈ windows, window.container = container)
    (count : ∀ browse, browse.referenceCounter = field.windows.length + field.scheduled + spare →
      (change browse).referenceCounter = windows.length + scheduled + other)
    (positive : 0 < windows.length + scheduled + other) :
    Registered { field.modifyContainer container change with
      windows := windows, scheduled := scheduled } other := by
  obtain ⟨browse, there, counted⟩ := registered.counted container isRegistered
  refine ⟨fun place other isThere => ?_, fun place isPlace => ?_, fun window member => ?_,
    fun _ => positive, fun missing => ?_⟩
  · change update field.containers container _ place = some other at isThere
    by_cases same : place = container
    · rw [same]
      exact isRegistered
    · rw [update_of_ne same] at isThere
      exact registered.only place other isThere
  · obtain rfl := Option.some.inj (isRegistered.symm.trans isPlace)
    refine ⟨change browse, ?_, count browse counted⟩
    refine (update_self ..).trans ?_
    rw [there, Option.map_some]
  · rw [shown window member]
    exact isRegistered
  · change field.browseFields = none at missing
    rw [isRegistered] at missing
    cases missing

theorem increment (registered : Registered field spare)
    (isRegistered : field.browseFields = some container) :
    Registered (field.incrementReferenceCounter container) (spare + 1) := by
  refine registered.recount isRegistered _ (fun window member => ?_) (fun browse counted => ?_)
    (by omega)
  · exact Option.some.inj ((registered.shown window member).symm.trans isRegistered)
  · change browse.referenceCounter + 1 = _
    omega

theorem decrement (registered : Registered field (spare + 1))
    (isRegistered : field.browseFields = some container) :
    Registered (field.decrementReferenceCounter container) spare := by
  obtain ⟨browse, there, counted⟩ := registered.counted container isRegistered
  rw [Field.decrementReferenceCounter, there]
  dsimp only
  split
  · rename_i last
    have noWindow : field.windows = [] := List.length_eq_zero_iff.mp (by omega)
    refine ⟨fun place other isThere => ?_, fun place isPlace => (by cases isPlace),
      fun window member => ?_, fun isSome => (by cases isSome), fun _ => ?_⟩
    · change update field.containers container none place = some other at isThere
      by_cases same : place = container
      · rw [same, update_self] at isThere
        cases isThere
      · rw [update_of_ne same] at isThere
        have isPlace := registered.only place other isThere
        exact absurd (Option.some.inj (isPlace.symm.trans isRegistered)) same
    · change window ∈ field.windows at member
      rw [noWindow] at member
      cases member
    · change field.scheduled + spare = 0
      omega
  · refine registered.recount isRegistered _ (fun window member => ?_) (fun browse counted => ?_)
      (by omega)
    · exact Option.some.inj ((registered.shown window member).symm.trans isRegistered)
    · change browse.referenceCounter - 1 = _
      omega

theorem dropWindow (registered : Registered field spare) (player cid : Nat) :
    Registered (field.dropWindow player cid) spare := by
  rw [Field.dropWindow]
  cases found : field.window player cid with
  | none => exact registered
  | some window =>
    have member : window ∈ field.windows := List.mem_of_find?_eq_some found
    have isRegistered := registered.shown window member
    have dropped :
        Registered { field with windows := field.windows.erase window } (spare + 1) := by
      have fewer : field.windows.length = (field.windows.erase window).length + 1 := by
        rw [List.length_erase_of_mem member]
        have some := List.length_pos_of_mem member
        omega
      refine ⟨registered.only, fun container isContainer => ?_, fun other isOther =>
        registered.shown other (List.mem_of_mem_erase isOther), fun _ => ?_, fun missing => ?_⟩
      · obtain ⟨browse, there, counted⟩ := registered.counted container isContainer
        refine ⟨browse, there, ?_⟩
        change _ = (field.windows.erase window).length + field.scheduled + (spare + 1)
        omega
      · omega
      · rw [isRegistered] at missing
        cases missing
    exact dropped.decrement isRegistered

end Registered

@[simp] theorem decrementReferenceCounter_tile (field : Field) (container : Nat) :
    (field.decrementReferenceCounter container).tile = field.tile := by
  unfold Field.decrementReferenceCounter
  repeat' split
  all_goals rfl

@[simp] theorem dropWindow_tile (field : Field) (player cid : Nat) :
    (field.dropWindow player cid).tile = field.tile := by
  unfold Field.dropWindow
  split
  · rfl
  · rw [decrementReferenceCounter_tile]

theorem decrement_browseFields (field : Field) (container : Nat) :
    (field.decrementReferenceCounter container).browseFields = field.browseFields ∨
      (field.decrementReferenceCounter container).browseFields = none := by
  unfold Field.decrementReferenceCounter
  split
  · exact .inl rfl
  · split
    · exact .inr rfl
    · exact .inl rfl

theorem dropWindow_browseFields (field : Field) (player cid : Nat) :
    (field.dropWindow player cid).browseFields = field.browseFields ∨
      (field.dropWindow player cid).browseFields = none := by
  unfold Field.dropWindow
  split
  · exact .inl rfl
  · exact decrement_browseFields { field with windows := _ } _

theorem Registered.addContainer {container : Nat} (registered : Registered field 0)
    (isRegistered : field.browseFields = some container) (player cid : Nat) :
    Registered (field.addContainer player cid container) 0 := by
  have dropped := (registered.increment isRegistered).dropWindow player cid
  let rest := (field.incrementReferenceCounter container).dropWindow player cid
  have stays : rest.browseFields = some container := by
    rcases dropWindow_browseFields (field.incrementReferenceCounter container) player cid with
      same | missing
    · exact same.trans isRegistered
    · have none := dropped.idle missing
      omega
  refine ⟨dropped.only, fun place isPlace => ?_, fun window member => ?_, fun _ => ?_,
    fun missing => ?_⟩
  · obtain ⟨browse, there, counted⟩ := dropped.counted place isPlace
    refine ⟨browse, there, ?_⟩
    change _ = (rest.windows.length + 1) + rest.scheduled + 0
    change browse.referenceCounter = rest.windows.length + rest.scheduled + 1 at counted
    omega
  · rcases List.mem_cons.mp member with rfl | old
    · exact stays
    · exact dropped.shown window old
  · change 0 < (rest.windows.length + 1) + rest.scheduled + 0
    omega
  · change rest.browseFields = none at missing
    rw [stays] at missing
    cases missing

/-- The list is that of the tile, and items that are not listed have the tile as their parent. -/
structure Shown (game : Items.Game) (field : Field) : Prop where
  listed : ∀ container browse, field.containers container = some browse →
    browse.itemlist = Field.listing game field.tile
  parents : ∀ item, field.tile.Holds item → field.parent item = some .tile ∨
    ∃ container, field.browseFields = some container ∧
      field.parent item = some (.container container) ∧ item ∈ Field.listing game field.tile

namespace Shown

theorem recount {container : Nat} (shown : Shown game field) (change : BrowseField → BrowseField)
    (same : ∀ browse, (change browse).itemlist = browse.itemlist) :
    Shown game (field.modifyContainer container change) := by
  refine ⟨fun place browse there => ?_, shown.parents⟩
  change update field.containers container _ place = some browse at there
  by_cases here : place = container
  · subst here
    rw [update_self] at there
    obtain ⟨old, isOld, rfl⟩ := Option.map_eq_some_iff.mp there
    exact (same old).trans (shown.listed place old isOld)
  · rw [update_of_ne here] at there
    exact shown.listed place browse there

theorem decrement (shown : Shown game field) (container : Nat) :
    Shown game (field.decrementReferenceCounter container) := by
  unfold Field.decrementReferenceCounter
  split
  · exact shown
  · rename_i browse there
    split
    · refine ⟨fun place other isThere => ?_, fun item held => .inl ?_⟩
      · change update field.containers container none place = some other at isThere
        by_cases here : place = container
        · rw [here, update_self] at isThere
          cases isThere
        · rw [update_of_ne here] at isThere
          exact shown.listed place other isThere
      · change (if item ∈ browse.itemlist then some .tile else field.parent item) = some .tile
        split
        · rfl
        · rename_i notListed
          rw [shown.listed container browse there] at notListed
          rcases shown.parents item held with isTile | ⟨_, _, _, listed⟩
          · exact isTile
          · exact absurd listed notListed
    · exact shown.recount _ fun _ => rfl

theorem dropWindow (shown : Shown game field) (player cid : Nat) :
    Shown game (field.dropWindow player cid) := by
  unfold Field.dropWindow
  split
  · exact shown
  · rename_i window found
    have others : Shown game { field with windows := field.windows.erase window } :=
      ⟨shown.listed, shown.parents⟩
    exact others.decrement window.container

theorem addContainer (shown : Shown game field) (player cid container : Nat) :
    Shown game (field.addContainer player cid container) :=
  have incremented : Shown game (field.incrementReferenceCounter container) :=
    shown.recount _ fun _ => rfl
  have dropped := incremented.dropWindow player cid
  ⟨dropped.listed, dropped.parents⟩

/-- What is done to a tile. -/
theorem upkeep (shown : Shown game field) (registered : Registered field 0)
    (upkeep : Upkeep game field after) : Shown game after := by
  obtain ⟨change, lists⟩ := upkeep.lists
  refine ⟨fun container browse there => ?_, fun item held => ?_⟩
  · rw [lists.containers] at there
    obtain ⟨old, isOld, rfl⟩ := Option.map_eq_some_iff.mp there
    have isRegistered := registered.only container old isOld
    rw [if_pos isRegistered]
    rw [shown.listed container old isOld]
    exact lists.listing (by rw [isRegistered]; rfl)
  · rcases upkeep.parents item held with isTile | ⟨heldBefore, same, stays⟩
    · exact .inl isTile
    · rcases shown.parents item heldBefore with
        isTile | ⟨container, isRegistered, hasParent, listed⟩
      · exact .inl (same.trans isTile)
      · exact .inr ⟨container, lists.browseFields.trans isRegistered, same.trans hasParent,
          stays (by rw [isRegistered]; rfl) listed⟩

end Shown

/-- What holds of a tile with its container. -/
structure Browsing (game : Items.Game) (field : Field) : Prop where
  stacked : Stacked game field.tile
  registered : Registered field 0
  shown : Shown game field

namespace Browsing

section

variable (browsing : Browsing game field)
include browsing

theorem makeContainer (free : field.browseFields = none) :
    Browsing game (field.makeContainer game) := by
  have empty (container : Nat) : field.containers container = none := by
    cases there : field.containers container with
    | none => rfl
    | some browse =>
      have isRegistered := browsing.registered.only container browse there
      rw [free] at isRegistered
      cases isRegistered
  have noWindow : field.windows = [] := by
    refine List.eq_nil_iff_forall_not_mem.mpr fun window member => ?_
    have isRegistered := browsing.registered.shown window member
    rw [free] at isRegistered
    cases isRegistered
  have idle := browsing.registered.idle free
  have there {container : Nat} {browse : BrowseField}
      (isThere : (field.makeContainer game).containers container = some browse) :
      container = field.made ∧ browse = ⟨Field.listing game field.tile, 1⟩ := by
    change update field.containers field.made _ container = some browse at isThere
    by_cases same : container = field.made
    · rw [same, update_self] at isThere
      exact ⟨same, (Option.some.inj isThere).symm⟩
    · rw [update_of_ne same, empty] at isThere
      cases isThere
  refine ⟨browsing.stacked, ⟨fun container browse isThere => ?_, fun container isRegistered => ?_,
    fun window member => ?_, fun _ => ?_, fun missing => (by cases missing)⟩,
    fun container browse isThere => ?_, fun item held => ?_⟩
  · exact congrArg some (there isThere).1.symm
  · obtain rfl := Option.some.inj isRegistered
    refine ⟨⟨Field.listing game field.tile, 1⟩, update_self .., ?_⟩
    change 1 = field.windows.length + (field.scheduled + 1) + 0
    rw [noWindow, List.length_nil]
    omega
  · change window ∈ field.windows at member
    rw [noWindow] at member
    cases member
  · change 0 < field.windows.length + (field.scheduled + 1) + 0
    omega
  · rw [(there isThere).2]
    rfl
  · change (if item ∈ Field.listing game field.tile then some (.container field.made)
      else field.parent item) = some .tile ∨ ∃ container, some field.made = some container ∧
        (if item ∈ Field.listing game field.tile then some (.container field.made)
          else field.parent item) = some (.container container) ∧
          item ∈ Field.listing game field.tile
    split
    · rename_i listed
      exact .inr ⟨field.made, rfl, rfl, listed⟩
    · rcases browsing.shown.parents item held with isTile | ⟨container, isRegistered, -⟩
      · exact .inl isTile
      · rw [free] at isRegistered
        cases isRegistered

theorem browseContainer :
    Browsing game (field.browseContainer game).2 ∧
      (field.browseContainer game).2.browseFields = some (field.browseContainer game).1 := by
  unfold Field.browseContainer
  split
  · rename_i container isRegistered
    exact ⟨browsing, isRegistered⟩
  · rename_i free
    exact ⟨browsing.makeContainer free, rfl⟩

theorem addContainer {container : Nat}
    (isRegistered : field.browseFields = some container) (player cid : Nat) :
    Browsing game (field.addContainer player cid container) := by
  have same : (field.addContainer player cid container).tile = field.tile :=
    dropWindow_tile (field.incrementReferenceCounter container) player cid
  refine ⟨?_, browsing.registered.addContainer isRegistered player cid,
    browsing.shown.addContainer player cid container⟩
  rw [same]
  exact browsing.stacked

/-- The windows with other containers do not matter. -/
theorem setOthers (others : List (Nat × Nat)) : Browsing game { field with others := others } :=
  ⟨browsing.stacked, ⟨browsing.registered.only, browsing.registered.counted,
    browsing.registered.shown, browsing.registered.referred, browsing.registered.idle⟩,
    ⟨browsing.shown.listed, browsing.shown.parents⟩⟩

theorem dropWindow (player cid : Nat) : Browsing game (field.dropWindow player cid) := by
  refine ⟨?_, browsing.registered.dropWindow player cid, browsing.shown.dropWindow player cid⟩
  rw [dropWindow_tile]
  exact browsing.stacked

theorem playerBrowseField (player : Nat) : Browsing game (field.playerBrowseField game player) := by
  obtain ⟨made, isRegistered⟩ := browsing.browseContainer
  rcases found : field.browseContainer game with ⟨container, middle⟩
  rw [found] at made isRegistered
  simp only [Field.playerBrowseField, found]
  split
  · exact (made.dropWindow player _).setOthers _
  · exact made.addContainer isRegistered player _

theorem decreaseBrowseFieldRef (positive : 0 < field.scheduled) :
    Browsing game field.decreaseBrowseFieldRef := by
  unfold Field.decreaseBrowseFieldRef
  dsimp only
  split
  · rename_i container isRegistered
    have called : Registered { field with scheduled := field.scheduled - 1 } (0 + 1) := by
      refine ⟨browsing.registered.only, fun place isPlace => ?_, browsing.registered.shown,
        fun _ => ?_, fun missing => ?_⟩
      · obtain ⟨browse, there, counted⟩ := browsing.registered.counted place isPlace
        refine ⟨browse, there, ?_⟩
        change _ = field.windows.length + (field.scheduled - 1) + (0 + 1)
        omega
      · omega
      · rw [isRegistered] at missing
        cases missing
    have shown : Shown game { field with scheduled := field.scheduled - 1 } :=
      ⟨browsing.shown.listed, browsing.shown.parents⟩
    refine ⟨?_, called.decrement isRegistered, shown.decrement container⟩
    rw [decrementReferenceCounter_tile]
    exact browsing.stacked
  · rename_i free
    have idle := browsing.registered.idle free
    omega

theorem upkeep (upkeep : Upkeep game field after)
    (stacked : Stacked game after.tile) : Browsing game after := by
  obtain ⟨change, lists⟩ := upkeep.lists
  exact ⟨stacked, browsing.registered.follows lists.toFollows,
    browsing.shown.upkeep browsing.registered upkeep⟩

end

end Browsing

/-! ## Runs -/

theorem addThing_tile (field : Field) (thing : Thing) :
    (field.addThing game thing).tile = field.tile.addThing game thing := by
  cases thing with
  | creature address => rfl
  | item address =>
    by_cases full : field.tile.items.length ≥ 0xFFFF
    · rw [Field.addThing, if_pos full]
      exact (if_pos full).symm
    by_cases isGround : (field.tile.itemType game address).isGroundTile = true
    · simp only [Field.addThing, full, isGround, if_true, if_false]
      split
      · rw [onAddTileItem_tile]
      · rw [onUpdateTileItem_tile]
    by_cases isTop : (field.tile.itemType game address).alwaysOnTop = true
    · simp only [Field.addThing, full, isGround, isTop, if_true, if_false]
      rw [if_neg Bool.false_ne_true, onAddTileItem_tile]
    by_cases isField : (field.tile.itemType game address).isMagicField = true
    · simp only [Field.addThing, full, isGround, isTop, isField, if_true, Bool.false_eq_true,
        if_false]
      split
      · rw [onAddTileItem_tile]
      · rename_i oldField found
        split
        · rw [onAddTileItem_tile]
        · rename_i stays
          simp only [Tile.addThing, full, isGround, isTop, isField, found, stays, if_true,
            if_false, Bool.false_eq_true, setParent_tile]
    · simp only [Field.addThing, full, isGround, isTop, isField, Bool.false_eq_true, if_false,
        onAddTileItem_tile]

theorem updateThing_tile (field : Field) (thing : Thing) (itemId count : UInt16) :
    (field.updateThing game thing itemId count).tile =
      field.tile.updateThing game thing itemId count := by
  unfold Field.updateThing
  split
  · rename_i missing
    exact (if_pos missing).symm
  · rename_i there
    cases thing with
    | creature address =>
      exact (if_neg there).symm
    | item address => rw [onUpdateTileItem_tile]

theorem replaceThing_tile (field : Field) (index address : Nat) :
    (field.replaceThing game index address).tile = field.tile.replaceThing game index address := by
  unfold Field.replaceThing
  cases found : field.tile.slotAt index with
  | none =>
    rw [Tile.replaceThing, found]
  | some slot =>
    rw [setParent_tile, onUpdateTileItem_tile]

/-- What an item that a container lists does not go through, while there is a container. -/
def Steady (game : Items.Game) (field : Field) (op : BrowseOp) : Prop :=
  field.browseFields.isSome →
    match op with
    | .addThing (.item address) => Steadily game field.tile address
    | .updateThing (.item address) itemId count => ListedAlike game field.tile address itemId count
    | .replaceThing index address => ExchangedAlike game field.tile index address
    | _ => True

namespace BrowseOp

/-- The item that comes to the tile, or is changed there. -/
def item : BrowseOp → Option Nat
  | addThing (.item address) | updateThing (.item address) _ _ | replaceThing _ address =>
    some address
  | _ => none

end BrowseOp

/-- The container mirrors its tile, bottom to top, and is there for the windows and the call. -/
structure Mirrored (game : Items.Game) (_before : Field) (op : BrowseOp) (after : Field) :
    Prop where
  listed : ∀ container browse, after.containers container = some browse →
    browse.itemlist = Field.listing game after.tile
  once : (Field.listing game after.tile).Nodup
  single : ∀ container browse, after.containers container = some browse →
    after.browseFields = some container
  there : ∀ container, after.browseFields = some container →
    (after.containers container).isSome
  referred : after.browseFields.isSome ↔ after.windows ≠ [] ∨ 0 < after.scheduled
  parents : ∀ item, after.tile.Holds item → after.parent item = some .tile ∨
    ∃ container, after.browseFields = some container ∧
      after.parent item = some (.container container) ∧ item ∈ Field.listing game after.tile
  comes : ∀ item, op.item = some item → after.tile.Holds item → after.parent item = some .tile

theorem browsing_apply (browsing : Browsing game field) {op : BrowseOp}
    (legal : op.Legal game field) (steady : Steady game field op) :
    Browsing game (op.apply game field) := by
  have stacked := browsing.stacked
  cases op with
  | addThing thing =>
    have after : Stacked game (field.addThing game thing).tile := by
      rw [addThing_tile]
      exact (step_kept stacked legal.1).1
    cases thing with
    | creature address =>
      exact browsing.upkeep (.of_tile rfl rfl fun _ _ => rfl) after
    | item address =>
      exact browsing.upkeep (addThing_upkeep stacked legal.1 legal.2 steady) after
  | updateThing thing itemId count =>
    have after : Stacked game (field.updateThing game thing itemId count).tile := by
      rw [updateThing_tile]
      exact (@step_kept _ _ stacked (.updateThing thing itemId count) legal).1
    refine browsing.upkeep (updateThing_upkeep stacked fun isRegistered address same => ?_) after
    subst same
    exact steady isRegistered
  | replaceThing index address =>
    have after : Stacked game (field.replaceThing game index address).tile := by
      rw [replaceThing_tile]
      exact (@step_kept _ _ stacked (.replaceThing index address) legal).1
    exact browsing.upkeep (replaceThing_upkeep stacked legal.1 steady) after
  | removeThing thing count =>
    have after : Stacked game (field.removeThing game thing count).tile := by
      rw [removeThing_tile]
      exact (@step_kept _ _ stacked (.removeThing thing count) trivial).1
    exact browsing.upkeep (removeThing_upkeep stacked.placed thing count) after
  | elsewhere address item =>
    refine browsing.upkeep (.of_tile rfl rfl fun other member => ?_)
      (@step_kept _ _ stacked (.elsewhere address item) legal).1
    have apart : other ≠ address := fun same => legal.not_holds (same ▸ .inr member)
    exact congrArg (TileItem.isBrowsed game) (update_of_ne apart ..)
  | playerBrowseField player => exact browsing.playerBrowseField player
  | playerMoveUpContainer player cid =>
    obtain ⟨made, isRegistered⟩ := browsing.browseContainer
    exact made.addContainer isRegistered player cid
  | addOther player cid => exact (browsing.dropWindow player cid).setOthers _
  | closeContainer player cid => exact (browsing.dropWindow player cid).setOthers _
  | decreaseBrowseFieldRef => exact browsing.decreaseBrowseFieldRef legal

theorem onUpdateTileItem_parent_self {container item : Nat}
    (watched : (field.tile.stored item).isWatched game)
    (isRegistered : field.browseFields = some container) (listed : field.lists container item) :
    (field.onUpdateTileItem game item item).parent item = some .tile := by
  unfold Field.onUpdateTileItem
  rw [if_pos watched]
  split
  · rename_i other isOther
    obtain rfl := Option.some.inj (isRegistered.symm.trans isOther)
    rw [if_pos listed]
    exact update_self ..
  · rename_i free
    rw [isRegistered] at free
    cases free

theorem parent_updateThing (browsing : Browsing game field) {address : Nat} {itemId count : UInt16}
    (alike : field.browseFields.isSome → ListedAlike game field.tile address itemId count)
    (held : (field.updateThing game (.item address) itemId count).tile.Holds address) :
    (field.updateThing game (.item address) itemId count).parent address = some .tile := by
  unfold Field.updateThing at held ⊢
  split
  · rename_i missing
    rw [if_pos missing] at held
    rcases browsing.shown.parents address held with isTile | ⟨_, _, _, listed⟩
    · exact isTile
    · have member := (mem_listing.mp listed).1
      rw [items_eq, List.mem_append] at member
      exact absurd missing ((getThingIndex_ne browsing.stacked _).mpr
        (mem_things_item.mpr (.inr member.symm)))
  · rename_i there
    have heldBefore : field.tile.Holds address := holds_of_getThingIndex there
    rcases browsing.shown.parents address heldBefore with
      isTile | ⟨container, isRegistered, -, listed⟩
    · rcases @onUpdateTileItem_parent game
        { field with tile := field.tile.updateThing game (.item address) itemId count } address
          address address with same | ⟨-, changed⟩ | ⟨-, notNew⟩
      · exact same.trans isTile
      · exact changed
      · exact absurd rfl notNew
    · obtain ⟨browse, isThere, -⟩ := browsing.registered.counted container isRegistered
      have browsed : ((field.tile.updateThing game (.item address) itemId count).stored
          address).isBrowsed game := by
        rw [alike (by rw [isRegistered]; rfl)]
        exact (mem_listing.mp listed).2
      refine onUpdateTileItem_parent_self (TileItem.isWatched_of_isBrowsed browsed) isRegistered ?_
      change (field.containers container).any (fun browse => decide (address ∈ browse.itemlist)) = _
      rw [isThere, Option.any_some, browsing.shown.listed container browse isThere]
      exact decide_eq_true listed

theorem parent_of_absent {address : Nat} (absent : Absent field.tile address)
    (upkeep : Upkeep game field after) (held : after.tile.Holds address) :
    after.parent address = some .tile := by
  rcases upkeep.parents address held with isTile | ⟨heldBefore, -⟩
  · exact isTile
  · exact absurd heldBefore absent.not_holds

theorem mirrored_apply (browsing : Browsing game field) {op : BrowseOp}
    (legal : op.Legal game field) (steady : Steady game field op) :
    Mirrored game field op (op.apply game field) := by
  have after := browsing_apply browsing legal steady
  refine ⟨after.shown.listed, nodup_listing after.stacked.placed, after.registered.only,
    fun container isRegistered => ?_, ⟨fun isSome => ?_, fun positive => ?_⟩, after.shown.parents,
    fun item isItem held => ?_⟩
  · obtain ⟨browse, there, -⟩ := after.registered.counted container isRegistered
    rw [there]
    rfl
  · have positive := after.registered.referred isSome
    by_cases noWindow : (op.apply game field).windows = []
    · rw [noWindow, List.length_nil] at positive
      exact .inr (by omega)
    · exact .inl noWindow
  · by_contra free
    have free := Option.not_isSome_iff_eq_none.mp free
    rcases positive with window | called
    · obtain ⟨first, rest, windows⟩ := List.exists_cons_of_ne_nil window
      have isRegistered := after.registered.shown first (windows ▸ List.mem_cons_self)
      rw [free] at isRegistered
      cases isRegistered
    · have idle := after.registered.idle free
      omega
  · cases op with
    | addThing thing =>
      cases thing with
      | creature address => cases isItem
      | item address =>
        obtain rfl := Option.some.inj isItem
        exact parent_of_absent legal.1
          (addThing_upkeep browsing.stacked legal.1 legal.2 steady) held
    | updateThing thing itemId count =>
      cases thing with
      | creature address => cases isItem
      | item address =>
        obtain rfl := Option.some.inj isItem
        exact parent_updateThing browsing steady held
    | replaceThing index address =>
      obtain rfl := Option.some.inj isItem
      exact parent_of_absent legal.1 (replaceThing_upkeep browsing.stacked legal.1 steady) held
    | removeThing _ _ => cases isItem
    | elsewhere _ _ => cases isItem
    | playerBrowseField _ => cases isItem
    | playerMoveUpContainer _ _ => cases isItem
    | addOther _ _ => cases isItem
    | closeContainer _ _ => cases isItem
    | decreaseBrowseFieldRef => cases isItem

/-- Items of type 1 can be moved, others not. -/
def shed : Items.Game where
  items id := { id := id, moveable := id = 1 }
  uniqueItems _ := false

/-- A tile without things, whose items will be of type 1. -/
def corner : Field where
  tile := { stored := fun _ => { item := { id := 1 } } }
  position := ⟨100, 100, 7⟩

theorem browsing_corner : Browsing shed corner where
  stacked := empty_stacked _ 0
  registered :=
    { only := fun _ _ there => (by cases there)
      counted := fun _ isRegistered => (by cases isRegistered)
      shown := fun _ member => (by cases member)
      referred := fun isSome => (by cases isSome)
      idle := fun _ => rfl }
  shown :=
    { listed := fun _ _ there => (by cases there)
      parents := fun _ held => held.elim (fun isGround => (by cases isGround))
        fun member => (by cases member) }

end Otserv.TileStack
