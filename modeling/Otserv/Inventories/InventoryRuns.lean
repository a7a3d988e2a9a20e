import Otserv.Inventories.WornBalls

/-!
# Runs of what is done to an inventory

When the inventory is loaded, every pokeball there is a row of gets into the list, and a row gets
into the inventory when it lands: in a slot that no row before it has taken, or in the container
of a row that lands (`Player.Lands`). With that, the list of a player is exact after each
operation of a run exactly when every operation keeps to what the list is changed by
(`pokeballs_exact_iff`).
-/

namespace Otserv.Inventories

open Foundation
open Function (update update_of_ne update_self)
open Containers (Heap)
open Containers.Heap (Brings isBall isBall_congr)
open Items (Game Item)

namespace Player

/-! ## Loading -/

/-- A row whose item gets into the inventory. -/
inductive Lands (heap : Heap) (rows : List Row) : Row → Prop
  | slot {row : Row} : row ∈ rows → row.inSlot →
      (∀ other ∈ rows, other.pid = row.pid → other.sid ≤ row.sid) → Lands heap rows row
  | inside {row above : Row} : row ∈ rows → ¬ row.inSlot → above ∈ rows → above.sid = row.pid →
      heap.isContainer above.item → Lands heap rows above → Lands heap rows row

/-- The container that the item of a row is put into. -/
def target (heap : Heap) (rows : List Row) (row : Row) : Option Nat :=
  if row.inSlot then none
  else
    match rows.find? fun other => other.sid = row.pid with
    | none => none
    | some above => if heap.isContainer above.item then some above.item else none

/-- The row that has got a slot. -/
def slotRow (rows : List Row) (slot : Nat) : Option Row :=
  rows.find? fun row => row.inSlot ∧ row.pid.toNat = slot

section Loading

variable {game : Game} {start : Player} {rows : List Row}

namespace Saved

variable (saved : start.Saved rows)
include saved

theorem eq_of_item {first second : Row} (isFirst : first ∈ rows) (isSecond : second ∈ rows)
    (same : first.item = second.item) : first = second :=
  List.inj_on_of_nodup_map saved.distinct isFirst isSecond same

theorem eq_of_sid {first second : Row} (isFirst : first ∈ rows) (isSecond : second ∈ rows)
    (same : first.sid = second.sid) : first = second := by
  have distinct : (rows.map Row.sid).Nodup := by
    refine List.pairwise_map.mpr (saved.descending.imp fun {first second} lower same => ?_)
    rw [same] at lower
    exact UInt32.lt_irrefl _ lower
  exact List.inj_on_of_nodup_map distinct isFirst isSecond same

/-- The row of a container is found by its number. -/
theorem find_sid {row above : Row} (isThere : above ∈ rows) (same : above.sid = row.pid) :
    (rows.find? fun other => other.sid = row.pid) = some above := by
  cases found : rows.find? fun other => other.sid = row.pid with
  | none =>
    have nowhere := List.find?_eq_none.mp found above isThere
    rw [decide_eq_true_eq] at nowhere
    exact absurd same nowhere
  | some other =>
    have isIt := List.find?_some found
    rw [decide_eq_true_eq] at isIt
    rw [saved.eq_of_sid (List.mem_of_find?_eq_some found) isThere (isIt.trans same.symm)]

theorem slotRow_eq_some {row : Row} {slot : Nat} :
    slotRow rows slot = some row ↔ row ∈ rows ∧ row.inSlot ∧ row.pid.toNat = slot ∧
      ∀ other ∈ rows, other.pid = row.pid → other.sid ≤ row.sid := by
  constructor
  · intro found
    have isIt := List.find?_some found
    rw [decide_eq_true_eq] at isIt
    obtain ⟨-, before, behind, split, others⟩ := List.find?_eq_some_iff_append.mp found
    refine ⟨List.mem_of_find?_eq_some found, isIt.1, isIt.2, fun other isThere same => ?_⟩
    have descending := saved.descending
    rw [split] at isThere descending
    rcases List.mem_append.mp isThere with isBefore | isBehind
    · have skipped := others other isBefore
      rw [Bool.not_eq_true', decide_eq_false_iff_not, Row.inSlot, same] at skipped
      exact absurd isIt skipped
    · rcases List.mem_cons.mp isBehind with rfl | further
      · exact UInt32.le_refl _
      · have lower := (List.pairwise_append.mp descending).2.1
        exact UInt32.le_of_lt (List.rel_of_pairwise_cons lower further)
  · rintro ⟨isThere, inSlot, same, highest⟩
    cases found : slotRow rows slot with
    | none =>
      have nowhere := List.find?_eq_none.mp found row isThere
      rw [decide_eq_true_eq] at nowhere
      exact absurd ⟨inSlot, same⟩ nowhere
    | some first =>
      have isIt := List.find?_some found
      rw [decide_eq_true_eq] at isIt
      obtain ⟨-, before, behind, split, others⟩ := List.find?_eq_some_iff_append.mp found
      have samePid : first.pid = row.pid := UInt32.toNat_inj.mp (isIt.2.trans same.symm)
      have atMost := highest first (List.mem_of_find?_eq_some found) samePid
      have descending := saved.descending
      rw [split] at isThere descending
      rcases List.mem_append.mp isThere with isBefore | isBehind
      · have skipped := others row isBefore
        rw [Bool.not_eq_true', decide_eq_false_iff_not] at skipped
        exact absurd ⟨inSlot, same⟩ skipped
      · rcases List.mem_cons.mp isBehind with rfl | further
        · rfl
        · have lower := List.rel_of_pairwise_cons (List.pairwise_append.mp descending).2.1 further
          exact absurd atMost (UInt32.not_le.mpr lower)

end Saved

/-- The pokeballs there are rows of. -/
def rowBalls (game : Game) (heap : Heap) (rows : List Row) : List Nat :=
  (rows.map Row.item).filter fun item => heap.isBall game item

theorem rowBalls_concat (game : Game) (heap : Heap) (done : List Row) (row : Row) :
    rowBalls game heap (done ++ [row]) =
      rowBalls game heap done ++ if heap.isBall game row.item then [row.item] else [] := by
  rw [rowBalls, List.map_append, List.filter_append, List.map_singleton, List.filter_singleton,
    cond_eq_ite]
  simp only [decide_eq_true_eq]
  rfl

theorem slotRow_concat (done : List Row) (row : Row) (slot : Nat) :
    slotRow (done ++ [row]) slot =
      (slotRow done slot).or (if row.inSlot ∧ row.pid.toNat = slot then some row else none) := by
  simp only [slotRow, List.find?_append, List.find?_singleton, decide_eq_true_eq]

/-- What the loop has done after some of the rows. -/
structure Loaded (game : Game) (start : Player) (rows done : List Row) (player : Player) :
    Prop where
  dressed : player.Dressed
  live : player.heap.live = start.heap.live
  items : player.heap.item = start.heap.item
  isContainer : player.heap.isContainer = start.heap.isContainer
  skips : player.heap.skips = start.heap.skips
  hung : ∀ row ∈ done, player.heap.parent row.item = target start.heap rows row
  others : ∀ node, (∀ row ∈ done, row.item ≠ node) →
    player.heap.parent node = start.heap.parent node
  inventory : ∀ slot, player.inventory slot = (slotRow done slot).map Row.item
  pokeballs : player.pokeballs = rowBalls game start.heap done

namespace Loaded

variable {player : Player} {done : List Row} (loaded : Loaded game start rows done player)
include loaded

theorem worn_of {item : Nat} (isWorn : player.worn item) : ∃ row ∈ done, row.item = item := by
  obtain ⟨slot, isIn⟩ := isWorn
  rw [loaded.inventory, Option.mem_def, Option.map_eq_some_iff] at isIn
  obtain ⟨row, found, same⟩ := isIn
  exact ⟨row, List.mem_of_find?_eq_some found, same⟩

section Turn

variable (saved : start.Saved rows) {row : Row} {rest : List Row}
  (split : rows = done ++ row :: rest)
include saved split

omit loaded in
theorem higher {other : Row} (isThere : other ∈ done) : row.sid < other.sid := by
  have descending := saved.descending
  rw [split] at descending
  exact (List.pairwise_append.mp descending).2.2 other isThere row List.mem_cons_self

omit loaded saved in
theorem isRow : row ∈ rows ∧ ∀ other ∈ done, other ∈ rows :=
  split ▸ ⟨done.mem_append_right List.mem_cons_self, fun _ => List.mem_append_left _⟩

omit loaded in
theorem fresh {other : Row} (isThere : other ∈ done) : other.item ≠ row.item := by
  obtain ⟨isRow, isDone⟩ := isRow split
  intro same
  have lower := higher saved split isThere
  rw [saved.eq_of_item (isDone other isThere) isRow same] at lower
  exact UInt32.lt_irrefl _ lower

/-- The item of a row still lies nowhere at its turn. -/
theorem spare : player.Spare row.item := by
  have spare := saved.spare row (isRow split).1
  refine ⟨?_, ?_, ?_⟩
  · exact (loaded.others row.item fun other => fresh saved split).trans spare.loose
  · rw [Bool.eq_false_iff]
    intro isParent
    obtain ⟨other, isThere, same⟩ :=
      loaded.worn_of ((loaded.dressed.parented_iff row.item).mp isParent)
    exact fresh saved split isThere same
  · rw [loaded.skips]
    exact spare.plain

theorem hung_concat (noTarget : target start.heap rows row = none) (other : Row)
    (isThere : other ∈ done ++ [row]) :
    player.heap.parent other.item = target start.heap rows other := by
  rcases List.mem_append.mp isThere with isBefore | isIt
  · exact loaded.hung other isBefore
  · rw [List.mem_singleton.mp isIt, noTarget]
    exact (loaded.spare saved split).loose

omit saved split in
theorem others_concat (node : Nat) (apart : ∀ other ∈ done ++ [row], other.item ≠ node) :
    player.heap.parent node = start.heap.parent node :=
  loaded.others node fun other isThere => apart other (List.mem_append_left _ isThere)

/-- The item gets nowhere. -/
theorem pass (noTarget : target start.heap rows row = none)
    (sameSlots : ∀ slot, slotRow (done ++ [row]) slot = slotRow done slot) :
    Loaded game start rows (done ++ [row])
      { player with pokeballs := rowBalls game start.heap (done ++ [row]) } where
  dressed := loaded.dressed.of_heap _ loaded.dressed.formed loaded.dressed.loose rfl
  live := loaded.live
  items := loaded.items
  isContainer := loaded.isContainer
  skips := loaded.skips
  hung := loaded.hung_concat saved split noTarget
  others := loaded.others_concat
  inventory := by
    intro slot
    rw [sameSlots]
    exact loaded.inventory slot
  pokeballs := rfl

theorem dress (inSlot : row.inSlot) (free : slotRow done row.pid.toNat = none) :
    Loaded game start rows (done ++ [row])
      { player with
        parented := update player.parented row.item true
        inventory := update player.inventory row.pid.toNat (some row.item)
        pokeballs := rowBalls game start.heap (done ++ [row]) } := by
  have noTarget : target start.heap rows row = none := if_pos inSlot
  have empty (other : Nat) : other ∉ player.inventory row.pid.toNat := by
    rw [loaded.inventory, free]
    exact Option.not_mem_none other
  have parented_iff (other : Nat) :
      update player.parented row.item true other = true ↔
        player.worn other ∧ other ∉ player.inventory row.pid.toNat ∨ other = row.item := by
    by_cases here : other = row.item
    · rw [here, update_self]
      exact iff_of_true rfl (.inr rfl)
    · rw [update_of_ne here, loaded.dressed.parented_iff, or_iff_left here,
        and_iff_left (empty other)]
  have putOn := (loaded.dressed.put (loaded.spare saved split) inSlot parented_iff).1
  refine ⟨putOn.of_heap _ loaded.dressed.formed putOn.loose rfl, loaded.live, loaded.items,
    loaded.isContainer, loaded.skips, loaded.hung_concat saved split noTarget,
    loaded.others_concat, fun slot => ?_, rfl⟩
  show update player.inventory row.pid.toNat (some row.item) slot = _
  rw [slotRow_concat]
  by_cases here : slot = row.pid.toNat
  · rw [here, update_self, free, if_pos ⟨inSlot, rfl⟩]
    rfl
  · rw [update_of_ne here, if_neg fun both => here both.2.symm, Option.or_none]
    exact loaded.inventory slot

theorem stow (apart : ¬ row.inSlot) {above : Row}
    (found : (rows.find? fun other => other.sid = row.pid) = some above)
    (container : player.heap.isContainer above.item) :
    Loaded game start rows (done ++ [row])
      { player with
        heap := player.heap.internalAddThing game above.item row.item
        pokeballs := rowBalls game start.heap (done ++ [row]) } := by
  have isRow := (isRow split).1
  have isThere := List.mem_of_find?_eq_some found
  have spare := loaded.spare saved split
  have lower : above.sid < row.sid := by
    have isIt := List.find?_some found
    rw [decide_eq_true_eq] at isIt
    rw [isIt]
    exact saved.numbered row isRow
  -- the container is of a row still to come, so it lies nowhere yet
  have isRoot : player.heap.parent above.item = none := by
    rw [loaded.others above.item fun other isBefore same => ?_]
    · exact (saved.spare above isThere).loose
    · rw [saved.eq_of_item ((Loaded.isRow split).2 other isBefore) isThere same] at isBefore
      exact UInt32.lt_asymm lower (higher saved split isBefore)
  have notAbove : ¬ Within player.heap.parent above.item row.item := by
    rw [within_root isRoot]
    intro same
    rw [saved.eq_of_item isRow isThere same] at lower
    exact UInt32.lt_irrefl _ lower
  have fits : player.heap.Fits above.item row.item :=
    { container := container
      present := loaded.live ▸ saved.present above isThere
      itemPresent := loaded.live ▸ saved.present row isRow
      loose := spare.loose
      apart := notAbove }
  have tree := @Heap.tree_internalAddThing game _ _ container row.item
  have parent : (player.heap.internalAddThing game above.item row.item).parent =
      update player.heap.parent row.item (some above.item) :=
    congrArg Containers.Tree.parent tree
  have formed : (player.heap.internalAddThing game above.item row.item).Formed :=
    @Containers.step_formed game _ loaded.dressed.formed
      (.internalAddThing above.item row.item) fits
  have entered (list : List Nat) := (loaded.dressed.enter fits spare.unworn list formed parent
    (congrArg Containers.Tree.skips tree)).1
  refine ⟨entered _, (congrArg Containers.Tree.live tree).trans loaded.live,
    (congrArg Containers.Tree.item tree).trans loaded.items,
    (congrArg Containers.Tree.isContainer tree).trans loaded.isContainer,
    (congrArg Containers.Tree.skips tree).trans loaded.skips, ?_, ?_, ?_, rfl⟩
  · intro other isListed
    rw [parent]
    rcases List.mem_append.mp isListed with isBefore | isIt
    · rw [update_of_ne (fresh saved split isBefore)]
      exact loaded.hung other isBefore
    · rw [List.mem_singleton.mp isIt, update_self, target, if_neg apart, found]
      rw [loaded.isContainer] at container
      exact (if_pos container).symm
  · intro node away
    have different : node ≠ row.item := fun same =>
      away row (List.mem_append_right _ List.mem_cons_self) same.symm
    rw [parent, update_of_ne different]
    exact loaded.others_concat node away
  · intro slot
    rw [slotRow_concat, if_neg fun both => apart both.1, Option.or_none]
    exact loaded.inventory slot

/-- **A turn of the loop.** -/
theorem loadRow : Loaded game start rows (done ++ [row]) (player.loadRow game rows row) := by
  have listed : (if (player.heap.item row.item).isPokeballItem game then
      player.insertPokeball row.item else player) =
      { player with pokeballs := rowBalls game start.heap (done ++ [row]) } := by
    have same : (player.heap.item row.item).isPokeballItem game ↔
        start.heap.isBall game row.item := by
      rw [loaded.items]
      rfl
    rw [rowBalls_concat, ← loaded.pokeballs]
    by_cases itself : start.heap.isBall game row.item
    · rw [if_pos (same.mpr itself), if_pos itself]
      rfl
    · rw [if_neg (mt same.mp itself), if_neg itself, List.append_nil]
  rw [Player.loadRow, listed]
  by_cases inSlot : row.inSlot
  · have noTarget : target start.heap rows row = none := if_pos inSlot
    have inRange : 0 < row.pid.toNat ∧ row.pid.toNat ≤ CONST_SLOT_LAST := inSlot
    rw [if_pos inSlot, internalAddThing, if_pos inRange]
    have slots := loaded.inventory row.pid.toNat
    cases taken : slotRow done row.pid.toNat with
    | some other =>
      rw [taken, Option.map_some] at slots
      simp only [slots]
      refine loaded.pass saved split noTarget fun slot => ?_
      by_cases here : slot = row.pid.toNat
      · rw [here, slotRow_concat, taken]
        rfl
      · rw [slotRow_concat, if_neg fun both => here both.2.symm, Option.or_none]
    | none =>
      rw [taken, Option.map_none] at slots
      simp only [slots, setSlot, adopt]
      rw [setParent_loose (loaded.spare saved split).loose]
      exact loaded.dress saved split inSlot taken
  · rw [if_neg inSlot]
    have sameSlots (slot : Nat) : slotRow (done ++ [row]) slot = slotRow done slot := by
      rw [slotRow_concat, if_neg fun both => inSlot both.1, Option.or_none]
    cases found : rows.find? fun other => other.sid = row.pid with
    | none =>
      refine loaded.pass saved split ?_ sameSlots
      rw [target, if_neg inSlot, found]
    | some above =>
      simp only []
      by_cases container : player.heap.isContainer above.item
      · rw [if_pos container]
        exact loaded.stow saved split inSlot found container
      · rw [if_neg container]
        refine loaded.pass saved split ?_ sameSlots
        rw [loaded.isContainer] at container
        rw [target, if_neg inSlot, found]
        exact if_neg container

end Turn

/-- The loop over the rows that are left. -/
theorem foldl (saved : start.Saved rows) {rest : List Row} (split : rows = done ++ rest) :
    Loaded game start rows rows (rest.foldl (Player.loadRow game rows) player) := by
  induction rest generalizing done player with
  | nil =>
    rw [List.append_nil] at split
    rw [split]
    rwa [split] at loaded
  | cons row rest ih =>
    have next : rows = done ++ [row] ++ rest := by
      rw [split, List.append_assoc, List.singleton_append]
    exact ih (loaded.loadRow saved split) next

omit loaded in
/-- **What is held after the loading** is the items of the rows that land. -/
theorem holds_iff (loaded : Loaded game start rows rows player) (saved : start.Saved rows)
    (formed : start.heap.Formed) (item : Nat) :
    player.holds item ↔ ∃ row ∈ rows, row.item = item ∧ Lands start.heap rows row := by
  constructor
  · rintro ⟨root, isWorn, within⟩
    induction within using Relation.ReflTransGen.head_induction_on with
    | refl =>
      obtain ⟨slot, isIn⟩ := isWorn
      rw [loaded.inventory, Option.mem_def, Option.map_eq_some_iff] at isIn
      obtain ⟨row, found, same⟩ := isIn
      obtain ⟨isRow, inSlot, -, highest⟩ := saved.slotRow_eq_some.mp found
      exact ⟨row, isRow, same, .slot isRow inSlot highest⟩
    | @head below next isParent _ ih =>
      obtain ⟨above, isAbove, same, lands⟩ := ih
      by_cases isItem : ∃ row ∈ rows, row.item = below
      · obtain ⟨row, isRow, rfl⟩ := isItem
        rw [Above, loaded.hung row isRow, target] at isParent
        split_ifs at isParent with inSlot
        · cases isParent
        · cases found : rows.find? fun other => other.sid = row.pid with
          | none =>
            rw [found] at isParent
            cases isParent
          | some other =>
            rw [found] at isParent
            simp only [] at isParent
            split_ifs at isParent with container
            · rw [Option.mem_some_iff] at isParent
              have isOther := List.mem_of_find?_eq_some found
              have isIt := List.find?_some found
              rw [decide_eq_true_eq] at isIt
              rw [saved.eq_of_item isAbove isOther (same.trans isParent.symm)] at lands
              exact ⟨row, isRow, rfl, .inside isRow inSlot isOther isIt container lands⟩
            · cases isParent
      · -- nothing lay in the new items before
        have wasParent : next ∈ start.heap.parent below := by
          have same := loaded.others below fun row isRow isIt => isItem ⟨row, isRow, isIt⟩
          rwa [Above, same] at isParent
        have member := formed.mem_iff.mpr wasParent
        rw [← same, saved.empty above isAbove] at member
        cases member
  · rintro ⟨row, -, rfl, lands⟩
    induction lands with
    | @slot row isRow inSlot highest =>
      have found := saved.slotRow_eq_some.mpr ⟨isRow, inSlot, rfl, highest⟩
      refine ⟨row.item, ⟨row.pid.toNat, ?_⟩, .refl⟩
      rw [loaded.inventory, found]
      rfl
    | @inside row above isRow apart isAbove same container _ ih =>
      obtain ⟨root, isWorn, within⟩ := ih
      refine ⟨root, isWorn, .head ?_ within⟩
      rw [Above, loaded.hung row isRow, target, if_neg apart, saved.find_sid isAbove same]
      exact if_pos container

end Loaded

end Loading

/-- **Loading** makes the list exact exactly when every pokeball lands. -/
theorem exact_load_iff {game : Game} {player : Player} {rows : List Row} (dressed : player.Dressed)
    (saved : player.Saved rows) (bare : ∀ slot, player.inventory slot = none)
    (unlisted : player.pokeballs = []) :
    (player.load game rows).Dressed ∧ ((player.load game rows).Exact game ↔
      ∀ row ∈ rows, player.heap.isBall game row.item → Lands player.heap rows row) := by
  have initial : Loaded game player rows [] player :=
    { dressed := dressed
      live := rfl
      items := rfl
      isContainer := rfl
      skips := rfl
      hung := fun row isRow => nomatch isRow
      others := fun _ _ => rfl
      inventory := bare
      pokeballs := unlisted }
  have loaded : Loaded game player rows rows (player.load game rows) := initial.foldl saved rfl
  refine ⟨loaded.dressed, ?_⟩
  have listed (ball : Nat) : ball ∈ rowBalls game player.heap rows ↔
      player.heap.isBall game ball ∧ ∃ row ∈ rows, row.item = ball := by
    rw [rowBalls, List.mem_filter, List.mem_map, decide_eq_true_eq, and_comm]
  rw [Exact, Tells, loaded.pokeballs, isBall_congr loaded.items]
  constructor
  · rintro ⟨-, mem⟩ row isRow isBall
    obtain ⟨-, held⟩ := (mem row.item).mp ((listed row.item).mpr ⟨isBall, row, isRow, rfl⟩)
    obtain ⟨other, isOther, same, lands⟩ := (loaded.holds_iff saved dressed.formed _).mp held
    rwa [saved.eq_of_item isOther isRow same] at lands
  · intro land
    refine ⟨saved.distinct.filter _, fun ball => ?_⟩
    rw [listed, loaded.holds_iff saved dressed.formed]
    constructor
    · rintro ⟨isBall, row, isRow, rfl⟩
      exact ⟨isBall, row, isRow, rfl, land row isRow isBall⟩
    · rintro ⟨isBall, row, isRow, same, -⟩
      exact ⟨isBall, row, isRow, same⟩

end Player

open Player

/-! ## Runs -/

/-- What an operation has to keep to for the list to stay exact. -/
def KeepsList (game : Game) (player : Player) : InventoryOp → Prop
  | .addThing index item => index.toInt < CONST_SLOT_FIRST ∨ index.toInt > CONST_SLOT_LAST ∨
      ∀ ball, ¬ player.heap.Brings game item ball
  | .replaceThing index item => ∀ oldItem ∈ player.inventory index.toNat,
      (∀ ball, ¬ player.heap.Brings game item ball) ∧
        ∀ ball, ¬ player.heap.Brings game oldItem ball
  | .removeThing item count => player.worn item → ¬ player.heap.takesPart game item count →
      ∀ ball, ¬ player.heap.Brings game item ball
  | .containerAddThing pointer index item =>
    index ≥ (player.heap.capacity pointer).toInt32 ∨ (player.holds pointer →
      Tells (player.heap.cached game item) (player.heap.Brings game item))
  | .containerAddItemBack pointer item =>
    player.holds pointer → ∀ ball, ¬ player.heap.Brings game item ball
  | .containerReplaceThing pointer index item =>
    ∀ replacedItem ∈ (player.heap.itemlist pointer)[index.toNat]?, player.holds pointer →
      (∀ ball, ¬ player.heap.Brings game item ball) ∧
        ∀ ball, ¬ player.heap.Brings game replacedItem ball
  | .containerRemoveThing pointer item count =>
    item ∈ player.heap.itemlist pointer → ¬ player.heap.takesPart game item count →
      player.holds pointer → ∀ ball, player.heap.isBall game ball → player.holds ball →
        (ball ∈ player.heap.cached game item ↔ Within player.heap.parent ball item)
  | .load rows =>
    ∀ row ∈ rows, player.heap.isBall game row.item → Lands player.heap rows row

/-- **One operation** keeps the list exact exactly when it keeps to that. -/
theorem exact_step_iff {game : Game} {player : Player} (dressed : player.Dressed)
    (exactly : player.Exact game) {op : InventoryOp} (isLegal : legal player op) :
    (step game player op).Dressed ∧
      ((step game player op).Exact game ↔ KeepsList game player op) := by
  cases op with
  | addThing index item => exact exact_addThing_iff dressed exactly isLegal.1 isLegal.2
  | replaceThing index item => exact exact_replaceThing_iff dressed exactly isLegal index
  | removeThing item count => exact exact_removeThing_iff dressed exactly item count
  | containerAddThing pointer index item =>
    exact exact_containerAddThing_iff dressed exactly isLegal.1 isLegal.2 index
  | containerAddItemBack pointer item =>
    exact exact_containerAddItemBack_iff dressed exactly isLegal.1 isLegal.2
  | containerReplaceThing pointer index item =>
    exact exact_containerReplaceThing_iff dressed exactly isLegal.1 isLegal.2 index
  | containerRemoveThing pointer item count =>
    exact exact_containerRemoveThing_iff dressed exactly isLegal.1 isLegal.2 count
  | load rows => exact exact_load_iff dressed isLegal.1 isLegal.2.1 isLegal.2.2

/-- **Exactly when the list of pokeballs stays exact.** -/
theorem pokeballs_exact_iff (game : Game) {start : Player} {ops : List InventoryOp}
    (dressed : start.Dressed) (exactly : start.Exact game)
    (isLegal : (system game).Legal start ops) :
    (system game).Throughout (fun _ _ after => after.Exact game) start ops ↔
      (system game).Throughout (fun before op _ => KeepsList game before op) start ops := by
  have step : ∀ (before : Player) (op : InventoryOp), before.Dressed ∧ before.Exact game →
      legal before op → ((step game before op).Exact game ↔ KeepsList game before op) ∧
        ((step game before op).Exact game → (step game before op).Dressed ∧
          (step game before op).Exact game) := by
    rintro before op ⟨dressed, exactly⟩ isLegal
    obtain ⟨after, kept⟩ := exact_step_iff dressed exactly isLegal
    exact ⟨kept, fun isExact => ⟨after, isExact⟩⟩
  exact System.Throughout.iff_of_invariant step ⟨dressed, exactly⟩ isLegal

/-! ## A pokeball in a bag and one in a hand -/

section Bare

open Containers (scales locker locker_untouched locker_live)

/-- A player with nothing, where there are a locker (0), a bag (1) and a pokeball (2). -/
def bare : Player := { heap := locker .container }

theorem bare_dressed : bare.Dressed where
  formed := (locker_untouched .container).formed
  slots := fun isIn => nomatch isIn
  single := fun isIn => nomatch isIn
  parented_iff := fun _ => iff_of_false Bool.false_ne_true fun isWorn => nomatch isWorn
  loose := fun _ isWorn => nomatch isWorn
  plain := fun _ isWorn => nomatch isWorn

theorem bare_exact : bare.Exact scales :=
  ⟨List.nodup_nil, fun _ => iff_of_false List.not_mem_nil fun held => nomatch held.2⟩

theorem bare_spare (item : Nat) : bare.Spare item where
  loose := rfl
  unworn := rfl
  plain := match item with | 0 => rfl | 1 => rfl | _ + 2 => rfl

theorem bare_brings_iff (item ball : Nat) :
    bare.heap.Brings scales item ball ↔ item = 2 ∧ ball = 2 := by
  have isBall : bare.heap.isBall scales ball ↔ ball = 2 := by
    by_cases here : ball = 2
    · subst here
      decide
    · have isOther : (bare.heap.item ball).id = 1 := if_neg here
      rw [Heap.isBall, Item.isPokeballItem, isOther]
      exact iff_of_false (by decide) here
  rw [Brings, Marked, isBall, within_root rfl]
  constructor
  · rintro ⟨isIt, same⟩
    exact ⟨same.trans isIt, isIt⟩
  · rintro ⟨isItem, isIt⟩
    exact ⟨isIt, isItem.trans isIt.symm⟩

/-- A pokeball in a hand is not listed. -/
theorem ball_in_hand_unlisted :
    ¬ ∀ (game : Game) (start : Player) (ops : List InventoryOp), start.Dressed →
      start.Exact game → (system game).Legal start ops →
        (system game).Throughout (fun _ _ after => after.Exact game) start ops := by
  intro always
  have isLegal : (system scales).Legal bare [.addThing 6 2] := ⟨⟨bare_spare 2, rfl⟩, trivial⟩
  have listed := (always scales bare [.addThing 6 2] bare_dressed bare_exact isLegal).1.2 2
  have held : (step scales bare (.addThing 6 2)).holds 2 := ⟨2, ⟨6, rfl⟩, .refl⟩
  exact List.not_mem_nil (listed.mpr ⟨by decide, held⟩)

/-- With the bag on the back. -/
def packed : Player :=
  { bare with
    parented := update bare.parented 1 true
    inventory := update bare.inventory 3 (some 1) }

theorem step_bare : step scales bare (.addThing 3 1) = packed := by
  rw [step, addThing, if_neg (by decide), adopt, setSlot, setParent_loose rfl]
  rfl

/-- One that is put into a bag on the back is. -/
theorem pokeballs_exact_iff_packed :
    (system scales).Throughout (fun _ _ after => after.Exact scales) bare
      [.addThing 3 1, .containerAddThing 1 0 2] := by
  have fits : packed.heap.Fits 1 2 :=
    { container := rfl
      present := locker_live (by decide)
      itemPresent := locker_live (by decide)
      loose := rfl
      apart := by
        rw [within_root rfl]
        decide }
  have next : (system scales).step bare (.addThing 3 1) = packed := step_bare
  have isLegal : (system scales).Legal bare [.addThing 3 1, .containerAddThing 1 0 2] := by
    refine ⟨⟨bare_spare 1, rfl⟩, ?_, trivial⟩
    rw [next]
    exact ⟨fits, rfl⟩
  refine (pokeballs_exact_iff scales bare_dressed bare_exact isLegal).mpr
    ⟨.inr (.inr fun ball brings => ?_), ?_, trivial⟩
  · exact absurd ((bare_brings_iff 1 ball).mp brings).1 (by decide)
  · rw [next]
    refine .inr fun _ => ⟨List.nodup_singleton 2, fun ball => ?_⟩
    have brings : packed.heap.Brings scales 2 ball ↔ 2 = 2 ∧ ball = 2 := bare_brings_iff 2 ball
    rw [brings, and_iff_right rfl]
    exact List.mem_singleton

end Bare

end Otserv.Inventories
