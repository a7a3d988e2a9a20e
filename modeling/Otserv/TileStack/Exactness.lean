import Otserv.TileStack.Flags

/-!
# When the flags of a tile stay exact

Each operation on a tile takes at most one item off and puts at most one on
(`TileOp.change`, `step_changed`). So the flags stay exact in a sequence of operations
exactly when none forgets a flag that another item justifies, and none brings an item
that justifies the flag that is never set (`runs_exact_iff`).
-/

namespace Otserv.TileStack

open Otserv.Foundation Otserv.Items

variable {game : Game} {tile after : Tile}

/-! ## What is on the tile -/

theorem items_eq (tile : Tile) : tile.items = tile.downItems ++ tile.topItems :=
  (List.take_append_drop _ _).symm

theorem Absent.not_holds {address : Nat} (absent : Absent tile address) : ¬ tile.Holds address := by
  rintro (isGround | member)
  · exact absent (List.mem_append_left _ (Option.mem_toList.mpr isGround))
  · rw [items_eq, List.mem_append] at member
    exact absent (List.mem_append_right _ (List.mem_append.mpr member.symm))

/-- The address of another item is not that of a new one. -/
theorem Absent.ne {address other : Nat} (absent : Absent tile address)
    (holds : tile.Holds other) : address ≠ other := by
  rintro rfl
  exact absent.not_holds holds

theorem holds_of_getThingIndex {address : Nat}
    (found : tile.getThingIndex game (.item address) ≠ -1) : tile.Holds address := by
  by_contra missing
  apply found
  rw [Tile.Holds, items_eq, List.mem_append, not_or, not_or] at missing
  obtain ⟨notGround, notDown, notTop⟩ := missing
  simp [Tile.getThingIndex, notGround, notDown, notTop]

theorem insertDown_changed (tile : Tile) (address : Nat) :
    Changed game tile none (some (tile.stored address)) (tile.insertDown game address) := by
  apply Moved.flagged
  refine ⟨fun other => ?_, rfl, rfl⟩
  simp only [Tile.Holds, List.mem_cons, ne_eq, reduceCtorEq, not_false_eq_true, and_true,
    Option.some.injEq]
  tauto

theorem insertTop_changed (tile : Tile) (address : Nat) (before : Nat → Bool) :
    Changed game tile none (some (tile.stored address)) (tile.insertTop game address before) := by
  apply Moved.flagged
  refine ⟨fun other => ?_, rfl, rfl⟩
  have member := @mem_topWith tile address other before
  simp only [Tile.Holds, List.mem_append, ne_eq, reduceCtorEq, not_false_eq_true, and_true,
    Option.some.injEq, items_eq tile] at member ⊢
  tauto

/-! ## What leaves -/

theorem setItemCount_justifies (item : TileItem) (count : UInt16) (flag : TileFlag) :
    { item with item := item.item.setItemCount count }.justifies game flag =
      item.justifies game flag := by
  cases flag <;> rfl

theorem Placed.apart (placed : Placed tile) {address : Nat} :
    (tile.ground = some address → address ∉ tile.items) ∧
      (address ∈ tile.topItems → address ∉ tile.downItems) := by
  have distinct := List.nodup_append.mp placed.distinct.distinct
  have parts := List.nodup_append.mp distinct.2.1
  constructor
  · intro isGround member
    rw [items_eq, List.mem_append] at member
    exact distinct.2.2 address (Option.mem_toList.mpr isGround) address
      (List.mem_append.mpr member.symm) rfl
  · intro isTop isDown
    exact parts.2.2 address isTop address isDown rfl

theorem removeGround_moved (placed : Placed tile) {address : Nat}
    (isGround : tile.ground = some address) :
    Moved tile (some address) none { tile with ground := none } := by
  refine ⟨fun other => ?_, rfl, rfl⟩
  have apart := placed.apart.1 isGround
  simp only [Tile.Holds, isGround, reduceCtorEq, false_or, or_false, Option.some.injEq, ne_eq]
  constructor
  · intro member
    exact ⟨.inr member, by rintro rfl; exact apart member⟩
  · rintro ⟨rfl | member, different⟩
    · exact absurd rfl different
    · exact member

theorem items_moved {address : Nat} {enters : Option Nat} (notGround : tile.ground ≠ some address)
    {middle : Tile} (ground : middle.ground = tile.ground)
    (items : ∀ other, other ∈ middle.items ↔
      other ∈ tile.items ∧ other ≠ address ∨ enters = some other)
    (stored : middle.stored = tile.stored) (flags : middle.flags = tile.flags) :
    Moved tile (some address) enters middle := by
  refine ⟨fun other => ?_, stored, flags⟩
  simp only [Tile.Holds, ground, items, ne_eq, Option.some.injEq]
  constructor
  · rintro (isGround | ⟨member, different⟩ | enter)
    · exact .inl ⟨.inl isGround, by rintro rfl; exact notGround isGround⟩
    · exact .inl ⟨.inr member, Ne.symm different⟩
    · exact .inr enter
  · rintro (⟨isGround | member, different⟩ | enter)
    · exact .inl isGround
    · exact .inr (.inl ⟨member, Ne.symm different⟩)
    · exact .inr (.inr enter)

theorem mem_without_or {entries others : List Nat} {address : Nat} (apart : address ∉ others)
    (other : Nat) :
    other ∈ entries ∧ other ≠ address ∨ other ∈ others ↔
      (other ∈ entries ∨ other ∈ others) ∧ other ≠ address := by
  constructor
  · rintro (⟨member, different⟩ | member)
    · exact ⟨.inl member, different⟩
    · exact ⟨.inr member, by rintro rfl; exact apart member⟩
  · rintro ⟨member | member, different⟩
    · exact .inl ⟨member, different⟩
    · exact .inr member

theorem removeThing_changed (placed : Placed tile) (thing : Thing) (count : UInt32) :
    Changed game tile (tile.removed game thing count) none
      (tile.removeThing game thing count) ∧
      ∀ address ∈ tile.removed game thing count, tile.Holds address := by
  cases thing with
  | creature address =>
    exact ⟨.nothing (fun _ => .rfl) (fun _ _ _ => rfl) rfl, by simp [Tile.removed]⟩
  | item address =>
    rw [Tile.removeThing, Tile.removed]
    by_cases missing : tile.getThingIndex game (.item address) = -1
    · rw [if_pos missing, if_pos missing]
      exact ⟨.nothing (fun _ => .rfl) (fun _ _ _ => rfl) rfl, by simp⟩
    rw [if_neg missing, if_neg missing]
    by_cases isGround : tile.ground = some address
    · rw [if_pos isGround, if_pos isGround]
      exact ⟨(removeGround_moved placed isGround).unflagged, by simpa using .inl isGround⟩
    rw [if_neg isGround, if_neg isGround]
    have distinct := List.nodup_append.mp (List.nodup_append.mp placed.distinct.distinct).2.1
    have itemsEq := items_eq tile
    by_cases isTop : (tile.itemType game address).alwaysOnTop = true
    · have inTop : address ∈ tile.topItems := by
        by_contra notThere
        exact missing (by simp [Tile.getThingIndex, isGround, isTop, notThere])
      rw [if_pos isTop, if_pos inTop, if_neg (by simp [isTop])]
      refine ⟨Moved.unflagged (items_moved isGround rfl (fun other => ?_) rfl rfl), ?_⟩
      · have kept := @mem_without_or tile.topItems _ _ (placed.apart.2 inTop) other
        rw [itemsEq, List.mem_append, List.mem_append, distinct.1.mem_erase_iff]
        simp only [reduceCtorEq, or_false]
        rw [or_comm, and_comm, kept, or_comm]
      · simpa [Tile.Holds, itemsEq] using .inr (.inr inTop)
    · have inDown : address ∈ tile.downItems := by
        by_contra notThere
        exact missing (by simp [Tile.getThingIndex, isGround, isTop, notThere])
      rw [if_neg isTop, if_pos inDown]
      by_cases part : (tile.itemType game address).stackable = true ∧
          count.toNat ≠ (tile.stored address).item.count.toNat
      · rw [if_pos part, if_pos ⟨by simpa using isTop, part⟩]
        refine ⟨.nothing (fun _ => .rfl) (fun other _ flag => ?_) rfl, by simp⟩
        by_cases here : other = address
        · subst here
          rw [Tile.store]
          simp only [Function.update_self]
          exact setItemCount_justifies _ _ flag
        · rw [Tile.store]
          simp only [Function.update_of_ne here]
      · rw [if_neg part, if_neg fun whole => part whole.2]
        refine ⟨Moved.unflagged (items_moved isGround rfl (fun other => ?_) rfl rfl), ?_⟩
        · have notTop : address ∉ tile.topItems := fun inTop => placed.apart.2 inTop inDown
          have kept := @mem_without_or tile.downItems _ _ notTop other
          rw [itemsEq, List.mem_append, List.mem_append, distinct.2.1.mem_erase_iff]
          simp only [reduceCtorEq, or_false]
          rw [and_comm, kept]
        · simpa [Tile.Holds, itemsEq] using .inr (.inl inDown)

/-! ## What enters -/

/-- Only the item that is taken changes. -/
theorem removeThing_stored {address : Nat} (absent : Absent tile address) (old : Nat)
    (count : UInt32) :
    (tile.removeThing game (.item old) count).stored address = tile.stored address := by
  by_cases found : tile.getThingIndex game (.item old) = -1
  · rw [Tile.removeThing]
    simp only [found, if_true]
  · have different : address ≠ old := absent.ne (holds_of_getThingIndex found)
    rw [Tile.removeThing]
    simp only
    split_ifs <;> simp [Tile.store, Tile.unflagged, different]

/-- What is done to a tile for a new item. -/
theorem Rest.changed {leaves : Option Nat} {rest : Tile} (left : Rest game tile leaves rest)
    (placed : Placed tile) {address : Nat} (absent : Absent tile address) :
    Changed game tile leaves none rest ∧ (∀ old ∈ leaves, tile.Holds old) ∧
      rest.stored address = tile.stored address := by
  cases left with
  | whole =>
    exact ⟨.nothing (fun _ => .rfl) (fun _ _ _ => rfl) rfl, by simp, rfl⟩
  | removed old =>
    obtain ⟨changed, held⟩ := removeThing_changed placed (.item old) 1
    exact ⟨changed, held, removeThing_stored absent old 1⟩

theorem Addition.changed {address : Nat} {change : Change}
    (addition : Addition game tile address change after) (placed : Placed tile)
    (absent : Absent tile address) :
    Changed game tile change.leaves change.enters after ∧
      ∀ old ∈ change.leaves, tile.Holds old := by
  cases addition with
  | refused => exact ⟨.nothing (fun _ => .rfl) (fun _ _ _ => rfl) rfl, by simp⟩
  | bare none =>
    refine ⟨Moved.flagged ⟨fun other => ?_, rfl, rfl⟩, by simp⟩
    simp only [Tile.Holds, none]
    tauto
  | ground there =>
    rename_i old
    have held : tile.Holds old := .inl there
    refine ⟨Moved.exchanged ⟨fun other => ?_, rfl, rfl⟩ (absent.ne held).symm, ?_⟩
    · have apart := placed.apart.1 there
      simp only [Tile.Holds, there, Option.some.injEq, ne_eq]
      constructor
      · rintro (enter | member)
        · exact .inr enter
        · exact .inl ⟨.inr member, by rintro rfl; exact apart member⟩
      · rintro (⟨rfl | member, different⟩ | enter)
        · exact absurd rfl different
        · exact .inr member
        · exact .inl enter
    · simpa using held
  | top left room isTop below above =>
    obtain ⟨changed, held, stored⟩ := left.changed placed absent
    rw [← stored]
    exact ⟨changed.trans (insertTop_changed _ address _), held⟩
  | down left room isDown =>
    obtain ⟨changed, held, stored⟩ := left.changed placed absent
    rw [← stored]
    exact ⟨changed.trans (insertDown_changed _ address), held⟩

/-! ## What takes the place of another -/

theorem mem_set {entries : List Nat} (distinct : entries.Nodup) {pos old : Nat}
    (there : entries[pos]? = some old) (address other : Nat) :
    other ∈ entries.set pos address ↔ other ∈ entries ∧ other ≠ old ∨ other = address := by
  obtain ⟨within, rfl⟩ := List.getElem?_eq_some_iff.mp there
  have split : entries = entries.take pos ++ entries[pos] :: entries.drop (pos + 1) := by
    rw [List.getElem_cons_drop, List.take_append_drop]
  rw [List.set_eq_take_append_cons_drop, if_pos within]
  have parts := distinct
  rw [split, List.nodup_append, List.nodup_cons] at parts
  obtain ⟨-, ⟨notAfter, -⟩, apart⟩ := parts
  have whole : other ∈ entries ↔
      other ∈ entries.take pos ∨ other = entries[pos] ∨ other ∈ entries.drop (pos + 1) := by
    conv_lhs => rw [split]
    rw [List.mem_append, List.mem_cons]
  rw [whole, List.mem_append, List.mem_cons]
  constructor
  · rintro (before | new | later)
    · exact .inl ⟨.inl before, apart other before _ List.mem_cons_self⟩
    · exact .inr new
    · exact .inl ⟨.inr (.inr later), fun same => notAfter (same ▸ later)⟩
  · rintro (⟨before | same | later, different⟩ | new)
    · exact .inl before
    · exact absurd same different
    · exact .inr (.inr later)
    · exact .inr (.inl new)

theorem fill_moved (placed : Placed tile) {slot : Tile.Slot} (found : slot.Found tile)
    {address : Nat} :
    Moved tile (some slot.old) (some address) (tile.fill slot address) ∧ tile.Holds slot.old := by
  have parts := List.nodup_append.mp (List.nodup_append.mp placed.distinct.distinct).2.1
  cases slot with
  | ground old =>
    refine ⟨⟨fun other => ?_, rfl, rfl⟩, .inl found⟩
    have apart := placed.apart.1 found
    have there : tile.ground = some old := found
    simp only [Tile.Holds, Tile.fill, Tile.Slot.old, there, Option.some.injEq, ne_eq]
    constructor
    · rintro (enter | member)
      · exact .inr enter
      · exact .inl ⟨.inr member, by rintro rfl; exact apart member⟩
    · rintro (⟨rfl | member, different⟩ | enter)
      · exact absurd rfl different
      · exact .inr member
      · exact .inl enter
  | top pos old =>
    have there : tile.topItems[pos]? = some old := found
    have isTop : old ∈ tile.topItems := List.mem_of_getElem? there
    have member : old ∈ tile.items := by
      rw [items_eq]
      exact List.mem_append_right _ isTop
    refine ⟨items_moved (fun isGround => placed.apart.1 isGround member) rfl (fun other => ?_)
      rfl rfl, .inr member⟩
    have kept := @mem_without_or tile.topItems _ _ (placed.apart.2 isTop) other
    rw [Tile.fill, List.mem_append, mem_set parts.1 there, items_eq tile, List.mem_append,
      or_comm, Option.some.injEq, @eq_comm _ address, @or_comm (other ∈ tile.downItems),
      ← kept, or_right_comm]
  | down pos old =>
    have there : tile.downItems[pos]? = some old := found
    have isDown : old ∈ tile.downItems := List.mem_of_getElem? there
    have notTop : old ∉ tile.topItems := fun isTop => placed.apart.2 isTop isDown
    have member : old ∈ tile.items := by
      rw [items_eq]
      exact List.mem_append_left _ isDown
    refine ⟨items_moved (fun isGround => placed.apart.1 isGround member) rfl (fun other => ?_)
      rfl rfl, .inr member⟩
    have kept := @mem_without_or tile.downItems _ _ notTop other
    rw [Tile.fill, List.mem_append, mem_set parts.2.1 there, items_eq tile, List.mem_append,
      Option.some.injEq, @eq_comm _ address, ← kept, or_right_comm]

theorem replaceThing_changed (placed : Placed tile) {slot : Tile.Slot} (found : slot.Found tile)
    {address : Nat} (absent : Absent tile address) :
    Changed game tile (some slot.old) (some (tile.stored address))
      (((tile.fill slot address).unflagged game slot.old).flagged game address) ∧
      tile.Holds slot.old := by
  obtain ⟨moved, held⟩ := fill_moved placed found
  exact ⟨moved.exchanged (absent.ne held).symm, held⟩

/-! ## Sequences of operations -/

namespace TileOp

/-- What is added to the tile is not on it yet. -/
def Apart (tile : Tile) : TileOp → Prop
  | .addThing thing | .internalAddThing thing => New tile thing
  | .updateThing _ _ _ | .removeThing _ _ => True
  | .replaceThing _ address | .elsewhere address _ => Absent tile address

/-- The item that leaves the tile, and the one that enters it. -/
def change (game : Game) (tile : Tile) : TileOp → Change
  | .addThing (.item address) => tile.addChange game address
  | .internalAddThing (.item address) => tile.internalAddChange game address
  | .updateThing (.item address) itemId count =>
    if tile.getThingIndex game (.item address) = -1 then {}
    else
      let item := ((tile.stored address).item.setID game itemId).setSubType game count
      { leaves := some address, enters := some { tile.stored address with item := item } }
  | .replaceThing index address =>
    match tile.slotAt index with
    | none => {}
    | some slot => { leaves := some slot.old, enters := some (tile.stored address) }
  | .removeThing thing count => { leaves := tile.removed game thing count }
  | _ => {}

end TileOp

/-- **One operation.** It takes off and puts on what `change` says, and no item is on the
tile twice. -/
theorem step_changed (placed : Placed tile) {op : TileOp} (apart : op.Apart tile) :
    Changed game tile (op.change game tile).leaves (op.change game tile).enters
        (op.step game tile) ∧
      (∀ address ∈ (op.change game tile).leaves, tile.Holds address) ∧
      Placed (op.step game tile) := by
  have nothing {after : Tile} (holds : ∀ address, after.Holds address ↔ tile.Holds address)
      (stored : ∀ address, tile.Holds address → after.stored address = tile.stored address)
      (flags : after.flags = tile.flags) : Changed game tile none none after :=
    .nothing holds (fun address held _ => by rw [stored address held]) flags
  have parts := placed.arranged
  have addCreature {address : Nat} (new : address ∉ tile.creatures) :
      Placed { tile with creatures := address :: tile.creatures } := by
    have arranged : Arranged tile.ground tile.downItems tile.topItems (address :: tile.creatures)
        { tile with creatures := address :: tile.creatures } :=
      ⟨rfl, parts.items, parts.count, rfl⟩
    exact arranged.placed (placed.distinct.consCreature new)
  cases op with
  | addThing thing =>
    cases thing with
    | item address =>
      have addition : Addition game tile address _ _ := addThing_addition placed address
      obtain ⟨changed, held⟩ := addition.changed placed apart
      exact ⟨changed, held, addition.placed placed apart⟩
    | creature address =>
      exact ⟨nothing (fun _ => .rfl) (fun _ _ => rfl) rfl, by simp [TileOp.change],
        addCreature apart⟩
  | internalAddThing thing =>
    cases thing with
    | item address =>
      have addition : Addition game tile address _ _ := internalAddThing_addition tile address
      obtain ⟨changed, held⟩ := addition.changed placed apart
      exact ⟨changed, held, addition.placed placed apart⟩
    | creature address =>
      exact ⟨nothing (fun _ => .rfl) (fun _ _ => rfl) rfl, by simp [TileOp.change],
        addCreature apart⟩
  | updateThing thing itemId count =>
    rw [TileOp.step, Tile.updateThing.eq_def]
    cases thing with
    | item address =>
      rw [TileOp.change]
      by_cases missing : tile.getThingIndex game (.item address) = -1
      · rw [if_pos missing, if_pos missing]
        exact ⟨nothing (fun _ => .rfl) (fun _ _ => rfl) rfl, by simp, placed⟩
      · rw [if_neg missing, if_neg missing]
        have held := holds_of_getThingIndex missing
        refine ⟨.updated held _, by simpa using held, ?_⟩
        exact (((parts.unflagged address).store address _).flagged address).placed
          placed.distinct
    | creature address =>
      have unchanged : (if tile.getThingIndex game (.creature address) = -1 then tile
          else tile) = tile := ite_self tile
      simp only [unchanged]
      exact ⟨nothing (fun _ => .rfl) (fun _ _ => rfl) rfl, by simp [TileOp.change], placed⟩
  | replaceThing index address =>
    rw [TileOp.step, Tile.replaceThing, TileOp.change]
    cases found : tile.slotAt index with
    | none => exact ⟨nothing (fun _ => .rfl) (fun _ _ => rfl) rfl, by simp, placed⟩
    | some slot =>
      have there := slotAt_found found
      obtain ⟨changed, held⟩ := replaceThing_changed placed there apart
      have arranged := (fill_arranged placed slot address)
      exact ⟨changed, by simpa using held,
        ((arranged.unflagged slot.old).flagged address).placed
          (fill_distinct placed there apart)⟩
  | removeThing thing count =>
    have taken : Taken game tile _ := removeThing_taken placed thing count
    have removal : Changed game tile _ _ _ ∧ _ := removeThing_changed placed thing count
    exact ⟨removal.1, removal.2, taken.placed placed⟩
  | elsewhere address item =>
    refine ⟨nothing (fun _ => .rfl) (fun other held => ?_) rfl, by simp [TileOp.change],
      (parts.store address item).placed placed.distinct⟩
    have absent : Absent tile address := apart
    exact Function.update_of_ne (absent.ne held).symm _ _

/-- The operations on a tile, whatever the classes of the items. -/
def flagSystem (game : Game) : System Tile TileOp where
  legal tile op := op.Apart tile
  step := TileOp.step game

/-- **The flags stay exact exactly as long as none is forgotten.** After every operation of
a sequence on a tile that starts empty, each flag is set if and only if some item on the
tile justifies it, exactly when no operation brings an item that justifies
`immovableBlockPath`, and none takes off or changes an item for which a flag is reset that
is not checked again and that another item justifies. -/
theorem runs_exact_iff (stored : Nat → TileItem) (flags : BitVec 32)
    (fresh : ∀ flag : TileFlag, hasFlag flag.mask flags = false) (ops : List TileOp)
    (legal : (flagSystem game).Legal { stored := stored, flags := flags } ops) :
    (flagSystem game).Throughout (fun _ _ after => Exact game after)
        { stored := stored, flags := flags } ops ↔
      (flagSystem game).Throughout (fun tile op _ => Remembered game tile
        (op.change game tile).leaves (op.change game tile).enters)
        { stored := stored, flags := flags } ops := by
  have step : ∀ (tile : Tile) (op : TileOp),
      Placed tile ∧ Exact game tile ∧
        hasFlag TileFlag.immovableBlockPath.mask tile.flags = false → op.Apart tile →
      (Exact game (op.step game tile) ↔ Remembered game tile (op.change game tile).leaves
          (op.change game tile).enters) ∧
        (Exact game (op.step game tile) → Placed (op.step game tile) ∧
          Exact game (op.step game tile) ∧
          hasFlag TileFlag.immovableBlockPath.mask (op.step game tile).flags = false) := by
    rintro tile op ⟨placed, exact, unset⟩ apart
    obtain ⟨changed, held, stays⟩ := step_changed placed apart
    exact ⟨changed.exact_iff held exact unset, fun after => ⟨stays, after, changed.unset unset⟩⟩
  refine System.Throughout.iff_of_invariant step ⟨?_, ?_, fresh _⟩ legal
  · exact (@empty_stacked game stored flags).placed
  · intro flag
    rw [fresh]
    simp [Tile.Justified, Tile.Holds]

/-! ## A wall and a tree -/

/-- Items of type 1 support hangable items, those of type 2 block the path and cannot be
moved. -/
def yard : Game where
  items id := { id := id, isVertical := id = 1, blockPathFind := id = 2, moveable := id ≠ 2 }
  uniqueItems _ := false

/-- The first item is a wall, the others are trees. -/
def yardItems (address : Nat) : TileItem :=
  ⟨{ id := if address = 0 then 1 else 2 }, .item⟩

/-- A wall is put up and torn down. -/
theorem runs_exact_iff_wall :
    (flagSystem yard).Throughout (fun _ _ after => Exact yard after) { stored := yardItems }
      [.addThing (.item 0), .removeThing (.item 0) 1] := by
  have legal : (flagSystem yard).Legal { stored := yardItems }
      [.addThing (.item 0), .removeThing (.item 0) 1] :=
    ⟨(by decide : Absent _ 0), trivial, trivial⟩
  have fresh (flag : TileFlag) : hasFlag flag.mask 0 = false := by
    cases flag <;> decide
  refine (runs_exact_iff yardItems 0 fresh _ legal).mpr ⟨⟨?_, ?_⟩, ⟨?_, ?_⟩, trivial⟩
  · rintro item ⟨⟩
    decide
  · rintro address ⟨⟩
  · rintro item ⟨⟩
  · rintro address ⟨⟩ flag - -
    refine .inr ?_
    rintro ⟨other, isGround | member, different, -⟩
    · cases isGround
    · exact different (congrArg some (List.mem_singleton.mp member).symm)

/-- **A tree does not set its flag.** It blocks the path and cannot be moved, but
`immovableBlockPath` is not set for it. -/
theorem tree_not_exact : ¬ ∀ ops, (flagSystem yard).Legal { stored := yardItems } ops →
      (flagSystem yard).Throughout (fun _ _ after => Exact yard after)
        { stored := yardItems } ops := by
  intro holds
  have exact := (holds [.addThing (.item 1)] ⟨(by decide : Absent _ 1), trivial⟩).1
  have set := (exact .immovableBlockPath).mpr ⟨1, .inr List.mem_cons_self, by decide⟩
  revert set
  decide

end Otserv.TileStack
