import Otserv.TileStack.Stacking

/-!
# Flags that items justify

A flag of a tile should be set exactly when some item on the tile justifies it
(`Exact`). `setTileFlags` sets what the new item justifies, but for one flag that it
leaves out (`hasFlag_setTileFlags`); `resetTileFlags` looks at the other items for six
flags, and forgets them for the rest (`hasFlag_resetTileFlags`).

What that does to a tile is the same for every operation that takes one item off and puts
one on it (`Changed`): the flags stay exact when nothing is forgotten that an item
justifies which stays, and only then (`Changed.exact_iff`).
-/

namespace Otserv.TileStack

open Otserv.Foundation Otserv.Items

variable {game : Game} {tile after : Tile}

/-- The item justifies the flag. -/
def TileItem.justifies (game : Game) (item : TileItem) : TileFlag → Bool
  | .floorChange => (game.items item.item.id).floorChange ≠ 0
  | .teleport => item.cls = .teleport
  | .magicField => item.cls = .magicField
  | .mailbox => item.cls = .mailbox
  | .trashHolder => item.cls = .trashHolder
  | .bed => item.cls = .bed
  | .depot => item.cls = .depotLocker
  | .blockSolid => item.hasProperty game .blockSolid
  | .blockPath => item.hasProperty game .blockPath
  | .immovableBlockSolid => item.hasProperty game .immovableBlockSolid
  | .immovableBlockPath => item.hasProperty game .immovableBlockPath
  | .immovableNoFieldBlockPath => item.hasProperty game .immovableNoFieldBlockPath
  | .noFieldBlockPath => item.hasProperty game .noFieldBlockPath
  | .supportsHangable => item.hasProperty game .supportHangable

/-! ## Setting and resetting one flag -/

theorem mask_and {flag other : TileFlag} (different : flag ≠ other) :
    other.mask &&& flag.mask = 0#32 ∧ ~~~other.mask &&& flag.mask = flag.mask := by
  cases flag <;> cases other <;> first | exact ⟨rfl, rfl⟩ | contradiction

theorem mask_ne_zero (flag : TileFlag) : flag.mask ≠ 0#32 := by
  cases flag <;> decide

variable {flag bits : BitVec 32}

theorem hasFlag_setFlag_self (some : bits &&& flag ≠ 0#32)
    (flags : BitVec 32) : hasFlag flag (setFlag bits flags) = true := by
  rw [hasFlag, setFlag, decide_eq_true_eq]
  intro none
  apply some
  rw [BitVec.and_or_distrib_right] at none
  exact (BitVec.or_eq_zero_iff.mp none).2

theorem hasFlag_setFlag_of_disjoint (none : bits &&& flag = 0#32)
    (flags : BitVec 32) : hasFlag flag (setFlag bits flags) = hasFlag flag flags := by
  rw [hasFlag, setFlag, BitVec.and_or_distrib_right, none, BitVec.or_zero, hasFlag]

@[simp] theorem hasFlag_setIf (holds : Bool) (flag other : TileFlag) (flags : BitVec 32) :
    hasFlag flag.mask (setIf holds other flags) =
      (hasFlag flag.mask flags || holds && flag = other) := by
  cases holds with
  | false => simp [setIf]
  | true =>
    rw [setIf, if_pos rfl]
    by_cases same : flag = other
    · subst same
      rw [hasFlag_setFlag_self (by simpa using mask_ne_zero flag)]
      simp
    · rw [hasFlag_setFlag_of_disjoint (mask_and same).1]
      simp [same]

@[simp] theorem hasFlag_resetIf (holds : Bool) (flag other : TileFlag) (flags : BitVec 32) :
    hasFlag flag.mask (resetIf holds other flags) =
      (hasFlag flag.mask flags && !(holds && flag = other)) := by
  cases holds with
  | false => simp [resetIf]
  | true =>
    rw [resetIf, if_pos rfl, hasFlag, resetFlag, BitVec.and_assoc]
    by_cases same : flag = other
    · subst same
      simp
    · rw [(mask_and same).2]
      simp [same, hasFlag]

theorem floorChange_and (bits : Fin 128) :
    BitVec.ofNat 32 bits.val &&& TileFlag.floorChange.mask = BitVec.ofNat 32 bits.val := by
  revert bits
  decide +kernel

theorem hasFlag_setFloorChange {bits : Fin 128} (some : bits ≠ 0) (flag : TileFlag)
    (flags : BitVec 32) :
    hasFlag flag.mask (setFlag (.ofNat 32 bits.val) flags) =
      (hasFlag flag.mask flags || flag = .floorChange) := by
  by_cases same : flag = .floorChange
  · subst same
    rw [hasFlag_setFlag_self]
    · simp
    · rw [floorChange_and]
      intro none
      apply some
      have none := congrArg BitVec.toNat none
      rw [BitVec.toNat_ofNat, Nat.mod_eq_of_lt (by omega)] at none
      exact Fin.ext none
  · rw [hasFlag_setFlag_of_disjoint]
    · simp [same]
    · rw [← floorChange_and, BitVec.and_assoc, (mask_and same).1, BitVec.and_zero]

theorem hasFlag_floorChange (bits : Fin 128) (flag : TileFlag) (flags : BitVec 32) :
    hasFlag flag.mask (if !hasFlag TileFlag.floorChange.mask flags then
        if bits ≠ 0 then setFlag (.ofNat 32 bits.val) flags else flags
      else flags) =
      (hasFlag flag.mask flags || bits ≠ 0 && flag = .floorChange) := by
  by_cases there : hasFlag TileFlag.floorChange.mask flags = true
  · rw [if_neg (by simp [there])]
    by_cases same : flag = .floorChange
    · rw [same, there, Bool.true_or]
    · simp [same]
  · rw [if_pos (by simpa using there)]
    by_cases some : bits ≠ 0
    · rw [if_pos some, hasFlag_setFloorChange some]
      simp [some]
    · simp [some]

/-! ## Setting and resetting the flags of an item -/

/-- The new item's flags are set, but for the one that `setTileFlags` leaves out. -/
theorem hasFlag_setTileFlags (item : TileItem) (flag : TileFlag) (flags : BitVec 32) :
    hasFlag flag.mask (setTileFlags game item flags) =
      (hasFlag flag.mask flags ||
        item.justifies game flag && flag ≠ .immovableBlockPath) := by
  rw [setTileFlags]
  simp only [hasFlag_setIf, hasFlag_floorChange]
  cases flag <;> simp [TileItem.justifies]

/-- The flags that `resetTileFlags` keeps when another item has the property. -/
def TileFlag.rechecked : TileFlag → Option ItemProperty
  | .blockSolid => some .blockSolid
  | .immovableBlockSolid => some .immovableBlockSolid
  | .blockPath => some .blockPath
  | .noFieldBlockPath => some .noFieldBlockPath
  | .immovableBlockPath => some .immovableBlockPath
  | .immovableNoFieldBlockPath => some .immovableNoFieldBlockPath
  | _ => none

theorem hasFlag_resetTileFlags (others : ItemProperty → Bool) (item : TileItem) (flag : TileFlag)
    (flags : BitVec 32) :
    hasFlag flag.mask (resetTileFlags game others item flags) =
      (hasFlag flag.mask flags &&
        !(item.justifies game flag && flag.rechecked.all fun prop => !others prop)) := by
  rw [resetTileFlags]
  cases flag <;> simp [TileItem.justifies, TileFlag.rechecked]

theorem justifies_eq_of_rechecked {flag : TileFlag} {prop : ItemProperty}
    (rechecked : flag.rechecked = some prop) (item : TileItem) :
    item.justifies game flag = item.hasProperty game prop := by
  cases flag <;> cases rechecked <;> rfl

/-! ## What the items on a tile justify -/

/-- The item is the ground of the tile or one of its items. -/
def Tile.Holds (tile : Tile) (address : Nat) : Prop :=
  tile.ground = some address ∨ address ∈ tile.items

/-- Some item on the tile justifies the flag, other than the one that leaves. -/
def Tile.Remains (game : Game) (tile : Tile) (leaves : Option Nat) (flag : TileFlag) : Prop :=
  ∃ address, tile.Holds address ∧ leaves ≠ some address ∧
    (tile.stored address).justifies game flag = true

/-- Some item on the tile justifies the flag. -/
def Tile.Justified (game : Game) (tile : Tile) (flag : TileFlag) : Prop :=
  ∃ address, tile.Holds address ∧ (tile.stored address).justifies game flag = true

/-- Each flag is set exactly when some item on the tile justifies it. -/
def Exact (game : Game) (tile : Tile) : Prop :=
  ∀ flag : TileFlag, hasFlag flag.mask tile.flags = true ↔ tile.Justified game flag

theorem remains_none (flag : TileFlag) :
    tile.Remains game none flag ↔ tile.Justified game flag := by
  simp [Tile.Remains, Tile.Justified]

theorem hasProperty_iff {flag : TileFlag} {prop : ItemProperty}
    (rechecked : flag.rechecked = some prop) (exclude : Nat) :
    tile.hasProperty game exclude prop = true ↔ tile.Remains game (some exclude) flag := by
  rw [Tile.hasProperty, Bool.or_eq_true, Option.any_eq_true, List.any_eq_true, Tile.Remains]
  simp only [Bool.and_eq_true, decide_eq_true_eq, Tile.Holds,
    justifies_eq_of_rechecked rechecked, ne_eq, Option.some.injEq]
  constructor
  · rintro (⟨ground, isGround, other, has⟩ | ⟨item, member, other, has⟩)
    · exact ⟨ground, .inl isGround, other, has⟩
    · exact ⟨item, .inr member, fun same => other same.symm, has⟩
  · rintro ⟨address, isGround | member, other, has⟩
    · exact .inl ⟨address, isGround, other, has⟩
    · exact .inr ⟨address, member, fun same => other same.symm, has⟩

theorem hasFlag_flagged (tile : Tile) (address : Nat) (flag : TileFlag) :
    hasFlag flag.mask (tile.flagged game address).flags = true ↔
      hasFlag flag.mask tile.flags = true ∨
        (tile.stored address).justifies game flag = true ∧ flag ≠ .immovableBlockPath := by
  rw [Tile.flagged, hasFlag_setTileFlags, Bool.or_eq_true, Bool.and_eq_true, decide_eq_true_eq]

/-- A flag is reset for an item that leaves, unless another is seen to justify it. -/
def Tile.Resets (game : Game) (tile : Tile) (leaves : Option Nat) (flag : TileFlag) : Prop :=
  ∃ address ∈ leaves, (tile.stored address).justifies game flag = true ∧
    (flag.rechecked.isSome → ¬ tile.Remains game leaves flag)

theorem hasFlag_unflagged (tile : Tile) (address : Nat) (flag : TileFlag) :
    hasFlag flag.mask (tile.unflagged game address).flags = true ↔
      hasFlag flag.mask tile.flags = true ∧ ¬ tile.Resets game (some address) flag := by
  rw [Tile.unflagged, hasFlag_resetTileFlags, Bool.and_eq_true, Bool.not_eq_true',
    Bool.and_eq_false_iff, Tile.Resets]
  simp only [Option.mem_def, Option.some.injEq, exists_eq_left']
  cases rechecked : flag.rechecked with
  | none => simp
  | some prop =>
    have seen := @hasProperty_iff game tile _ _ rechecked address
    simp only [Option.all_some, Bool.not_eq_false', seen, Option.isSome_some, forall_const]
    rw [not_and_or, Bool.not_eq_true, not_not]

/-! ## One item leaves, one enters -/

/-- What an operation does to the flags and to what justifies them: an item may leave,
and one may enter. -/
structure Changed (game : Game) (before : Tile) (leaves : Option Nat) (enters : Option TileItem)
    (after : Tile) : Prop where
  justified : ∀ flag, after.Justified game flag ↔
    before.Remains game leaves flag ∨ ∃ item ∈ enters, item.justifies game flag = true
  flag : ∀ flag ≠ TileFlag.immovableBlockPath, hasFlag flag.mask after.flags = true ↔
    hasFlag flag.mask before.flags = true ∧ ¬ before.Resets game leaves flag ∨
      ∃ item ∈ enters, item.justifies game flag = true
  unset : hasFlag TileFlag.immovableBlockPath.mask before.flags = false →
    hasFlag TileFlag.immovableBlockPath.mask after.flags = false

/-- What enters does not justify the flag that is never set, and no flag is forgotten that
an item justifies which stays. -/
structure Remembered (game : Game) (tile : Tile) (leaves : Option Nat) (enters : Option TileItem) :
    Prop where
  entering : ∀ item ∈ enters, item.justifies game .immovableBlockPath = false
  leaving : ∀ address ∈ leaves, ∀ flag : TileFlag, flag.rechecked = none →
    (tile.stored address).justifies game flag = true →
      (∃ item ∈ enters, item.justifies game flag = true) ∨ ¬ tile.Remains game leaves flag

theorem justified_iff {leaves : Option Nat} (held : ∀ address ∈ leaves, tile.Holds address)
    (flag : TileFlag) :
    tile.Justified game flag ↔ tile.Remains game leaves flag ∨
      ∃ address ∈ leaves, (tile.stored address).justifies game flag = true := by
  constructor
  · rintro ⟨address, holds, justifies⟩
    by_cases left : leaves = some address
    · exact .inr ⟨address, left, justifies⟩
    · exact .inl ⟨address, holds, left, justifies⟩
  · rintro (⟨address, holds, -, justifies⟩ | ⟨address, left, justifies⟩)
    · exact ⟨address, holds, justifies⟩
    · exact ⟨address, held address left, justifies⟩

/-- **One change of a tile.** Flags that were exact stay so exactly when nothing is
forgotten. -/
theorem Changed.exact_iff {leaves : Option Nat} {enters : Option TileItem}
    (changed : Changed game tile leaves enters after)
    (held : ∀ address ∈ leaves, tile.Holds address) (exact : Exact game tile)
    (unset : hasFlag TileFlag.immovableBlockPath.mask tile.flags = false) :
    Exact game after ↔ Remembered game tile leaves enters := by
  constructor
  · intro stays
    refine ⟨?_, ?_⟩
    · intro item enter
      by_contra justifies
      have justified := (changed.justified .immovableBlockPath).mpr
        (.inr ⟨item, enter, (Bool.not_eq_false _).mp justifies⟩)
      have set := (stays .immovableBlockPath).mpr justified
      rw [changed.unset unset] at set
      exact Bool.false_ne_true set
    · intro address leave flag forgotten justifies
      by_contra kept
      rw [not_or, not_not] at kept
      obtain ⟨notEntering, remains⟩ := kept
      have different : flag ≠ .immovableBlockPath := fun same => by
        rw [same] at forgotten
        cases forgotten
      have set := (stays flag).mpr ((changed.justified flag).mpr (.inl remains))
      rcases (changed.flag flag different).mp set with ⟨-, notReset⟩ | entering
      · exact notReset ⟨address, leave, justifies, by simp [forgotten]⟩
      · exact notEntering entering
  · rintro ⟨entering, leaving⟩ flag
    rw [changed.justified]
    by_cases same : flag = .immovableBlockPath
    · subst same
      rw [changed.unset unset]
      have nothing : ¬ tile.Justified game .immovableBlockPath := by
        rw [← exact .immovableBlockPath, unset]
        exact Bool.false_ne_true
      rw [justified_iff held, not_or] at nothing
      refine iff_of_false Bool.false_ne_true ?_
      rintro (remains | ⟨item, enter, justifies⟩)
      · exact nothing.1 remains
      · rw [entering item enter] at justifies
        exact Bool.false_ne_true justifies
    · rw [changed.flag flag same, exact flag, justified_iff held]
      constructor
      · rintro (⟨remains | ⟨address, leave, justifies⟩, notReset⟩ | enters)
        · exact .inl remains
        · -- it was not reset for what leaves, so another item was seen
          by_contra gone
          exact notReset ⟨address, leave, justifies, fun _ remains => gone (.inl remains)⟩
        · exact .inr enters
      · rintro (remains | enters)
        · by_cases reset : tile.Resets game leaves flag
          · obtain ⟨address, leave, justifies, unseen⟩ := reset
            have forgotten : flag.rechecked = none := by
              by_contra rechecked
              exact unseen (Option.isSome_iff_ne_none.mpr rechecked) remains
            rcases leaving address leave flag forgotten justifies with enters | gone
            · exact .inr enters
            · exact absurd remains gone
          · exact .inl ⟨.inl remains, reset⟩
        · exact .inr enters

namespace Changed

variable {before middle : Tile} {leaves : Option Nat} {enters : Option TileItem}

theorem trans (first : Changed game before leaves none middle)
    (second : Changed game middle none enters after) :
    Changed game before leaves enters after where
  justified := fun flag => by
    rw [second.justified, remains_none, first.justified]
    simp
  flag := fun flag different => by
    rw [second.flag flag different, first.flag flag different]
    simp [Tile.Resets]
  unset := second.unset ∘ first.unset

end Changed

/-- The items on a tile after one leaves and one enters, before the flags are changed. -/
structure Moved (before : Tile) (leaves enters : Option Nat) (after : Tile) : Prop where
  holds : ∀ address, after.Holds address ↔
    before.Holds address ∧ leaves ≠ some address ∨ enters = some address
  stored : after.stored = before.stored
  flags : after.flags = before.flags

namespace Moved

variable {before middle : Tile} {leaves enters : Option Nat}

theorem justified (moved : Moved before leaves enters middle) (flag : TileFlag) :
    middle.Justified game flag ↔ before.Remains game leaves flag ∨
      ∃ item ∈ enters.map before.stored, item.justifies game flag = true := by
  rw [Tile.Justified, Tile.Remains, moved.stored]
  simp only [moved.holds, Option.mem_def, Option.map_eq_some_iff]
  constructor
  · rintro ⟨address, ⟨holds, stays⟩ | enter, justifies⟩
    · exact .inl ⟨address, holds, stays, justifies⟩
    · exact .inr ⟨_, ⟨address, enter, rfl⟩, justifies⟩
  · rintro (⟨address, holds, stays, justifies⟩ | ⟨_, ⟨address, enter, rfl⟩, justifies⟩)
    · exact ⟨address, .inl ⟨holds, stays⟩, justifies⟩
    · exact ⟨address, .inr enter, justifies⟩

variable {address : Nat}

/-- An item comes to the tile. -/
theorem flagged (moved : Moved before none (some address) middle) :
    Changed game before none (some (before.stored address)) (middle.flagged game address) where
  justified := moved.justified
  flag := fun flag different => by
    rw [hasFlag_flagged, moved.flags, moved.stored]
    simp [different, Tile.Resets]
  unset := fun unset => by
    rw [← Bool.not_eq_true, hasFlag_flagged, moved.flags]
    simp [unset]

theorem remains (moved : Moved before (some address) enters middle)
    (new : enters ≠ some address) (flag : TileFlag) :
    middle.Remains game (some address) flag ↔ before.Remains game (some address) flag ∨
      ∃ item ∈ enters.map before.stored, item.justifies game flag = true := by
  rw [← moved.justified, Tile.Remains, Tile.Justified]
  refine exists_congr fun other => and_congr_right fun holds => ?_
  have different : some address ≠ some other := by
    rintro same
    rcases (moved.holds other).mp holds with ⟨-, stays⟩ | enter
    · exact stays same
    · exact new (enter.trans same.symm)
  simp [different]

/-- An item is taken off the tile. -/
theorem unflagged (moved : Moved before (some address) none middle) :
    Changed game before (some address) none (middle.unflagged game address) where
  justified := moved.justified
  flag := fun flag different => by
    rw [hasFlag_unflagged, moved.flags, Tile.Resets, moved.stored, moved.remains (by simp)]
    simp [Tile.Resets]
  unset := fun unset => by
    rw [← Bool.not_eq_true, hasFlag_unflagged, moved.flags]
    simp [unset]

/-- An item takes the place of another. -/
theorem exchanged {address other : Nat} (moved : Moved before (some address) (some other) middle)
    (new : address ≠ other) :
    Changed game before (some address) (some (before.stored other))
      ((middle.unflagged game address).flagged game other) where
  justified := moved.justified
  flag := fun flag different => by
    rw [hasFlag_flagged, hasFlag_unflagged, moved.flags]
    have sameStored : (middle.unflagged game address).stored = before.stored := moved.stored
    rw [sameStored, Tile.Resets, Tile.Resets, moved.stored,
      moved.remains (by simpa using new.symm)]
    simp only [Option.mem_def, Option.some.injEq, exists_eq_left', Option.map_some, different,
      ne_eq, not_false_eq_true, and_true]
    -- a new item that justifies the flag sets it again
    by_cases justifies : (before.stored other).justifies game flag = true
    · simp [justifies]
    · simp [justifies]
  unset := fun unset => by
    rw [← Bool.not_eq_true, hasFlag_flagged, hasFlag_unflagged, moved.flags]
    simp [unset]

end Moved

theorem Changed.nothing {before after : Tile}
    (holds : ∀ address, after.Holds address ↔ before.Holds address)
    (same : ∀ address, before.Holds address → ∀ flag,
      (after.stored address).justifies game flag = (before.stored address).justifies game flag)
    (flags : after.flags = before.flags) : Changed game before none none after where
  justified := fun flag => by
    rw [remains_none, Tile.Justified, Tile.Justified]
    simp only [holds, Option.mem_def, reduceCtorEq, false_and, exists_false, or_false]
    exact exists_congr fun address => and_congr_right fun held => by rw [same address held]
  flag := fun flag different => by simp [flags, Tile.Resets]
  unset := fun unset => by rw [flags, unset]

theorem Changed.updated {before : Tile} {address : Nat} (held : before.Holds address)
    (item : TileItem) :
    Changed game before (some address) (some item)
      (((before.unflagged game address).store address item).flagged game address) where
  justified := fun flag => by
    constructor
    · rintro ⟨other, holds, justifies⟩
      by_cases here : other = address
      · subst here
        exact .inr (by simpa [Tile.flagged, Tile.store] using justifies)
      · refine .inl ⟨other, holds, by simpa using Ne.symm here, ?_⟩
        simpa [Tile.flagged, Tile.unflagged, Tile.store, Function.update_of_ne here] using justifies
    · rintro (⟨other, holds, different, justifies⟩ | justifies)
      · have here : other ≠ address := by simpa using Ne.symm (by simpa using different)
        refine ⟨other, holds, ?_⟩
        simpa [Tile.flagged, Tile.unflagged, Tile.store, Function.update_of_ne here] using justifies
      · exact ⟨address, held, by simpa [Tile.flagged, Tile.store] using justifies⟩
  flag := fun flag different => by
    rw [hasFlag_flagged]
    have reset : hasFlag flag.mask ((before.unflagged game address).store address item).flags =
        true ↔ _ := hasFlag_unflagged before address flag
    rw [reset]
    simp [Tile.store, different]
  unset := fun unset => by
    rw [← Bool.not_eq_true, hasFlag_flagged]
    have reset : hasFlag TileFlag.immovableBlockPath.mask
        ((before.unflagged game address).store address item).flags = true ↔ _ :=
      hasFlag_unflagged before address .immovableBlockPath
    rw [reset]
    simp [unset]

end Otserv.TileStack
