import Otserv.Foundation.Runs
import Otserv.World.WalkCache

/-!
# The walk cache shows the map

The cache should hold, for every position of the window, whether the tile there is
walkable (`CacheRight`): what `updateMapCache` finds. The distance of a step is
never negative, so that a step to the south that is also one to the east or west
shifts the columns of the wrong rows: the top row stays behind and the bottom
row, just refreshed, is shifted away (`walkCache_shows_map`).
-/

namespace Otserv.World

open Otserv.Foundation

@[simp] theorem maxWalkCacheWidth_eq : maxWalkCacheWidth = 15 := rfl

@[simp] theorem maxWalkCacheHeight_eq : maxWalkCacheHeight = 9 := rfl

@[simp] theorem mapWalkWidth_eq : mapWalkWidth = 31 := rfl

@[simp] theorem mapWalkHeight_eq : mapWalkHeight = 19 := rfl

theorem mem_offsets {bound : Nat} {value : Int} : value ∈ offsets bound ↔ |value| ≤ bound := by
  unfold offsets
  rw [List.mem_map, abs_le]
  constructor
  · rintro ⟨place, isMember, rfl⟩
    rw [List.mem_range] at isMember
    omega
  · intro inside
    refine ⟨(value + bound).toNat, List.mem_range.mpr ?_, ?_⟩ <;> omega

/-! ## Coordinates -/

/-- The coordinates are those of a position. -/
def IsPosition (x y : Int) : Prop := 0 ≤ x ∧ x < 65536 ∧ 0 ≤ y ∧ y < 65536

theorem coordinate_toNat {value : Int} (low : 0 ≤ value) (high : value < 65536) :
    ((coordinate value).toNat : Int) = value := by
  rw [coordinate, UInt16.toNat_ofNat']
  omega

variable (pos : Position)

theorem coordinate_getX : coordinate pos.getX = pos.x := by
  apply UInt16.toNat_inj.mp
  have small := pos.x.toNat_lt
  have same : ((coordinate pos.getX).toNat : Int) = pos.getX :=
    coordinate_toNat (by unfold Position.getX; omega) (by unfold Position.getX; omega)
  exact Int.ofNat_inj.mp same

theorem coordinate_getY : coordinate pos.getY = pos.y := by
  apply UInt16.toNat_inj.mp
  have small := pos.y.toNat_lt
  have same : ((coordinate pos.getY).toNat : Int) = pos.getY :=
    coordinate_toNat (by unfold Position.getY; omega) (by unfold Position.getY; omega)
  exact Int.ofNat_inj.mp same

variable (walkable : Walkable)

theorem at_position (pos : Position) : walkable.at pos.getX pos.getY pos.z = walkable pos := by
  rw [Walkable.at, coordinate_getX, coordinate_getY]

theorem isPosition_position : IsPosition pos.getX pos.getY := by
  have x := pos.x.toNat_lt
  have y := pos.y.toNat_lt
  unfold IsPosition Position.getX Position.getY
  omega

/-! ## What the cache should hold -/

/-- What the map gives for the cells of the window around a point. -/
def freshTable (x y : Int) (z : UInt8) : Table Bool :=
  fun row col => walkable.at (x + ((col : Int) - 15)) (y + ((row : Int) - 9)) z

/-- A cell that shows a position holds what the map gives there. -/
def CellRight (x y : Int) (z : UInt8) (cache : Table Bool) (row col : Nat) : Prop :=
  IsPosition (x + ((col : Int) - 15)) (y + ((row : Int) - 9)) →
    cache row col = freshTable walkable x y z row col

/-- Every cell of the window is right. -/
def CacheRight (pos : Position) (cache : Table Bool) : Prop :=
  ∀ row < 19, ∀ col < 31, CellRight walkable pos.getX pos.getY pos.z cache row col

section Refreshing

variable {walkable : Walkable} {myPos : Position} {cache : Table Bool}

/-- The cell at an offset, if it is in the window. -/
def CellAt (dx dy : Int) (row col : Nat) : Prop :=
  |dx| ≤ 15 ∧ |dy| ≤ 9 ∧ (row : Int) = 9 + dy ∧ (col : Int) = 15 + dx

/-- The walker's own table of fresh values. -/
abbrev freshAt (walkable : Walkable) (myPos : Position) : Table Bool :=
  freshTable walkable myPos.getX myPos.getY myPos.z

theorem refreshed_updateTileCache (walkable : Walkable) (myPos : Position) (dx dy : Int)
    (cache : Table Bool) :
    Refreshed (freshAt walkable myPos) (CellAt dx dy) cache
      (Walker.updateTileCache (walkable.at (myPos.getX + dx) (myPos.getY + dy) myPos.z) dx dy
        cache) := by
  unfold Walker.updateTileCache
  rw [maxWalkCacheWidth_eq, maxWalkCacheHeight_eq]
  split
  · rename_i inside
    have low := abs_le.mp inside.1
    have high := abs_le.mp inside.2
    have place := Refreshed.put (freshAt walkable myPos) cache
      ((9 : Nat) + dy).toNat ((15 : Nat) + dx).toNat
    have value : freshAt walkable myPos ((9 : Nat) + dy).toNat ((15 : Nat) + dx).toNat =
        walkable.at (myPos.getX + dx) (myPos.getY + dy) myPos.z := by
      unfold freshAt freshTable
      congr 1 <;> omega
    rw [value] at place
    refine ⟨fun row col here => place.inside row col ?_, fun row col elsewhere =>
      place.outside row col fun here => elsewhere ?_⟩
    · unfold CellAt at here
      omega
    · exact ⟨inside.1, inside.2, by omega, by omega⟩
  · rename_i outside
    exact ⟨fun row col here => absurd ⟨here.1, here.2.1⟩ outside, fun _ _ _ => rfl⟩

theorem refreshed_updateTileCacheAt (walkable : Walkable) (myPos pos : Position)
    (layer : pos.z = myPos.z) (cache : Table Bool) :
    Refreshed (freshAt walkable myPos)
      (CellAt (Position.getOffsetX pos myPos) (Position.getOffsetY pos myPos)) cache
      (Walker.updateTileCacheAt myPos (walkable pos) pos cache) := by
  have tile : walkable pos = walkable.at (myPos.getX + pos.getOffsetX myPos)
      (myPos.getY + pos.getOffsetY myPos) myPos.z := by
    rw [Position.getOffsetX, Position.getOffsetY, add_sub_cancel, add_sub_cancel, ← layer,
      at_position]
  rw [Walker.updateTileCacheAt, if_pos layer, tile]
  exact refreshed_updateTileCache _ _ _ _ cache

theorem CacheRight.of_refreshed {cells : Nat → Nat → Prop} {after : Table Bool}
    (refreshed : Refreshed (freshAt walkable myPos) cells cache after)
    (right : ∀ row < 19, ∀ col < 31, ¬ cells row col →
      CellRight walkable myPos.getX myPos.getY myPos.z cache row col) :
    CacheRight walkable myPos after := by
  intro row rowIn col colIn isPosition
  by_cases inside : cells row col
  · exact refreshed.inside row col inside
  · rw [refreshed.outside row col inside]
    exact right row rowIn col colIn inside isPosition

theorem cacheRight_updateMapCache (walkable : Walkable) (myPos : Position) (cache : Table Bool) :
    CacheRight walkable myPos (Walker.updateMapCache walkable myPos cache) := by
  have refreshed := Refreshed.foldl
    (fun cache y => .foldl
      (fun cache x => refreshed_updateTileCacheAt walkable myPos
        ⟨coordinate (myPos.getX + x), coordinate (myPos.getY + y), myPos.z⟩ rfl cache)
      (offsets maxWalkCacheWidth) cache)
    (offsets maxWalkCacheHeight) cache
  intro row rowIn col colIn isPosition
  apply refreshed.inside row col
  have small : |(row : Int) - 9| ≤ 9 ∧ |(col : Int) - 15| ≤ 15 := by
    constructor <;> rw [abs_le] <;> omega
  refine ⟨(row : Int) - 9, mem_offsets.mpr small.1, (col : Int) - 15, mem_offsets.mpr small.2, ?_⟩
  obtain ⟨xLow, xHigh, yLow, yHigh⟩ := isPosition
  have dx : Position.getOffsetX ⟨coordinate (myPos.getX + ((col : Int) - 15)),
      coordinate (myPos.getY + ((row : Int) - 9)), myPos.z⟩ myPos = (col : Int) - 15 := by
    have same := coordinate_toNat xLow xHigh
    simp only [Position.getOffsetX, Position.getX] at same ⊢
    omega
  have dy : Position.getOffsetY ⟨coordinate (myPos.getX + ((col : Int) - 15)),
      coordinate (myPos.getY + ((row : Int) - 9)), myPos.z⟩ myPos = (row : Int) - 9 := by
    have same := coordinate_toNat yLow yHigh
    simp only [Position.getOffsetY, Position.getY] at same ⊢
    omega
  rw [dx, dy]
  exact ⟨small.2, small.1, by omega, by omega⟩

theorem refreshed_updateRow (walkable : Walkable) (myPos : Position) (dy : Int)
    (inside : |dy| ≤ 9) (cache : Table Bool) :
    Refreshed (freshAt walkable myPos) (fun row col => (row : Int) = 9 + dy ∧ col < 31) cache
      (Walker.updateRow walkable myPos dy cache) := by
  have refreshed := Refreshed.foldl
    (fun cache x => refreshed_updateTileCache walkable myPos x dy cache)
    (offsets maxWalkCacheWidth) cache
  refine ⟨fun row col here => refreshed.inside row col ?_, fun row col elsewhere =>
    refreshed.outside row col ?_⟩
  · have small : |(col : Int) - 15| ≤ 15 := abs_le.mpr (by omega)
    exact ⟨(col : Int) - 15, mem_offsets.mpr small, small, inside, here.1, by omega⟩
  · rintro ⟨x, isMember, small, -, rowHere, colHere⟩
    have bounds := abs_le.mp small
    exact elsewhere ⟨rowHere, by omega⟩

theorem refreshed_updateColumn (walkable : Walkable) (myPos : Position) (dx : Int)
    (inside : |dx| ≤ 15) (cache : Table Bool) :
    Refreshed (freshAt walkable myPos) (fun row col => row < 19 ∧ (col : Int) = 15 + dx) cache
      (Walker.updateColumn walkable myPos dx cache) := by
  have refreshed := Refreshed.foldl
    (fun cache y => refreshed_updateTileCache walkable myPos dx y cache)
    (offsets maxWalkCacheHeight) cache
  refine ⟨fun row col here => refreshed.inside row col ?_, fun row col elsewhere =>
    refreshed.outside row col ?_⟩
  · have small : |(row : Int) - 9| ≤ 9 := abs_le.mpr (by omega)
    exact ⟨(row : Int) - 9, mem_offsets.mpr small, inside, small, by omega, here.2⟩
  · rintro ⟨y, isMember, -, small, rowHere, colHere⟩
    have bounds := abs_le.mp small
    exact elsewhere ⟨by omega, colHere⟩

end Refreshing

/-! ## A step -/

section Step

variable {walkable : Walkable} {oldPos newPos : Position} {cache : Table Bool}

/-- The row that came into view. -/
def RefreshedRow (oldPos newPos : Position) (row : Nat) : Prop :=
  newPos.getY < oldPos.getY ∧ row = 0 ∨ oldPos.getY < newPos.getY ∧ row = 18

theorem CellRight.moved {x y newX newY : Int} {z : UInt8} {row col otherRow otherCol : Nat}
    {after : Table Bool} (right : CellRight walkable x y z cache otherRow otherCol)
    (sameX : x + (otherCol : Int) = newX + col) (sameY : y + (otherRow : Int) = newY + row)
    (took : after row col = cache otherRow otherCol) :
    CellRight walkable newX newY z after row col := by
  have showsX : x + ((otherCol : Int) - 15) = newX + ((col : Int) - 15) := by omega
  have showsY : y + ((otherRow : Int) - 9) = newY + ((row : Int) - 9) := by omega
  unfold CellRight freshTable at *
  rw [showsX, showsY] at right
  rw [took]
  exact right

theorem shiftY_right (layer : oldPos.z = newPos.z) (near : |newPos.getY - oldPos.getY| ≤ 1)
    (right : CacheRight walkable oldPos cache) {row col : Nat} (rowIn : row < 19)
    (colIn : col < 31) :
    (¬ RefreshedRow oldPos newPos row →
      CellRight walkable oldPos.getX newPos.getY newPos.z
        (Walker.shiftY walkable oldPos newPos cache) row col) ∧
      (RefreshedRow oldPos newPos row →
        CellRight walkable newPos.getX newPos.getY newPos.z
          (Walker.shiftY walkable oldPos newPos cache) row col) := by
  have bounds := abs_le.mp near
  unfold Walker.shiftY RefreshedRow
  rw [← layer]
  split
  · rename_i north
    have refreshed := refreshed_updateRow walkable newPos (-maxWalkCacheHeight)
      (by simp) (copyForth (mapWalkHeight - 1) cache)
    constructor
    · intro kept
      have shifted : Walker.updateRow walkable newPos (-maxWalkCacheHeight)
          (copyForth (mapWalkHeight - 1) cache) row col = cache (row - 1) col := by
        rw [refreshed.outside row col (by simp; omega), copyForth_apply, if_pos (by simp; omega)]
      exact (right (row - 1) (by omega) col colIn).moved rfl (by omega) shifted
    · intro inView _
      rw [layer]
      exact refreshed.inside row col (by simp; omega)
  · split
    · rename_i south
      have refreshed := refreshed_updateRow walkable newPos maxWalkCacheHeight
        (by simp) (copyBack (mapWalkHeight - 1) cache)
      constructor
      · intro kept
        have shifted : Walker.updateRow walkable newPos maxWalkCacheHeight
            (copyBack (mapWalkHeight - 1) cache) row col = cache (row + 1) col := by
          rw [refreshed.outside row col (by simp; omega), copyBack_apply, if_pos (by simp; omega)]
        exact (right (row + 1) (by omega) col colIn).moved rfl (by omega) shifted
      · intro inView _
        rw [layer]
        exact refreshed.inside row col (by simp; omega)
    · refine ⟨fun _ => ?_, fun inView => by omega⟩
      exact (right row rowIn col colIn).moved rfl (by omega) rfl

theorem shiftColumns_apply (shift : (Nat → Bool) → Nat → Bool) {dy : Int} (low : 0 ≤ dy)
    (high : dy ≤ 1) (cache : Table Bool) {row : Nat} (rowIn : row < 19) :
    Walker.shiftColumns dy shift cache row =
      if dy = 1 ∧ row = 0 then cache row else shift (cache row) := by
  rcases (by omega : dy = 0 ∨ dy = 1) with rfl | rfl
  · exact (foldl_range'_apply shift 0 19 cache row).trans (by simp [rowIn])
  · refine (foldl_range'_apply shift 1 18 cache row).trans ?_
    by_cases first : row = 0
    · simp [first]
    · rw [if_pos (by omega), if_neg (by omega)]

/-- East and west, unless the step is also one to the south. -/
theorem shiftX_right (near : |newPos.getX - oldPos.getX| ≤ 1)
    (nearY : |newPos.getY - oldPos.getY| ≤ 1)
    (straight : oldPos.getY < newPos.getY → newPos.getX = oldPos.getX)
    (kept : ∀ row < 19, ∀ col < 31, ¬ RefreshedRow oldPos newPos row →
      CellRight walkable oldPos.getX newPos.getY newPos.z cache row col)
    (inView : ∀ row < 19, ∀ col < 31, RefreshedRow oldPos newPos row →
      CellRight walkable newPos.getX newPos.getY newPos.z cache row col) :
    CacheRight walkable newPos (Walker.shiftX walkable oldPos newPos cache) := by
  have bounds := abs_le.mp near
  have boundsY := abs_le.mp nearY
  -- the distance is one exactly after a step to the north
  have distance : newPos.getX ≠ oldPos.getX →
      oldPos.getDistanceY newPos = if newPos.getY < oldPos.getY then 1 else 0 := by
    intro moved
    unfold Position.getDistanceY Position.getOffsetY
    split
    · rw [abs_of_pos (by omega)]
      omega
    · rw [abs_eq_zero]
      omega
  have rows : ∀ (shift : (Nat → Bool) → Nat → Bool), newPos.getX ≠ oldPos.getX →
      ∀ row < 19, Walker.shiftColumns (oldPos.getDistanceY newPos) shift cache row =
        if newPos.getY < oldPos.getY ∧ row = 0 then cache row else shift (cache row) := by
    intro shift moved row rowIn
    rw [distance moved]
    by_cases north : newPos.getY < oldPos.getY
    · rw [if_pos north, shiftColumns_apply shift (by omega) (by omega) cache rowIn]
      simp [north]
    · rw [if_neg north, shiftColumns_apply shift (by omega) (by omega) cache rowIn]
      simp [north]
  unfold Walker.shiftX
  split
  · rename_i east
    refine .of_refreshed (refreshed_updateColumn _ _ _ (by simp) _) ?_
    intro row rowIn col colIn old
    have shifted := congrFun (rows (copyBack (mapWalkWidth - 1)) (by omega) row rowIn) col
    by_cases first : newPos.getY < oldPos.getY ∧ row = 0
    · rw [if_pos first] at shifted
      exact (inView row rowIn col colIn (.inl first)).moved rfl rfl shifted
    · rw [if_neg first, copyBack_apply, if_pos (by simp at old ⊢; omega)] at shifted
      have right := kept row rowIn (col + 1) (by simp at old; omega) fun inView => by
        rcases inView with north | south
        · exact first north
        · omega
      exact right.moved (by omega) rfl shifted
  · split
    · rename_i west
      refine .of_refreshed (refreshed_updateColumn _ _ _ (by simp) _) ?_
      intro row rowIn col colIn old
      have shifted := congrFun (rows (copyForth (mapWalkWidth - 1)) (by omega) row rowIn) col
      by_cases first : newPos.getY < oldPos.getY ∧ row = 0
      · rw [if_pos first] at shifted
        exact (inView row rowIn col colIn (.inl first)).moved rfl rfl shifted
      · rw [if_neg first, copyForth_apply, if_pos (by simp at old ⊢; omega)] at shifted
        have right := kept row rowIn (col - 1) (by omega) fun inView => by
          rcases inView with north | south
          · exact first north
          · omega
        exact right.moved (by simp at old; omega) rfl shifted
    · intro row rowIn col colIn
      by_cases fresh : RefreshedRow oldPos newPos row
      · exact inView row rowIn col colIn fresh
      · exact (kept row rowIn col colIn fresh).moved (by omega) rfl rfl

end Step

/-! ## Runs -/

/-- What may happen to the creature: a step, a teleport, a step of another creature. -/
inductive WalkOp where
  | walk (newPos : Position)
  | teleport (newPos : Position)
  | otherMoves (oldPos newPos : Position)
deriving DecidableEq

/-- A creature on a map. A step goes to one of the eight neighbours. -/
def walkSystem : System Walker WalkOp where
  legal walker
    | .walk newPos => newPos.z = walker.position.z ∧ newPos ≠ walker.position ∧
        |newPos.getX - walker.position.getX| ≤ 1 ∧ |newPos.getY - walker.position.getY| ≤ 1
    | _ => True
  step walker
    | .walk newPos => walker.onMove walkable newPos false
    | .teleport newPos => walker.onMove walkable newPos true
    | .otherMoves oldPos newPos => walker.onOtherMove walkable oldPos newPos

/-- A creature that appears at a position, with any table before. -/
def appearing (position : Position) (cache : Table Bool) : Walker :=
  { position := position, localMapCache := cache : Walker }.onAppear walkable

/-- For every position of the window but its own the creature knows whether it
may walk there. -/
def ShowsMap (walker : Walker) : Prop :=
  ∀ pos : Position, pos.z = walker.position.z → pos ≠ walker.position →
    |Position.getOffsetX pos walker.position| ≤ maxWalkCacheWidth →
      |Position.getOffsetY pos walker.position| ≤ maxWalkCacheHeight →
        walker.getWalkCache pos = if walkable pos then 1 else 0

/-- The cache is in use and right. -/
structure CacheInvariant (walkable : Walkable) (walker : Walker) : Prop where
  uses : walker.useCacheMap = true
  loaded : walker.isMapLoaded = true
  right : CacheRight walkable walker.position walker.localMapCache

/-- No step goes to the south and to the east or west at once. -/
def NoSouthDiagonal (walker : Walker) : WalkOp → Walker → Prop
  | .walk newPos, _ => walker.position.getY < newPos.getY →
      newPos.getX = walker.position.getX
  | _, _ => True

instance (walkable : Walkable) (walker : Walker) :
    ∀ op, Decidable ((walkSystem walkable).legal walker op)
  | .walk _ => inferInstanceAs (Decidable (_ ∧ _))
  | .teleport _ => .isTrue trivial
  | .otherMoves _ _ => .isTrue trivial

instance (walker after : Walker) : ∀ op, Decidable (NoSouthDiagonal walker op after)
  | .walk _ => inferInstanceAs (Decidable (_ → _))
  | .teleport _ => .isTrue trivial
  | .otherMoves _ _ => .isTrue trivial

theorem CacheInvariant.showsMap {walkable : Walkable} {walker : Walker}
    (invariant : CacheInvariant walkable walker) : ShowsMap walkable walker := by
  intro pos layer other dx dy
  have boundsX := abs_le.mp dx
  have boundsY := abs_le.mp dy
  simp only [maxWalkCacheWidth_eq, maxWalkCacheHeight_eq] at dx dy boundsX boundsY
  have xs : walker.position.getX + ((((15 : Nat) : Int) +
      pos.getOffsetX walker.position).toNat - 15 : Int) = pos.getX := by
    unfold Position.getOffsetX at boundsX ⊢
    omega
  have ys : walker.position.getY + ((((9 : Nat) : Int) +
      pos.getOffsetY walker.position).toNat - 9 : Int) = pos.getY := by
    unfold Position.getOffsetY at boundsY ⊢
    omega
  have cell := invariant.right (((9 : Nat) : Int) + pos.getOffsetY walker.position).toNat
    (by omega) (((15 : Nat) : Int) + pos.getOffsetX walker.position).toNat (by omega)
  unfold CellRight freshTable at cell
  rw [xs, ys, ← layer, at_position] at cell
  unfold Walker.getWalkCache
  simp only [invariant.uses, Bool.not_true, Bool.false_eq_true, if_false, layer, ne_eq,
    not_true_eq_false, other, maxWalkCacheWidth_eq, maxWalkCacheHeight_eq, dx, dy, if_true,
    cell (isPosition_position pos)]

theorem CacheRight.updateTileCacheAt {walkable : Walkable} {myPos pos : Position}
    {cache : Table Bool} (right : CacheRight walkable myPos cache) (layer : pos.z = myPos.z) :
    CacheRight walkable myPos (Walker.updateTileCacheAt myPos (walkable pos) pos cache) :=
  .of_refreshed (refreshed_updateTileCacheAt walkable myPos pos layer cache)
    fun row rowIn col colIn _ => right row rowIn col colIn

theorem walk_step (walker : Walker) (op : WalkOp)
    (invariant : CacheInvariant walkable walker) (legal : (walkSystem walkable).legal walker op)
    (straight : NoSouthDiagonal walker op ((walkSystem walkable).step walker op)) :
    CacheInvariant walkable ((walkSystem walkable).step walker op) := by
  have loaded := invariant.loaded
  cases op with
  | walk newPos =>
    obtain ⟨layer, -, nearX, nearY⟩ := legal
    have stays : ¬ (false = true ∨ walker.position.z ≠ newPos.z) := by simp [layer]
    simp only [walkSystem, Walker.onMove, loaded, Bool.not_true, Bool.false_eq_true, if_false]
    rw [if_neg (by simpa using stays)]
    refine ⟨invariant.uses, rfl, ?_⟩
    refine .updateTileCacheAt ?_ layer.symm
    refine shiftX_right nearX nearY straight (fun row rowIn col colIn kept => ?_)
      (fun row rowIn col colIn inView => ?_)
    · exact (shiftY_right layer.symm nearY invariant.right rowIn colIn).1 kept
    · exact (shiftY_right layer.symm nearY invariant.right rowIn colIn).2 inView
  | teleport newPos =>
    simp only [walkSystem, Walker.onMove, loaded, Bool.not_true, Bool.false_eq_true, if_false,
      true_or, if_true]
    exact ⟨invariant.uses, rfl, cacheRight_updateMapCache _ _ _⟩
  | otherMoves oldPos newPos =>
    simp only [walkSystem, Walker.onOtherMove, loaded, Bool.not_true, Bool.false_eq_true,
      if_false]
    have entered : CacheRight walkable walker.position
        (if newPos.z = walker.position.z then
          Walker.updateTileCacheAt walker.position (walkable newPos) newPos walker.localMapCache
        else walker.localMapCache) := by
      split
      · exact invariant.right.updateTileCacheAt ‹_›
      · exact invariant.right
    refine ⟨invariant.uses, rfl, ?_⟩
    split
    · exact entered.updateTileCacheAt ‹_›
    · exact entered

/-- **The walk cache shows the map** in every run of a creature that appeared
anywhere, as long as no step goes to the south and to the east or west at once. -/
theorem walkCache_shows_map (walkable : Walkable) (position : Position) (cache : Table Bool)
    {ops : List WalkOp}
    (legal : (walkSystem walkable).Legal (appearing walkable position cache) ops)
    (straight : (walkSystem walkable).Throughout NoSouthDiagonal
      (appearing walkable position cache) ops) :
    ShowsMap walkable (appearing walkable position cache) ∧
      (walkSystem walkable).Throughout (fun _ _ after => ShowsMap walkable after)
        (appearing walkable position cache) ops := by
  have initial : CacheInvariant walkable (appearing walkable position cache) :=
    ⟨rfl, rfl, cacheRight_updateMapCache walkable position cache⟩
  refine ⟨initial.showsMap, .of_invariant (fun before op invariant legal
    straight => ?_) initial legal straight⟩
  have after := walk_step walkable before op invariant legal straight
  exact ⟨after.showsMap, after⟩

/-- A map with one walkable column, from north to south. -/
def oneColumn : Walkable := fun pos => pos.x = 101

/-- A walk to the north east, to the south, to the west and elsewhere. -/
theorem walkCache_shows_map_four_steps :
    ShowsMap oneColumn (appearing oneColumn ⟨100, 100, 7⟩ fun _ _ => false) ∧
      (walkSystem oneColumn).Throughout (fun _ _ after => ShowsMap oneColumn after)
        (appearing oneColumn ⟨100, 100, 7⟩ fun _ _ => false)
        [.walk ⟨101, 99, 7⟩, .walk ⟨101, 100, 7⟩, .walk ⟨100, 100, 7⟩, .teleport ⟨50, 50, 6⟩] :=
  walkCache_shows_map oneColumn ⟨100, 100, 7⟩ _ (by decide) (by decide)

/-- After a step to the south east the top row shows the column to the west. -/
theorem south_east_step_leaves_top_row :
    ¬ ((walkSystem oneColumn).Legal (appearing oneColumn ⟨100, 100, 7⟩ fun _ _ => false)
        [.walk ⟨101, 101, 7⟩] →
      (walkSystem oneColumn).Throughout (fun _ _ after => ShowsMap oneColumn after)
        (appearing oneColumn ⟨100, 100, 7⟩ fun _ _ => false) [.walk ⟨101, 101, 7⟩]) := by
  intro holds
  have shows := (holds (by decide)).1 ⟨101, 92, 7⟩ rfl (by decide) (by decide) (by decide)
  revert shows
  decide +kernel

end Otserv.World
