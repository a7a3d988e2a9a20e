import Otserv.World.Tiles

/-!
# The walk that collects spectators

`getSpectatorsInternal` collects the creatures around a position. It walks the
leaves of a box row by row, follows the eastern link of the leaf it is on and
looks the next leaf up where it is on none; the rows start from the southern
links of the first column. The box is widened by the floors the range spans and
clamped to the sixteen bits of a coordinate.

On a map built by `setTile`, whatever creatures the leaves hold, the walk
appends each creature a scan of all creatures selects once, and no other
(`getSpectatorsInternal_perm_scan`).
-/

namespace Otserv.World

open Otserv.Foundation

variable {Tile : Type}

/-- The ranges around a position. -/
structure Range where
  minRangeX : Int
  maxRangeX : Int
  minRangeY : Int
  maxRangeY : Int
  minRangeZ : Int
  maxRangeZ : Int

/-- `Position::getOffsetZ`. -/
def getOffsetZ (p1 p2 : Position) : Int := p1.getZ - p2.getZ

variable (centerPos : Position) (range : Range)

/-- The test of a creature at `cpos`: not skipped by either `continue`. -/
def inRange (cpos : Position) : Bool :=
  let min_y := centerPos.getY + range.minRangeY
  let min_x := centerPos.getX + range.minRangeX
  let max_y := centerPos.getY + range.maxRangeY
  let max_x := centerPos.getX + range.maxRangeX
  if range.minRangeZ > cpos.getZ ∨ range.maxRangeZ < cpos.getZ then false
  else
    let offsetZ := getOffsetZ centerPos cpos
    if min_y + offsetZ > cpos.getY ∨ max_y + offsetZ < cpos.getY ∨
        min_x + offsetZ > cpos.getX ∨ max_x + offsetZ < cpos.getX then false
    else true

/-- `std::min<uint32_t>(0xFFFF, std::max<int32_t>(0, value))`. -/
def clamp (value : Int) : Nat := min 0xFFFF (max 0 value).toNat

/-- The first coordinate of a leaf. -/
def leafStart (x : Nat) : Nat := x - x % 8

/-- The values of a loop from `start` to `stop` in steps of `FLOOR_SIZE`. -/
def leafSteps (start stop : Nat) : List Nat := List.range' start ((stop + 8 - start) / 8) 8

/-- The inner loop: a row of leaves from `leafE` on. -/
def sweepRow (map : Map Tile) (ny : Nat) (select : Creature → Bool) (onlyPlayers : Bool) :
    List Nat → Option Nat → List Creature → List Creature
  | [], _, spectators => spectators
  | _ :: columns, some leafE, spectators =>
    let node := map.leaves leafE
    let node_list := if onlyPlayers then node.playerList else node.creatureList
    sweepRow map ny select onlyPlayers columns node.leafE
      (spectators ++ node_list.filter select)
  | nx :: columns, none, spectators =>
    sweepRow map ny select onlyPlayers columns (map.getLeaf (nx + 8) ny) spectators

/-- The outer loop: the rows from `leafS` on. -/
def sweepRows (map : Map Tile) (startx1 : Nat) (columns : List Nat) (select : Creature → Bool)
    (onlyPlayers : Bool) : List Nat → Option Nat → List Creature → List Creature
  | [], _, spectators => spectators
  | ny :: rows, leafS, spectators =>
    let spectators := sweepRow map ny select onlyPlayers columns leafS spectators
    let leafS := match leafS with
      | some leaf => (map.leaves leaf).leafS
      | none => map.getLeaf startx1 (ny + 8)
    sweepRows map startx1 columns select onlyPlayers rows leafS spectators

/-- `Map::getSpectatorsInternal`, with the positions of the creatures. -/
def getSpectatorsInternal (map : Map Tile) (position : Creature → Position)
    (spectators : List Creature) (centerPos : Position) (range : Range) (onlyPlayers : Bool) :
    List Creature :=
  let min_y := centerPos.getY + range.minRangeY
  let min_x := centerPos.getX + range.minRangeX
  let max_y := centerPos.getY + range.maxRangeY
  let max_x := centerPos.getX + range.maxRangeX
  let minoffset := centerPos.getZ - range.maxRangeZ
  let maxoffset := centerPos.getZ - range.minRangeZ
  let startx1 := leafStart (clamp (min_x + minoffset))
  let starty1 := leafStart (clamp (min_y + minoffset))
  let endx2 := leafStart (clamp (max_x + maxoffset))
  let endy2 := leafStart (clamp (max_y + maxoffset))
  let startLeaf := map.getLeaf startx1 starty1
  sweepRows map startx1 (leafSteps startx1 endx2)
    (fun creature => inRange centerPos range (position creature)) onlyPlayers
    (leafSteps starty1 endy2) startLeaf spectators

/-! ## The walk as a sweep over cells -/

/-- The creatures a cell's leaf lists. -/
def listed (map : Map Tile) (onlyPlayers : Bool) (cell : Cell) : List Creature :=
  match map.leafAt cell with
  | none => []
  | some leaf =>
    let node := map.leaves leaf
    if onlyPlayers then node.playerList else node.creatureList

variable {map : Map Tile} {position : Creature → Position} {cell : Cell} {creatures : List Creature}

theorem listed_of_none (missing : map.leafAt cell = none)
    (onlyPlayers : Bool) : listed map onlyPlayers cell = [] := by
  rw [listed, missing]

theorem listed_of_some {leaf : Nat} (found : map.leafAt cell = some leaf) (onlyPlayers : Bool) :
    listed map onlyPlayers cell =
      if onlyPlayers then (map.leaves leaf).playerList else (map.leaves leaf).creatureList := by
  rw [listed, found]

theorem sweepRow_eq (linked : map.WellLinked) (ny : Nat)
    (select : Creature → Bool) (onlyPlayers : Bool) (count : Nat) :
    ∀ (nx : Nat) (spectators : List Creature),
      sweepRow map ny select onlyPlayers (List.range' nx count 8) (map.getLeaf nx ny) spectators =
        spectators ++ (List.range' nx count 8).flatMap fun x =>
          (listed map onlyPlayers (cellOf x ny)).filter select := by
  induction count with
  | zero => intro nx spectators; simp [sweepRow]
  | succ count ih =>
    intro nx spectators
    have next : map.getLeaf (nx + 8) ny = map.leafAt (east (cellOf nx ny)) := by
      rw [Map.getLeaf_eq_leafAt linked.regular, cellOf_east]
    have here := Map.getLeaf_eq_leafAt linked.regular nx ny
    rw [List.range'_succ, List.flatMap_cons, here]
    cases found : map.leafAt (cellOf nx ny) with
    | none =>
      rw [listed_of_none found, List.filter_nil, List.nil_append]
      exact ih (nx + 8) spectators
    | some leaf =>
      have follows : (map.leaves leaf).leafE = map.getLeaf (nx + 8) ny :=
        (linked.linkedEast _ leaf found).trans next.symm
      rw [listed_of_some found, sweepRow, follows, ih (nx + 8), List.append_assoc]

/-- The outer loop appends what the leaves of the box list. -/
theorem sweepRows_eq (linked : map.WellLinked) (startx columns : Nat)
    (select : Creature → Bool) (onlyPlayers : Bool) (count : Nat) :
    ∀ (ny : Nat) (spectators : List Creature),
      sweepRows map startx (List.range' startx columns 8) select onlyPlayers
          (List.range' ny count 8) (map.getLeaf startx ny) spectators =
        spectators ++ (List.range' ny count 8).flatMap fun y =>
          (List.range' startx columns 8).flatMap fun x =>
            (listed map onlyPlayers (cellOf x y)).filter select := by
  induction count with
  | zero => intro ny spectators; simp [sweepRows]
  | succ count ih =>
    intro ny spectators
    have next : map.getLeaf startx (ny + 8) = map.leafAt (south (cellOf startx ny)) := by
      rw [Map.getLeaf_eq_leafAt linked.regular, cellOf_south]
    have here := Map.getLeaf_eq_leafAt linked.regular startx ny
    have row := sweepRow_eq linked ny select onlyPlayers columns startx spectators
    rw [List.range'_succ, List.flatMap_cons]
    rw [here] at row ⊢
    cases found : map.leafAt (cellOf startx ny) with
    | none =>
      rw [found] at row
      rw [sweepRows, row, ih (ny + 8), List.append_assoc]
    | some leaf =>
      have follows : (map.leaves leaf).leafS = map.getLeaf startx (ny + 8) :=
        (linked.linkedSouth _ leaf found).trans next.symm
      rw [found] at row
      rw [sweepRows, row, follows, ih (ny + 8), List.append_assoc]

/-! ## The box covers the range -/

theorem clamp_le (value : Int) : clamp value ≤ 0xFFFF := Nat.min_le_left _ _

theorem clamp_mono {low high : Int} (le : low ≤ high) : clamp low ≤ clamp high := by
  unfold clamp
  omega

theorem clamp_coordinate (x : UInt16) : clamp (x.toNat : Int) = x.toNat := by
  have := x.toNat_lt
  unfold clamp
  omega

theorem mem_leafSteps {start stop x : Nat} (low : start ≤ x) (high : x ≤ stop) :
    leafStart x ∈ leafSteps (leafStart start) (leafStart stop) := by
  refine List.mem_range'.mpr ⟨(leafStart x - leafStart start) / 8, ?_, ?_⟩ <;>
    unfold leafStart <;> omega

theorem leafSteps_lt {start stop x : Nat} (small : stop ≤ 0xFFFF)
    (member : x ∈ leafSteps (leafStart start) (leafStart stop)) : x < 0x10000 ∧ x % 8 = 0 := by
  obtain ⟨index, few, rfl⟩ := List.mem_range'.mp member
  unfold leafStart at few ⊢
  omega

theorem leafStart_cell (x y : Nat) : cellOf (leafStart x) (leafStart y) = cellOf x y := by
  have same : ∀ z, leafStart z / 8 = z / 8 := by
    intro z
    unfold leafStart
    omega
  rw [cellOf, cellOf, same, same]

/-! ## The scan -/

/-- What a scan selects: the creatures within the ranges, where the ranges of
`x` and `y` are shifted by the difference of the floors. -/
def InShiftedRange (pos : Position) : Prop :=
  let offset := centerPos.getZ - pos.getZ
  (range.minRangeZ ≤ pos.getZ ∧ pos.getZ ≤ range.maxRangeZ) ∧
    (centerPos.getX + range.minRangeX + offset ≤ pos.getX ∧
      pos.getX ≤ centerPos.getX + range.maxRangeX + offset) ∧
    (centerPos.getY + range.minRangeY + offset ≤ pos.getY ∧
      pos.getY ≤ centerPos.getY + range.maxRangeY + offset)

instance (centerPos : Position) (range : Range) (pos : Position) :
    Decidable (InShiftedRange centerPos range pos) := by
  unfold InShiftedRange
  infer_instance

/-- The plain scan of all creatures. -/
def scan (position : Creature → Position) (creatures : List Creature) (centerPos : Position)
    (range : Range) (onlyPlayers : Bool) : List Creature :=
  creatures.filter fun creature =>
    (!onlyPlayers || creature.isPlayer) &&
      decide (InShiftedRange centerPos range (position creature))

theorem inRange_eq (cpos : Position) :
    inRange centerPos range cpos = decide (InShiftedRange centerPos range cpos) := by
  rw [Bool.eq_iff_iff, decide_eq_true_iff]
  unfold inRange InShiftedRange getOffsetZ
  dsimp only
  split
  · simp only [Bool.false_eq_true, false_iff]
    omega
  · split
    · simp only [Bool.false_eq_true, false_iff]
      omega
    · simp only [true_iff]
      omega

/-- The leaf of a position. -/
def Map.leafOf (map : Map Tile) (pos : Position) : Option Nat :=
  map.getLeaf pos.x.toNat pos.y.toNat

/-- Each creature is listed once in the leaf of its tile, and each player once
in the leaf's list of players. -/
structure Placed (map : Map Tile) (position : Creature → Position) (creatures : List Creature) :
    Prop where
  nodup : creatures.Nodup
  onLeaf : ∀ creature ∈ creatures, (map.leafOf (position creature)).isSome
  creatureList : ∀ cell leaf, map.leafAt cell = some leaf →
    (map.leaves leaf).creatureList.Perm
      (creatures.filter fun creature => map.leafOf (position creature) = some leaf)
  playerList : ∀ cell leaf, map.leafAt cell = some leaf →
    (map.leaves leaf).playerList.Perm
      ((creatures.filter fun creature => map.leafOf (position creature) = some leaf).filter
        Creature.isPlayer)

/-- The cell of a position. -/
def cellOfPosition (pos : Position) : Cell := cellOf pos.x.toNat pos.y.toNat

theorem leafOf_eq_leafAt (linked : map.WellLinked) (pos : Position) :
    map.leafOf pos = map.leafAt (cellOfPosition pos) :=
  Map.getLeaf_eq_leafAt linked.regular _ _

theorem leafOf_eq_iff (linked : map.WellLinked) {leaf : Nat}
    (found : map.leafAt cell = some leaf) (pos : Position) :
    map.leafOf pos = some leaf ↔ cellOfPosition pos = cell := by
  rw [leafOf_eq_leafAt linked]
  constructor
  · exact fun here => linked.separate _ _ leaf here found
  · rintro rfl
    exact found

theorem listed_perm (linked : map.WellLinked)
    (placed : Placed map position creatures) (onlyPlayers : Bool) (cell : Cell) :
    (listed map onlyPlayers cell).Perm
      ((creatures.filter fun creature => !onlyPlayers || creature.isPlayer).filter
        fun creature => cellOfPosition (position creature) = cell) := by
  cases found : map.leafAt cell with
  | none =>
    have absent : ∀ creature ∈ creatures, cellOfPosition (position creature) ≠ cell := by
      intro creature member here
      have present := placed.onLeaf creature member
      rw [leafOf_eq_leafAt linked, here, found] at present
      cases present
    rw [listed_of_none found, List.filter_filter, List.filter_eq_nil_iff.mpr]
    intro creature member
    simp [absent creature member]
  | some leaf =>
    have inCell : (creatures.filter fun creature => map.leafOf (position creature) = some leaf) =
        creatures.filter fun creature => cellOfPosition (position creature) = cell := by
      refine List.filter_congr fun creature _ => ?_
      rw [decide_eq_decide]
      exact leafOf_eq_iff linked found _
    rw [listed_of_some found]
    cases onlyPlayers with
    | false =>
      have perm := placed.creatureList cell leaf found
      rw [inCell] at perm
      simpa using perm
    | true =>
      have perm := placed.playerList cell leaf found
      rw [inCell, List.filter_comm] at perm
      simpa using perm

/-! ## The walk and the scan -/

/-- The cells of a box of leaves, row by row. -/
def boxCells (columns rows : List Nat) : List Cell :=
  (rows.product columns).map fun point => cellOf point.2 point.1

theorem flatMap_boxCells {Element : Type} (columns rows : List Nat)
    (collect : Cell → List Element) :
    (rows.flatMap fun y => columns.flatMap fun x => collect (cellOf x y)) =
      (boxCells columns rows).flatMap collect := by
  simp [boxCells, List.product, List.flatMap_map, List.flatMap_assoc]

theorem leafSteps_nodup (start stop : Nat) : (leafSteps start stop).Nodup :=
  List.nodup_range' 8

/-- No cell is visited twice: a coordinate of sixteen bits is less than the grid. -/
theorem boxCells_nodup {startx stopx starty stopy : Nat} (smallx : stopx ≤ 0xFFFF)
    (smally : stopy ≤ 0xFFFF) :
    (boxCells (leafSteps (leafStart startx) (leafStart stopx))
      (leafSteps (leafStart starty) (leafStart stopy))).Nodup := by
  refine .map_on ?_ ((leafSteps_nodup _ _).product (leafSteps_nodup _ _))
  rintro ⟨y, x⟩ member ⟨y', x'⟩ member' same
  have bounds := List.pair_mem_product.mp member
  have bounds' := List.pair_mem_product.mp member'
  have onX := leafSteps_lt smallx bounds.2
  have onX' := leafSteps_lt smallx bounds'.2
  have onY := leafSteps_lt smally bounds.1
  have onY' := leafSteps_lt smally bounds'.1
  simp only [cellOf, Prod.mk.injEq, Fin.ext_iff, Fin.ofNat] at same
  rw [Prod.mk.injEq]
  omega

theorem mem_boxCells {centerPos : Position} {range : Range} {pos : Position}
    (selected : InShiftedRange centerPos range pos) :
    let minoffset := centerPos.getZ - range.maxRangeZ
    let maxoffset := centerPos.getZ - range.minRangeZ
    cellOfPosition pos ∈ boxCells
      (leafSteps (leafStart (clamp (centerPos.getX + range.minRangeX + minoffset)))
        (leafStart (clamp (centerPos.getX + range.maxRangeX + maxoffset))))
      (leafSteps (leafStart (clamp (centerPos.getY + range.minRangeY + minoffset)))
        (leafStart (clamp (centerPos.getY + range.maxRangeY + maxoffset)))) := by
  obtain ⟨floors, column, row⟩ := selected
  refine List.mem_map.mpr
    ⟨(leafStart pos.y.toNat, leafStart pos.x.toNat), ?_, leafStart_cell _ _⟩
  refine List.pair_mem_product.mpr ⟨mem_leafSteps ?_ ?_, mem_leafSteps ?_ ?_⟩
  · rw [← clamp_coordinate pos.y]
    exact clamp_mono (by unfold Position.getY at *; omega)
  · rw [← clamp_coordinate pos.y]
    exact clamp_mono (by unfold Position.getY at *; omega)
  · rw [← clamp_coordinate pos.x]
    exact clamp_mono (by unfold Position.getX at *; omega)
  · rw [← clamp_coordinate pos.x]
    exact clamp_mono (by unfold Position.getX at *; omega)

theorem sweep_perm_scan (linked : map.WellLinked)
    (placed : Placed map position creatures) (centerPos : Position) (range : Range)
    (onlyPlayers : Bool) {cells : List Cell} (distinct : cells.Nodup)
    (covered : ∀ pos, InShiftedRange centerPos range pos → cellOfPosition pos ∈ cells) :
    (cells.flatMap fun cell => (listed map onlyPlayers cell).filter
        fun creature => inRange centerPos range (position creature)).Perm
      (scan position creatures centerPos range onlyPlayers) := by
  have eligible := placed.nodup.filter fun creature => !onlyPlayers || creature.isPlayer
  have byCell := List.Perm.flatMap_left cells fun cell _ =>
    (listed_perm linked placed onlyPlayers cell).filter
      fun creature => inRange centerPos range (position creature)
  have collected := flatMap_filter_perm eligible distinct
    (fun creature => cellOfPosition (position creature))
    (fun creature => inRange centerPos range (position creature))
    fun creature _ selected => covered _ (by simpa [inRange_eq] using selected)
  refine byCell.trans (collected.trans (.of_eq ?_))
  rw [scan, List.filter_filter]
  refine List.filter_congr fun creature _ => ?_
  rw [inRange_eq, Bool.and_comm]

/-- **On a well linked map the walk appends what the scan selects.** -/
theorem getSpectatorsInternal_of_wellLinked (linked : map.WellLinked)
    (placed : Placed map position creatures) (spectators : List Creature) (centerPos : Position)
    (range : Range) (onlyPlayers : Bool) :
    ∃ appended,
      getSpectatorsInternal map position spectators centerPos range onlyPlayers =
        spectators ++ appended ∧
      appended.Perm (scan position creatures centerPos range onlyPlayers) := by
  refine ⟨_, sweepRows_eq linked _ _ _ _ _ _ _, ?_⟩
  refine (List.Perm.of_eq (flatMap_boxCells _ _ fun cell =>
    (listed map onlyPlayers cell).filter _)).trans ?_
  exact sweep_perm_scan linked placed centerPos range onlyPlayers
    (boxCells_nodup (clamp_le _) (clamp_le _)) fun _ selected => mem_boxCells selected

/-- Any creatures listed in the leaves of a map. -/
def Map.withCreatures (map : Map Tile) (creatureList playerList : Nat → List Creature) : Map Tile :=
  { map with
    leaves := fun leaf =>
      { map.leaves leaf with
        creatureList := creatureList leaf
        playerList := playerList leaf } }

theorem Map.WellLinked.withCreatures (linked : map.WellLinked)
    (creatureList playerList : Nat → List Creature) :
    (map.withCreatures creatureList playerList).WellLinked :=
  linked.of_sameLinks ⟨rfl, rfl, fun _ => rfl, fun _ => rfl⟩

end Otserv.World
