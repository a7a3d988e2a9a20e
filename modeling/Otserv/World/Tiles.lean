import Otserv.Foundation.LinkedGrid
import Otserv.World.QuadTree

/-!
# Tiles and the links between leaves

`setTile` enters a tile into the leaf of its point. When the leaf is new, it is
linked to its neighbours: each leaf knows the leaf to its east and the leaf to
its south.

On every map built by `setTile` the links lead where a lookup of the next cell
leads (`WellLinked`, `setTiles_wellLinked`).
-/

namespace Otserv.World

open Otserv.Foundation
open Function (update update_of_ne update_self)

structure Position where
  x : UInt16
  y : UInt16
  z : UInt8
deriving DecidableEq

namespace Position

variable (pos : Position)

def getX : Int := pos.x.toNat

def getY : Int := pos.y.toNat

def getZ : Int := pos.z.toNat

end Position

def maxViewportX : Int := 15

def maxViewportY : Int := 9

/-- A creature, and whether it is a player. -/
structure Creature where
  id : UInt32
  isPlayer : Bool
deriving DecidableEq

variable {Tile : Type}

/-- `Floor`: the tiles of a leaf on one layer. -/
abbrev Floor (Tile : Type) := Fin 8 → Fin 8 → Option Tile

/-- A leaf, with the addresses of the leaves to its south and east. -/
structure QTreeLeafNode (Tile : Type) where
  leafS : Option Nat := none
  leafE : Option Nat := none
  array : Fin 16 → Option (Floor Tile) := fun _ => none
  creatureList : List Creature := []
  playerList : List Creature := []

/-- The map: the tree and the leaves by their addresses. -/
structure Map (Tile : Type) where
  root : QTreeNode := .empty
  leaves : Nat → QTreeLeafNode Tile := fun _ => {}
  allocated : Nat := 0

namespace Map

/-- `getQTNode`, and `getLeafStatic` on the root. -/
def getLeaf (map : Map Tile) (x y : Nat) : Option Nat := map.root.getLeaf x y

def modifyLeaf (address : Nat) (change : QTreeLeafNode Tile → QTreeLeafNode Tile)
    (map : Map Tile) : Map Tile :=
  { map with leaves := update map.leaves address (change (map.leaves address)) }

/-- The leaf of a point, made when it is missing: the map, the leaf and `newLeaf`. -/
def createLeaf (x y : Nat) (map : Map Tile) : Map Tile × Nat × Bool :=
  let (root, leaf, newLeaf) := Otserv.World.createLeaf map.allocated levels map.root x y
  if newLeaf then
    ({ root := root
       leaves := update map.leaves leaf {}
       allocated := map.allocated + 1 }, leaf, newLeaf)
  else ({ map with root := root }, leaf, newLeaf)

/-- A difference of unsigned 32-bit numbers. -/
def minusFloorSize (x : Nat) : Nat := (x + (2 ^ 32 - 8)) % 2 ^ 32

/-- When both leaves are there, the second becomes the southern one of the first. -/
def linkS (leaf southLeaf : Option Nat) (map : Map Tile) : Map Tile :=
  match leaf, southLeaf with
  | some leaf, some southLeaf =>
    map.modifyLeaf leaf fun node => { node with leafS := some southLeaf }
  | _, _ => map

/-- When both leaves are there, the second becomes the eastern one of the first. -/
def linkE (leaf eastLeaf : Option Nat) (map : Map Tile) : Map Tile :=
  match leaf, eastLeaf with
  | some leaf, some eastLeaf =>
    map.modifyLeaf leaf fun node => { node with leafE := some eastLeaf }
  | _, _ => map

/-- The block of `setTile` after a new leaf is made: update north, west, south
and east. -/
def linkNewLeaf (x y leaf : Nat) (map : Map Tile) : Map Tile :=
  let northLeaf := map.getLeaf x (minusFloorSize y)
  let westLeaf := map.getLeaf (minusFloorSize x) y
  let southLeaf := map.getLeaf x (y + 8)
  let eastLeaf := map.getLeaf (x + 8) y
  (((map.linkS northLeaf (some leaf)).linkE westLeaf (some leaf)).linkS (some leaf)
    southLeaf).linkE (some leaf) eastLeaf

variable (takeOver : Tile → Tile → Tile)

/-- `createFloor` on the layer, and the tile entered at its place on the floor. -/
def placeOnFloor (x y : Nat) (layer : Fin 16) (newTile : Tile)
    (node : QTreeLeafNode Tile) : QTreeLeafNode Tile :=
  let floor := (node.array layer).getD fun _ _ => none
  let offsetX : Fin 8 := Fin.ofNat 8 x
  let offsetY : Fin 8 := Fin.ofNat 8 y
  let tile := match floor offsetX offsetY with
    | some tile => takeOver tile newTile
    | none => newTile
  { node with
    array := update node.array layer
      (some (update floor offsetX (update (floor offsetX) offsetY (some tile)))) }

/-- `setTile`. A tile that is there already takes over the items and the ground
of the new one. -/
def setTile (takeOver : Tile → Tile → Tile) (pos : Position) (newTile : Tile) (map : Map Tile) :
    Map Tile :=
  if layer : pos.z.toNat < 16 then
    let x := pos.x.toNat
    let y := pos.y.toNat
    let (created, leaf, newLeaf) := map.createLeaf x y
    let linked := if newLeaf then created.linkNewLeaf x y leaf else created
    linked.modifyLeaf leaf (placeOnFloor takeOver x y ⟨pos.z.toNat, layer⟩ newTile)
  else map

/-- The map after a sequence of `setTile` calls. -/
def setTiles (tiles : List (Position × Tile)) (map : Map Tile) : Map Tile :=
  tiles.foldl (fun map (pos, newTile) => map.setTile takeOver pos newTile) map

def getTile (pos : Position) (map : Map Tile) : Option Tile :=
  if layer : pos.z.toNat < 16 then
    match map.getLeaf pos.x.toNat pos.y.toNat with
    | none => none
    | some leaf =>
      match (map.leaves leaf).array ⟨pos.z.toNat, layer⟩ with
      | none => none
      | some floor => floor (Fin.ofNat 8 pos.x.toNat) (Fin.ofNat 8 pos.y.toNat)
  else none

/-- The leaf of a cell. -/
def leafAt (map : Map Tile) : Cell → Option Nat := map.root.leafAt

/-! ## The link invariant -/

/-- Each cell has a leaf of its own, and the links of a leaf lead to the leaves
of the next cells. -/
structure WellLinked (map : Map Tile) : Prop where
  regular : Regular levels map.root
  allocated : ∀ cell leaf, map.leafAt cell = some leaf → leaf < map.allocated
  separate : SeparateNodes map.leafAt
  linkedEast : Linked map.leafAt (fun leaf => (map.leaves leaf).leafE) east
  linkedSouth : Linked map.leafAt (fun leaf => (map.leaves leaf).leafS) south

theorem leafAt_empty (cell : Cell) : ({} : Map Tile).leafAt cell = none := rfl

theorem wellLinked_empty : WellLinked ({} : Map Tile) where
  regular := regular_empty
  allocated cell leaf found := by rw [leafAt_empty] at found; cases found
  separate cell other leaf found := by rw [leafAt_empty] at found; cases found
  linkedEast cell leaf found := by rw [leafAt_empty] at found; cases found
  linkedSouth cell leaf found := by rw [leafAt_empty] at found; cases found

theorem getLeaf_eq_leafAt {map : Map Tile} (regular : Regular levels map.root) (x y : Nat) :
    map.getLeaf x y = map.leafAt (cellOf x y) := Otserv.World.getLeaf_eq_leafAt regular x y

@[simp] theorem leafAt_modifyLeaf (map : Map Tile) (address : Nat)
    (change : QTreeLeafNode Tile → QTreeLeafNode Tile) :
    (map.modifyLeaf address change).leafAt = map.leafAt := rfl

theorem leaves_modifyLeaf (map : Map Tile) (address : Nat)
    (change : QTreeLeafNode Tile → QTreeLeafNode Tile) (leaf : Nat) :
    (map.modifyLeaf address change).leaves leaf =
      if leaf = address then change (map.leaves leaf) else map.leaves leaf := by
  by_cases here : leaf = address
  · subst here
    simp [modifyLeaf]
  · simp [modifyLeaf, here]

/-- Two maps with the same tree and the same links. -/
structure SameLinks (map other : Map Tile) : Prop where
  root : other.root = map.root
  allocated : other.allocated = map.allocated
  leafE : ∀ leaf, (other.leaves leaf).leafE = (map.leaves leaf).leafE
  leafS : ∀ leaf, (other.leaves leaf).leafS = (map.leaves leaf).leafS

theorem SameLinks.leafAt {map other : Map Tile} (same : SameLinks map other) :
    other.leafAt = map.leafAt := by
  unfold Map.leafAt
  rw [same.root]

theorem WellLinked.of_sameLinks {map other : Map Tile} (linked : WellLinked map)
    (same : SameLinks map other) : WellLinked other where
  regular := same.root ▸ linked.regular
  allocated := by
    rw [same.leafAt, same.allocated]
    exact linked.allocated
  separate := same.leafAt ▸ linked.separate
  linkedEast cell leaf found := by
    rw [same.leafAt] at found ⊢
    exact (same.leafE leaf).trans <| linked.linkedEast cell leaf found
  linkedSouth cell leaf found := by
    rw [same.leafAt] at found ⊢
    exact (same.leafS leaf).trans <| linked.linkedSouth cell leaf found

theorem sameLinks_modifyLeaf (map : Map Tile) (address : Nat)
    {change : QTreeLeafNode Tile → QTreeLeafNode Tile}
    (keepsE : ∀ node, (change node).leafE = node.leafE)
    (keepsS : ∀ node, (change node).leafS = node.leafS) :
    SameLinks map (map.modifyLeaf address change) where
  root := rfl
  allocated := rfl
  leafE leaf := by rw [leaves_modifyLeaf]; split <;> simp only [keepsE]
  leafS leaf := by rw [leaves_modifyLeaf]; split <;> simp only [keepsS]

/-! ## Making a leaf -/

theorem createLeaf_of_some {map : Map Tile} (regular : Regular levels map.root) {x y leaf : Nat}
    (found : map.getLeaf x y = some leaf) : map.createLeaf x y = (map, leaf, false) := by
  have made := World.createLeaf_of_some map.allocated regular found
  simp only [createLeaf, made]
  rfl

theorem createLeaf_of_none {map : Map Tile} (regular : Regular levels map.root) {x y : Nat}
    (missing : map.getLeaf x y = none) :
    ∃ made : Map Tile, map.createLeaf x y = (made, map.allocated, true) ∧
      Regular levels made.root ∧ made.allocated = map.allocated + 1 ∧
      made.leafAt = update map.leafAt (cellOf x y) (some map.allocated) ∧
      made.leaves = update map.leaves map.allocated {} := by
  have result := createLeaf_result map.allocated regular x y
  rw [show map.root.getLeaf x y = none from missing] at result
  have found := leafAt_createLeaf map.allocated regular x y
  rw [show map.root.getLeaf x y = none from missing] at found
  refine ⟨(map.createLeaf x y).1, ?_, ?_, ?_, ?_, ?_⟩
  all_goals simp only [createLeaf, result, Option.getD_none, Option.isNone_none, if_true]
  · exact regular_createLeaf map.allocated regular x y
  · exact found

section

variable (map : Map Tile)
include map

variable (leaf southLeaf : Option Nat)

@[simp] theorem root_linkS : (map.linkS leaf southLeaf).root = map.root := by
  cases leaf <;> cases southLeaf <;> rfl

@[simp] theorem root_linkE (leaf eastLeaf : Option Nat) :
    (map.linkE leaf eastLeaf).root = map.root := by
  cases leaf <;> cases eastLeaf <;> rfl

@[simp] theorem allocated_linkS : (map.linkS leaf southLeaf).allocated = map.allocated := by
  cases leaf <;> cases southLeaf <;> rfl

@[simp] theorem allocated_linkE (leaf eastLeaf : Option Nat) :
    (map.linkE leaf eastLeaf).allocated = map.allocated := by
  cases leaf <;> cases eastLeaf <;> rfl

@[simp] theorem leafE_linkS (other : Nat) :
    ((map.linkS leaf southLeaf).leaves other).leafE = (map.leaves other).leafE := by
  cases leaf <;> cases southLeaf <;> simp only [linkS, leaves_modifyLeaf]
  split <;> rfl

@[simp] theorem leafS_linkE (leaf eastLeaf : Option Nat) (other : Nat) :
    ((map.linkE leaf eastLeaf).leaves other).leafS = (map.leaves other).leafS := by
  cases leaf <;> cases eastLeaf <;> simp only [linkE, leaves_modifyLeaf]
  split <;> rfl

theorem leafS_linkS (other : Nat) :
    ((map.linkS leaf southLeaf).leaves other).leafS =
      if leaf = some other then southLeaf.or (map.leaves other).leafS
      else (map.leaves other).leafS := by
  rcases leaf with _ | leaf
  · rfl
  rcases southLeaf with _ | southLeaf
  · simp [linkS]
  · by_cases here : other = leaf
    · simp [linkS, leaves_modifyLeaf, here]
    · simp [linkS, leaves_modifyLeaf, here, Ne.symm here]

theorem leafE_linkE (leaf eastLeaf : Option Nat) (other : Nat) :
    ((map.linkE leaf eastLeaf).leaves other).leafE =
      if leaf = some other then eastLeaf.or (map.leaves other).leafE
      else (map.leaves other).leafE := by
  rcases leaf with _ | leaf
  · rfl
  rcases eastLeaf with _ | eastLeaf
  · simp [linkE]
  · by_cases here : other = leaf
    · simp [linkE, leaves_modifyLeaf, here]
    · simp [linkE, leaves_modifyLeaf, here, Ne.symm here]

theorem leafS_linkNewLeaf (x y leaf other : Nat) :
    ((map.linkNewLeaf x y leaf).leaves other).leafS =
      if other = leaf then (map.getLeaf x (y + 8)).or
        (if map.getLeaf x (minusFloorSize y) = some leaf then some leaf
          else (map.leaves leaf).leafS)
      else if map.getLeaf x (minusFloorSize y) = some other then some leaf
      else (map.leaves other).leafS := by
  by_cases new : other = leaf
  · subst new
    simp [linkNewLeaf, leafS_linkS]
  · simp [linkNewLeaf, leafS_linkS, new, Ne.symm new]

theorem leafE_linkNewLeaf (x y leaf other : Nat) :
    ((map.linkNewLeaf x y leaf).leaves other).leafE =
      if other = leaf then (map.getLeaf (x + 8) y).or
        (if map.getLeaf (minusFloorSize x) y = some leaf then some leaf
          else (map.leaves leaf).leafE)
      else if map.getLeaf (minusFloorSize x) y = some other then some leaf
      else (map.leaves other).leafE := by
  by_cases new : other = leaf
  · subst new
    simp [linkNewLeaf, leafE_linkE]
  · simp [linkNewLeaf, leafE_linkE, new, Ne.symm new]

@[simp] theorem root_linkNewLeaf (x y leaf : Nat) :
    (map.linkNewLeaf x y leaf).root = map.root := by simp [linkNewLeaf]

@[simp] theorem allocated_linkNewLeaf (x y leaf : Nat) :
    (map.linkNewLeaf x y leaf).allocated = map.allocated := by simp [linkNewLeaf]

end

/-- **A new leaf keeps the links right** once it is linked. -/
theorem WellLinked.newLeaf {map made : Map Tile} (linked : WellLinked map) {x y : Nat}
    (regular : Regular levels made.root) (counted : made.allocated = map.allocated + 1)
    (leafAt : made.leafAt = update map.leafAt (cellOf x y) (some map.allocated))
    (leaves : made.leaves = update map.leaves map.allocated {}) :
    WellLinked (made.linkNewLeaf x y map.allocated) := by
  have fresh : ∀ other, map.leafAt other ≠ some map.allocated :=
    fun other found => Nat.lt_irrefl _ (linked.allocated other _ found)
  have afterAt : (made.linkNewLeaf x y map.allocated).leafAt = made.leafAt := by
    unfold Map.leafAt
    rw [root_linkNewLeaf]
  have away : ∀ cell, cell ≠ cellOf x y → made.leafAt cell = map.leafAt cell :=
    fun cell different => by rw [leafAt, update_of_ne different]
  have atEast : made.getLeaf (x + 8) y = made.leafAt (east (cellOf x y)) := by
    rw [getLeaf_eq_leafAt regular, cellOf_east]
  have atSouth : made.getLeaf x (y + 8) = made.leafAt (south (cellOf x y)) := by
    rw [getLeaf_eq_leafAt regular, cellOf_south]
  have atWest : made.getLeaf (minusFloorSize x) y = map.leafAt (west (cellOf x y)) := by
    rw [getLeaf_eq_leafAt regular, minusFloorSize, cellOf_west, away _ (west_ne _)]
  have atNorth : made.getLeaf x (minusFloorSize y) = map.leafAt (north (cellOf x y)) := by
    rw [getLeaf_eq_leafAt regular, minusFloorSize, cellOf_north, away _ (north_ne _)]
  have blank : made.leaves map.allocated = {} := by rw [leaves, update_self]
  have kept : ∀ other, other ≠ map.allocated → made.leaves other = map.leaves other :=
    fun other old => by rw [leaves, update_of_ne old]
  constructor
  · rw [root_linkNewLeaf]
    exact regular
  · intro cell leaf found
    rw [allocated_linkNewLeaf, counted]
    rw [afterAt] at found
    by_cases here : cell = cellOf x y
    · rw [leafAt, here, update_self, Option.some.injEq] at found
      omega
    · have := linked.allocated cell leaf (away cell here ▸ found)
      omega
  · rw [afterAt, leafAt]
    exact linked.separate.insert fresh
  · rw [afterAt, leafAt]
    refine linked.linkedEast.insert (east_eq_iff · _) fresh ?_ ?_ ?_ linked.separate
    · rw [leafE_linkNewLeaf, if_pos rfl, atWest, if_neg (fresh _), blank, atEast, leafAt]
      exact Option.or_none
    · intro other old found
      rw [leafE_linkNewLeaf, if_neg old, atWest, if_pos found]
    · intro other old apart
      rw [leafE_linkNewLeaf, if_neg old, atWest, if_neg apart, kept other old]
  · rw [afterAt, leafAt]
    refine linked.linkedSouth.insert (south_eq_iff · _) fresh ?_ ?_ ?_ linked.separate
    · rw [leafS_linkNewLeaf, if_pos rfl, atNorth, if_neg (fresh _), blank, atSouth, leafAt]
      exact Option.or_none
    · intro other old found
      rw [leafS_linkNewLeaf, if_neg old, atNorth, if_pos found]
    · intro other old apart
      rw [leafS_linkNewLeaf, if_neg old, atNorth, if_neg apart, kept other old]

/-! ## Entering tiles -/

/-- **Entering a tile keeps the links right.** -/
theorem WellLinked.setTile {map : Map Tile} (linked : WellLinked map)
    (takeOver : Tile → Tile → Tile) (pos : Position) (newTile : Tile) :
    WellLinked (map.setTile takeOver pos newTile) := by
  unfold Map.setTile
  split
  · cases found : map.getLeaf pos.x.toNat pos.y.toNat with
    | some leaf =>
      dsimp only
      rw [createLeaf_of_some linked.regular found]
      exact linked.of_sameLinks
        (sameLinks_modifyLeaf map leaf (fun _ => rfl) (fun _ => rfl))
    | none =>
      obtain ⟨made, equation, regular, counted, leafAt, leaves⟩ :=
        createLeaf_of_none linked.regular found
      dsimp only
      rw [equation]
      exact (linked.newLeaf regular counted leafAt leaves).of_sameLinks
        (sameLinks_modifyLeaf _ _ (fun _ => rfl) (fun _ => rfl))
  · exact linked

/-- **The links are right on every map built by `setTile`.** -/
theorem setTiles_wellLinked (takeOver : Tile → Tile → Tile) (tiles : List (Position × Tile))
    {map : Map Tile} (linked : WellLinked map) : WellLinked (map.setTiles takeOver tiles) := by
  induction tiles generalizing map with
  | nil => exact linked
  | cons entry tiles ih => exact ih (linked.setTile takeOver entry.1 entry.2)

/-! ## What entering a tile leaves alone -/

/-- The creatures and the players a leaf lists. -/
def lists (map : Map Tile) (leaf : Nat) : List Creature × List Creature :=
  ((map.leaves leaf).creatureList, (map.leaves leaf).playerList)

@[simp] theorem lists_linkS (map : Map Tile) (leaf southLeaf : Option Nat) :
    (map.linkS leaf southLeaf).lists = map.lists := by
  funext other
  cases leaf <;> cases southLeaf <;> simp only [linkS, lists, leaves_modifyLeaf]
  split <;> rfl

@[simp] theorem lists_linkE (map : Map Tile) (leaf eastLeaf : Option Nat) :
    (map.linkE leaf eastLeaf).lists = map.lists := by
  funext other
  cases leaf <;> cases eastLeaf <;> simp only [linkE, lists, leaves_modifyLeaf]
  split <;> rfl

theorem lists_placeOnFloor (map : Map Tile) (takeOver : Tile → Tile → Tile) (x y : Nat)
    (layer : Fin 16) (newTile : Tile) (leaf : Nat) :
    (map.modifyLeaf leaf (placeOnFloor takeOver x y layer newTile)).lists = map.lists := by
  funext other
  simp only [lists, leaves_modifyLeaf]
  split <;> rfl

theorem lists_setTile {map : Map Tile} (linked : WellLinked map)
    (takeOver : Tile → Tile → Tile) (pos : Position) (newTile : Tile) :
    (map.setTile takeOver pos newTile).lists = map.lists ∨
      (map.setTile takeOver pos newTile).lists =
        update map.lists map.allocated ([], []) := by
  unfold Map.setTile
  split
  · cases found : map.getLeaf pos.x.toNat pos.y.toNat with
    | some leaf =>
      dsimp only
      rw [createLeaf_of_some linked.regular found, lists_placeOnFloor]
      exact .inl rfl
    | none =>
      obtain ⟨made, equation, -, -, -, leaves⟩ := createLeaf_of_none linked.regular found
      dsimp only
      rw [equation, lists_placeOnFloor]
      refine .inr ?_
      simp only [if_true, linkNewLeaf, lists_linkE, lists_linkS]
      funext leaf
      by_cases new : leaf = map.allocated
      · simp [lists, leaves, new]
      · simp [lists, leaves, new]
  · exact .inl rfl

theorem leafAt_setTile {map : Map Tile} (linked : WellLinked map)
    (takeOver : Tile → Tile → Tile) {pos : Position} (layer : pos.z.toNat < 16) (newTile : Tile) :
    (map.setTile takeOver pos newTile).leafAt =
      update map.leafAt (cellOf pos.x.toNat pos.y.toNat)
        (some ((map.getLeaf pos.x.toNat pos.y.toNat).getD map.allocated)) := by
  unfold Map.setTile
  rw [dif_pos layer]
  cases found : map.getLeaf pos.x.toNat pos.y.toNat with
  | some leaf =>
    dsimp only
    rw [createLeaf_of_some linked.regular found, leafAt_modifyLeaf]
    refine (Function.update_eq_self_iff.mpr ?_).symm
    change _ = map.leafAt _
    rw [← getLeaf_eq_leafAt linked.regular, found, Option.getD_some]
  | none =>
    obtain ⟨made, equation, -, -, leafAt, -⟩ := createLeaf_of_none linked.regular found
    dsimp only
    rw [equation, leafAt_modifyLeaf, Option.getD_none, ← leafAt]
    simp only [if_true, Map.leafAt, root_linkNewLeaf]

end Map

end Otserv.World
