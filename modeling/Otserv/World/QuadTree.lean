import Mathlib.Data.Nat.Bitwise
import Mathlib.Tactic.NormNum
import Otserv.Foundation.Numerals

/-!
# The quadtree of the map

The map keeps its tiles in leaves of eight by eight tiles. A leaf is found from
the root by the bits 15 to 3 of the two coordinates, one bit of each at every
level, so that the tree has thirteen levels and a leaf for each of 8192 by 8192
cells (`getLeaf_eq_leafAt`). Coordinates are unsigned 32-bit numbers and only
their lower sixteen bits are looked at: the grid of the cells is a torus.
-/

namespace Otserv.World

open Function (update update_self update_of_ne)

/-- A node of the tree. Leaves are held by their address. -/
inductive QTreeNode where
  | null
  | leaf (address : Nat)
  | node (child : Fin 4 → QTreeNode)

/-- The root of an empty map. -/
def QTreeNode.empty : QTreeNode := .node fun _ => .null

variable (x y : Nat)

/-- The child to follow: bit 15 of `x` and bit 15 of `y`. -/
def childIndex : Fin 4 :=
  Fin.ofNat 4 (((x &&& 0x8000) >>> 15) ||| ((y &&& 0x8000) >>> 14))

/-- A coordinate shifted left once, as an unsigned 32-bit number. -/
def shifted (x : Nat) : Nat := 2 * x % 2 ^ 32

/-- `QTreeNode::getLeaf`, and on the root the loop of `getLeafStatic`. -/
def QTreeNode.getLeaf : QTreeNode → Nat → Nat → Option Nat
  | .null, _, _ => none
  | .leaf address, _, _ => some address
  | .node child, x, y => (child (childIndex x y)).getLeaf (shifted x) (shifted y)

/-- `QTreeNode::createLeaf` at a node with the given number of levels below it.
A missing leaf is made at the fresh address; the flag is `newLeaf`. -/
def createLeaf (fresh : Nat) : Nat → QTreeNode → Nat → Nat → QTreeNode × Nat × Bool
  | 0, .leaf address, _, _ => (.leaf address, address, false)
  | 0, _, _, _ => (.leaf fresh, fresh, true)
  | levels + 1, tree, x, y =>
    let child := match tree with
      | .node child => child
      | _ => fun _ => .null
    let (subtree, address, newLeaf) :=
      createLeaf fresh levels (child (childIndex x y)) (shifted x) (shifted y)
    (.node (update child (childIndex x y) subtree), address, newLeaf)

/-- The levels between the root and the leaves: `createLeaf` starts at level 15
and makes the leaf below level `FLOOR_BITS`. -/
def levels : Nat := 13

/-- All leaves of the tree lie at the same number of levels below the node. -/
def Regular : Nat → QTreeNode → Prop
  | _, .null => True
  | 0, .leaf _ => True
  | 0, .node _ => False
  | _ + 1, .leaf _ => False
  | levels + 1, .node child => ∀ index, Regular levels (child index)

/-- The two points have the same path through the given number of levels. -/
def SamePath : Nat → Nat → Nat → Nat → Nat → Prop
  | 0, _, _, _, _ => True
  | levels + 1, x, y, x', y' =>
    childIndex x y = childIndex x' y' ∧
      SamePath levels (shifted x) (shifted y) (shifted x') (shifted y')

/-! ## Paths and bits -/

theorem childIndex_eq_iff (x y x' y' : Nat) :
    childIndex x y = childIndex x' y' ↔
      x.testBit 15 = x'.testBit 15 ∧ y.testBit 15 = y'.testBit 15 := by
  have value : ∀ a b : Nat, childIndex a b =
      Fin.ofNat 4 ((a.testBit 15).toNat ||| ((b.testBit 15).toNat * 2)) := by
    intro a b
    have low : (a &&& 0x8000) >>> 15 = (a.testBit 15).toNat := by
      rw [show 0x8000 = 2 ^ 15 by norm_num, Nat.and_two_pow, Nat.shiftRight_eq_div_pow,
        Nat.mul_div_cancel _ (by norm_num)]
    have high : (b &&& 0x8000) >>> 14 = (b.testBit 15).toNat * 2 := by
      rw [show 0x8000 = 2 ^ 15 by norm_num, Nat.and_two_pow, Nat.shiftRight_eq_div_pow,
        show (2 : Nat) ^ 15 = 2 * 2 ^ 14 by norm_num, ← Nat.mul_assoc,
        Nat.mul_div_cancel _ (by norm_num)]
    rw [childIndex, low, high]
  rw [value, value]
  cases x.testBit 15 <;> cases y.testBit 15 <;> cases x'.testBit 15 <;>
    cases y'.testBit 15 <;> decide

theorem testBit_shifted {x bit : Nat} (low : bit < 31) :
    (shifted x).testBit (bit + 1) = x.testBit bit := by
  rw [shifted, Nat.testBit_mod_two_pow, Nat.testBit_succ]
  simp [show bit + 1 < 32 by omega]

theorem samePath_iff_testBit : ∀ (levels x y x' y' : Nat), levels ≤ 16 →
    (SamePath levels x y x' y' ↔ ∀ bit, bit < 16 → 16 - levels ≤ bit →
      x.testBit bit = x'.testBit bit ∧ y.testBit bit = y'.testBit bit)
  | 0, _, _, _, _, _ => by simp only [SamePath, true_iff]; intros; omega
  | levels + 1, x, y, x', y', few => by
      rw [SamePath, childIndex_eq_iff,
        samePath_iff_testBit levels _ _ _ _ (by omega)]
      constructor
      · rintro ⟨top, below⟩ bit high low
        by_cases last : bit = 15
        · exact last ▸ top
        · have next := below (bit + 1) (by omega) (by omega)
          simpa only [testBit_shifted (show bit < 31 by omega)] using next
      · intro same
        refine ⟨same 15 (by omega) (by omega), fun bit high low => ?_⟩
        obtain ⟨bit, rfl⟩ := Nat.exists_eq_succ_of_ne_zero (show bit ≠ 0 by omega)
        simpa only [Nat.succ_eq_add_one, testBit_shifted (show bit < 31 by omega)] using
          same bit (by omega) (by omega)

/-! ## Lookup and creation -/

@[simp] theorem regular_null (levels : Nat) : Regular levels .null := by
  cases levels <;> trivial

theorem regular_empty : Regular levels .empty := fun _ => regular_null _

theorem getLeaf_congr : ∀ {levels : Nat} {tree : QTreeNode}, Regular levels tree →
    ∀ {x y x' y' : Nat}, SamePath levels x y x' y' → tree.getLeaf x y = tree.getLeaf x' y'
  | _, .null, _, _, _, _, _, _ => rfl
  | 0, .leaf _, _, _, _, _, _, _ => rfl
  | levels + 1, .node child, regular, x, y, x', y', same => by
      rw [QTreeNode.getLeaf, QTreeNode.getLeaf, ← same.1]
      exact getLeaf_congr (regular _) same.2

/-- The children `createLeaf` goes on from: a missing node is made without any. -/
theorem createLeaf_succ (fresh levels : Nat) {tree : QTreeNode}
    (regular : Regular (levels + 1) tree) :
    ∃ child : Fin 4 → QTreeNode, (∀ index, Regular levels (child index)) ∧
      (∀ x y, tree.getLeaf x y =
        (child (childIndex x y)).getLeaf (shifted x) (shifted y)) ∧
      ∀ x y, createLeaf fresh (levels + 1) tree x y =
        let made := createLeaf fresh levels (child (childIndex x y)) (shifted x) (shifted y)
        (.node (update child (childIndex x y) made.1), made.2) := by
  match tree, regular with
  | .null, _ => exact ⟨fun _ => .null, fun _ => regular_null _, fun _ _ => rfl, fun _ _ => rfl⟩
  | .node child, regular => exact ⟨child, regular, fun _ _ => rfl, fun _ _ => rfl⟩

theorem regular_createLeaf (fresh : Nat) : ∀ {levels : Nat} {tree : QTreeNode},
    Regular levels tree → ∀ x y : Nat, Regular levels (createLeaf fresh levels tree x y).1
  | 0, .leaf _, _, _, _ => trivial
  | 0, .null, _, _, _ => trivial
  | levels + 1, tree, regular, x, y => by
      obtain ⟨child, regularChild, -, creates⟩ := createLeaf_succ fresh levels regular
      rw [creates]
      intro index
      by_cases here : index = childIndex x y
      · subst here
        rw [update_self]
        exact regular_createLeaf fresh (regularChild _) _ _
      · rw [update_of_ne here]
        exact regularChild index

/-- `createLeaf` returns the leaf of the point, or the fresh one in its place. -/
theorem createLeaf_result (fresh : Nat) : ∀ {levels : Nat} {tree : QTreeNode},
    Regular levels tree → ∀ x y : Nat,
      (createLeaf fresh levels tree x y).2 =
        ((tree.getLeaf x y).getD fresh, (tree.getLeaf x y).isNone)
  | 0, .leaf _, _, _, _ => rfl
  | 0, .null, _, _, _ => rfl
  | levels + 1, tree, regular, x, y => by
      obtain ⟨child, regularChild, looks, creates⟩ := createLeaf_succ fresh levels regular
      rw [creates, looks]
      exact createLeaf_result fresh (regularChild _) _ _

/-- Where the leaf exists, `createLeaf` finds it and makes nothing. -/
theorem createLeaf_of_some (fresh : Nat) : ∀ {levels : Nat} {tree : QTreeNode},
    Regular levels tree → ∀ {x y leaf : Nat}, tree.getLeaf x y = some leaf →
      createLeaf fresh levels tree x y = (tree, leaf, false)
  | 0, .leaf _, _, _, _, _, found => by cases found; rfl
  | levels + 1, .node child, regular, x, y, leaf, found => by
      have below := createLeaf_of_some fresh (regular (childIndex x y)) found
      simp only [createLeaf, below, Function.update_eq_self]

theorem getLeaf_createLeaf_same (fresh : Nat) : ∀ {levels : Nat} {tree : QTreeNode},
    Regular levels tree → ∀ x y : Nat,
      (createLeaf fresh levels tree x y).1.getLeaf x y =
        some (createLeaf fresh levels tree x y).2.1
  | 0, .leaf _, _, _, _ => rfl
  | 0, .null, _, _, _ => rfl
  | levels + 1, tree, regular, x, y => by
      obtain ⟨child, regularChild, -, creates⟩ := createLeaf_succ fresh levels regular
      rw [creates, QTreeNode.getLeaf, update_self]
      exact getLeaf_createLeaf_same fresh (regularChild _) _ _

theorem getLeaf_createLeaf_other (fresh : Nat) : ∀ {levels : Nat} {tree : QTreeNode},
    Regular levels tree → ∀ {x y x' y' : Nat}, ¬ SamePath levels x' y' x y →
      (createLeaf fresh levels tree x y).1.getLeaf x' y' = tree.getLeaf x' y'
  | 0, _, _, _, _, _, _, different => absurd trivial different
  | levels + 1, tree, regular, x, y, x', y', different => by
      obtain ⟨child, regularChild, looks, creates⟩ := createLeaf_succ fresh levels regular
      rw [creates, looks, QTreeNode.getLeaf]
      by_cases here : childIndex x' y' = childIndex x y
      · rw [here, update_self]
        exact getLeaf_createLeaf_other fresh (regularChild _)
          fun below => different ⟨here, below⟩
      · rw [update_of_ne here]

/-! ## Cells -/

/-- A cell of the grid: a column and a row. -/
abbrev Cell := Fin 8192 × Fin 8192

/-- The cell a point lies in. -/
def cellOf : Cell := (Fin.ofNat 8192 (x / 8), Fin.ofNat 8192 (y / 8))

/-- The next cell to the east, around the border. -/
def east (cell : Cell) : Cell := (cell.1 + 1, cell.2)

/-- The next cell to the south, around the border. -/
def south (cell : Cell) : Cell := (cell.1, cell.2 + 1)

/-- The next cell to the west, around the border. -/
def west (cell : Cell) : Cell := (cell.1 - 1, cell.2)

/-- The next cell to the north, around the border. -/
def north (cell : Cell) : Cell := (cell.1, cell.2 - 1)

/-- The leaf of a cell. -/
def QTreeNode.leafAt (tree : QTreeNode) (cell : Cell) : Option Nat :=
  tree.getLeaf (8 * cell.1) (8 * cell.2)

theorem ofNat_div_eq_iff (x x' : Nat) :
    Fin.ofNat 8192 (x / 8) = Fin.ofNat 8192 (x' / 8) ↔
      ∀ bit, bit < 16 → 3 ≤ bit → x.testBit bit = x'.testBit bit := by
  have bits : ∀ z bit : Nat, (z / 8 % 8192).testBit bit =
      (decide (bit < 13) && z.testBit (bit + 3)) := by
    intro z bit
    rw [show 8192 = 2 ^ 13 by norm_num, show 8 = 2 ^ 3 by norm_num, Nat.testBit_mod_two_pow,
      Nat.testBit_div_two_pow]
  rw [Fin.ext_iff]
  change x / 8 % 8192 = x' / 8 % 8192 ↔ _
  constructor
  · intro same bit high low
    have atBit := congrArg (Nat.testBit · (bit - 3)) same
    simpa [bits, show bit - 3 < 13 by omega, show bit - 3 + 3 = bit by omega] using atBit
  · intro same
    refine Nat.eq_of_testBit_eq fun bit => ?_
    rw [bits, bits]
    by_cases high : bit < 13
    · rw [same (bit + 3) (by omega) (by omega)]
    · simp [high]

theorem samePath_iff_cellOf (x y x' y' : Nat) :
    SamePath levels x y x' y' ↔ cellOf x y = cellOf x' y' := by
  rw [cellOf, cellOf, Prod.mk.injEq, ofNat_div_eq_iff, ofNat_div_eq_iff,
    samePath_iff_testBit levels _ _ _ _ (by decide)]
  constructor
  · exact fun same => ⟨fun bit high low => (same bit high low).1,
      fun bit high low => (same bit high low).2⟩
  · exact fun ⟨sameX, sameY⟩ bit high low => ⟨sameX bit high low, sameY bit high low⟩

variable (cell : Cell)

@[simp] theorem cellOf_corner : cellOf (8 * cell.1) (8 * cell.2) = cell := by
  have corner : ∀ index : Fin 8192, Fin.ofNat 8192 (8 * (index : Nat) / 8) = index := by
    intro index
    rw [Nat.mul_div_cancel_left _ (by norm_num)]
    exact Fin.ext (Nat.mod_eq_of_lt index.isLt)
  exact Prod.ext (corner cell.1) (corner cell.2)

theorem east_ne : east cell ≠ cell := by
  intro same
  have column := congrArg (fun cell : Cell => cell.1.val) same
  simp only [east, Fin.val_add, show ((1 : Fin 8192) : Nat) = 1 from rfl] at column
  omega

theorem south_ne : south cell ≠ cell := by
  intro same
  have row := congrArg (fun cell : Cell => cell.2.val) same
  simp only [south, Fin.val_add, show ((1 : Fin 8192) : Nat) = 1 from rfl] at row
  omega

/-- **Looking a point up is looking its cell up.** -/
theorem getLeaf_eq_leafAt {tree : QTreeNode} (regular : Regular levels tree) (x y : Nat) :
    tree.getLeaf x y = tree.leafAt (cellOf x y) :=
  getLeaf_congr regular ((samePath_iff_cellOf _ _ _ _).mpr (cellOf_corner _).symm)

/-- **Creating a leaf changes its own cell only.** -/
theorem leafAt_createLeaf (fresh : Nat) {tree : QTreeNode} (regular : Regular levels tree)
    (x y : Nat) :
    (createLeaf fresh levels tree x y).1.leafAt =
      update tree.leafAt (cellOf x y) (some ((tree.getLeaf x y).getD fresh)) := by
  funext cell
  have result := createLeaf_result fresh regular x y
  by_cases here : cell = cellOf x y
  · subst here
    rw [← getLeaf_eq_leafAt (regular_createLeaf fresh regular x y),
      getLeaf_createLeaf_same fresh regular, result, update_self]
  · rw [update_of_ne here]
    refine getLeaf_createLeaf_other fresh regular fun same => here ?_
    rw [samePath_iff_cellOf, cellOf_corner] at same
    exact same

/-! ## Neighbouring cells -/

theorem ofNat_div_add_eight (x : Nat) :
    Fin.ofNat 8192 ((x + 8) / 8) = Fin.ofNat 8192 (x / 8) + 1 := by
  apply Fin.ext
  simp only [Fin.ofNat, Fin.val_add]
  omega

theorem ofNat_div_sub_eight (x : Nat) :
    Fin.ofNat 8192 ((x + (2 ^ 32 - 8)) % 2 ^ 32 / 8) = Fin.ofNat 8192 (x / 8) - 1 := by
  apply Fin.ext
  simp only [Fin.ofNat, Fin.val_sub]
  omega

theorem cellOf_east : cellOf (x + 8) y = east (cellOf x y) :=
  Prod.ext (ofNat_div_add_eight x) rfl

theorem cellOf_south : cellOf x (y + 8) = south (cellOf x y) :=
  Prod.ext rfl (ofNat_div_add_eight y)

/-- The subtraction is that of unsigned 32-bit numbers. -/
theorem cellOf_west : cellOf ((x + (2 ^ 32 - 8)) % 2 ^ 32) y = west (cellOf x y) :=
  Prod.ext (ofNat_div_sub_eight x) rfl

theorem cellOf_north : cellOf x ((y + (2 ^ 32 - 8)) % 2 ^ 32) = north (cellOf x y) :=
  Prod.ext rfl (ofNat_div_sub_eight y)

theorem index_add_one_eq_iff (other index : Fin 8192) : other + 1 = index ↔ other = index - 1 := by
  omega

theorem east_eq_iff (other cell : Cell) : east other = cell ↔ other = west cell := by
  simp only [east, west, Prod.ext_iff, index_add_one_eq_iff]

theorem south_eq_iff (other cell : Cell) : south other = cell ↔ other = north cell := by
  simp only [south, north, Prod.ext_iff, index_add_one_eq_iff]

theorem west_ne : west cell ≠ cell :=
  fun same => east_ne cell ((east_eq_iff cell cell).mpr same.symm)

theorem north_ne : north cell ≠ cell :=
  fun same => south_ne cell ((south_eq_iff cell cell).mpr same.symm)

end Otserv.World
