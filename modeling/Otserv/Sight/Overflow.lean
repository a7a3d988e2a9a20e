import Otserv.Sight.Progress
import Mathlib.Data.Nat.Prime.Basic
import Mathlib.Tactic.IntervalCases
import Mathlib.Tactic.Linarith

/-!
# When the line of sight overflows

The coefficients are products of two coordinates, and so are the distances. Whether all of them
fit into 32 bits can be told from the two positions (`Within`). If one coordinate grows while the
other falls, the two products add up, and what counts is the largest sum on the way, for which
the largest error of the digital line is needed. If not, they have different signs, and it is the
products that count.
-/

namespace Otserv.Sight

open Foundation Foundation.DigitalLine
open World (Position)

variable (start destination : Position)

/-- The largest gap between the walk and the line. -/
def most : Nat :=
  if dx start destination ≤ dy start destination then
    DigitalLine.upper (dy start destination) (dx start destination)
  else DigitalLine.lower (dx start destination) (dy start destination)

/-- The largest gap to the other side. -/
def least : Nat :=
  if dx start destination ≤ dy start destination then
    DigitalLine.lower (dy start destination) (dx start destination)
  else DigitalLine.upper (dx start destination) (dy start destination)

/-- The largest `x` that a product is formed of. A steep line goes on beside its destination. -/
def largestX : Int :=
  if start.getX < destination.getX ∧ 2 * dx start destination < dy start destination then
    destination.getX + 1
  else max start.getX destination.getX

/-- The largest `y` that a product is formed of. -/
def largestY : Int :=
  if start.getY < destination.getY ∧ 2 * dy start destination < dx start destination then
    destination.getY + 1
  else max start.getY destination.getY

/-- The positions are so close, or so near to the corner of the map, that nothing overflows. -/
def Within : Prop :=
  if start.getX < destination.getX ∧ destination.getY < start.getY then
    Fits (-(destination.getX * start.getY - start.getX * destination.getY +
      dy start destination + most start destination))
  else if destination.getX < start.getX ∧ start.getY < destination.getY then
    Fits (start.getX * destination.getY - destination.getX * start.getY +
      dx start destination + least start destination)
  else
    Fits ((destination.getY - start.getY) * largestX start destination) ∧
      Fits ((start.getX - destination.getX) * largestY start destination)

variable {start destination}

theorem dx_lt (start destination : Position) : dx start destination < 65536 := by
  have := getX_bounds start
  have := getX_bounds destination
  rw [dx]
  omega

theorem dy_lt (start destination : Position) : dy start destination < 65536 := by
  have := getY_bounds start
  have := getY_bounds destination
  rw [dy]
  omega

variable {i k : Nat} {pos : Position} {p q : Int}

/-- The gap is between the largest ones to the two sides. -/
theorem Near.gap_bounds (near : Near start destination i k)
    (apart : ¬(dx start destination = 0 ∧ dy start destination = 0)) :
    gap start destination i k ≤ most start destination ∧
      -(least start destination : Int) ≤ gap start destination i k := by
  by_cases steep : dx start destination ≤ dy start destination
  · have hugs := near.steep steep
    have above := hugs.error_le_upper (by omega)
    have below := hugs.neg_lower_le_error (by omega)
    have isError : error (dy start destination) (dx start destination) k i =
      gap start destination i k := rfl
    rw [most, least, if_pos steep, if_pos steep]
    omega
  · have hugs := near.flat (by omega)
    have above := hugs.error_le_upper (by omega)
    have below := hugs.neg_lower_le_error (by omega)
    have isError : error (dx start destination) (dy start destination) i k =
        -gap start destination i k := by
      rw [error, gap]
      ring
    rw [most, least, if_neg steep, if_neg steep]
    omega

/-- The gap is at most half of the longer kind. -/
theorem Near.two_mul_gap (near : Near start destination i k) :
    -65536 < 2 * gap start destination i k ∧ 2 * gap start destination i k < 65536 := by
  have := dx_lt start destination
  have := dy_lt start destination
  by_cases steep : dx start destination ≤ dy start destination
  · have hugs := near.steep steep
    have isError : error (dy start destination) (dx start destination) k i =
      gap start destination i k := rfl
    have := hugs.low
    have := hugs.high
    omega
  · have hugs := near.flat (by omega)
    have isError : error (dx start destination) (dy start destination) i k =
        -gap start destination i k := by
      rw [error, gap]
      ring
    have := hugs.low
    have := hugs.high
    omega

/-- A point on the way, or beside it where an iteration looks. -/
structure Looks (i k : Nat) (p q : Int) : Prop where
  column : p = i ∨ p = i - 1
  row : q = k ∨ q = k - 1

/-- What the equation of the line has for such a point is small. -/
theorem value_bounds (near : Near start destination i k) (looks : Looks i k p q) :
    -131072 < q * dx start destination - p * dy start destination ∧
      q * dx start destination - p * dy start destination < 131072 := by
  have ofX := dx_lt start destination
  have ofY := dy_lt start destination
  have isGap := near.two_mul_gap
  rw [gap] at isGap
  rcases looks with ⟨rfl | rfl, rfl | rfl⟩
  · omega
  · constructor <;> linarith
  · constructor <;> linarith
  · constructor <;> linarith

theorem formed_of_looks {p q x y : Int} (near : Near start destination i k)
    (looks : Looks i k p q) (isX : x = destination.getX - mx start destination * p)
    (isY : y = destination.getY - my start destination * q)
    (horizontal : Fits ((straight start destination).A * x))
    (vertical : Fits ((straight start destination).B * y))
    (sum : Fits ((straight start destination).A * x + (straight start destination).B * y)) :
    Formed (straight start destination) x y := by
  have small := value_bounds near looks
  have isValue := straight_value p q isX isY
  generalize q * dx start destination - p * dy start destination = value at small isValue
  have bounds : -131072 < (straight start destination).A * x + (straight start destination).B * y +
      (straight start destination).C ∧ (straight start destination).A * x +
        (straight start destination).B * y + (straight start destination).C < 131072 := by
    rw [isValue]
    rcases mx_cases start destination with ⟨isX, -⟩ | ⟨isX, -⟩ | ⟨isX, -⟩ <;>
      rcases my_cases start destination with ⟨isY, -⟩ | ⟨isY, -⟩ | ⟨isY, -⟩ <;>
        rw [isX, isY] <;> omega
  exact ⟨horizontal, vertical, sum, ⟨by omega, by omega⟩, ⟨by omega, by omega⟩⟩

theorem allFormed_of_looks (onWay : OnWay start destination i k pos)
    (formed : ∀ p q, Looks i k p q → Formed (straight start destination)
      (destination.getX - mx start destination * p)
      (destination.getY - my start destination * q)) :
    AllFormed start destination pos := by
  have nextX : pos.getX + mx start destination =
      destination.getX - mx start destination * (i - 1) := by
    rw [onWay.x]
    ring
  have nextY : pos.getY + my start destination =
      destination.getY - my start destination * (k - 1) := by
    rw [onWay.y]
    ring
  refine ⟨?_, ?_, ?_⟩
  · rw [nextX, onWay.y]
    exact formed _ _ ⟨.inr rfl, .inl rfl⟩
  · rw [nextY, onWay.x]
    exact formed _ _ ⟨.inl rfl, .inr rfl⟩
  · rw [nextX, nextY]
    exact formed _ _ ⟨.inr rfl, .inr rfl⟩

/-! ## One coordinate grows and the other falls -/

/-- `x` grows and `y` falls. -/
structure Growing (start destination : Position) : Prop where
  column : destination.getX = start.getX + dx start destination
  row : destination.getY = start.getY - dy start destination
  mx : mx start destination = 1
  my : my start destination = -1
  columns : 0 < dx start destination
  rows : 0 < dy start destination

theorem growing_of (grows : start.getX < destination.getX)
    (falls : destination.getY < start.getY) : Growing start destination := by
  rcases mx_cases start destination with ⟨isX, atX, columns⟩ | ⟨-, atX, -⟩ | ⟨-, atX, -⟩
  · rcases my_cases start destination with ⟨-, atY, -⟩ | ⟨-, atY, -⟩ | ⟨isY, atY, rows⟩
    · omega
    · omega
    · exact ⟨atX, atY, isX, isY, columns, rows⟩
  · omega
  · omega

theorem formed_growing (growing : Growing start destination)
    (within : Fits (-(destination.getX * start.getY - start.getX * destination.getY +
      dy start destination + most start destination)))
    (onWay : OnWay start destination i k pos) (near : Near start destination i k)
    (looks : Looks i k p q) :
    Formed (straight start destination) (destination.getX - mx start destination * p)
      (destination.getY - my start destination * q) := by
  have columns := onWay.columns
  have ofX := getX_bounds start
  have ofY := getY_bounds destination
  have ofDx := dx_lt start destination
  have isGap := (near.gap_bounds (by have := growing.columns; omega)).1
  have small := near.two_mul_gap
  have atX := growing.column
  obtain atY : start.getY = destination.getY + dy start destination := by
    have := growing.row
    omega
  have isX : start.getX = destination.getX - dx start destination := by omega
  have besideX : 0 ≤ (dy start destination : Int) * (destination.getX - i) :=
    mul_nonneg (by omega) (by omega)
  have besideY : 0 ≤ (dx start destination : Int) * (destination.getY + k) :=
    mul_nonneg (by omega) (by omega)
  rw [isX, atY] at within
  rw [gap] at isGap small
  obtain ⟨within, -⟩ := within
  refine formed_of_looks near looks rfl rfl ?_ ?_ ?_
  · rw [straight_A, growing.mx, growing.my]
    rcases looks with ⟨rfl | rfl, -⟩
    · constructor <;> linarith
    · constructor <;> linarith
  · rw [straight_B, growing.mx, growing.my]
    rcases looks with ⟨-, rfl | rfl⟩
    · constructor <;> linarith
    · constructor <;> linarith
  · rw [straight_A, straight_B, growing.mx, growing.my]
    rcases looks with ⟨rfl | rfl, rfl | rfl⟩
    · constructor <;> linarith
    · constructor <;> linarith
    · constructor <;> linarith
    · constructor <;> linarith

theorem getLine_growing (growing : Growing start destination)
    (within : Fits (-(destination.getX * start.getY - start.getX * destination.getY +
      dy start destination + most start destination))) :
    getLine start destination = some (straight start destination) := by
  have ofX := getX_bounds destination
  have ofY := getY_bounds destination
  have atX := growing.column
  have rows := growing.rows
  obtain atY : start.getY = destination.getY + dy start destination := by
    have := growing.row
    omega
  have isX : start.getX = destination.getX - dx start destination := by omega
  have besideX : 0 ≤ (dy start destination : Int) * destination.getX :=
    mul_nonneg (by omega) (by omega)
  have besideY : 0 ≤ (dx start destination : Int) * destination.getY :=
    mul_nonneg (by omega) (by omega)
  rw [isX, atY] at within
  obtain ⟨within, -⟩ := within
  have isC : (straight start destination).C =
      -((straight start destination).A * destination.getX +
        (straight start destination).B * destination.getY) := rfl
  refine getLine_eq ?_ ?_ ?_ ?_
  · rw [straight_A, growing.my]
    constructor <;> linarith
  · rw [straight_B, growing.mx]
    constructor <;> linarith
  · rw [isC, straight_A, straight_B, growing.mx, growing.my]
    constructor <;> linarith
  · rw [isC, straight_A, straight_B, growing.mx, growing.my]
    constructor <;> linarith

/-- `x` falls and `y` grows. -/
structure Falling (start destination : Position) : Prop where
  column : destination.getX = start.getX - dx start destination
  row : destination.getY = start.getY + dy start destination
  mx : mx start destination = -1
  my : my start destination = 1
  columns : 0 < dx start destination
  rows : 0 < dy start destination

theorem falling_of (falls : destination.getX < start.getX)
    (grows : start.getY < destination.getY) : Falling start destination := by
  rcases mx_cases start destination with ⟨-, atX, -⟩ | ⟨-, atX, -⟩ | ⟨isX, atX, columns⟩
  · omega
  · omega
  · rcases my_cases start destination with ⟨isY, atY, rows⟩ | ⟨-, atY, -⟩ | ⟨-, atY, -⟩
    · exact ⟨atX, atY, isX, isY, columns, rows⟩
    · omega
    · omega

theorem formed_falling (falling : Falling start destination)
    (within : Fits (start.getX * destination.getY - destination.getX * start.getY +
      dx start destination + least start destination))
    (onWay : OnWay start destination i k pos) (near : Near start destination i k)
    (looks : Looks i k p q) :
    Formed (straight start destination) (destination.getX - mx start destination * p)
      (destination.getY - my start destination * q) := by
  have rows := onWay.rows
  have ofX := getX_bounds destination
  have ofY := getY_bounds start
  have ofDy := dy_lt start destination
  have isGap := (near.gap_bounds (by have := falling.columns; omega)).2
  have small := near.two_mul_gap
  have atY := falling.row
  obtain atX : start.getX = destination.getX + dx start destination := by
    have := falling.column
    omega
  have isY : start.getY = destination.getY - dy start destination := by omega
  have besideX : 0 ≤ (dy start destination : Int) * (destination.getX + i) :=
    mul_nonneg (by omega) (by omega)
  have besideY : 0 ≤ (dx start destination : Int) * (destination.getY - k) :=
    mul_nonneg (by omega) (by omega)
  rw [atX, isY] at within
  rw [gap] at isGap small
  obtain ⟨-, within⟩ := within
  refine formed_of_looks near looks rfl rfl ?_ ?_ ?_
  · rw [straight_A, falling.mx, falling.my]
    rcases looks with ⟨rfl | rfl, -⟩
    · constructor <;> linarith
    · constructor <;> linarith
  · rw [straight_B, falling.mx, falling.my]
    rcases looks with ⟨-, rfl | rfl⟩
    · constructor <;> linarith
    · constructor <;> linarith
  · rw [straight_A, straight_B, falling.mx, falling.my]
    rcases looks with ⟨rfl | rfl, rfl | rfl⟩
    · constructor <;> linarith
    · constructor <;> linarith
    · constructor <;> linarith
    · constructor <;> linarith

theorem getLine_falling (falling : Falling start destination)
    (within : Fits (start.getX * destination.getY - destination.getX * start.getY +
      dx start destination + least start destination)) :
    getLine start destination = some (straight start destination) := by
  have ofX := getX_bounds destination
  have ofY := getY_bounds destination
  have atY := falling.row
  obtain atX : start.getX = destination.getX + dx start destination := by
    have := falling.column
    omega
  have isY : start.getY = destination.getY - dy start destination := by omega
  have besideX : 0 ≤ (dy start destination : Int) * destination.getX :=
    mul_nonneg (by omega) (by omega)
  have besideY : 0 ≤ (dx start destination : Int) * destination.getY :=
    mul_nonneg (by omega) (by omega)
  rw [atX, isY] at within
  obtain ⟨-, within⟩ := within
  have isC : (straight start destination).C =
      -((straight start destination).A * destination.getX +
        (straight start destination).B * destination.getY) := rfl
  refine getLine_eq ?_ ?_ ?_ ?_
  · rw [straight_A, falling.my]
    constructor <;> linarith
  · rw [straight_B, falling.mx]
    constructor <;> linarith
  · rw [isC, straight_A, straight_B, falling.mx, falling.my]
    constructor <;> linarith
  · rw [isC, straight_A, straight_B, falling.mx, falling.my]
    constructor <;> linarith

/-! ## Neither falls while the other grows -/

theorem fits_mul {factor largest value : Int} (fits : Fits (factor * largest))
    (low : -65536 < factor) (high : factor < 65536) (atLeast : -1 ≤ value)
    (atMost : value ≤ largest) : Fits (factor * value) := by
  by_cases sign : 0 ≤ factor
  · have above := mul_le_mul_of_nonneg_left atMost sign
    have below := mul_le_mul_of_nonneg_left atLeast sign
    constructor
    · omega
    · omega
  · have above := mul_le_mul_of_nonpos_left atMost (by omega : factor ≤ 0)
    have below := mul_le_mul_of_nonpos_left atLeast (by omega : factor ≤ 0)
    constructor
    · omega
    · omega

theorem A_bounds : -65536 < (straight start destination).A ∧
    (straight start destination).A < 65536 := by
  have := dy_lt start destination
  rw [straight_A]
  rcases my_cases start destination with ⟨is, -⟩ | ⟨is, -⟩ | ⟨is, -⟩ <;> rw [is] <;> omega

theorem B_bounds : -65536 < (straight start destination).B ∧
    (straight start destination).B < 65536 := by
  have := dx_lt start destination
  rw [straight_B]
  rcases mx_cases start destination with ⟨is, -⟩ | ⟨is, -⟩ | ⟨is, -⟩ <;> rw [is] <;> omega

theorem le_largestX (start destination : Position) :
    start.getX ≤ largestX start destination ∧ destination.getX ≤ largestX start destination := by
  rw [largestX]
  split <;> omega

theorem le_largestY (start destination : Position) :
    start.getY ≤ largestY start destination ∧ destination.getY ≤ largestY start destination := by
  rw [largestY]
  split <;> omega

/-- The directions do not differ. -/
def Alike (start destination : Position) : Prop :=
  ¬(start.getX < destination.getX ∧ destination.getY < start.getY) ∧
    ¬(destination.getX < start.getX ∧ start.getY < destination.getY)

theorem Near.steep_of_column {k : Nat} (near : Near start destination 0 k) (more : k ≠ 0)
    (rows : k ≤ dy start destination) : 2 * dx start destination < dy start destination := by
  obtain ⟨k, rfl⟩ := Nat.exists_eq_succ_of_ne_zero more
  by_cases steep : dx start destination ≤ dy start destination
  · exact (near.steep steep).steep
  · exact absurd ((near.flat (by omega)).rest_eq_zero (by omega)) more

theorem Near.flat_of_row {i : Nat} (near : Near start destination i 0) (more : i ≠ 0)
    (columns : i ≤ dx start destination) : 2 * dy start destination < dx start destination := by
  obtain ⟨i, rfl⟩ := Nat.exists_eq_succ_of_ne_zero more
  by_cases steep : dx start destination ≤ dy start destination
  · exact absurd ((near.steep steep).rest_eq_zero (by omega)) more
  · exact (near.flat (by omega)).steep

theorem x_bounds (onWay : OnWay start destination i k pos)
    (near : Near start destination i k) (onTheWay : ¬(i = 0 ∧ k = 0)) (looks : Looks i k p q) :
    -1 ≤ destination.getX - mx start destination * p ∧
      destination.getX - mx start destination * p ≤ largestX start destination := by
  have columns := onWay.columns
  have ofStart := getX_bounds start
  have ofDestination := getX_bounds destination
  have isP := looks.column
  rw [largestX]
  rcases mx_cases start destination with ⟨is, isAt, some⟩ | ⟨is, isAt, -⟩ | ⟨is, isAt, -⟩
  · rw [is]
    split
    · omega
    · by_cases none : i = 0
      · subst none
        have steep := near.steep_of_column (by omega) onWay.rows
        omega
      · omega
  · rw [is]
    split <;> omega
  · rw [is]
    split <;> omega

theorem y_bounds (onWay : OnWay start destination i k pos)
    (near : Near start destination i k) (onTheWay : ¬(i = 0 ∧ k = 0)) (looks : Looks i k p q) :
    -1 ≤ destination.getY - my start destination * q ∧
      destination.getY - my start destination * q ≤ largestY start destination := by
  have rows := onWay.rows
  have ofStart := getY_bounds start
  have ofDestination := getY_bounds destination
  have isQ := looks.row
  rw [largestY]
  rcases my_cases start destination with ⟨is, isAt, some⟩ | ⟨is, isAt, -⟩ | ⟨is, isAt, -⟩
  · rw [is]
    split
    · omega
    · by_cases none : k = 0
      · subst none
        have flat := near.flat_of_row (by omega) onWay.columns
        omega
      · omega
  · rw [is]
    split <;> omega
  · rw [is]
    split <;> omega

/-- Where both coordinates grow, the products have different signs. -/
theorem fits_add_of_growing (onWay : OnWay start destination i k pos) (looks : Looks i k p q)
    (isX : mx start destination = 1) (isY : my start destination = 1)
    (atX : destination.getX = start.getX + dx start destination)
    (atY : destination.getY = start.getY + dy start destination)
    (horizontal : Fits (my start destination * dy start destination *
      (destination.getX - mx start destination * p)))
    (vertical : Fits (-(mx start destination * dx start destination) *
      (destination.getY - my start destination * q))) :
    Fits (my start destination * dy start destination *
        (destination.getX - mx start destination * p) +
      -(mx start destination * dx start destination) *
        (destination.getY - my start destination * q)) := by
  have ofX := getX_bounds start
  have ofY := getY_bounds start
  have columns := onWay.columns
  have rows := onWay.rows
  have isP := looks.column
  have isQ := looks.row
  rw [isX, isY] at horizontal vertical ⊢
  have first : 0 ≤ (dy start destination : Int) * (destination.getX - p) :=
    mul_nonneg (by omega) (by omega)
  have second : 0 ≤ (dx start destination : Int) * (destination.getY - q) :=
    mul_nonneg (by omega) (by omega)
  obtain ⟨-, horizontal⟩ := horizontal
  obtain ⟨vertical, -⟩ := vertical
  constructor <;> linarith

/-- Where both fall they have too, but for the points beyond the border of the map. -/
theorem fits_add_of_falling
    (onWay : OnWay start destination i k pos) (near : Near start destination i k)
    (onTheWay : ¬(i = 0 ∧ k = 0)) (looks : Looks i k p q)
    (isX : mx start destination = -1) (isY : my start destination = -1)
    (lowX : -1 ≤ destination.getX - mx start destination * p)
    (lowY : -1 ≤ destination.getY - my start destination * q)
    (horizontal : Fits (my start destination * dy start destination *
      (destination.getX - mx start destination * p)))
    (vertical : Fits (-(mx start destination * dx start destination) *
      (destination.getY - my start destination * q))) :
    Fits (my start destination * dy start destination *
        (destination.getX - mx start destination * p) +
      -(mx start destination * dx start destination) *
        (destination.getY - my start destination * q)) := by
  have ofX := getX_bounds destination
  have ofY := getY_bounds destination
  have ofDx := dx_lt start destination
  have ofDy := dy_lt start destination
  have isP := looks.column
  have isQ := looks.row
  have isGap := near.two_mul_gap
  rw [gap] at isGap
  rw [isX] at lowX horizontal vertical ⊢
  rw [isY] at lowY horizontal vertical ⊢
  by_cases beyondX : destination.getX - -1 * p = -1
  · obtain rfl : i = 0 := by omega
    have steep := near.steep_of_column (by omega) onWay.rows
    have far : (dx start destination : Int) * destination.getY ≤ 32767 * 65535 :=
      mul_le_mul (by omega) (by omega) (by omega) (by omega)
    have back : (dx start destination : Int) * -1 ≤
        dx start destination * (destination.getY - -1 * q) :=
      mul_le_mul_of_nonneg_left lowY (by omega)
    have close : (k : Int) * dx start destination ≤ 32767 := by omega
    rw [beyondX]
    rcases isQ with rfl | rfl
    · constructor <;> linarith
    · constructor <;> linarith
  by_cases beyondY : destination.getY - -1 * q = -1
  · obtain rfl : k = 0 := by omega
    have flat := near.flat_of_row (by omega) onWay.columns
    have far : (dy start destination : Int) * destination.getX ≤ 32767 * 65535 :=
      mul_le_mul (by omega) (by omega) (by omega) (by omega)
    have back : (dy start destination : Int) * -1 ≤
        dy start destination * (destination.getX - -1 * p) :=
      mul_le_mul_of_nonneg_left lowX (by omega)
    have close : (i : Int) * dy start destination ≤ 32767 := by omega
    rw [beyondY]
    rcases isP with rfl | rfl
    · constructor <;> linarith
    · constructor <;> linarith
  have first : 0 ≤ (dy start destination : Int) * (destination.getX - -1 * p) :=
    mul_nonneg (by omega) (by omega)
  have second : 0 ≤ (dx start destination : Int) * (destination.getY - -1 * q) :=
    mul_nonneg (by omega) (by omega)
  obtain ⟨horizontal, -⟩ := horizontal
  obtain ⟨-, vertical⟩ := vertical
  constructor <;> linarith

theorem formed_alike (alike : Alike start destination)
    (withinX : Fits ((straight start destination).A * largestX start destination))
    (withinY : Fits ((straight start destination).B * largestY start destination))
    (onWay : OnWay start destination i k pos) (near : Near start destination i k)
    (onTheWay : ¬(i = 0 ∧ k = 0)) (looks : Looks i k p q) :
    Formed (straight start destination) (destination.getX - mx start destination * p)
      (destination.getY - my start destination * q) := by
  have boundsX := x_bounds onWay near onTheWay looks
  have boundsY := y_bounds onWay near onTheWay looks
  have horizontal := fits_mul withinX A_bounds.1 A_bounds.2 boundsX.1 boundsX.2
  have vertical := fits_mul withinY B_bounds.1 B_bounds.2 boundsY.1 boundsY.2
  refine formed_of_looks near looks rfl rfl horizontal vertical ?_
  rw [straight_A] at horizontal ⊢
  rw [straight_B] at vertical ⊢
  rcases mx_cases start destination with ⟨isX, atX, columns⟩ | ⟨isX, atX, none⟩ |
    ⟨isX, atX, columns⟩
  · rcases my_cases start destination with ⟨isY, atY, rows⟩ | ⟨isY, atY, none⟩ | ⟨isY, atY, rows⟩
    · exact fits_add_of_growing onWay looks isX isY atX atY horizontal vertical
    · simpa [none, isY] using vertical
    · exact absurd ⟨by omega, by omega⟩ alike.1
  · simpa [none, isX] using horizontal
  · rcases my_cases start destination with ⟨isY, atY, rows⟩ | ⟨isY, atY, none⟩ | ⟨isY, atY, rows⟩
    · exact absurd ⟨by omega, by omega⟩ alike.2
    · simpa [none, isY] using vertical
    · exact fits_add_of_falling onWay near onTheWay looks isX isY boundsX.1 boundsY.1 horizontal
        vertical

/-- No product of two coordinates is the number that has no counterpart. -/
theorem mul_ne {m n : Nat} (first : m < 65536) (second : n < 65536) : m * n ≠ 2147483648 := by
  intro isPower
  have divides : m ∣ 2 ^ 31 := Dvd.intro n isPower
  obtain ⟨exponent, atMost, rfl⟩ := (Nat.dvd_prime_pow Nat.prime_two).mp divides
  interval_cases exponent <;> omega

/-- The sum of the products is not the least value either, which cannot be negated. -/
theorem sum_alike (alike : Alike start destination)
    (horizontal : Fits (my start destination * dy start destination * destination.getX))
    (vertical : Fits (-(mx start destination * dx start destination) * destination.getY))
    (atStart : Fits (my start destination * dy start destination * start.getX)) :
    -2147483648 < my start destination * dy start destination * destination.getX +
        -(mx start destination * dx start destination) * destination.getY ∧
      my start destination * dy start destination * destination.getX +
        -(mx start destination * dx start destination) * destination.getY < 2147483648 := by
  have ofX := getX_bounds destination
  have ofY := getY_bounds destination
  have fromX := getX_bounds start
  have productX : (dy start destination : Int) * destination.getX ≠ 2147483648 := by
    have apart := mul_ne (dy_lt start destination) destination.x.toNat_lt
    rw [Position.getX]
    exact_mod_cast apart
  have productY : (dx start destination : Int) * destination.getY ≠ 2147483648 := by
    have apart := mul_ne (dx_lt start destination) destination.y.toNat_lt
    rw [Position.getY]
    exact_mod_cast apart
  have firstNonneg : 0 ≤ (dy start destination : Int) * destination.getX :=
    mul_nonneg (by omega) (by omega)
  have secondNonneg : 0 ≤ (dx start destination : Int) * destination.getY :=
    mul_nonneg (by omega) (by omega)
  obtain ⟨lowX, highX⟩ := horizontal
  obtain ⟨lowY, highY⟩ := vertical
  obtain ⟨lowStart, -⟩ := atStart
  rcases mx_cases start destination with ⟨isX, atX, someX⟩ | ⟨isX, atX, none⟩ | ⟨isX, atX, someX⟩
  · rcases my_cases start destination with ⟨isY, atY, someY⟩ | ⟨isY, atY, none⟩ | ⟨isY, atY, someY⟩
    · rw [isX] at lowY highY ⊢
      rw [isY] at lowX highX lowStart ⊢
      have least : (1 : Int) * 1 ≤ dy start destination * destination.getX :=
        mul_le_mul (by omega) (by omega) (by omega) (by omega)
      constructor <;> linarith
    · rw [isX] at lowY highY ⊢
      simp only [isY, none, one_mul, neg_mul, zero_mul, zero_add] at lowY highY ⊢
      omega
    · exact absurd ⟨by omega, by omega⟩ alike.1
  · simp only [isX, zero_mul, neg_zero, add_zero]
    rcases my_cases start destination with ⟨isY, -⟩ | ⟨isY, -⟩ | ⟨isY, -⟩
    · simp only [isY, one_mul] at lowX highX ⊢
      omega
    · simp only [isY, zero_mul]
      omega
    · simp only [isY, one_mul, neg_mul] at lowX highX ⊢
      omega
  · rcases my_cases start destination with ⟨isY, atY, someY⟩ | ⟨isY, atY, none⟩ | ⟨isY, atY, someY⟩
    · exact absurd ⟨by omega, by omega⟩ alike.2
    · rw [isX] at lowY highY ⊢
      simp only [isY, none, one_mul, neg_mul, neg_neg, zero_mul, zero_add] at lowY highY ⊢
      omega
    · rw [isX] at lowY highY ⊢
      rw [isY] at lowX highX lowStart ⊢
      have least : (1 : Int) * 1 ≤ dy start destination * dx start destination :=
        mul_le_mul (by omega) (by omega) (by omega) (by omega)
      have further : (dy start destination : Int) * start.getX =
          dy start destination * destination.getX +
            dy start destination * dx start destination := by
        rw [atX]
        ring
      constructor <;> linarith

theorem getLine_alike (alike : Alike start destination)
    (withinX : Fits ((straight start destination).A * largestX start destination))
    (withinY : Fits ((straight start destination).B * largestY start destination)) :
    getLine start destination = some (straight start destination) := by
  have ofX := getX_bounds destination
  have ofY := getY_bounds destination
  have fromX := getX_bounds start
  have horizontal := fits_mul withinX A_bounds.1 A_bounds.2 (by omega)
    (le_largestX start destination).2
  have vertical := fits_mul withinY B_bounds.1 B_bounds.2 (by omega)
    (le_largestY start destination).2
  have atStart := fits_mul withinX A_bounds.1 A_bounds.2 (by omega)
    (le_largestX start destination).1
  have isC : (straight start destination).C = -((straight start destination).A *
      destination.getX + (straight start destination).B * destination.getY) := rfl
  have sum : -2147483648 < (straight start destination).A * destination.getX +
      (straight start destination).B * destination.getY ∧ (straight start destination).A *
        destination.getX + (straight start destination).B * destination.getY < 2147483648 := by
    rw [straight_A] at horizontal atStart ⊢
    rw [straight_B] at vertical ⊢
    exact sum_alike alike horizontal vertical atStart
  refine getLine_eq horizontal vertical ?_ ?_
  · constructor <;> omega
  · constructor <;> omega

end Otserv.Sight
