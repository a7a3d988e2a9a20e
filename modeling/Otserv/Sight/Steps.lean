import Otserv.Foundation.DigitalLine
import Otserv.Sight.SightLine

/-!
# The steps of the line of sight

While no value overflows, the walking loop draws a digital line. With `dx` and `dy` columns
between start and destination, and `i` and `k` of them left, each iteration makes a step of the
longer kind, and one of the other kind when that keeps it closer (`moved_spec`).
-/

namespace Otserv.Sight

open Foundation Foundation.DigitalLine
open World (Position)

/-- The values that are formed for the distance of a point. -/
structure Formed (line : Line) (x y : Int) : Prop where
  horizontal : Fits (line.A * x)
  vertical : Fits (line.B * y)
  sum : Fits (line.A * x + line.B * y)
  value : Fits (line.A * x + line.B * y + line.C)
  abs : Fits (line.A * x + line.B * y + line.C).natAbs

variable {i k : Nat} {value : Int} {x y : Int} {pos : Position}

theorem int32_of_fits (fits : Fits value) : int32 value = some value := if_pos fits

theorem int32_bind_of_fits {α : Type} {next : Int → Option α} (fits : Fits value) :
    (int32 value >>= next) = next value := by
  rw [int32_of_fits fits]
  rfl

theorem fits_of_int32 (isSome : (int32 value).isSome) : Fits value := by
  by_contra not
  rw [int32, if_neg not] at isSome
  cases isSome

theorem int32_bind {α : Type} (next : Int → Option α)
    (isSome : (int32 value >>= next).isSome) : Fits value ∧ (next value).isSome := by
  have fits : Fits value := by
    by_contra not
    rw [int32, if_neg not] at isSome
    cases isSome
  rw [int32_of_fits fits] at isSome
  exact ⟨fits, isSome⟩

theorem Formed.distance_eq {line : Line} (formed : Formed line x y) :
    line.distance x y = some ((line.A * x + line.B * y + line.C).natAbs : Int) := by
  rw [Line.distance, int32_bind_of_fits formed.horizontal, int32_bind_of_fits formed.vertical,
    int32_bind_of_fits formed.sum, int32_bind_of_fits formed.value, int32_of_fits formed.abs]

theorem formed_of_distance {line : Line} (isSome : (line.distance x y).isSome) :
    Formed line x y := by
  obtain ⟨horizontal, isSome⟩ := int32_bind _ isSome
  obtain ⟨vertical, isSome⟩ := int32_bind _ isSome
  obtain ⟨sum, isSome⟩ := int32_bind _ isSome
  obtain ⟨value, isSome⟩ := int32_bind _ isSome
  exact ⟨horizontal, vertical, sum, value, fits_of_int32 isSome⟩

variable (start destination : Position)

/-- The columns between start and destination. -/
def dx : Nat := (destination.getX - start.getX).natAbs

/-- The rows between them. -/
def dy : Nat := (destination.getY - start.getY).natAbs

/-- The straight line, without a bound on its coefficients. -/
def straight : Line where
  A := destination.getY - start.getY
  B := start.getX - destination.getX
  C := -((destination.getY - start.getY) * destination.getX +
    (start.getX - destination.getX) * destination.getY)

variable {start destination : Position}

theorem getX_bounds (pos : Position) : 0 ≤ pos.getX ∧ pos.getX < 65536 := by
  have := pos.x.toNat_lt
  simp only [Position.getX]
  omega

theorem getY_bounds (pos : Position) : 0 ≤ pos.getY ∧ pos.getY < 65536 := by
  have := pos.y.toNat_lt
  simp only [Position.getY]
  omega

theorem x_eq_iff {pos other : Position} : pos.x = other.x ↔ pos.getX = other.getX := by
  rw [Position.getX, Position.getX, Int.natCast_inj, UInt16.toNat_inj]

theorem y_eq_iff {pos other : Position} : pos.y = other.y ↔ pos.getY = other.getY := by
  rw [Position.getY, Position.getY, Int.natCast_inj, UInt16.toNat_inj]

theorem toNat_ofInt (low : 0 ≤ value) (high : value < 65536) :
    ((UInt16.ofInt value).toNat : Int) = value := by
  rw [UInt16.ofInt, UInt16.toNat_ofNat']
  omega

theorem getLine_eq (horizontal : Fits ((straight start destination).A * destination.getX))
    (vertical : Fits ((straight start destination).B * destination.getY))
    (sum : Fits (-(straight start destination).C)) (C : Fits (straight start destination).C) :
    getLine start destination = some (straight start destination) := by
  have fitsA : Fits (destination.getY - start.getY) := by
    have := getY_bounds start
    have := getY_bounds destination
    constructor <;> omega
  have fitsB : Fits (start.getX - destination.getX) := by
    have := getX_bounds start
    have := getX_bounds destination
    constructor <;> omega
  simp only [straight, neg_neg] at horizontal vertical sum C
  rw [getLine, int32_bind_of_fits fitsA, int32_bind_of_fits fitsB, int32_bind_of_fits horizontal,
    int32_bind_of_fits vertical, int32_bind_of_fits sum, int32_bind_of_fits C]
  rfl

theorem fits_of_getLine (isSome : (getLine start destination).isSome) :
    Fits ((straight start destination).A * destination.getX) ∧
      Fits ((straight start destination).B * destination.getY) ∧
      Fits (-(straight start destination).C) ∧ Fits (straight start destination).C := by
  obtain ⟨-, isSome⟩ := int32_bind _ isSome
  obtain ⟨-, isSome⟩ := int32_bind _ isSome
  obtain ⟨horizontal, isSome⟩ := int32_bind _ isSome
  obtain ⟨vertical, isSome⟩ := int32_bind _ isSome
  obtain ⟨sum, isSome⟩ := int32_bind _ isSome
  obtain ⟨C, -⟩ := int32_bind _ isSome
  refine ⟨horizontal, vertical, ?_, C⟩
  simpa only [straight, neg_neg] using sum

/-! ## The walk as a digital line -/

/-- So many columns and rows are left. -/
structure OnWay (start destination : Position) (i k : Nat) (pos : Position) : Prop where
  x : pos.getX = destination.getX - mx start destination * i
  y : pos.getY = destination.getY - my start destination * k
  z : pos.z = start.z
  columns : i ≤ dx start destination
  rows : k ≤ dy start destination

/-- The walk is as close to the straight line as it can be. -/
structure Near (start destination : Position) (i k : Nat) : Prop where
  steep : dx start destination ≤ dy start destination →
    Hugs (dy start destination) (dx start destination) k i
  flat : dy start destination < dx start destination →
    Hugs (dx start destination) (dy start destination) i k

/-- The steps of the longer kind that are left. -/
def left (start destination : Position) (i k : Nat) : Nat :=
  if dx start destination ≤ dy start destination then k else i

/-- A coordinate grows, stays or falls by a distance. -/
def Way (sign : Int) (distance : Nat) (start destination : Int) : Prop :=
  sign = 1 ∧ destination = start + distance ∧ 0 < distance ∨
    sign = 0 ∧ destination = start ∧ distance = 0 ∨
    sign = -1 ∧ destination = start - distance ∧ 0 < distance

theorem mx_cases (start destination : Position) :
    Way (mx start destination) (dx start destination) start.getX destination.getX := by
  simp only [Way, mx, dx, UInt16.lt_iff_toNat_lt, x_eq_iff, Position.getX]
  split
  · omega
  · split
    · omega
    · omega

theorem my_cases (start destination : Position) :
    Way (my start destination) (dy start destination) start.getY destination.getY := by
  simp only [Way, my, dy, UInt16.lt_iff_toNat_lt, y_eq_iff, Position.getY]
  split
  · omega
  · split
    · omega
    · omega

namespace Way

variable {sign origin target : Int} {distance : Nat} (way : Way sign distance origin target)
include way

theorem difference : target - origin = sign * distance := by
  rcases way with ⟨rfl, isAt, -⟩ | ⟨rfl, isAt, -⟩ | ⟨rfl, isAt, -⟩
  · omega
  · omega
  · omega

theorem bounds (inOrigin : 0 ≤ origin ∧ origin < 65536) (inTarget : 0 ≤ target ∧ target < 65536)
    (inRange : i ≤ distance) : 0 ≤ target - sign * i ∧ target - sign * i < 65536 := by
  rcases way with ⟨rfl, isAt, -⟩ | ⟨rfl, isAt, none⟩ | ⟨rfl, isAt, -⟩
  · omega
  · omega
  · omega

theorem arrived_iff (inRange : i ≤ distance) : target - sign * i = target ↔ i = 0 := by
  rcases way with ⟨rfl, -⟩ | ⟨rfl, -, none⟩ | ⟨rfl, -⟩
  · omega
  · omega
  · omega

theorem natAbs_sign (some : 0 < distance) : sign.natAbs = 1 := by
  rcases way with ⟨rfl, -⟩ | ⟨-, -, none⟩ | ⟨rfl, -⟩
  · rfl
  · omega
  · rfl

end Way

theorem onWay_start : OnWay start destination (dx start destination) (dy start destination)
    start := by
  refine ⟨?_, ?_, rfl, le_rfl, le_rfl⟩
  · rw [← (mx_cases start destination).difference, sub_sub_cancel]
  · rw [← (my_cases start destination).difference, sub_sub_cancel]

theorem OnWay.x_eq_iff (onWay : OnWay start destination i k pos) :
    pos.x = destination.x ↔ i = 0 := by
  rw [Sight.x_eq_iff, onWay.x]
  exact (mx_cases start destination).arrived_iff onWay.columns

theorem OnWay.y_eq_iff (onWay : OnWay start destination i k pos) :
    pos.y = destination.y ↔ k = 0 := by
  rw [Sight.y_eq_iff, onWay.y]
  exact (my_cases start destination).arrived_iff onWay.rows

/-- A step in `x` leaves one column less. -/
theorem OnWay.moveX (onWay : OnWay start destination (i + 1) k pos) :
    OnWay start destination i k
      { pos with x := .ofInt (pos.getX + mx start destination) } := by
  have inRange := onWay.columns
  have isX := onWay.x
  refine ⟨?_, onWay.y, onWay.z, by omega, onWay.rows⟩
  have moves : pos.getX + mx start destination =
      destination.getX - mx start destination * i := by
    rw [isX]
    push_cast
    ring
  obtain ⟨low, high⟩ := (mx_cases start destination).bounds (getX_bounds start)
    (getX_bounds destination) (Nat.le_of_succ_le inRange)
  rw [Position.getX, moves, toNat_ofInt low high]

/-- A step in `y` leaves one row less. -/
theorem OnWay.moveY (onWay : OnWay start destination i (k + 1) pos) :
    OnWay start destination i k
      { pos with y := .ofInt (pos.getY + my start destination) } := by
  have inRange := onWay.rows
  have isY := onWay.y
  refine ⟨onWay.x, ?_, onWay.z, onWay.columns, by omega⟩
  have moves : pos.getY + my start destination =
      destination.getY - my start destination * k := by
    rw [isY]
    push_cast
    ring
  obtain ⟨low, high⟩ := (my_cases start destination).bounds (getY_bounds start)
    (getY_bounds destination) (Nat.le_of_succ_le inRange)
  rw [Position.getY, moves, toNat_ofInt low high]

/-- How far the walk is from the line, in the direction of `y`. -/
def gap (start destination : Position) (i k : Nat) : Int :=
  k * dx start destination - i * dy start destination

/-- The three distances, where neither coordinate is the same from the beginning. -/
def Measured (start destination : Position) (i k : Nat) (hor ver cross : Int) : Prop :=
  0 < dx start destination → 0 < dy start destination →
    hor = (gap start destination i k + dy start destination).natAbs ∧
      ver = (gap start destination i k - dx start destination).natAbs ∧
      cross = (gap start destination i k + dy start destination -
        dx start destination).natAbs

/-- The rows that are left after an iteration. -/
def nextRow (i k : Nat) (hor ver cross : Int) : Nat :=
  if k ≠ 0 ∧ (i = 0 ∨ hor > ver ∨ hor > cross) then k - 1 else k

/-- The columns that are left after it, with the rows that are left then. -/
def nextColumn (i k : Nat) (hor ver cross : Int) : Nat :=
  if i ≠ 0 ∧ (k = 0 ∨ ver > hor ∨ ver > cross) then i - 1 else i

/-- An iteration makes a step of the longer kind, and keeps close to the line. -/
theorem near_next {hor ver cross : Int} (near : Near start destination i k)
    (onTheWay : ¬(i = 0 ∧ k = 0)) (measured : Measured start destination i k hor ver cross)
    (columns : i ≤ dx start destination) (rows : k ≤ dy start destination) :
    Near start destination (nextColumn i (nextRow i k hor ver cross) hor ver cross)
        (nextRow i k hor ver cross) ∧
      left start destination (nextColumn i (nextRow i k hor ver cross) hor ver cross)
        (nextRow i k hor ver cross) + 1 = left start destination i k := by
  by_cases steep : dx start destination ≤ dy start destination
  · have hugs := near.steep steep
    have isLong : 0 < dy start destination := by omega
    obtain ⟨k, rfl⟩ : ∃ rest, k = rest + 1 := Nat.exists_eq_succ_of_ne_zero fun none =>
      onTheWay ⟨(none ▸ hugs).rest_eq_zero isLong, none⟩
    have row : nextRow i (k + 1) hor ver cross = k := by
      refine if_pos ⟨k.succ_ne_zero, ?_⟩
      by_cases none : i = 0
      · exact .inl none
      obtain ⟨isHor, isVer, isCross⟩ := measured (by omega) isLong
      exact .inr (hugs.choice (by omega) steep isVer isHor isCross).1
    have column : nextColumn i k hor ver cross =
        (if i ≠ 0 ∧ 2 * error (dy start destination) (dx start destination) (k + 1) i <
          2 * (dx start destination : Int) - dy start destination then i - 1 else i) := by
      by_cases none : i = 0
      · simp [nextColumn, none]
      obtain ⟨isHor, isVer, isCross⟩ := measured (by omega) isLong
      have closer := (hugs.choice (by omega) steep isVer isHor isCross).2
      by_cases last : k = 0
      · subst last
        have near := @near_of_last _ (dx start destination) _ none isLong
        simp only [nextColumn, true_or, and_true, near]
      · simp only [nextColumn, last, false_or, closer]
    rw [row, column]
    have next := hugs.next steep
    exact ⟨⟨fun _ => next, fun flat => absurd steep (by omega)⟩, by simp [left, steep]⟩
  · have hugs := near.flat (by omega)
    have isLong : 0 < dx start destination := by omega
    obtain ⟨i, rfl⟩ : ∃ rest, i = rest + 1 := Nat.exists_eq_succ_of_ne_zero fun none =>
      onTheWay ⟨none, (none ▸ hugs).rest_eq_zero isLong⟩
    have isError : error (dx start destination) (dy start destination) (i + 1) k =
        -gap start destination (i + 1) k := by
      rw [error, gap]
      ring
    have closer (none : k ≠ 0) := by
      obtain ⟨isHor, isVer, isCross⟩ := measured isLong (by omega)
      exact @Hugs.choice _ _ _ _ hugs (by omega) (by omega) hor ver cross
        (by rw [isHor, isError]; omega) (by rw [isVer, isError]; omega)
        (by rw [isCross, isError]; omega)
    have row : nextRow (i + 1) k hor ver cross =
        (if k ≠ 0 ∧ 2 * error (dx start destination) (dy start destination) (i + 1) k <
          2 * (dy start destination : Int) - dx start destination then k - 1 else k) := by
      by_cases none : k = 0
      · simp [nextRow, none]
      · simp only [nextRow, Nat.succ_ne_zero, false_or, (closer none).2]
    have column : nextColumn (i + 1) (nextRow (i + 1) k hor ver cross) hor ver cross = i := by
      refine if_pos ⟨i.succ_ne_zero, ?_⟩
      by_cases none : k = 0
      · exact .inl (by simp [nextRow, none])
      · exact .inr (closer none).1
    rw [column, row]
    have next := hugs.next (by omega)
    exact ⟨⟨fun isSteep => absurd isSteep steep, fun _ => next⟩, by simp [left, steep]⟩

/-! ## An iteration of the loop -/

theorem straight_A : (straight start destination).A =
    my start destination * dy start destination := (my_cases start destination).difference

theorem straight_B : (straight start destination).B =
    -(mx start destination * dx start destination) := by
  rw [← (mx_cases start destination).difference, neg_sub]
  rfl

/-- What the equation of the line has for a point that is `p` columns and `q` rows away. -/
theorem straight_value (p q : Int) (isX : x = destination.getX - mx start destination * p)
    (isY : y = destination.getY - my start destination * q) :
    (straight start destination).A * x + (straight start destination).B * y +
        (straight start destination).C =
      mx start destination * my start destination *
        (q * dx start destination - p * dy start destination) := by
  have isC : (straight start destination).C =
      -((straight start destination).A * destination.getX +
        (straight start destination).B * destination.getY) := rfl
  rw [isC, straight_A, straight_B, isX, isY]
  ring

/-- The values of the three distances that an iteration forms. -/
structure AllFormed (start destination pos : Position) : Prop where
  hor : Formed (straight start destination) (pos.getX + mx start destination) pos.getY
  ver : Formed (straight start destination) pos.getX (pos.getY + my start destination)
  cross : Formed (straight start destination) (pos.getX + mx start destination)
    (pos.getY + my start destination)

theorem measured_of_onWay (onWay : OnWay start destination i k pos) :
    Measured start destination i k
      ((straight start destination).A * (pos.getX + mx start destination) +
        (straight start destination).B * pos.getY + (straight start destination).C).natAbs
      ((straight start destination).A * pos.getX +
        (straight start destination).B * (pos.getY + my start destination) +
        (straight start destination).C).natAbs
      ((straight start destination).A * (pos.getX + mx start destination) +
        (straight start destination).B * (pos.getY + my start destination) +
        (straight start destination).C).natAbs := by
  intro columns rows
  have nextX : pos.getX + mx start destination =
      destination.getX - mx start destination * (i - 1) := by
    rw [onWay.x]
    ring
  have nextY : pos.getY + my start destination =
      destination.getY - my start destination * (k - 1) := by
    rw [onWay.y]
    ring
  have sign (value : Int) :
      (mx start destination * my start destination * value).natAbs = value.natAbs := by
    rw [Int.natAbs_mul, Int.natAbs_mul, (mx_cases start destination).natAbs_sign columns,
      (my_cases start destination).natAbs_sign rows, Nat.one_mul]
  rw [straight_value _ _ nextX onWay.y, straight_value _ _ onWay.x nextY,
    straight_value _ _ nextX nextY, sign, sign, sign]
  refine ⟨?_, ?_, ?_⟩
  · congr 2
    rw [gap]
    ring
  · congr 2
    rw [gap]
    ring
  · congr 2
    rw [gap]
    ring

theorem OnWay.stepRow (onWay : OnWay start destination i k pos) (hor ver cross : Int) :
    OnWay start destination i (nextRow i k hor ver cross)
      (if pos.y ≠ destination.y ∧ (pos.x = destination.x ∨ hor > ver ∨ hor > cross) then
        { pos with y := .ofInt (pos.getY + my start destination) } else pos) := by
  simp only [ne_eq, onWay.y_eq_iff, onWay.x_eq_iff, nextRow]
  split
  next moves =>
    obtain ⟨rest, rfl⟩ := Nat.exists_eq_succ_of_ne_zero moves.1
    exact onWay.moveY
  next => exact onWay

theorem OnWay.stepColumn (onWay : OnWay start destination i k pos) (hor ver cross : Int) :
    OnWay start destination (nextColumn i k hor ver cross) k
      (if pos.x ≠ destination.x ∧ (pos.y = destination.y ∨ ver > hor ∨ ver > cross) then
        { pos with x := .ofInt (pos.getX + mx start destination) } else pos) := by
  simp only [ne_eq, onWay.y_eq_iff, onWay.x_eq_iff, nextColumn]
  split
  next moves =>
    obtain ⟨rest, rfl⟩ := Nat.exists_eq_succ_of_ne_zero moves.1
    exact onWay.moveX
  next => exact onWay

/-- Where an iteration leads, with so many columns and rows left. -/
structure Leads (start destination : Position) (i k : Nat) (next : Position) (i' k' : Nat) : Prop
    where
  onWay : OnWay start destination i' k' next
  near : Near start destination i' k'
  column : i' = i ∨ i' + 1 = i
  row : k' = k ∨ k' + 1 = k
  left : left start destination i' k' + 1 = left start destination i k

/-- **One iteration**, if nothing overflows. -/
theorem move_spec (onWay : OnWay start destination i k pos)
    (near : Near start destination i k) (onTheWay : ¬(i = 0 ∧ k = 0))
    (formed : AllFormed start destination pos) :
    ∃ next i' k', (straight start destination).move pos destination (mx start destination)
        (my start destination) = some next ∧ Leads start destination i k next i' k' := by
  obtain ⟨nearNext, less⟩ := near_next near onTheWay (measured_of_onWay onWay) onWay.columns
    onWay.rows
  rw [Line.move, formed.hor.distance_eq, formed.ver.distance_eq, formed.cross.distance_eq]
  refine ⟨_, _, _, rfl, (onWay.stepRow _ _ _).stepColumn _ _ _, nearNext, ?_, ?_, less⟩
  · rw [nextColumn]
    split
    · omega
    · exact .inl rfl
  · rw [nextRow]
    split
    · omega
    · exact .inl rfl

end Otserv.Sight
