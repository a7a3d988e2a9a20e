import Mathlib.Tactic.Ring
import Mathlib.Tactic.LinearCombination

/-!
# Digital lines

A walk along a grid has `long` steps to make in one direction and `short` in the other, at most as
many. It makes a step of the first kind each time, and one of the second when that keeps it closer
to the straight line. With `left` steps of the first and `rest` of the second still to make, its
`error` says how far it is from the line, and stays within half of `long` to either side (`Hugs`).

The errors are the multiples of the greatest common divisor in these bounds, and on its way the
walk meets each of them (`exists_left_of_dvd`): so the largest and the least error have closed
forms (`upper`, `lower`).
-/

namespace Otserv.Foundation.DigitalLine

/-- How far the walk is from the line. -/
def error (long short left rest : Nat) : Int := (left * short : Int) - rest * long

/-- The walk is as close to the line as it can be. -/
structure Hugs (long short left rest : Nat) : Prop where
  low : -(long : Int) ≤ 2 * error long short left rest
  high : 2 * error long short left rest < long

/-- The largest error. -/
def upper (long short : Nat) : Nat :=
  long.gcd short * ((long / long.gcd short - 1) / 2)

/-- The largest error to the other side. -/
def lower (long short : Nat) : Nat := long.gcd short * (long / long.gcd short / 2)

variable {long short left rest : Nat}

namespace Hugs

theorem start (some : 0 < long) : Hugs long short long short := by
  have none : error long short long short = 0 := by
    rw [error]
    ring
  constructor
  · omega
  · omega

/-- A step of the one kind alone. -/
theorem straight (hugs : Hugs long short (left + 1) rest)
    (far : 2 * (short : Int) - long ≤ 2 * error long short (left + 1) rest) :
    Hugs long short left rest := by
  have next : error long short left rest = error long short (left + 1) rest - short := by
    simp only [error]
    push_cast
    ring
  have := hugs.high
  constructor
  · omega
  · omega

/-- A step of both kinds. -/
theorem both (hugs : Hugs long short (left + 1) (rest + 1))
    (near : 2 * error long short (left + 1) (rest + 1) < 2 * (short : Int) - long)
    (atMost : short ≤ long) : Hugs long short left rest := by
  have next : error long short left rest =
      error long short (left + 1) (rest + 1) - short + long := by
    simp only [error]
    push_cast
    ring
  have := hugs.low
  constructor
  · omega
  · omega

/-- When all of the one kind have been made, so have all of the other. -/
theorem rest_eq_zero (hugs : Hugs long short 0 rest) (some : 0 < long) : rest = 0 := by
  by_contra more
  have bound := hugs.low
  have large : (long : Int) ≤ rest * long := by
    exact_mod_cast Nat.le_mul_of_pos_left long (Nat.pos_of_ne_zero more)
  simp only [error] at bound
  omega

theorem steep (hugs : Hugs long short (left + 1) 0) : 2 * short < long := by
  have bound := hugs.high
  have least : (short : Int) ≤ (left + 1 : Nat) * short := by
    exact_mod_cast Nat.le_mul_of_pos_left short left.succ_pos
  simp only [error] at bound
  omega

/-- On a steep line, the last step is of the one kind alone. -/
theorem rest_eq_zero_of_steep (hugs : Hugs long short 1 rest) (isSteep : 2 * short < long) :
    rest = 0 := by
  by_contra more
  have bound := hugs.low
  have large : (long : Int) ≤ rest * long := by
    exact_mod_cast Nat.le_mul_of_pos_left long (Nat.pos_of_ne_zero more)
  simp only [error] at bound
  omega

end Hugs

/-! ## One step after the other -/

/-- On the diagonal the walk does not leave the line. -/
theorem Hugs.error_diagonal (hugs : Hugs long long left rest) : error long long left rest = 0 := by
  have isMultiple : error long long left rest = long * ((left : Int) - rest) := by
    rw [error]
    ring
  have less : (error long long left rest).natAbs < (long : Int).natAbs := by
    have := hugs.low
    have := hugs.high
    omega
  exact Int.eq_zero_of_dvd_of_natAbs_lt_natAbs (Dvd.intro _ isMultiple.symm) less

/-- What an iteration leaves of the longer and of the shorter kind keeps close to the line. -/
theorem Hugs.next (hugs : Hugs long short (left + 1) rest) (atMost : short ≤ long) :
    Hugs long short left
      (if rest ≠ 0 ∧ 2 * error long short (left + 1) rest < 2 * (short : Int) - long then
        rest - 1 else rest) := by
  split
  next both =>
    obtain ⟨more, near⟩ := both
    obtain ⟨rest, rfl⟩ := Nat.exists_eq_succ_of_ne_zero more
    exact hugs.both near atMost
  next alone =>
    refine hugs.straight ?_
    by_cases none : rest = 0
    · subst none
      have most : (short : Int) ≤ (left + 1 : Nat) * short := by
        exact_mod_cast Nat.le_mul_of_pos_left short left.succ_pos
      simp only [error]
      omega
    · omega

/-- With one step of the longer kind left, one of the other kind is made too. -/
theorem near_of_last (more : rest ≠ 0) (some : 0 < long) :
    2 * error long short 1 rest < 2 * (short : Int) - long := by
  have least : (long : Int) ≤ rest * long := by
    exact_mod_cast Nat.le_mul_of_pos_left long (Nat.pos_of_ne_zero more)
  simp only [error]
  omega

/-- Which of the three distances is the least, close to the line. -/
theorem least_distance {long short error : Int} (some : 0 < short) (atMost : short ≤ long)
    (low : -long ≤ 2 * error) (high : 2 * error < long) (diagonal : short = long → error = 0) :
    ((error + long).natAbs > (error - short).natAbs ∨
        (error + long).natAbs > (error + long - short).natAbs) ∧
      ((error - short).natAbs > (error + long).natAbs ∨
          (error - short).natAbs > (error + long - short).natAbs ↔
        2 * error < 2 * short - long) := by
  have hor := Int.natAbs_eq (error + long)
  have ver := Int.natAbs_eq (error - short)
  have cross := Int.natAbs_eq (error + long - short)
  generalize (error + long).natAbs = hor at *
  generalize (error - short).natAbs = ver at *
  generalize (error + long - short).natAbs = cross at *
  omega

/-- What the distances after a step of the one kind, of the other kind and of both kinds tell: to
make a step of the first kind, and one of the other kind too if it keeps closer. -/
theorem Hugs.choice (hugs : Hugs long short (left + 1) rest) (some : 0 < short)
    (atMost : short ≤ long) {along aside across : Int}
    (isAlong : along = (error long short (left + 1) rest - short).natAbs)
    (isAside : aside = (error long short (left + 1) rest + long).natAbs)
    (isAcross : across = (error long short (left + 1) rest + long - short).natAbs) :
    (aside > along ∨ aside > across) ∧
      (along > aside ∨ along > across ↔
        2 * error long short (left + 1) rest < 2 * (short : Int) - long) := by
  have diagonal : (short : Int) = long → error long short (left + 1) rest = 0 := by
    intro same
    obtain rfl : short = long := by omega
    exact hugs.error_diagonal
  have least := least_distance (by omega) (by omega) hugs.low hugs.high diagonal
  exact ⟨by omega, by omega⟩

/-! ## The largest and the least error -/

theorem gcd_dvd_error : (long.gcd short : Int) ∣ error long short left rest := by
  have ofLong : (long.gcd short : Int) ∣ long := Int.natCast_dvd_natCast.mpr (Nat.gcd_dvd_left ..)
  have ofShort : (long.gcd short : Int) ∣ short :=
    Int.natCast_dvd_natCast.mpr (Nat.gcd_dvd_right ..)
  exact Int.dvd_sub (ofShort.mul_left _) (ofLong.mul_left _)

theorem two_mul_upper_lt (some : 0 < long) : 2 * upper long short < long := by
  have isPos := Nat.gcd_pos_of_pos_left short some
  obtain ⟨times, isTimes⟩ := long.gcd_dvd_left short
  have division : long / long.gcd short = times := Nat.div_eq_of_eq_mul_right isPos isTimes
  have timesPos : 0 < times := Nat.pos_of_ne_zero fun zero => by simp [zero] at isTimes; omega
  rw [upper, division]
  calc 2 * (long.gcd short * ((times - 1) / 2))
      = long.gcd short * (2 * ((times - 1) / 2)) := by ring
    _ < long.gcd short * times := (Nat.mul_lt_mul_left isPos).mpr (by omega)
    _ = long := isTimes.symm

theorem two_mul_lower_le (some : 0 < long) : 2 * lower long short ≤ long := by
  have isPos := Nat.gcd_pos_of_pos_left short some
  obtain ⟨times, isTimes⟩ := long.gcd_dvd_left short
  have division : long / long.gcd short = times := Nat.div_eq_of_eq_mul_right isPos isTimes
  rw [lower, division]
  calc 2 * (long.gcd short * (times / 2))
      = long.gcd short * (2 * (times / 2)) := by ring
    _ ≤ long.gcd short * times := Nat.mul_le_mul_left _ (by omega)
    _ = long := isTimes.symm

theorem Hugs.error_le_upper (hugs : Hugs long short left rest) (some : 0 < long) :
    error long short left rest ≤ upper long short := by
  have isPos := Nat.gcd_pos_of_pos_left short some
  obtain ⟨times, isTimes⟩ := long.gcd_dvd_left short
  obtain ⟨part, isPart⟩ := @gcd_dvd_error long short left rest
  have division : long / long.gcd short = times := Nat.div_eq_of_eq_mul_right isPos isTimes
  have bound : (long.gcd short : Int) * (2 * part) < long.gcd short * times := by
    calc (long.gcd short : Int) * (2 * part) = 2 * error long short left rest := by
          rw [isPart]
          ring
      _ < long := hugs.high
      _ = long.gcd short * times := by exact_mod_cast isTimes
  have small : 2 * part < times := lt_of_mul_lt_mul_left bound (Int.natCast_nonneg _)
  have atMost : part ≤ ((times - 1) / 2 : Nat) := by omega
  rw [isPart, upper, division, Nat.cast_mul]
  exact mul_le_mul_of_nonneg_left atMost (Int.natCast_nonneg _)

theorem Hugs.neg_lower_le_error (hugs : Hugs long short left rest) (some : 0 < long) :
    -(lower long short : Int) ≤ error long short left rest := by
  have isPos := Nat.gcd_pos_of_pos_left short some
  obtain ⟨times, isTimes⟩ := long.gcd_dvd_left short
  obtain ⟨part, isPart⟩ := @gcd_dvd_error long short left rest
  have division : long / long.gcd short = times := Nat.div_eq_of_eq_mul_right isPos isTimes
  have bound : (long.gcd short : Int) * -(times : Int) ≤ long.gcd short * (2 * part) := by
    calc (long.gcd short : Int) * -(times : Int) = -((long.gcd short * times : Nat) : Int) := by
          push_cast
          ring
      _ = -(long : Int) := by rw [← isTimes]
      _ ≤ 2 * error long short left rest := hugs.low
      _ = long.gcd short * (2 * part) := by
          rw [isPart]
          ring
  have large : -(times : Int) ≤ 2 * part :=
    le_of_mul_le_mul_left bound (Int.natCast_pos.mpr isPos)
  have atLeast : -((times / 2 : Nat) : Int) ≤ part := by omega
  rw [isPart, lower, division, Nat.cast_mul, ← mul_neg]
  exact mul_le_mul_of_nonneg_left atLeast (Int.natCast_nonneg _)

/-- The walk comes to every error that is a multiple of the greatest common divisor. -/
theorem exists_left_of_dvd {value : Int} (some : 0 < long)
    (divides : (long.gcd short : Int) ∣ value) (low : -(long : Int) ≤ 2 * value)
    (high : 2 * value < long) : ∃ left, 0 < left ∧ left ≤ long ∧
      ∀ rest, Hugs long short left rest → error long short left rest = value := by
  obtain ⟨part, isPart⟩ := divides
  have isPos : (0 : Int) < long := Int.natCast_pos.mpr some
  -- the steps left are a multiple of the inverse of `short`, as far as it has one
  have hits : ∃ left : Nat, 0 < left ∧ left ≤ long ∧ (long : Int) ∣ left * short - value := by
    have bezout := long.gcd_eq_gcd_ab short
    have wanted : ∃ left : Int, (long : Int) ∣ left * short - value := by
      refine ⟨part * long.gcdB short, -(part * long.gcdA short), ?_⟩
      rw [isPart, bezout]
      ring
    obtain ⟨left, divides⟩ := wanted
    have inRange := Int.emod_lt_of_pos (left - 1) isPos
    have notNeg := Int.emod_nonneg (left - 1) (by omega : (long : Int) ≠ 0)
    refine ⟨((left - 1) % long + 1).toNat, by omega, by omega, ?_⟩
    have same : (((left - 1) % long + 1).toNat : Int) * short - value =
        left * short - value - long * ((left - 1) / long * short) := by
      have whole := Int.mul_ediv_add_emod (left - 1) long
      rw [Int.toNat_of_nonneg (by omega)]
      linear_combination (short : Int) * whole
    rw [same]
    exact Int.dvd_sub divides (.intro _ rfl)
  obtain ⟨left, more, atMost, divides⟩ := hits
  refine ⟨left, more, atMost, fun rest hugs => ?_⟩
  have apart : (long : Int) ∣ error long short left rest - value := by
    have same : error long short left rest - value = left * short - value - long * rest := by
      rw [error]
      ring
    rw [same]
    exact Int.dvd_sub divides (.intro _ rfl)
  have less : (error long short left rest - value).natAbs < (long : Int).natAbs := by
    have := hugs.low
    have := hugs.high
    omega
  exact Int.sub_eq_zero.mp (Int.eq_zero_of_dvd_of_natAbs_lt_natAbs apart less)

theorem exists_upper (some : 0 < long) : ∃ left, 0 < left ∧ left ≤ long ∧
    ∀ rest, Hugs long short left rest → error long short left rest = upper long short := by
  have small : 2 * (upper long short : Int) < long := by
    exact_mod_cast two_mul_upper_lt some
  have divides : (long.gcd short : Int) ∣ upper long short :=
    Int.natCast_dvd_natCast.mpr (Nat.dvd_mul_right ..)
  exact exists_left_of_dvd some divides (by omega) small

theorem exists_lower (some : 0 < long) : ∃ left, 0 < left ∧ left ≤ long ∧
    ∀ rest, Hugs long short left rest →
      error long short left rest = -(lower long short : Int) := by
  have small : 2 * (lower long short : Int) ≤ long := by
    exact_mod_cast two_mul_lower_le some
  have divides : (long.gcd short : Int) ∣ lower long short :=
    Int.natCast_dvd_natCast.mpr (Nat.dvd_mul_right ..)
  exact exists_left_of_dvd some (Int.dvd_neg.mpr divides) (by omega) (by omega)

end Otserv.Foundation.DigitalLine
