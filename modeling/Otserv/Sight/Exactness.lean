import Otserv.Sight.Overflow

/-!
# The line of sight is sound exactly where nothing overflows

Where the two positions are within bounds, nothing overflows (`fine_of_within`). Conversely, the
walk on an empty map comes to the place where the largest sum or product is formed. So the loop is
sound on every map exactly within the bounds (`sound_iff_within`).
-/

namespace Otserv.Sight

open Foundation Foundation.DigitalLine
open World (Position)

variable {start destination : Position}

theorem fine_of_within (within : Within start destination) :
    getLine start destination = some (straight start destination) ∧ Fine start destination := by
  rw [Within] at within
  split at within
  next grows =>
    have growing := growing_of grows.1 grows.2
    exact ⟨getLine_growing growing within, fun _ _ _ onWay near _ =>
      allFormed_of_looks onWay fun _ _ => formed_growing growing within onWay near⟩
  next notGrowing =>
    split at within
    next falls =>
      have falling := falling_of falls.1 falls.2
      exact ⟨getLine_falling falling within, fun _ _ _ onWay near _ =>
        allFormed_of_looks onWay fun _ _ => formed_falling falling within onWay near⟩
    next notFalling =>
      have alike : Alike start destination := ⟨notGrowing, notFalling⟩
      exact ⟨getLine_alike alike within.1 within.2, fun _ _ _ onWay near onTheWay =>
        allFormed_of_looks onWay fun _ _ =>
          formed_alike alike within.1 within.2 onWay near onTheWay⟩

/-! ## The other direction -/

theorem isLine_of_isSome (isSome : (getLine start destination).isSome) :
    getLine start destination = some (straight start destination) := by
  obtain ⟨horizontal, vertical, sum, C⟩ := fits_of_getLine isSome
  exact getLine_eq horizontal vertical sum C

section

variable (sound : Sound (fun _ => none) start destination)
include sound

theorem formed_start (apart : ¬(dx start destination = 0 ∧ dy start destination = 0)) :
    AllFormed start destination start := by
  have walks : walk destination (fun _ => none) (straight start destination)
      (mx start destination) (my start destination) 0 start = .onTheWay start :=
    walk_zero (mt onWay_start.arrived_iff.mp apart)
  obtain ⟨next, moves, -⟩ := sound.progress _ (isLine_of_isSome sound.line) 0 start walks
  exact allFormed_of_move (by rw [moves]; rfl)

theorem exists_formed {remaining : Nat} (more : 0 < remaining) (atMost : remaining ≤
      left start destination (dx start destination) (dy start destination)) :
    ∃ pos i k, OnWay start destination i k pos ∧ Near start destination i k ∧
      left start destination i k = remaining ∧ AllFormed start destination pos := by
  have isLine := isLine_of_isSome sound.line
  obtain ⟨pos, i, k, walks, onWay, near, isLeft⟩ := exists_visited sound isLine
    (left start destination (dx start destination) (dy start destination) - remaining) (by omega)
  obtain ⟨next, moves, -⟩ := sound.progress _ isLine _ pos walks
  exact ⟨pos, i, k, onWay, near, by omega, allFormed_of_move (by rw [moves]; rfl)⟩

end

/-- The walk comes to the gap that the line comes to in its kind. -/
theorem exists_gap {value : Int}
    (steep : dx start destination ≤ dy start destination → ∃ remaining, 0 < remaining ∧
      remaining ≤ dy start destination ∧ ∀ i, Hugs (dy start destination) (dx start destination)
        remaining i → error (dy start destination) (dx start destination) remaining i = value)
    (flat : dy start destination < dx start destination → ∃ remaining, 0 < remaining ∧
      remaining ≤ dx start destination ∧ ∀ k, Hugs (dx start destination) (dy start destination)
        remaining k → error (dx start destination) (dy start destination) remaining k = -value) :
    ∃ remaining, 0 < remaining ∧
      remaining ≤ left start destination (dx start destination) (dy start destination) ∧
      ∀ i k, Near start destination i k → left start destination i k = remaining →
        gap start destination i k = value := by
  by_cases isSteep : dx start destination ≤ dy start destination
  · obtain ⟨remaining, more, atMost, hits⟩ := steep isSteep
    refine ⟨remaining, more, by simpa [left, isSteep] using atMost, fun i k near isLeft => ?_⟩
    rw [left, if_pos isSteep] at isLeft
    subst isLeft
    exact hits i (near.steep isSteep)
  · obtain ⟨remaining, more, atMost, hits⟩ := flat (Nat.lt_of_not_le isSteep)
    refine ⟨remaining, more, by simpa [left, isSteep] using atMost, fun i k near isLeft => ?_⟩
    rw [left, if_neg isSteep] at isLeft
    subst isLeft
    have isError := hits k (near.flat (Nat.lt_of_not_le isSteep))
    rw [error] at isError
    rw [gap]
    omega

section

variable (sound : Sound (fun _ => none) start destination)
include sound

theorem within_growing (growing : Growing start destination) :
    Fits (-(destination.getX * start.getY - start.getX * destination.getY +
      dy start destination + most start destination)) := by
  have columns := growing.columns
  obtain ⟨remaining, more, atMost, isMost⟩ :=
    @exists_gap start destination (most start destination)
      (fun steep => by rw [most, if_pos steep]; exact exists_upper (by omega))
      (fun flat => by rw [most, if_neg (by omega)]; exact exists_lower (by omega))
  obtain ⟨pos, i, k, onWay, near, isLeft, formed⟩ := exists_formed sound more atMost
  have isGap := isMost i k near isLeft
  have fits := formed.hor.sum
  obtain atY : start.getY = destination.getY + dy start destination := by
    have := growing.row
    omega
  have isX : start.getX = destination.getX - dx start destination := by
    have := growing.column
    omega
  have same : -(destination.getX * start.getY - start.getX * destination.getY +
      dy start destination + most start destination) =
      (straight start destination).A * (pos.getX + mx start destination) +
        (straight start destination).B * pos.getY := by
    rw [← isGap, gap, straight_A, straight_B, onWay.x, onWay.y, isX, atY, growing.mx, growing.my]
    ring
  rw [same]
  exact fits

theorem within_falling (falling : Falling start destination) :
    Fits (start.getX * destination.getY - destination.getX * start.getY +
      dx start destination + least start destination) := by
  have columns := falling.columns
  obtain ⟨remaining, more, atMost, isLeast⟩ :=
    @exists_gap start destination (-(least start destination : Int))
      (fun steep => by rw [least, if_pos steep]; exact exists_lower (by omega))
      (fun flat => by rw [least, if_neg (by omega), neg_neg]; exact exists_upper (by omega))
  obtain ⟨pos, i, k, onWay, near, isLeft, formed⟩ := exists_formed sound more atMost
  have isGap := isLeast i k near isLeft
  have fits := formed.ver.sum
  obtain atX : start.getX = destination.getX + dx start destination := by
    have := falling.column
    omega
  have isY : start.getY = destination.getY - dy start destination := by
    have := falling.row
    omega
  have isLeast : (least start destination : Int) = -gap start destination i k := by omega
  have same : start.getX * destination.getY - destination.getX * start.getY +
      dx start destination + least start destination =
      (straight start destination).A * pos.getX +
        (straight start destination).B * (pos.getY + my start destination) := by
    rw [isLeast, gap, straight_A, straight_B, onWay.x, onWay.y, atX, isY, falling.mx, falling.my]
    ring
  rw [same]
  exact fits

theorem within_alike :
    Fits ((straight start destination).A * largestX start destination) ∧
      Fits ((straight start destination).B * largestY start destination) := by
  obtain ⟨horizontal, vertical, -⟩ := fits_of_getLine sound.line
  by_cases apart : dx start destination = 0 ∧ dy start destination = 0
  · rw [straight_A, straight_B, apart.1, apart.2]
    simp [Fits]
  have atStart := formed_start sound apart
  constructor
  · rw [largestX]
    split
    next steep =>
      obtain ⟨pos, i, k, onWay, near, isLeft, formed⟩ := @exists_formed _ _ sound 1 Nat.one_pos
        (by rw [left, if_pos (by omega)]; omega)
      rw [left, if_pos (by omega)] at isLeft
      subst isLeft
      obtain rfl := (near.steep (by omega)).rest_eq_zero_of_steep steep.2
      rcases mx_cases start destination with ⟨isX, -⟩ | ⟨-, isAt, -⟩ | ⟨-, isAt, -⟩
      · simpa [onWay.x, isX] using formed.hor.horizontal
      · omega
      · omega
    next =>
      rcases le_total start.getX destination.getX with atMost | atLeast
      · rwa [max_eq_right atMost]
      · rw [max_eq_left atLeast]
        exact atStart.ver.horizontal
  · rw [largestY]
    split
    next flat =>
      obtain ⟨pos, i, k, onWay, near, isLeft, formed⟩ := @exists_formed _ _ sound 1 Nat.one_pos
        (by rw [left, if_neg (by omega)]; omega)
      rw [left, if_neg (by omega)] at isLeft
      subst isLeft
      obtain rfl := (near.flat (by omega)).rest_eq_zero_of_steep flat.2
      rcases my_cases start destination with ⟨isY, -⟩ | ⟨-, isAt, -⟩ | ⟨-, isAt, -⟩
      · simpa [onWay.y, isY] using formed.ver.vertical
      · omega
      · omega
    next =>
      rcases le_total start.getY destination.getY with atMost | atLeast
      · rwa [max_eq_right atMost]
      · rw [max_eq_left atLeast]
        exact atStart.hor.vertical

theorem within_of_sound : Within start destination := by
  rw [Within]
  split
  next grows => exact within_growing sound (growing_of grows.1 grows.2)
  next =>
    split
    next falls => exact within_falling sound (falling_of falls.1 falls.2)
    next => exact within_alike sound

end

/-- **The line of sight** is sound on every map exactly if the positions are within bounds. -/
theorem sound_iff_within (fromPos toPos : Position) :
    (∀ getTile, Sound getTile (lower fromPos toPos) (upper fromPos toPos)) ↔
      Within (lower fromPos toPos) (upper fromPos toPos) := by
  constructor
  · intro sound
    exact within_of_sound (sound _)
  · intro within getTile
    obtain ⟨isLine, fine⟩ := fine_of_within within
    exact sound_of_fine isLine fine

/-- Positions that are not more than a quarter of the map apart are within bounds. -/
theorem within_of_close (columns : dx start destination ≤ 16383)
    (rows : dy start destination ≤ 16383) : Within start destination := by
  have toX := getX_bounds destination
  have toY := getY_bounds destination
  have fromX := getX_bounds start
  have fromY := getY_bounds start
  have farX : (dy start destination : Int) * destination.getX ≤ 16383 * 65535 :=
    mul_le_mul (by omega) (by omega) (by omega) (by omega)
  have farY : (dx start destination : Int) * destination.getY ≤ 16383 * 65535 :=
    mul_le_mul (by omega) (by omega) (by omega) (by omega)
  have nonnegX : 0 ≤ (dy start destination : Int) * destination.getX :=
    mul_nonneg (by omega) (by omega)
  have nonnegY : 0 ≤ (dx start destination : Int) * destination.getY :=
    mul_nonneg (by omega) (by omega)
  rw [Within]
  split
  next grows =>
    have growing := growing_of grows.1 grows.2
    have isX : start.getX = destination.getX - dx start destination := by
      have := growing.column
      omega
    have isY : start.getY = destination.getY + dy start destination := by
      have := growing.row
      omega
    have small : 2 * most start destination ≤ 16383 := by
      rw [most]
      split
      · have := @two_mul_upper_lt (dy start destination) (dx start destination) growing.rows
        omega
      · have := @two_mul_lower_le (dx start destination) (dy start destination) growing.columns
        omega
    rw [isX, isY]
    constructor <;> linarith
  next =>
    split
    next falls =>
      have falling := falling_of falls.1 falls.2
      have isX : start.getX = destination.getX + dx start destination := by
        have := falling.column
        omega
      have isY : start.getY = destination.getY - dy start destination := by
        have := falling.row
        omega
      have small : 2 * least start destination ≤ 16383 := by
        rw [least]
        split
        · have := @two_mul_lower_le (dy start destination) (dx start destination) falling.rows
          omega
        · have := @two_mul_upper_lt (dx start destination) (dy start destination)
            falling.columns
          omega
      rw [isX, isY]
      constructor <;> linarith
    next =>
      have product {factor value : Int} (low : -16383 ≤ factor) (high : factor ≤ 16383)
          (nonneg : 0 ≤ value) (atMost : value ≤ 65536) : Fits (factor * value) := by
        have above := mul_le_mul_of_nonneg_right high nonneg
        have below := mul_le_mul_of_nonneg_right low nonneg
        constructor <;> linarith
      rw [dx] at columns
      rw [dy] at rows
      have largeX := le_largestX start destination
      have largeY := le_largestY start destination
      have limitX : largestX start destination ≤ 65536 := by
        rw [largestX]
        split <;> omega
      have limitY : largestY start destination ≤ 65536 := by
        rw [largestY]
        split <;> omega
      exact ⟨product (by omega) (by omega) (by omega) limitX,
        product (by omega) (by omega) (by omega) limitY⟩

/-- Where the loop is sound, the function has an answer. -/
theorem checkSightLine_isSome {getTile : Position → Option SightTile} {fromPos toPos : Position}
    (sound : Sound getTile (lower fromPos toPos) (upper fromPos toPos)) :
    (checkSightLine getTile fromPos toPos).isSome := by
  rw [checkSightLine]
  split
  · rfl
  obtain ⟨line, isLine⟩ := Option.isSome_iff_exists.mp sound.line
  simp only [isLine, Option.bind_some]
  rcases sound.ends line isLine with blocked | ⟨pos, arrived, -⟩
  · rw [blocked]
    rfl
  · rw [arrived]
    rfl

/-- **Between close positions there is an answer**, whatever is on the map. -/
theorem checkSightLine_of_close {fromPos toPos : Position}
    (columns : dx (lower fromPos toPos) (upper fromPos toPos) ≤ 16383)
    (rows : dy (lower fromPos toPos) (upper fromPos toPos) ≤ 16383)
    (getTile : Position → Option SightTile) :
    (checkSightLine getTile fromPos toPos).isSome := by
  obtain ⟨isLine, fine⟩ := fine_of_within (within_of_close columns rows)
  exact checkSightLine_isSome (sound_of_fine isLine fine)

theorem checkSightLine_of_close_screen :
    (checkSightLine (fun _ => none) ⟨100, 100, 7⟩ ⟨109, 93, 7⟩).isSome :=
  checkSightLine_of_close (by decide) (by decide) _

/-- From one corner of the map to the other, `A` times `x` overflows. -/
theorem overflows_corners :
    ¬Sound (fun _ => none) (lower ⟨0, 0, 7⟩ ⟨65535, 65535, 7⟩)
      (upper ⟨0, 0, 7⟩ ⟨65535, 65535, 7⟩) := by
  intro sound
  exact absurd sound.line (by decide)

end Otserv.Sight
