import Mathlib.Tactic.Linarith
import Otserv.Experience.Levels

/-!
# The level of an experience

A player's experience lies between that of its level and that of the next one, and what it has
gained with its levels it loses with them again, unless a stat is cut (`Kept`). This is so in
every run (`kept_throughout`) in which no more than `2 ^ 63` beyond the experience is taken, since
the difference is read as a number with a sign, and no level is lost with a health that does not
fit into 32 bits, since the rest is read as such a number.

The table rises up to its last level (`getExpForLevel_lt_succ`, `maxLevel_falls`).
-/

namespace Otserv.Experience

open Foundation

/-! ## The table -/

/-- The experience of a level, three times, before it is cut to 64 bits. -/
def tripled (lv : Nat) : Int := 50 * lv * lv * lv - 150 * lv * lv + 400 * lv

theorem tripled_succ (lv : Nat) : tripled lv + 300 ≤ tripled (lv + 1) := by
  have square : 0 ≤ (lv : Int) * (lv - 1) := by
    rcases lv.eq_zero_or_pos with rfl | positive
    · exact le_refl _
    · exact Int.mul_nonneg (Int.natCast_nonneg lv) (by omega)
  have difference : tripled (lv + 1) = tripled lv + 150 * (lv * (lv - 1)) + 300 := by
    simp only [tripled]
    push_cast
    ring
  linarith

theorem tripled_mono {lv other : Nat} (le : lv ≤ other) : tripled lv ≤ tripled other :=
  monotone_nat_of_le_succ (fun lv => le_trans (by omega) (tripled_succ lv)) le

theorem tripled_bounds {lv : Nat} (low : lv ≤ 717216) : 0 ≤ tripled lv ∧ tripled lv < 2 ^ 64 :=
  ⟨tripled_mono lv.zero_le, lt_of_le_of_lt (tripled_mono low) (by norm_num [tripled])⟩

theorem getExpForLevel_succ {lv : Nat} (low : lv ≤ 717216) :
    (getExpForLevel (lv + 1) : Int) = tripled lv / 3 := by
  obtain ⟨positive, below⟩ := tripled_bounds low
  have before : ((lv + 1 : Nat) : Int) - 1 = lv := by omega
  rw [getExpForLevel, before, uint64]
  change (((tripled lv % 2 ^ 64).toNat / 3 : Nat) : Int) = _
  rw [Int.emod_eq_of_lt positive below]
  omega

/-- **The table rises** up to its last level. -/
theorem getExpForLevel_lt_succ {level : Nat} (first : 1 ≤ level) (low : level < maxLevel) :
    getExpForLevel level < getExpForLevel (level + 1) := by
  obtain ⟨lv, rfl⟩ : ∃ lv, level = lv + 1 := ⟨level - 1, by omega⟩
  rw [maxLevel] at low
  have less := tripled_succ lv
  have here := getExpForLevel_succ (show lv ≤ 717216 by omega)
  have next := getExpForLevel_succ (show lv + 1 ≤ 717216 by omega)
  omega

theorem getExpForLevel_le {level other : Nat} (first : 1 ≤ level) (ordered : level ≤ other)
    (low : other ≤ maxLevel) : getExpForLevel level ≤ getExpForLevel other := by
  induction other, ordered using Nat.le_induction with
  | base => exact le_refl _
  | succ other ordered ih =>
    have rises := getExpForLevel_lt_succ (le_trans first ordered) low
    exact (ih (by omega)).trans rises.le

theorem getExpForLevel_one : getExpForLevel 1 = 0 := by decide

/-! ## Levels -/

namespace Player

variable {vocation : Vocation} {player : Player}

/-- **The experience is that of the level**, which the table has. -/
structure Levelled (player : Player) : Prop where
  first : 1 ≤ player.level
  last : player.level < maxLevel
  reached : getExpForLevel player.level ≤ player.experience
  below : player.experience < getExpForLevel (player.level + 1)

variable {holds : Player → Prop}

/-- **The loop of `addExperience`** ends with the level of the experience. What a level more keeps
is kept by the loop. -/
theorem gainLevels_spec (gains : ∀ player, holds player → holds (player.gainLevel vocation))
    {currLevelExp nextLevelExp : Nat} (initial : holds player) (first : 1 ≤ player.level)
    (last : player.level < maxLevel) (isCurr : currLevelExp = getExpForLevel player.level)
    (isNext : nextLevelExp = getExpForLevel (player.level + 1))
    (reached : currLevelExp ≤ player.experience)
    (bounded : player.experience < getExpForLevel maxLevel) :
    Levelled (gainLevels vocation player currLevelExp nextLevelExp).1 ∧
      holds (gainLevels vocation player currLevelExp nextLevelExp).1 ∧
        (gainLevels vocation player currLevelExp nextLevelExp).1.experience =
          player.experience := by
  induction player, currLevelExp, nextLevelExp using gainLevels.induct vocation with
  | case1 player currLevelExp nextLevelExp passes gained next rises ih =>
    have sooner : player.level + 1 < maxLevel := by
      by_contra high
      have isLast : player.level + 1 = maxLevel := by omega
      rw [isNext, isLast] at passes
      omega
    rw [gainLevels, if_pos passes]
    rw [if_pos rises]
    exact ih (gains player initial) (Nat.le_add_left 1 _) sooner isNext rfl passes bounded
  | case2 player currLevelExp nextLevelExp passes gained next falls =>
    have sooner : player.level + 1 < maxLevel := by
      by_contra high
      have isLast : player.level + 1 = maxLevel := by omega
      rw [isNext, isLast] at passes
      omega
    have rises := getExpForLevel_lt_succ (Nat.le_add_left 1 player.level) sooner
    rw [← isNext] at rises
    exact absurd rises falls
  | case3 player currLevelExp nextLevelExp stays =>
    rw [gainLevels, if_neg stays]
    rw [isNext, not_le] at stays
    exact ⟨⟨first, last, isCurr ▸ reached, stays⟩, initial, rfl⟩

/-- **The loop of `removeExperience`** ends with the level of the experience. -/
theorem loseLevels_spec (loses : ∀ player, holds player → 1 < player.level →
      player.experience < getExpForLevel player.level → holds (player.loseLevel vocation))
    (initial : holds player) (first : 1 ≤ player.level) (last : player.level < maxLevel)
    (below : player.experience < getExpForLevel (player.level + 1)) :
    Levelled (loseLevels vocation player) ∧ holds (loseLevels vocation player) := by
  induction player using loseLevels.induct vocation with
  | case1 player loop ih =>
    rw [loseLevels, if_pos loop]
    have isBefore : (player.loseLevel vocation).level + 1 = player.level :=
      Nat.sub_add_cancel first
    refine ih (loses player initial loop.1 loop.2) (by omega) (by omega) ?_
    rw [isBefore]
    exact loop.2
  | case2 player ends =>
    rw [loseLevels, if_neg ends]
    refine ⟨⟨first, last, ?_, below⟩, initial⟩
    rw [not_and, not_lt] at ends
    rcases Nat.lt_or_ge 1 player.level with more | one
    · exact ends more
    · rw [show player.level = 1 by omega, getExpForLevel_one]
      exact Nat.zero_le _

/-! ## Stats -/

theorem int32_of_mem {value : Int} (low : -2 ^ 31 ≤ value) (high : value < 2 ^ 31) :
    int32 value = value := by
  rw [int32, Int.bmod_def]
  split_ifs <;> omega

theorem uint32_lt (value : Int) : uint32 value < 2 ^ 32 := by
  rw [uint32]
  omega

theorem uint32_add (value added : Int) : uint32 (uint32 value + added) = uint32 (value + added) := by
  rw [uint32, uint32, uint32]
  omega

theorem uint32_sub (value taken : Int) : uint32 (uint32 value - taken) = uint32 (value - taken) := by
  rw [uint32, uint32, uint32]
  omega

theorem uint32_of_lt {value : Nat} (small : value < 2 ^ 32) : uint32 value = value := by
  rw [uint32]
  omega

theorem maxZero_of_not_cuts {value : Nat} (small : value < 2 ^ 32) (whole : cuts value = false) :
    (maxZero value).toNat = value := by
  rw [cuts, decide_eq_false_iff_not] at whole
  rw [maxZero]
  rw [int32, Int.bmod_def] at *
  split_ifs at * <;> omega

/-- Unless a stat has been cut, the stats have changed by what the levels give. -/
structure Tracks (vocation : Vocation) (start player : Player) : Prop where
  manaMax_lt : player.manaMax < 2 ^ 32
  capacity_lt : player.capacity < 2 ^ 32
  healthMax : player.clamped = false → player.healthMax =
    start.healthMax + ((player.level : Int) - start.level) * vocation.gainHP
  manaMax : player.clamped = false → player.manaMax =
    uint32 (start.manaMax + ((player.level : Int) - start.level) * vocation.gainMana)
  capacity : player.clamped = false → player.capacity =
    uint32 (start.capacity + ((player.level : Int) - start.level) * vocation.gainCap)

/-- The health fits into 32 bits when a level has been lost, and what a level gives into 31. -/
structure Fits (vocation : Vocation) (player : Player) : Prop where
  gain : vocation.gainHP ≤ 2 ^ 31
  positive : 0 ≤ player.healthMax
  small : player.healthMax - vocation.gainHP < 2 ^ 31

theorem manaMax_loseLevel : (player.loseLevel vocation).manaMax =
    (maxZero (uint32 (player.manaMax - vocation.gainMana))).toNat := by
  rw [loseLevel]

theorem capacity_loseLevel : (player.loseLevel vocation).capacity =
    (maxZero (uint32 (player.capacity - vocation.gainCap))).toNat := by
  rw [loseLevel]

theorem Fits.loseLevel (fits : Fits vocation player) :
    Fits vocation (player.loseLevel vocation) := by
  obtain ⟨gain, positive, small⟩ := fits
  have rest : (player.loseLevel vocation).healthMax =
      max 0 (player.healthMax - vocation.gainHP) := by
    change maxZero (player.healthMax - vocation.gainHP) = _
    rw [maxZero, int32_of_mem (by omega) small]
  refine ⟨gain, ?_, ?_⟩
  · omega
  · omega

namespace Tracks

variable {start : Player} (tracks : Tracks vocation start player)
include tracks

/-- **A level more.** -/
theorem gainLevel : Tracks vocation start (player.gainLevel vocation) := by
  have next (gain : Nat) : (((player.level + 1 : Nat) : Int) - start.level) * gain =
      ((player.level : Int) - start.level) * gain + gain := by
    push_cast
    ring
  refine ⟨?_, ?_, fun whole => ?_, fun whole => ?_, fun whole => ?_⟩
  · exact uint32_lt (player.manaMax + vocation.gainMana)
  · exact uint32_lt (player.capacity + vocation.gainCap)
  · change player.healthMax + vocation.gainHP = start.healthMax +
      (((player.level + 1 : Nat) : Int) - start.level) * vocation.gainHP
    rw [next, tracks.healthMax whole]
    omega
  · change uint32 (player.manaMax + vocation.gainMana) = uint32 (start.manaMax +
      (((player.level + 1 : Nat) : Int) - start.level) * vocation.gainMana)
    rw [next, tracks.manaMax whole, uint32_add, Int.add_assoc]
  · change uint32 (player.capacity + vocation.gainCap) = uint32 (start.capacity +
      (((player.level + 1 : Nat) : Int) - start.level) * vocation.gainCap)
    rw [next, tracks.capacity whole, uint32_add, Int.add_assoc]

/-- **A level less.** -/
theorem loseLevel (fits : Fits vocation player) (more : 1 < player.level) :
    Tracks vocation start (player.loseLevel vocation) := by
  have before (gain : Nat) : (((player.level - 1 : Nat) : Int) - start.level) * gain =
      ((player.level : Int) - start.level) * gain - gain := by
    rw [Nat.cast_sub more.le]
    ring
  have cut_lt {value : Nat} (small : value < 2 ^ 32) : (maxZero value).toNat < 2 ^ 32 := by
    rw [maxZero, int32, Int.bmod_def]
    split_ifs <;> omega
  have notCut (whole : (player.loseLevel vocation).clamped = false) :
      player.clamped = false ∧ cuts (player.healthMax - vocation.gainHP) = false ∧
        cuts (uint32 (player.manaMax - vocation.gainMana)) = false ∧
          cuts (uint32 (player.capacity - vocation.gainCap)) = false := by
    change (player.clamped || cuts (player.healthMax - vocation.gainHP) ||
      cuts (uint32 (player.manaMax - vocation.gainMana)) ||
        cuts (uint32 (player.capacity - vocation.gainCap))) = false at whole
    simpa only [Bool.or_eq_false_iff, and_assoc] using whole
  refine ⟨?_, ?_, fun whole => ?_, fun whole => ?_, fun whole => ?_⟩
  · rw [manaMax_loseLevel]
    exact cut_lt (uint32_lt _)
  · rw [capacity_loseLevel]
    exact cut_lt (uint32_lt _)
  · obtain ⟨wholeBefore, health, -, -⟩ := notCut whole
    change maxZero (player.healthMax - vocation.gainHP) = start.healthMax +
      (((player.level - 1 : Nat) : Int) - start.level) * vocation.gainHP
    obtain ⟨gain, positive, small⟩ := fits
    rw [cuts, decide_eq_false_iff_not, int32_of_mem (by omega) small] at health
    rw [before, maxZero, int32_of_mem (by omega) small, max_eq_right (not_lt.mp health),
      tracks.healthMax wholeBefore]
    omega
  · obtain ⟨wholeBefore, -, mana, -⟩ := notCut whole
    have level : (player.loseLevel vocation).level = player.level - 1 := rfl
    rw [manaMax_loseLevel, level, maxZero_of_not_cuts (uint32_lt _) mana, before, tracks.manaMax wholeBefore, uint32_sub,
      Int.add_sub_assoc]
  · obtain ⟨wholeBefore, -, -, capacity⟩ := notCut whole
    have level : (player.loseLevel vocation).level = player.level - 1 := rfl
    rw [capacity_loseLevel, level, maxZero_of_not_cuts (uint32_lt _) capacity, before, tracks.capacity wholeBefore,
      uint32_sub, Int.add_sub_assoc]

end Tracks

/-! ## Gains and losses -/

variable {start : Player} {prevLevel currLevelExp nextLevelExp : Nat}

theorem settle_eq : ∃ levelPercent health mana,
    player.settle prevLevel currLevelExp nextLevelExp = { player with
      levelPercent := levelPercent, health := health, mana := mana } := by
  rw [settle]
  split_ifs <;> exact ⟨_, _, _, rfl⟩

theorem Levelled.settle (levelled : Levelled player) :
    Levelled (player.settle prevLevel currLevelExp nextLevelExp) := by
  obtain ⟨levelPercent, health, mana, settled⟩ :=
    @settle_eq player prevLevel currLevelExp nextLevelExp
  rw [settled]
  exact ⟨levelled.first, levelled.last, levelled.reached, levelled.below⟩

theorem Tracks.settle (tracks : Tracks vocation start player) :
    Tracks vocation start (player.settle prevLevel currLevelExp nextLevelExp) := by
  obtain ⟨levelPercent, health, mana, settled⟩ :=
    @settle_eq player prevLevel currLevelExp nextLevelExp
  rw [settled]
  exact ⟨tracks.manaMax_lt, tracks.capacity_lt, tracks.healthMax, tracks.manaMax, tracks.capacity⟩

/-- What is true of the player throughout. -/
structure Invariant (vocation : Vocation) (start player : Player) : Prop where
  levelled : Levelled player
  tracks : Tracks vocation start player

/-- **`Player::addExperience`.** -/
theorem Invariant.addExperience (invariant : Invariant vocation start player) {exp : Nat}
    (bounded : player.experience + exp < getExpForLevel maxLevel) :
    Invariant vocation start (player.addExperience vocation exp) := by
  obtain ⟨levelled, tracks⟩ := invariant
  have rises := getExpForLevel_lt_succ levelled.first levelled.last
  rw [Player.addExperience]
  rw [if_neg (not_le.mpr rises)]
  by_cases nothing : exp = 0
  · rw [if_pos nothing]
    exact ⟨levelled, tracks⟩
  rw [if_neg nothing]
  have small := getExpForLevel_lt maxLevel
  have gained : uint64 (player.experience + exp) = player.experience + exp := by
    rw [uint64]
    omega
  rw [gained]
  have reached : getExpForLevel player.level ≤ player.experience + exp :=
    levelled.reached.trans (Nat.le_add_right _ _)
  have gaining : Tracks vocation start
      { player with experience := player.experience + exp } :=
    ⟨tracks.manaMax_lt, tracks.capacity_lt, tracks.healthMax, tracks.manaMax, tracks.capacity⟩
  obtain ⟨after, tracked, -⟩ := @gainLevels_spec vocation
    { player with experience := player.experience + exp } (Tracks vocation start)
    (fun _ tracks => tracks.gainLevel) _ _ gaining levelled.first levelled.last rfl rfl reached
    bounded
  exact ⟨after.settle, tracked.settle⟩

/-- What is taken is read as a number with a sign, and so is the health after a level is lost. -/
def Spares (vocation : Vocation) (player : Player) : ExperienceOp → Prop
  | .addExperience _ => True
  | .removeExperience exp =>
    exp ≤ player.experience + 2 ^ 63 ∧
      (player.experience - exp < getExpForLevel player.level → Fits vocation player)

/-- The player with the experience that is left. -/
def losing (player : Player) (exp : Nat) : Player :=
  { player with experience := (max 0 (int64 (uint64 (player.experience - exp)))).toNat }

theorem removeExperience_eq {exp : Nat} (something : ¬ (player.experience = 0 ∨ exp = 0)) :
    player.removeExperience vocation exp =
      (loseLevels vocation (player.losing exp)).settle player.level
        (getExpForLevel (loseLevels vocation (player.losing exp)).level)
        (getExpForLevel ((loseLevels vocation (player.losing exp)).level + 1)) := if_neg something

/-- **`Player::removeExperience`.** -/
theorem Invariant.removeExperience (invariant : Invariant vocation start player) {exp : Nat}
    (spares : player.Spares vocation (.removeExperience exp)) :
    Invariant vocation start (player.removeExperience vocation exp) := by
  obtain ⟨levelled, tracks⟩ := invariant
  obtain ⟨signed, fits⟩ := spares
  by_cases nothing : player.experience = 0 ∨ exp = 0
  · rw [Player.removeExperience, if_pos nothing]
    exact ⟨levelled, tracks⟩
  rw [removeExperience_eq nothing, losing]
  have bounded : player.experience < 2 ^ 63 := by
    have below := levelled.below
    have ordered := getExpForLevel_le (Nat.le_add_left 1 player.level) levelled.last
      (le_refl maxLevel)
    have small : getExpForLevel maxLevel < 2 ^ 63 := by decide
    omega
  have lost : (max 0 (int64 (uint64 (player.experience - exp)))).toNat =
      player.experience - exp := by
    rw [int64, uint64, Int.bmod_def]
    split_ifs <;> omega
  rw [lost]
  have losing : Tracks vocation start { player with experience := player.experience - exp } ∧
      (player.experience - exp < getExpForLevel player.level →
        Fits vocation { player with experience := player.experience - exp }) :=
    ⟨⟨tracks.manaMax_lt, tracks.capacity_lt, tracks.healthMax, tracks.manaMax, tracks.capacity⟩,
      fun less => ⟨(fits less).gain, (fits less).positive, (fits less).small⟩⟩
  obtain ⟨after, tracked, -⟩ := @loseLevels_spec vocation
    { player with experience := player.experience - exp }
    (fun player => Tracks vocation start player ∧
      (player.experience < getExpForLevel player.level → Fits vocation player))
    (fun player holds more less =>
      ⟨holds.1.loseLevel (holds.2 less) more, fun _ => (holds.2 less).loseLevel⟩)
    losing levelled.first levelled.last (lt_of_le_of_lt (Nat.sub_le _ _) levelled.below)
  exact ⟨after.settle, tracked.settle⟩

/-- **The level is that of the experience**, and a player who is back at its level has the stats
that it had, unless one has been cut. -/
structure Kept (start player : Player) : Prop where
  reached : getExpForLevel player.level ≤ player.experience
  below : player.experience < getExpForLevel (player.level + 1)
  restored : player.clamped = false → player.level = start.level →
    player.healthMax = start.healthMax ∧ player.manaMax = start.manaMax ∧
      player.capacity = start.capacity

theorem Invariant.kept (invariant : Invariant vocation start player)
    (manaMax : start.manaMax < 2 ^ 32) (capacity : start.capacity < 2 ^ 32) :
    Kept start player := by
  obtain ⟨levelled, tracks⟩ := invariant
  refine ⟨levelled.reached, levelled.below, fun whole back => ?_⟩
  have same (gain : Nat) : ((player.level : Int) - start.level) * gain = 0 := by
    rw [back, Int.sub_self, Int.zero_mul]
  refine ⟨?_, ?_, ?_⟩
  · rw [tracks.healthMax whole, same, Int.add_zero]
  · rw [tracks.manaMax whole, same, Int.add_zero, uint32_of_lt manaMax]
  · rw [tracks.capacity whole, same, Int.add_zero, uint32_of_lt capacity]

theorem invariant_start (levelled : Levelled player) (manaMax : player.manaMax < 2 ^ 32)
    (capacity : player.capacity < 2 ^ 32) : Invariant vocation player player := by
  have same (gain : Nat) : ((player.level : Int) - player.level) * gain = 0 := by
    rw [Int.sub_self, Int.zero_mul]
  refine ⟨levelled, manaMax, capacity, fun _ => ?_, fun _ => ?_, fun _ => ?_⟩
  · rw [same, Int.add_zero]
  · rw [same, Int.add_zero, uint32_of_lt manaMax]
  · rw [same, Int.add_zero, uint32_of_lt capacity]

/-- **Levels follow the experience and give back what they take**, throughout every run in which
not more than `2 ^ 63` beyond the experience is taken and no level is lost with a health that does
not fit into 32 bits. -/
theorem kept_throughout {start : Player} (levelled : Levelled start)
    (manaMax : start.manaMax < 2 ^ 32) (capacity : start.capacity < 2 ^ 32)
    {ops : List ExperienceOp} (legal : (levels vocation).Legal start ops)
    (spares : (levels vocation).Throughout
      (fun before op _ => before.Spares vocation op) start ops) :
    (levels vocation).Throughout (fun _ _ after => Kept start after) start ops := by
  have step : ∀ before op, Invariant vocation start before →
      (levels vocation).legal before op → before.Spares vocation op →
        Kept start ((levels vocation).step before op) ∧
          Invariant vocation start ((levels vocation).step before op) := by
    intro before op invariant allowed spares
    have after : Invariant vocation start ((levels vocation).step before op) := by
      cases op with
      | addExperience exp => exact invariant.addExperience allowed
      | removeExperience exp => exact invariant.removeExperience spares
    exact ⟨after.kept manaMax capacity, after⟩
  exact .of_invariant step (invariant_start levelled manaMax capacity) legal spares

/-! ## Two players -/

theorem step_addExperience (vocation : Vocation) (player : Player) (exp : Nat) :
    (levels vocation).step player (.addExperience exp) = player.addExperience vocation exp := rfl

/-- A player gains two levels at once. -/
theorem addExperience_twice : (levels {}).step {} (.addExperience 250) =
    { level := 3, experience := 250, levelPercent := 25, health := 1010, healthMax := 1010
      mana := 10, manaMax := 10, capacity := 41000 } := by
  have first : getExpForLevel 1 = 0 := by decide
  have second : getExpForLevel 2 = 100 := by decide
  have fourth : getExpForLevel 4 = 400 := by decide
  rw [step_addExperience, addExperience]
  simp only [first, second]
  rw [if_neg (by decide), if_neg (by decide), gainLevels, if_pos (by decide)]
  rw [if_pos (by decide), gainLevels, if_pos (by decide)]
  simp only [gainLevel, fourth]
  rw [if_pos (by decide), gainLevels, if_neg (by decide)]
  decide

/-- It loses both again. -/
theorem kept_throughout_back :
    (levels {}).Throughout (fun _ _ after => Kept {} after) {}
      [.addExperience 250, .removeExperience 160] := by
  refine kept_throughout ⟨by decide, by decide, by decide, by decide⟩ (by decide) (by decide)
    ⟨show 250 < getExpForLevel maxLevel by decide, trivial, trivial⟩ ⟨trivial, ?_, trivial⟩
  rw [addExperience_twice]
  exact ⟨by decide, fun _ => ⟨by decide, by decide, by decide⟩⟩

/-- A player with much health. -/
def strong : Player where
  level := 2
  experience := 100
  healthMax := 5000000000
  manaMax := 10

/-- The player after it has lost a level. -/
def weakened : Player where
  level := 1
  experience := 99
  levelPercent := 99
  health := 705032699
  healthMax := 705032699
  mana := 5
  manaMax := 5
  capacity := 39500

theorem removeExperience_strong : (levels {}).step strong (.removeExperience 1) = weakened := by
  decide +kernel

theorem addExperience_weakened : (levels {}).step weakened (.addExperience 1) =
    { weakened with level := 2, experience := 100, levelPercent := 0, health := 705032704
                    healthMax := 705032704, mana := 10, manaMax := 10, capacity := 40000 } := by
  have first : getExpForLevel weakened.level = 0 := by decide
  have second : getExpForLevel (weakened.level + 1) = 100 := by decide
  rw [step_addExperience, addExperience]
  simp only [first, second]
  rw [if_neg (by decide), if_neg (by decide), gainLevels, if_pos (by decide)]
  rw [if_pos (by decide), gainLevels, if_neg (by decide)]
  decide

/-- The player gains the level again, and has less health than before. -/
theorem health_truncated :
    ¬ (levels {}).Throughout (fun _ _ after => Kept strong after) strong
        [.removeExperience 1, .addExperience 1] := by
  rw [System.Throughout.cons_iff, System.Throughout.cons_iff, removeExperience_strong,
    addExperience_weakened]
  rintro ⟨-, kept, -⟩
  have restored := (kept.restored rfl rfl).1
  revert restored
  decide

end Player

end Otserv.Experience
