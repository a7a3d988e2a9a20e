import Mathlib.Algebra.BigOperators.Intervals
import Mathlib.Algebra.Order.BigOperators.Group.Finset
import Otserv.Experience.Levels

/-!
# The loss of skills

A player who dies loses tries of each skill. The loop gives up the tries of whole levels, and what
is left to lose is taken from the tries of the level that it ends at. It accounts for every try
(`borrow_settled`), but the difference is converted to 32 bits with a sign, and so the loss is
exact if and only if fewer than `2 ^ 31` tries are left over at a level (`lose_exact_iff`).
-/

namespace Otserv.Experience

structure Skill where
  tries : UInt64 := 0
  level : UInt16 := 10
  percent : Nat := 0

variable (getReqSkillTries : UInt16 → UInt64)

/-- The tries that all levels up to this one take. -/
def requiredTries (level : Nat) : Nat :=
  ∑ c ∈ Finset.Ioc 10 level, (getReqSkillTries (.ofNat c)).toNat

namespace Skill

/-- `sumSkillTries`, without a limit. -/
def sumTries (skill : Skill) : Nat :=
  requiredTries getReqSkillTries skill.level.toNat + skill.tries.toNat

/-- One level down, with all the tries that the level took. -/
def levelDown (skill : Skill) : Skill :=
  { skill with
    tries := getReqSkillTries skill.level
    level := skill.level - 1 }

variable {skill : Skill} {lost : UInt32}

theorem levelDown_lt (high : ¬skill.level ≤ 10) :
    (skill.levelDown getReqSkillTries).level.toNat + 1 = skill.level.toNat := by
  rw [UInt16.le_iff_toNat_le] at high
  rw [levelDown, UInt16.toNat_sub_of_le]
  · have : (1 : UInt16).toNat = 1 := rfl
    omega
  · rw [UInt16.le_iff_toNat_le]
    have : (1 : UInt16).toNat = 1 := rfl
    omega

/-- The loop of `Player::death` over the levels of a skill. -/
def borrow (skill : Skill) (lostSkillTries : UInt32) : Skill × UInt32 :=
  if lostSkillTries.toUInt64 > skill.tries then
    let lostSkillTries := (lostSkillTries.toUInt64 - skill.tries).toUInt32
    if skill.level ≤ 10 then ({ skill with level := 10, tries := 0 }, 0)
    else (skill.levelDown getReqSkillTries).borrow lostSkillTries
  else (skill, lostSkillTries)
termination_by skill.level.toNat
decreasing_by
  have := levelDown_lt getReqSkillTries ‹¬skill.level ≤ 10›
  omega

/-- The loss of a skill in `Player::death`. -/
def lose (skill : Skill) (lostSkillTries : UInt32) : Skill :=
  let (skill, lostSkillTries) := skill.borrow getReqSkillTries lostSkillTries
  let tries : UInt64 :=
    .ofNat (uint64 (max 0 (int32 (skill.tries - lostSkillTries.toUInt64).toNat)))
  { skill with
    tries := tries
    percent := getPercentLevel tries.toNat (getReqSkillTries skill.level).toNat }

/-- None of the conversions of the loop and of the difference after it changes a value. -/
def Converts (skill : Skill) (lostSkillTries : UInt32) : Prop :=
  if lostSkillTries.toUInt64 > skill.tries then
    (lostSkillTries.toUInt64 - skill.tries).toUInt32.toUInt64 =
        lostSkillTries.toUInt64 - skill.tries ∧
      (¬skill.level ≤ 10 → (skill.levelDown getReqSkillTries).Converts
        (lostSkillTries.toUInt64 - skill.tries).toUInt32)
  else
    int32 (skill.tries - lostSkillTries.toUInt64).toNat =
      (skill.tries - lostSkillTries.toUInt64).toNat
termination_by skill.level.toNat
decreasing_by
  have := levelDown_lt getReqSkillTries ‹¬skill.level ≤ 10›
  omega

/-- What the loop has to do: it takes levels until what is left to lose does not exceed the
tries, and no more levels than it has to. -/
structure Settled (skill : Skill) (lost : UInt32) (after : Skill) (rest : UInt32) : Prop where
  enough : rest.toNat ≤ after.tries.toNat
  sum : after.sumTries getReqSkillTries + lost.toNat =
    skill.sumTries getReqSkillTries + rest.toNat
  high : 10 ≤ after.level
  atMost : after.level.toNat ≤ skill.level.toNat
  highest : ∀ level ≤ skill.level.toNat,
    requiredTries getReqSkillTries level + lost.toNat ≤ skill.sumTries getReqSkillTries →
      level ≤ after.level.toNat

variable {getReqSkillTries}

theorem toNat_difference (more : lost.toUInt64 > skill.tries) :
    (lost.toUInt64 - skill.tries).toUInt32.toNat = lost.toNat - skill.tries.toNat := by
  have less : skill.tries.toNat < lost.toNat := by
    simpa [UInt64.lt_iff_toNat_lt] using more
  have small := lost.toNat_lt
  rw [UInt64.toNat_toUInt32, UInt64.toNat_sub_of_le, UInt32.toNat_toUInt64]
  · omega
  · rw [UInt64.le_iff_toNat_le, UInt32.toNat_toUInt64]
    omega

theorem sumTries_levelDown (high : ¬skill.level ≤ 10) :
    (skill.levelDown getReqSkillTries).sumTries getReqSkillTries =
      requiredTries getReqSkillTries skill.level.toNat := by
  have down := levelDown_lt getReqSkillTries high
  have above : 10 ≤ (skill.levelDown getReqSkillTries).level.toNat := by
    rw [UInt16.le_iff_toNat_le] at high
    have : (10 : UInt16).toNat = 10 := rfl
    omega
  rw [sumTries, ← down, requiredTries, requiredTries, Finset.sum_Ioc_succ_top above, down,
    UInt16.ofNat_toNat]
  rfl

theorem toNat_ten : (10 : UInt16).toNat = 10 := rfl

/-- At the lowest level there is nothing to take but the tries. -/
theorem not_low (high : 10 ≤ skill.level) (covered : lost.toNat ≤ skill.sumTries getReqSkillTries)
    (more : lost.toUInt64 > skill.tries) : ¬skill.level ≤ 10 := by
  intro low
  have isTen : skill.level.toNat = 10 := by
    rw [UInt16.le_iff_toNat_le, toNat_ten] at high low
    omega
  rw [gt_iff_lt, UInt64.lt_iff_toNat_lt, UInt32.toNat_toUInt64] at more
  rw [sumTries, isTen, requiredTries, Finset.Ioc_self, Finset.sum_empty] at covered
  omega

theorem levelDown_high (high : ¬skill.level ≤ 10) :
    10 ≤ (skill.levelDown getReqSkillTries).level := by
  have down := levelDown_lt getReqSkillTries high
  rw [UInt16.le_iff_toNat_le, toNat_ten] at high ⊢
  omega

theorem sumTries_borrowed (high : 10 ≤ skill.level)
    (covered : lost.toNat ≤ skill.sumTries getReqSkillTries) (more : lost.toUInt64 > skill.tries) :
    (skill.levelDown getReqSkillTries).sumTries getReqSkillTries + lost.toNat =
      skill.sumTries getReqSkillTries + (lost.toUInt64 - skill.tries).toUInt32.toNat := by
  rw [sumTries_levelDown (not_low high covered more), toNat_difference more, sumTries]
  rw [gt_iff_lt, UInt64.lt_iff_toNat_lt, UInt32.toNat_toUInt64] at more
  omega

/-- **The loop accounts for every try.** -/
theorem borrow_settled (skill : Skill) (lost : UInt32) (high : 10 ≤ skill.level)
    (covered : lost.toNat ≤ skill.sumTries getReqSkillTries) :
    Settled getReqSkillTries skill lost (skill.borrow getReqSkillTries lost).1
      (skill.borrow getReqSkillTries lost).2 := by
  fun_induction borrow getReqSkillTries skill lost with
  | case1 skill lost more low => exact absurd low (not_low high covered more)
  | case2 skill lost more owed notLow ih =>
    have borrowed : (skill.levelDown getReqSkillTries).sumTries getReqSkillTries + lost.toNat =
        skill.sumTries getReqSkillTries + owed.toNat := sumTries_borrowed high covered more
    have down := levelDown_lt getReqSkillTries notLow
    obtain ⟨enough, sum, stays, below, highest⟩ := ih (levelDown_high notLow) (by omega)
    refine ⟨enough, by omega, stays, by omega, fun level atMost fits => ?_⟩
    rcases Nat.lt_or_eq_of_le atMost with below | rfl
    · exact highest level (by omega) (by omega)
    · -- the tries of the level itself were not enough
      rw [sumTries] at fits
      rw [gt_iff_lt, UInt64.lt_iff_toNat_lt, UInt32.toNat_toUInt64] at more
      omega
  | case3 skill lost done =>
    refine ⟨?_, rfl, high, Nat.le_refl _, fun level atMost _ => atMost⟩
    exact Nat.not_lt.mp done

theorem requiredTries_mono {level other : Nat} (atMost : level ≤ other) :
    requiredTries getReqSkillTries level ≤ requiredTries getReqSkillTries other :=
  Finset.sum_le_sum_of_subset (Finset.Ioc_subset_Ioc_right atMost)

theorem Settled.left_lt_iff {skill after : Skill} {lost rest : UInt32}
    (settled : Settled getReqSkillTries skill lost after rest)
    (covered : lost.toNat ≤ skill.sumTries getReqSkillTries) {bound : Nat} :
    after.tries.toNat - rest.toNat < bound ↔
      ∃ level, 10 ≤ level ∧ level ≤ skill.level.toNat ∧
        requiredTries getReqSkillTries level ≤ skill.sumTries getReqSkillTries - lost.toNat ∧
        skill.sumTries getReqSkillTries - lost.toNat <
          requiredTries getReqSkillTries level + bound := by
  obtain ⟨enough, sum, high, atMost, highest⟩ := settled
  rw [sumTries] at sum
  constructor
  · intro short
    exact ⟨after.level.toNat, high, atMost, by omega, by omega⟩
  · rintro ⟨level, -, isBelow, fits, short⟩
    have mono := @requiredTries_mono getReqSkillTries _ _
      (highest level isBelow (by omega))
    omega

/-! ## Conversions -/

theorem int32_eq_iff (value : UInt64) : int32 value.toNat = value.toNat ↔ value.toNat < 2 ^ 31 := by
  rw [int32, Int.bmod_def]
  split <;> omega

/-- The difference after the loop, which is not negative. -/
theorem toNat_left {tries : UInt64} {rest : UInt32} (enough : rest.toNat ≤ tries.toNat) :
    (tries - rest.toUInt64).toNat = tries.toNat - rest.toNat := by
  rw [UInt64.toNat_sub_of_le, UInt32.toNat_toUInt64]
  rwa [UInt64.le_iff_toNat_le, UInt32.toNat_toUInt64]

/-- Only the conversion of the difference can change a value. -/
theorem converts_iff (skill : Skill) (lost : UInt32) (high : 10 ≤ skill.level)
    (covered : lost.toNat ≤ skill.sumTries getReqSkillTries) :
    skill.Converts getReqSkillTries lost ↔
      (skill.borrow getReqSkillTries lost).1.tries.toNat -
        (skill.borrow getReqSkillTries lost).2.toNat < 2 ^ 31 := by
  fun_induction borrow getReqSkillTries skill lost with
  | case1 skill lost more low => exact absurd low (not_low high covered more)
  | case2 skill lost more owed notLow ih =>
    have borrowed : (skill.levelDown getReqSkillTries).sumTries getReqSkillTries + lost.toNat =
        skill.sumTries getReqSkillTries + owed.toNat := sumTries_borrowed high covered more
    have exactly : owed.toUInt64 = lost.toUInt64 - skill.tries := by
      have isLess : owed.toNat = lost.toNat - skill.tries.toNat := toNat_difference more
      rw [gt_iff_lt, UInt64.lt_iff_toNat_lt, UInt32.toNat_toUInt64] at more
      rw [← UInt64.toNat_inj, UInt32.toNat_toUInt64, UInt64.toNat_sub_of_le,
        UInt32.toNat_toUInt64, isLess]
      rw [UInt64.le_iff_toNat_le, UInt32.toNat_toUInt64]
      omega
    rw [← ih (levelDown_high notLow) (by omega), Converts, if_pos more]
    exact ⟨fun both => both.2 notLow, fun later => ⟨exactly, fun _ => later⟩⟩
  | case3 skill lost done =>
    rw [Converts, if_neg done, int32_eq_iff, toNat_left]
    exact Nat.not_lt.mp done

/-- The tries that are kept are those left over, if these fit into 32 bits with a sign. -/
theorem toNat_tries_lose_iff {skill after : Skill} {lost rest : UInt32}
    (isBorrowed : skill.borrow getReqSkillTries lost = (after, rest))
    (enough : rest.toNat ≤ after.tries.toNat) :
    (skill.lose getReqSkillTries lost).tries.toNat = after.tries.toNat - rest.toNat ↔
      after.tries.toNat - rest.toNat < 2 ^ 31 := by
  rw [lose, isBorrowed]
  rw [UInt64.toNat_ofNat', uint64, toNat_left enough, int32, Int.bmod_def]
  split <;> omega

/-- **Skill loss.** What is lost is exactly what was to be lost, and no conversion changes a value,
if and only if at some level not above the old one fewer than `2 ^ 31` tries are left over. -/
theorem lose_exact_iff (skill : Skill) (lost : UInt32) (high : 10 ≤ skill.level)
    (covered : lost.toNat ≤ skill.sumTries getReqSkillTries) :
    ((skill.lose getReqSkillTries lost).sumTries getReqSkillTries =
          skill.sumTries getReqSkillTries - lost.toNat ∧
        10 ≤ (skill.lose getReqSkillTries lost).level ∧
        skill.Converts getReqSkillTries lost) ↔
      ∃ level, 10 ≤ level ∧ level ≤ skill.level.toNat ∧
        requiredTries getReqSkillTries level ≤ skill.sumTries getReqSkillTries - lost.toNat ∧
        skill.sumTries getReqSkillTries - lost.toNat <
          requiredTries getReqSkillTries level + 2 ^ 31 := by
  have settled := borrow_settled skill lost high covered
  have converts := converts_iff skill lost high covered
  generalize isBorrowed : skill.borrow getReqSkillTries lost = borrowed at settled converts
  obtain ⟨after, rest⟩ := borrowed
  dsimp only at settled converts
  have sameLevel : (skill.lose getReqSkillTries lost).level = after.level := by
    simp only [lose, isBorrowed]
  have kept : (skill.lose getReqSkillTries lost).sumTries getReqSkillTries =
      skill.sumTries getReqSkillTries - lost.toNat ↔
        (skill.lose getReqSkillTries lost).tries.toNat = after.tries.toNat - rest.toNat := by
    have sum := settled.sum
    have enough := settled.enough
    rw [sumTries] at sum
    rw [sumTries, sameLevel]
    omega
  rw [kept, toNat_tries_lose_iff isBorrowed settled.enough, converts, sameLevel,
    settled.left_lt_iff covered]
  exact ⟨fun both => both.1, fun short => ⟨short, settled.high, short⟩⟩

theorem lose_exact_iff_borrowing :
    (lose (fun _ => 50) { tries := 10, level := 12 } 30).sumTries (fun _ => 50) = 80 ∧
      10 ≤ (lose (fun _ => 50) { tries := 10, level := 12 } 30).level ∧
      Converts (fun _ => 50) { tries := 10, level := 12 } 30 :=
  (lose_exact_iff _ _ (by decide) (by decide)).mpr
    ⟨11, by decide, by decide, by decide, by decide⟩

/-- Of three thousand million tries a tenth is to be lost, and all are. -/
theorem lose_not_exact :
    ¬∀ (getReqSkillTries : UInt16 → UInt64) (skill : Skill) (lost : UInt32),
      (∀ level, 0 < getReqSkillTries level) → 10 ≤ skill.level →
        lost.toNat ≤ skill.sumTries getReqSkillTries →
          (skill.lose getReqSkillTries lost).sumTries getReqSkillTries =
              skill.sumTries getReqSkillTries - lost.toNat ∧
            10 ≤ (skill.lose getReqSkillTries lost).level ∧
            skill.Converts getReqSkillTries lost := by
  intro always
  have exactly := (always (fun _ => 50) { tries := 3000000000 } 300000000 (fun _ => by decide)
    (by decide) (by decide)).1
  rw [lose, borrow, if_neg (by decide)] at exactly
  revert exactly
  decide

end Skill

end Otserv.Experience
