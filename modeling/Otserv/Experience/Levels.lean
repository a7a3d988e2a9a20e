import Mathlib.Tactic.Ring
import Otserv.Foundation.Runs

/-!
# Experience and levels

Experience is gained and lost, and with it levels, by loops over the table of the experience that
each level takes. A level more adds to the health, the mana and the capacity what the vocation
gives, a level less takes it away.

The experience and the table are of 64 bits without sign, the health is of 64 bits with one, the
mana, the capacity and what the vocation gives are of 32 without. It is recorded whether a stat has
been cut at `0`. Speed, messages, the party and the guild are left out; events of scripts leave the
amount unchanged.
-/

namespace Otserv.Experience

open Foundation

structure Vocation where
  gainHP : Nat := 5
  gainMana : Nat := 5
  gainCap : Nat := 500

structure Player where
  level : Nat := 1
  experience : Nat := 0
  levelPercent : Nat := 0
  health : Int := 1000
  healthMax : Int := 1000
  mana : Nat := 0
  manaMax : Nat := 0
  capacity : Nat := 40000
  /-- `varStats` of the health and of the mana. -/
  varHealth : Int := 0
  varMana : Int := 0
  /-- A stat has been cut at `0`. -/
  clamped : Bool := false
deriving DecidableEq

variable (value : Int)

/-- The conversions to 32 and to 64 bits with a sign. -/
def int32 : Int := Int.bmod value (2 ^ 32)

def int64 : Int := Int.bmod value (2 ^ 64)

/-- The conversion to 32 bits without a sign. -/
def uint32 : Nat := (value % 2 ^ 32).toNat

def uint64 : Nat := (value % 2 ^ 64).toNat

def getExpForLevel (lv : Nat) : Nat :=
  let lv : Int := lv - 1
  uint64 (50 * lv * lv * lv - 150 * lv * lv + 400 * lv) / 3

def getPercentLevel (count nextLevelCount : Nat) : Nat :=
  if nextLevelCount = 0 then 0
  else
    let result := count * 100 % 2 ^ 64 / nextLevelCount % 2 ^ 8
    if result > 100 then 0 else result

namespace Player

variable (vocation : Vocation) (player : Player)

def getMaxHealth : Int := max 1 (player.healthMax + player.varHealth)

def getMaxMana : Nat := (max 0 (int32 (player.manaMax + player.varMana))).toNat

def gainLevel : Player :=
  { player with
    level := player.level + 1
    healthMax := player.healthMax + vocation.gainHP
    health := player.health + vocation.gainHP
    manaMax := uint32 (player.manaMax + vocation.gainMana)
    mana := uint32 (player.mana + vocation.gainMana)
    capacity := uint32 (player.capacity + vocation.gainCap) }

theorem getExpForLevel_lt (lv : Nat) : getExpForLevel lv < 2 ^ 64 := by
  refine Nat.lt_of_le_of_lt (Nat.div_le_self _ _) ?_
  rw [uint64, Int.toNat_lt (Int.emod_nonneg _ (by decide))]
  exact Int.emod_lt_of_pos _ (by decide)

/-- The loop of `addExperience`, with the experience that its level and the next one take. -/
def gainLevels (player : Player) (currLevelExp nextLevelExp : Nat) : Player × Nat × Nat :=
  if nextLevelExp ≤ player.experience then
    let gained := player.gainLevel vocation
    let next := getExpForLevel (gained.level + 1)
    if nextLevelExp < next then gainLevels gained nextLevelExp next
    else (gained, nextLevelExp, next)
  else (player, currLevelExp, nextLevelExp)
termination_by 2 ^ 64 - nextLevelExp
decreasing_by
  have bound := getExpForLevel_lt (player.level + 1 + 1)
  change nextLevelExp < getExpForLevel (player.level + 1 + 1) at *
  change 2 ^ 64 - getExpForLevel (player.level + 1 + 1) < _
  omega

/-- What both functions end with. -/
def settle (prevLevel currLevelExp nextLevelExp : Nat) : Player :=
  let player :=
    if prevLevel ≠ player.level then
      { player with health := player.getMaxHealth, mana := player.getMaxMana }
    else player
  { player with
    levelPercent :=
      if currLevelExp < nextLevelExp then
        getPercentLevel (uint64 (player.experience - currLevelExp)) (nextLevelExp - currLevelExp)
      else 0 }

/-- `Player::addExperience`, without a monster it comes from. -/
def addExperience (exp : Nat) : Player :=
  let currLevelExp := getExpForLevel player.level
  let nextLevelExp := getExpForLevel (player.level + 1)
  if nextLevelExp ≤ currLevelExp then { player with levelPercent := 0 }
  else if exp = 0 then player
  else
    let gaining := { player with experience := uint64 (player.experience + exp) }
    let (gained, currLevelExp, nextLevelExp) :=
      gainLevels vocation gaining currLevelExp nextLevelExp
    gained.settle player.level currLevelExp nextLevelExp

/-- `std::max<int32_t>(0, value)`, and whether it cuts. -/
def maxZero (value : Int) : Int := max 0 (int32 value)

def cuts (value : Int) : Bool := int32 value < 0

def loseLevel : Player :=
  let healthMax := player.healthMax - vocation.gainHP
  let manaMax := uint32 (player.manaMax - vocation.gainMana)
  let capacity := uint32 (player.capacity - vocation.gainCap)
  { player with
    level := player.level - 1
    healthMax := maxZero healthMax
    manaMax := (maxZero manaMax).toNat
    capacity := (maxZero capacity).toNat
    clamped := player.clamped || cuts healthMax || cuts manaMax || cuts capacity }

/-- The loop of `removeExperience`. -/
def loseLevels (player : Player) : Player :=
  if 1 < player.level ∧ player.experience < getExpForLevel player.level then
    loseLevels (player.loseLevel vocation)
  else player
termination_by player.level
decreasing_by
  change player.level - 1 < player.level
  omega

/-- `Player::removeExperience`. -/
def removeExperience (exp : Nat) : Player :=
  if player.experience = 0 ∨ exp = 0 then player
  else
    let losing := { player with
      experience := (max 0 (int64 (uint64 (player.experience - exp)))).toNat }
    let lost := loseLevels vocation losing
    lost.settle player.level (getExpForLevel lost.level) (getExpForLevel (lost.level + 1))

end Player

inductive ExperienceOp where
  | addExperience (exp : Nat)
  | removeExperience (exp : Nat)

/-- The level behind which the table falls. -/
def maxLevel : Nat := 717217

/-- The experience stays below that of the last level, which is below `2 ^ 63`. -/
def levels (vocation : Vocation) : System Player ExperienceOp where
  legal player
    | .addExperience exp => player.experience + exp < getExpForLevel maxLevel
    | .removeExperience _ => True
  step player
    | .addExperience exp => player.addExperience vocation exp
    | .removeExperience exp => player.removeExperience vocation exp

end Otserv.Experience
