import Mathlib.Logic.Function.Iterate
import Mathlib.Tactic.SplitIfs

/-!
# The buffs of a guild

Who enters a guild is given its buffs, and so are the summons; who leaves it loses them. The
speeds are what they were. The bonus to the health is not taken back but given a second time, so
they are restored if and only if it is nothing (`restores_iff`).
-/

namespace Otserv.GuildBuffs

def COLUMN_3 : UInt8 := 2
def COLUMN_6 : UInt8 := 5

def PLAYER_SPEED_BUFF : UInt8 := 1
def POKEMON_SPEED_BUFF : UInt8 := 2
def POKEMON_HEALTH_BUFF : UInt8 := 1

def GUILD_BUFF_PLAYER_SPEED : Int32 := 50
def GUILD_BUFF_POKEMON_SPEED : Int32 := 40
def GUILD_BUFF_POKEMON_HEALTH : Int64 := 5

structure Creature where
  baseSpeed : UInt32 := 220
  varSpeed : Int32 := 0
  health : Int64 := 1000
  healthMax : Int64 := 1000
  oldMaxHealth : Int64 := 0

namespace Creature

variable (creature : Creature)

def getSpeed : Int32 := (creature.baseSpeed + creature.varSpeed.toUInt32).toInt32

/-- `Game::changeSpeed`. -/
def changeSpeed (varSpeedDelta : Int32) : Creature :=
  let varSpeed := (creature.getSpeed.toUInt32 - creature.baseSpeed).toInt32
  { creature with varSpeed := varSpeed + varSpeedDelta }

variable (varSpeedDelta : Int32)

@[simp] theorem baseSpeed_changeSpeed :
    (creature.changeSpeed varSpeedDelta).baseSpeed = creature.baseSpeed := by
  rw [changeSpeed]

@[simp] theorem healthMax_changeSpeed :
    (creature.changeSpeed varSpeedDelta).healthMax = creature.healthMax := by
  rw [changeSpeed]

@[simp] theorem oldMaxHealth_changeSpeed :
    (creature.changeSpeed varSpeedDelta).oldMaxHealth = creature.oldMaxHealth := by
  rw [changeSpeed]

@[simp] theorem varSpeed_changeSpeed :
    (creature.changeSpeed varSpeedDelta).varSpeed = creature.varSpeed + varSpeedDelta := by
  have same : (creature.getSpeed.toUInt32 - creature.baseSpeed).toInt32 = creature.varSpeed := by
    rw [getSpeed, UInt32.toUInt32_toInt32, UInt32.add_comm, UInt32.add_sub_cancel,
      Int32.toInt32_toUInt32]
  rw [changeSpeed, same]

/-- What the health is raised by. -/
@[irreducible] def bonus (healthMax : Int64) : Int64 := healthMax * GUILD_BUFF_POKEMON_HEALTH / 100

/-- The maximum is raised, and bounds the health. -/
def raise (newMaxHealth : Int64) : Creature :=
  let healthMax := creature.healthMax + newMaxHealth
  { creature with healthMax, health := min creature.health healthMax }

variable (newMaxHealth : Int64)

@[simp] theorem baseSpeed_raise : (creature.raise newMaxHealth).baseSpeed = creature.baseSpeed := by
  rw [raise]

@[simp] theorem varSpeed_raise : (creature.raise newMaxHealth).varSpeed = creature.varSpeed := by
  rw [raise]

@[simp] theorem healthMax_raise :
    (creature.raise newMaxHealth).healthMax = creature.healthMax + newMaxHealth := by
  rw [raise]

@[simp] theorem oldMaxHealth_raise :
    (creature.raise newMaxHealth).oldMaxHealth = creature.oldMaxHealth := by
  rw [raise]

end Creature

structure Player where
  creature : Creature
  summons : List Creature

structure Guild where
  buffs : UInt8 → UInt8

namespace Guild

variable (guild : Guild)

def hasBuff (row buff : UInt8) : Bool := guild.buffs row == buff

/-- A buff of speed is given, or taken back. -/
def speedBuff (buff : UInt8) (varSpeedDelta : Int32) (creature : Creature) : Creature :=
  if guild.hasBuff COLUMN_3 buff then creature.changeSpeed varSpeedDelta else creature

/-- What `applyGuildBuffs` does with a summon. -/
def applySummon (summon : Creature) : Creature :=
  let summon := guild.speedBuff POKEMON_SPEED_BUFF GUILD_BUFF_POKEMON_SPEED summon
  if guild.hasBuff COLUMN_6 POKEMON_HEALTH_BUFF then
    { summon with oldMaxHealth := summon.healthMax }.raise (Creature.bonus summon.healthMax)
  else summon

/-- What `removeGuildBuffs` does with a summon. -/
def removeSummon (summon : Creature) : Creature :=
  let summon := guild.speedBuff POKEMON_SPEED_BUFF (-GUILD_BUFF_POKEMON_SPEED) summon
  if guild.hasBuff COLUMN_6 POKEMON_HEALTH_BUFF then
    summon.raise (Creature.bonus summon.oldMaxHealth)
  else summon

def applyGuildBuffs (player : Player) : Player where
  creature := guild.speedBuff PLAYER_SPEED_BUFF (GUILD_BUFF_PLAYER_SPEED * 2) player.creature
  summons := player.summons.map guild.applySummon

def removeGuildBuffs (player : Player) : Player where
  creature := guild.speedBuff PLAYER_SPEED_BUFF (-(GUILD_BUFF_PLAYER_SPEED * 2)) player.creature
  summons := player.summons.map guild.removeSummon

/-- The player enters the guild and leaves it. -/
def visit (player : Player) : Player := guild.removeGuildBuffs (guild.applyGuildBuffs player)

end Guild

/-- What is to be restored: the speeds, and the maxima of the summons' health. -/
def Player.shown (player : Player) : Int32 × List (Int32 × Int64) :=
  (player.creature.getSpeed,
    player.summons.map fun summon => (summon.getSpeed, summon.healthMax))

/-- The bonus of each summon is nothing. -/
def Guild.Spares (guild : Guild) (player : Player) : Prop :=
  guild.hasBuff COLUMN_6 POKEMON_HEALTH_BUFF →
    ∀ summon ∈ player.summons, Creature.bonus summon.healthMax = 0

theorem bonus_add_self {healthMax : Int64} :
    Creature.bonus healthMax + Creature.bonus healthMax = 0 ↔ Creature.bonus healthMax = 0 := by
  have low := (healthMax * GUILD_BUFF_POKEMON_HEALTH).le_toInt
  have high := (healthMax * GUILD_BUFF_POKEMON_HEALTH).toInt_lt
  have isBonus : (Creature.bonus healthMax).toInt =
      (healthMax * GUILD_BUFF_POKEMON_HEALTH).toInt.tdiv 100 := by
    rw [Creature.bonus]
    exact Int64.toInt_div_of_ne_right _ _ (by decide)
  rw [← Int64.toInt_inj, ← Int64.toInt_inj, Int64.toInt_add, Int64.toInt_zero, isBonus]
  generalize (healthMax * GUILD_BUFF_POKEMON_HEALTH).toInt = product at low high
  have bounded : -2 ^ 62 < product.tdiv 100 ∧ product.tdiv 100 < 2 ^ 62 := by
    rw [Int.tdiv_eq_ediv, show Int.sign 100 = 1 from rfl]
    split <;> omega
  rw [Int.bmod_eq_of_le (by omega) (by omega)]
  omega

variable (guild : Guild)

theorem getSpeed_congr {one other : Creature} (base : one.baseSpeed = other.baseSpeed)
    (var : one.varSpeed = other.varSpeed) : one.getSpeed = other.getSpeed := by
  rw [Creature.getSpeed, Creature.getSpeed, base, var]

theorem shown_visitSummon (summon : Creature) :
    (guild.removeSummon (guild.applySummon summon)).getSpeed = summon.getSpeed ∧
      (guild.removeSummon (guild.applySummon summon)).healthMax = summon.healthMax +
        if guild.hasBuff COLUMN_6 POKEMON_HEALTH_BUFF then
          Creature.bonus summon.healthMax + Creature.bonus summon.healthMax
        else 0 := by
  constructor
  · refine getSpeed_congr ?_ ?_
    · unfold Guild.removeSummon Guild.applySummon Guild.speedBuff
      split_ifs <;> simp
    · unfold Guild.removeSummon Guild.applySummon Guild.speedBuff
      split_ifs <;> simp [Int32.add_assoc, Int32.add_right_neg]
  · unfold Guild.removeSummon Guild.applySummon Guild.speedBuff
    split_ifs <;> simp [Int64.add_assoc]

theorem visitSummon_iff (summon : Creature) :
    ((guild.removeSummon (guild.applySummon summon)).getSpeed,
        (guild.removeSummon (guild.applySummon summon)).healthMax) =
      (summon.getSpeed, summon.healthMax) ↔
      (guild.hasBuff COLUMN_6 POKEMON_HEALTH_BUFF → Creature.bonus summon.healthMax = 0) := by
  obtain ⟨speed, health⟩ := shown_visitSummon guild summon
  rw [speed, health, Prod.mk.injEq, eq_self, true_and, Int64.add_eq_left]
  split
  next buff => simp [buff, bonus_add_self]
  next buff => simp [buff]

theorem shown_visit (player : Player) :
    (guild.visit player).shown = player.shown ↔ guild.Spares player := by
  have own : (guild.visit player).creature.getSpeed = player.creature.getSpeed := by
    refine getSpeed_congr ?_ ?_
    · unfold Guild.visit Guild.removeGuildBuffs Guild.applyGuildBuffs Guild.speedBuff
      split <;> simp
    · unfold Guild.visit Guild.removeGuildBuffs Guild.applyGuildBuffs Guild.speedBuff
      split <;> simp [Int32.add_assoc, Int32.add_right_neg]
  rw [Player.shown, Player.shown, own, Prod.mk.injEq, eq_self, true_and]
  unfold Guild.visit Guild.removeGuildBuffs Guild.applyGuildBuffs Guild.Spares
  rw [List.map_map, List.map_map, List.map_inj_left]
  simp only [Function.comp_apply, visitSummon_iff]
  exact ⟨fun each buff summon member => each summon member buff,
    fun each summon member buff => each buff summon member⟩

/-- Whether the summons are spared is seen from the outside. -/
theorem spares_congr {one other : Player} (same : one.shown = other.shown) :
    guild.Spares one ↔ guild.Spares other := by
  have maxima : one.summons.map Creature.healthMax = other.summons.map Creature.healthMax := by
    simpa [Player.shown, Function.comp_def] using
      congrArg (fun shown => shown.2.map Prod.snd) same
  have ofMaxima (player : Player) : guild.Spares player ↔
      (guild.hasBuff COLUMN_6 POKEMON_HEALTH_BUFF →
        ∀ healthMax ∈ player.summons.map Creature.healthMax, Creature.bonus healthMax = 0) := by
    rw [Guild.Spares, List.forall_mem_map]
  rw [ofMaxima, ofMaxima, maxima]

/-- One visit restores the speeds and the maxima if and only if the guild spares the summons, and
so does any number of them. -/
theorem restores_iff (player : Player) :
    ((guild.visit player).shown = player.shown ↔ guild.Spares player) ∧
      ((∀ visits, (guild.visit^[visits] player).shown = player.shown) ↔ guild.Spares player) := by
  refine ⟨shown_visit guild player, fun restored => ?_, fun spares visits => ?_⟩
  · exact (shown_visit guild player).mp (restored 1)
  · induction visits with
    | zero => rfl
    | succ visits ih =>
      rw [Function.iterate_succ_apply', ← ih]
      exact (shown_visit guild _).mpr ((spares_congr guild ih).mpr spares)

/-- A summon of 1000 has 1100 in the end. -/
theorem not_restores :
    ¬ ∀ (guild : Guild) (player : Player), (guild.visit player).shown = player.shown := by
  intro restores
  have spares := (shown_visit ⟨fun _ => 1⟩ ⟨⟨220, 0, 1000, 1000, 0⟩,
    [⟨220, 0, 1000, 1000, 0⟩]⟩).mp (restores _ _)
  exact absurd (spares rfl _ List.mem_cons_self) (by decide +kernel)

end Otserv.GuildBuffs
