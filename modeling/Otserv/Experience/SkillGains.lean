import Mathlib.Algebra.BigOperators.Group.Finset.Basic

/-!
# Gains of skills

Tries of a skill, mana that is spent and offline training are counted by the same loop: while the
tries reach what the next level takes, the level is raised, and at the highest one the rest is
lost. A gain has the same effect in parts (`gain_add`), and every try of it is accounted for
(`gain_spec`). The percentage, the messages and the events of scripts are left out.
-/

namespace Otserv.SkillGains

/-- A level, and the tries since it was reached. -/
structure Progress (Level : Type) where
  level : Level
  tries : Nat

section Loop

variable {Level : Type} (next : Level → Level) (req : Level → Nat)

/-- No more can be gained. -/
def Progress.IsMax (progress : Progress Level) : Prop :=
  req progress.level ≥ req (next progress.level)

instance (progress : Progress Level) : Decidable (progress.IsMax next req) :=
  inferInstanceAs (Decidable (_ ≥ _))

/-- The loop over the levels, of so many turns at most. -/
def advance : Nat → Progress Level → Nat → Option (Progress Level)
  | 0, _, _ => none
  | turns + 1, progress, count =>
    if (progress.tries + count) % 2 ^ 64 ≥ req (next progress.level) then
      let advanced : Progress Level := ⟨next progress.level, 0⟩
      if advanced.IsMax next req then some advanced
      else advance turns advanced (count - (req (next progress.level) - progress.tries))
    else some ⟨progress.level, progress.tries + count⟩

/-- A gain; each turn of the loop takes a try at least. -/
def gain (progress : Progress Level) (count : Nat) : Option (Progress Level) :=
  if progress.IsMax next req ∨ count = 0 then some progress
  else advance next req (count + 1) progress count

/-- The tries that so many levels take. -/
def consumed (level : Level) (levels : Nat) : Nat :=
  ∑ i ∈ Finset.range levels, req (next^[i + 1] level)

/-- What comes of a gain: either the highest level, or a level with all tries that are left. -/
def Gained (progress : Progress Level) (count : Nat) (after : Progress Level) : Prop :=
  after.IsMax next req ∨ after.tries < req (next after.level) ∧
    ∃ levels, after.level = next^[levels] progress.level ∧
      consumed next req progress.level levels + after.tries = progress.tries + count

variable {next req} {progress after : Progress Level} {count other turns : Nat}

theorem advance_succ (small : progress.tries + count < 2 ^ 64) :
    advance next req (turns + 1) progress count =
      if req (next progress.level) ≤ progress.tries + count then
        if Progress.IsMax next req ⟨next progress.level, 0⟩ then some ⟨next progress.level, 0⟩
        else advance next req turns ⟨next progress.level, 0⟩
          (count - (req (next progress.level) - progress.tries))
      else some ⟨progress.level, progress.tries + count⟩ := by
  rw [advance, Nat.mod_eq_of_lt small]

theorem advance_spec (enough : count < turns) (below : progress.tries < req (next progress.level))
    (small : progress.tries + count < 2 ^ 64) :
    ∃ after, advance next req turns progress count = some after ∧
      Gained next req progress count after := by
  induction turns generalizing progress count with
  | zero => exact absurd enough (Nat.not_lt_zero _)
  | succ turns ih =>
    rw [advance_succ small]
    split_ifs with reaches isMax
    · exact ⟨_, rfl, .inl isMax⟩
    · obtain ⟨after, isAfter, gained⟩ := @ih ⟨next progress.level, 0⟩
        (count - (req (next progress.level) - progress.tries)) (by omega)
        (Nat.zero_lt_of_lt (Nat.not_le.mp isMax)) (by
          dsimp only
          omega)
      refine ⟨after, isAfter, gained.imp_right (.imp_right ?_)⟩
      rintro ⟨levels, isLevel, sum⟩
      refine ⟨levels + 1, isLevel, ?_⟩
      rw [consumed, Finset.sum_range_succ']
      rw [consumed] at sum
      simp only [Function.iterate_succ_apply, Function.iterate_zero, id] at sum ⊢
      omega
    · exact ⟨_, rfl, .inr ⟨Nat.not_le.mp reaches, 0, rfl, by simp [consumed]⟩⟩

/-- Further turns change nothing. -/
theorem advance_congr {more : Nat} (enough : count < turns) (alsoEnough : count < more)
    (below : progress.tries < req (next progress.level))
    (small : progress.tries + count < 2 ^ 64) :
    advance next req turns progress count = advance next req more progress count := by
  induction turns generalizing progress count more with
  | zero => exact absurd enough (Nat.not_lt_zero _)
  | succ turns ih =>
    obtain ⟨more, rfl⟩ := Nat.exists_eq_succ_of_ne_zero (Nat.ne_zero_of_lt alsoEnough)
    rw [advance_succ small, advance_succ small]
    split_ifs with reaches isMax
    · rfl
    · exact ih (by omega) (by omega) (Nat.zero_lt_of_lt (Nat.not_le.mp isMax)) (by
        dsimp only
        omega)
    · rfl

theorem gain_spec (below : progress.tries < req (next progress.level))
    (small : progress.tries + count < 2 ^ 64) :
    ∃ after, gain next req progress count = some after ∧
      Gained next req progress count after := by
  rw [gain]
  split_ifs with stays
  · rcases stays with isMax | rfl
    · exact ⟨_, rfl, .inl isMax⟩
    · exact ⟨_, rfl, .inr ⟨below, 0, rfl, by simp [consumed]⟩⟩
  · exact advance_spec (Nat.lt_succ_self _) below small

/-- A gain after the loop is a gain in the loop. -/
theorem advance_add (enough : count + other < turns)
    (below : progress.tries < req (next progress.level))
    (small : progress.tries + count + other < 2 ^ 64) (more : ¬ progress.IsMax next req) :
    (advance next req turns progress count).bind (gain next req · other) =
      advance next req turns progress (count + other) := by
  induction turns generalizing progress count with
  | zero => exact absurd enough (Nat.not_lt_zero _)
  | succ turns ih =>
    have whole := @advance_succ _ next req progress (count + other) turns (by omega)
    rw [advance_succ (by omega)]
    by_cases reaches : req (next progress.level) ≤ progress.tries + count
    · rw [whole, if_pos reaches, if_pos (by omega : _ ≤ progress.tries + (count + other))]
      split_ifs with isMax
      · rw [Option.bind_some, gain, if_pos (.inl isMax)]
      · rw [ih (by omega) (Nat.zero_lt_of_lt (Nat.not_le.mp isMax)) (by
          dsimp only
          omega) isMax]
        congr 1
        omega
    · rw [if_neg reaches, Option.bind_some, gain]
      split_ifs with stays
      · obtain rfl := stays.resolve_left more
        rw [whole, Nat.add_zero, if_neg reaches]
      · have fits : (⟨progress.level, progress.tries + count⟩ : Progress Level).tries + other <
            2 ^ 64 := small
        rw [advance_congr (Nat.lt_succ_self other) (show other < turns + 1 by omega)
            (Nat.not_le.mp reaches) fits,
          advance_succ fits, whole, Nat.add_assoc]
        rw [show other - (req (next progress.level) - (progress.tries + count)) =
          count + other - (req (next progress.level) - progress.tries) by omega]

/-- A gain in two parts is the whole gain. -/
theorem gain_add (below : progress.tries < req (next progress.level))
    (small : progress.tries + count + other < 2 ^ 64) :
    (gain next req progress count).bind (gain next req · other) =
      gain next req progress (count + other) := by
  by_cases isMax : progress.IsMax next req
  · rw [gain, if_pos (.inl isMax), Option.bind_some, gain, if_pos (.inl isMax), gain,
      if_pos (.inl isMax)]
  by_cases none : count = 0
  · rw [none, gain, if_pos (.inr rfl), Option.bind_some, Nat.zero_add]
  · rw [gain, if_neg (not_or.mpr ⟨isMax, none⟩), gain,
      if_neg (not_or.mpr ⟨isMax, by omega⟩), ← advance_add (by omega) below small isMax]
    congr 1
    exact advance_congr (by omega) (by omega) below (by omega)

end Loop

/-! ## The three functions -/

structure Vocation where
  getReqSkillTries : UInt8 → UInt16 → Nat
  getReqMana : UInt32 → Nat

/-- `magic` is `magLevel` with `manaSpent`. -/
structure Player where
  skills : UInt8 → Progress UInt16
  magic : Progress UInt32
  notGainMana : Bool := false

/-- What is trained offline. -/
inductive Training where
  | skill (skill : UInt8)
  | magLevel
  | level

namespace Player

variable (player : Player) (vocation : Vocation)

def addSkillAdvance (skill : UInt8) (count : Nat) : Option Player :=
  (gain (· + 1) (vocation.getReqSkillTries skill) (player.skills skill) count).map fun after =>
    { player with skills := Function.update player.skills skill after }

/-- What `addManaSpent` and offline training have in common. -/
def gainMana (amount : Nat) : Option Player :=
  (gain (· + 1) vocation.getReqMana player.magic amount).map fun after =>
    { player with magic := after }

def addManaSpent (amount : Nat) : Option Player :=
  if player.notGainMana then some player else player.gainMana vocation amount

def addOfflineTrainingTries (training : Training) (tries : Nat) : Option Player :=
  if tries = 0 then some player
  else
    match training with
    | .skill skill => player.addSkillAdvance vocation skill tries
    | .magLevel => player.gainMana vocation tries
    | .level => some player

variable {player vocation} {skill : UInt8} {a b : Nat}

theorem addSkillAdvance_spec (below : (player.skills skill).tries <
      vocation.getReqSkillTries skill ((player.skills skill).level + 1))
    (small : (player.skills skill).tries + a + b < 2 ^ 64) :
    (player.addSkillAdvance vocation skill a).bind (·.addSkillAdvance vocation skill b) =
        player.addSkillAdvance vocation skill (a + b) ∧
      ∃ after, player.addSkillAdvance vocation skill a =
          some { player with skills := Function.update player.skills skill after } ∧
        Gained (· + 1) (vocation.getReqSkillTries skill) (player.skills skill) a after := by
  constructor
  · have add := @gain_add _ (· + 1) _ _ a b below small
    rw [addSkillAdvance, addSkillAdvance, ← add, Option.bind_map, Option.map_bind]
    simp [addSkillAdvance]
  · obtain ⟨after, isAfter, gained⟩ := @gain_spec _ (· + 1) _ _ a below (by omega)
    exact ⟨after, by rw [addSkillAdvance, isAfter, Option.map_some], gained⟩

theorem gainMana_spec (below : player.magic.tries < vocation.getReqMana (player.magic.level + 1))
    (small : player.magic.tries + a + b < 2 ^ 64) :
    (player.gainMana vocation a).bind (·.gainMana vocation b) =
        player.gainMana vocation (a + b) ∧
      ∃ after, player.gainMana vocation a = some { player with magic := after } ∧
        Gained (· + 1) vocation.getReqMana player.magic a after := by
  constructor
  · have add := @gain_add _ (· + 1) _ _ a b below small
    rw [gainMana, gainMana, ← add, Option.bind_map, Option.map_bind]
    rfl
  · obtain ⟨after, isAfter, gained⟩ := @gain_spec _ (· + 1) _ _ a below (by omega)
    exact ⟨after, by rw [gainMana, isAfter, Option.map_some], gained⟩

end Player

/-- Gains of skills and of mana are additive and accounted for, and the same offline. A player
that does not gain mana stays as it is. -/
theorem gains_spec (player : Player) (vocation : Vocation) (a b : Nat) :
    (∀ skill, (player.skills skill).tries <
        vocation.getReqSkillTries skill ((player.skills skill).level + 1) →
      (player.skills skill).tries + a + b < 2 ^ 64 →
      (player.addSkillAdvance vocation skill a).bind (·.addSkillAdvance vocation skill b) =
          player.addSkillAdvance vocation skill (a + b) ∧
        ∃ after, player.addSkillAdvance vocation skill a =
            some { player with skills := Function.update player.skills skill after } ∧
          Gained (· + 1) (vocation.getReqSkillTries skill) (player.skills skill) a after) ∧
    (∀ skill, player.addOfflineTrainingTries vocation (.skill skill) a =
      player.addSkillAdvance vocation skill a) ∧
    (player.notGainMana = false →
      (player.magic.tries < vocation.getReqMana (player.magic.level + 1) →
        player.magic.tries + a + b < 2 ^ 64 →
        (player.addManaSpent vocation a).bind (·.addManaSpent vocation b) =
            player.addManaSpent vocation (a + b) ∧
          ∃ after, player.addManaSpent vocation a = some { player with magic := after } ∧
            Gained (· + 1) vocation.getReqMana player.magic a after) ∧
      player.addOfflineTrainingTries vocation .magLevel a = player.addManaSpent vocation a) ∧
    (player.notGainMana = true → player.addManaSpent vocation a = some player) := by
  have nothing {Level : Type} (req : Level → Nat) (next : Level → Level)
      (progress : Progress Level) : gain next req progress 0 = some progress :=
    if_pos (.inr rfl)
  have same (player : Player) (amount : Nat) (gains : player.notGainMana = false) :
      player.addManaSpent vocation amount = player.gainMana vocation amount := by
    rw [Player.addManaSpent, gains]
    rfl
  refine ⟨fun skill => Player.addSkillAdvance_spec, fun skill => ?_, fun gains => ⟨?_, ?_⟩,
    fun none => ?_⟩
  · rw [Player.addOfflineTrainingTries]
    split_ifs with zero
    · rw [zero, Player.addSkillAdvance, nothing, Option.map_some, Function.update_eq_self]
    · rfl
  · intro below small
    have spec := Player.gainMana_spec below small
    obtain ⟨after, isAfter, gained⟩ := spec.2
    rw [same player a gains, same player (a + b) gains, isAfter, Option.bind_some,
      same { player with magic := after } b gains]
    rw [isAfter] at spec
    exact spec
  · rw [same player a gains, Player.addOfflineTrainingTries]
    split_ifs with zero
    · rw [zero, Player.gainMana, nothing, Option.map_some]
    · rfl
  · rw [Player.addManaSpent, none]
    rfl

/-- Offline, also a player that does not gain mana by spending it gains some. -/
theorem offline_gains_more :
    ¬ ∀ (player : Player) (vocation : Vocation) (amount : Nat),
      player.addOfflineTrainingTries vocation .magLevel amount =
        player.addManaSpent vocation amount := by
  intro same
  have offline := congrArg (Option.map (·.magic.tries)) (same ⟨fun _ => ⟨10, 0⟩, ⟨0, 0⟩, true⟩
    ⟨fun _ level => level.toNat + 1, fun level => 100 * (level.toNat + 1)⟩ 10)
  exact absurd offline (by decide)

end Otserv.SkillGains
