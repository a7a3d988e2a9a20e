import Mathlib.Tactic.SplitIfs
import Otserv.Combat.Permission

/-!
# What players own

A player owns itself and its summons. What a player owns may not fight what another player owns
where that is forbidden: when the target is in a zone without fights between players, or the
world has no such fights and the two are not both in a zone for them. In such a world every
combination is refused. In a zone, a player that attacks a summon is refused, and so is whoever
attacks a player; but nobody asks for the zone when one summon attacks another, or when the target
is a summon that is no monster (`protects_iff`).
-/

namespace Otserv.Combats.World

variable (world : World)

/-- The player that owns a creature. -/
def owner (creature : Nat) : Option Nat :=
  if (world.getPlayer creature).isSome then some creature
  else (world.masterPlayer creature).map (·.1)

/-- A target is not fought where that is forbidden between players. -/
structure Protects (attacker target : Nat) : Prop where
  zone : world.getZone target = .noPvp → world.canDoCombat (some attacker) target ≠ .noError
  world : world.worldType = .noPvp → world.isInPvpZone attacker target = false →
    world.canDoCombat (some attacker) target ≠ .noError

/-- Nothing that is asked of the two is about the zone: the target is a summon in a zone without
fights between players, it is no monster that a player attacks, and all else is allowed. -/
structure Unguarded (attacker target : Nat) : Prop where
  zone : world.getZone target = .noPvp
  worldType : world.worldType ≠ .noPvp
  summon : world.getPlayer target = none
  unasked : world.getPlayer attacker = none ∨ world.isMonster target = false
  alone : (world.creature target).summonCount = 0
  noGuardian : (world.creature target).isMonsterGuardian = false
  free : world.inContract attacker target = false
  allowed : world.onTargetCombat (some attacker) target = .noError

variable {world} {attacker target : Nat} {creature owner : Nat}

theorem isPlayerCombat_of_owner (owned : world.owner creature = some owner) :
    world.isPlayerCombat creature = true := by
  rw [isPlayerCombat, Bool.or_eq_true]
  by_cases isPlayer : (world.getPlayer creature).isSome
  · exact .inl isPlayer
  · rw [World.owner, if_neg isPlayer, Option.map_eq_some_iff] at owned
    obtain ⟨master, isMaster, -⟩ := owned
    exact .inr (by rw [isMaster]; rfl)

theorem masterPlayer_of_owner (owned : world.owner creature = some owner)
    (noPlayer : world.getPlayer creature = none) : (world.masterPlayer creature).isSome := by
  have isOwned := isPlayerCombat_of_owner owned
  rwa [isPlayerCombat, noPlayer, Option.isSome_none, Bool.false_or] at isOwned

/-- In a world without fights between players. -/
theorem byWorldType_isSome {first second : Nat} (ownedFirst : world.owner attacker = some first)
    (ownedSecond : world.owner target = some second) (noPvp : world.worldType = .noPvp)
    (notInZone : world.isInPvpZone attacker target = false) :
    ∃ ret, ret ≠ .noError ∧ world.byWorldType attacker target = some ret := by
  have isOwned := isPlayerCombat_of_owner ownedSecond
  rw [isPlayerCombat, Bool.or_eq_true] at isOwned
  rw [byWorldType, if_pos (by simp [noPvp, notInZone, isPlayerCombat_of_owner ownedFirst])]
  by_cases isPlayer : (world.getPlayer target).isSome
  · exact ⟨_, by decide, if_pos isPlayer⟩
  · rw [if_neg isPlayer, if_pos (isOwned.resolve_left isPlayer)]
    exact ⟨_, by decide, rfl⟩

theorem noPvpZone_of_zone (zone : world.getZone target = .noPvp) :
    (world.getTile target).noPvpZone = true := by
  rw [getZone, Tile.getZone] at zone
  split at zone
  · cases zone
  · split at zone
    · assumption
    · split at zone
      · cases zone
      · split at zone <;> cases zone

/-- What is answered for who the two are is never that they may. -/
theorem byKind_ne_noError : world.byKind attacker target ≠ some .noError := by
  have onPlayer (attackerPlayer targetPlayer : Player) :
      world.playerOnPlayer attacker attackerPlayer target targetPlayer ≠ some .noError := by
    rw [playerOnPlayer]
    split_ifs <;> decide
  have bySummon (master : Nat) (masterPlayer targetPlayer : Player) :
      world.summonOnPlayer master masterPlayer target targetPlayer ≠ some .noError := by
    rw [summonOnPlayer]
    split_ifs <;> decide
  rw [byKind]
  split
  · split
    · decide
    · intro answer
      rcases Option.or_eq_some_iff.mp answer with answer | ⟨-, answer⟩
      · obtain ⟨attackerPlayer, -, answer⟩ := Option.bind_eq_some_iff.mp answer
        exact onPlayer _ _ answer
      · obtain ⟨⟨master, masterPlayer⟩, -, answer⟩ := Option.bind_eq_some_iff.mp answer
        exact bySummon _ _ _ answer
  · rw [onMonster]
    split
    · split_ifs <;> decide
    · split_ifs <;> decide
  · decide

theorem byWorldType_ne_noError : world.byWorldType attacker target ≠ some .noError := by
  rw [byWorldType]
  split_ifs <;> decide

/-- The two may fight just when nothing is against it. -/
theorem canDoCombat_eq_noError_iff :
    world.canDoCombat (some attacker) target = .noError ↔
      (world.creature target).summonCount = 0 ∧
        (world.creature target).isMonsterGuardian = false ∧
        world.inContract attacker target = false ∧ world.byKind attacker target = none ∧
        world.byWorldType attacker target = none ∧
        world.onTargetCombat (some attacker) target = .noError := by
  have byKind := @byKind_ne_noError world attacker target
  have byWorldType := @byWorldType_ne_noError world attacker target
  rw [canDoCombat]
  by_cases busy : (decide ((world.creature target).summonCount > 0) ||
      (world.creature target).isMonsterGuardian) = true
  · rw [if_pos busy]
    refine iff_of_false (by decide) ?_
    rintro ⟨alone, noGuardian, -⟩
    simp [alone, noGuardian] at busy
  · have free : (world.creature target).summonCount = 0 ∧
        (world.creature target).isMonsterGuardian = false := by simpa using busy
    rw [if_neg busy, and_iff_right free.1, and_iff_right free.2]
    by_cases contract : world.inContract attacker target = true
    · rw [if_pos contract]
      refine iff_of_false (by decide) ?_
      rintro ⟨noContract, -⟩
      simp [contract] at noContract
    · rw [if_neg contract, and_iff_right (Bool.eq_false_iff.mpr contract)]
      cases isKind : world.byKind attacker target with
      | some ret =>
        rw [isKind] at byKind
        simpa using byKind
      | none =>
        cases isType : world.byWorldType attacker target with
        | some ret =>
          rw [isType] at byWorldType
          simpa using byWorldType
        | none => simp

/-- Nothing is against a fight with a summon in such a zone but what is asked of a player. -/
theorem byKind_eq_none_iff {second : Nat} (owned : world.owner target = some second)
    (zone : world.getZone target = .noPvp) {first : Nat}
    (ownedFirst : world.owner attacker = some first) :
    world.byKind attacker target = none ↔ world.getPlayer target = none ∧
      (world.getPlayer attacker = none ∨ world.isMonster target = false) := by
  have flag := noPvpZone_of_zone zone
  rw [byKind]
  cases isKind : (world.creature target).kind with
  | player targetPlayer =>
    have isPlayer : world.getPlayer target = some targetPlayer := by rw [getPlayer, isKind]
    refine iff_of_false ?_ (by simp [isPlayer])
    dsimp only
    split
    · simp
    · rw [Option.or_eq_none_iff]
      rintro ⟨byPlayer, bySummon⟩
      cases attacks : world.getPlayer attacker with
      | some attackerPlayer =>
        rw [attacks, Option.bind_some, playerOnPlayer, flag] at byPlayer
        revert byPlayer
        split_ifs <;> simp_all
      | none =>
        obtain ⟨⟨master, masterPlayer⟩, isMaster⟩ :=
          Option.isSome_iff_exists.mp (masterPlayer_of_owner ownedFirst attacks)
        rw [isMaster, Option.bind_some] at bySummon
        rw [summonOnPlayer, flag] at bySummon
        revert bySummon
        split_ifs <;> simp_all
  | monster =>
    have noPlayer : world.getPlayer target = none := by rw [getPlayer, isKind]
    have isSummon := masterPlayer_of_owner owned noPlayer
    simp only [onMonster, noPlayer, isMonster, true_and]
    cases attacks : world.getPlayer attacker with
    | some attackerPlayer =>
      simp only [isSummon, zone]
      split_ifs <;> simp_all
    | none =>
      have notNone : (world.masterPlayer target).isNone = false := by
        rw [← Option.not_isSome, isSummon]
        rfl
      simp [notNone]
  | npc =>
    have noPlayer : world.getPlayer target = none := by rw [getPlayer, isKind]
    have noMonster : world.isMonster target = false := by rw [World.isMonster, isKind]; rfl
    simp [noPlayer, noMonster]

/-- **What players own** is safe from what others own, but for summons that nobody guards. -/
theorem protects_iff {first second : Nat} (ownedFirst : world.owner attacker = some first)
    (ownedSecond : world.owner target = some second) :
    world.Protects attacker target ↔ ¬world.Unguarded attacker target := by
  have noPvpWorld (noPvp : world.worldType = .noPvp)
      (notInZone : world.isInPvpZone attacker target = false) :
      world.canDoCombat (some attacker) target ≠ .noError := by
    obtain ⟨ret, -, answer⟩ := byWorldType_isSome ownedFirst ownedSecond noPvp notInZone
    rw [ne_eq, canDoCombat_eq_noError_iff, answer]
    rintro ⟨-, -, -, -, none, -⟩
    cases none
  constructor
  · intro protects unguarded
    refine protects.zone unguarded.zone (canDoCombat_eq_noError_iff.mpr ⟨unguarded.alone,
      unguarded.noGuardian, unguarded.free, ?_, if_neg (by simp [unguarded.worldType]),
      unguarded.allowed⟩)
    exact (byKind_eq_none_iff ownedSecond unguarded.zone ownedFirst).mpr
      ⟨unguarded.summon, unguarded.unasked⟩
  · intro guarded
    refine ⟨fun zone mayFight => guarded ?_, noPvpWorld⟩
    by_cases noPvp : world.worldType = .noPvp
    · refine absurd mayFight (noPvpWorld noPvp ?_)
      simp [isInPvpZone, zone]
    · obtain ⟨alone, noGuardian, free, byKind, -, allowed⟩ :=
        canDoCombat_eq_noError_iff.mp mayFight
      obtain ⟨summon, unasked⟩ := (byKind_eq_none_iff ownedSecond zone ownedFirst).mp byKind
      exact ⟨zone, noPvp, summon, unasked, alone, noGuardian, free, allowed⟩

/-- Two players, 0 and 1, with a summon each, 2 and 3, in a zone without fights between
players. -/
def meeting : World where
  creature creature :=
    { kind := if creature = 0 then .player { guid := 100 }
        else if creature = 1 then .player { guid := 101 }
        else .monster
      tile := { noPvpZone := true }
      master := if creature = 2 then some 0 else if creature = 3 then some 1 else none }

/-- A summon may not fight a player. -/
theorem protects_meeting : meeting.Protects 2 1 :=
  (protects_iff (rfl : meeting.owner 2 = some 0) (rfl : meeting.owner 1 = some 1)).mpr
    fun unguarded => nomatch (unguarded.summon : some _ = none)

/-- A summon may fight a summon. -/
theorem summons_meeting : meeting.owner 2 = some 0 ∧ meeting.owner 3 = some 1 ∧
    meeting.getZone 3 = .noPvp ∧ meeting.canDoCombat (some 2) 3 = .noError := by
  decide

end Otserv.Combats.World
