import Otserv.Deaths.Defeat

/-!
# Deaths over whole runs

`onDeath` should be called once for each time the health of a creature drops to zero, while it is
zero, and by no task from before the health was raised (`Sound`).

Each change that leaves a creature at zero adds a task, and a task asks only whether the creature
is in the game still. So the law rests on what happens while a task waits: the creature must not
be healed, and where it survives its death no other task of it may wait (`deaths_sound`).
-/

namespace Otserv.Deaths

open Foundation

/-- One step: the states before it and after it. -/
structure Sound (before : Game) (op : GameOp) (after : Game) : Prop where
  /-- The creature of a task that calls `onDeath` has no health, and has neither been raised nor
  died since its health dropped. -/
  defeated : ∀ death task tasks creature, op = .executeDeath death →
    before.tasks = task :: tasks → before.creatures task.creatureId = some creature →
      creature.removed = false →
        creature.health = 0 ∧ task.drop = creature.drops ∧ creature.deaths + 1 = creature.drops
  /-- There was a death for each drop, but for the last one while its task waits. -/
  answered : ∀ creatureId creature, after.creatures creatureId = some creature →
    creature.removed = false →
      creature.deaths = creature.drops ∨
        creature.health = 0 ∧ creature.deaths + 1 = creature.drops ∧
          ⟨creatureId, creature.drops⟩ ∈ after.tasks

/-- Whether a task of the creature waits. -/
def Waits (game : Game) (creatureId : Nat) : Prop :=
  ∃ task ∈ game.tasks, task.creatureId = creatureId

/-- A creature without health is not healed while a task of it waits, and not hit while none does,
but for the one whose death it is where a corpse is dropped. -/
def Patient (dying : Option Nat) (game : Game) (change : HealthChange) : Prop :=
  ∀ creature, dying ≠ some change.creatureId →
    game.creatures change.creatureId = some creature → creature.removed = false →
      creature.health = 0 →
        (Waits game change.creatureId ↔
          ¬(0 < change.healthChange ∧ 0 < creature.getMaxHealth change.varStats))

/-- A creature that survives its death leaves no other task of it. -/
def Orderly (game : Game) : GameOp → Prop
  | .changeHealth change => Patient none game change
  | .executeDeath death =>
    ∀ task tasks creature, game.tasks = task :: tasks →
      game.creatures task.creatureId = some creature → creature.removed = false →
        healthChanges.Throughout
            (fun before change _ =>
              Patient (if creature.dropCorpse death then some task.creatureId else none)
                before change)
            ({ game with tasks := tasks }.counted task.creatureId) death.changes ∧
          (creature.dropCorpse death = false →
            ¬Waits (healthChanges.run ({ game with tasks := tasks }.counted task.creatureId)
              death.changes) task.creatureId)
  | .appear .. | .setSkillLoss .. | .removeCreature _ => True

/-! ## The invariant -/

/-- What holds of a creature in the game and the tasks. -/
structure Settled (tasks : List DeathTask) (creatureId : Nat) (creature : Creature) : Prop where
  nonneg : 0 ≤ creature.health
  pending : ∀ task ∈ tasks, task.creatureId = creatureId →
    creature.health = 0 ∧ task.drop = creature.drops ∧ creature.deaths + 1 = creature.drops
  answered : creature.deaths = creature.drops ∨ ∃ task ∈ tasks, task.creatureId = creatureId

/-- All creatures in the game but the one that is dying. -/
structure Invariant (dying : Option Nat) (game : Game) : Prop where
  known : ∀ task ∈ game.tasks, game.creatures task.creatureId ≠ none
  settled : ∀ creatureId creature, dying ≠ some creatureId →
    game.creatures creatureId = some creature → creature.removed = false →
      Settled game.tasks creatureId creature

namespace Settled

variable {tasks : List DeathTask} {creatureId : Nat} {creature : Creature}

theorem append_other (settled : Settled tasks creatureId creature) {task : DeathTask}
    (other : task.creatureId ≠ creatureId) : Settled (tasks ++ [task]) creatureId creature where
  nonneg := settled.nonneg
  pending := by
    intro each among same
    rcases List.mem_append.mp among with old | new
    · exact settled.pending each old same
    · rw [List.mem_singleton.mp new] at same
      exact absurd same other
  answered := settled.answered.imp_right fun ⟨each, among, same⟩ =>
    ⟨each, List.mem_append_left _ among, same⟩

theorem tail {task : DeathTask} (settled : Settled (task :: tasks) creatureId creature)
    (other : task.creatureId ≠ creatureId) : Settled tasks creatureId creature where
  nonneg := settled.nonneg
  pending := fun each among => settled.pending each (List.mem_cons_of_mem _ among)
  answered := by
    refine settled.answered.imp_right ?_
    rintro ⟨each, among, same⟩
    rcases List.mem_cons.mp among with rfl | old
    · exact absurd same other
    · exact ⟨each, old, same⟩

theorem deaths_eq (settled : Settled tasks creatureId creature)
    (none : ¬∃ task ∈ tasks, task.creatureId = creatureId) : creature.deaths = creature.drops :=
  settled.answered.resolve_right none

theorem none_of_health (settled : Settled tasks creatureId creature)
    (health : creature.health ≠ 0) : ¬∃ task ∈ tasks, task.creatureId = creatureId := by
  rintro ⟨task, among, same⟩
  exact health (settled.pending task among same).1

theorem of_none (nonneg : 0 ≤ creature.health)
    (none : ¬∃ task ∈ tasks, task.creatureId = creatureId)
    (answered : creature.deaths = creature.drops) : Settled tasks creatureId creature :=
  ⟨nonneg, fun task among same => absurd ⟨task, among, same⟩ none, .inl answered⟩

end Settled

/-! ## A change of health -/

namespace Creature

variable (creature : Creature)

theorem getMaxHealth_nonneg (varStats : Int) : 0 ≤ creature.getMaxHealth varStats := by
  unfold getMaxHealth
  split
  · exact Int.le_trans Int.one_nonneg (Int.le_max_left _ _)
  · exact Int.natCast_nonneg _

variable (healthChange varStats : Int)

theorem changeHealth_nonneg (nonneg : 0 ≤ creature.health) :
    0 ≤ (creature.changeHealth healthChange varStats).health := by
  have most := creature.getMaxHealth_nonneg varStats
  show 0 ≤ Combat.Target.changeHealth { maxHealth := _ } _ _
  unfold Combat.Target.changeHealth
  dsimp only
  split <;> omega

theorem changeHealth_pos_iff (zero : creature.health = 0) :
    0 < (creature.changeHealth healthChange varStats).health ↔
      0 < healthChange ∧ 0 < creature.getMaxHealth varStats := by
  show 0 < Combat.Target.changeHealth { maxHealth := _ } _ _ ↔ _
  unfold Combat.Target.changeHealth
  dsimp only
  split <;> omega

theorem drops_of_zero (zero : creature.health = 0) :
    (creature.changeHealth healthChange varStats).drops = creature.drops := by
  simp only [changeHealth, zero, Int.lt_irrefl, false_and, if_false]

theorem drops_of_pos (positive : 0 < creature.health) :
    (creature.changeHealth healthChange varStats).drops =
      if (creature.changeHealth healthChange varStats).health ≤ 0 then creature.drops + 1
      else creature.drops := by
  simp only [changeHealth, positive, true_and]

end Creature

/-- **A change** keeps what holds of its creature, where it comes in time. -/
theorem Settled.changeHealth {tasks : List DeathTask} {creatureId : Nat} {creature : Creature}
    (settled : Settled tasks creatureId creature) {healthChange varStats : Int}
    (patient : creature.health = 0 → ((∃ task ∈ tasks, task.creatureId = creatureId) ↔
      ¬(0 < healthChange ∧ 0 < creature.getMaxHealth varStats))) :
    Settled
      (if (creature.changeHealth healthChange varStats).health ≤ 0 then
        tasks ++ [⟨creatureId, (creature.changeHealth healthChange varStats).drops⟩] else tasks)
      creatureId (creature.changeHealth healthChange varStats) := by
  have nonneg := creature.changeHealth_nonneg healthChange varStats settled.nonneg
  have added : ∃ task ∈
      tasks ++ [⟨creatureId, (creature.changeHealth healthChange varStats).drops⟩],
        task.creatureId = creatureId :=
    ⟨_, List.mem_append_right _ List.mem_cons_self, rfl⟩
  by_cases zero : creature.health = 0
  · have drops := creature.drops_of_zero healthChange varStats zero
    have raised := creature.changeHealth_pos_iff healthChange varStats zero
    by_cases defeated : (creature.changeHealth healthChange varStats).health ≤ 0
    · rw [if_pos defeated]
      obtain ⟨waiting, isWaiting, same⟩ :=
        (patient zero).mpr fun raises => absurd (raised.mpr raises) (Int.not_lt.mpr defeated)
      obtain ⟨-, -, unanswered⟩ := settled.pending waiting isWaiting same
      refine ⟨nonneg, fun task among sameId => ⟨Int.le_antisymm defeated nonneg, ?_, ?_⟩,
        .inr added⟩
      · rcases List.mem_append.mp among with old | new
        · exact (settled.pending task old sameId).2.1.trans drops.symm
        · rw [List.mem_singleton.mp new]
      · rw [drops]
        exact unanswered
    · rw [if_neg defeated]
      have none := fun waits => (patient zero).mp waits (raised.mp (Int.not_le.mp defeated))
      exact .of_none nonneg none ((settled.deaths_eq none).trans drops.symm)
  · have positive : 0 < creature.health := by
      have least := settled.nonneg
      omega
    have none := settled.none_of_health zero
    have drops := creature.drops_of_pos healthChange varStats positive
    by_cases defeated : (creature.changeHealth healthChange varStats).health ≤ 0
    · rw [if_pos defeated] at drops ⊢
      refine ⟨nonneg, fun task among sameId => ⟨Int.le_antisymm defeated nonneg, ?_, ?_⟩,
        .inr added⟩
      · rcases List.mem_append.mp among with old | new
        · exact absurd ⟨task, old, sameId⟩ none
        · rw [List.mem_singleton.mp new]
      · rw [drops]
        exact congrArg Nat.succ (settled.deaths_eq none)
    · rw [if_neg defeated] at drops ⊢
      exact .of_none nonneg none ((settled.deaths_eq none).trans drops.symm)

namespace Game

variable (game : Game)

theorem creatures_modify (creatureId : Nat) (change : Creature → Creature) (other : Nat) :
    (game.modify creatureId change).creatures other =
      if other = creatureId then (game.creatures creatureId).map change
      else game.creatures other := Function.update_apply _ _ _ _

theorem known_modify {creatureId other : Nat} {change : Creature → Creature}
    (known : game.creatures other ≠ none) :
    (game.modify creatureId change).creatures other ≠ none := by
  rw [creatures_modify]
  by_cases same : other = creatureId
  · subst same
    rw [if_pos rfl, ne_eq, Option.map_eq_none_iff]
    exact known
  · rw [if_neg same]
    exact known

theorem changeHealth_eq {change : HealthChange} {creature : Creature}
    (found : game.creatures change.creatureId = some creature) :
    game.changeHealth change =
      { game.modify change.creatureId fun _ =>
          creature.changeHealth change.healthChange change.varStats with
        tasks :=
          if (creature.changeHealth change.healthChange change.varStats).health ≤ 0 then
            game.tasks ++ [⟨change.creatureId,
              (creature.changeHealth change.healthChange change.varStats).drops⟩]
          else game.tasks } := by
  unfold changeHealth
  rw [found]
  dsimp only
  split <;> rfl

end Game

namespace Invariant

variable {dying : Option Nat} {game : Game}

theorem changeHealth (invariant : Invariant dying game) {change : HealthChange}
    (patient : Patient dying game change) : Invariant dying (game.changeHealth change) := by
  cases found : game.creatures change.creatureId with
  | none =>
    have same : game.changeHealth change = game := by
      unfold Game.changeHealth
      rw [found]
    rw [same]
    exact invariant
  | some creature =>
    rw [game.changeHealth_eq found]
    constructor
    · intro task among
      refine game.known_modify ?_
      split at among
      · rcases List.mem_append.mp among with old | new
        · exact invariant.known task old
        · rw [List.mem_singleton.mp new, found]
          exact Option.some_ne_none _
      · exact invariant.known task among
    · intro creatureId other notDying present inGame
      rw [Game.creatures_modify] at present
      by_cases same : creatureId = change.creatureId
      · subst same
        rw [if_pos rfl, found] at present
        cases present
        have settled := invariant.settled _ creature notDying found inGame
        exact settled.changeHealth (patient creature notDying found inGame)
      · rw [if_neg same] at present
        have settled := invariant.settled creatureId other notDying present inGame
        split
        · exact settled.append_other fun sameId => same sameId.symm
        · exact settled

/-- Changes inside a death. -/
theorem run (invariant : Invariant dying game) {changes : List HealthChange}
    (patient : healthChanges.Throughout (fun before change _ => Patient dying before change)
      game changes) : Invariant dying (healthChanges.run game changes) := by
  induction changes generalizing game with
  | nil => exact invariant
  | cons change changes ih => exact ih (invariant.changeHealth patient.1) patient.2

theorem modify (invariant : Invariant dying game) {creatureId : Nat} {change : Creature → Creature}
    {other : Option Nat} (others : ∀ each, each ≠ creatureId → other ≠ some each →
      dying ≠ some each)
    (changed : ∀ creature, other ≠ some creatureId → game.creatures creatureId = some creature →
      (change creature).removed = false → Settled game.tasks creatureId (change creature)) :
    Invariant other (game.modify creatureId change) where
  known := fun task among => game.known_modify (invariant.known task among)
  settled := by
    intro each creature notOther present inGame
    rw [Game.creatures_modify] at present
    by_cases same : each = creatureId
    · subst same
      rw [if_pos rfl, Option.map_eq_some_iff] at present
      obtain ⟨old, found, rfl⟩ := present
      exact changed old notOther found inGame
    · rw [if_neg same] at present
      exact invariant.settled each creature (others each same notOther) present inGame

theorem pop {task : DeathTask} {tasks : List DeathTask} (invariant : Invariant none game)
    (queue : game.tasks = task :: tasks) {other : Option Nat}
    (gone : ∀ creature, other ≠ some task.creatureId →
      game.creatures task.creatureId = some creature → creature.removed = true) :
    Invariant other { game with tasks := tasks } where
  known := by
    intro each among
    refine invariant.known each ?_
    rw [queue]
    exact List.mem_cons_of_mem _ among
  settled := by
    intro each creature notOther present inGame
    have settled := invariant.settled each creature nofun present inGame
    rw [queue] at settled
    refine settled.tail fun same => ?_
    subst same
    have removed := gone creature notOther present
    rw [inGame] at removed
    cases removed

end Invariant

/-- Changes only add tasks. -/
theorem waits_run {creatureId : Nat} (changes : List HealthChange) {game : Game}
    (waits : Waits game creatureId) : Waits (healthChanges.run game changes) creatureId := by
  induction changes generalizing game with
  | nil => exact waits
  | cons change changes ih =>
    refine ih ?_
    obtain ⟨task, among, same⟩ := waits
    show Waits (game.changeHealth change) creatureId
    cases found : game.creatures change.creatureId with
    | none =>
      unfold Game.changeHealth
      rw [found]
      exact ⟨task, among, same⟩
    | some creature =>
      rw [game.changeHealth_eq found]
      refine ⟨task, ?_, same⟩
      split
      · exact List.mem_append_left _ among
      · exact among

/-! ## The steps -/

namespace Invariant

variable {game : Game}

section

variable (invariant : Invariant none game)
include invariant

theorem onDeath {task : DeathTask} {tasks : List DeathTask}
    (queue : game.tasks = task :: tasks) {creature : Creature}
    (found : game.creatures task.creatureId = some creature) (inGame : creature.removed = false)
    {death : Death} (orderly : Orderly game (.executeDeath death)) :
    Invariant none
      ({ game with tasks := tasks }.onDeath task.creatureId (creature.dropCorpse death) death) := by
  obtain ⟨patient, alone⟩ := orderly task tasks creature queue found inGame
  cases dropped : creature.dropCorpse death with
  | true =>
    rw [dropped, if_pos rfl] at patient
    have counted : Invariant (some task.creatureId)
        ({ game with tasks := tasks }.counted task.creatureId) := by
      have popped : Invariant (some task.creatureId) { game with tasks := tasks } :=
        invariant.pop queue fun _ dying => absurd rfl dying
      exact popped.modify (fun _ _ same => same) fun _ dying => absurd rfl dying
    refine (counted.run patient).modify (fun each other _ same => ?_) fun dead _ _ removed => ?_
    · exact other (Option.some.inj same).symm
    · rw [Bool.or_true] at removed
      cases removed
  | false =>
    rw [dropped, if_neg Bool.false_ne_true] at patient
    have settled := invariant.settled _ creature nofun found inGame
    have unanswered := (settled.pending task (by rw [queue]; exact List.mem_cons_self) rfl).2.2
    have noneLeft := alone dropped
    have counted : Invariant none ({ game with tasks := tasks }.counted task.creatureId) := by
      have popped : Invariant (some task.creatureId) { game with tasks := tasks } :=
        invariant.pop queue fun _ dying => absurd rfl dying
      refine popped.modify (fun each other _ same => ?_) fun old _ present _ => ?_
      · exact other (Option.some.inj same).symm
      · rw [show old = creature from Option.some.inj (present.symm.trans found)]
        refine .of_none settled.nonneg (fun waits => ?_) unanswered
        exact noneLeft (waits_run death.changes waits)
    have after := counted.run patient
    refine after.modify (fun _ _ _ => nofun) fun old _ present stays => ?_
    have oldStays : old.removed = false := by
      rw [Bool.or_false] at stays
      unfold Creature.death at stays
      split at stays
      · exact stays
      split at stays <;> exact stays
    have before := after.settled _ old nofun present oldStays
    have answered := before.deaths_eq noneLeft
    unfold Creature.death
    split
    · exact .of_none before.nonneg noneLeft answered
    split
    · refine .of_none ?_ noneLeft answered
      dsimp only
      split
      · decide
      · exact Int.natCast_nonneg _
    · exact .of_none (Int.natCast_nonneg _) noneLeft answered

theorem executeDeath {death : Death} (orderly : Orderly game (.executeDeath death)) :
    Invariant none (game.executeDeath death) := by
  unfold Game.executeDeath
  cases queue : game.tasks with
  | nil => exact invariant
  | cons task tasks =>
    dsimp only
    cases found : game.creatures task.creatureId with
    | none =>
      refine invariant.pop queue fun creature _ present => ?_
      rw [found] at present
      cases present
    | some creature =>
      dsimp only
      by_cases removed : creature.removed = true
      · rw [if_pos removed]
        refine invariant.pop queue fun other _ present => ?_
        rw [← Option.some.inj (found.symm.trans present)]
        exact removed
      · rw [if_neg removed]
        exact invariant.onDeath queue found (eq_false_of_ne_true removed) orderly

/-- **Each operation keeps the invariant** where deaths come in order. -/
theorem step {op : GameOp} (legal : defeats.legal game op)
    (orderly : Orderly game op) : Invariant none (defeats.step game op) := by
  cases op with
  | appear creatureId isPlayer health healthMax =>
    have fresh : ¬∃ task ∈ game.tasks, task.creatureId = creatureId := by
      rintro ⟨task, among, rfl⟩
      exact invariant.known task among legal.1
    constructor
    · intro task among
      show Function.update game.creatures creatureId _ task.creatureId ≠ none
      rw [Function.update_of_ne fun same => fresh ⟨task, among, same⟩]
      exact invariant.known task among
    · intro each creature _ present inGame
      by_cases same : each = creatureId
      · subst same
        have new : (Function.update game.creatures each _) each = some creature := present
        rw [Function.update_self] at new
        cases new
        exact .of_none legal.2 fresh rfl
      · have old : (Function.update game.creatures creatureId _) each = some creature := present
        rw [Function.update_of_ne same] at old
        exact invariant.settled each creature nofun old inGame
  | setSkillLoss creatureId skillLoss =>
    refine invariant.modify (fun _ _ _ => nofun) fun creature _ found inGame => ?_
    have settled := invariant.settled creatureId creature nofun found inGame
    exact ⟨settled.nonneg, settled.pending, settled.answered⟩
  | changeHealth change => exact invariant.changeHealth orderly
  | executeDeath death => exact invariant.executeDeath orderly
  | removeCreature creatureId => exact invariant.modify (fun _ _ _ => nofun) fun _ _ _ => nofun

theorem sound {op : GameOp} {after : Game}
    (onwards : Invariant none after) : Sound game op after where
  defeated := by
    intro _ task tasks creature _ queue found inGame
    refine (invariant.settled _ creature nofun found inGame).pending task ?_ rfl
    rw [queue]
    exact List.mem_cons_self
  answered := by
    intro creatureId creature found inGame
    have settled := onwards.settled creatureId creature nofun found inGame
    refine settled.answered.imp_right ?_
    rintro ⟨⟨_, drop⟩, among, rfl⟩
    obtain ⟨zero, same, unanswered⟩ := settled.pending _ among rfl
    cases same
    exact ⟨zero, unanswered, among⟩

end

end Invariant

/-- **Death is executed once for each defeat**, where no creature is healed while a task of it
waits, none without health is hit while no task waits, and one that survives its death leaves no
other task. -/
theorem deaths_sound {ops : List GameOp} (legal : defeats.Legal {} ops)
    (orderly : defeats.Throughout (fun before op _ => Orderly before op) {} ops) :
    defeats.Throughout Sound {} ops := by
  have initial : Invariant none {} :=
    { known := fun _ among => absurd among List.not_mem_nil
      settled := nofun }
  refine .of_invariant (fun before op invariant isLegal isOrderly => ?_) initial
    legal orderly
  have onwards := invariant.step isLegal isOrderly
  exact ⟨invariant.sound onwards, onwards⟩

/-- A player is defeated in a PvP zone and hit again, and a monster is hit twice. -/
def defended : List GameOp :=
  [.appear 1 true 10 100, .appear 2 false 10 10, .changeHealth ⟨1, -10, 0⟩,
    .executeDeath { inPvpZone := true, lastHitIsPlayer := true }, .changeHealth ⟨1, -60, 0⟩,
    .changeHealth ⟨2, -20, 0⟩, .changeHealth ⟨2, -5, 0⟩, .changeHealth ⟨1, 20, 0⟩,
    .executeDeath { inPvpZone := false, lastHitIsPlayer := true },
    .executeDeath { inPvpZone := false, lastHitIsPlayer := true }]

theorem deaths_sound_defended : defeats.Throughout Sound {} defended := by
  have hurt : ∀ {game : Game} {change : HealthChange} {health : Int},
      (game.creatures change.creatureId).map Creature.health = some health → health ≠ 0 →
        Patient none game change := by
    intro game change health found isSome creature _ present _ zero
    rw [present, Option.map_some, zero] at found
    exact absurd (Option.some.inj found).symm isSome
  refine deaths_sound ?_ ?_
  · refine ⟨⟨rfl, by decide⟩, ⟨rfl, by decide⟩, nofun, nofun, nofun, nofun, nofun, nofun, nofun,
      nofun, trivial⟩
  · refine ⟨trivial, trivial, hurt rfl (by decide), ?_, hurt rfl (by decide), hurt rfl (by decide),
      ?_, hurt rfl (by decide), ?_, ?_, trivial⟩
    · rintro task tasks creature ⟨⟩ ⟨⟩ -
      refine ⟨trivial, ?_⟩
      rintro - ⟨task, among, -⟩
      exact absurd among List.not_mem_nil
    · rintro creature - ⟨⟩ - -
      exact iff_of_true ⟨_, List.mem_cons_self, rfl⟩ (by decide)
    · rintro task tasks creature ⟨⟩ ⟨⟩ -
      exact ⟨trivial, nofun⟩
    · rintro task tasks creature ⟨⟩ ⟨⟩ removed
      cases removed

/-- Two hits of one task defeat a player in a PvP zone, who dies again with full health. -/
theorem died_twice :
    ∃ ops, defeats.Legal {} ops ∧ ¬defeats.Throughout Sound {} ops ∧
      ((defeats.run {} ops).creatures 1).map Creature.deaths = some 2 := by
  refine ⟨[.appear 1 true 10 100, .changeHealth ⟨1, -10, 0⟩, .changeHealth ⟨1, -10, 0⟩,
    .executeDeath { inPvpZone := true, lastHitIsPlayer := true },
    .executeDeath { inPvpZone := true, lastHitIsPlayer := true }], ?_, ?_, rfl⟩
  · exact ⟨⟨rfl, by decide⟩, nofun, nofun, nofun, nofun, trivial⟩
  · rintro ⟨-, -, -, -, again, -⟩
    obtain ⟨zero, -⟩ := again.defeated _ _ _ _ rfl rfl rfl rfl
    exact absurd zero (by decide)

end Otserv.Deaths
