import Otserv.Foundation.Runs
import Otserv.Speed.ConditionSpeeds
import Otserv.Speed.Mounts

/-!
# Speed accounting

The speed a player has beside the base speed should be that of the conditions of
speed and, while mounted, that of the current mount (`Accounted`).

Dismounting takes the speed of the current mount away only when it is positive,
and whether or not the player is mounted. It is even when a mounted player's
mount is not a slow one and an unmounted player's is not a fast one
(`DismountsEven`). A run keeps the account exactly when each step that dismounts
is even, and the mounts that are ridden have a client id of their own
(`speed_accounted_iff`).
-/

namespace Otserv.Speed

open Otserv.Foundation Otserv.Conditions

inductive SpeedOp where
  | toggleMount (context : Player.ToggleContext) (mount : Bool)
  | untameMount (mountId : UInt8)
  | playerChangeOutfit (context : Player.OutfitContext) (outfit : Outfit)
  | addCondition (now drawn walkDelay : Int) (condition : Condition)
  | removeCondition (type : ConditionType) (force : Bool) (walkDelay : Int)
  | removeConditionId (type : ConditionType) (conditionId : Int8) (force : Bool) (walkDelay : Int)
  | removeConditionAt (key : Key) (force : Bool) (walkDelay : Int)
  | executeConditions (now interval : Int)

/-- A player with a table of mounts. Every operation may be made at any time. -/
def speedSystem (mounts : List Mount) : System Player SpeedOp where
  legal _ _ := True
  step player
    | .toggleMount context mount => player.toggleMount mounts context mount
    | .untameMount mountId => player.untameMount mounts mountId
    | .playerChangeOutfit context outfit => player.playerChangeOutfit mounts context outfit
    | .addCondition now drawn walkDelay condition =>
      player.addCondition mounts now drawn walkDelay (some condition)
    | .removeCondition type force walkDelay =>
      { player with creature := player.creature.removeCondition type force walkDelay }
    | .removeConditionId type conditionId force walkDelay =>
      { player with
        creature := player.creature.removeConditionId type conditionId force walkDelay }
    | .removeConditionAt key force walkDelay =>
      { player with creature := player.creature.removeConditionAt key force walkDelay }
    | .executeConditions now interval =>
      { player with creature := player.creature.executeConditions now interval }

/-! ## The account -/

/-- The speed of the mount with an id; none when it is not in the table. -/
def speedOf (mounts : List Mount) (mountId : UInt8) : Int :=
  ((getMountByID mounts mountId).map Mount.speed).getD 0

/-- The speed of the current mount, while mounted. -/
def mountedSpeed (mounts : List Mount) (player : Player) : Int :=
  if player.isMounted then speedOf mounts player.getCurrentMount else 0

/-- The player's speed is that of the conditions and of the mount that is ridden. -/
def Accounted (mounts : List Mount) (player : Player) : Prop :=
  player.creature.varSpeed = speedSum player.creature.conditions + mountedSpeed mounts player

instance (mounts : List Mount) (player : Player) : Decidable (Accounted mounts player) :=
  inferInstanceAs (Decidable (_ = _))

/-- The account holds, and a mounted player's mount is in the table. -/
structure SpeedInvariant (mounts : List Mount) (player : Player) : Prop where
  accounted : Accounted mounts player
  known : player.isMounted = true → (getMountByID mounts player.getCurrentMount).isSome

/-- The speed that dismounting takes away is the one the mount gives. -/
def DismountsEven (mounts : List Mount) (player : Player) : Prop :=
  if player.isMounted then 0 ≤ speedOf mounts player.getCurrentMount
  else speedOf mounts player.getCurrentMount ≤ 0

/-- The condition will be started: there is none of its key, and it is not of damage. -/
def Starts (creature : Creature) (condition : Condition) : Prop :=
  creature.getCondition condition.key = none ∧ condition.conditionClass ≠ .damage

/-- A mounted player who takes the mount off has no slow one, and one who takes
another takes the mount that its id names. -/
def ChangesEvenly (mounts : List Mount) (account : Player.Account) (outfit : Outfit)
    (player : Player) : Prop :=
  player.isMounted = true →
    if outfit.lookMount = 0 then 0 ≤ speedOf mounts player.getCurrentMount
    else ∀ mount, getMountByClientID mounts outfit.lookMount = some mount →
      player.hasMount account mount = true → speedOf mounts mount.id = mount.speed

/-- What keeps the account in one step.

A mount that is ridden shows (its client id is not zero) or has no speed; an
unsettled or replaced mount is not a slow one; a mount that replaces another is
the one its id names; and a condition of an outfit dismounts evenly. -/
def KeepsAccount (mounts : List Mount) (player : Player) : SpeedOp → Player → Prop
  | .toggleMount context true, _ => player.tooSoon context = false →
      ∀ mount, player.ride mounts context = .rides mount → mount.clientId ≠ 0 ∨ mount.speed = 0
  | .toggleMount context false, _ => player.tooSoon context = false →
      player.isMounted = true → 0 ≤ speedOf mounts player.getCurrentMount
  | .untameMount mountId, _ =>
    (getMountByID mounts mountId).isSome → (player.tamedMounts ((mountId - 1) / 31)).isSome →
      player.getCurrentMount = mountId → player.isMounted = true → 0 ≤ speedOf mounts mountId
  | .playerChangeOutfit context outfit, _ => context.allowChangeOutfit = true →
      ChangesEvenly mounts context.account outfit player
  | .addCondition _ _ _ condition, _ =>
    condition.conditionType = .outfit → Starts player.creature condition →
      DismountsEven mounts player
  | _, _ => True

theorem accounted_iff (mounts : List Mount) (player : Player) :
    Accounted mounts player ↔ player.creature.leftover = mountedSpeed mounts player := by
  unfold Accounted Creature.leftover
  omega

variable {mounts : List Mount}

theorem speedOf_of_some {mountId : UInt8} {mount : Mount}
    (found : getMountByID mounts mountId = some mount) : speedOf mounts mountId = mount.speed := by
  rw [speedOf, found]
  rfl

/-! ## Dismounting -/

@[simp] theorem isMounted_dismount (mounts : List Mount) (player : Player) :
    (player.dismount mounts).isMounted = false := rfl

@[simp] theorem mountedSpeed_dismount (mounts : List Mount) (player : Player) :
    mountedSpeed mounts (player.dismount mounts) = 0 := by
  rfl

theorem leftover_changeSpeed (varSpeedDelta : Int) (player : Player) :
    (player.changeSpeed varSpeedDelta).creature.leftover =
      player.creature.leftover + varSpeedDelta := by
  simp only [Creature.leftover, Player.changeSpeed, Creature.changeSpeed]
  omega

theorem leftover_dismount (mounts : List Mount) (player : Player) :
    (player.dismount mounts).creature.leftover =
      player.creature.leftover - max 0 (speedOf mounts player.getCurrentMount) := by
  unfold Player.dismount speedOf
  cases getMountByID mounts player.getCurrentMount with
  | none => simp
  | some mount =>
    dsimp only
    split
    · rw [leftover_changeSpeed]
      simp only [Option.map_some, Option.getD_some]
      omega
    · simp only [Option.map_some, Option.getD_some]
      omega

theorem accounted_dismount_iff {player : Player} (accounted : Accounted mounts player) :
    Accounted mounts (player.dismount mounts) ↔ DismountsEven mounts player := by
  rw [accounted_iff] at accounted ⊢
  rw [leftover_dismount, accounted, mountedSpeed_dismount]
  unfold mountedSpeed DismountsEven
  split <;> omega

theorem accounted_dismount_mounted {player : Player}
    (accounted : Accounted mounts player) (mounted : player.isMounted = true) :
    Accounted mounts (player.dismount mounts) ↔
      0 ≤ speedOf mounts player.getCurrentMount := by
  rw [accounted_dismount_iff accounted, DismountsEven, if_pos mounted]

theorem accounted_congr (player other : Player)
    (creature : other.creature.leftover = player.creature.leftover)
    (mounted : other.isMounted = player.isMounted)
    (current : other.isMounted = true → other.getCurrentMount = player.getCurrentMount) :
    Accounted mounts other ↔ Accounted mounts player := by
  rw [accounted_iff, accounted_iff, creature]
  unfold mountedSpeed
  rw [← mounted]
  cases shown : other.isMounted with
  | false => rfl
  | true => rw [current shown]

/-! ## The operations -/

section Steps

variable {mounts : List Mount} {player : Player}

theorem SpeedInvariant.conditions (invariant : SpeedInvariant mounts player) {creature : Creature}
    (same : creature.leftover = player.creature.leftover) :
    SpeedInvariant mounts { player with creature := creature } where
  accounted := (accounted_congr player { player with creature := creature } same rfl
    fun _ => rfl).mpr invariant.accounted
  known := invariant.known

theorem SpeedInvariant.of_unmounted {after : Player} (unmounted : after.isMounted = false)
    (accounted : Accounted mounts after) : SpeedInvariant mounts after where
  accounted := accounted
  known mounted := by
    rw [unmounted] at mounted
    cases mounted

theorem accounted_setCurrentMount {player : Player} (unmounted : player.isMounted = false)
    (mountId : UInt8) :
    Accounted mounts (player.setCurrentMount mountId) ↔ Accounted mounts player := by
  refine accounted_congr player (player.setCurrentMount mountId) rfl rfl fun mounted => ?_
  exact absurd (unmounted.symm.trans mounted) (by decide)

variable {context : Player.ToggleContext}

theorem ride_rides {mount : Mount} (rides : player.ride mounts context = .rides mount) :
    player.isMounted = false ∧ getMountByID mounts player.getCurrentMount = some mount := by
  unfold Player.ride at rides
  split at rides
  · cases rides
  · rename_i unmounted
    refine ⟨Bool.eq_false_iff.mpr unmounted, ?_⟩
    split at rides
    · cases rides
    · split at rides
      · cases rides
      · dsimp only at rides
        split at rides
        · cases rides
        · split at rides
          · cases rides
          · rename_i found
            repeat' split at rides
            all_goals cases rides
            exact found

theorem ride_forgets
    (forgets : player.ride mounts context = .forgets) : player.isMounted = false := by
  unfold Player.ride at forgets
  split at forgets
  · cases forgets
  · rename_i unmounted
    exact Bool.eq_false_iff.mpr unmounted

theorem seated_step (context : Player.ToggleContext) (invariant : SpeedInvariant mounts player)
    (unmounted : player.isMounted = false) (mount : Mount) :
    (player.seat context mount).creature.leftover = mount.speed ∧
      (player.seat context mount).isMounted = (mount.clientId != 0) ∧
        (player.seat context mount).getCurrentMount = player.getCurrentMount := by
  have before := (accounted_iff mounts player).mp invariant.accounted
  rw [mountedSpeed, unmounted, if_neg (by decide)] at before
  unfold Player.seat
  split
  · refine ⟨?_, rfl, rfl⟩
    have sped := leftover_changeSpeed mount.speed player
    rw [before, zero_add] at sped
    exact sped
  · rename_i still
    refine ⟨?_, rfl, rfl⟩
    have none : mount.speed = 0 := not_not.mp still
    rw [none]
    exact before

theorem toggleMount_step (invariant : SpeedInvariant mounts player)
    (context : Player.ToggleContext) (mount : Bool) :
    (Accounted mounts (player.toggleMount mounts context mount) ↔
        KeepsAccount mounts player (.toggleMount context mount)
          (player.toggleMount mounts context mount)) ∧
      (Accounted mounts (player.toggleMount mounts context mount) →
        SpeedInvariant mounts (player.toggleMount mounts context mount)) := by
  have accounted := invariant.accounted
  unfold Player.toggleMount
  cases soon : player.tooSoon context with
  | true =>
    refine ⟨⟨fun _ => ?_, fun _ => accounted⟩, fun _ => invariant⟩
    cases mount <;> exact fun late => by rw [soon] at late; cases late
  | false =>
    rw [if_neg (by decide)]
    cases mount with
    | true =>
      rw [if_pos rfl]
      cases rides : player.ride mounts context with
      | refused =>
        refine ⟨⟨fun _ _ mount other => ?_, fun _ => accounted⟩, fun _ => invariant⟩
        rw [rides] at other
        cases other
      | forgets =>
        have unmounted := ride_forgets rides
        have after : Accounted mounts (player.setCurrentMount 0) :=
          (accounted_setCurrentMount unmounted 0).mpr accounted
        refine ⟨⟨fun _ _ mount other => ?_, fun _ => after⟩,
          fun _ => .of_unmounted unmounted after⟩
        rw [rides] at other
        cases other
      | rides mount =>
        obtain ⟨unmounted, found⟩ := ride_rides rides
        obtain ⟨left, shown, current⟩ := seated_step context invariant unmounted mount
        have gives := speedOf_of_some found
        refine ⟨⟨fun after _ other same => ?_, fun keeps => ?_⟩, fun _ => ⟨‹_›, fun _ => ?_⟩⟩
        · cases rides.symm.trans same
          rw [accounted_iff, left, mountedSpeed, shown, current, gives] at after
          by_contra neither
          push Not at neither
          rw [if_neg (by simp [neither.1])] at after
          exact neither.2 after
        · rw [accounted_iff, left, mountedSpeed, shown, current, gives]
          split
          · rfl
          · rename_i hidden
            exact (keeps soon mount rides).resolve_left (by simpa using hidden)
        · rw [current, found]
          rfl
    | false =>
      cases mounted : player.isMounted with
      | false =>
        refine ⟨⟨fun _ _ other => ?_, fun _ => accounted⟩, fun _ => invariant⟩
        rw [mounted] at other
        cases other
      | true =>
        have even := accounted_dismount_mounted accounted mounted
        exact ⟨⟨fun after _ _ => even.mp after, fun keeps => even.mpr (keeps soon mounted)⟩,
          .of_unmounted rfl⟩

theorem untameMount_step (invariant : SpeedInvariant mounts player) (mountId : UInt8) :
    (Accounted mounts (player.untameMount mounts mountId) ↔
        KeepsAccount mounts player (.untameMount mountId)
          (player.untameMount mounts mountId)) ∧
      (Accounted mounts (player.untameMount mounts mountId) →
        SpeedInvariant mounts (player.untameMount mounts mountId)) := by
  have accounted := invariant.accounted
  unfold Player.untameMount
  cases found : getMountByID mounts mountId with
  | none =>
    refine ⟨⟨fun _ known => ?_, fun _ => accounted⟩, fun _ => invariant⟩
    rw [found] at known
    cases known
  | some mount =>
    dsimp only
    cases tamed : player.tamedMounts ((mountId - 1) / 31) with
    | none =>
      refine ⟨⟨fun _ _ known => ?_, fun _ => accounted⟩, fun _ => invariant⟩
      rw [tamed] at known
      cases known
    | some value =>
      dsimp only
      generalize Function.update player.tamedMounts _ _ = tamedMounts
      have forgetful : SpeedInvariant mounts { player with tamedMounts := tamedMounts } :=
        ⟨(accounted_congr player { player with tamedMounts := tamedMounts } rfl rfl
          fun _ => rfl).mpr accounted, invariant.known⟩
      split
      · rename_i current
        have currentMount : player.getCurrentMount = mountId := current
        split
        · rename_i mounted
          have even := accounted_dismount_mounted forgetful.accounted mounted
          have after : Accounted mounts (.setCurrentMount 0
              (.dismount mounts { player with tamedMounts := tamedMounts })) ↔
                0 ≤ speedOf mounts mountId := by
            rw [← currentMount]
            exact (accounted_setCurrentMount (isMounted_dismount _ _) 0).trans even
          refine ⟨⟨fun holds _ _ _ _ => after.mp holds, fun keeps => after.mpr ?_⟩,
            .of_unmounted rfl⟩
          exact keeps (by rw [found]; rfl) (by rw [tamed]; rfl) currentMount mounted
        · rename_i unmounted
          have still : player.isMounted = false := Bool.eq_false_iff.mpr unmounted
          have after := (accounted_setCurrentMount still 0).mpr forgetful.accounted
          refine ⟨⟨fun _ _ _ _ mounted => ?_, fun _ => after⟩, .of_unmounted still⟩
          exact absurd mounted unmounted
      · rename_i other
        exact ⟨⟨fun _ _ _ current => absurd current other, fun _ => forgetful.accounted⟩,
          fun _ => forgetful⟩

theorem getMountByID_of_client {clientId : UInt16} {mount : Mount}
    (found : getMountByClientID mounts clientId = some mount) :
    (getMountByID mounts mount.id).isSome := by
  have isMember := List.mem_of_find?_eq_some found
  exact List.find?_isSome.mpr ⟨mount, isMember, by simp⟩

theorem leftover_replaced (invariant : SpeedInvariant mounts player)
    (mounted : player.isMounted = true) (mount : Mount) :
    (player.replaceMount mounts mount).creature.leftover = mount.speed ∧
      (player.replaceMount mounts mount).isMounted = true ∧
        (player.replaceMount mounts mount).getCurrentMount = mount.id := by
  have before := (accounted_iff mounts player).mp invariant.accounted
  rw [mountedSpeed, if_pos mounted] at before
  obtain ⟨prevMount, found⟩ := Option.isSome_iff_exists.mp (invariant.known mounted)
  rw [speedOf_of_some found] at before
  unfold Player.replaceMount
  rw [found]
  refine ⟨?_, mounted, rfl⟩
  have sped := leftover_changeSpeed (mount.speed - prevMount.speed) player
  refine sped.trans ?_
  omega

theorem changeMount_step (invariant : SpeedInvariant mounts player) {account : Player.Account}
    {outfit worn : Outfit} {after : Player}
    (changed : player.changeMount mounts account outfit = some (after, worn)) :
    (worn.lookMount != 0) = after.isMounted ∧
      (Accounted mounts after ↔ ChangesEvenly mounts account outfit player) ∧
        (Accounted mounts after → SpeedInvariant mounts after) := by
  unfold Player.changeMount at changed
  split at changed
  · rename_i shows
    cases found : getMountByClientID mounts outfit.lookMount with
    | none =>
      rw [found] at changed
      cases changed
    | some mount =>
      rw [found] at changed
      dsimp only at changed
      split at changed
      · cases changed
      · rename_i owned
        have has : player.hasMount account mount = true := by simpa using owned
        cases mounted : player.isMounted with
        | true =>
          rw [mounted, if_pos rfl] at changed
          cases changed
          obtain ⟨left, still, current⟩ := leftover_replaced invariant mounted mount
          refine ⟨?_, ⟨fun holds _ => ?_, fun even => ?_⟩, fun holds => ⟨holds, fun _ => ?_⟩⟩
          · rw [still]
            simpa using shows
          · rw [if_neg shows]
            intro other same _
            cases found.symm.trans same
            rw [accounted_iff, left, mountedSpeed, if_pos still, current] at holds
            exact holds.symm
          · have speed := even mounted
            rw [if_neg shows] at speed
            rw [accounted_iff, left, mountedSpeed, if_pos still, current]
            exact (speed mount found has).symm
          · exact getMountByID_of_client found
        | false =>
          rw [mounted, if_neg (by decide)] at changed
          cases changed
          have holds := (accounted_setCurrentMount mounted mount.id).mpr invariant.accounted
          refine ⟨by rw [show (player.setCurrentMount mount.id).isMounted = false from mounted]
                     rfl, ⟨fun _ other => ?_, fun _ => holds⟩, .of_unmounted mounted⟩
          rw [mounted] at other
          cases other
  · rename_i hides
    have hidden : outfit.lookMount = 0 := not_not.mp hides
    cases mounted : player.isMounted with
    | true =>
      rw [mounted, if_pos rfl] at changed
      cases changed
      have even := accounted_dismount_mounted invariant.accounted mounted
      refine ⟨by rw [hidden]; rfl, ⟨fun holds _ => ?_, fun evenly => ?_⟩, .of_unmounted rfl⟩
      · rw [if_pos hidden]
        exact even.mp holds
      · have slow := evenly mounted
        rw [if_pos hidden] at slow
        exact even.mpr slow
    | false =>
      rw [mounted, if_neg (by decide)] at changed
      cases changed
      refine ⟨by rw [hidden, mounted]; rfl, ⟨fun _ other => ?_, fun _ => invariant.accounted⟩,
        fun _ => invariant⟩
      rw [mounted] at other
      cases other

theorem changesEvenly_of_refused {account : Player.Account} {outfit : Outfit}
    (refused : player.changeMount mounts account outfit = none) :
    ChangesEvenly mounts account outfit player := by
  intro mounted
  unfold Player.changeMount at refused
  split at refused
  · rename_i shows
    rw [if_neg shows]
    intro mount found has
    rw [found] at refused
    simp [has] at refused
  · simp at refused

theorem playerChangeOutfit_step (invariant : SpeedInvariant mounts player)
    (context : Player.OutfitContext) (outfit : Outfit) :
    (Accounted mounts (player.playerChangeOutfit mounts context outfit) ↔
        KeepsAccount mounts player (.playerChangeOutfit context outfit)
          (player.playerChangeOutfit mounts context outfit)) ∧
      (Accounted mounts (player.playerChangeOutfit mounts context outfit) →
        SpeedInvariant mounts (player.playerChangeOutfit mounts context outfit)) := by
  have accounted := invariant.accounted
  unfold Player.playerChangeOutfit
  cases allowed : context.allowChangeOutfit with
  | false =>
    refine ⟨⟨fun _ other => ?_, fun _ => accounted⟩, fun _ => invariant⟩
    rw [allowed] at other
    cases other
  | true =>
    rw [if_neg (by decide)]
    cases changed : player.changeMount mounts context.account outfit with
    | none =>
      exact ⟨⟨fun _ _ => changesEvenly_of_refused changed, fun _ => accounted⟩,
        fun _ => invariant⟩
    | some result =>
      obtain ⟨after, worn⟩ := result
      obtain ⟨shows, evenly, onwards⟩ := changeMount_step invariant changed
      -- the outfit is worn or a later check fails: the mount stays as it was changed
      have dressed : Accounted mounts { after with defaultOutfit := worn } ↔
          Accounted mounts after :=
        accounted_congr after { after with defaultOutfit := worn } rfl shows fun _ => rfl
      have kept : (Accounted mounts after ↔ KeepsAccount mounts player
          (.playerChangeOutfit context outfit) after) :=
        ⟨fun holds _ => evenly.mp holds, fun keeps => evenly.mpr (keeps allowed)⟩
      dsimp only
      repeat' split
      · exact ⟨kept, onwards⟩
      · exact ⟨kept, onwards⟩
      · exact ⟨kept, onwards⟩
      · refine ⟨dressed.trans kept, fun holds => ⟨holds, fun mounted => ?_⟩⟩
        exact (onwards (dressed.mp holds)).known (shows.symm.trans mounted)
      · exact ⟨kept, onwards⟩

theorem added_started_iff (now drawn walkDelay : Int) (condition : Condition)
    (creature : Creature) :
    (creature.addCondition now drawn walkDelay (some condition)).2 = .started ↔
      Starts creature condition := by
  unfold Creature.addCondition Starts
  dsimp only
  cases found : creature.getCondition condition.key with
  | some prevCond => simp
  | none =>
    unfold Condition.startCondition
    cases condition.conditionClass <;> simp

theorem addCondition_step (invariant : SpeedInvariant mounts player)
    (now drawn walkDelay : Int) (condition : Condition) :
    (Accounted mounts (player.addCondition mounts now drawn walkDelay (some condition)) ↔
        KeepsAccount mounts player (.addCondition now drawn walkDelay condition)
          (player.addCondition mounts now drawn walkDelay (some condition))) ∧
      (Accounted mounts (player.addCondition mounts now drawn walkDelay (some condition)) →
        SpeedInvariant mounts
          (player.addCondition mounts now drawn walkDelay (some condition))) := by
  have started := added_started_iff now drawn walkDelay condition player.creature
  have given := invariant.conditions
    (Creature.leftover_addCondition now drawn walkDelay (some condition) player.creature)
  unfold Player.addCondition
  generalize player.creature.addCondition now drawn walkDelay (some condition) = result at *
  dsimp only at started given ⊢
  split
  · rename_i dismounts
    obtain ⟨starts, outfit⟩ := dismounts
    have even := accounted_dismount_iff given.accounted
    refine ⟨⟨fun holds _ _ => even.mp holds, fun keeps => even.mpr ?_⟩, .of_unmounted rfl⟩
    exact keeps (by simpa using outfit) (started.mp starts)
  · rename_i stays
    refine ⟨⟨fun _ outfit starts => ?_, fun _ => given.accounted⟩, fun _ => given⟩
    exact absurd ⟨started.mpr starts, by simpa using outfit⟩ stays

end Steps

/-- Every operation keeps the account exactly under its condition. -/
theorem speed_step (mounts : List Mount) (player : Player) (op : SpeedOp)
    (invariant : SpeedInvariant mounts player) :
    (Accounted mounts ((speedSystem mounts).step player op) ↔
        KeepsAccount mounts player op ((speedSystem mounts).step player op)) ∧
      (Accounted mounts ((speedSystem mounts).step player op) →
        SpeedInvariant mounts ((speedSystem mounts).step player op)) := by
  cases op with
  | toggleMount context mount => exact toggleMount_step invariant context mount
  | untameMount mountId => exact untameMount_step invariant mountId
  | playerChangeOutfit context outfit => exact playerChangeOutfit_step invariant context outfit
  | addCondition now drawn walkDelay condition =>
    exact addCondition_step invariant now drawn walkDelay condition
  | removeCondition type force walkDelay =>
    have after := invariant.conditions
      (Creature.leftover_removeCondition type force walkDelay player.creature)
    exact ⟨⟨fun _ => trivial, fun _ => after.accounted⟩, fun _ => after⟩
  | removeConditionId type conditionId force walkDelay =>
    have after := invariant.conditions
      (Creature.leftover_removeConditionId type conditionId force walkDelay player.creature)
    exact ⟨⟨fun _ => trivial, fun _ => after.accounted⟩, fun _ => after⟩
  | removeConditionAt key force walkDelay =>
    have after := invariant.conditions
      (Creature.leftover_removeConditionAt key force walkDelay player.creature)
    exact ⟨⟨fun _ => trivial, fun _ => after.accounted⟩, fun _ => after⟩
  | executeConditions now interval =>
    have after := invariant.conditions
      (Creature.leftover_executeConditions now interval player.creature)
    exact ⟨⟨fun _ => trivial, fun _ => after.accounted⟩, fun _ => after⟩

/-! ## Runs -/

/-- A player to start with: unmounted, without conditions and at the base speed.
The current mount, the tamed mounts and the rest of the outfit are any. -/
def unmountedPlayer (outfit : Outfit) (currentMount : Option UInt8)
    (tamedMounts : UInt8 → Option UInt32) (lastToggleMount : Int) : Player where
  defaultOutfit := { outfit with lookMount := 0 }
  currentMount := currentMount
  tamedMounts := tamedMounts
  lastToggleMount := lastToggleMount

/-- The speed is accounted for after every step of the run. -/
abbrev AccountedThroughout (mounts : List Mount) (start : Player) (ops : List SpeedOp) : Prop :=
  (speedSystem mounts).Throughout (fun _ _ after => Accounted mounts after) start ops

/-- **Speed is accounted for exactly when every step keeps the account.** For
every table of mounts and every run from an unmounted player at the base speed. -/
theorem speed_accounted_iff (mounts : List Mount) (outfit : Outfit) (currentMount : Option UInt8)
    (tamedMounts : UInt8 → Option UInt32) (lastToggleMount : Int) (ops : List SpeedOp) :
    AccountedThroughout mounts
        (unmountedPlayer outfit currentMount tamedMounts lastToggleMount) ops ↔
      (speedSystem mounts).Throughout (KeepsAccount mounts)
        (unmountedPlayer outfit currentMount tamedMounts lastToggleMount) ops := by
  have initial : SpeedInvariant mounts
      (unmountedPlayer outfit currentMount tamedMounts lastToggleMount) :=
    .of_unmounted rfl rfl
  have legal : ∀ (start : Player) (ops : List SpeedOp), (speedSystem mounts).Legal start ops := by
    intro start ops
    induction ops generalizing start with
    | nil => trivial
    | cons op ops ih => exact ⟨trivial, ih _⟩
  exact System.Throughout.iff_of_invariant
    (fun before op invariant _ => speed_step mounts before op invariant) initial (legal _ ops)

/-- An unmounted player whose current mount is fast is slowed by a change of
looks: a condition of an outfit dismounts whether or not one is mounted. -/
theorem disguise_slows_unmounted_player :
    ¬ AccountedThroughout [{ id := 1, clientId := 368, speed := 20 }]
      (unmountedPlayer {} (some 1) (fun _ => none) 0)
      [.addCondition 0 0 0 (Condition.outfit (-1) .outfit 10000 false 0 false)] := by
  decide

end Otserv.Speed
