import Otserv.Combat.Health

/-!
# A hit is applied once

A hit of a monster, or of nobody, should take a magnitude once: first from the mana, if the
target has a mana shield, and what the handlers make of the rest from the health
(`Hit.AppliedOnce`).

After the handlers `combatChangeHealth` calls itself, and begins from the top: the value that the
handlers have returned is the magnitude only when there is no attacker, and otherwise the power
of the spell is computed again. It does not call the handlers when the origin is `ORIGIN_NONE`
or the mana shield has taken everything (`Hit.appliedOnce_iff`).
-/

namespace Otserv.Combat

/-! ## One call -/

variable (attacker : Option Monster)

/-- The magnitude that a call begins with. -/
def callMagnitude (damage : CombatDamage) : Nat :=
  match attacker with
  | none => damage.value.natAbs
  | some monster =>
    (if damage.origin = .return_ then damage.value.natAbs
      else monster.spellPower damage.spellName damage.type) *
      (if monster.hasMeleeRage ∧ damage.origin = .melee then 2 else 1) *
      (if monster.hasRage then 2 else 1)

namespace Target

variable (target : Target)

/-- The mana that the shield takes of a magnitude. -/
def absorbed (type : CombatType) (mana : UInt32) (magnitude : Nat) : Nat :=
  if target.isPlayer ∧ target.hasManaShield ∧ type ≠ .undefinedDamage then
    min mana.toNat magnitude
  else 0

/-- The mana once the shield has taken something. -/
def manaAfter (mana : UInt32) (taken : Nat) : UInt32 :=
  if taken = 0 then mana else target.drainMana mana taken

/-- The health that a magnitude takes: none if a handler prevents the death. -/
def lost (health : Int) (magnitude : Nat) : Int :=
  if health ≤ magnitude ∧ target.prepareDeath.any (!·) then 0 else min health magnitude

end Target

variable (target : Target)

/-- Mana that is below `2 ^ 31` and not infinite is drained as asked. -/
theorem Target.toNat_drainMana (finite : target.hasInfiniteMana = false)
    {mana : UInt32} (small : mana.toNat < 2 ^ 31) {taken : Nat} (enough : taken ≤ mana.toNat) :
    (target.drainMana mana taken).toNat = mana.toNat - taken := by
  have toInt32_eq : ∀ value : Int, -2 ^ 31 ≤ value → value < 2 ^ 31 → toInt32 value = value := by
    intro value low high
    simp only [toInt32, Int.bmod]
    split <;> omega
  rw [drainMana, toInt32_eq taken (by omega) (by omega), toInt32_eq _ (by omega) (by omega),
    changeMana, finite, if_neg Bool.false_ne_true, if_neg (by omega),
    toInt32_eq _ (by omega) (by omega), toUInt32, UInt32.toNat_ofNat']
  omega

theorem hitValue_eq (monster : Monster) (damage : CombatDamage) :
    monster.hitValue { damage with value := |damage.value| } =
      callMagnitude (some monster) damage := by
  have given : |damage.value| = damage.value.natAbs := Int.abs_eq_natAbs _
  simp only [Monster.hitValue, callMagnitude, ne_eq, ite_not, given]
  split <;> split <;> split <;> simp

theorem takeHealth_spec {vitals : Vitals} (living : 0 < vitals.health)
    (damage : CombatDamage) (magnitude : Nat) (isValue : damage.value = magnitude) :
    (takeHealth target vitals damage).vitals =
        { vitals with health := vitals.health - target.lost vitals.health magnitude } ∧
      (takeHealth target vitals damage).calls = [] := by
  have drained : ∀ taken : Nat, 0 < taken → (taken : Int) ≤ vitals.health →
      target.changeHealth vitals.health (-taken) = vitals.health - taken := by
    intro taken positive below
    rw [Target.changeHealth, if_neg (by omega), max_eq_right (by omega)]
    omega
  unfold takeHealth Target.lost
  by_cases dies : vitals.health ≤ magnitude
  · rw [isValue, if_pos dies]
    dsimp only
    rw [if_neg (by omega), min_eq_left dies]
    split
    · next prevented =>
      rw [if_pos ⟨dies, prevented.2⟩]
      exact ⟨by simp, rfl⟩
    · next notPrevented =>
      rw [if_neg fun both => notPrevented ⟨le_refl _, both.2⟩]
      have taken := drained vitals.health.toNat (by omega) (by omega)
      rw [Int.toNat_of_nonneg (by omega)] at taken
      exact ⟨by rw [taken], rfl⟩
  · rw [isValue, if_neg dies]
    have survives : ¬(vitals.health ≤ magnitude ∧ target.prepareDeath.any (!·) = true) :=
      fun both => dies both.1
    simp only [isValue, min_eq_right (by omega : (magnitude : Int) ≤ vitals.health), ge_iff_le,
      survives, if_false]
    by_cases isZero : (magnitude : Int) = 0
    · rw [if_pos isZero, isZero, Int.sub_zero]
      exact ⟨rfl, rfl⟩
    · rw [if_neg isZero, drained magnitude (by omega) (by omega)]
      exact ⟨rfl, rfl⟩

theorem shieldMana_spec (noManaChange : target.manaChange = [])
    (vitals : Vitals) (damage : CombatDamage) {magnitude : Nat} (positive : 0 < magnitude)
    (isValue : damage.value = magnitude) :
    shieldMana target vitals damage =
      ({ vitals with
          mana := target.manaAfter vitals.mana
            (target.absorbed damage.type vitals.mana magnitude) },
        { damage with
          value := ((magnitude - target.absorbed damage.type vitals.mana magnitude : Nat) : Int) },
        false) := by
  have unchanged : (if damage.origin ≠ .none then
      target.manaChange.foldl executeManaChange damage else damage) = damage := by
    rw [noManaChange, List.foldl_nil, ite_self]
  have same : { damage with value := (magnitude : Int) } = damage := by rw [← isValue]
  unfold shieldMana Target.absorbed Target.manaAfter
  rw [unchanged]
  by_cases shields : target.isPlayer ∧ target.hasManaShield ∧ damage.type ≠ .undefinedDamage
  · by_cases empty : min vitals.mana.toNat magnitude = 0
    · have nothing : min (vitals.mana.toNat : Int) damage.value = 0 := by omega
      rw [if_neg fun all => all.2.2.2 nothing, if_pos shields, empty, if_pos rfl, Nat.sub_zero,
        same]
    · have something : min (vitals.mana.toNat : Int) damage.value ≠ 0 := by omega
      have taken : min (vitals.mana.toNat : Int) damage.value =
          ((min vitals.mana.toNat magnitude : Nat) : Int) := by omega
      have left : max 0 (damage.value - min (vitals.mana.toNat : Int) damage.value) =
          ((magnitude - min vitals.mana.toNat magnitude : Nat) : Int) := by omega
      rw [if_pos ⟨shields.1, shields.2.1, shields.2.2, something⟩, if_pos shields, if_neg empty]
      dsimp only
      rw [if_neg (by omega), left, taken]
  · rw [if_neg fun all => shields ⟨all.1, all.2.1, all.2.2.1⟩, if_neg shields, if_pos rfl,
      Nat.sub_zero, same]

theorem attack_eq (target : Target) (damage : CombatDamage) :
    attack (attacker.map .monster) target damage =
      .ok { damage with value := (callMagnitude attacker damage : Int) } := by
  cases attacker with
  | none =>
    rw [callMagnitude, ← Int.abs_eq_natAbs]
    rfl
  | some monster =>
    rw [← hitValue_eq]
    rfl

/-- **A call without handlers** takes its magnitude once. -/
theorem call_spec {target : Target} {vitals : Vitals}
    {damage : CombatDamage} (attackable : target.isAttackable = true) (living : 0 < vitals.health)
    (noManaChange : target.manaChange = []) (nonpos : damage.value ≤ 0)
    (noHandlers : damage.origin = .none ∨ target.healthChange = []) :
    let magnitude := callMagnitude attacker damage
    let taken := target.absorbed damage.type vitals.mana magnitude
    (combatChangeHealth (attacker.map .monster) target vitals damage).vitals =
        ⟨vitals.health - target.lost vitals.health (magnitude - taken),
          target.manaAfter vitals.mana taken⟩ ∧
      (combatChangeHealth (attacker.map .monster) target vitals damage).calls = [] := by
  intro magnitude taken
  have spared : target.lost vitals.health 0 = 0 := by
    rw [Target.lost]
    split
    · rfl
    · exact min_eq_right (by omega)
  have notHandled : ¬(damage.origin ≠ .none ∧ target.healthChange ≠ []) := fun both =>
    noHandlers.elim both.1 both.2
  rw [combatChangeHealth, if_neg (by omega), if_neg (by simp [attackable]), attack_eq]
  dsimp only
  by_cases isZero : magnitude = 0
  · have nothing : taken = 0 := by
      show Target.absorbed _ _ _ magnitude = 0
      rw [isZero, Target.absorbed]
      split <;> simp
    have noHit : ((callMagnitude attacker damage : Nat) : Int) = 0 := by
      omega
    rw [if_pos noHit, nothing, isZero, Nat.sub_zero, spared, Int.sub_zero, Target.manaAfter,
      if_pos rfl]
    exact ⟨rfl, rfl⟩
  · have isHit : ((callMagnitude attacker damage : Nat) : Int) ≠ 0 := by
      omega
    rw [if_neg isHit, shieldMana_spec target noManaChange vitals _ (by omega) rfl]
    by_cases absorbed : magnitude - taken = 0
    · have nothing : ((magnitude - taken : Nat) : Int) = 0 := by omega
      rw [if_pos (.inr nothing), absorbed, spared, Int.sub_zero]
      exact ⟨rfl, rfl⟩
    · have something : ¬(false = true ∨ ((magnitude - taken : Nat) : Int) = 0) := by
        simpa using absorbed
      rw [if_neg something, dif_neg notHandled]
      exact takeHealth_spec target (by exact living) _ _ rfl

/-! ## Handlers -/

/-- A handler that changes the magnitude only. -/
def HealthChange.ofMagnitude (handler : Nat → Nat) : HealthChange := fun damage =>
  some (handler damage.value.natAbs, damage.type, damage.critical)

variable (handlers : List (Nat → Nat))

/-- What handlers make of a magnitude, one after the other. -/
def composed (magnitude : Nat) : Nat :=
  handlers.foldl (fun magnitude handler => handler magnitude) magnitude

theorem foldl_executeHealthChange : ∀ damage : CombatDamage,
    damage.type ≠ .healing → handlers ≠ [] →
      (handlers.map HealthChange.ofMagnitude).foldl executeHealthChange damage =
        { damage with value := -(composed handlers damage.value.natAbs : Int) } := by
  induction handlers with
  | nil => exact fun _ _ nonempty => absurd rfl nonempty
  | cons handler rest ih =>
    intro damage isDamage _
    have first : executeHealthChange damage (.ofMagnitude handler) =
        { damage with value := -(handler damage.value.natAbs : Int) } := by
      simp only [executeHealthChange, HealthChange.ofMagnitude, ne_eq, isDamage,
        not_false_eq_true, if_true, abs_of_nonneg (Int.natCast_nonneg _)]
    rw [List.map_cons, List.foldl_cons, first]
    by_cases last : rest = []
    · rw [last]
      rfl
    · refine (ih _ (by exact isDamage) last).trans ?_
      simp only [Int.natAbs_neg, Int.natAbs_natCast]
      rfl

/-- **A call with handlers** lets the shield take mana, calls each handler once, and then calls
the function again with what they return. -/
theorem handled_call_spec {target : Target} {vitals : Vitals}
    {damage : CombatDamage} {handlers : List (Nat → Nat)}
    (attackable : target.isAttackable = true) (living : 0 < vitals.health)
    (noManaChange : target.manaChange = []) (nonpos : damage.value ≤ 0)
    (isDamage : damage.type ≠ .healing) (hasOrigin : damage.origin ≠ .none)
    (isHandlers : target.healthChange = handlers.map .ofMagnitude) (nonempty : handlers ≠ []) :
    let magnitude := callMagnitude attacker damage
    let taken := target.absorbed damage.type vitals.mana magnitude
    let mana := target.manaAfter vitals.mana taken
    let rest := composed handlers (magnitude - taken)
    let again : CombatDamage := { damage with value := -(rest : Int), origin := .none }
    let last := callMagnitude attacker again
    let takenAgain := target.absorbed damage.type mana last
    let outcome := combatChangeHealth (attacker.map .monster) target vitals damage
    if magnitude - taken = 0 then
      outcome.vitals = ⟨vitals.health, mana⟩ ∧ outcome.calls = []
    else
      outcome.vitals = ⟨vitals.health - target.lost vitals.health (last - takenAgain),
          target.manaAfter mana takenAgain⟩ ∧
        outcome.calls = List.range handlers.length := by
  intro magnitude taken mana rest again last takenAgain outcome
  have isOutcome : outcome = combatChangeHealth (attacker.map .monster) target vitals damage := rfl
  have handled : damage.origin ≠ .none ∧ target.healthChange ≠ [] := by
    refine ⟨hasOrigin, ?_⟩
    rw [isHandlers]
    simpa using nonempty
  rw [combatChangeHealth, if_neg (by omega), if_neg (by simp [attackable]), attack_eq] at isOutcome
  dsimp only at isOutcome
  by_cases isZero : magnitude = 0
  · have nothing : taken = 0 := by
      show Target.absorbed _ _ _ magnitude = 0
      rw [isZero, Target.absorbed]
      split <;> simp
    have noHit : ((callMagnitude attacker damage : Nat) : Int) = 0 := by
      omega
    have sameMana : mana = vitals.mana := by
      show target.manaAfter vitals.mana taken = vitals.mana
      rw [nothing, Target.manaAfter, if_pos rfl]
    rw [if_pos noHit] at isOutcome
    rw [if_pos (by omega), isOutcome, sameMana]
    exact ⟨rfl, rfl⟩
  · have isHit : ((callMagnitude attacker damage : Nat) : Int) ≠ 0 := by
      omega
    rw [if_neg isHit, shieldMana_spec target noManaChange vitals _ (by omega) rfl] at isOutcome
    by_cases absorbed : magnitude - taken = 0
    · have nothing : ((magnitude - taken : Nat) : Int) = 0 := by omega
      rw [if_pos (.inr nothing)] at isOutcome
      rw [if_pos absorbed, isOutcome]
      exact ⟨rfl, rfl⟩
    · have something : ¬(false = true ∨ ((magnitude - taken : Nat) : Int) = 0) := by
        simpa using absorbed
      rw [if_neg something, dif_pos handled, isHandlers,
        foldl_executeHealthChange handlers _ (by exact isDamage) nonempty] at isOutcome
      have second := @call_spec attacker target ⟨vitals.health, mana⟩ again attackable living
        noManaChange (by show -(rest : Int) ≤ 0; omega) (.inl rfl)
      rw [if_neg absorbed, isOutcome, List.length_map]
      refine ⟨second.1, ?_⟩
      exact (congrArg (List.range handlers.length ++ ·) second.2).trans (List.append_nil _)

/-! ## Hits -/

/-- A hit on a living target, with handlers that change the magnitude only. -/
structure Hit where
  attacker : Option Monster
  target : Target
  vitals : Vitals
  damage : CombatDamage
  handlers : List (Nat → Nat)
  attackable : target.isAttackable = true
  living : 0 < vitals.health
  noManaChange : target.manaChange = []
  isHandlers : target.healthChange = handlers.map .ofMagnitude
  isDamage : damage.type ≠ .healing
  nonpos : damage.value ≤ 0

namespace Hit

variable (hit : Hit)

/-- The hit is made. -/
def outcome : Outcome :=
  combatChangeHealth (hit.attacker.map .monster) hit.target hit.vitals hit.damage

/-- The magnitude: what is given, or the power of the spell, doubled for a rage. -/
def magnitude : Nat := callMagnitude hit.attacker hit.damage

/-- What a mana shield should take of it. -/
def manaTaken : Nat :=
  if hit.target.isPlayer ∧ hit.target.hasManaShield then
    min hit.vitals.mana.toNat hit.magnitude
  else 0

/-- What the handlers make of the rest. -/
def healthTaken : Nat := composed hit.handlers (hit.magnitude - hit.manaTaken)

/-- **The hit is applied once**: to the mana, then to the health, and each handler is called
once. -/
structure AppliedOnce : Prop where
  mana : hit.outcome.vitals.mana.toNat = hit.vitals.mana.toNat - hit.manaTaken
  health : hit.outcome.vitals.health = hit.vitals.health - min hit.vitals.health hit.healthTaken
  calls : hit.outcome.calls = List.range hit.handlers.length

/-- The magnitude in the end: after the handlers, a monster's spell has its power again. -/
def finalMagnitude : Nat :=
  match hit.attacker with
  | none => hit.healthTaken
  | some monster =>
    if hit.handlers = [] then hit.healthTaken
    else
      monster.spellPower hit.damage.spellName hit.damage.type *
        (if monster.hasRage then 2 else 1)

/-- The player's mana is drained as it should be. -/
def Drains : Prop :=
  hit.manaTaken = 0 ∨ (hit.target.drainMana hit.vitals.mana hit.manaTaken).toNat =
    hit.vitals.mana.toNat - hit.manaTaken

/-- What was not drained is drained when the function is called again, and the rest of the
final magnitude takes the health that the handlers' would. -/
def DrainsLater : Prop :=
  let mana := hit.target.drainMana hit.vitals.mana hit.manaTaken
  let taken := min mana.toNat hit.finalMagnitude
  hit.handlers ≠ [] ∧ 0 < hit.finalMagnitude ∧ (hit.target.drainMana mana taken).toNat = 0 ∧
    hit.target.lost hit.vitals.health (hit.finalMagnitude - taken) =
      min hit.vitals.health hit.healthTaken

/-- The hits that are applied as they should be. -/
structure AsClaimed : Prop where
  /-- The shield takes mana of any damage but `COMBAT_UNDEFINEDDAMAGE`. -/
  shield : hit.damage.type = .undefinedDamage → hit.manaTaken = 0
  /-- There are no handlers, or they are called. -/
  called : hit.handlers = [] ∨ hit.damage.origin ≠ .none ∧ hit.manaTaken < hit.magnitude
  /-- The final magnitude takes what the handlers' does. -/
  final : hit.Drains ∧ hit.target.lost hit.vitals.health hit.finalMagnitude =
      min hit.vitals.health hit.healthTaken ∨
    ¬hit.Drains ∧ hit.DrainsLater

theorem manaTaken_le_mana : hit.manaTaken ≤ hit.vitals.mana.toNat := by
  unfold manaTaken
  split
  · exact Nat.min_le_left _ _
  · exact Nat.zero_le _

/-- The shield takes what it should. -/
theorem absorbed_eq (shield : hit.damage.type = .undefinedDamage → hit.manaTaken = 0) :
    hit.target.absorbed hit.damage.type hit.vitals.mana
      (callMagnitude hit.attacker hit.damage) = hit.manaTaken := by
  by_cases isUndefined : hit.damage.type = .undefinedDamage
  · rw [Target.absorbed, if_neg fun all => all.2.2 isUndefined, shield isUndefined]
  · refine if_congr ?_ rfl rfl
    rw [and_iff_left isUndefined]

theorem toNat_manaAfter :
    (hit.target.manaAfter hit.vitals.mana hit.manaTaken).toNat =
      hit.vitals.mana.toNat - hit.manaTaken ↔ hit.Drains := by
  unfold Target.manaAfter Drains
  split
  · next nothing =>
    rw [nothing]
    exact iff_of_true rfl (.inl rfl)
  · next something => exact (or_iff_right something).symm

theorem finalMagnitude_eq (nonempty : hit.handlers ≠ []) :
    callMagnitude hit.attacker
        { hit.damage with value := -(hit.healthTaken : Int), origin := .none } =
      hit.finalMagnitude := by
  unfold callMagnitude finalMagnitude
  cases hit.attacker with
  | none => simp
  | some monster => simp [nonempty]

theorem finalMagnitude_of_nil (empty : hit.handlers = []) :
    hit.finalMagnitude = hit.magnitude - hit.manaTaken := by
  have same : hit.healthTaken = hit.magnitude - hit.manaTaken := by
    rw [healthTaken, empty]
    rfl
  unfold finalMagnitude
  split
  · exact same
  · rw [if_pos empty, same]

theorem appliedOnce_iff_of_unhandled
    (shield : hit.damage.type = .undefinedDamage → hit.manaTaken = 0)
    (unhandled : hit.damage.origin = .none ∨ hit.handlers = []) :
    hit.AppliedOnce ↔ hit.AsClaimed := by
  have spec := call_spec hit.attacker hit.attackable hit.living hit.noManaChange hit.nonpos
    (unhandled.imp_right fun empty => by rw [hit.isHandlers, empty]; rfl)
  dsimp only at spec
  rw [hit.absorbed_eq shield] at spec
  obtain ⟨vitals, calls⟩ := spec
  have mana : hit.outcome.vitals.mana.toNat = hit.vitals.mana.toNat - hit.manaTaken ↔
      hit.Drains := by
    rw [← hit.toNat_manaAfter, outcome, vitals]
  constructor
  · intro applied
    have empty : hit.handlers = [] := by
      have lengths := congrArg List.length (calls.symm.trans applied.calls)
      simpa using lengths.symm
    refine ⟨shield, .inl empty, .inl ⟨mana.mp applied.mana, ?_⟩⟩
    have health := applied.health
    rw [outcome, vitals] at health
    rw [hit.finalMagnitude_of_nil empty]
    exact sub_right_injective health
  · intro claimed
    have empty : hit.handlers = [] := claimed.called.elim id fun called =>
      unhandled.resolve_left called.1
    rcases claimed.final with ⟨drains, final⟩ | ⟨-, later⟩
    · rw [hit.finalMagnitude_of_nil empty] at final
      refine ⟨mana.mpr drains, ?_, ?_⟩
      · rw [← final, outcome, vitals]
        rfl
      · rw [outcome, calls, empty]
        rfl
    · exact absurd empty later.1

theorem appliedOnce_iff_of_handled (shield : hit.damage.type = .undefinedDamage → hit.manaTaken = 0)
    (hasOrigin : hit.damage.origin ≠ .none) (nonempty : hit.handlers ≠ []) :
    hit.AppliedOnce ↔ hit.AsClaimed := by
  have spec := handled_call_spec hit.attacker hit.attackable hit.living hit.noManaChange
    hit.nonpos hit.isDamage hasOrigin hit.isHandlers nonempty
  dsimp only at spec
  have isMagnitude : callMagnitude hit.attacker hit.damage = hit.magnitude := rfl
  rw [hit.absorbed_eq shield, isMagnitude] at spec
  by_cases all : hit.magnitude - hit.manaTaken = 0
  · -- The shield takes everything, and the handlers are not called.
    rw [if_pos all] at spec
    have notBelow : ¬hit.manaTaken < hit.magnitude := by omega
    constructor
    · intro applied
      have lengths := congrArg List.length (spec.2.symm.trans applied.calls)
      rw [List.length_range] at lengths
      exact absurd (List.length_eq_zero_iff.mp lengths.symm) nonempty
    · exact fun claimed => absurd claimed.called (not_or.mpr ⟨nonempty, fun both => notBelow both.2⟩)
  have below : hit.manaTaken < hit.magnitude := by omega
  rw [if_neg all] at spec
  change hit.outcome.vitals = _ ∧ hit.outcome.calls = _ at spec
  have isFinal : callMagnitude hit.attacker
      { hit.damage with
        value := -(composed hit.handlers (hit.magnitude - hit.manaTaken) : Int)
        origin := .none } = hit.finalMagnitude := hit.finalMagnitude_eq nonempty
  rw [isFinal] at spec
  obtain ⟨vitals, calls⟩ := spec
  have isApplied : hit.AppliedOnce ↔
      hit.outcome.vitals.mana.toNat = hit.vitals.mana.toNat - hit.manaTaken ∧
        hit.outcome.vitals.health =
          hit.vitals.health - min hit.vitals.health hit.healthTaken :=
    ⟨fun applied => ⟨applied.mana, applied.health⟩, fun both => ⟨both.1, both.2, calls⟩⟩
  have isClaimed : hit.AsClaimed ↔ hit.Drains ∧
      hit.target.lost hit.vitals.health hit.finalMagnitude =
        min hit.vitals.health hit.healthTaken ∨ ¬hit.Drains ∧ hit.DrainsLater :=
    ⟨AsClaimed.final, fun final => ⟨shield, .inr ⟨hasOrigin, below⟩, final⟩⟩
  rw [isApplied, isClaimed, vitals]
  -- Whether the shield works, and then it takes all the mana there is.
  by_cases shields : hit.target.isPlayer ∧ hit.target.hasManaShield ∧
      hit.damage.type ≠ .undefinedDamage
  · have allMana : hit.manaTaken = hit.vitals.mana.toNat := by
      have least : hit.manaTaken = min hit.vitals.mana.toNat hit.magnitude :=
        if_pos ⟨shields.1, shields.2.1⟩
      omega
    by_cases drains : hit.Drains
    · have noMana : (hit.target.manaAfter hit.vitals.mana hit.manaTaken).toNat = 0 := by
        rw [hit.toNat_manaAfter.mpr drains, allMana, Nat.sub_self]
      have nothing : hit.target.absorbed hit.damage.type
          (hit.target.manaAfter hit.vitals.mana hit.manaTaken) hit.finalMagnitude = 0 := by
        rw [Target.absorbed, if_pos shields, noMana, Nat.zero_min]
      rw [nothing, Target.manaAfter, if_pos rfl, noMana, allMana, Nat.sub_self, Nat.sub_zero]
      simp only [drains, true_and, not_true_eq_false, false_and, or_false]
      exact sub_right_inj
    · have something : hit.manaTaken ≠ 0 := fun none => drains (.inl none)
      have isMana : hit.target.manaAfter hit.vitals.mana hit.manaTaken =
          hit.target.drainMana hit.vitals.mana hit.manaTaken := if_neg something
      have left : (hit.target.drainMana hit.vitals.mana hit.manaTaken).toNat ≠ 0 := by
        intro none
        exact drains (.inr (by rw [none, allMana, Nat.sub_self]))
      rw [isMana, Target.absorbed, if_pos shields, allMana, Nat.sub_self, ← allMana,
        Target.manaAfter]
      simp only [drains, false_and, not_false_eq_true, true_and, false_or, DrainsLater]
      by_cases none : hit.finalMagnitude = 0
      · simp [none, left]
      · rw [if_neg (by omega), sub_right_inj]
        have positive : 0 < hit.finalMagnitude := Nat.pos_of_ne_zero none
        simp only [nonempty, positive, ne_eq, not_false_eq_true, true_and]
  · have nothing : hit.manaTaken = 0 := by
      by_cases isShield : hit.target.isPlayer ∧ hit.target.hasManaShield
      · refine shield (Decidable.not_not.mp fun defined => shields ?_)
        exact ⟨isShield.1, isShield.2, defined⟩
      · exact if_neg isShield
    have drains : hit.Drains := .inl nothing
    rw [Target.absorbed, if_neg shields, nothing, Target.manaAfter, Target.manaAfter, if_pos rfl,
      if_pos rfl, Nat.sub_zero, Nat.sub_zero, sub_right_inj]
    simp only [drains, true_and, not_true_eq_false, false_and, or_false]

theorem not_appliedOnce_of_undefined (isUndefined : hit.damage.type = .undefinedDamage)
    (something : hit.manaTaken ≠ 0) : ¬hit.AppliedOnce := by
  have nothing : ∀ mana magnitude, hit.target.absorbed hit.damage.type mana magnitude = 0 :=
    fun _ _ => if_neg fun all => all.2.2 isUndefined
  have sameMana : hit.outcome.vitals.mana = hit.vitals.mana := by
    by_cases handled : hit.damage.origin ≠ .none ∧ hit.handlers ≠ []
    · have spec := handled_call_spec hit.attacker hit.attackable hit.living hit.noManaChange
        hit.nonpos hit.isDamage handled.1 hit.isHandlers handled.2
      simp only [nothing, Target.manaAfter, if_true] at spec
      split at spec
      · rw [outcome, spec.1]
      · rw [outcome, spec.1]
    · have unhandled : hit.damage.origin = .none ∨ hit.target.healthChange = [] := by
        rw [hit.isHandlers, List.map_eq_nil_iff]
        exact (not_and_or.mp handled).imp Decidable.not_not.mp not_not.mp
      have spec := call_spec hit.attacker hit.attackable hit.living hit.noManaChange hit.nonpos
        unhandled
      simp only [nothing, Target.manaAfter, if_true] at spec
      rw [outcome, spec.1]
  intro applied
  have mana := applied.mana
  rw [sameMana] at mana
  have below := hit.manaTaken_le_mana
  omega

/-- **A hit is applied once** exactly where `AsClaimed` holds. -/
theorem appliedOnce_iff : hit.AppliedOnce ↔ hit.AsClaimed := by
  by_cases shield : hit.damage.type = .undefinedDamage → hit.manaTaken = 0
  · by_cases handled : hit.damage.origin ≠ .none ∧ hit.handlers ≠ []
    · exact hit.appliedOnce_iff_of_handled shield handled.1 handled.2
    · exact hit.appliedOnce_iff_of_unhandled shield
        ((not_and_or.mp handled).imp Decidable.not_not.mp not_not.mp)
  · obtain ⟨isUndefined, something⟩ := Classical.not_imp.mp shield
    exact iff_of_false (hit.not_appliedOnce_of_undefined isUndefined something)
      fun claimed => shield claimed.shield

/-- With mana below `2 ^ 31` that is not infinite, the shield drains what it should. -/
theorem asClaimed_iff_of_small (finite : hit.target.hasInfiniteMana = false)
    (small : hit.vitals.mana.toNat < 2 ^ 31) :
    hit.AsClaimed ↔ (hit.damage.type = .undefinedDamage → hit.manaTaken = 0) ∧
      (hit.handlers = [] ∨ hit.damage.origin ≠ .none ∧ hit.manaTaken < hit.magnitude) ∧
        hit.target.lost hit.vitals.health hit.finalMagnitude =
          min hit.vitals.health hit.healthTaken := by
  have drains : hit.Drains :=
    .inr (hit.target.toNat_drainMana finite small hit.manaTaken_le_mana)
  constructor
  · intro claimed
    refine ⟨claimed.shield, claimed.called, ?_⟩
    exact claimed.final.elim And.right fun later => absurd drains later.1
  · rintro ⟨shield, called, final⟩
    exact ⟨shield, called, .inl ⟨drains, final⟩⟩

end Hit

/-- A hit of a spell, on a target with a handler that halves the damage. -/
def halved : Hit where
  attacker := some { spellPower := fun _ _ => 50 }
  target := { maxHealth := 1000, healthChange := [.ofMagnitude (· / 2)] }
  vitals := { health := 1000 }
  damage := { type := .fireDamage, value := -10, origin := .spell }
  handlers := [(· / 2)]
  attackable := rfl
  living := by decide
  noManaChange := rfl
  isHandlers := rfl
  isDamage := by decide
  nonpos := by decide

/-- What the handler returns is not what the target loses. -/
theorem handler_ignored : ¬halved.AppliedOnce ∧ halved.healthTaken = 25 ∧
    halved.outcome.vitals.health = 950 := by
  have spec := handled_call_spec halved.attacker halved.attackable halved.living
    halved.noManaChange halved.nonpos halved.isDamage (by decide) halved.isHandlers (by decide)
  have health : halved.outcome.vitals.health = 950 := congrArg Vitals.health spec.1
  refine ⟨fun applied => ?_, by decide, health⟩
  have should := applied.health
  rw [health] at should
  exact absurd should (by decide)

end Otserv.Combat
