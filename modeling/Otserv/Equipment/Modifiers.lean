import Otserv.Equipment.Abilities
import Otserv.Foundation.Runs

/-!
# The modifiers of what is worn

The modifiers of a player should be those of the items in the slots whose
ability is enabled, as they were fixed when each was equipped (`Combined`), and
be gone when everything is taken off.

Taking an item off clears all bits of its suppressions, also those that another
item sets, and takes the percentages of the base the player has by then
(`modifiers_combined_iff`).
-/

namespace Otserv.Equipment

open Otserv.Foundation Otserv.Conditions
open Function (update update_of_ne update_self)

/-- An item that is worn, and what its percentages came to when it was equipped. -/
structure Worn where
  item : ItemType
  percent : Stat → Int

/-- The abilities of an item; without any it gives nothing. -/
def ItemType.given (item : ItemType) : Abilities := item.abilities.getD {}

namespace Worn

def skill (skill : Skill) (worn : Worn) : Int := worn.item.given.skills skill

def specialSkill (skill : SpecialSkill) (worn : Worn) : Int := worn.item.given.specialSkills skill

def stat (stat : Stat) (worn : Worn) : Int := worn.item.given.stats stat + worn.percent stat

def suppressions (worn : Worn) : UInt32 := worn.item.given.conditionSuppressions

end Worn

/-- A player, and what is worn in the slots whose ability is enabled. -/
structure Wardrobe where
  player : Player
  worn : Slot → Option Worn := fun _ => none

inductive EquipOp where
  | equip (now walkDelay : Int) (moveEvent : MoveEvent) (item : ItemType) (slot : Slot)
      (isCheck : Bool)
  | deEquip (walkDelay : Int) (item : ItemType) (slot : Slot)
  | changeLevel (level : UInt32) (healthMax manaMax : Int)

/-- Equipping and de-equipping of items that do not transform, where a slot is
de-equipped with the item it was equipped with. -/
def wardrobe : System Wardrobe EquipOp where
  legal state
    | .equip _ _ _ item _ _ => item.transformEquipTo = 0 ∧ item.transformDeEquipTo = 0
    | .deEquip _ item slot => ∀ worn, state.worn slot = some worn → worn.item = item
    | .changeLevel _ _ _ => True
  step state
    | .equip now walkDelay moveEvent item slot isCheck =>
      let player := (state.player.equipItem now walkDelay moveEvent item slot isCheck).2
      { player := player
        worn :=
          if !state.player.isItemAbilityEnabled slot && player.isItemAbilityEnabled slot then
            update state.worn slot
              (some ⟨item, state.player.percentPart item.given⟩)
          else state.worn }
    | .deEquip walkDelay item slot =>
      { player := (state.player.deEquipItem walkDelay item slot).2
        worn := update state.worn slot none }
    | .changeLevel level healthMax manaMax =>
      { state with player := state.player.changeLevel level healthMax manaMax }

/-! ## The account of the modifiers -/

/-- The sum of the parts of what is worn. -/
abbrev sumWorn (part : Worn → Int) (worn : Slot → Option Worn) : Int :=
  combine (· + ·) 0 part worn

/-- The union of what the worn items suppress. -/
abbrev unionWorn (worn : Slot → Option Worn) : UInt32 :=
  combine (· ||| ·) 0 Worn.suppressions worn

/-- The union of what the items worn in the other slots suppress. -/
abbrev unionOthers (slot : Slot) (worn : Slot → Option Worn) : UInt32 :=
  combineOthers (· ||| ·) 0 slot Worn.suppressions worn

/-- What is worn in a slot grants a condition of the type. -/
def grantsAt (worn : Slot → Option Worn) (slot : Slot) (type : ConditionType) : Bool :=
  (worn slot).any fun worn => worn.item.given.grants type

/-- The modifiers are those of the worn items, as fixed when each was equipped. -/
structure Combined (state : Wardrobe) : Prop where
  enabled : ∀ slot, state.player.isItemAbilityEnabled slot = (state.worn slot).isSome
  varSkills : ∀ skill, state.player.varSkills skill = sumWorn (Worn.skill skill) state.worn
  varSpecialSkills : ∀ skill,
    state.player.varSpecialSkills skill = sumWorn (Worn.specialSkill skill) state.worn
  varStats : ∀ stat, state.player.varStats stat = sumWorn (Worn.stat stat) state.worn
  suppressions : state.player.creature.suppressions = unionWorn state.worn
  conditions : ∀ slot, ∀ type ∈ lasting,
    state.player.creature.countOf type slot.conditionId =
      if grantsAt state.worn slot type then 1 else 0

/-- A player without modifiers. -/
structure Undressed (player : Player) : Prop where
  disabled : ∀ slot, player.isItemAbilityEnabled slot = false
  varSkills : ∀ skill, player.varSkills skill = 0
  varSpecialSkills : ∀ skill, player.varSpecialSkills skill = 0
  varStats : ∀ stat, player.varStats stat = 0
  suppressions : player.creature.suppressions = 0
  conditions : ∀ slot, player.creature.Bare slot

/-- The modifiers are combined, and gone when no slot is enabled. -/
def ModifiersRight (state : Wardrobe) : Prop :=
  Combined state ∧
    ((∀ slot, state.player.isItemAbilityEnabled slot = false) → Undressed state.player)

/-- When an item is taken off, no bit of its suppressions is set by another worn
item, and its percentages come to what they came to when it was put on. -/
def TakesWhatWasGiven (state : Wardrobe) : EquipOp → Wardrobe → Prop
  | .deEquip _ _ slot, _ => ∀ worn, state.worn slot = some worn →
      worn.suppressions &&& unionOthers slot state.worn = 0 ∧
        ∀ stat, state.player.percentPart worn.item.given stat = worn.percent stat
  | _, _ => True

theorem Combined.worn_eq_none {state : Wardrobe} (combined : Combined state)
    {slot : Slot} (disabled : state.player.isItemAbilityEnabled slot = false) : state.worn slot = none := by
  have same := combined.enabled slot
  rw [disabled] at same
  exact Option.isNone_iff_eq_none.mp (Option.isSome_eq_false_iff.mp same.symm)

theorem Combined.undressed {state : Wardrobe} (combined : Combined state)
    (disabled : ∀ slot, state.player.isItemAbilityEnabled slot = false) :
    Undressed state.player := by
  have empty : state.worn = fun _ => none := by
    funext slot
    exact combined.worn_eq_none (disabled slot)
  refine ⟨disabled, ?_, ?_, ?_, ?_, ?_⟩
  · intro skill
    rw [combined.varSkills skill, empty, sumWorn, combine_none]
  · intro skill
    rw [combined.varSpecialSkills skill, empty, sumWorn, combine_none]
  · intro stat
    rw [combined.varStats stat, empty, sumWorn, combine_none]
  · rw [combined.suppressions, empty, unionWorn, combine_none]
  · intro slot type isLasting
    rw [combined.conditions slot type isLasting, empty]
    rfl

theorem modifiersRight_iff (state : Wardrobe) : ModifiersRight state ↔ Combined state :=
  ⟨And.left, fun combined => ⟨combined, combined.undressed⟩⟩

theorem Undressed.combined {player : Player} (undressed : Undressed player) :
    Combined { player := player } where
  enabled := undressed.disabled
  varSkills skill := by rw [undressed.varSkills skill, sumWorn, combine_none]
  varSpecialSkills skill := by rw [undressed.varSpecialSkills skill, sumWorn, combine_none]
  varStats stat := by rw [undressed.varStats stat, sumWorn, combine_none]
  suppressions := by rw [undressed.suppressions, unionWorn, combine_none]
  conditions slot type isLasting := undressed.conditions slot type isLasting

/-! ## What the events leave -/

/-- Equipping that goes through: the slot is enabled and each modifier has the
part of the abilities more. -/
structure Equipped (player : Player) (abilities : Abilities) (slot : Slot) (after : Player) :
    Prop where
  enabled : after.inventoryAbilities = update player.inventoryAbilities slot true
  varSkills : ∀ skill, after.varSkills skill = abilities.skills skill + player.varSkills skill
  varSpecialSkills : ∀ skill,
    after.varSpecialSkills skill = abilities.specialSkills skill + player.varSpecialSkills skill
  varStats : ∀ stat,
    after.varStats stat = player.statChange abilities stat + player.varStats stat
  suppressions : after.creature.suppressions =
    abilities.conditionSuppressions ||| player.creature.suppressions
  conditions : ∀ type ∈ lasting, ∀ id, after.creature.countOf type id =
    player.creature.countOf type id +
      if abilities.grants type ∧ slot.conditionId = id then 1 else 0

/-- De-equipping that goes through: the slot is disabled, each modifier has the
part of the abilities less, and the bits of the suppressions are cleared. -/
structure DeEquipped (player : Player) (abilities : Abilities) (slot : Slot) (after : Player) :
    Prop where
  enabled : after.inventoryAbilities = update player.inventoryAbilities slot false
  varSkills : ∀ skill, after.varSkills skill = player.varSkills skill - abilities.skills skill
  varSpecialSkills : ∀ skill,
    after.varSpecialSkills skill = player.varSpecialSkills skill - abilities.specialSkills skill
  varStats : ∀ stat,
    after.varStats stat = player.varStats stat - player.statChange abilities stat
  suppressions : after.creature.suppressions =
    player.creature.suppressions &&& ~~~abilities.conditionSuppressions
  conditions : ∀ type ∈ lasting, ∀ id, after.creature.countOf type id =
    if abilities.grants type ∧ slot.conditionId = id then 0
    else player.creature.countOf type id

theorem nothing_granted {type : ConditionType} (isLasting : type ∈ lasting) :
    ({} : Abilities).grants type = false := by
  revert type
  decide

/-- `EquipItem` leaves the player, or equips a slot that was not enabled. -/
theorem equipItem_cases (player : Player) (item : ItemType) (slot : Slot)
    (now walkDelay : Int) (moveEvent : MoveEvent) (isCheck : Bool)
    (still : item.transformEquipTo = 0)
    (bare : player.isItemAbilityEnabled slot = false → player.creature.Bare slot) :
    (player.equipItem now walkDelay moveEvent item slot isCheck).2 = player ∨
      player.isItemAbilityEnabled slot = false ∧
        Equipped player item.given slot
          (player.equipItem now walkDelay moveEvent item slot isCheck).2 := by
  unfold Player.equipItem
  split
  · exact .inl rfl
  rename_i disabled
  have off : player.isItemAbilityEnabled slot = false := Bool.eq_false_iff.mpr disabled
  split
  · exact .inl rfl
  split
  · exact .inl rfl
  refine .inr ⟨off, ?_⟩
  rw [if_neg (by simp [still]), ItemType.given]
  cases item.abilities with
  | none =>
    refine ⟨rfl, fun _ => (zero_add _).symm, fun _ => (zero_add _).symm,
      fun _ => (zero_add _).symm, UInt32.zero_or.symm, fun type isLasting id => ?_⟩
    rw [Option.getD_none, nothing_granted isLasting]
    simp [Player.setItemAbility]
  | some abilities =>
    have plus : ∀ total part : Int, total + 1 * part = part + total := fun _ _ => by ring
    obtain ⟨counted, suppressed⟩ :=
      Creature.addAbilities_spec now walkDelay abilities (bare off)
    obtain ⟨health, mana, varied⟩ := Player.vary_eq 1 abilities
      { player.setItemAbility slot true with
        creature :=
          (player.setItemAbility slot true).creature.addAbilities now walkDelay slot abilities }
    dsimp only at varied ⊢
    refine ⟨?_, fun skill => ?_, fun skill => ?_, fun stat => ?_, ?_, ?_⟩ <;> rw [varied]
    · rfl
    · exact plus _ _
    · exact plus _ _
    · exact plus _ _
    · exact suppressed.trans (UInt32.or_comm _ _)
    · exact counted

/-- `DeEquipItem` leaves a slot that is not enabled, and de-equips another. -/
theorem deEquipItem_cases (player : Player) (item : ItemType) (slot : Slot) (walkDelay : Int) :
    player.isItemAbilityEnabled slot = false ∧
        (player.deEquipItem walkDelay item slot).2 = player ∨
      player.isItemAbilityEnabled slot = true ∧
        DeEquipped player item.given slot (player.deEquipItem walkDelay item slot).2 := by
  unfold Player.deEquipItem
  cases enabled : player.isItemAbilityEnabled slot with
  | false => exact .inl ⟨rfl, rfl⟩
  | true =>
    refine .inr ⟨rfl, ?_⟩
    rw [if_neg (by decide), ItemType.given]
    cases item.abilities with
    | none =>
      refine ⟨rfl, fun _ => (sub_zero _).symm, fun _ => (sub_zero _).symm,
        fun _ => (sub_zero _).symm, ?_, fun type isLasting id => ?_⟩
      · exact UInt32.and_neg_one.symm
      · rw [Option.getD_none, nothing_granted isLasting]
        simp [Player.setItemAbility]
    | some abilities =>
      have minus : ∀ total part : Int, total + -1 * part = total - part :=
        fun _ _ => by ring
      obtain ⟨counted, suppressed⟩ :=
        player.creature.removeAbilities_spec walkDelay abilities
      obtain ⟨health, mana, varied⟩ := Player.vary_eq (-1) abilities
        { player.setItemAbility slot false with
          creature :=
            (player.setItemAbility slot false).creature.removeAbilities walkDelay slot abilities }
      dsimp only at varied ⊢
      refine ⟨?_, fun skill => ?_, fun skill => ?_, fun stat => ?_, ?_, ?_⟩ <;> rw [varied]
      · rfl
      · exact minus _ _
      · exact minus _ _
      · exact minus _ _
      · exact suppressed
      · exact counted

/-! ## Steps -/

section Steps

variable {state : Wardrobe}

theorem grantsAt_update (worn : Slot → Option Worn) (slot other : Slot) (holding : Option Worn)
    (type : ConditionType) :
    grantsAt (update worn slot holding) other type =
      if slot = other then holding.any fun worn => worn.item.given.grants type
      else grantsAt worn other type := by
  unfold grantsAt
  by_cases same : slot = other
  · rw [same, update_self, if_pos rfl]
  · rw [update_of_ne (Ne.symm same), if_neg same]

theorem Combined.enabled_update (combined : Combined state) (slot : Slot)
    (holding : Option Worn) (other : Slot) :
    update state.player.inventoryAbilities slot holding.isSome other =
      (update state.worn slot holding other).isSome := by
  by_cases same : other = slot
  · rw [same, update_self, update_self]
  · rw [update_of_ne same, update_of_ne same]
    exact combined.enabled other

variable {slot : Slot}

theorem Combined.bare (combined : Combined state)
    (disabled : state.player.isItemAbilityEnabled slot = false) :
    state.player.creature.Bare slot := by
  intro type isLasting
  have empty := combined.worn_eq_none disabled
  rw [combined.conditions slot type isLasting, grantsAt, empty]
  rfl

theorem sumWorn_put (part : Worn → Int) {held : Slot → Option Worn}
    (empty : held slot = none) (worn : Worn) :
    sumWorn part (update held slot (some worn)) = part worn + sumWorn part held :=
  combine_put _ _ part empty worn

theorem unionWorn_put {held : Slot → Option Worn} (empty : held slot = none) (worn : Worn) :
    unionWorn (update held slot (some worn)) = worn.suppressions ||| unionWorn held :=
  combine_put _ _ Worn.suppressions empty worn

theorem Combined.equipped (combined : Combined state) {worn : Worn}
    {after : Player} (disabled : state.player.isItemAbilityEnabled slot = false)
    (percent : worn.percent = state.player.percentPart worn.item.given)
    (equipped : Equipped state.player worn.item.given slot after) :
    Combined { player := after, worn := update state.worn slot (some worn) } := by
  have empty := combined.worn_eq_none disabled
  refine ⟨fun other => ?_, fun skill => ?_, fun skill => ?_, fun stat => ?_, ?_,
    fun other type isLasting => ?_⟩
  · rw [Player.isItemAbilityEnabled, equipped.enabled]
    exact combined.enabled_update slot (some worn) other
  · rw [equipped.varSkills skill, combined.varSkills skill]
    exact (sumWorn_put (Worn.skill skill) empty worn).symm
  · rw [equipped.varSpecialSkills skill, combined.varSpecialSkills skill]
    exact (sumWorn_put (Worn.specialSkill skill) empty worn).symm
  · rw [equipped.varStats stat, combined.varStats stat, Player.statChange, ← percent]
    exact (sumWorn_put (Worn.stat stat) empty worn).symm
  · rw [equipped.suppressions, combined.suppressions]
    exact (unionWorn_put empty worn).symm
  · rw [equipped.conditions type isLasting, grantsAt_update,
      combined.conditions other type isLasting]
    by_cases same : slot = other
    · subst same
      rw [if_pos rfl, grantsAt, empty]
      simp
    · have apart : slot.conditionId ≠ other.conditionId :=
        fun ids => same (conditionId_injective ids)
      rw [if_neg same]
      simp [apart]

theorem Combined.deEquipped_iff (combined : Combined state) {worn : Worn}
    {after : Player} (wearing : state.worn slot = some worn)
    (deEquipped : DeEquipped state.player worn.item.given slot after) :
    Combined { player := after, worn := update state.worn slot none } ↔
      worn.suppressions &&& unionOthers slot state.worn = 0 ∧
        ∀ stat, state.player.percentPart worn.item.given stat = worn.percent stat := by
  have masks : after.creature.suppressions = unionWorn (update state.worn slot none) ↔
      worn.suppressions &&& unionOthers slot state.worn = 0 := by
    rw [deEquipped.suppressions, combined.suppressions, unionWorn, unionWorn, combine_take,
      combine_of_some _ _ _ wearing]
    exact union_without_iff _ _
  have stats : ∀ stat, after.varStats stat =
      sumWorn (Worn.stat stat) (update state.worn slot none) ↔
        state.player.percentPart worn.item.given stat = worn.percent stat := by
    intro stat
    rw [deEquipped.varStats stat, combined.varStats stat, sumWorn, sumWorn, combine_take,
      combine_of_some _ _ _ wearing, Worn.stat, Player.statChange]
    constructor
    · intro same
      omega
    · intro same
      omega
  constructor
  · exact fun holds => ⟨masks.mp holds.suppressions, fun stat => (stats stat).mp
      (holds.varStats stat)⟩
  rintro ⟨disjoint, percents⟩
  refine ⟨fun other => ?_, fun skill => ?_, fun skill => ?_, fun stat => ?_, masks.mpr disjoint,
    fun other type isLasting => ?_⟩
  · rw [Player.isItemAbilityEnabled, deEquipped.enabled]
    exact combined.enabled_update slot none other
  · rw [deEquipped.varSkills skill, combined.varSkills skill, sumWorn, sumWorn, combine_take,
      combine_of_some _ _ _ wearing]
    exact add_sub_cancel_left _ _
  · rw [deEquipped.varSpecialSkills skill, combined.varSpecialSkills skill, sumWorn, sumWorn,
      combine_take, combine_of_some _ _ _ wearing]
    exact add_sub_cancel_left _ _
  · exact (stats stat).mpr (percents stat)
  · rw [deEquipped.conditions type isLasting, grantsAt_update,
      combined.conditions other type isLasting]
    by_cases same : slot = other
    · subst same
      rw [if_pos rfl, grantsAt, wearing]
      cases grants : worn.item.given.grants type <;> simp [grants]
    · have apart : slot.conditionId ≠ other.conditionId :=
        fun ids => same (conditionId_injective ids)
      rw [if_neg same]
      simp [apart]

theorem wardrobe_step (combined : Combined state) (op : EquipOp) (legal : wardrobe.legal state op) :
    Combined (wardrobe.step state op) ↔ TakesWhatWasGiven state op (wardrobe.step state op) := by
  cases op with
  | equip now walkDelay moveEvent item slot isCheck =>
    refine ⟨fun _ => trivial, fun _ => ?_⟩
    rcases equipItem_cases state.player item slot now walkDelay moveEvent isCheck legal.1 combined.bare with
      left | ⟨disabled, equipped⟩
    · simp only [wardrobe, left, Bool.not_and_self, Bool.false_eq_true, if_false]
      exact combined
    · have enabled : (state.player.equipItem now walkDelay moveEvent item slot
          isCheck).2.isItemAbilityEnabled slot = true := by
        rw [Player.isItemAbilityEnabled, equipped.enabled, update_self]
      simp only [wardrobe, disabled, enabled, Bool.not_false, Bool.and_self, if_true]
      exact combined.equipped disabled rfl equipped
  | deEquip walkDelay item slot =>
    rcases deEquipItem_cases state.player item slot walkDelay with
      ⟨disabled, left⟩ | ⟨enabled, deEquipped⟩
    · have empty := combined.worn_eq_none disabled
      refine ⟨fun _ worn wearing => ?_, fun _ => ?_⟩
      · rw [empty] at wearing
        cases wearing
      · simp only [wardrobe, left, ← empty, Function.update_eq_self]
        exact combined
    · have isWorn := combined.enabled slot
      rw [enabled] at isWorn
      obtain ⟨worn, wearing⟩ := Option.isSome_iff_exists.mp isWorn.symm
      obtain rfl := legal worn wearing
      refine (combined.deEquipped_iff wearing deEquipped).trans ⟨fun takes other wears => ?_,
        fun takes => takes worn wearing⟩
      obtain rfl := Option.some.inj (wearing.symm.trans wears)
      exact takes
  | changeLevel level healthMax manaMax =>
    exact ⟨fun _ => trivial, fun _ => ⟨combined.enabled, combined.varSkills,
      combined.varSpecialSkills, combined.varStats, combined.suppressions,
      combined.conditions⟩⟩

end Steps

/-! ## Runs -/

/-- **The modifiers are those of what is worn exactly when every item taken off
takes what it gave.** For every run from a player without modifiers. -/
theorem modifiers_combined_iff {player : Player} (undressed : Undressed player)
    {ops : List EquipOp} (legal : wardrobe.Legal { player := player } ops) :
    wardrobe.Throughout (fun _ _ after => ModifiersRight after) { player := player } ops ↔
      wardrobe.Throughout TakesWhatWasGiven { player := player } ops := by
  refine System.Throughout.iff_of_invariant (fun before op combined legal => ?_)
    undressed.combined legal
  rw [modifiersRight_iff]
  exact ⟨wardrobe_step combined op legal, id⟩

/-- An item that keeps one from being drunk. -/
def soberingItem : ItemType where
  abilities := some { conditionSuppressions := 0x1000 }

/-- A run of one item, with a change of level while it is worn. -/
theorem modifiers_combined_iff_one_item :
    wardrobe.Throughout (fun _ _ after => ModifiersRight after) { player := {} }
        [.equip 0 0 {} soberingItem .ring false, .changeLevel 2 2000 100,
          .deEquip 0 soberingItem .ring] ↔
      wardrobe.Throughout TakesWhatWasGiven { player := {} }
        [.equip 0 0 {} soberingItem .ring false, .changeLevel 2 2000 100,
          .deEquip 0 soberingItem .ring] :=
  modifiers_combined_iff
    ⟨fun _ => rfl, fun _ => rfl, fun _ => rfl, fun _ => rfl, rfl, fun _ _ _ => rfl⟩
    ⟨⟨rfl, rfl⟩, trivial, fun _ wearing => by cases wearing; rfl, trivial⟩

/-- Taking off one of two items that suppress the same condition ends the
suppression of both. -/
theorem second_item_loses_suppression :
    ¬ wardrobe.Throughout (fun _ _ after => ModifiersRight after) { player := {} }
      [.equip 0 0 {} soberingItem .ring false, .equip 0 0 {} soberingItem .head false,
        .deEquip 0 soberingItem .ring] := by
  intro holds
  have kept := holds.2.2.1.1.suppressions
  revert kept
  decide

end Otserv.Equipment
