import Otserv.Foundation.Numerals
import Otserv.Foundation.Deadlines

/-!
# Conditions and the list of a creature's conditions

A condition has a type, an id and a sub id, and ends some ticks after it is
started. `createCondition` makes one through the constructor of its class, and
`addCondition` of a creature either gives it to the condition of the same type,
id and sub id or starts it.

The base constructor takes the ticks of the last effect before the flag of a
buff. The constructors of the classes do not pass them, so that their flag, sub
id and aggression each arrive one place early.

The change of the speed that conditions make is added to `varSpeed`. The conditions of
damage are modelled as they are made here, without damage: they do not start.
-/

namespace Otserv.Conditions

open Otserv.Foundation

/-- `ConditionType_t`. -/
inductive ConditionType where
  | none | poison | fire | energy | bleeding | haste | paralyze | outfit | invisible | light
  | manashield | infight | drunk | exhaustWeapon | regeneration | soul | drown | muted
  | channelMutedTicks | yellTicks | attributes | freezing | dazzled | cursed | exhaustCombat
  | exhaustHeal | pacified | spellCooldown | spellGroupCooldown | sleep | seed | moving | noMove
  | attackBonus | confusion | stun | silence | blind | defenseBonus | fear | snare | rage
  | meleeRage
deriving DecidableEq

/-- The place of the type's bit, the types after `none` counted from zero. -/
def ConditionType.flag (type : ConditionType) : UInt64 :=
  match type.ctorIdx with
  | 0 => 0
  | place + 1 => 1 <<< UInt64.ofNat place

/-- The classes of conditions. -/
inductive ConditionClass where
  | damage | speed | status | invisible | outfit | light | regeneration | soul | attributes
  | spellCooldown | spellGroupCooldown | generic | bonus
deriving DecidableEq

/-- The class `createCondition` makes a type of, by the cases of its switch. -/
def ConditionType.conditionClass : ConditionType → Option ConditionClass
  | .poison | .fire | .energy | .drown | .freezing | .dazzled | .cursed | .bleeding | .seed =>
    some .damage
  | .haste | .sleep | .paralyze => some .speed
  | .noMove | .moving => some .status
  | .invisible => some .invisible
  | .outfit => some .outfit
  | .light => some .light
  | .regeneration => some .regeneration
  | .soul => some .soul
  | .attributes => some .attributes
  | .spellCooldown => some .spellCooldown
  | .spellGroupCooldown => some .spellGroupCooldown
  | .snare | .stun | .silence | .fear | .blind | .confusion | .infight | .drunk | .exhaustWeapon
  | .exhaustCombat | .exhaustHeal | .muted | .channelMutedTicks | .yellTicks | .pacified | .rage
  | .meleeRage | .manashield => some .generic
  | .attackBonus | .defenseBonus => some .bonus
  | .none => Option.none

/-- A condition, with the speed of `ConditionSpeed`, the light of `ConditionLight`
and the gains of `ConditionRegeneration`. -/
structure Condition where
  conditionClass : ConditionClass
  id : Int8
  conditionType : ConditionType
  endTime : Int
  lastEffTicks : Int
  subId : UInt32
  addEff : UInt32 := 0
  addEffTicks : Int := 0
  ticks : Int
  isBuff : Bool
  aggressive : Bool
  saveCondition : Bool
  speedDelta : Int := 0
  lightLevel : UInt8 := 0
  lightColor : UInt8 := 0
  healthTicks : UInt32 := 1000
  manaTicks : UInt32 := 1000
  healthGain : UInt32 := 0
  manaGain : UInt32 := 0
deriving DecidableEq

/-- `std::numeric_limits<int64_t>::max()`. -/
def int64Max : Int := 2 ^ 63 - 1

/-- The conversions of an argument of one type given for a parameter of another. -/
def boolToInt64 (value : Bool) : Int := if value then 1 else 0

def uint32ToBool (value : UInt32) : Bool := value != 0

def boolToUint32 (value : Bool) : UInt32 := if value then 1 else 0

namespace Condition

variable (conditionClass : ConditionClass)

/-- The constructor of `Condition`. -/
def base (id : Int8) (type : ConditionType) (ticks : Int)
    (lastEffTicks : Int) (buff : Bool := false) (subId : UInt32 := 0) (aggressive : Bool := false)
    (saveCondition : Bool := false) : Condition where
  conditionClass := conditionClass
  id := id
  conditionType := type
  endTime := if ticks = -1 then int64Max else 0
  lastEffTicks := lastEffTicks
  subId := subId
  ticks := ticks
  isBuff := buff
  aggressive := aggressive
  saveCondition := saveCondition

/-- The call `Condition(id, type, ticks, buff, subId, aggressive)` of the classes. -/
def baseShifted (id : Int8) (type : ConditionType) (ticks : Int)
    (buff : Bool) (subId : UInt32) (aggressive : Bool) : Condition :=
  base conditionClass id type ticks (boolToInt64 buff) (uint32ToBool subId)
    (boolToUint32 aggressive)

variable (id : Int8) (type : ConditionType) (ticks : Int) (buff : Bool)

/-- `ConditionGeneric`, and the classes whose constructors only call its. -/
def generic (subId : UInt32) (aggressive : Bool) : Condition :=
  baseShifted .generic id type ticks buff subId aggressive

def attributes (subId : UInt32) (aggressive : Bool) : Condition :=
  { generic id type ticks buff subId aggressive with conditionClass := .attributes }

def regeneration (subId : UInt32) (aggressive : Bool) : Condition :=
  { generic id type ticks buff subId aggressive with conditionClass := .regeneration }

def soul (subId : UInt32) (aggressive : Bool) : Condition :=
  { generic id type ticks buff subId aggressive with conditionClass := .soul }

def invisible (subId : UInt32) (aggressive : Bool) : Condition :=
  { generic id type ticks buff subId aggressive with conditionClass := .invisible }

def status (subId : UInt32) (aggressive : Bool) : Condition :=
  { generic id type ticks buff subId aggressive with conditionClass := .status }

def spellCooldown (subId : UInt32) (aggressive : Bool) : Condition :=
  { generic id type ticks buff subId aggressive with conditionClass := .spellCooldown }

def spellGroupCooldown (subId : UInt32) (aggressive : Bool) : Condition :=
  { generic id type ticks buff subId aggressive with conditionClass := .spellGroupCooldown }

def damage (subId : UInt32) (aggressive : Bool) : Condition :=
  baseShifted .damage id type 0 buff subId aggressive

def speed (subId : UInt32) (changeSpeed : Int) (aggressive : Bool) : Condition :=
  { baseShifted .speed id type ticks buff subId aggressive with speedDelta := changeSpeed }

def outfit (subId : UInt32) (aggressive : Bool) : Condition :=
  baseShifted .outfit id type ticks buff subId aggressive

def light (subId : UInt32) (lightlevel lightcolor : UInt8) (aggressive : Bool) : Condition :=
  { baseShifted .light id type ticks buff subId aggressive with
    lightLevel := lightlevel
    lightColor := lightcolor }

/-- `ConditionBonus` passes the ticks of the last effect, and has a parameter for
the bonus before the flag of a buff. -/
def bonus (id : Int8) (type : ConditionType) (ticks : Int) (_bonus : Int) (buff : Bool := false)
    (subId : UInt32 := 0) (aggressive : Bool := false) : Condition :=
  base .bonus id type ticks 0 buff subId aggressive

end Condition

/-- The low byte of a parameter, and the byte above it. -/
def lowByte (param : Int) : UInt8 := UInt8.ofNat (param % 256).toNat

def secondByte (param : Int) : UInt8 := UInt8.ofNat (param / 256 % 256).toNat

/-- What `Condition::createCondition` is called with. -/
structure Request where
  id : Int8
  type : ConditionType
  ticks : Int
  param : Int := 0
  buff : Bool := false
  subId : UInt32 := 0
  aggressive : Bool := false
deriving DecidableEq

/-- `Condition::createCondition`. -/
def createCondition (request : Request) : Option Condition :=
  let ⟨id, type, ticks, param, buff, subId, aggressive⟩ := request
  match type.conditionClass with
  | some .damage => some (.damage id type buff subId aggressive)
  | some .speed => some (.speed id type ticks buff subId param aggressive)
  | some .status => some (.status id type ticks buff subId aggressive)
  | some .invisible => some (.invisible id type ticks buff subId aggressive)
  | some .outfit => some (.outfit id type ticks buff subId aggressive)
  | some .light =>
    some (.light id type ticks buff subId (lowByte param) (secondByte param) aggressive)
  | some .regeneration => some (.regeneration id type ticks buff subId aggressive)
  | some .soul => some (.soul id type ticks buff subId aggressive)
  | some .attributes => some (.attributes id type ticks buff subId aggressive)
  | some .spellCooldown => some (.spellCooldown id type ticks buff subId aggressive)
  | some .spellGroupCooldown => some (.spellGroupCooldown id type ticks buff subId aggressive)
  | some .generic => some (.generic id type ticks buff subId aggressive)
  | some .bonus =>
    some (.bonus id type ticks (boolToInt64 buff) (uint32ToBool subId) (boolToUint32 aggressive))
  | none => none

/-- **Where the arguments go.** The condition made has the aggression as its sub
id and the sub id as its flag of a buff, and is never aggressive. -/
theorem createCondition_fields {request : Request} {condition : Condition}
    (created : createCondition request = some condition) :
    condition.conditionType = request.type ∧ condition.id = request.id ∧
      some condition.conditionClass = request.type.conditionClass ∧
      condition.subId = boolToUint32 request.aggressive ∧
      condition.isBuff = uint32ToBool request.subId ∧ condition.aggressive = false ∧
      (condition.conditionClass ≠ .damage → condition.ticks = request.ticks) := by
  obtain ⟨id, type, ticks, param, buff, subId, aggressive⟩ := request
  dsimp only [createCondition] at created ⊢
  cases ofClass : type.conditionClass with
  | none =>
    rw [ofClass] at created
    cases created
  | some conditionClass =>
    cases conditionClass with
    | damage =>
      rw [ofClass] at created
      cases created
      exact ⟨rfl, rfl, rfl, rfl, rfl, rfl, fun other => absurd rfl other⟩
    | _ =>
      rw [ofClass] at created
      cases created
      exact ⟨rfl, rfl, rfl, rfl, rfl, rfl, fun _ => rfl⟩

theorem createCondition_reports_iff {request : Request} {condition : Condition}
    (created : createCondition request = some condition) :
    (condition.subId = request.subId ∧ condition.isBuff = request.buff ∧
        condition.aggressive = request.aggressive) ↔
      request.subId = 0 ∧ request.buff = false ∧ request.aggressive = false := by
  obtain ⟨-, -, -, subId, isBuff, aggressive, -⟩ := createCondition_fields created
  rw [subId, isBuff, aggressive]
  cases request.aggressive with
  | true => simp
  | false =>
    simp only [boolToUint32, Bool.false_eq_true, if_false, and_true]
    constructor
    · rintro ⟨zero, same⟩
      exact ⟨zero.symm, by rw [← same, ← zero]; rfl⟩
    · rintro ⟨zero, noBuff⟩
      exact ⟨zero.symm, by rw [zero, noBuff]; rfl⟩

end Otserv.Conditions
