import Otserv.Conditions.ConditionStream

/-!
# Writing and reading conditions

A condition writes the fields of all conditions and then those of its class. What reads it back
makes a new condition from the first six fields, which have to be in their order, and lets that
read field after field up to the end tag. A player's conditions are read until no condition can
be made.
-/

namespace Otserv.ConditionStream

open Foundation Conditions Equipment

/-! ## Values -/

def write16 (value : UInt16) : List UInt8 := writeNat 2 value.toNat

def write32 (value : UInt32) : List UInt8 := writeNat 4 value.toNat

def writeBool (value : Bool) : List UInt8 := [if value then 1 else 0]

def read8 : List UInt8 → Read UInt8
  | [] => none
  | byte :: rest => some (byte, rest)

variable (bytes : List UInt8)

def read16 : Read UInt16 :=
  (readNat 2 bytes).map fun (value, rest) => (UInt16.ofNat value, rest)

def read32 : Read UInt32 :=
  (readNat 4 bytes).map fun (value, rest) => (UInt32.ofNat value, rest)

def readBool : Read Bool :=
  (read8 bytes).map fun (value, rest) => (value != 0, rest)

def IntervalInfo.write (info : IntervalInfo) : List UInt8 :=
  write32 info.timeLeft.toUInt32 ++ write32 info.value.toUInt32 ++ write32 info.interval.toUInt32

def IntervalInfo.read : Option (IntervalInfo × List UInt8) := do
  let (timeLeft, bytes) ← read32 bytes
  let (value, bytes) ← read32 bytes
  let (interval, bytes) ← read32 bytes
  some (⟨timeLeft.toInt32, value.toInt32, interval.toInt32⟩, bytes)

/-- The bytes of the structure, with one behind them that fills it up. -/
def Outfit_t.write (outfit : Outfit_t) : List UInt8 :=
  write16 outfit.lookType ++ write16 outfit.lookTypeEx ++ write16 outfit.lookMount ++
    write16 outfit.lookWings ++ write16 outfit.lookAura ++ write16 outfit.lookShader ++
    [outfit.lookHead, outfit.lookBody, outfit.lookLegs, outfit.lookFeet, outfit.lookAddons, 0]

def Outfit_t.read : Option (Outfit_t × List UInt8) := do
  let (lookType, bytes) ← read16 bytes
  let (lookTypeEx, bytes) ← read16 bytes
  let (lookMount, bytes) ← read16 bytes
  let (lookWings, bytes) ← read16 bytes
  let (lookAura, bytes) ← read16 bytes
  let (lookShader, bytes) ← read16 bytes
  let (lookHead, bytes) ← read8 bytes
  let (lookBody, bytes) ← read8 bytes
  let (lookLegs, bytes) ← read8 bytes
  let (lookFeet, bytes) ← read8 bytes
  let (lookAddons, bytes) ← read8 bytes
  let (_, bytes) ← read8 bytes
  some (⟨lookType, lookTypeEx, lookMount, lookWings, lookAura, lookShader, lookHead, lookBody,
    lookLegs, lookFeet, lookAddons⟩, bytes)

/-! ## Fields -/

def CONDITIONATTR_TYPE : UInt8 := 1
def CONDITIONATTR_ID : UInt8 := 2
def CONDITIONATTR_TICKS : UInt8 := 3
def CONDITIONATTR_HEALTHTICKS : UInt8 := 4
def CONDITIONATTR_HEALTHGAIN : UInt8 := 5
def CONDITIONATTR_MANATICKS : UInt8 := 6
def CONDITIONATTR_MANAGAIN : UInt8 := 7
def CONDITIONATTR_DELAYED : UInt8 := 8
def CONDITIONATTR_OWNER : UInt8 := 9
def CONDITIONATTR_INTERVALDATA : UInt8 := 10
def CONDITIONATTR_SPEEDDELTA : UInt8 := 11
def CONDITIONATTR_FORMULA_MINA : UInt8 := 12
def CONDITIONATTR_FORMULA_MINB : UInt8 := 13
def CONDITIONATTR_FORMULA_MAXA : UInt8 := 14
def CONDITIONATTR_FORMULA_MAXB : UInt8 := 15
def CONDITIONATTR_LIGHTCOLOR : UInt8 := 16
def CONDITIONATTR_LIGHTLEVEL : UInt8 := 17
def CONDITIONATTR_LIGHTTICKS : UInt8 := 18
def CONDITIONATTR_LIGHTINTERVAL : UInt8 := 19
def CONDITIONATTR_SOULTICKS : UInt8 := 20
def CONDITIONATTR_SOULGAIN : UInt8 := 21
def CONDITIONATTR_SKILLS : UInt8 := 22
def CONDITIONATTR_STATS : UInt8 := 23
def CONDITIONATTR_OUTFIT : UInt8 := 24
def CONDITIONATTR_PERIODDAMAGE : UInt8 := 25
def CONDITIONATTR_ISBUFF : UInt8 := 26
def CONDITIONATTR_SUBID : UInt8 := 27
def CONDITIONATTR_DISABLEDEFENSE : UInt8 := 28
def CONDITIONATTR_ISAGGRESSIVE : UInt8 := 29
def CONDITIONATTR_END : UInt8 := 254

/-! ## Writing -/

variable (condition : Condition)

/-- `Condition::serialize`. -/
def Condition.serializeBase : List UInt8 :=
  CONDITIONATTR_TYPE :: write32 condition.conditionType.toUInt32 ++
  CONDITIONATTR_ID :: write32 condition.id.toInt32.toUInt32 ++
  CONDITIONATTR_TICKS :: write32 condition.ticks.toUInt32 ++
  CONDITIONATTR_ISBUFF :: writeBool condition.isBuff ++
  CONDITIONATTR_SUBID :: write32 condition.subId ++
  CONDITIONATTR_ISAGGRESSIVE :: writeBool condition.aggressive

def ConditionDamage.serialize (damage : ConditionDamage) : List UInt8 :=
  CONDITIONATTR_DELAYED :: writeBool damage.delayed ++
  CONDITIONATTR_PERIODDAMAGE :: write32 damage.periodDamage.toUInt32 ++
  damage.damageList.flatMap fun info => CONDITIONATTR_INTERVALDATA :: info.write

def ConditionSpeed.serialize (speed : ConditionSpeed) : List UInt8 :=
  CONDITIONATTR_SPEEDDELTA :: write32 speed.speedDelta.toUInt32 ++
  CONDITIONATTR_FORMULA_MINA :: write32 speed.mina ++
  CONDITIONATTR_FORMULA_MINB :: write32 speed.minb ++
  CONDITIONATTR_FORMULA_MAXA :: write32 speed.maxa ++
  CONDITIONATTR_FORMULA_MAXB :: write32 speed.maxb

def ConditionLight.serialize (light : ConditionLight) : List UInt8 :=
  CONDITIONATTR_LIGHTCOLOR :: write32 light.color.toUInt32 ++
  CONDITIONATTR_LIGHTLEVEL :: write32 light.level.toUInt32 ++
  CONDITIONATTR_LIGHTTICKS :: write32 light.internalLightTicks ++
  CONDITIONATTR_LIGHTINTERVAL :: write32 light.lightChangeInterval

def ConditionRegeneration.serialize (regeneration : ConditionRegeneration) : List UInt8 :=
  CONDITIONATTR_HEALTHTICKS :: write32 regeneration.healthTicks ++
  CONDITIONATTR_HEALTHGAIN :: write32 regeneration.healthGain ++
  CONDITIONATTR_MANATICKS :: write32 regeneration.manaTicks ++
  CONDITIONATTR_MANAGAIN :: write32 regeneration.manaGain

def ConditionSoul.serialize (soul : ConditionSoul) : List UInt8 :=
  CONDITIONATTR_SOULGAIN :: write32 soul.soulGain ++
  CONDITIONATTR_SOULTICKS :: write32 soul.soulTicks

def ConditionAttributes.serialize (attributes : ConditionAttributes) : List UInt8 :=
  (Skill.all.flatMap fun skill =>
    CONDITIONATTR_SKILLS :: write32 (attributes.skills skill).toUInt32) ++
  (Stat.all.flatMap fun stat =>
    CONDITIONATTR_STATS :: write32 (attributes.stats stat).toUInt32) ++
  CONDITIONATTR_DISABLEDEFENSE :: writeBool attributes.disableDefense

/-- The fields of the class. -/
def State.serialize : State → List UInt8
  | .plain => []
  | .damage own => own.serialize
  | .speed own => own.serialize
  | .outfit own => CONDITIONATTR_OUTFIT :: own.write
  | .light own => own.serialize
  | .regeneration own => own.serialize
  | .soul own => own.serialize
  | .attributes own => own.serialize

def Condition.serialize : List UInt8 :=
  condition.serializeBase ++ condition.state.serialize

/-- What `savePlayer` writes for the conditions of a player. -/
def savePlayer (conditions : List Condition) : List UInt8 :=
  (conditions.filter Condition.isPersistent).flatMap fun condition =>
    condition.serialize ++ [CONDITIONATTR_END]

/-! ## Reading -/

/-- A value read from the stream changes something. -/
def Reading {α β : Type} (change : α → β) (value : Read α) : Read β :=
  value.map fun (value, rest) => (change value, rest)

variable (attr : UInt8)

/-- `Condition::unserializeProp`. -/
def Condition.unserializeBase (condition : Condition) (bytes : List UInt8) : Read Condition :=
  if attr = CONDITIONATTR_TYPE then
    Reading (fun value => { condition with
      conditionType := value.toInt32.toInt64.toUInt64 }) (read32 bytes)
  else if attr = CONDITIONATTR_ID then
    Reading (fun value => { condition with id := value.toInt32.toInt8 }) (read32 bytes)
  else if attr = CONDITIONATTR_TICKS then
    Reading (fun value => { condition with ticks := value.toInt32 }) (read32 bytes)
  else if attr = CONDITIONATTR_ISBUFF then
    Reading (fun value => { condition with isBuff := value }) (readBool bytes)
  else if attr = CONDITIONATTR_SUBID then
    Reading (fun value => { condition with subId := value }) (read32 bytes)
  else if attr = CONDITIONATTR_ISAGGRESSIVE then
    Reading (fun value => { condition with aggressive := value }) (readBool bytes)
  else if attr = CONDITIONATTR_END then some (condition, bytes)
  else none

/-- The fields that a condition of damage has besides those of its list. -/
def ConditionDamage.unserializeProp (damage : ConditionDamage)
    (bytes : List UInt8) : Option (Read ConditionDamage) :=
  if attr = CONDITIONATTR_DELAYED then
    some (Reading (fun value => { damage with delayed := value }) (readBool bytes))
  else if attr = CONDITIONATTR_PERIODDAMAGE then
    some (Reading (fun value => { damage with periodDamage := value.toInt32 }) (read32 bytes))
  else if attr = CONDITIONATTR_OWNER then
    some (Reading (fun _ => damage) (read32 bytes))
  else none

def ConditionSpeed.unserializeProp (speed : ConditionSpeed)
    (bytes : List UInt8) : Option (Read ConditionSpeed) :=
  if attr = CONDITIONATTR_SPEEDDELTA then
    some (Reading (fun value => { speed with speedDelta := value.toInt32 }) (read32 bytes))
  else if attr = CONDITIONATTR_FORMULA_MINA then
    some (Reading (fun value => { speed with mina := value }) (read32 bytes))
  else if attr = CONDITIONATTR_FORMULA_MINB then
    some (Reading (fun value => { speed with minb := value }) (read32 bytes))
  else if attr = CONDITIONATTR_FORMULA_MAXA then
    some (Reading (fun value => { speed with maxa := value }) (read32 bytes))
  else if attr = CONDITIONATTR_FORMULA_MAXB then
    some (Reading (fun value => { speed with maxb := value }) (read32 bytes))
  else none

def ConditionLight.unserializeProp (light : ConditionLight)
    (bytes : List UInt8) : Option (Read ConditionLight) :=
  if attr = CONDITIONATTR_LIGHTCOLOR then
    some (Reading (fun value => { light with color := value.toUInt8 }) (read32 bytes))
  else if attr = CONDITIONATTR_LIGHTLEVEL then
    some (Reading (fun value => { light with level := value.toUInt8 }) (read32 bytes))
  else if attr = CONDITIONATTR_LIGHTTICKS then
    some (Reading (fun value => { light with internalLightTicks := value }) (read32 bytes))
  else if attr = CONDITIONATTR_LIGHTINTERVAL then
    some (Reading (fun value => { light with lightChangeInterval := value }) (read32 bytes))
  else none

def ConditionRegeneration.unserializeProp (regeneration : ConditionRegeneration)
    (bytes : List UInt8) : Option (Read ConditionRegeneration) :=
  if attr = CONDITIONATTR_HEALTHTICKS then
    some (Reading (fun value => { regeneration with healthTicks := value }) (read32 bytes))
  else if attr = CONDITIONATTR_HEALTHGAIN then
    some (Reading (fun value => { regeneration with healthGain := value }) (read32 bytes))
  else if attr = CONDITIONATTR_MANATICKS then
    some (Reading (fun value => { regeneration with manaTicks := value }) (read32 bytes))
  else if attr = CONDITIONATTR_MANAGAIN then
    some (Reading (fun value => { regeneration with manaGain := value }) (read32 bytes))
  else none

def ConditionSoul.unserializeProp (soul : ConditionSoul)
    (bytes : List UInt8) : Option (Read ConditionSoul) :=
  if attr = CONDITIONATTR_SOULGAIN then
    some (Reading (fun value => { soul with soulGain := value }) (read32 bytes))
  else if attr = CONDITIONATTR_SOULTICKS then
    some (Reading (fun value => { soul with soulTicks := value }) (read32 bytes))
  else none

/-- The next skill or stat is read; none is behind the last. -/
def ConditionAttributes.unserializeProp (attributes : ConditionAttributes)
    (bytes : List UInt8) : Option (Read ConditionAttributes) :=
  if attr = CONDITIONATTR_SKILLS then
    some (Skill.all[attributes.currentSkill]?.bind fun skill =>
      Reading (fun value => { attributes with
        skills := Function.update attributes.skills skill value.toInt32
        currentSkill := attributes.currentSkill + 1 }) (read32 bytes))
  else if attr = CONDITIONATTR_STATS then
    some (Stat.all[attributes.currentStat]?.bind fun stat =>
      Reading (fun value => { attributes with
        stats := Function.update attributes.stats stat value.toInt32
        currentStat := attributes.currentStat + 1 }) (read32 bytes))
  else if attr = CONDITIONATTR_DISABLEDEFENSE then
    some (Reading (fun value => { attributes with disableDefense := value }) (readBool bytes))
  else none

namespace Condition

/-- A round of damage is read behind those that were. -/
def pushDamage (now : Int) (condition : Condition) (damage : ConditionDamage)
    (info : IntervalInfo) : Condition :=
  let pushed := { condition with
    state := .damage { damage with damageList := damage.damageList ++ [info] } }
  if condition.ticks ≠ -1 then pushed.setTicks now (condition.ticks + info.interval) else pushed

/-- The fields of the class, and otherwise those of all conditions. -/
def orBase {α : Type} (attr : UInt8) (condition : Condition) (bytes : List UInt8)
    (state : α → State) (read : Option (Read α)) : Read Condition :=
  match read with
  | some read => Reading (fun own => { condition with state := state own }) read
  | none => condition.unserializeBase attr bytes

/-- `unserializeProp` of the classes: the condition, and what is left of the stream. -/
def unserializeProp (now : Int) (attr : UInt8) (condition : Condition) (bytes : List UInt8) :
    Read Condition :=
  match condition.state with
  | .plain => condition.unserializeBase attr bytes
  | .damage damage =>
    if attr = CONDITIONATTR_INTERVALDATA then
      Reading (condition.pushDamage now damage) (IntervalInfo.read bytes)
    else condition.orBase attr bytes .damage (damage.unserializeProp attr bytes)
  | .speed speed => condition.orBase attr bytes .speed (speed.unserializeProp attr bytes)
  | .outfit _ =>
    if attr = CONDITIONATTR_OUTFIT then
      Reading (fun outfit => { condition with state := .outfit outfit }) (Outfit_t.read bytes)
    else condition.unserializeBase attr bytes
  | .light light => condition.orBase attr bytes .light (light.unserializeProp attr bytes)
  | .regeneration regeneration =>
    condition.orBase attr bytes .regeneration (regeneration.unserializeProp attr bytes)
  | .soul soul => condition.orBase attr bytes .soul (soul.unserializeProp attr bytes)
  | .attributes attributes =>
    condition.orBase attr bytes .attributes (attributes.unserializeProp attr bytes)

/-- `Condition::unserialize`, of at most so many fields: the condition if its fields could be
read, and what is left of the stream. A field that cannot be read takes only its tag. -/
def unserialize (now : Int) : Nat → Condition → List UInt8 → Option Condition × List UInt8
  | _, condition, [] => (some condition, [])
  | 0, _, bytes => (none, bytes)
  | fuel + 1, condition, attr :: bytes =>
    if attr = CONDITIONATTR_END then (some condition, bytes)
    else
      match condition.unserializeProp now attr bytes with
      | some (condition, bytes) => unserialize now fuel condition bytes
      | none => (none, bytes)

end Condition

/-- A tag that is expected; any byte is taken for it. -/
def expect (attr : UInt8) : List UInt8 → Except (List UInt8) (List UInt8)
  | [] => .error []
  | byte :: bytes => if byte = attr then .ok bytes else .error bytes

/-- A value that is expected. -/
def expectValue {α : Type} (read : List UInt8 → Read α) (bytes : List UInt8) :
    Except (List UInt8) (α × List UInt8) :=
  match read bytes with
  | some (value, rest) => .ok (value, rest)
  | none => .error bytes

/-- `Condition::createCondition` of a stream; when there is no condition, what is left of the
stream then. -/
def createConditionFrom : Except (List UInt8) (Condition × List UInt8) := do
  let bytes ← expect CONDITIONATTR_TYPE bytes
  let (type, bytes) ← expectValue read32 bytes
  let bytes ← expect CONDITIONATTR_ID bytes
  let (id, bytes) ← expectValue read32 bytes
  let bytes ← expect CONDITIONATTR_TICKS bytes
  let (ticks, bytes) ← expectValue read32 bytes
  let bytes ← expect CONDITIONATTR_ISBUFF bytes
  let (buff, bytes) ← expectValue readBool bytes
  let bytes ← expect CONDITIONATTR_SUBID bytes
  let (subId, bytes) ← expectValue read32 bytes
  let bytes ← expect CONDITIONATTR_ISAGGRESSIVE bytes
  let (aggressive, bytes) ← expectValue readBool bytes
  match createCondition id.toInt32.toInt8 type.toUInt64 ticks.toInt32 0 buff subId aggressive with
  | some condition => .ok (condition, bytes)
  | none => .error bytes

/-- The loop of `loadPlayer`, of at most so many conditions: the stored conditions, and what is
left of the stream. -/
def loadConditions (now : Int) :
    Nat → List Condition → List UInt8 → List Condition × List UInt8
  | 0, stored, bytes => (stored, bytes)
  | fuel + 1, stored, bytes =>
    match createConditionFrom bytes with
    | .error rest => (stored, rest)
    | .ok (condition, rest) =>
      match condition.unserialize now rest.length rest with
      | (some condition, rest) => loadConditions now fuel (condition :: stored) rest
      | (none, rest) => loadConditions now fuel stored rest

/-- `loadPlayer`: each condition takes a byte at least. -/
def loadPlayer (now : Int) (bytes : List UInt8) : List Condition × List UInt8 :=
  loadConditions now (bytes.length + 1) [] bytes

/-! ## What is to be restored -/

/-- The same state, as far as it governs what the condition does later. -/
def State.SameEffect : State → State → Prop
  | .plain, .plain => True
  | .damage one, .damage other => one.damageList = other.damageList ∧
      one.periodDamage = other.periodDamage ∧ one.delayed = other.delayed ∧
      (one.periodDamage ≠ 0 → one.tickInterval = other.tickInterval)
  | .speed one, .speed other => one = other
  | .outfit one, .outfit other => one = other
  | .light one, .light other => one = other
  | .regeneration one, .regeneration other => one = other
  | .soul one, .soul other => one = other
  | .attributes one, .attributes other => one.skills = other.skills ∧ one.stats = other.stats ∧
      one.specialSkills = other.specialSkills ∧ one.disableDefense = other.disableDefense
  | _, _ => False

/-- The condition that was loaded is the one that was saved. -/
structure Condition.Restored (saved loaded : Condition) : Prop where
  conditionType : loaded.conditionType = saved.conditionType
  id : loaded.id = saved.id
  subId : loaded.subId = saved.subId
  isBuff : loaded.isBuff = saved.isBuff
  aggressive : loaded.aggressive = saved.aggressive
  ticks : loaded.ticks = saved.ticks
  state : saved.state.SameEffect loaded.state

/-- Every persistent condition is restored, and nothing is left of the stream. The conditions
are stored in front of each other. -/
def RestoresAll (now : Int) (conditions : List Condition) : Prop :=
  ∃ stored, loadPlayer now (savePlayer conditions) = (stored, []) ∧
    List.Forall₂ Condition.Restored (conditions.filter Condition.isPersistent) stored.reverse

/-- The ticks that a list of damage is given as it is read. -/
def ticksOf (damageList : List IntervalInfo) : Int32 :=
  damageList.foldl (fun ticks info => if ticks ≠ -1 then ticks + info.interval else ticks) 0

/-- The state is written whole, and read back with the ticks. -/
def State.Kept (ticks : Int32) : State → Prop
  | .damage own => ticks = ticksOf own.damageList ∧
      (own.periodDamage ≠ 0 → own.tickInterval = 2000)
  | .attributes own => ∀ skill, own.specialSkills skill = 0
  | _ => True

/-- What a condition has to be like to be restored: its type is written in 32 bits, it has none
of the marks that the constructors confuse, and its state is written whole. -/
structure Condition.Kept (condition : Condition) : Prop where
  narrow : condition.conditionType < 2 ^ 32
  isBuff : condition.isBuff = false
  subId : condition.subId = 0
  aggressive : condition.aggressive = false
  state : condition.state.Kept condition.ticks

end Otserv.ConditionStream
