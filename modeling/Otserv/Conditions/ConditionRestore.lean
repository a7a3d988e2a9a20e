import Otserv.Conditions.ConditionSerialize

/-!
# Saved conditions are restored

What a player's conditions write is read back whole, each with its kind and most of its state.
A player gets all of them back exactly when each can be written whole (`restoresAll_iff`): the
marks of a condition arrive one place early as it is made again, a type of more than 32 bits
cannot be read and ends the reading, special skills and the interval of a periodic damage are
not written, and the ticks of damage are summed up again from its list.
-/

namespace Otserv.ConditionStream

open Foundation Conditions Equipment

/-! ## Values are read back -/

@[simp] theorem read16_write16 (value : UInt16) (rest : List UInt8) :
    read16 (write16 value ++ rest) = some (value, rest) := by
  have bound : value.toNat % 256 ^ 2 = value.toNat := Nat.mod_eq_of_lt value.toNat_lt
  rw [read16, write16, readNat_writeNat, bound, Option.map_some]
  exact congrArg (fun value => some (value, rest)) UInt16.ofNat_toNat

@[simp] theorem read32_write32 (value : UInt32) (rest : List UInt8) :
    read32 (write32 value ++ rest) = some (value, rest) := by
  have bound : value.toNat % 256 ^ 4 = value.toNat := Nat.mod_eq_of_lt value.toNat_lt
  rw [read32, write32, readNat_writeNat, bound, Option.map_some]
  exact congrArg (fun value => some (value, rest)) UInt32.ofNat_toNat

@[simp] theorem readBool_writeBool (value : Bool) (rest : List UInt8) :
    readBool (writeBool value ++ rest) = some (value, rest) := by
  cases value <;> rfl

theorem read_write_info (info : IntervalInfo) (rest : List UInt8) :
    IntervalInfo.read (info.write ++ rest) = some (info, rest) := by
  simp only [IntervalInfo.read, IntervalInfo.write, List.append_assoc, read32_write32,
    Option.bind_eq_bind, Option.bind_some, Int32.toInt32_toUInt32]

theorem read_write_outfit (outfit : Outfit_t) (rest : List UInt8) :
    Outfit_t.read (outfit.write ++ rest) = some (outfit, rest) := by
  rw [Outfit_t.read, Outfit_t.write]
  simp only [List.append_assoc, Option.bind_eq_bind]
  rw [read16_write16, Option.bind_some, read16_write16, Option.bind_some, read16_write16,
    Option.bind_some, read16_write16, Option.bind_some, read16_write16, Option.bind_some,
    read16_write16, Option.bind_some]
  rfl

/-! ## Fields in a row -/

variable (now : Int)

/-- Reading the fields takes a condition to another. -/
def Fields (condition : Condition) (bytes : List UInt8) (after : Condition) : Prop :=
  ∀ fuel rest, (bytes ++ rest).length ≤ fuel → ∃ left, rest.length ≤ left ∧
    condition.unserialize now fuel (bytes ++ rest) = after.unserialize now left rest

namespace Fields

variable {now : Int} {condition between after : Condition} {bytes more : List UInt8}

theorem nil : Fields now condition [] condition :=
  fun fuel _ enough => ⟨fuel, enough, rfl⟩

theorem append (first : Fields now condition bytes between)
    (second : Fields now between more after) : Fields now condition (bytes ++ more) after := by
  intro fuel rest enough
  rw [List.append_assoc] at enough ⊢
  obtain ⟨left, still, same⟩ := first fuel (more ++ rest) enough
  obtain ⟨last, enoughLast, sameLast⟩ := second left rest still
  exact ⟨last, enoughLast, same.trans sameLast⟩

variable {attr : UInt8}

theorem field {payload : List UInt8} (noEnd : attr ≠ CONDITIONATTR_END)
    (reads : ∀ rest, condition.unserializeProp now attr (payload ++ rest) = some (after, rest)) :
    Fields now condition (attr :: payload) after := by
  intro fuel rest enough
  cases fuel with
  | zero => simp only [List.cons_append, List.length_cons, Nat.le_zero, reduceCtorEq] at enough
  | succ fuel =>
    rw [List.cons_append, List.length_cons, List.length_append] at enough
    refine ⟨fuel, by omega, ?_⟩
    rw [List.cons_append, Condition.unserialize, if_neg noEnd, reads]

theorem finish (fields : Fields now condition bytes after) (rest : List UInt8) :
    condition.unserialize now (bytes ++ CONDITIONATTR_END :: rest).length
      (bytes ++ CONDITIONATTR_END :: rest) = (some after, rest) := by
  obtain ⟨left, enough, same⟩ := fields _ (CONDITIONATTR_END :: rest) (Nat.le_refl _)
  rw [same]
  cases left with
  | zero => simp only [List.length_cons, Nat.le_zero, reduceCtorEq] at enough
  | succ left => rw [Condition.unserialize, if_pos rfl]

theorem word {α : Type} {value : UInt32} (state : α → Condition)
    (change : UInt32 → α) (noEnd : attr ≠ CONDITIONATTR_END)
    (reads : ∀ bytes, condition.unserializeProp now attr bytes =
      Reading state (Reading change (read32 bytes))) :
    Fields now condition (attr :: write32 value) (state (change value)) :=
  field noEnd fun rest => by
    rw [reads, read32_write32]
    rfl

theorem flag {α : Type} {value : Bool} (state : α → Condition)
    (change : Bool → α) (noEnd : attr ≠ CONDITIONATTR_END)
    (reads : ∀ bytes, condition.unserializeProp now attr bytes =
      Reading state (Reading change (readBool bytes))) :
    Fields now condition (attr :: writeBool value) (state (change value)) :=
  field noEnd fun rest => by
    rw [reads, readBool_writeBool]
    rfl

end Fields

/-! ## The fields of the classes -/

/-- The condition with another state. -/
def Condition.with_ (condition : Condition) (state : State) : Condition :=
  { condition with state }

section Classes

variable (now : Int) (condition : Condition)

theorem speed_fields (start own : ConditionSpeed) :
    Fields now (condition.with_ (.speed start)) own.serialize (condition.with_ (.speed own)) := by
  exact ((((Fields.word (condition.with_ <| .speed ·)
        ({ start with speedDelta := ·.toInt32 }) (by decide) fun _ => rfl).append
      (.word (condition.with_ <| .speed ·)
        ({ start with speedDelta := own.speedDelta, mina := · }) (by decide) fun _ => rfl)).append
      (.word (condition.with_ <| .speed ·)
        ({ own with minb := ·, maxa := start.maxa, maxb := start.maxb }) (by decide)
        fun _ => rfl)).append
      (.word (condition.with_ <| .speed ·)
        ({ own with maxa := ·, maxb := start.maxb }) (by decide) fun _ => rfl)).append
      (.word (condition.with_ <| .speed ·) ({ own with maxb := · }) (by decide)
        fun _ => rfl)

theorem light_fields (start own : ConditionLight) :
    Fields now (condition.with_ (.light start)) own.serialize (condition.with_ (.light own)) := by
  have color : own.color.toUInt32.toUInt8 = own.color := own.color.toUInt8_toUInt32
  have level : own.level.toUInt32.toUInt8 = own.level := own.level.toUInt8_toUInt32
  let read (ticks interval : UInt32) : ConditionLight :=
    ⟨own.level.toUInt32.toUInt8, own.color.toUInt32.toUInt8, ticks, interval⟩
  have fields : Fields now (condition.with_ (.light start)) own.serialize
      (condition.with_ (.light (read own.internalLightTicks own.lightChangeInterval))) := by
    exact (((Fields.word (condition.with_ <| .light ·)
        ({ start with color := ·.toUInt8 }) (by decide) fun _ => rfl).append
      (.word (condition.with_ <| .light ·)
        ({ start with color := own.color.toUInt32.toUInt8, level := ·.toUInt8 }) (by decide)
        fun _ => rfl)).append
      (.word (condition.with_ <| .light ·) (read · start.lightChangeInterval) (by decide)
        fun _ => rfl)).append
      (.word (condition.with_ <| .light ·) (read own.internalLightTicks ·) (by decide)
        fun _ => rfl)
  have same : read own.internalLightTicks own.lightChangeInterval = own := by
    rw [show read own.internalLightTicks own.lightChangeInterval =
      ⟨own.level.toUInt32.toUInt8, own.color.toUInt32.toUInt8, own.internalLightTicks,
        own.lightChangeInterval⟩ from rfl, color, level]
  rwa [same] at fields

theorem regeneration_fields (start own : ConditionRegeneration) :
    Fields now (condition.with_ (.regeneration start)) own.serialize
      (condition.with_ (.regeneration own)) := by
  exact (((Fields.word (condition.with_ <| .regeneration ·)
        ({ start with healthTicks := · }) (by decide) fun _ => rfl).append
      (.word (condition.with_ <| .regeneration ·)
        ({ start with healthTicks := own.healthTicks, healthGain := · }) (by decide)
        fun _ => rfl)).append
      (.word (condition.with_ <| .regeneration ·)
        ({ own with manaTicks := ·, manaGain := start.manaGain }) (by decide) fun _ => rfl)).append
      (.word (condition.with_ <| .regeneration ·) ({ own with manaGain := · }) (by decide)
        fun _ => rfl)

theorem soul_fields (start own : ConditionSoul) :
    Fields now (condition.with_ (.soul start)) own.serialize (condition.with_ (.soul own)) := by
  exact (Fields.word (condition.with_ <| .soul ·) ({ start with soulGain := · }) (by decide)
        fun _ => rfl).append
      (.word (condition.with_ <| .soul ·) ({ own with soulTicks := · }) (by decide)
        fun _ => rfl)

theorem outfit_fields (start own : Outfit_t) :
    Fields now (condition.with_ (.outfit start)) (CONDITIONATTR_OUTFIT :: own.write)
      (condition.with_ (.outfit own)) := by
  apply Fields.field (by decide)
  intro rest
  have reads : (condition.with_ (.outfit start)).unserializeProp now CONDITIONATTR_OUTFIT
      (own.write ++ rest) =
        Reading (fun outfit => condition.with_ (.outfit outfit))
          (Outfit_t.read (own.write ++ rest)) := rfl
  rw [reads, read_write_outfit]
  rfl

theorem interval_field (ticks : Int32) (endTime : Int) (start : ConditionDamage)
    (info : IntervalInfo) :
    ∃ later, Fields now { condition with ticks, endTime, state := .damage start }
      (CONDITIONATTR_INTERVALDATA :: info.write)
      { condition with
        ticks := if ticks ≠ -1 then ticks + info.interval else ticks
        endTime := later
        state := .damage { start with damageList := start.damageList ++ [info] } } := by
  have reads (rest : List UInt8) :
      ({ condition with ticks, endTime, state := .damage start } : Condition).unserializeProp now
          CONDITIONATTR_INTERVALDATA (info.write ++ rest) =
        some (({ condition with ticks, endTime, state := .damage start } : Condition).pushDamage
          now start info, rest) := by
    have own : ({ condition with ticks, endTime, state := .damage start } :
        Condition).unserializeProp now CONDITIONATTR_INTERVALDATA (info.write ++ rest) =
          Reading (.pushDamage now _ start) (IntervalInfo.read (info.write ++ rest)) := rfl
    rw [own, read_write_info]
    rfl
  have field := Fields.field (by decide) reads
  by_cases endless : ticks = -1
  · refine ⟨endTime, ?_⟩
    rw [Condition.pushDamage, if_neg (not_not_intro endless)] at field
    rwa [if_neg (not_not_intro endless)]
  · refine ⟨(ticks + info.interval).toInt + now, ?_⟩
    rw [Condition.pushDamage, if_pos endless] at field
    rwa [if_pos endless]

/-- The rounds of damage are read in their order, and their intervals are summed up. -/
theorem damageList_fields (infos : List IntervalInfo) (ticks : Int32) (endTime : Int)
    (start : ConditionDamage) :
    ∃ later, Fields now { condition with ticks, endTime, state := .damage start }
      (infos.flatMap fun info => CONDITIONATTR_INTERVALDATA :: info.write)
      { condition with
        ticks := infos.foldl (fun ticks info =>
          if ticks ≠ -1 then ticks + info.interval else ticks) ticks
        endTime := later
        state := .damage { start with damageList := start.damageList ++ infos } } := by
  induction infos generalizing ticks endTime start with
  | nil =>
    refine ⟨endTime, ?_⟩
    rw [List.append_nil]
    exact .nil
  | cons info infos ih =>
    obtain ⟨between, first⟩ := interval_field now condition ticks endTime start info
    obtain ⟨later, rest⟩ := ih (if ticks ≠ -1 then ticks + info.interval else ticks) between
      { start with damageList := start.damageList ++ [info] }
    refine ⟨later, ?_⟩
    rw [List.append_assoc] at rest
    exact first.append rest

theorem damage_fields (own : ConditionDamage) :
    ∃ later, Fields now (condition.with_ (.damage {})) own.serialize
      { condition with
        ticks := own.damageList.foldl (fun ticks info =>
          if ticks ≠ -1 then ticks + info.interval else ticks) condition.ticks
        endTime := later
        state := .damage {
          delayed := own.delayed
          periodDamage := own.periodDamage
          damageList := own.damageList } } := by
  have flags : Fields now (condition.with_ (.damage {}))
      (CONDITIONATTR_DELAYED :: writeBool own.delayed ++
        CONDITIONATTR_PERIODDAMAGE :: write32 own.periodDamage.toUInt32)
      (condition.with_ (.damage { delayed := own.delayed, periodDamage := own.periodDamage })) :=
    (Fields.flag (condition.with_ <| .damage ·) ({ delayed := · }) (by decide) fun _ => rfl).append
      (.word (condition.with_ <| .damage ·)
        ({ delayed := own.delayed, periodDamage := ·.toInt32 }) (by decide) fun _ => rfl)
  obtain ⟨later, list⟩ := damageList_fields now condition own.damageList condition.ticks
    condition.endTime { delayed := own.delayed, periodDamage := own.periodDamage }
  exact ⟨later, flags.append list⟩

theorem array_fields {ι : Type} [DecidableEq ι] (all : List ι) (attr : UInt8)
    (noEnd : attr ≠ CONDITIONATTR_END) (set : (ι → Int32) → Nat → Condition)
    (reads : ∀ array place index bytes, all[place]? = some index →
      (set array place).unserializeProp now attr bytes =
        Reading (fun value => set (Function.update array index value) (place + 1))
          (Reading UInt32.toInt32 (read32 bytes)))
    (values : ι → Int32) (before behind : List ι) (split : all = before ++ behind)
    (array : ι → Int32) :
    Fields now (set array before.length)
      (behind.flatMap fun index => attr :: write32 (values index).toUInt32)
      (set (fun index => if index ∈ behind then values index else array index) all.length) := by
  induction behind generalizing before array with
  | nil =>
    rw [List.append_nil] at split
    rw [split]
    exact .nil
  | cons index behind ih =>
    have next : all[before.length]? = some index := by
      rw [split, List.getElem?_append_right (Nat.le_refl _), Nat.sub_self]
      rfl
    have first : Fields now (set array before.length)
        (attr :: write32 (values index).toUInt32)
        (set (Function.update array index (values index)) (before.length + 1)) :=
      .word _ _ noEnd fun bytes => reads array before.length index bytes next
    have rest := ih (before ++ [index]) (by rw [split, List.append_assoc]; rfl)
      (Function.update array index (values index))
    rw [List.length_append, List.length_singleton] at rest
    have merged : (fun other => if other ∈ behind then values other
        else Function.update array index (values index) other) =
          fun other => if other ∈ index :: behind then values other else array other := by
      funext other
      by_cases same : other = index
      · subst same
        simp only [Function.update_self, ite_self, List.mem_cons_self, if_true]
      · simp only [Function.update_of_ne same, List.mem_cons, same, false_or]
    rw [merged] at rest
    exact first.append rest

theorem attributes_fields (own : ConditionAttributes) :
    Fields now (condition.with_ (.attributes {})) own.serialize
      (condition.with_ (.attributes {
        skills := own.skills
        stats := own.stats
        currentSkill := Skill.all.length
        currentStat := Stat.all.length
        disableDefense := own.disableDefense })) := by
  have allSkills : (fun skill => if skill ∈ Skill.all then own.skills skill else 0) =
      own.skills := by
    funext skill
    cases skill <;> rfl
  have allStats : (fun stat => if stat ∈ Stat.all then own.stats stat else 0) = own.stats := by
    funext stat
    cases stat <;> rfl
  have skills : Fields now (condition.with_ (.attributes {}))
      (Skill.all.flatMap fun skill => CONDITIONATTR_SKILLS :: write32 (own.skills skill).toUInt32)
      (condition.with_ (.attributes {
        skills := own.skills
        currentSkill := Skill.all.length })) := by
    rw [← allSkills]
    apply array_fields now Skill.all CONDITIONATTR_SKILLS (by decide)
      (fun skills currentSkill => condition.with_ (.attributes { skills, currentSkill }))
      (fun skills currentSkill index bytes next => ?_) own.skills [] Skill.all rfl
    have read : (condition.with_ (.attributes { skills, currentSkill })).unserializeProp now
        CONDITIONATTR_SKILLS bytes =
          Reading (condition.with_ <| .attributes ·) (Skill.all[currentSkill]?.bind fun skill =>
            Reading (fun value => {
              skills := Function.update skills skill value.toInt32
              currentSkill := currentSkill + 1 }) (read32 bytes)) := rfl
    rw [read, next]
    cases read32 bytes <;> rfl
  have stats : Fields now
      (condition.with_ (.attributes {
        skills := own.skills
        currentSkill := Skill.all.length }))
      (Stat.all.flatMap fun stat => CONDITIONATTR_STATS :: write32 (own.stats stat).toUInt32)
      (condition.with_ (.attributes {
        skills := own.skills
        stats := own.stats
        currentSkill := Skill.all.length
        currentStat := Stat.all.length })) := by
    rw [← allStats]
    apply array_fields now Stat.all CONDITIONATTR_STATS (by decide)
      (fun stats currentStat => condition.with_ (.attributes {
        skills := own.skills
        stats
        currentSkill := Skill.all.length
        currentStat }))
      (fun stats currentStat index bytes next => ?_) own.stats [] Stat.all rfl
    have read : (condition.with_ (.attributes {
        skills := own.skills
        stats
        currentSkill := Skill.all.length
        currentStat })).unserializeProp now CONDITIONATTR_STATS bytes =
          Reading (condition.with_ <| .attributes ·) (Stat.all[currentStat]?.bind fun stat =>
            Reading (fun value => {
              skills := own.skills
              stats := Function.update stats stat value.toInt32
              currentSkill := Skill.all.length
              currentStat := currentStat + 1 }) (read32 bytes)) := rfl
    rw [read, next]
    cases read32 bytes <;> rfl
  exact (skills.append stats).append (.flag (condition.with_ <| .attributes ·)
    (fun disableDefense => {
      skills := own.skills
      stats := own.stats
      currentSkill := Skill.all.length
      currentStat := Stat.all.length
      disableDefense }) (by decide) fun _ => rfl)

end Classes

/-! ## States and classes -/

/-- The state that a condition of the class is read into. -/
def State.fresh : State → State
  | .plain => .plain
  | .damage _ => .damage {}
  | .speed _ => .speed { speedDelta := 0 }
  | .outfit _ => .outfit {}
  | .light _ => .light { level := 0, color := 0 }
  | .regeneration _ => .regeneration {}
  | .soul _ => .soul {}
  | .attributes _ => .attributes {}

/-- The state that is read. -/
def State.loaded : State → State
  | .damage own => .damage {
      delayed := own.delayed
      periodDamage := own.periodDamage
      damageList := own.damageList }
  | .attributes own => .attributes {
      skills := own.skills
      stats := own.stats
      currentSkill := Skill.all.length
      currentStat := Stat.all.length
      disableDefense := own.disableDefense }
  | state => state

variable (ticks : Int32)

/-- The ticks that a condition is made with, and has when its state is read. -/
def State.loadedTicks : State → Int32
  | .damage own => ticksOf own.damageList
  | _ => ticks

def State.freshTicks : State → Int32
  | .damage _ => 0
  | _ => ticks

variable (state : State)

theorem State.freshTicks_fresh :
    state.freshTicks (state.freshTicks ticks) = state.freshTicks ticks := by
  cases state <;> rfl

theorem State.loadedTicks_fresh :
    state.loadedTicks (state.freshTicks ticks) = state.loadedTicks ticks := by
  cases state <;> rfl

/-- The state is one of the class. -/
inductive Matches : ConditionClass → State → Prop
  | damage (own : ConditionDamage) : Matches .damage (.damage own)
  | speed (own : ConditionSpeed) : Matches .speed (.speed own)
  | outfit (own : Outfit_t) : Matches .outfit (.outfit own)
  | light (own : ConditionLight) : Matches .light (.light own)
  | regeneration (own : ConditionRegeneration) : Matches .regeneration (.regeneration own)
  | soul (own : ConditionSoul) : Matches .soul (.soul own)
  | attributes (own : ConditionAttributes) : Matches .attributes (.attributes own)
  | status : Matches .status .plain
  | invisible : Matches .invisible .plain
  | spellCooldown : Matches .spellCooldown .plain
  | spellGroupCooldown : Matches .spellGroupCooldown .plain
  | generic : Matches .generic .plain
  | bonus : Matches .bonus .plain

theorem state_fields (condition : Condition) (state : State)
    (ticks : condition.ticks = state.freshTicks condition.ticks) :
    ∃ later, Fields now (condition.with_ state.fresh) state.serialize
      { condition with
        ticks := state.loadedTicks condition.ticks
        endTime := later
        state := state.loaded } := by
  cases state with
  | plain => exact ⟨condition.endTime, .nil⟩
  | damage own =>
    obtain ⟨later, fields⟩ := damage_fields now condition own
    have zero : condition.ticks = 0 := ticks
    rw [zero] at fields
    exact ⟨later, fields⟩
  | speed own => exact ⟨condition.endTime, speed_fields now condition _ own⟩
  | outfit own => exact ⟨condition.endTime, outfit_fields now condition _ own⟩
  | light own => exact ⟨condition.endTime, light_fields now condition _ own⟩
  | regeneration own => exact ⟨condition.endTime, regeneration_fields now condition _ own⟩
  | soul own => exact ⟨condition.endTime, soul_fields now condition _ own⟩
  | attributes own => exact ⟨condition.endTime, attributes_fields now condition own⟩

variable {type : UInt64} {conditionClass : ConditionClass} {condition : Condition}

theorem createCondition_fresh {state : State}
    (ofClass : classOf type = some conditionClass) (same : Matches conditionClass state)
    (id : Int8) (ticks : Int32) (buff : Bool) (subId : UInt32) (aggressive : Bool) :
    createCondition id type ticks 0 buff subId aggressive =
      some (base id type (state.freshTicks ticks) buff subId aggressive state.fresh) := by
  rw [createCondition, ofClass]
  cases same <;> rfl

/-- A condition has the state of the class that its type is made with. -/
def Condition.WellTyped (condition : Condition) : Prop :=
  ∃ conditionClass, classOf condition.conditionType = some conditionClass ∧
    Matches conditionClass condition.state

/-! ## Reachable conditions are well typed -/

theorem createCondition_wellTyped {id : Int8} {ticks param : Int32} {buff : Bool}
    {subId : UInt32} {aggressive : Bool}
    (created : createCondition id type ticks param buff subId aggressive = some condition) :
    condition.WellTyped := by
  rw [createCondition] at created
  cases ofClass : classOf type with
  | none =>
    rw [ofClass] at created
    cases created
  | some conditionClass =>
    rw [ofClass] at created
    cases conditionClass <;> cases created <;> exact ⟨_, ofClass, by constructor⟩

theorem classOf_speedType (value : Int32) : classOf (speedType value).flag = some .speed := by
  rw [speedType]
  split_ifs <;> decide +kernel

/-- A condition of the same type and kind. -/
structure Condition.Likewise (condition after : Condition) : Prop where
  conditionType : after.conditionType = condition.conditionType
  state {conditionClass : ConditionClass} (same : Matches conditionClass condition.state) :
    Matches conditionClass after.state

theorem Condition.Likewise.wellTyped {condition after : Condition}
    (likewise : condition.Likewise after) (wellTyped : condition.WellTyped) : after.WellTyped := by
  obtain ⟨conditionClass, ofClass, same⟩ := wellTyped
  exact ⟨conditionClass, by rw [likewise.conditionType, ofClass], likewise.state same⟩

theorem matches_setParam {state : State}
    (same : Matches conditionClass state) (param : Param) (value : Int32) :
    Matches conditionClass (state.setParam param value) := by
  cases same with
  | speed own => cases param <;> constructor
  | _ => constructor

theorem setBaseParam_type (condition : Condition) (param : Param) (value : Int32) :
    (condition.setBaseParam param value).conditionType = condition.conditionType ∨
      (∃ own, condition.state = .speed own) ∧
        (condition.setBaseParam param value).conditionType = (speedType value).flag := by
  unfold Condition.setBaseParam
  split
  case h_5 own ofSpeed => exact .inr ⟨⟨own, ofSpeed⟩, rfl⟩
  all_goals exact .inl rfl

theorem setParam_wellTyped (wellTyped : condition.WellTyped)
    (param : Param) (value : Int32) : (condition.setParam param value).WellTyped := by
  obtain ⟨conditionClass, ofClass, same⟩ := wellTyped
  rcases setBaseParam_type condition param value with kept | ⟨⟨own, ofSpeed⟩, changed⟩
  · exact ⟨conditionClass, (congrArg classOf kept).trans ofClass, matches_setParam same param value⟩
  · have speed : Matches .speed condition.state := by
      rw [ofSpeed]
      constructor
    exact ⟨.speed, (congrArg classOf changed).trans (classOf_speedType value),
      matches_setParam speed param value⟩

theorem start_likewise {condition started : Condition} (moment : Moment)
    (starts : condition.startCondition moment = some started) : condition.Likewise started := by
  obtain ⟨id, type, endTime, subId, ticks, isBuff, aggressive, state⟩ := condition
  cases state with
  | damage own =>
    simp only [Condition.startCondition] at starts
    split_ifs at starts <;> cases starts <;>
      exact ⟨rfl, fun same => by cases same; constructor⟩
  | light own =>
    simp only [Condition.startCondition, Option.map_eq_some_iff] at starts
    obtain ⟨light, -, rfl⟩ := starts
    split_ifs <;> exact ⟨rfl, fun same => by cases same; constructor⟩
  | speed own | attributes own =>
    simp only [Condition.startCondition, Option.some_inj] at starts
    subst starts
    split_ifs <;> exact ⟨rfl, fun same => by cases same; constructor⟩
  | plain | outfit own | regeneration own | soul own =>
    simp only [Condition.startCondition, Option.some_inj] at starts
    subst starts
    split_ifs <;> exact ⟨rfl, fun same => same⟩

theorem executeBase_likewise {condition executed : Condition} {moment : Moment} {interval : Int32}
    (lasts : condition.executeBase moment interval = some executed) :
    condition.Likewise executed := by
  rw [Condition.executeBase] at lasts
  split_ifs at lasts <;> cases lasts <;> exact ⟨rfl, fun same => same⟩

theorem execute_likewise {condition executed : Condition} (moment : Moment) (interval : Int32)
    (lasts : condition.executeCondition moment interval = some executed) :
    condition.Likewise executed := by
  obtain ⟨id, type, endTime, subId, ticks, isBuff, aggressive, state⟩ := condition
  cases state with
  | damage own =>
    have likewise := executeBase_likewise lasts
    split_ifs at likewise <;>
      exact ⟨likewise.conditionType, fun same => by
        cases same
        exact likewise.state (.damage _)⟩
  | light own =>
    have likewise := executeBase_likewise lasts
    exact ⟨likewise.conditionType, fun same => by
      cases same
      exact likewise.state (.light _)⟩
  | _ => exact executeBase_likewise lasts

theorem replaceDamage_likewise (moment : Moment) (condition addCondition : Condition)
    (damage added : ConditionDamage) (ofDamage : condition.state = .damage damage) :
    condition.Likewise (condition.replaceDamage moment damage addCondition added) := by
  have kind {conditionClass : ConditionClass} (same : Matches conditionClass condition.state)
      (other : ConditionDamage) : Matches conditionClass (.damage other) := by
    rw [ofDamage] at same
    cases same
    constructor
  simp only [Condition.replaceDamage]
  split_ifs <;> exact ⟨rfl, fun same => kind same _⟩

theorem addCondition_likewise (moment : Moment) (condition addCondition : Condition) :
    condition.Likewise (condition.addCondition moment addCondition) := by
  obtain ⟨id, type, endTime, subId, ticks, isBuff, aggressive, state⟩ := condition
  obtain ⟨_, _, _, _, addTicks, _, _, added⟩ := addCondition
  cases state with
  | damage own =>
    cases added with
    | damage other =>
      simp only [Condition.addCondition]
      split_ifs
      · exact ⟨rfl, fun same => same⟩
      · exact ⟨rfl, fun same => same⟩
      · exact replaceDamage_likewise moment _ _ own other rfl
    | _ => exact ⟨rfl, fun same => same⟩
  | light own =>
    cases added with
    | light other =>
      simp only [Condition.addCondition]
      split_ifs
      · exact ⟨rfl, fun same => same⟩
      · split
        · exact ⟨rfl, fun same => same⟩
        · exact ⟨rfl, fun same => by cases same; constructor⟩
    | _ => exact ⟨rfl, fun same => same⟩
  | _ =>
    cases added <;> first
      | exact ⟨rfl, fun same => same⟩
      | (simp only [Condition.addCondition]
         split_ifs <;> exact ⟨rfl, fun same => by cases same <;> constructor⟩)

/-- **What comes about is well typed.** -/
theorem Reachable.wellTyped (reachable : Reachable condition) : condition.WellTyped := by
  induction reachable with
  | create created => exact createCondition_wellTyped created
  | setParam _ param value ih => exact setParam_wellTyped ih param value
  | start _ moment starts ih => exact (start_likewise moment starts).wellTyped ih
  | execute _ moment interval lasts ih => exact (execute_likewise moment interval lasts).wellTyped ih
  | add _ _ moment ih => exact (addCondition_likewise moment _ _).wellTyped ih

/-! ## One condition -/

/-- A condition as it is read back. -/
structure Condition.ReadAs (condition after : Condition) : Prop where
  conditionType : after.conditionType = condition.conditionType
  id : after.id = condition.id
  subId : after.subId = boolToUint32 condition.aggressive
  isBuff : after.isBuff = uint32ToBool condition.subId
  aggressive : after.aggressive = false
  ticks : after.ticks = condition.state.loadedTicks condition.ticks
  state : after.state = condition.state.loaded

theorem classOf_narrowed (ofClass : classOf type = some conditionClass) :
    (type < 2 ^ 32 → type.toUInt32.toUInt64 = type) ∧
      (¬type < 2 ^ 32 → classOf type.toUInt32.toUInt64 = none) := by
  have each : ∀ named ∈ ConditionType.all,
      (named.flag < 2 ^ 32 → named.flag.toUInt32.toUInt64 = named.flag) ∧
        (¬named.flag < 2 ^ 32 → classOf named.flag.toUInt32.toUInt64 = none) := by
    decide +kernel
  rw [classOf, Option.bind_eq_some_iff] at ofClass
  obtain ⟨named, found, -⟩ := ofClass
  have isType : named.flag = type := by simpa only [decide_eq_true_eq] using List.find?_some found
  rw [← isType]
  exact each named (List.mem_of_find?_eq_some found)

@[simp] theorem expect_self (attr : UInt8) (bytes : List UInt8) :
    expect attr (attr :: bytes) = .ok bytes := if_pos rfl

@[simp] theorem expectValue_write32 (value : UInt32) (rest : List UInt8) :
    expectValue read32 (write32 value ++ rest) = .ok (value, rest) := by
  rw [expectValue, read32_write32]

@[simp] theorem expectValue_writeBool (value : Bool) (rest : List UInt8) :
    expectValue readBool (writeBool value ++ rest) = .ok (value, rest) := by
  rw [expectValue, readBool_writeBool]

theorem createConditionFrom_serializeBase (condition : Condition) (rest : List UInt8) :
    createConditionFrom (condition.serializeBase ++ rest) =
      match createCondition condition.id condition.conditionType.toUInt32.toUInt64
        condition.ticks 0 condition.isBuff condition.subId condition.aggressive with
      | some made => .ok (made, rest)
      | none => .error rest := by
  rw [createConditionFrom, Condition.serializeBase]
  cases isMade : createCondition condition.id condition.conditionType.toUInt32.toUInt64
    condition.ticks 0 condition.isBuff condition.subId condition.aggressive with
  | some made =>
    simp only [List.append_assoc, List.cons_append, expect_self, expectValue_write32, isMade,
      expectValue_writeBool, bind, Except.bind, Int32.toInt32_toUInt32, Int8.toInt8_toInt32]
  | none =>
    simp only [List.append_assoc, List.cons_append, expect_self, expectValue_write32, isMade,
      expectValue_writeBool, bind, Except.bind, Int32.toInt32_toUInt32, Int8.toInt8_toInt32]

theorem loadConditions_wide (wellTyped : condition.WellTyped)
    (wide : ¬condition.conditionType < 2 ^ 32) (now : Int) (fuel : Nat) (stored : List Condition)
    (rest : List UInt8) :
    loadConditions now (fuel + 1) stored (condition.serialize ++ CONDITIONATTR_END :: rest) =
      (stored, condition.state.serialize ++ CONDITIONATTR_END :: rest) := by
  obtain ⟨conditionClass, ofClass, -⟩ := wellTyped
  have none := (classOf_narrowed ofClass).2 wide
  rw [loadConditions, Condition.serialize, List.append_assoc, createConditionFrom_serializeBase,
    createCondition, none]

theorem loadConditions_narrow (wellTyped : condition.WellTyped)
    (narrow : condition.conditionType < 2 ^ 32) (now : Int) :
    ∃ after, condition.ReadAs after ∧ ∀ fuel stored rest,
      loadConditions now (fuel + 1) stored (condition.serialize ++ CONDITIONATTR_END :: rest) =
        loadConditions now fuel (after :: stored) rest := by
  obtain ⟨conditionClass, ofClass, same⟩ := wellTyped
  have kept := (classOf_narrowed ofClass).1 narrow
  have created := createCondition_fresh ofClass same condition.id condition.ticks
    condition.isBuff condition.subId condition.aggressive
  let made := base condition.id condition.conditionType
    (condition.state.freshTicks condition.ticks) condition.isBuff condition.subId
    condition.aggressive condition.state.fresh
  obtain ⟨later, fields⟩ := state_fields now made condition.state
    (condition.state.freshTicks_fresh condition.ticks).symm
  have ticks : condition.state.loadedTicks made.ticks =
      condition.state.loadedTicks condition.ticks :=
    condition.state.loadedTicks_fresh condition.ticks
  refine ⟨{ made with
    ticks := condition.state.loadedTicks made.ticks
    endTime := later
    state := condition.state.loaded },
    ⟨rfl, rfl, rfl, rfl, rfl, ticks, rfl⟩, fun fuel stored rest => ?_⟩
  have read : made.unserialize now (condition.state.serialize ++ CONDITIONATTR_END :: rest).length
      (condition.state.serialize ++ CONDITIONATTR_END :: rest) = _ := fields.finish rest
  rw [loadConditions, Condition.serialize, List.append_assoc,
    createConditionFrom_serializeBase, kept, created]
  dsimp only
  rw [read]

theorem State.kept_iff :
    state.Kept ticks ↔ state.loadedTicks ticks = ticks ∧ state.SameEffect state.loaded := by
  cases state with
  | damage own =>
    constructor
    · rintro ⟨sum, interval⟩
      exact ⟨sum.symm, rfl, rfl, rfl, interval⟩
    · rintro ⟨sum, -, -, -, interval⟩
      exact ⟨sum.symm, interval⟩
  | attributes own =>
    constructor
    · intro none
      exact ⟨rfl, rfl, rfl, funext none, rfl⟩
    · rintro ⟨-, -, -, none, -⟩
      exact congrFun none
  | plain => exact ⟨fun _ => ⟨rfl, trivial⟩, fun _ => trivial⟩
  | speed own | outfit own | light own | regeneration own | soul own =>
    exact ⟨fun _ => ⟨rfl, rfl⟩, fun _ => trivial⟩

theorem Condition.ReadAs.restored_iff {condition after : Condition}
    (readAs : condition.ReadAs after) :
    condition.Restored after ↔ condition.isBuff = false ∧ condition.subId = 0 ∧
      condition.aggressive = false ∧ condition.state.Kept condition.ticks := by
  rw [State.kept_iff]
  constructor
  · intro restored
    have aggressive : condition.aggressive = false := by
      rw [← restored.aggressive, readAs.aggressive]
    have subId : condition.subId = 0 := by
      rw [← restored.subId, readAs.subId, aggressive]
      rfl
    have isBuff : condition.isBuff = false := by
      rw [← restored.isBuff, readAs.isBuff, subId]
      rfl
    refine ⟨isBuff, subId, aggressive, ?_, ?_⟩
    · rw [← readAs.ticks, restored.ticks]
    · rw [← readAs.state]
      exact restored.state
  · rintro ⟨isBuff, subId, aggressive, ticks, state⟩
    exact
      { conditionType := readAs.conditionType
        id := readAs.id
        subId := by rw [readAs.subId, aggressive, subId]; rfl
        isBuff := by rw [readAs.isBuff, subId, isBuff]; rfl
        aggressive := by rw [readAs.aggressive, aggressive]
        ticks := by rw [readAs.ticks, ticks]
        state := by rw [readAs.state]; exact state }

/-! ## All conditions of a player -/

/-- What is written for conditions. -/
def written (conditions : List Condition) : List UInt8 :=
  conditions.flatMap fun condition => condition.serialize ++ [CONDITIONATTR_END]

theorem written_cons (condition : Condition) (conditions : List Condition) :
    written (condition :: conditions) =
      condition.serialize ++ CONDITIONATTR_END :: written conditions := by
  rw [written, List.flatMap_cons, List.append_assoc]
  rfl

theorem length_le_written (conditions : List Condition) :
    conditions.length ≤ (written conditions).length := by
  induction conditions with
  | nil => exact Nat.le_refl 0
  | cons condition conditions ih =>
    rw [written_cons, List.length_append, List.length_cons, List.length_cons]
    omega

theorem loadConditions_written (now : Int) (conditions : List Condition)
    (wellTyped : ∀ condition ∈ conditions, condition.WellTyped) (fuel : Nat)
    (enough : conditions.length ≤ fuel) (stored : List Condition) :
    ((∀ condition ∈ conditions, condition.conditionType < 2 ^ 32) ∧
      ∃ loaded, loadConditions now fuel stored (written conditions) =
          (loaded.reverse ++ stored, []) ∧
        List.Forall₂ Condition.ReadAs conditions loaded) ∨
    ((∃ condition ∈ conditions, ¬condition.conditionType < 2 ^ 32) ∧
      (loadConditions now fuel stored (written conditions)).2 ≠ []) := by
  induction conditions generalizing fuel stored with
  | nil =>
    refine .inl ⟨fun _ member => absurd member List.not_mem_nil, [], ?_, .nil⟩
    cases fuel <;> rfl
  | cons condition conditions ih =>
    obtain ⟨fuel, rfl⟩ := Nat.exists_eq_add_one.mpr (Nat.lt_of_lt_of_le (Nat.zero_lt_succ _) enough)
    have typed := wellTyped condition List.mem_cons_self
    rw [written_cons]
    by_cases narrow : condition.conditionType < 2 ^ 32
    · obtain ⟨after, readAs, loads⟩ := loadConditions_narrow typed narrow now
      rw [loads]
      rcases ih (fun other member => wellTyped other (List.mem_cons_of_mem _ member)) fuel
        (Nat.le_of_succ_le_succ enough) (after :: stored) with
        ⟨narrows, loaded, result, all⟩ | ⟨⟨other, member, wide⟩, left⟩
      · refine .inl ⟨?_, after :: loaded, ?_, .cons readAs all⟩
        · intro other member
          rcases List.mem_cons.mp member with rfl | member
          · exact narrow
          · exact narrows other member
        · rw [result, List.reverse_cons, List.append_assoc]
          rfl
      · exact .inr ⟨⟨other, List.mem_cons_of_mem _ member, wide⟩, left⟩
    · refine .inr ⟨⟨condition, List.mem_cons_self, narrow⟩, ?_⟩
      rw [loadConditions_wide typed narrow]
      exact List.append_ne_nil_of_right_ne_nil _ (List.cons_ne_nil _ _)

theorem forall₂_restored_iff {conditions loaded : List Condition}
    (readAs : List.Forall₂ Condition.ReadAs conditions loaded)
    (narrow : ∀ condition ∈ conditions, condition.conditionType < 2 ^ 32) :
    List.Forall₂ Condition.Restored conditions loaded ↔ ∀ condition ∈ conditions, condition.Kept := by
  induction readAs with
  | nil => exact ⟨fun _ _ member => absurd member List.not_mem_nil, fun _ => .nil⟩
  | @cons condition after conditions loaded first _ ih =>
    have rest := ih fun other member => narrow other (List.mem_cons_of_mem _ member)
    have kept : condition.Restored after ↔ condition.Kept := by
      rw [first.restored_iff]
      constructor
      · rintro ⟨isBuff, subId, aggressive, state⟩
        exact ⟨narrow condition List.mem_cons_self, isBuff, subId, aggressive, state⟩
      · intro kept
        exact ⟨kept.isBuff, kept.subId, kept.aggressive, kept.state⟩
    rw [List.forall₂_cons, List.forall_mem_cons, kept, rest]

theorem restoresAll_of_wellTyped {conditions : List Condition}
    (wellTyped : ∀ condition ∈ conditions, condition.WellTyped) :
    RestoresAll now conditions ↔
      ∀ condition ∈ conditions.filter Condition.isPersistent, condition.Kept := by
  have typed : ∀ condition ∈ conditions.filter Condition.isPersistent, condition.WellTyped :=
    fun condition member => wellTyped condition (List.mem_of_mem_filter member)
  have enough := Nat.le_succ_of_le (length_le_written (conditions.filter Condition.isPersistent))
  rcases loadConditions_written now _ typed _ enough [] with
    ⟨narrow, loaded, result, readAs⟩ | ⟨⟨condition, member, wide⟩, left⟩
  · rw [← forall₂_restored_iff readAs narrow]
    constructor
    · rintro ⟨stored, loads, restored⟩
      have same : stored = loaded.reverse ++ [] := congrArg Prod.fst (loads.symm.trans result)
      rwa [same, List.append_nil, List.reverse_reverse] at restored
    · intro restored
      refine ⟨loaded.reverse ++ [], result, ?_⟩
      rwa [List.append_nil, List.reverse_reverse]
  · constructor
    · rintro ⟨stored, loads, -⟩
      exact absurd (congrArg Prod.snd loads) left
    · intro kept
      exact absurd (kept condition member).narrow wide

/-- **A player's conditions are restored exactly when each that is saved is written whole.** -/
theorem restoresAll_iff (now : Int) {conditions : List Condition}
    (reachable : ∀ condition ∈ conditions, Reachable condition) :
    RestoresAll now conditions ↔
      ∀ condition ∈ conditions, condition.isPersistent = true → condition.Kept := by
  rw [restoresAll_of_wellTyped now fun condition member => (reachable condition member).wellTyped]
  simp only [List.mem_filter, and_imp]

/-- A condition of a fight lasting a minute, as it is made. -/
def infight : Condition := base (-1) ConditionType.infight.flag 60000 false 0 false .plain

theorem reachable_infight : Reachable infight :=
  .create (show createCondition (-1) ConditionType.infight.flag 60000 0 false 0 false = _ by
    rfl)

/-- A condition of a fight is restored. -/
theorem restoresAll_infight : RestoresAll 0 [infight] := by
  have reachable : ∀ condition ∈ [infight], Reachable condition := fun condition member => by
    rw [List.mem_singleton.mp member]
    exact reachable_infight
  rw [restoresAll_iff 0 reachable]
  intro condition member _
  rw [List.mem_singleton.mp member]
  exact ⟨by decide +kernel, rfl, rfl, rfl, trivial⟩

/-- The sub id that a script has given to a condition is lost. -/
theorem subId_lost : ∃ conditions : List Condition,
    (∀ condition ∈ conditions, Reachable condition ∧ condition.isPersistent = true) ∧
      ¬RestoresAll 0 conditions := by
  refine ⟨[infight.setParam .subId 7], fun condition member => ?_, fun restores => ?_⟩
  · rw [List.mem_singleton.mp member]
    exact ⟨reachable_infight.setParam .subId 7, by decide +kernel⟩
  · have typed : ∀ condition ∈ [infight.setParam .subId 7], condition.WellTyped :=
      fun condition member => by
        rw [List.mem_singleton.mp member]
        exact (reachable_infight.setParam .subId 7).wellTyped
    have kept := (restoresAll_of_wellTyped 0 typed).mp restores (infight.setParam .subId 7)
      (List.mem_filter.mpr ⟨List.mem_cons_self, by decide +kernel⟩)
    exact absurd kept.subId (by decide +kernel)

end Otserv.ConditionStream
