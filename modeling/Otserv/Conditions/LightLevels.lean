import Otserv.Conditions.ConditionSerialize

/-!
# Lights of no level

The ticks of a light are divided by its level when it starts, and when it takes over the level of
another. A light gets its level when it is made, from a parameter of a script and from a saved
field, of each the lowest byte, and it divides by zero if and only if the last of them was zero
(`dividesByLevels_iff`).
-/

namespace Otserv.ConditionStream

open Foundation Conditions

/-- What is done with a light that has been made. -/
inductive LightUse where
  | startCondition
  | addCondition (moment : Moment) (condition : Condition)
  | executeCondition (interval : Int32)

/-- What `lightInfo.level` is where the ticks are divided by it. -/
def Condition.divisors (condition : Condition) : LightUse → List UInt8
  | .startCondition =>
    match condition.state with
    | .light light => [light.level]
    | _ => []
  | .addCondition moment added =>
    match condition.state, added.state with
    | .light _, .light light =>
      if condition.updateCondition moment added then [light.level] else []
    | _, _ => []
  | .executeCondition _ => []

/-- The level in a saved field, if it is one. -/
def savedLevel (attr : UInt8) (bytes : List UInt8) : Option UInt8 :=
  if attr = CONDITIONATTR_LIGHTLEVEL then (read32 bytes).map (·.1.toUInt8) else none

/-- The level in a parameter, if it is one. -/
def Param.level (value : Int32) : Param → Option UInt8
  | .lightLevel => some value.toUInt32.toUInt8
  | _ => none

/-- A condition that has been made, with the level that was given last. -/
inductive Obtained : Condition → UInt8 → Prop
  | createCondition {id : Int8} {type : UInt64} {ticks param : Int32} {buff : Bool}
      {subId : UInt32} {aggressive : Bool} {condition : Condition}
      (created : createCondition id type ticks param buff subId aggressive = some condition) :
      Obtained condition param.toUInt32.toUInt8
  | createConditionFrom {bytes rest : List UInt8} {condition : Condition}
      (created : createConditionFrom bytes = .ok (condition, rest)) : Obtained condition 0
  | unserializeProp {condition after : Condition} {level attr : UInt8} {now : Int}
      {bytes rest : List UInt8} (obtained : Obtained condition level)
      (read : condition.unserializeProp now attr bytes = some (after, rest)) :
      Obtained after ((savedLevel attr bytes).getD level)
  | setParam {condition : Condition} {level : UInt8} (obtained : Obtained condition level)
      (param : Param) (value : Int32) :
      Obtained (condition.setParam param value) ((param.level value).getD level)

theorem created_of_stream {bytes rest : List UInt8} {condition : Condition}
    (created : createConditionFrom bytes = .ok (condition, rest)) :
    ∃ id type ticks buff subId aggressive,
      createCondition id type ticks 0 buff subId aggressive = some condition := by
  have bound {α β : Type} {first : Except (List UInt8) α} {next : α → Except (List UInt8) β}
      {result : β} (ok : (first >>= next) = .ok result) : ∃ value, next value = .ok result := by
    cases first with
    | error left => cases ok
    | ok value => exact ⟨value, ok⟩
  iterate 11 obtain ⟨_, created⟩ := bound created
  obtain ⟨value, created⟩ := bound created
  dsimp only at created
  split at created
  next condition isMade =>
    cases created
    exact ⟨_, _, _, _, _, _, isMade⟩
  next => cases created

theorem level_of_createCondition {id : Int8} {type : UInt64} {ticks param : Int32} {buff : Bool}
    {subId : UInt32} {aggressive : Bool} {condition : Condition} {light : ConditionLight}
    (created : createCondition id type ticks param buff subId aggressive = some condition)
    (isLight : condition.state = .light light) : light.level = param.toUInt32.toUInt8 := by
  unfold createCondition at created
  split at created <;> cases created <;> cases isLight
  rfl

theorem state_unserializeBase {attr : UInt8} {condition after : Condition}
    {bytes rest : List UInt8} (read : condition.unserializeBase attr bytes = some (after, rest)) :
    after.state = condition.state := by
  unfold Condition.unserializeBase at read
  split_ifs at read
  all_goals
    first
    | cases read; rfl
    | obtain ⟨⟨value, left⟩, -, same⟩ := Option.map_eq_some_iff.mp read
      cases same
      rfl

theorem state_orBase {α : Type} {attr : UInt8} {condition after : Condition}
    {bytes rest : List UInt8} {state : α → State} {own : Option (Read α)}
    (read : condition.orBase attr bytes state own = some (after, rest)) :
    own = none ∧ after.state = condition.state ∨
      ∃ value, own = some (some (value, rest)) ∧ after.state = state value := by
  cases own with
  | none => exact .inl ⟨rfl, state_unserializeBase read⟩
  | some own =>
    obtain ⟨⟨value, left⟩, isRead, same⟩ := Option.map_eq_some_iff.mp read
    cases same
    exact .inr ⟨value, congrArg some isRead, rfl⟩

theorem level_unserializeProp {attr : UInt8} {light own : ConditionLight}
    {bytes rest : List UInt8}
    (read : light.unserializeProp attr bytes = some (some (own, rest))) :
    own.level = (savedLevel attr bytes).getD light.level := by
  unfold ConditionLight.unserializeProp at read
  unfold savedLevel
  split_ifs at read with color level ticks interval
  all_goals
    obtain ⟨⟨value, left⟩, isRead, same⟩ := Option.map_eq_some_iff.mp (Option.some.inj read)
    cases same
  · rw [if_neg (by subst color; decide)]
    rfl
  · rw [if_pos level, isRead]
    rfl
  · rw [if_neg level]
    rfl
  · rw [if_neg level]
    rfl

theorem savedLevel_of_unread {attr : UInt8} {light : ConditionLight} {bytes : List UInt8}
    (unread : light.unserializeProp attr bytes = none) : savedLevel attr bytes = none := by
  unfold ConditionLight.unserializeProp at unread
  split_ifs at unread with color level
  exact if_neg level

theorem light_unserializeProp {now : Int} {attr : UInt8} {condition after : Condition}
    {bytes rest : List UInt8} {light : ConditionLight}
    (read : condition.unserializeProp now attr bytes = some (after, rest))
    (isLight : after.state = .light light) :
    ∃ old, condition.state = .light old ∧
      light.level = (savedLevel attr bytes).getD old.level := by
  unfold Condition.unserializeProp at read
  split at read
  case h_5 old isState =>
    refine ⟨old, isState, ?_⟩
    obtain ⟨unread, same⟩ | ⟨value, isRead, same⟩ := state_orBase read
    · rw [same, isState] at isLight
      cases isLight
      rw [savedLevel_of_unread unread, Option.getD_none]
    · cases same.symm.trans isLight
      exact level_unserializeProp isRead
  case h_1 isState =>
    rw [state_unserializeBase read, isState] at isLight
    cases isLight
  case h_2 damage isState =>
    split at read
    · obtain ⟨⟨info, left⟩, -, same⟩ := Option.map_eq_some_iff.mp read
      cases same
      rw [Condition.pushDamage] at isLight
      split at isLight <;> cases isLight
    · obtain ⟨-, same⟩ | ⟨value, -, same⟩ := state_orBase read
      · rw [same, isState] at isLight
        cases isLight
      · cases same.symm.trans isLight
  case h_4 isState =>
    split at read
    · obtain ⟨⟨outfit, left⟩, -, same⟩ := Option.map_eq_some_iff.mp read
      cases same
      cases isLight
    · rw [state_unserializeBase read, isState] at isLight
      cases isLight
  all_goals
    next isState =>
    obtain ⟨-, same⟩ | ⟨value, -, same⟩ := state_orBase read
    · rw [same, isState] at isLight
      cases isLight
    · cases same.symm.trans isLight

theorem light_setParam {condition : Condition} {param : Param} {value : Int32}
    {light : ConditionLight} (isLight : (condition.setParam param value).state = .light light) :
    ∃ old, condition.state = .light old ∧ light.level = (param.level value).getD old.level := by
  change condition.state.setParam param value = .light light at isLight
  cases isState : condition.state with
  | light old =>
    rw [isState] at isLight
    cases isLight
    exact ⟨old, rfl, by cases param <;> rfl⟩
  | speed => cases param <;> rw [isState] at isLight <;> cases isLight
  | _ =>
    rw [isState] at isLight
    cases isLight

theorem Obtained.level {condition : Condition} {level : UInt8} {light : ConditionLight}
    (obtained : Obtained condition level) (isLight : condition.state = .light light) :
    light.level = level := by
  induction obtained generalizing light with
  | createCondition created => exact level_of_createCondition created isLight
  | createConditionFrom created =>
    obtain ⟨_, _, _, _, _, _, created⟩ := created_of_stream created
    exact level_of_createCondition created isLight
  | unserializeProp obtained read ih =>
    obtain ⟨old, wasLight, same⟩ := light_unserializeProp read isLight
    rw [same, ih wasLight]
  | setParam obtained param value ih =>
    obtain ⟨old, wasLight, same⟩ := light_setParam isLight
    rw [same, ih wasLight]

/-- The condition never divides by zero: when it starts, when it is executed, and when it is
added to one there is. -/
def Condition.DividesByLevels (condition : Condition) : Prop :=
  0 ∉ condition.divisors .startCondition ∧
    (∀ interval, 0 ∉ condition.divisors (.executeCondition interval)) ∧
    ∀ (kept : Condition) (moment : Moment), 0 ∉ kept.divisors (.addCondition moment condition)

/-- A light divides by zero if and only if the level that it was given last is zero. -/
theorem dividesByLevels_iff {condition : Condition} {level : UInt8}
    (obtained : Obtained condition level) :
    condition.DividesByLevels ↔ ∀ light, condition.state = .light light → level ≠ 0 := by
  constructor
  · rintro ⟨starts, -, -⟩ light isLight zero
    refine starts ?_
    simp only [Condition.divisors, isLight, List.mem_singleton]
    rw [obtained.level isLight, zero]
  · intro levels
    refine ⟨fun zero => ?_, fun _ => List.not_mem_nil, fun kept moment zero => ?_⟩
    · cases isState : condition.state with
      | light light =>
        simp only [Condition.divisors, isState, List.mem_singleton] at zero
        exact levels light isState ((obtained.level isState).symm.trans zero.symm)
      | _ => simp only [Condition.divisors, isState, List.not_mem_nil] at zero
    · simp only [Condition.divisors] at zero
      split at zero
      next light _ isLight =>
        split_ifs at zero
        · rw [List.mem_singleton, obtained.level isLight] at zero
          exact levels light isLight zero.symm
        · exact List.not_mem_nil zero
      next => exact List.not_mem_nil zero

/-- A light made with the lowest byte of 257 and given a level of 3. -/
theorem dividesByLevels_iff_torch :
    ∃ made, createCondition 0 ConditionType.light.flag 1000 257 false 0 false = some made ∧
      (made.setParam .lightLevel 3).DividesByLevels := by
  have obtained : Obtained _ (257 : Int32).toUInt32.toUInt8 :=
    @Obtained.createCondition 0 ConditionType.light.flag 1000 257 false 0 false _ rfl
  exact ⟨_, rfl, (dividesByLevels_iff (obtained.setParam .lightLevel 3)).mpr
    fun _ _ => by decide⟩

/-- A light that is made without a level divides by zero as it starts. -/
theorem not_dividesByLevels :
    ¬ ∀ (condition : Condition) (level : UInt8), Obtained condition level →
      condition.DividesByLevels := by
  intro divides
  have obtained : Obtained _ (0 : Int32).toUInt32.toUInt8 :=
    @Obtained.createCondition 0 ConditionType.light.flag 1000 0 false 0 false _ rfl
  exact (divides _ _ obtained).1 (by decide)

end Otserv.ConditionStream
