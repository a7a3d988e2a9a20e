import Otserv.Attributes.ConditionAttributes
import Otserv.Equipment.Abilities

/-!
# What conditions of attributes add up to

Each skill and stat of a player is changed by the sum of what its active conditions change of it,
and it may defend itself when none of them takes its defence (`Balanced`). The sums are always
kept (`runs_summed`). The defence is one flag that a start sets and an end may set, whatever the other conditions
are, and that an exchange does not set for the new one: it is right in exactly the runs in which
this makes no difference (`balanced_iff`).
-/

namespace Otserv.Attributes

open Foundation Conditions Equipment

/-! ## The loops -/

theorem foldl_setVarSkill {modifier : Skill → Int} {taken : Skill → Prop} [DecidablePred taken]
    (skipped : ∀ skill, ¬ taken skill → modifier skill = 0) (player : Player) :
    Skill.all.foldl (fun player skill =>
        if taken skill then player.setVarSkill skill (modifier skill) else player) player =
      { player with varSkills := fun skill => player.varSkills skill + modifier skill } := by
  refine @foldl_vary _ _ _ (fun family after => after = { player with varSkills := family }) _ _
    (fun skill has => ?_) Skill.all (by decide) (fun skill => by cases skill <;> decide) _ _ rfl
  rw [has]
  by_cases isTaken : taken skill
  · rw [if_pos isTaken]
    rfl
  · rw [if_neg isTaken, skipped skill isTaken, Int.add_zero, Function.update_eq_self]

theorem foldl_setVarSpecialSkill {modifier : SpecialSkill → Int} {taken : SpecialSkill → Prop}
    [DecidablePred taken] (skipped : ∀ skill, ¬ taken skill → modifier skill = 0)
    (player : Player) :
    SpecialSkill.all.foldl (fun player skill =>
        if taken skill then player.setVarSpecialSkill skill (modifier skill) else player) player =
      { player with
        varSpecialSkills := fun skill => player.varSpecialSkills skill + modifier skill } := by
  refine @foldl_vary _ _ _ (fun family after => after = { player with varSpecialSkills := family })
    _ _ (fun skill has => ?_) SpecialSkill.all (by decide)
    (fun skill => by cases skill <;> decide) _ _ rfl
  rw [has]
  by_cases isTaken : taken skill
  · rw [if_pos isTaken]
    rfl
  · rw [if_neg isTaken, skipped skill isTaken, Int.add_zero, Function.update_eq_self]

theorem foldl_setVarStats {modifier : Stat → Int} {taken : Stat → Prop} [DecidablePred taken]
    (skipped : ∀ stat, ¬ taken stat → modifier stat = 0) (player : Player) :
    ∃ health mana, Stat.all.foldl (fun player stat =>
        if taken stat then player.setVarStats stat (modifier stat) else player) player =
      { player with
        varStats := fun stat => player.varStats stat + modifier stat
        health := health
        mana := mana } := by
  refine @foldl_vary _ _ _ (fun family after => ∃ health mana, after =
    { player with varStats := family, health := health, mana := mana }) _ _ (fun stat has => ?_)
    Stat.all (by decide) (fun stat => by cases stat <;> decide) player.varStats player ⟨_, _, rfl⟩
  obtain ⟨health, mana, rfl⟩ := has
  by_cases isTaken : taken stat
  · rw [if_pos isTaken]
    exact Player.setVarStats_eq stat (modifier stat) _
  · rw [if_neg isTaken, skipped stat isTaken, Int.add_zero, Function.update_eq_self]
    exact ⟨_, _, rfl⟩

/-! ## What one condition changes -/

/-- The skills and stats of a player have been changed by the parts of a condition, as often as
the number says. -/
structure Varied (sign : Int) (condition : ConditionAttributes) (player after : Player) : Prop where
  skills : ∀ skill, after.varSkills skill = player.varSkills skill + sign * condition.skills skill
  specialSkills : ∀ skill, after.varSpecialSkills skill =
    player.varSpecialSkills skill + sign * condition.specialSkills skill
  stats : ∀ stat, after.varStats stat = player.varStats stat + sign * condition.stats stat

namespace ConditionAttributes

variable {condition : ConditionAttributes} {bearer : Bearer}

/-- **What a start and an addition end with**: the condition, its percentages computed, is added. -/
theorem update_spec (condition : ConditionAttributes) (bearer : Bearer) :
    ∃ updated player, condition.update bearer = (updated, player) ∧
      Varied 1 updated bearer.player player ∧
        updated.toCondition = condition.toCondition ∧
          updated.disableDefense = condition.disableDefense := by
  have nothing {value : Int} (zero : ¬ value ≠ 0) : value = 0 := not_not.mp zero
  refine ⟨_, _, rfl, ?_, rfl, rfl⟩
  generalize isPercent : condition.updatePercentSkills bearer.baseSkill = percent
  have skills : percent.updateSkills bearer.player = { bearer.player with
      varSkills := fun skill => bearer.player.varSkills skill + percent.skills skill
      varSpecialSkills := fun skill =>
        bearer.player.varSpecialSkills skill + percent.specialSkills skill } := by
    rw [updateSkills]
    rw [foldl_setVarSkill fun skill => @nothing (percent.skills skill),
      foldl_setVarSpecialSkill fun skill => @nothing (percent.specialSkills skill)]
  generalize isUpdated : percent.updatePercentStats (percent.updateSkills bearer.player) = updated
  have sameSkills : updated.skills = percent.skills ∧
      updated.specialSkills = percent.specialSkills := by
    rw [← isUpdated]
    exact ⟨rfl, rfl⟩
  obtain ⟨health, mana, stats⟩ := foldl_setVarStats (fun stat => @nothing (updated.stats stat))
    (percent.updateSkills bearer.player)
  rw [updateStats, stats, skills]
  refine ⟨fun skill => ?_, fun skill => ?_, fun stat => ?_⟩
  · rw [Int.one_mul, sameSkills.1]
  · rw [Int.one_mul, sameSkills.2]
  · rw [Int.one_mul]

/-- **An end** takes the condition back. -/
theorem endCondition_spec (condition : ConditionAttributes) (bearer : Bearer) :
    ∃ player, condition.endCondition bearer = { bearer with
        player := player
        canUseDefense := condition.disableDefense || bearer.canUseDefense } ∧
      Varied (-1) condition bearer.player player := by
  have nothing {value : Int} (zero : ¬ value ≠ 0) : -value = 0 := by
    rw [not_not.mp zero, Int.neg_zero]
  have noSkill (skill : Skill)
      (zero : ¬ (condition.skills skill ≠ 0 ∨ condition.skillsPercent skill ≠ 0)) :
      -condition.skills skill = 0 := nothing (not_or.mp zero).1
  refine ⟨(condition.endCondition bearer).player, ?_, ?_⟩
  · rw [ConditionAttributes.endCondition]
    cases condition.disableDefense <;> rfl
  · rw [ConditionAttributes.endCondition, foldl_setVarSkill noSkill,
      foldl_setVarSpecialSkill fun skill => @nothing (condition.specialSkills skill)]
    obtain ⟨health, mana, stats⟩ := foldl_setVarStats
      (fun stat => @nothing (condition.stats stat)) { bearer.player with
        varSkills := fun skill => bearer.player.varSkills skill + -condition.skills skill
        varSpecialSkills := fun skill =>
          bearer.player.varSpecialSkills skill + -condition.specialSkills skill }
    rw [stats]
    exact ⟨fun skill => by rw [Int.neg_one_mul], fun skill => by rw [Int.neg_one_mul],
      fun stat => by rw [Int.neg_one_mul]⟩

end ConditionAttributes

/-! ## The active conditions -/

/-- Each skill and stat is changed by the sum of what the conditions change of it. -/
structure Summed (player : Player) (conditions : List ConditionAttributes) : Prop where
  skills : ∀ skill, player.varSkills skill =
    (conditions.map fun condition => condition.skills skill).sum
  specialSkills : ∀ skill, player.varSpecialSkills skill =
    (conditions.map fun condition => condition.specialSkills skill).sum
  stats : ∀ stat, player.varStats stat =
    (conditions.map fun condition => condition.stats stat).sum

namespace Summed

variable {player after : Player} {before behind : List ConditionAttributes}
  {condition : ConditionAttributes}

theorem sum_insert (part : ConditionAttributes → Int) :
    ((before ++ condition :: behind).map part).sum =
      ((before ++ behind).map part).sum + part condition := by
  rw [List.map_append, List.map_append, List.map_cons, List.sum_append, List.sum_append,
    List.sum_cons]
  omega

theorem insert (summed : Summed player (before ++ behind))
    (varied : Varied 1 condition player after) : Summed after (before ++ condition :: behind) where
  skills skill := by rw [sum_insert, varied.skills, summed.skills, Int.one_mul]
  specialSkills skill := by
    rw [sum_insert, varied.specialSkills, summed.specialSkills, Int.one_mul]
  stats stat := by rw [sum_insert, varied.stats, summed.stats, Int.one_mul]

theorem erase (summed : Summed player (before ++ condition :: behind))
    (varied : Varied (-1) condition player after) : Summed after (before ++ behind) where
  skills skill := by
    rw [varied.skills, summed.skills, sum_insert]
    omega
  specialSkills skill := by
    rw [varied.specialSkills, summed.specialSkills, sum_insert]
    omega
  stats stat := by
    rw [varied.stats, summed.stats, sum_insert]
    omega

end Summed

/-- None of the conditions takes the defence. -/
def defends (conditions : List ConditionAttributes) : Bool :=
  !conditions.any ConditionAttributes.disableDefense

theorem defends_insert (before behind : List ConditionAttributes)
    (condition : ConditionAttributes) : defends (before ++ condition :: behind) =
      (!condition.disableDefense && defends (before ++ behind)) := by
  rw [defends, defends, List.any_append, List.any_append, List.any_cons]
  cases condition.disableDefense <;> cases before.any _ <;> rfl

/-- The sums are right, and the player may defend itself exactly when no active condition takes
its defence. -/
structure Balanced (bearer : Bearer) : Prop extends Summed bearer.player bearer.conditions where
  defence : bearer.canUseDefense = defends bearer.conditions

/-- The flag that is set is right whatever the other conditions are. -/
def Undisturbed (bearer : Bearer) : AttributeOp → Prop
  | .addCondition now condition =>
    match bearer.getCondition condition.key with
    | none => condition.disableDefense = true ∨ defends bearer.conditions = true
    | some prevCond =>
      prevCond.toCondition.updateCondition now condition.toCondition = true →
        let others := bearer.conditions.eraseP fun other => other.key = condition.key
        if prevCond.disableDefense then condition.disableDefense = false ∧ defends others = true
        else condition.disableDefense = true → defends others = false
  | .removeCondition key =>
    ∀ condition ∈ bearer.getCondition key, condition.disableDefense = true →
      defends (bearer.conditions.eraseP fun other => other.key = key) = true

namespace Bearer

variable {bearer : Bearer} {key : Key} {condition : ConditionAttributes}

theorem split_of_getCondition (found : bearer.getCondition key = some condition) :
    condition.key = key ∧ ∃ before behind, bearer.conditions = before ++ condition :: behind ∧
      bearer.conditions.eraseP (fun other => other.key = key) = before ++ behind ∧
        ∀ other, onFirst (fun other => other.key = key) (fun _ => other) bearer.conditions =
          before ++ other :: behind := by
  obtain ⟨isKey, before, behind, split, erased, exchanged⟩ := split_of_find? found
  exact ⟨of_decide_eq_true isKey, before, behind, split, erased, fun other => exchanged _⟩

/-- **A start.** -/
theorem addCondition_of_none (fresh : bearer.getCondition condition.key = none) (now : Int) :
    ∃ started player, bearer.addCondition now condition = { bearer with
        player := player
        canUseDefense := !condition.disableDefense
        conditions := bearer.conditions ++ [started] } ∧
      Varied 1 started bearer.player player ∧
        started.disableDefense = condition.disableDefense := by
  let starting : ConditionAttributes := { condition with
    toCondition := { condition.toCondition with
      endTime := if condition.toCondition.ticks > 0 then condition.toCondition.ticks + now
        else condition.toCondition.endTime } }
  let flagged : Bearer := { bearer with canUseDefense := !condition.disableDefense }
  have after : bearer.addCondition now condition = { flagged with
      player := (starting.update flagged).2
      conditions := bearer.conditions ++ [(starting.update flagged).1] } := by
    rw [addCondition, fresh]
    rfl
  obtain ⟨started, player, updated, varied, -, disables⟩ := starting.update_spec flagged
  refine ⟨started, player, ?_, varied, disables⟩
  rw [after, updated]

variable {prevCond : ConditionAttributes}

/-- **An exchange.** -/
theorem addCondition_of_some (found : bearer.getCondition condition.key = some prevCond) {now : Int}
    (updates : prevCond.toCondition.updateCondition now condition.toCondition = true) :
    ∃ updated between player before behind,
      bearer.conditions = before ++ prevCond :: behind ∧
        bearer.conditions.eraseP (fun other => other.key = condition.key) = before ++ behind ∧
          bearer.addCondition now condition = { bearer with
            player := player
            canUseDefense := prevCond.disableDefense || bearer.canUseDefense
            conditions := before ++ updated :: behind } ∧
            Varied (-1) prevCond bearer.player between ∧ Varied 1 updated between player ∧
              updated.disableDefense = condition.disableDefense := by
  obtain ⟨isKey, before, behind, split, erased, exchanged⟩ := split_of_getCondition found
  obtain ⟨between, ended, taken⟩ := prevCond.endCondition_spec bearer
  let renewed : ConditionAttributes := { condition with
    toCondition := prevCond.toCondition.setTicks now condition.toCondition.ticks }
  obtain ⟨updated, player, isUpdated, varied, sameBase, disables⟩ := renewed.update_spec
    (prevCond.endCondition bearer)
  have sameKey : updated.key = condition.key := by
    rw [← isKey, ConditionAttributes.key, sameBase]
    rfl
  refine ⟨updated, between, player, before, behind, split, erased, ?_, taken, ?_, disables⟩
  · have after : bearer.addCondition now condition = { prevCond.endCondition bearer with
        player := (renewed.update (prevCond.endCondition bearer)).2
        conditions := onFirst
          (fun other => other.key = (renewed.update (prevCond.endCondition bearer)).1.key)
          (fun _ => (renewed.update (prevCond.endCondition bearer)).1)
          (prevCond.endCondition bearer).conditions } := by
      rw [addCondition, found]
      exact if_pos updates
    rw [after, isUpdated]
    rw [sameKey, ended, exchanged]
  · rwa [ended] at varied

theorem addCondition_of_ended
    (found : bearer.getCondition condition.key = some prevCond) {now : Int}
    (stays : ¬ prevCond.toCondition.updateCondition now condition.toCondition = true) :
    bearer.addCondition now condition = bearer := by
  rw [addCondition, found]
  exact if_neg stays

theorem removeCondition_of_none (absent : bearer.getCondition key = none) :
    bearer.removeCondition key = bearer := by
  rw [removeCondition, absent]

/-- **An end.** -/
theorem removeCondition_of_some (found : bearer.getCondition key = some condition) :
    ∃ player before behind, bearer.conditions = before ++ condition :: behind ∧
      bearer.conditions.eraseP (fun other => other.key = key) = before ++ behind ∧
        bearer.removeCondition key = { bearer with
          player := player
          canUseDefense := condition.disableDefense || bearer.canUseDefense
          conditions := before ++ behind } ∧
          Varied (-1) condition bearer.player player := by
  obtain ⟨-, before, behind, split, erased, -⟩ := split_of_getCondition found
  obtain ⟨player, ended, varied⟩ := condition.endCondition_spec
    { bearer with conditions := bearer.conditions.eraseP fun other => other.key = key }
  refine ⟨player, before, behind, split, erased, ?_, varied⟩
  rw [removeCondition, found]
  simp only []
  rw [ended, erased]

end Bearer

variable {bearer : Bearer}

/-- **The sums** are kept by every operation. -/
theorem Summed.step (summed : Summed bearer.player bearer.conditions) (op : AttributeOp) :
    Summed (attributes.step bearer op).player (attributes.step bearer op).conditions := by
  cases op with
  | addCondition now condition =>
    change Summed (bearer.addCondition now condition).player
      (bearer.addCondition now condition).conditions
    cases found : bearer.getCondition condition.key with
    | none =>
      obtain ⟨started, player, after, varied, -⟩ := Bearer.addCondition_of_none found now
      rw [after]
      exact .insert (by rwa [List.append_nil]) varied
    | some prevCond =>
      by_cases updates : prevCond.toCondition.updateCondition now condition.toCondition = true
      · obtain ⟨updated, between, player, before, behind, split, -, after, taken, varied, -⟩ :=
          Bearer.addCondition_of_some found updates
        rw [after]
        rw [split] at summed
        exact (summed.erase taken).insert varied
      · rw [Bearer.addCondition_of_ended found updates]
        exact summed
  | removeCondition key =>
    change Summed (bearer.removeCondition key).player (bearer.removeCondition key).conditions
    cases found : bearer.getCondition key with
    | none => rwa [Bearer.removeCondition_of_none found]
    | some condition =>
      obtain ⟨player, before, behind, split, -, after, varied⟩ :=
        Bearer.removeCondition_of_some found
      rw [after]
      rw [split] at summed
      exact summed.erase varied

/-- **The defence** is right after an operation exactly when the other conditions make no
difference. -/
theorem Balanced.defence_step_iff (balanced : Balanced bearer) (op : AttributeOp) :
    (attributes.step bearer op).canUseDefense = defends (attributes.step bearer op).conditions ↔
      Undisturbed bearer op := by
  have defence := balanced.defence
  cases op with
  | addCondition now condition =>
    change (bearer.addCondition now condition).canUseDefense =
      defends (bearer.addCondition now condition).conditions ↔ _
    rw [Undisturbed]
    cases found : bearer.getCondition condition.key with
    | none =>
      obtain ⟨started, player, after, -, disables⟩ := Bearer.addCondition_of_none found now
      rw [after, defends_insert, List.append_nil, disables]
      cases condition.disableDefense <;> cases defends bearer.conditions <;> simp
    | some prevCond =>
      by_cases updates : prevCond.toCondition.updateCondition now condition.toCondition = true
      · obtain ⟨updated, between, player, before, behind, split, erased, after, -, -, disables⟩ :=
          Bearer.addCondition_of_some found updates
        rw [split, defends_insert] at defence
        simp only [updates, true_implies]
        rw [after, defends_insert, disables, erased, defence]
        cases prevCond.disableDefense <;> cases condition.disableDefense <;>
          cases defends (before ++ behind) <;> simp
      · rw [Bearer.addCondition_of_ended found updates]
        exact iff_of_true defence fun holds => absurd holds updates
  | removeCondition key =>
    change (bearer.removeCondition key).canUseDefense =
      defends (bearer.removeCondition key).conditions ↔ _
    rw [Undisturbed]
    cases found : bearer.getCondition key with
    | none =>
      rw [Bearer.removeCondition_of_none found]
      refine iff_of_true defence ?_
      rintro condition ⟨⟩
    | some condition =>
      obtain ⟨player, before, behind, split, erased, after, -⟩ :=
        Bearer.removeCondition_of_some found
      rw [split, defends_insert] at defence
      simp only [Option.mem_some_iff, forall_eq']
      rw [after, erased, defence]
      cases condition.disableDefense <;> cases defends (before ++ behind) <;> simp

theorem Balanced.step_iff (balanced : Balanced bearer) (op : AttributeOp) :
    Balanced (attributes.step bearer op) ↔ Undisturbed bearer op := by
  rw [← balanced.defence_step_iff op]
  exact ⟨Balanced.defence, .mk (balanced.toSummed.step op)⟩

/-- **The modifiers of a player are the sums of its active conditions, and its defence is right**,
throughout a run, exactly when the other conditions make no difference wherever the flag is set or
should be. -/
theorem balanced_iff {start : Bearer} (balanced : Balanced start) (ops : List AttributeOp) :
    attributes.Throughout (fun _ _ after => Balanced after) start ops ↔
      attributes.Throughout (fun before op _ => Undisturbed before op) start ops :=
  System.Throughout.iff_of_invariant
    (fun _ op balanced _ => ⟨balanced.step_iff op, id⟩) balanced
    (.of_forall (fun _ _ => trivial) start ops)

/-- **The modifiers are the sums of the active conditions** in every run, also where the defence is
not right. -/
theorem runs_summed {start : Bearer} (summed : Summed start.player start.conditions)
    (ops : List AttributeOp) :
    Summed (attributes.run start ops).player (attributes.run start ops).conditions := by
  induction ops generalizing start with
  | nil => exact summed
  | cons op ops ih => exact ih (summed.step op)

theorem balanced_bare (player : Player) : Balanced { player := { player with
    varSkills := fun _ => 0, varSpecialSkills := fun _ => 0, varStats := fun _ => 0 } } where
  skills _ := rfl
  specialSkills _ := rfl
  stats _ := rfl
  defence := rfl

/-- A condition of a sub id, of so many ticks. -/
def bonus (subId : UInt32) (ticks : Int) (disableDefense : Bool) : ConditionAttributes where
  toCondition := Condition.base .attributes 0 .attributes ticks 0 false subId
  skills skill := if skill = .sword then 5 else 0
  disableDefense := disableDefense

theorem runs_summed_bonus : (attributes.run {} [.addCondition 0 (bonus 1 5000 true),
    .addCondition 1000 (bonus 2 5000 false)]).player.varSkills .sword = 10 :=
  ((runs_summed (balanced_bare {}).toSummed _).skills .sword).trans (by decide)

theorem balanced_iff_exchanged :
    attributes.Throughout (fun _ _ after => Balanced after) {}
      [.addCondition 0 (bonus 1 5000 true), .addCondition 1000 (bonus 2 5000 true),
        .addCondition 2000 (bonus 3 5000 false)] ↔
      attributes.Throughout (fun before op _ => Undisturbed before op) {}
        [.addCondition 0 (bonus 1 5000 true), .addCondition 1000 (bonus 2 5000 true),
          .addCondition 2000 (bonus 3 5000 false)] :=
  balanced_iff (balanced_bare {}) _

/-- One condition takes the defence, and another that does not is started. -/
theorem defence_given_back :
    ¬ attributes.Throughout (fun _ _ after => Balanced after) {}
      [.addCondition 0 (bonus 1 5000 true), .addCondition 1000 (bonus 2 5000 false)] := by
  rintro ⟨-, balanced, -⟩
  have defence := balanced.defence
  revert defence
  decide

end Otserv.Attributes
