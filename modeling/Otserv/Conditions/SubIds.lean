import Otserv.Foundation.Runs
import Otserv.Conditions.ConditionList

/-!
# Conditions by the sub id asked for

A caller asks for a condition with a sub id, and expects to find it under this
sub id until it ends: a table of deadlines by type, id and sub id says when that
is (`Tracked`). The list of a creature's conditions is compared with the table
over whole runs.

The conditions that are made lose the sub id they are asked for
(`createCondition_reports_iff`), so that the list keeps to the table in the runs
whose callers ask for no sub id, no buff and no aggression
(`conditions_kept_apart_of_plain_requests`).
-/

namespace Otserv.Conditions

open Otserv.Foundation

namespace Request

def key (request : Request) : Key := (request.type, request.id, request.subId)

/-- The deadline of the key after the request: a condition of speed starts anew,
the others keep the later end. -/
def deadline (now : Int) (table : Key → Option Int) (request : Request) : Int :=
  match request.type.conditionClass, table request.key with
  | some .speed, _ | _, none => now + request.ticks
  | _, some earlier => max earlier (now + request.ticks)

end Request

/-- A creature, the deadlines its callers may expect, and the time. -/
structure Tracked where
  creature : Creature := {}
  table : Key → Option Int := fun _ => none
  now : Int := 0

namespace Tracked

/-- Adding a condition that is asked for. When it is started, the type it
displaces is removed. -/
def add (drawn walkDelay : Int) (request : Request) (tracked : Tracked) : Tracked :=
  let result :=
    tracked.creature.addCondition tracked.now drawn walkDelay (createCondition request)
  let table := Function.update tracked.table request.key
    (some (request.deadline tracked.now tracked.table))
  let displaced :=
    if result.2 = .started then tracked.creature.displaced tracked.now request.type else none
  { tracked with
    creature := result.1
    table := match displaced with
      | some other =>
        if Creature.defers other false walkDelay then table
        else without table fun key => key.1 = other
      | none => table }

/-- The later time of an operation. -/
def at_ (time : Int) (tracked : Tracked) : Tracked := { tracked with now := time }

end Tracked

inductive ConditionOp where
  | addCondition (time drawn walkDelay : Int) (request : Request)
  | postCastSpell (time drawn walkDelay : Int) (spell : Spell)
  | removeCondition (time : Int) (type : ConditionType) (force : Bool) (walkDelay : Int)
  | removeConditionId (time : Int) (type : ConditionType) (conditionId : Int8) (force : Bool)
      (walkDelay : Int)
  | removeConditionAt (time : Int) (key : Key) (force : Bool) (walkDelay : Int)
  | executeConditions (time interval : Int)

namespace ConditionOp

def time : ConditionOp → Int
  | .addCondition time .. | .postCastSpell time .. | .removeCondition time ..
  | .removeConditionId time .. | .removeConditionAt time .. | .executeConditions time .. => time

/-- The conditions an operation asks for. -/
def requests : ConditionOp → List Request
  | .addCondition _ _ _ request => [request]
  | .postCastSpell _ _ _ spell => spell.cooldowns
  | _ => []

end ConditionOp

/-- The creature and its operations, made at increasing times. A condition has
ticks and a type, and one of light has a level. -/
def conditionSystem : System Tracked ConditionOp where
  legal tracked op := tracked.now ≤ op.time ∧
    match op with
    | .addCondition _ _ _ request => 0 < request.ticks ∧ request.type ≠ .none ∧
        (request.type = .light → lowByte request.param ≠ 0)
    | _ => True
  step tracked op :=
    let tracked := tracked.at_ op.time
    match op with
    | .addCondition _ drawn walkDelay request => tracked.add drawn walkDelay request
    | .postCastSpell _ drawn walkDelay spell =>
      spell.cooldowns.foldl (fun tracked request => tracked.add drawn walkDelay request) tracked
    | .removeCondition _ type force walkDelay =>
      { tracked with
        creature := tracked.creature.removeCondition type force walkDelay
        table := if Creature.defers type force walkDelay then tracked.table
          else without tracked.table fun key => key.1 = type }
    | .removeConditionId _ type conditionId force walkDelay =>
      { tracked with
        creature := tracked.creature.removeConditionId type conditionId force walkDelay
        table := if Creature.defers type force walkDelay then tracked.table
          else without tracked.table fun key => key.1 = type ∧ key.2.1 = conditionId }
    | .removeConditionAt _ key force walkDelay =>
      { tracked with
        creature := tracked.creature.removeConditionAt key force walkDelay
        table := if Creature.defers key.1 force walkDelay then tracked.table
          else without tracked.table fun other => other = key }
    | .executeConditions _ interval =>
      { tracked with creature := tracked.creature.executeConditions tracked.now interval }

/-! ## What is expected -/

/-- The condition made for a request reports what was asked for. -/
def Reports (request : Request) : Prop :=
  ∀ condition, createCondition request = some condition →
    condition.subId = request.subId ∧ condition.isBuff = request.buff ∧
      condition.aggressive = request.aggressive

/-- From now on a condition of a type and sub id is found exactly while one that
was asked for with them has not ended. -/
def FindsRequested (tracked : Tracked) : Prop :=
  ∀ time type, tracked.now ≤ time → tracked.creature.isSuppress type = false → ∀ subId,
    tracked.creature.hasCondition time type subId = true ↔
      ∃ id, Live tracked.table (type, id, subId) time

/-- From now on a spell is refused exactly while its cooldown or one of its
groups', as asked for, has not ended. -/
def BlocksRequested (tracked : Tracked) : Prop :=
  ∀ time (spell : Spell), tracked.now ≤ time →
    tracked.creature.isSuppress .spellCooldown = false →
    tracked.creature.isSuppress .spellGroupCooldown = false →
    (spell.exhausted time tracked.creature = true ↔
      (∃ id, Live tracked.table (.spellCooldown, id, spell.spellId.toUInt32) time) ∨
      (∃ id, Live tracked.table (.spellGroupCooldown, id, spell.group.toUInt32) time) ∨
      spell.secondaryGroup ≠ 0 ∧
        ∃ id, Live tracked.table (.spellGroupCooldown, id, spell.secondaryGroup.toUInt32) time)

/-- The step reports, finds and blocks as asked for. -/
def KeepsApart (_before : Tracked) (op : ConditionOp) (after : Tracked) : Prop :=
  (∀ request ∈ op.requests, Reports request) ∧ FindsRequested after ∧ BlocksRequested after

/-- The request has no sub id, buff or aggression, asks for a condition that is
not of damage, and has ticks. -/
structure Request.Plain (request : Request) : Prop where
  subId : request.subId = 0
  buff : request.buff = false
  aggressive : request.aggressive = false
  notDamage : request.type.conditionClass ≠ some .damage
  ticks : 0 < request.ticks

/-- The step asks for plain conditions only. -/
def AsksPlain (_before : Tracked) (op : ConditionOp) (_after : Tracked) : Prop :=
  ∀ request ∈ op.requests, request.Plain

/-! ## The list keeps to the table -/

/-- The conditions stand for the table, they run out, and each is of the class
of its type. -/
structure Sound (creature : Creature) (table : Key → Option Int) (now : Int) : Prop where
  tracks : Tracks Condition.key Condition.endTime creature.conditions table now
  ticks : ∀ condition ∈ creature.conditions, 0 ≤ condition.ticks
  ofClass : ∀ condition ∈ creature.conditions,
    some condition.conditionClass = condition.conditionType.conditionClass

namespace Sound

variable {creature : Creature} {table : Key → Option Int} {now : Int}

section

variable (sound : Sound creature table now)
include sound

theorem advance {later : Int} (forward : now ≤ later) : Sound creature table later :=
  ⟨sound.tracks.advance forward, sound.ticks, sound.ofClass⟩

theorem endConditions {matches_ : Condition → Bool}
    {kind : Key → Bool} (same : ∀ condition, matches_ condition = kind condition.key) :
    Sound (creature.endConditions matches_) (without table kind) now := by
  have kept : (creature.endConditions matches_).conditions =
      creature.conditions.filter fun condition => !kind condition.key := by
    simp only [Creature.endConditions, same]
  refine ⟨?_, fun condition member => ?_, fun condition member => ?_⟩
  · rw [kept]
    exact sound.tracks.filter kind
  · exact sound.ticks condition (List.mem_of_mem_filter member)
  · exact sound.ofClass condition (List.mem_of_mem_filter member)

theorem removeCondition (type : ConditionType) (force : Bool) (walkDelay : Int) :
    Sound (creature.removeCondition type force walkDelay)
      (if Creature.defers type force walkDelay then table
        else without table fun key => key.1 = type) now := by
  unfold Creature.removeCondition
  split
  · exact sound
  · exact sound.endConditions fun _ => rfl

theorem removeConditionId (type : ConditionType)
    (conditionId : Int8) (force : Bool) (walkDelay : Int) :
    Sound (creature.removeConditionId type conditionId force walkDelay)
      (if Creature.defers type force walkDelay then table
        else without table fun key => key.1 = type ∧ key.2.1 = conditionId) now := by
  unfold Creature.removeConditionId
  split
  · exact sound
  · exact sound.endConditions fun _ => rfl

end

theorem getCondition_some (creature : Creature) {key : Key} {condition : Condition}
    (found : creature.getCondition key = some condition) :
    condition ∈ creature.conditions ∧ condition.key = key :=
  ⟨List.mem_of_find?_eq_some found, by simpa using List.find?_some found⟩

theorem getCondition_none (creature : Creature) {key : Key}
    (missing : creature.getCondition key = none) :
    ∀ condition ∈ creature.conditions, condition.key ≠ key := by
  intro condition member
  simpa using List.find?_eq_none.mp missing condition member

theorem eraseP_eq_filter (key : Key) : ∀ {conditions : List Condition},
    (conditions.map Condition.key).Nodup →
      conditions.eraseP (fun condition => condition.key = key) =
        conditions.filter fun condition => !decide (condition.key = key)
  | [], _ => rfl
  | condition :: conditions, distinct => by
      rw [List.map_cons, List.nodup_cons] at distinct
      by_cases here : condition.key = key
      · have others : ∀ other ∈ conditions, other.key ≠ key := by
          intro other member same
          exact distinct.1 (List.mem_map.mpr ⟨other, member, same.trans here.symm⟩)
        rw [List.eraseP_cons_of_pos (by simpa using here), List.filter_cons_of_neg (by simp [here]),
          List.filter_eq_self.mpr fun other member => by simp [others other member]]
      · rw [List.eraseP_cons_of_neg (by simpa using here), List.filter_cons_of_pos (by simp [here]),
          eraseP_eq_filter key distinct.2]

theorem removeConditionAt (sound : Sound creature table now) (key : Key) (force : Bool)
    (walkDelay : Int) :
    Sound (creature.removeConditionAt key force walkDelay)
      (if Creature.defers key.1 force walkDelay then table
        else without table fun other => other = key) now := by
  have whole : Sound (creature.endConditions fun condition => condition.key = key)
      (without table fun other => other = key) now := sound.endConditions fun _ => rfl
  unfold Creature.removeConditionAt
  cases found : creature.getCondition key with
  | none =>
    dsimp only
    split
    · exact sound
    · have same : creature.conditions.filter (fun condition => !decide (condition.key = key)) =
          creature.conditions := by
        refine List.filter_eq_self.mpr fun condition member => ?_
        simp [getCondition_none creature found condition member]
      refine ⟨?_, sound.ticks, sound.ofClass⟩
      have tracks := whole.tracks
      simp only [Creature.endConditions] at tracks
      rwa [same] at tracks
  | some condition =>
    have sameType : condition.conditionType = key.1 :=
      congrArg (fun key : Key => key.1) (getCondition_some creature found).2
    dsimp only
    rw [sameType]
    split
    · exact sound
    · refine ⟨?_, fun other member => ?_, fun other member => ?_⟩
      · rw [eraseP_eq_filter key sound.tracks.distinct]
        exact whole.tracks
      · exact sound.ticks other (List.mem_of_mem_eraseP member)
      · exact sound.ofClass other (List.mem_of_mem_eraseP member)

theorem executeConditions (sound : Sound creature table now) (interval : Int) :
    Sound (creature.executeConditions now interval) table now := by
  have executed : ∀ condition after : Condition,
      condition.executeCondition now interval = some after →
        (after.key = condition.key ∧ after.endTime = condition.endTime) ∧
          (0 ≤ condition.ticks → 0 ≤ after.ticks) ∧
          after.conditionClass = condition.conditionClass ∧
          after.conditionType = condition.conditionType := by
    intro condition after result
    unfold Condition.executeCondition at result
    split at result
    · cases result
      exact ⟨⟨rfl, rfl⟩, id, rfl, rfl⟩
    · split at result
      · cases result
      · split at result <;> cases result <;>
          exact ⟨⟨rfl, rfl⟩, fun _ => Int.le_max_left _ _, rfl, rfl⟩
  refine ⟨sound.tracks.filterMap (fun condition after result => (executed condition after result).1)
    fun condition _ dropped => ?_, fun after member => ?_, fun after member => ?_⟩
  · unfold Condition.executeCondition at dropped
    split at dropped
    · cases dropped
    · split at dropped
      · assumption
      · cases dropped
  · obtain ⟨condition, present, result⟩ := List.mem_filterMap.mp member
    exact (executed condition after result).2.1 (sound.ticks condition present)
  · obtain ⟨condition, present, result⟩ := List.mem_filterMap.mp member
    obtain ⟨-, -, sameClass, sameType⟩ := executed condition after result
    rw [sameClass, sameType]
    exact sound.ofClass condition present

/-! ## Adding -/

theorem addCondition_same (now drawn : Int) (condition added : Condition) :
    ((condition.addCondition now drawn added).1.key = condition.key) ∧
      (condition.addCondition now drawn added).1.conditionClass = condition.conditionClass ∧
      (condition.addCondition now drawn added).1.conditionType = condition.conditionType := by
  unfold Condition.addCondition
  repeat' split
  all_goals exact ⟨rfl, rfl, rfl⟩

theorem addCondition_ticks {now drawn : Int} {condition added : Condition}
    (runs : 0 ≤ condition.ticks) (addedRuns : 0 ≤ added.ticks) :
    0 ≤ (condition.addCondition now drawn added).1.ticks := by
  unfold Condition.addCondition
  repeat' split
  all_goals first | exact runs | exact addedRuns

theorem addCondition_endTime {now drawn : Int} {condition added : Condition}
    (sameType : condition.conditionType = added.conditionType) (runs : 0 ≤ condition.ticks)
    (addedRuns : 0 < added.ticks) (notDamage : condition.conditionClass ≠ .damage) :
    (condition.addCondition now drawn added).1.endTime =
      if condition.conditionClass = .speed then now + added.ticks
      else max condition.endTime (now + added.ticks) := by
  have infinite : ¬ (condition.ticks = -1 ∧ added.ticks > 0) := by omega
  have updates : condition.updateCondition now added =
      !decide (condition.endTime > now + added.ticks) := by
    unfold Condition.updateCondition
    rw [if_neg (by simp [sameType]), if_neg infinite]
    by_cases later : condition.endTime > now + added.ticks
    · rw [if_pos ⟨by omega, later⟩]
      simp [later]
    · simp [later]
  unfold Condition.addCondition
  cases ofClass : condition.conditionClass with
  | damage => exact absurd ofClass notDamage
  | speed =>
    simp only [ne_eq, sameType, not_true_eq_false, if_false, if_neg infinite, if_true]
    exact Int.add_comm _ _
  | _ =>
    simp only [updates, reduceCtorEq, if_false]
    by_cases later : condition.endTime > now + added.ticks
    · simp only [later, decide_true, Bool.not_true, Bool.false_eq_true, if_false]
      omega
    · simp only [later, decide_false, Bool.not_false, if_true, Condition.setTicks]
      omega

theorem startCondition_some (now drawn : Int) {condition : Condition}
    (notDamage : condition.conditionClass ≠ .damage) (runs : 0 < condition.ticks) :
    ∃ started speedChange, condition.startCondition now drawn = some (started, speedChange) ∧
      started.key = condition.key ∧ started.endTime = now + condition.ticks ∧
      started.ticks = condition.ticks ∧
      started.conditionClass = condition.conditionClass ∧
      started.conditionType = condition.conditionType := by
  unfold Condition.startCondition
  rw [if_pos runs]
  cases ofClass : condition.conditionClass with
  | damage => exact absurd ofClass notDamage
  | _ => exact ⟨_, _, rfl, rfl, Int.add_comm _ _, rfl, rfl, rfl⟩

theorem createCondition_isSome {request : Request} (typed : request.type ≠ .none) :
    ∃ condition, createCondition request = some condition := by
  obtain ⟨id, type, ticks, param, buff, subId, aggressive⟩ := request
  cases type with
  | none => exact absurd rfl typed
  | _ => exact ⟨_, rfl⟩

theorem given (sound : Sound creature table now) (drawn : Int) {added : Condition} {limit : Int}
    (addedRuns : 0 < added.ticks)
    (ends : ∀ condition ∈ creature.conditions, condition.key = added.key →
      (condition.addCondition now drawn added).1.endTime = limit)
    (present : ∃ condition ∈ creature.conditions, condition.key = added.key) (varSpeed : Int) :
    Sound { creature with
        conditions := onFirst (fun other => other.key = added.key)
          (fun other => (other.addCondition now drawn added).1) creature.conditions
        varSpeed := varSpeed }
      (Function.update table added.key (some limit)) now := by
  refine ⟨sound.tracks.onFirst (fun condition => (addCondition_same now drawn condition added).1)
    ends present, fun condition member => ?_, fun condition member => ?_⟩
  · rcases Tracks.mem_onFirst sound.tracks.distinct member with ⟨other, old, -, rfl⟩ | ⟨old, -⟩
    · exact addCondition_ticks (sound.ticks other old) (Int.le_of_lt addedRuns)
    · exact sound.ticks condition old
  · rcases Tracks.mem_onFirst sound.tracks.distinct member with ⟨other, old, -, rfl⟩ | ⟨old, -⟩
    · obtain ⟨-, sameClass, sameType⟩ := addCondition_same now drawn other added
      rw [sameClass, sameType]
      exact sound.ofClass other old
    · exact sound.ofClass condition old

theorem started (sound : Sound creature table now) (condition : Condition)
    (fresh : ∀ other ∈ creature.conditions, other.key ≠ condition.key) (runs : 0 ≤ condition.ticks)
    (ofClass : some condition.conditionClass = condition.conditionType.conditionClass)
    (varSpeed : Int) :
    Sound { creature with
        conditions := creature.conditions ++ [condition]
        varSpeed := varSpeed }
      (Function.update table condition.key (some condition.endTime)) now := by
  refine ⟨sound.tracks.append fresh, fun other member => ?_, fun other member => ?_⟩
  · rcases List.mem_append.mp member with old | new
    · exact sound.ticks other old
    · exact List.mem_singleton.mp new ▸ runs
  · rcases List.mem_append.mp member with old | new
    · exact sound.ofClass other old
    · exact List.mem_singleton.mp new ▸ ofClass

theorem displaced_append (creature : Creature) (now : Int) (condition : Condition)
    (varSpeed : Int) :
    Creature.displaced now condition.conditionType { creature with
        conditions := creature.conditions ++ [condition]
        varSpeed := varSpeed } = creature.displaced now condition.conditionType := by
  have other : ∀ type, type ≠ condition.conditionType →
      Creature.hasCondition now type 0 { creature with
        conditions := creature.conditions ++ [condition]
        varSpeed := varSpeed } = creature.hasCondition now type 0 := by
    intro type different
    simp [Creature.hasCondition, Creature.isSuppress, Ne.symm different]
  unfold Creature.displaced
  by_cases paralyze : condition.conditionType = .paralyze
  · simp only [paralyze] at other ⊢
    rw [other .haste (by decide)]
    simp
  · by_cases haste : condition.conditionType = .haste
    · simp only [haste] at other ⊢
      rw [other .paralyze (by decide)]
      simp
    · simp [paralyze, haste]

/-- **Adding a plain condition** keeps the list to the table. -/
theorem add {tracked : Tracked} (sound : Sound tracked.creature tracked.table tracked.now)
    (drawn walkDelay : Int) {request : Request} (plain : request.Plain)
    (typed : request.type ≠ .none) :
    Sound (tracked.add drawn walkDelay request).creature
      (tracked.add drawn walkDelay request).table (tracked.add drawn walkDelay request).now := by
  obtain ⟨creature, table, now⟩ := tracked
  dsimp only at sound
  obtain ⟨condition, created⟩ := createCondition_isSome typed
  obtain ⟨sameType, sameId, ofClass, subId, -, -, ticks⟩ := createCondition_fields created
  have sameKey : condition.key = request.key := by
    rw [Condition.key, Request.key, sameType, sameId, subId, plain.aggressive, plain.subId]
    rfl
  have notDamage : condition.conditionClass ≠ .damage := by
    intro damage
    rw [damage] at ofClass
    exact plain.notDamage ofClass.symm
  have sameTicks := ticks notDamage
  have runs : 0 < condition.ticks := sameTicks ▸ plain.ticks
  simp only [Tracked.add, created, Creature.addCondition]
  cases found : creature.getCondition condition.key with
  | some prevCond =>
    rw [← sameKey]
    refine sound.given drawn runs (fun other member here => ?_)
      ⟨prevCond, getCondition_some creature found⟩ _
    have otherType : other.conditionType = condition.conditionType :=
      congrArg (fun key : Key => key.1) here
    have otherClass : other.conditionClass = condition.conditionClass := by
      have of := sound.ofClass other member
      rw [otherType, sameType, ← ofClass] at of
      exact Option.some.inj of
    have timed := sound.tracks.timed other member
    rw [here, sameKey] at timed
    rw [addCondition_endTime otherType (sound.ticks other member) runs (otherClass ▸ notDamage),
      otherClass, Request.deadline, ← ofClass, timed, sameTicks]
    cases condition.conditionClass <;> rfl
  | none =>
    have missing := getCondition_none creature found
    obtain ⟨begun, speedChange, starts, begunKey, begunEnd, begunTicks, begunClass, begunType⟩ :=
      startCondition_some now drawn notDamage runs
    rw [starts]
    have late : request.deadline now table = now + request.ticks := by
      unfold Request.deadline
      split
      · rfl
      · rfl
      · rename_i earlier recorded _
        have passed : ¬ now ≤ earlier := by
          intro live
          obtain ⟨other, member, here⟩ := sound.tracks.kept _ earlier recorded live
          exact missing other member (here.trans sameKey.symm)
        omega
    have appended := sound.started begun
      (fun other member here => missing other member (here.trans begunKey))
      (by rw [begunTicks]; exact Int.le_of_lt runs)
      (by rw [begunClass, begunType, sameType]; exact ofClass) (creature.varSpeed + speedChange)
    rw [begunKey, begunEnd, sameKey, sameTicks, ← late] at appended
    have displaces := displaced_append creature now begun (creature.varSpeed + speedChange)
    rw [begunType, sameType] at displaces
    simp only [Creature.onAddCondition, sameType, displaces]
    cases creature.displaced now request.type with
    | none => exact appended
    | some other => exact appended.removeCondition other false walkDelay

end Sound

/-! ## Whole runs -/

theorem Sound.findsRequested {tracked : Tracked}
    (sound : Sound tracked.creature tracked.table tracked.now) : FindsRequested tracked := by
  intro time type later shown subId
  have found := sound.tracks.found_iff later
    fun key => key.1 = type ∧ key.2.2 = subId
  have listed : tracked.creature.hasCondition time type subId = true ↔
      ∃ condition ∈ tracked.creature.conditions,
        (condition.key.1 = type ∧ condition.key.2.2 = subId) ∧ time ≤ condition.endTime := by
    unfold Creature.hasCondition
    rw [if_neg (by simp [shown]), List.any_eq_true]
    constructor
    · rintro ⟨condition, member, matching⟩
      obtain ⟨sameType, sameSubId, open_ | infinite⟩ := of_decide_eq_true matching
      · exact ⟨condition, member, ⟨sameType, sameSubId⟩, open_⟩
      · have := sound.ticks condition member
        omega
    · rintro ⟨condition, member, ⟨sameType, sameSubId⟩, open_⟩
      exact ⟨condition, member, decide_eq_true ⟨sameType, sameSubId, .inl open_⟩⟩
  rw [listed, found]
  constructor
  · rintro ⟨⟨_, id, _⟩, ⟨rfl, rfl⟩, live⟩
    exact ⟨id, live⟩
  · rintro ⟨id, live⟩
    exact ⟨(type, id, subId), ⟨rfl, rfl⟩, live⟩

theorem FindsRequested.blocksRequested {tracked : Tracked} (finds : FindsRequested tracked) :
    BlocksRequested tracked := by
  intro time spell later shownSpell shownGroup
  have spellFound := finds time .spellCooldown later shownSpell spell.spellId.toUInt32
  have groupFound := finds time .spellGroupCooldown later shownGroup spell.group.toUInt32
  have secondaryFound :=
    finds time .spellGroupCooldown later shownGroup spell.secondaryGroup.toUInt32
  rw [Spell.exhausted, Bool.or_eq_true, Bool.or_eq_true, Bool.and_eq_true, bne_iff_ne, spellFound,
    groupFound, secondaryFound, ← or_assoc, or_comm (a := ∃ id, Live tracked.table
      (.spellGroupCooldown, id, spell.group.toUInt32) time)]

theorem Request.Plain.reports {request : Request} (plain : request.Plain) : Reports request :=
  fun _ created => (createCondition_reports_iff created).mpr
    ⟨plain.subId, plain.buff, plain.aggressive⟩

theorem Spell.cooldowns_typed (spell : Spell) :
    ∀ request ∈ spell.cooldowns, request.type ≠ .none := by
  intro request member
  simp only [Spell.cooldowns, List.mem_append] at member
  rcases member with (member | member) | member <;>
    · split at member
      · rw [List.mem_singleton.mp member]
        exact nofun
      · cases member

theorem Sound.addAll (drawn walkDelay : Int) :
    ∀ {requests : List Request}, (∀ request ∈ requests, request.Plain ∧ request.type ≠ .none) →
      ∀ {tracked : Tracked}, Sound tracked.creature tracked.table tracked.now →
        let after := requests.foldl
          (fun tracked request => tracked.add drawn walkDelay request) tracked
        Sound after.creature after.table after.now
  | [], _, _, sound => sound
  | request :: requests, plain, _, sound => by
      obtain ⟨now, typed⟩ := plain request List.mem_cons_self
      exact .addAll drawn walkDelay
        (fun other member => plain other (List.mem_cons_of_mem _ member))
        (sound.add drawn walkDelay now typed)

theorem step_sound (tracked : Tracked) (op : ConditionOp)
    (sound : Sound tracked.creature tracked.table tracked.now)
    (legal : conditionSystem.legal tracked op)
    (plain : AsksPlain tracked op (conditionSystem.step tracked op)) :
    Sound (conditionSystem.step tracked op).creature (conditionSystem.step tracked op).table
      (conditionSystem.step tracked op).now := by
  have later := sound.advance legal.1
  have atTime : Sound (tracked.at_ op.time).creature (tracked.at_ op.time).table
      (tracked.at_ op.time).now := later
  cases op with
  | addCondition time drawn walkDelay request =>
    exact atTime.add drawn walkDelay
      (plain request List.mem_cons_self) legal.2.2.1
  | postCastSpell time drawn walkDelay spell =>
    exact .addAll drawn walkDelay
      (fun request member => ⟨plain request member, spell.cooldowns_typed request member⟩)
      atTime
  | removeCondition time type force walkDelay =>
    exact later.removeCondition type force walkDelay
  | removeConditionId time type conditionId force walkDelay =>
    exact later.removeConditionId type conditionId force walkDelay
  | removeConditionAt time key force walkDelay =>
    exact later.removeConditionAt key force walkDelay
  | executeConditions time interval => exact later.executeConditions interval

/-- **Runs of plain requests keep conditions apart as they were asked for.** -/
theorem conditions_kept_apart_of_plain_requests (ops : List ConditionOp)
    (legal : conditionSystem.Legal {} ops) (plain : conditionSystem.Throughout AsksPlain {} ops) :
    conditionSystem.Throughout KeepsApart {} ops := by
  have initial : Sound (Tracked.mk {} (fun _ => none) 0).creature (fun _ => none) 0 :=
    ⟨.empty 0, by simp, by simp⟩
  refine .of_invariant
    (fun before op (sound : Sound before.creature before.table before.now) legalOp plainOp => ?_)
    initial legal plain
  have after := step_sound before op sound legalOp plainOp
  exact ⟨⟨fun request member => (plainOp request member).reports, after.findsRequested,
    after.findsRequested.blocksRequested⟩, after⟩

/-- Two conditions of one type and sub id under different ids, and one removed. -/
theorem conditions_kept_apart_of_plain_requests_two_ids :
    conditionSystem.Throughout KeepsApart {}
      [.addCondition 0 0 0 { id := -1, type := .manashield, ticks := 1000 },
        .addCondition 10 0 0 { id := 3, type := .manashield, ticks := 500 },
        .removeConditionId 20 .manashield 3 true 0,
        .executeConditions 900 1000] := by
  refine conditions_kept_apart_of_plain_requests _ ?_ ⟨?_, ?_, ?_, ?_, trivial⟩
  · simp [System.Throughout, conditionSystem, Tracked.add, Tracked.at_, ConditionOp.time]
  · exact fun request member => List.mem_singleton.mp member ▸ ⟨rfl, rfl, rfl, by decide, by decide⟩
  · exact fun request member => List.mem_singleton.mp member ▸ ⟨rfl, rfl, rfl, by decide, by decide⟩
  · exact fun request member => absurd member List.not_mem_nil
  · exact fun request member => absurd member List.not_mem_nil

/-- **A cooldown is not found under its spell.** The condition of a second asked
for under the sub id 5 is not there at once. -/
theorem cooldown_not_found_under_its_spell :
    conditionSystem.Legal {}
        [.addCondition 0 0 0 { id := -1, type := .spellCooldown, ticks := 1000, subId := 5 }] ∧
      ¬ conditionSystem.Throughout KeepsApart {}
        [.addCondition 0 0 0 { id := -1, type := .spellCooldown, ticks := 1000, subId := 5 }] := by
  refine ⟨⟨⟨by decide, by decide, by decide, by decide⟩, trivial⟩, fun keeps => ?_⟩
  have found := (keeps.1.2.1 0 .spellCooldown (by decide) (by decide) 5).mpr
    ⟨-1, 1000, by decide, by decide⟩
  revert found
  decide

end Otserv.Conditions
