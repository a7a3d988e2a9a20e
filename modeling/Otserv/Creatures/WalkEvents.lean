import Otserv.Creatures.Walk

/-!
# One walk event for each creature

Between the tasks of the dispatcher there should be one event of a creature at most, `eventWalk`
its id or zero, so that `stopEventWalk` leaves none (`Sound`).

The functions keep to this by comparing `eventWalk` with zero, but it does not stand for the
events while a step is made. In `onWalk` it is the id of the event that fired, and whatever it is
behind the step, another event takes its place; in `addEventWalk` it is zero during the first
step, and set behind it without looking. So an event that a step adds is lost. An event that has
fired is not stopped, and it is not taken off where the creature has no health
(`walks_sound_iff`).
-/

namespace Otserv.Creatures

open Foundation

variable {Direction : Type}

structure Sound (walker : Walker Direction) : Prop where
  single : walker.events.running.length ≤ 1
  event : ∀ timer ∈ walker.events.running, timer.id = walker.eventWalk
  none : walker.events.running = [] → walker.eventWalk = 0
  stopped : walker.eventWalk = 0 → walker.events.running = []

namespace Walker

/-! ## The parts of a walk -/

/-- The step is made, or the walk is over. -/
def moved (walker : Walker Direction) (delayed : Bool) (next : NextStep)
    (step complete : List (WalkOp Direction)) : Walker Direction :=
  if delayed then walker
  else
    match walker.getNextStep next with
    | (walker, true) => callAll walker step
    | (walker, false) =>
      let walker := walker.stopEventWalk
      if walker.listWalkDir = [] then callAll walker complete else walker

variable (walker : Walker Direction)

def aborted (ops : List (WalkOp Direction)) : Walker Direction :=
  if walker.cancelNextWalk then
    { callAll { walker with listWalkDir := [] } ops with cancelNextWalk := false }
  else walker

/-- The next event is added. -/
def resumed (pace : Pace Direction) : Walker Direction :=
  if walker.eventWalk ≠ 0 then addEventWalk false { walker with eventWalk := 0 } pace else walker

end Walker

theorem checkCreatureWalk_eq (walker : Walker Direction) (delayed : Bool) (next : NextStep)
    (step complete aborted : List (WalkOp Direction)) (pace : Pace Direction) :
    checkCreatureWalk walker (.mk delayed next step complete aborted pace) =
      if ¬walker.alive then walker
      else ((walker.moved delayed next step complete).aborted aborted).resumed pace := by
  rfl

/-! ## No event is lost -/

mutual

/-- The first step leaves no event. -/
def AddClear (firstStep : Bool) (walker : Walker Direction) : Pace Direction → Prop
  | .mk walkDelay stepDuration stepTicks first =>
    let walker := { walker with cancelNextWalk := false }
    if walker.getStepSpeed ≤ 0 ∨ walker.eventWalk ≠ 0 ∨
        Walker.getEventStepTicks firstStep walkDelay stepDuration stepTicks ≠ 1 then True
    else
      match first with
      | none => True
      | some walk => WalkClear walker walk ∧ (checkCreatureWalk walker walk).eventWalk = 0

/-- The step leaves no event that was added inside it. -/
def WalkClear (walker : Walker Direction) : Walk Direction → Prop
  | .mk delayed next step complete aborted pace =>
    walker.alive = true →
      (delayed = false →
        ((walker.getNextStep next).2 = true → AllClear (walker.getNextStep next).1 step) ∧
        ((walker.getNextStep next).2 = false →
          (walker.getNextStep next).1.stopEventWalk.listWalkDir = [] →
            AllClear (walker.getNextStep next).1.stopEventWalk complete)) ∧
      ((walker.moved delayed next step complete).cancelNextWalk = true →
        AllClear { walker.moved delayed next step complete with listWalkDir := [] } aborted) ∧
      (((walker.moved delayed next step complete).aborted aborted).eventWalk ≠ 0 →
        ((walker.moved delayed next step complete).aborted aborted).events.running = [] ∧
          AddClear false { (walker.moved delayed next step complete).aborted aborted with
            eventWalk := 0 } pace)

/-- An event that is stopped has not fired. -/
def CallClear (walker : Walker Direction) : WalkOp Direction → Prop
  | .startAutoWalk blocked listDir pace =>
    ¬(walker.isPlayer ∧ blocked) →
      AddClear (listDir.length = 1) { walker with listWalkDir := listDir } pace
  | .addEventWalk firstStep pace => AddClear firstStep walker pace
  | .stopEventWalk => ⟨walker.eventWalk, (), true⟩ ∉ walker.events.running
  | .setSpeed varSpeedDelta pace =>
    if ({ walker with varSpeed := varSpeedDelta } : Walker Direction).getSpeed ≤ 0 then
      ⟨walker.eventWalk, (), true⟩ ∉ walker.events.running
    else walker.getSpeed ≤ 0 ∧ walker.listWalkDir ≠ [] →
      AddClear false { walker with varSpeed := varSpeedDelta } pace
  | .stopWalk | .setBaseSpeed _ | .changeHealth _ => True

def AllClear (walker : Walker Direction) : List (WalkOp Direction) → Prop
  | [] => True
  | op :: ops => CallClear walker op ∧ AllClear (call walker op) ops

end

/-- No event is lost in the step, and a creature for which an event fires has health. -/
def NoneLost (walker : Walker Direction) : WalkStep Direction → Prop
  | .call op => CallClear walker op
  | .fire _ => True
  | .checkCreatureWalk event walk =>
    walker.alive = true ∧ WalkClear { walker with events := walker.events.take event } walk

/-! ## What every operation keeps -/

/-- A law of the events and of `eventWalk` that adding, stopping and setting to zero keep. -/
structure Kept (law : Timers Unit → Nat → Prop) : Prop where
  add : ∀ {events event}, law events event → law (events.start ()) (events.start ()).last
  stop : ∀ {events event}, law events event → law (events.stop event) 0
  zero : ∀ {events event}, law events event → law events 0

namespace Kept

variable {law : Timers Unit → Nat → Prop}

theorem stopEventWalk (kept : Kept law) {walker : Walker Direction}
    (holds : law walker.events walker.eventWalk) :
    law walker.stopEventWalk.events walker.stopEventWalk.eventWalk := by
  unfold Walker.stopEventWalk
  by_cases some : walker.eventWalk ≠ 0
  · rw [if_pos some]
    exact kept.stop holds
  · rw [if_neg some]
    exact holds

theorem getNextStep (kept : Kept law) {walker : Walker Direction} (next : NextStep)
    (holds : law walker.events walker.eventWalk) :
    law (walker.getNextStep next).1.events (walker.getNextStep next).1.eventWalk := by
  unfold Walker.getNextStep
  cases next with
  | idle => exact kept.zero holds
  | own found => exact holds
  | base =>
    cases walker.listWalkDir with
    | nil => exact holds
    | cons direction listWalkDir => exact holds

theorem moved (kept : Kept law) {walker : Walker Direction} {delayed : Bool} {next : NextStep}
    {step complete : List (WalkOp Direction)} (holds : law walker.events walker.eventWalk)
    (stepKeeps : ∀ other : Walker Direction, law other.events other.eventWalk →
      law (callAll other step).events (callAll other step).eventWalk)
    (completeKeeps : ∀ other : Walker Direction, law other.events other.eventWalk →
      law (callAll other complete).events (callAll other complete).eventWalk) :
    law (walker.moved delayed next step complete).events
      (walker.moved delayed next step complete).eventWalk := by
  unfold Walker.moved
  cases delayed with
  | true => exact holds
  | false =>
    have chosen := kept.getNextStep next holds
    rw [if_neg Bool.false_ne_true]
    split
    · next found walking =>
        rw [walking] at chosen
        exact stepKeeps _ chosen
    · next gone walking =>
        rw [walking] at chosen
        have stopped := kept.stopEventWalk chosen
        dsimp only
        split
        · exact completeKeeps _ stopped
        · exact stopped

theorem aborted {walker : Walker Direction} {ops : List (WalkOp Direction)}
    (holds : law walker.events walker.eventWalk)
    (keeps : ∀ other : Walker Direction, law other.events other.eventWalk →
      law (callAll other ops).events (callAll other ops).eventWalk) :
    law (walker.aborted ops).events (walker.aborted ops).eventWalk := by
  unfold Walker.aborted
  split
  · exact keeps { walker with listWalkDir := [] } holds
  · exact holds

mutual

theorem addEventWalk (kept : Kept law) (firstStep : Bool) (walker : Walker Direction)
    (holds : law walker.events walker.eventWalk) : ∀ pace : Pace Direction,
      law (addEventWalk firstStep walker pace).events
        (Creatures.addEventWalk firstStep walker pace).eventWalk
  | .mk walkDelay stepDuration stepTicks first => by
      unfold Creatures.addEventWalk
      dsimp only
      split
      · exact holds
      split
      · exact holds
      split
      · exact holds
      split
      · cases first with
        | none => exact kept.add holds
        | some walk =>
          exact kept.add
            (checkCreatureWalk kept { walker with cancelNextWalk := false } holds walk)
      · exact kept.add holds

theorem checkCreatureWalk (kept : Kept law) (walker : Walker Direction)
    (holds : law walker.events walker.eventWalk) : ∀ walk : Walk Direction,
      law (checkCreatureWalk walker walk).events (Creatures.checkCreatureWalk walker walk).eventWalk
  | .mk delayed next step complete aborted pace => by
      rw [checkCreatureWalk_eq]
      by_cases dead : ¬walker.alive
      · rw [if_pos dead]
        exact holds
      rw [if_neg dead]
      have moved : law (walker.moved delayed next step complete).events
          (walker.moved delayed next step complete).eventWalk :=
        kept.moved holds (fun other keeps => callAll kept other keeps step)
          fun other keeps => callAll kept other keeps complete
      have ended := Kept.aborted moved fun other keeps => callAll kept other keeps aborted
      unfold Walker.resumed
      split
      · exact addEventWalk kept false _ (kept.zero ended) pace
      · exact ended

theorem call (kept : Kept law) (walker : Walker Direction)
    (holds : law walker.events walker.eventWalk) : ∀ op : WalkOp Direction,
      law (call walker op).events (Creatures.call walker op).eventWalk
  | .startAutoWalk blocked listDir pace => by
      unfold Creatures.call
      split
      · exact holds
      · exact addEventWalk kept _ { walker with listWalkDir := listDir } holds pace
  | .addEventWalk firstStep pace => addEventWalk kept firstStep walker holds pace
  | .stopEventWalk => kept.stopEventWalk holds
  | .setSpeed varSpeedDelta pace => by
      unfold Creatures.call
      dsimp only
      split
      · exact @stopEventWalk _ _ kept { walker with varSpeed := varSpeedDelta } holds
      split
      · exact addEventWalk kept false { walker with varSpeed := varSpeedDelta } holds pace
      · exact holds
  | .stopWalk => holds
  | .setBaseSpeed _ => holds
  | .changeHealth _ => holds

theorem callAll (kept : Kept law) (walker : Walker Direction)
    (holds : law walker.events walker.eventWalk) : ∀ ops : List (WalkOp Direction),
      law (callAll walker ops).events (Creatures.callAll walker ops).eventWalk
  | [] => holds
  | op :: ops => callAll kept _ (call kept walker holds op) ops

end

end Kept

/-! ## Events that are lost -/

namespace Walker

variable {walker : Walker Direction}

/-- Every event is the one of `eventWalk`. -/
def Tight (walker : Walker Direction) : Prop :=
  ∀ timer ∈ walker.events.running, timer.id = walker.eventWalk

variable (events : Timers Unit)

/-- `eventWalk` is the id of an event or zero. -/
def Settled (event : Nat) : Prop :=
  event ≠ 0 → ∃ timer ∈ events.running, timer.id = event

def Lost (event : Nat) : Prop :=
  events.Valid ∧ ∃ timer ∈ events.running, timer.id ≠ event

theorem kept_valid : Kept fun events _ => events.Valid where
  add := fun valid => valid.start ()
  stop := fun valid => valid.stop _
  zero := fun valid => valid

theorem kept_settled : Kept Settled where
  add := fun _ _ => ⟨_, Timers.mem_start.mpr (.inl rfl), rfl⟩
  stop := fun _ some => absurd rfl some
  zero := fun _ some => absurd rfl some

/-- **An event that is lost stays lost.** -/
theorem kept_lost : Kept Lost where
  add := by
    rintro events event ⟨valid, timer, among, -⟩
    refine ⟨valid.start (), timer, Timers.mem_start.mpr (.inr among), ?_⟩
    exact Nat.ne_of_lt (Nat.lt_succ_of_le (valid.le timer among))
  stop := by
    rintro events event ⟨valid, timer, among, other⟩
    refine ⟨valid.stop event, timer, Timers.mem_stop.mpr ⟨among, .inl other⟩, ?_⟩
    exact Nat.pos_iff_ne_zero.mp (valid.pos timer among)
  zero := by
    rintro events event ⟨valid, timer, among, -⟩
    exact ⟨valid, timer, among, Nat.pos_iff_ne_zero.mp (valid.pos timer among)⟩

theorem lost_of_not_tight (valid : walker.events.Valid) (loose : ¬walker.Tight) :
    Lost walker.events walker.eventWalk := by
  unfold Tight at loose
  push Not at loose
  exact ⟨valid, loose⟩

theorem not_tight_of_lost (lost : Lost walker.events walker.eventWalk) : ¬walker.Tight := by
  obtain ⟨-, timer, among, other⟩ := lost
  exact fun tight => other (tight timer among)

theorem Tight.of_nil (none : walker.events.running = []) : walker.Tight := by
  intro timer among
  rw [none] at among
  exact absurd among List.not_mem_nil

theorem Tight.running_nil (tight : walker.Tight) (valid : walker.events.Valid)
    (zero : walker.eventWalk = 0) : walker.events.running = [] := by
  refine List.eq_nil_iff_forall_not_mem.mpr fun timer among => ?_
  have positive := valid.pos timer among
  rw [tight timer among, zero] at positive
  exact Nat.lt_irrefl 0 positive

theorem tight_addEvent (valid : walker.events.Valid) :
    walker.addEvent.Tight ↔ walker.events.running = [] := by
  constructor
  · intro tight
    refine List.eq_nil_iff_forall_not_mem.mpr fun timer among => ?_
    have same : timer.id = walker.events.last + 1 :=
      tight timer (Timers.mem_start.mpr (.inr among))
    have old := valid.le timer among
    omega
  · intro none timer among
    obtain rfl | old := Timers.mem_start.mp among
    · rfl
    · rw [none] at old
      exact absurd old List.not_mem_nil

theorem tight_stopEventWalk (valid : walker.events.Valid) (tight : walker.Tight) :
    walker.stopEventWalk.Tight ↔ ⟨walker.eventWalk, (), true⟩ ∉ walker.events.running := by
  unfold stopEventWalk
  by_cases some : walker.eventWalk ≠ 0
  · rw [if_pos some]
    constructor
    · intro stopped fired
      have left : (⟨walker.eventWalk, (), true⟩ : Timer Unit) ∈
          (walker.events.stop walker.eventWalk).running :=
        Timers.mem_stop.mpr ⟨fired, .inr rfl⟩
      exact some (stopped _ left)
    · intro unfired timer among
      obtain ⟨old, stays⟩ := Timers.mem_stop.mp among
      have same := tight timer old
      obtain ⟨id, ⟨⟩, fired⟩ := timer
      obtain rfl : id = walker.eventWalk := same
      obtain rfl : fired = true := stays.resolve_left fun other => other rfl
      exact absurd old unfired
  · rw [if_neg some]
    refine iff_of_true tight fun fired => ?_
    rw [tight.running_nil valid (not_not.mp some)] at fired
    exact absurd fired List.not_mem_nil

theorem events_getNextStep (next : NextStep) :
    (walker.getNextStep next).1.events = walker.events := by
  unfold getNextStep
  cases next with
  | idle => rfl
  | own found => rfl
  | base =>
    cases walker.listWalkDir with
    | nil => rfl
    | cons direction listWalkDir => rfl

theorem stopEventWalk_running_nil (none : walker.events.running = []) :
    walker.stopEventWalk.events.running = [] := by
  unfold stopEventWalk
  split
  · show walker.events.running.filter _ = []
    rw [none]
    rfl
  · exact none

theorem Tight.of_addEventWalk (valid : walker.events.Valid) {firstStep : Bool}
    {pace : Pace Direction} (tight : (addEventWalk firstStep walker pace).Tight) :
    walker.Tight := by
  by_contra loose
  have lost := lost_of_not_tight valid loose
  exact not_tight_of_lost (kept_lost.addEventWalk firstStep walker lost pace) tight

theorem Tight.of_callAll (valid : walker.events.Valid) {ops : List (WalkOp Direction)}
    (tight : (callAll walker ops).Tight) : walker.Tight := by
  by_contra loose
  have lost := lost_of_not_tight valid loose
  exact not_tight_of_lost (kept_lost.callAll walker lost ops) tight

theorem Tight.of_aborted (valid : walker.events.Valid) {ops : List (WalkOp Direction)}
    (tight : (walker.aborted ops).Tight) : walker.Tight := by
  unfold aborted at tight
  by_cases cancelled : walker.cancelNextWalk = true
  · rw [if_pos cancelled] at tight
    exact @Tight.of_callAll _ { walker with listWalkDir := [] } valid ops tight
  · rw [if_neg cancelled] at tight
    exact tight

/-- `onWalk` sets another event, and it looks at none that is there. -/
theorem Tight.of_resumed (valid : walker.events.Valid) {pace : Pace Direction}
    (tight : (walker.resumed pace).Tight) : walker.Tight := by
  unfold resumed at tight
  by_cases some : walker.eventWalk ≠ 0
  · rw [if_pos some] at tight
    have zeroed := @Tight.of_addEventWalk _ { walker with eventWalk := 0 } valid _ _ tight
    exact .of_nil (zeroed.running_nil valid rfl)
  · rw [if_neg some] at tight
    exact tight

end Walker

theorem and_of_parts {first second clear further : Prop} (exactly : first ↔ clear)
    (onwards : second → first) (and_then : first → (second ↔ further)) :
    second ↔ clear ∧ further := by
  constructor
  · intro holds
    exact ⟨exactly.mp (onwards holds), (and_then (onwards holds)).mp holds⟩
  · rintro ⟨isClear, isFurther⟩
    exact (and_then (exactly.mpr isClear)).mpr isFurther

/-! ## When no event is lost -/

open Walker

section Parts

variable {walker : Walker Direction}

theorem tight_moved (empty : walker.events.running = []) {delayed : Bool} {next : NextStep}
    {step complete : List (WalkOp Direction)}
    (stepIff : ∀ other : Walker Direction, other.events.Valid → other.Tight →
      ((callAll other step).Tight ↔ AllClear other step))
    (completeIff : ∀ other : Walker Direction, other.events.Valid → other.Tight →
      ((callAll other complete).Tight ↔ AllClear other complete))
    (valid : walker.events.Valid) :
    (walker.moved delayed next step complete).Tight ↔ (delayed = false →
      ((walker.getNextStep next).2 = true → AllClear (walker.getNextStep next).1 step) ∧
      ((walker.getNextStep next).2 = false →
        (walker.getNextStep next).1.stopEventWalk.listWalkDir = [] →
          AllClear (walker.getNextStep next).1.stopEventWalk complete)) := by
  unfold moved
  cases delayed with
  | true => exact iff_of_true (.of_nil empty) nofun
  | false =>
    have same : (walker.getNextStep next).1.events = walker.events := events_getNextStep next
    rw [← same] at empty valid
    generalize walker.getNextStep next = chosen at empty valid
    obtain ⟨chosen, found⟩ := chosen
    cases found with
    | true =>
      refine (stepIff chosen valid (.of_nil empty)).trans ?_
      exact ⟨fun clear _ => ⟨fun _ => clear, nofun⟩, fun clear => (clear rfl).1 rfl⟩
    | false =>
      have stopped := stopEventWalk_running_nil empty
      have stoppedValid : chosen.stopEventWalk.events.Valid := kept_valid.stopEventWalk valid
      dsimp only
      by_cases isAll : chosen.stopEventWalk.listWalkDir = []
      · rw [if_pos isAll]
        refine (completeIff _ stoppedValid (.of_nil stopped)).trans ?_
        exact ⟨fun clear _ => ⟨nofun, fun _ _ => clear⟩, fun clear => (clear rfl).2 rfl isAll⟩
      · rw [if_neg isAll]
        exact iff_of_true (.of_nil stopped) fun _ =>
          ⟨nofun, fun _ other => absurd other isAll⟩

theorem tight_aborted {ops : List (WalkOp Direction)} (valid : walker.events.Valid)
    (tight : walker.Tight)
    (exactly : ∀ other : Walker Direction, other.events.Valid → other.Tight →
      ((callAll other ops).Tight ↔ AllClear other ops)) :
    (walker.aborted ops).Tight ↔
      (walker.cancelNextWalk = true → AllClear { walker with listWalkDir := [] } ops) := by
  unfold aborted
  by_cases cancelled : walker.cancelNextWalk = true
  · rw [if_pos cancelled]
    refine (exactly { walker with listWalkDir := [] } valid tight).trans ?_
    exact ⟨fun clear _ => clear, fun clear => clear cancelled⟩
  · rw [if_neg cancelled]
    exact iff_of_true tight fun other => absurd other cancelled

theorem tight_resumed {pace : Pace Direction} (valid : walker.events.Valid) (tight : walker.Tight)
    (exactly : ∀ other : Walker Direction, other.events.Valid → other.Tight →
      ((addEventWalk false other pace).Tight ↔ AddClear false other pace)) :
    (walker.resumed pace).Tight ↔ (walker.eventWalk ≠ 0 →
      walker.events.running = [] ∧ AddClear false { walker with eventWalk := 0 } pace) := by
  unfold resumed
  by_cases isSet : walker.eventWalk ≠ 0
  · rw [if_pos isSet]
    have zeroed : ({ walker with eventWalk := 0 } : Walker Direction).Tight ↔
        walker.events.running = [] :=
      ⟨fun zero => zero.running_nil valid rfl, fun empty => .of_nil empty⟩
    refine (and_of_parts zeroed (@Tight.of_addEventWalk _ { walker with eventWalk := 0 } valid _ _)
      fun zero => exactly { walker with eventWalk := 0 } valid zero).trans ?_
    exact ⟨fun clear _ => clear, fun clear => clear isSet⟩
  · rw [if_neg isSet]
    exact iff_of_true tight fun other => absurd other isSet

end Parts

mutual

theorem tight_addEventWalk (firstStep : Bool) (walker : Walker Direction)
    (valid : walker.events.Valid) (tight : walker.Tight) : ∀ pace : Pace Direction,
      (addEventWalk firstStep walker pace).Tight ↔ AddClear firstStep walker pace
  | .mk walkDelay stepDuration stepTicks first => by
      unfold addEventWalk AddClear
      by_cases slow : ({ walker with cancelNextWalk := false } : Walker Direction).getStepSpeed ≤ 0
      · rw [if_pos slow, if_pos (.inl slow)]
        exact iff_of_true tight trivial
      rw [if_neg slow]
      by_cases isSet : walker.eventWalk ≠ 0
      · rw [if_pos isSet, if_pos (.inr (.inl isSet))]
        exact iff_of_true tight trivial
      rw [if_neg isSet]
      have empty := tight.running_nil valid (not_not.mp isSet)
      have added : ({ walker with cancelNextWalk := false } : Walker Direction).addEvent.Tight :=
        (Walker.tight_addEvent valid).mpr empty
      by_cases now : getEventStepTicks firstStep walkDelay stepDuration stepTicks = 1
      · have goes :
            ¬(({ walker with cancelNextWalk := false } : Walker Direction).getStepSpeed ≤ 0 ∨
              walker.eventWalk ≠ 0 ∨
              getEventStepTicks firstStep walkDelay stepDuration stepTicks ≠ 1) := by
          rintro (isSlow | other | other)
          · exact slow isSlow
          · exact isSet other
          · exact other now
        rw [if_neg (by rw [now]; decide), if_pos now, if_neg goes]
        cases first with
        | none => exact iff_of_true added trivial
        | some walk =>
          have walked :=
            tight_checkCreatureWalk { walker with cancelNextWalk := false } valid empty walk
          have after := kept_valid.checkCreatureWalk
            { walker with cancelNextWalk := false } valid walk
          have settled := kept_settled.checkCreatureWalk
            { walker with cancelNextWalk := false } (fun other => absurd other isSet) walk
          refine (Walker.tight_addEvent after).trans ?_
          constructor
          · intro gone
            refine ⟨walked.mp (.of_nil gone), ?_⟩
            by_contra other
            obtain ⟨timer, among, -⟩ := settled other
            rw [gone] at among
            exact absurd among List.not_mem_nil
          · rintro ⟨clear, zero⟩
            exact (walked.mpr clear).running_nil after zero
      · have ends : ({ walker with cancelNextWalk := false } : Walker Direction).getStepSpeed ≤ 0 ∨
            walker.eventWalk ≠ 0 ∨
            getEventStepTicks firstStep walkDelay stepDuration stepTicks ≠ 1 := .inr (.inr now)
        rw [if_pos ends]
        refine iff_of_true ?_ trivial
        by_cases never : getEventStepTicks firstStep walkDelay stepDuration stepTicks ≤ 0
        · rw [if_pos never]
          exact tight
        · rw [if_neg never, if_neg now]
          exact added

theorem tight_checkCreatureWalk (walker : Walker Direction) (valid : walker.events.Valid)
    (empty : walker.events.running = []) : ∀ walk : Walk Direction,
      (checkCreatureWalk walker walk).Tight ↔ WalkClear walker walk
  | .mk delayed next step complete aborted pace => by
      rw [checkCreatureWalk_eq]
      by_cases alive : walker.alive = true
      · rw [if_neg (not_not.mpr alive)]
        have movedValid : (walker.moved delayed next step complete).events.Valid :=
          kept_valid.moved valid (fun other isValid => kept_valid.callAll other isValid step)
            fun other isValid => kept_valid.callAll other isValid complete
        have endedValid :
            ((walker.moved delayed next step complete).aborted aborted).events.Valid :=
          @Kept.aborted _ (fun events _ => events.Valid) _ _ movedValid fun other isValid =>
            kept_valid.callAll other isValid aborted
        have moved := @tight_moved _ walker empty delayed next step complete
          (fun other isValid tight => tight_callAll other isValid tight step)
          (fun other isValid tight => tight_callAll other isValid tight complete) valid
        have ended := and_of_parts moved (.of_aborted movedValid) fun tight =>
          tight_aborted movedValid tight fun other isValid isTight =>
            tight_callAll other isValid isTight aborted
        have resumed := and_of_parts ended (.of_resumed endedValid) fun tight =>
          tight_resumed endedValid tight fun other isValid isTight =>
            tight_addEventWalk false other isValid isTight pace
        refine resumed.trans ?_
        rw [and_assoc]
        exact ⟨fun clear _ => clear, fun clear => clear alive⟩
      · rw [if_pos alive]
        exact iff_of_true (.of_nil empty) fun isAlive => absurd isAlive alive

theorem tight_call (walker : Walker Direction) (valid : walker.events.Valid)
    (tight : walker.Tight) : ∀ op : WalkOp Direction,
      (call walker op).Tight ↔ CallClear walker op
  | .startAutoWalk blocked listDir pace => by
      unfold call CallClear
      by_cases stands : walker.isPlayer = true ∧ blocked = true
      · rw [if_pos stands]
        exact iff_of_true tight fun moves => absurd stands moves
      · rw [if_neg stands]
        exact (tight_addEventWalk _ { walker with listWalkDir := listDir } valid tight pace).trans
          ⟨fun clear _ => clear, fun clear => clear stands⟩
  | .addEventWalk firstStep pace => tight_addEventWalk firstStep walker valid tight pace
  | .stopEventWalk => tight_stopEventWalk valid tight
  | .setSpeed varSpeedDelta pace => by
      unfold call CallClear
      by_cases stopped :
          ({ walker with varSpeed := varSpeedDelta } : Walker Direction).getSpeed ≤ 0
      · rw [if_pos stopped, if_pos stopped]
        exact @tight_stopEventWalk _ { walker with varSpeed := varSpeedDelta } valid tight
      rw [if_neg stopped, if_neg stopped]
      by_cases goes : walker.getSpeed ≤ 0 ∧ walker.listWalkDir ≠ []
      · rw [if_pos goes]
        exact (tight_addEventWalk false { walker with varSpeed := varSpeedDelta } valid tight
          pace).trans ⟨fun clear _ => clear, fun clear => clear goes⟩
      · rw [if_neg goes]
        exact iff_of_true tight fun both => absurd both goes
  | .stopWalk => iff_of_true tight trivial
  | .setBaseSpeed _ => iff_of_true tight trivial
  | .changeHealth _ => iff_of_true tight trivial

theorem tight_callAll (walker : Walker Direction) (valid : walker.events.Valid)
    (tight : walker.Tight) : ∀ ops : List (WalkOp Direction),
      (callAll walker ops).Tight ↔ AllClear walker ops
  | [] => iff_of_true tight trivial
  | op :: ops => by
      have after := kept_valid.call walker valid op
      refine and_of_parts (tight_call walker valid tight op) ?_ ?_
      · exact .of_callAll after
      · exact fun isTight => tight_callAll (call walker op) after isTight ops

end

/-! ## Whole runs -/

structure Walker.Invariant (walker : Walker Direction) : Prop where
  valid : walker.events.Valid
  tight : walker.Tight
  settled : Settled walker.events walker.eventWalk

namespace Walker.Invariant

variable {walker : Walker Direction}

theorem sound (invariant : walker.Invariant) : Sound walker where
  single := by
    have nodup := invariant.valid.nodup
    have same := invariant.tight
    unfold Tight at same
    cases running : walker.events.running with
    | nil => exact Nat.zero_le 1
    | cons first rest =>
      cases rest with
      | nil => exact Nat.le_refl 1
      | cons second rest =>
        rw [running] at nodup same
        have one := same first List.mem_cons_self
        have two := same second (List.mem_cons_of_mem _ List.mem_cons_self)
        rw [List.map_cons, List.map_cons, one, two] at nodup
        exact absurd List.mem_cons_self (List.nodup_cons.mp nodup).1
  event := invariant.tight
  none := by
    intro empty
    by_contra isSet
    obtain ⟨timer, among, -⟩ := invariant.settled isSet
    rw [empty] at among
    exact absurd among List.not_mem_nil
  stopped := invariant.tight.running_nil invariant.valid

theorem sound_iff (valid : walker.events.Valid)
    (settled : Settled walker.events walker.eventWalk) : Sound walker ↔ walker.Tight :=
  ⟨fun isSound => isSound.event, fun tight => Invariant.sound ⟨valid, tight, settled⟩⟩

theorem exact_call (invariant : walker.Invariant) (op : WalkOp Direction) :
    (Sound (call walker op) ↔ CallClear walker op) ∧
      (Sound (call walker op) → (call walker op).Invariant) := by
  have valid := kept_valid.call walker invariant.valid op
  have settled := kept_settled.call walker invariant.settled op
  have exactly := tight_call walker invariant.valid invariant.tight op
  exact ⟨(sound_iff valid settled).trans exactly, fun isSound => ⟨valid, isSound.event, settled⟩⟩

theorem fire (invariant : walker.Invariant) (event : Nat) :
    ({ walker with events := walker.events.fire event } : Walker Direction).Invariant where
  valid := invariant.valid.fire event
  tight := by
    intro timer among
    obtain ⟨old, present, same, -⟩ := Timers.mem_fire.mp among
    exact same.symm.trans (invariant.tight old present)
  settled := by
    intro isSet
    obtain ⟨timer, among, same⟩ := invariant.settled isSet
    refine ⟨{ timer with fired := timer.fired || decide (timer.id = event) }, ?_, same⟩
    exact Timers.mem_fire.mpr ⟨timer, among, rfl, rfl, rfl⟩

theorem exact_check (invariant : walker.Invariant) {event : Nat}
    (fired : ⟨event, (), true⟩ ∈ walker.events.running) (walk : Walk Direction) :
    (Sound ((walks Direction).step walker (.checkCreatureWalk event walk)) ↔
        NoneLost walker (.checkCreatureWalk event walk)) ∧
      (Sound ((walks Direction).step walker (.checkCreatureWalk event walk)) →
        ((walks Direction).step walker (.checkCreatureWalk event walk)).Invariant) := by
  obtain rfl : event = walker.eventWalk := invariant.tight _ fired
  have isSet : walker.eventWalk ≠ 0 :=
    Nat.pos_iff_ne_zero.mp (invariant.valid.pos _ fired)
  have empty : (walker.events.take walker.eventWalk).running = [] := by
    refine List.eq_nil_iff_forall_not_mem.mpr fun timer among => ?_
    obtain ⟨present, other⟩ := Timers.mem_take.mp among
    exact other (invariant.tight timer present)
  have takenValid := invariant.valid.take walker.eventWalk
  show (Sound (checkCreatureWalk _ walk) ↔ _) ∧ (Sound (checkCreatureWalk _ walk) →
    (checkCreatureWalk _ walk).Invariant)
  have valid := kept_valid.checkCreatureWalk
    { walker with events := walker.events.take walker.eventWalk } takenValid walk
  have exactly := tight_checkCreatureWalk
    { walker with events := walker.events.take walker.eventWalk } takenValid empty walk
  by_cases alive : walker.alive = true
  · have settled : Settled
        (checkCreatureWalk { walker with events := walker.events.take walker.eventWalk }
          walk).events
        (checkCreatureWalk { walker with events := walker.events.take walker.eventWalk }
          walk).eventWalk := by
      obtain ⟨delayed, next, step, complete, aborted, pace⟩ := walk
      rw [checkCreatureWalk_eq, if_neg (not_not.mpr alive), resumed]
      split
      · exact kept_settled.addEventWalk false _ (fun other => absurd rfl other) pace
      · next zero => exact fun other => absurd other zero
    have soundIff := (sound_iff valid settled).trans exactly
    exact ⟨soundIff.trans ⟨fun clear => ⟨alive, clear⟩, fun clear => clear.2⟩,
      fun isSound => ⟨valid, isSound.event, settled⟩⟩
  · have same :
        checkCreatureWalk { walker with events := walker.events.take walker.eventWalk } walk =
          { walker with events := walker.events.take walker.eventWalk } := by
      obtain ⟨delayed, next, step, complete, aborted, pace⟩ := walk
      rw [checkCreatureWalk_eq, if_pos alive]
    rw [same]
    have unsound : ¬Sound ({ walker with events := walker.events.take walker.eventWalk } :
        Walker Direction) := fun isSound => isSet (isSound.none empty)
    exact ⟨iff_of_false unsound fun clear => alive clear.1, fun isSound => absurd isSound unsound⟩

end Walker.Invariant

/-- **A creature has one walk event at most, and `eventWalk` stands for it**, exactly where no
event is lost in a step, no event is stopped that has fired, and no event fires for a creature
without health. -/
theorem walks_sound_iff (isPlayer : Bool) (baseSpeed : Nat) {steps : List (WalkStep Direction)}
    (legal : (walks Direction).Legal { isPlayer := isPlayer, baseSpeed := baseSpeed } steps) :
    (walks Direction).Throughout (fun _ _ after => Sound after)
        { isPlayer := isPlayer, baseSpeed := baseSpeed } steps ↔
      (walks Direction).Throughout (fun before step _ => NoneLost before step)
        { isPlayer := isPlayer, baseSpeed := baseSpeed } steps := by
  have initial : ({ isPlayer := isPlayer, baseSpeed := baseSpeed } :
      Walker Direction).Invariant :=
    { valid := .empty
      tight := fun _ among => absurd among List.not_mem_nil
      settled := fun isSet => absurd rfl isSet }
  refine System.Throughout.iff_of_invariant (fun before step invariant isLegal => ?_) initial legal
  cases step with
  | call op => exact invariant.exact_call op
  | fire event =>
    have onwards := invariant.fire event
    exact ⟨iff_of_true onwards.sound trivial, fun _ => onwards⟩
  | checkCreatureWalk event walk => exact invariant.exact_check isLegal walk

/-- A player walks two steps, and its speed goes to zero. -/
def twoSteps : List (WalkStep Nat) :=
  [.call (.startAutoWalk false [0, 1] (.mk 0 500 500 none)), .fire 1,
    .checkCreatureWalk 1 (.mk false .base [] [] [] (.mk 500 500 500 none)), .fire 2,
    .checkCreatureWalk 2 (.mk false .base [] [] [] (.mk 500 500 500 none)),
    .call (.setSpeed (-200) (.mk 0 0 0 none))]

theorem walks_sound_iff_twoSteps :
    (walks Nat).Throughout (fun _ _ after => Sound after)
        { isPlayer := true, baseSpeed := 200 } twoSteps ↔
      (walks Nat).Throughout (fun before step _ => NoneLost before step)
        { isPlayer := true, baseSpeed := 200 } twoSteps := by
  refine walks_sound_iff true 200 ?_
  exact ⟨trivial, List.mem_cons_self, List.mem_cons_self, List.mem_cons_self, List.mem_cons_self,
    trivial, trivial⟩

/-- The tile of the first step makes the player walk on. -/
theorem walks_thrice : ∃ steps, (walks Nat).Legal { isPlayer := true, baseSpeed := 200 } steps ∧
      ¬(walks Nat).Throughout (fun _ _ after => Sound after)
        { isPlayer := true, baseSpeed := 200 } steps ∧
      ((walks Nat).run { isPlayer := true, baseSpeed := 200 } steps).events.running.length = 3 := by
  refine ⟨[.call (.startAutoWalk false [0] (.mk 0 500 500 (some
    (.mk false .base [.startAutoWalk false [1, 2] (.mk 500 500 500 none)] [] []
      (.mk 500 500 500 none)))))], ⟨trivial, trivial⟩, ?_, rfl⟩
  rintro ⟨once, -⟩
  exact absurd once.single (by decide)

end Otserv.Creatures
