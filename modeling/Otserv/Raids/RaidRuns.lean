import Otserv.Raids.Raids

/-!
# One raid at a time

At any time at most one raid has an event to be executed, and it is the one that
`getRunning` returns; its events are executed in order, and while none is running
`checkRaids` is going to be called (`Sound`).

A raid without events is set as running and never ends. A reload forgets a raid that has
left the list, and one whose event's timer has fired, but their events are executed all the
same (`raids_sound_iff`).
-/

namespace Otserv.Raids

open Foundation
open Function (update update_of_ne update_self)
open Timers (mem_take mem_fire mem_start mem_stop)

/-- The raid whose event is to be executed. -/
def Action.raid? : Action → Option Nat
  | .checkRaids => none
  | .executeRaidEvent raid _ => some raid

namespace Started

/-- The events are executed by delay, each once, until one fails. -/
structure Orderly (start : Started) : Prop where
  delays : start.events.Pairwise fun lhs rhs => lhs.delay ≤ rhs.delay
  order : start.executed.map Prod.fst <+: start.events
  success : ∀ entry ∈ start.executed.dropLast, entry.2 = true

/-- All events were executed, or one failed, or they were stopped. -/
def Over (start : Started) : Prop :=
  start.executed.length = start.events.length ∨ (∃ entry ∈ start.executed, entry.2 = false) ∨
    start.stopped = true

end Started

structure Sound (world : World) : Prop where
  /-- At most one event is pending. -/
  one : ∀ timer ∈ world.timers.running, ∀ other ∈ world.timers.running,
    timer.action.raid?.isSome → other.action.raid?.isSome → timer = other
  /-- The raid that is running is the one with an event. -/
  getRunning : ∀ raid, world.running = some raid ↔
    ∃ timer ∈ world.timers.running, timer.action.raid? = some raid
  orderly : ∀ start ∈ world.started, start.Orderly
  /-- Only the last raid that was started may go on, and it does when it is running. -/
  ends : (∀ start ∈ world.started.tail, start.Over) ∧
    ∀ start ∈ world.started.head?, start.Over ∨ world.running = some start.raid
  /-- Another raid is looked for when none is running. -/
  checks : world.running = none → ∃ timer ∈ world.timers.running, timer.action = .checkRaids

namespace World

/-- `checkRaids` starts a raid of the list, while none is running. -/
theorem of_chosen {world : World} {now : UInt64} {random : Nat → UInt32} {raid : Nat}
    (chosen : world.chosen now random = some raid) :
    world.running = none ∧ raid ∈ world.raidList := by
  rw [World.chosen] at chosen
  split at chosen
  · cases chosen
  · next noneRuns =>
      exact ⟨Option.not_isSome_iff_eq_none.mp noneRuns, List.mem_of_find?_eq_some chosen⟩

section StartRaid

variable (world : World) (raid : Nat)

theorem raidEvents_sorted :
    (world.raidEvents raid).Pairwise fun lhs rhs => lhs.delay ≤ rhs.delay := by
  rw [raidEvents]
  cases world.raids raid with
  | none => exact .nil
  | some it => exact it.sorted

@[simp] theorem raids_startRaid : (world.startRaid raid).raids = world.raids := by
  rw [startRaid]
  split <;> rfl

@[simp] theorem raidList_startRaid : (world.startRaid raid).raidList = world.raidList := by
  rw [startRaid]
  split <;> rfl

@[simp] theorem nextEvent_startRaid : (world.startRaid raid).nextEvent = world.nextEvent := by
  rw [startRaid]
  split <;> rfl

@[simp] theorem running_startRaid : (world.startRaid raid).running = world.running := by
  rw [startRaid]
  split <;> rfl

end StartRaid

end World

/-- No raid without events is started, and no reload comes while a raid is running that is
not in the list any more or whose timer has fired. -/
def Undisturbed (world : World) : Op → Prop
  | .checkRaids _ now random =>
    ∀ raid, world.chosen now random = some raid → world.raidEvents raid ≠ []
  | .reload _ _ => ∀ raid, world.running = some raid → raid ∈ world.raidList ∧
      ∀ timer ∈ world.timers.running, timer.action.raid? = some raid → timer.fired = false
  | _ => True

/-! ## The invariant -/

/-- A raid is running: the timer of its next event is, and its other events have been
executed. -/
structure Running (world : World) (raid : Nat) : Prop where
  known : (world.raids raid).isSome
  timer : ∃ timer ∈ world.timers.running, timer.id = world.nextEventEvent raid ∧
    timer.action = .executeRaidEvent raid (world.nextEvent raid)
  only : ∀ timer ∈ world.timers.running, timer.action.raid?.isSome →
    timer.id = world.nextEventEvent raid
  start : ∃ before executed,
    world.started = ⟨raid, world.raidEvents raid, executed, false⟩ :: before ∧
      executed.map Prod.fst = (world.raidEvents raid).take (world.nextEvent raid) ∧
      (∀ entry ∈ executed, entry.2 = true) ∧ (∀ start ∈ before, start.Orderly ∧ start.Over)
  left : world.nextEvent raid < (world.raidEvents raid).length

/-- No raid is running, and all that were started have ended. -/
structure Idle (world : World) : Prop where
  timers : ∀ timer ∈ world.timers.running, timer.action = .checkRaids
  started : ∀ start ∈ world.started, start.Orderly ∧ start.Over

/-- The lists and the timers, whether a raid is running or not. -/
structure Tables (world : World) : Prop where
  valid : world.timers.Valid
  nodup : world.raidList.Nodup
  known : ∀ raid ∈ world.raidList, (world.raids raid).isSome
  owned : ∀ timer ∈ world.timers.running, ∀ raid, timer.id = world.nextEventEvent raid →
    timer.action.raid? = some raid
  checked : ∀ timer ∈ world.timers.running, timer.id = world.checkRaidsEvent →
    timer.action = .checkRaids
  check_le : world.checkRaidsEvent ≤ world.timers.last
  event_le : ∀ raid, world.nextEventEvent raid ≤ world.timers.last

structure Invariant (world : World) : Prop extends Tables world where
  check : ∃ timer ∈ world.timers.running, timer.action = .checkRaids
  /-- A raid that is not running is at its first event. -/
  ready : ∀ raid, raid ∈ world.raidList ∨ world.raids raid = none →
    world.running ≠ some raid → world.nextEvent raid = 0
  idle : world.running = none → Idle world
  isRunning : ∀ raid, world.running = some raid → Running world raid

namespace Tables

variable {world : World}

section

variable (tables : Tables world)
include tables

theorem take (id : Nat) : Tables { world with timers := world.timers.take id } where
  valid := tables.valid.take id
  nodup := tables.nodup
  known := tables.known
  owned := fun timer member => tables.owned timer (mem_take.mp member).1
  checked := fun timer member => tables.checked timer (mem_take.mp member).1
  check_le := tables.check_le
  event_le := tables.event_le

theorem fire (id : Nat) : Tables { world with timers := world.timers.fire id } where
  valid := tables.valid.fire id
  nodup := tables.nodup
  known := tables.known
  owned := by
    intro timer member raid isNext
    obtain ⟨old, present, sameId, sameAction, -⟩ := mem_fire.mp member
    rw [← sameAction]
    exact tables.owned old present raid (sameId.trans isNext)
  checked := by
    intro timer member isCheck
    obtain ⟨old, present, sameId, sameAction, -⟩ := mem_fire.mp member
    rw [← sameAction]
    exact tables.checked old present (sameId.trans isCheck)
  check_le := tables.check_le
  event_le := tables.event_le

theorem scheduleNext (raid : Nat) : Tables (world.scheduleNext raid) where
  valid := tables.valid.start _
  nodup := tables.nodup
  known := tables.known
  owned := by
    intro timer member other isNext
    simp only [World.scheduleNext] at isNext
    rcases mem_start.mp member with rfl | old
    · by_cases same : other = raid
      · rw [same]
        rfl
      · rw [update_of_ne same] at isNext
        have below := tables.event_le other
        simp only at isNext
        omega
    · have below := tables.valid.le timer old
      by_cases same : other = raid
      · rw [same, update_self] at isNext
        omega
      · rw [update_of_ne same] at isNext
        exact tables.owned timer old other isNext
  checked := by
    intro timer member isCheck
    simp only [World.scheduleNext] at isCheck
    rcases mem_start.mp member with rfl | old
    · have below := tables.check_le
      simp only at isCheck
      omega
    · exact tables.checked timer old isCheck
  check_le := Nat.le_succ_of_le tables.check_le
  event_le := by
    intro other
    simp only [World.scheduleNext, Timers.start]
    by_cases same : other = raid
    · exact Nat.le_of_eq (by rw [same, update_self])
    · rw [update_of_ne same]
      exact Nat.le_succ_of_le (tables.event_le other)

theorem scheduleCheck : Tables world.scheduleCheck where
  valid := tables.valid.start _
  nodup := tables.nodup
  known := tables.known
  owned := by
    intro timer member raid isNext
    simp only [World.scheduleCheck] at isNext
    rcases mem_start.mp member with rfl | old
    · have below := tables.event_le raid
      simp only at isNext
      omega
    · exact tables.owned timer old raid isNext
  checked := by
    intro timer member isCheck
    simp only [World.scheduleCheck] at isCheck
    rcases mem_start.mp member with rfl | old
    · rfl
    · have below := tables.valid.le timer old
      omega
  check_le := Nat.le_refl _
  event_le := fun raid => Nat.le_succ_of_le (tables.event_le raid)

theorem stopEvents (raid : Nat) : Tables (world.stopEvents raid) := by
  rw [World.stopEvents]
  split
  · refine ⟨tables.valid.stop _, tables.nodup, tables.known, ?_, ?_, tables.check_le, ?_⟩
    · intro timer member other isNext
      have old := (mem_stop.mp member).1
      by_cases same : other = raid
      · have pos := tables.valid.pos timer old
        simp only [same, update_self] at isNext
        omega
      · simp only [update_of_ne same] at isNext
        exact tables.owned timer old other isNext
    · intro timer member
      exact tables.checked timer (mem_stop.mp member).1
    · intro other
      by_cases same : other = raid
      · simp only [same, update_self]
        exact Nat.zero_le _
      · simp only [update_of_ne same]
        exact tables.event_le other
  · exact ⟨tables.valid, tables.nodup, tables.known, tables.owned, tables.checked,
      tables.check_le, tables.event_le⟩

end

end Tables

variable {world : World} {raid : Nat}

theorem Running.scheduleNext (known : (world.raids raid).isSome)
    (only : ∀ timer ∈ world.timers.running, timer.action = .checkRaids)
    (start : ∃ before executed,
      world.started = ⟨raid, world.raidEvents raid, executed, false⟩ :: before ∧
        executed.map Prod.fst = (world.raidEvents raid).take (world.nextEvent raid) ∧
        (∀ entry ∈ executed, entry.2 = true) ∧ (∀ start ∈ before, start.Orderly ∧ start.Over))
    (left : world.nextEvent raid < (world.raidEvents raid).length) :
    Running (world.scheduleNext raid) raid where
  known := known
  timer := by
    refine ⟨_, mem_start.mpr (.inl rfl), ?_, rfl⟩
    simp only [World.scheduleNext, update_self]
  only := by
    intro timer member isRaid
    rcases mem_start.mp member with rfl | old
    · simp only [World.scheduleNext, update_self]
    · rw [only timer old] at isRaid
      cases isRaid
  start := start
  left := left

namespace Invariant

variable {world : World} {raid : Nat}

theorem of_timer (invariant : Invariant world) {timer : Timer Action}
    (member : timer ∈ world.timers.running) (isRaid : timer.action.raid? = some raid) :
    world.running = some raid := by
  cases running : world.running with
  | none =>
    rw [(invariant.idle running).timers timer member] at isRaid
    cases isRaid
  | some other =>
    have only := (invariant.isRunning _ running).only timer member (by rw [isRaid]; rfl)
    have owned := invariant.owned timer member other only
    rw [isRaid] at owned
    rw [Option.some.inj owned]

theorem sound (invariant : Invariant world) : Sound world where
  one := by
    intro timer member other otherMember isRaid otherIsRaid
    cases running : world.running with
    | none =>
      rw [(invariant.idle running).timers timer member] at isRaid
      cases isRaid
    | some raid =>
      have only := (invariant.isRunning _ running).only
      apply invariant.valid.eq_of_id member otherMember
      rw [only timer member isRaid, only other otherMember otherIsRaid]
  getRunning := by
    intro raid
    constructor
    · intro running
      obtain ⟨timer, member, -, isNext⟩ := (invariant.isRunning _ running).timer
      exact ⟨timer, member, by rw [isNext]; rfl⟩
    · rintro ⟨timer, member, isRaid⟩
      exact invariant.of_timer member isRaid
  orderly := by
    intro start member
    cases running : world.running with
    | none => exact ((invariant.idle running).started start member).1
    | some raid =>
      obtain ⟨before, executed, started, events, success, ended⟩ :=
        (invariant.isRunning _ running).start
      rw [started] at member
      rcases List.mem_cons.mp member with rfl | earlier
      · refine ⟨world.raidEvents_sorted raid, ?_, fun entry inside =>
          success entry (List.dropLast_subset _ inside)⟩
        exact events ▸ List.take_prefix _ _
      · exact (ended start earlier).1
  ends := by
    cases running : world.running with
    | none =>
      have ended := (invariant.idle running).started
      refine ⟨fun start member => (ended start (List.mem_of_mem_tail member)).2, ?_⟩
      intro start isHead
      exact .inl (ended start (List.mem_of_mem_head? isHead)).2
    | some raid =>
      obtain ⟨before, executed, started, -, -, ended⟩ := (invariant.isRunning _ running).start
      rw [started]
      refine ⟨fun start member => (ended start member).2, fun start isHead => .inr ?_⟩
      obtain rfl := Option.some.inj isHead
      rfl
  checks := fun _ => invariant.check

/-! ## Steps -/

theorem fire (invariant : Invariant world) (id : Nat) :
    Invariant { world with timers := world.timers.fire id } where
  toTables := invariant.toTables.fire id
  check := by
    obtain ⟨timer, member, isCheck⟩ := invariant.check
    exact ⟨{ timer with fired := timer.fired || decide (timer.id = id) },
      mem_fire.mpr ⟨timer, member, rfl, rfl, rfl⟩, isCheck⟩
  ready := invariant.ready
  idle := by
    intro none
    have idle := invariant.idle none
    refine ⟨fun timer member => ?_, idle.started⟩
    obtain ⟨old, present, -, sameAction, -⟩ := mem_fire.mp member
    rw [← sameAction]
    exact idle.timers old present
  isRunning := by
    intro raid running
    have runs := invariant.isRunning _ running
    refine ⟨runs.known, ?_, fun timer member isRaid => ?_, runs.start, runs.left⟩
    · obtain ⟨timer, member, isNext, action⟩ := runs.timer
      exact ⟨{ timer with fired := timer.fired || decide (timer.id = id) },
        mem_fire.mpr ⟨timer, member, rfl, rfl, rfl⟩, isNext, action⟩
    · obtain ⟨old, present, sameId, sameAction, -⟩ := mem_fire.mp member
      rw [← sameId]
      exact runs.only old present (sameAction ▸ isRaid)

/-- Once the next call of `checkRaids` is scheduled, the invariant holds. -/
theorem scheduleCheck (tables : Tables world)
    (ready : ∀ raid, raid ∈ world.raidList ∨ world.raids raid = none →
      world.running ≠ some raid → world.nextEvent raid = 0)
    (idle : world.running = none → Idle world)
    (isRunning : ∀ raid, world.running = some raid → Running world raid) :
    Invariant world.scheduleCheck where
  toTables := tables.scheduleCheck
  check := ⟨_, mem_start.mpr (.inl rfl), rfl⟩
  ready := ready
  idle := by
    intro none
    refine ⟨fun timer member => ?_, (idle none).started⟩
    rcases mem_start.mp member with rfl | old
    · rfl
    · exact (idle none).timers timer old
  isRunning := by
    intro raid running
    have runs := isRunning raid running
    refine ⟨runs.known, ?_, fun timer member isRaid => ?_, runs.start, runs.left⟩
    · obtain ⟨timer, member, isNext⟩ := runs.timer
      exact ⟨timer, mem_start.mpr (.inr member), isNext⟩
    · rcases mem_start.mp member with rfl | old
      · cases isRaid
      · exact runs.only timer old isRaid

/-- The raid that runs goes on without a timer that is not its own. -/
theorem running_take (invariant : Invariant world) {id : Nat}
    (member : ⟨id, .checkRaids, true⟩ ∈ world.timers.running)
    (running : world.running = some raid) :
    Running { world with timers := world.timers.take id } raid := by
  have runs := invariant.isRunning _ running
  refine ⟨runs.known, ?_, fun timer inside => runs.only timer (mem_take.mp inside).1,
    runs.start, runs.left⟩
  obtain ⟨timer, present, isNext, action⟩ := runs.timer
  refine ⟨timer, mem_take.mpr ⟨present, fun same => ?_⟩, isNext, action⟩
  rw [invariant.valid.eq_of_id present member same] at action
  cases action

theorem idle_take (invariant : Invariant world) (id : Nat) (none : world.running = none) :
    Idle { world with timers := world.timers.take id } :=
  ⟨fun timer inside => (invariant.idle none).timers timer (mem_take.mp inside).1,
    (invariant.idle none).started⟩

theorem startRaid (tables : Tables world) (idle : Idle world) (known : (world.raids raid).isSome)
    (first : world.nextEvent raid = 0) (events : world.raidEvents raid ≠ []) :
    Tables ({ world with running := some raid }.startRaid raid) ∧
      Running ({ world with running := some raid }.startRaid raid) raid := by
  have pos : 0 < (world.raidEvents raid).length := List.length_pos_iff.mpr events
  have next : ({ world with running := some raid } : World).startRaid raid =
      ({ world with
        running := some raid
        started := ⟨raid, world.raidEvents raid, [], false⟩ :: world.started } :
          World).scheduleNext raid := by
    have isNext : (world.raidEvents raid)[world.nextEvent raid]? =
        some (world.raidEvents raid)[0] := by
      rw [first]
      exact List.getElem?_eq_getElem pos
    simp only [World.startRaid, World.getNextRaidEvent]
    simp only [World.raidEvents] at isNext ⊢
    rw [isNext]
  have set : Tables
      { world with
        running := some raid
        started := ⟨raid, world.raidEvents raid, [], false⟩ :: world.started } :=
    ⟨tables.valid, tables.nodup, tables.known, tables.owned, tables.checked, tables.check_le,
      tables.event_le⟩
  rw [next]
  refine ⟨set.scheduleNext raid, .scheduleNext known idle.timers ?_ ?_⟩
  · refine ⟨world.started, [], rfl, ?_, fun entry member => ?_, idle.started⟩
    · simp only [first, List.map_nil, List.take_zero]
    · cases member
  · simp only [first]
    exact pos

theorem checkRaids (invariant : Invariant world) {id : Nat} {now : UInt64}
    {random : Nat → UInt32} (member : ⟨id, .checkRaids, true⟩ ∈ world.timers.running)
    (events : ∀ raid, world.chosen now random = some raid → world.raidEvents raid ≠ []) :
    Invariant ({ world with timers := world.timers.take id }.checkRaids now random) := by
  have tables := invariant.toTables.take id
  have idle := invariant.idle_take id
  have goesOn : ∀ raid, world.running = some raid →
      Running { world with timers := world.timers.take id } raid := fun raid =>
    invariant.running_take member
  set taken : World := { world with timers := world.timers.take id } with isTaken
  have ready : ∀ raid, raid ∈ taken.raidList ∨ taken.raids raid = none →
    taken.running ≠ some raid → taken.nextEvent raid = 0 := invariant.ready
  have sameChosen : taken.chosen now random = world.chosen now random := rfl
  have sameRunning : taken.running = world.running := rfl
  rw [World.checkRaids, sameChosen]
  cases isChosen : world.chosen now random with
  | none => exact scheduleCheck tables ready idle goesOn
  | some raid =>
    obtain ⟨noneRuns, inside⟩ := World.of_chosen isChosen
    have atFirst : ∀ other, other ∈ taken.raidList ∨ taken.raids other = none →
        taken.nextEvent other = 0 := fun other listed =>
      ready other listed (by rw [sameRunning, noneRuns]; nofun)
    obtain ⟨later, runs⟩ := startRaid tables (idle noneRuns) (tables.known raid inside)
      (atFirst raid (.inl inside)) (events raid isChosen)
    have sameRaids := World.raids_startRaid { taken with running := some raid } raid
    have sameList := World.raidList_startRaid { taken with running := some raid } raid
    have sameNext := World.nextEvent_startRaid { taken with running := some raid } raid
    have isRunning := World.running_startRaid { taken with running := some raid } raid
    simp only
    generalize World.startRaid { taken with running := some raid } raid = after at *
    split
    · refine scheduleCheck later (fun other listed _ => ?_) (fun none => ?_) fun other is => ?_
      · rw [sameNext]
        rw [sameRaids, sameList] at listed
        exact atFirst other listed
      · rw [isRunning] at none
        cases none
      · rw [isRunning] at is
        exact Option.some.inj is ▸ runs
    · refine scheduleCheck ⟨later.valid, later.nodup.erase _, fun other inside =>
        later.known other (List.mem_of_mem_erase inside), later.owned, later.checked,
        later.check_le, later.event_le⟩ (fun other listed _ => ?_) (fun none => ?_)
        fun other is => ?_
      · rw [sameNext]
        rw [sameRaids, sameList] at listed
        exact atFirst other (listed.imp_left List.mem_of_mem_erase)
      · rw [isRunning] at none
        cases none
      · rw [isRunning] at is
        have same := Option.some.inj is
        exact same ▸ ⟨runs.known, runs.timer, runs.only, runs.start, runs.left⟩

theorem resetRaid (tables : Tables world) (now : UInt64)
    (only : ∀ timer ∈ world.timers.running, timer.action = .checkRaids)
    (started : ∀ start ∈ world.started, start.Orderly ∧ start.Over)
    (check : ∃ timer ∈ world.timers.running, timer.action = .checkRaids)
    (ready : ∀ other, other ∈ world.raidList ∨ world.raids other = none → other ≠ raid →
      world.nextEvent other = 0) : Invariant (world.resetRaid raid now) where
  toTables := ⟨tables.valid, tables.nodup, tables.known, tables.owned, tables.checked,
    tables.check_le, tables.event_le⟩
  check := check
  ready := by
    intro other listed _
    by_cases same : other = raid
    · simp only [World.resetRaid, same, update_self]
    · simp only [World.resetRaid, update_of_ne same]
      exact ready other listed same
  idle := fun _ => ⟨only, started⟩
  isRunning := nofun

theorem next_of_timer (invariant : Invariant world) {id raid index : Nat} {fired : Bool}
    (member : ⟨id, .executeRaidEvent raid index, fired⟩ ∈ world.timers.running) :
    Running world raid ∧ id = world.nextEventEvent raid ∧ index = world.nextEvent raid := by
  have runs := invariant.isRunning _ (invariant.of_timer member rfl)
  obtain ⟨timer, present, timerId, timerAction⟩ := runs.timer
  have isNext := runs.only _ member rfl
  have same := invariant.valid.eq_of_id member present (isNext.trans timerId.symm)
  rw [← same] at timerAction
  injection timerAction with _ sameIndex
  exact ⟨runs, isNext, sameIndex⟩

theorem executeRaidEvent (invariant : Invariant world) {id raid index : Nat} {event : RaidEvent}
    {success : Bool} {now : UInt64}
    (member : ⟨id, .executeRaidEvent raid index, true⟩ ∈ world.timers.running)
    (isNext : (world.raidEvents raid)[index]? = some event) :
    Invariant ({ world with timers := world.timers.take id }.executeRaidEvent raid event
      success now) := by
  have running := invariant.of_timer member rfl
  obtain ⟨runs, timerId, rfl⟩ := invariant.next_of_timer member
  -- The other timers are those of `checkRaids`.
  have only : ∀ timer ∈ (world.timers.take id).running, timer.action = .checkRaids := by
    intro timer inside
    obtain ⟨old, different⟩ := mem_take.mp inside
    cases action : timer.action with
    | checkRaids => rfl
    | executeRaidEvent other index =>
      exact absurd ((runs.only timer old (by rw [action]; rfl)).trans timerId.symm) different
  have check : ∃ timer ∈ (world.timers.take id).running, timer.action = .checkRaids := by
    obtain ⟨timer, inside, isCheck⟩ := invariant.check
    refine ⟨timer, mem_take.mpr ⟨inside, fun same => ?_⟩, isCheck⟩
    rw [invariant.valid.eq_of_id inside member same] at isCheck
    cases isCheck
  obtain ⟨before, executed, started, order, successes, ended⟩ := runs.start
  have noted : World.note raid event success world.started =
      ⟨raid, world.raidEvents raid, executed ++ [(event, success)], false⟩ :: before := by
    rw [started, World.note, if_pos rfl]
  have taken : (executed ++ [(event, success)]).map Prod.fst =
      (world.raidEvents raid).take (world.nextEvent raid + 1) := by
    rw [List.map_append, order, List.take_add_one, isNext]
    rfl
  have orderly : ∀ stopped, Started.Orderly
      ⟨raid, world.raidEvents raid, executed ++ [(event, success)], stopped⟩ := by
    intro stopped
    refine ⟨world.raidEvents_sorted raid, taken ▸ List.take_prefix _ _, fun entry inside => ?_⟩
    rw [List.dropLast_concat] at inside
    exact successes entry inside
  have tables := invariant.toTables.take id
  have ready : ∀ other, other ∈ world.raidList ∨ world.raids other = none → other ≠ raid →
      world.nextEvent other = 0 := fun other listed different =>
    invariant.ready other listed fun same =>
      different (Option.some.inj (same.symm.trans running))
  have ends : ∀ start : Started, start.Orderly → start.Over →
      ∀ other ∈ start :: before, other.Orderly ∧ other.Over := by
    intro start startOrderly startOver other inside
    rcases List.mem_cons.mp inside with rfl | earlier
    · exact ⟨startOrderly, startOver⟩
    · exact ended other earlier
  rw [World.executeRaidEvent]
  simp only [noted]
  cases success with
  | false =>
    have set : Tables
        { world with
          timers := world.timers.take id
          started := ⟨raid, world.raidEvents raid, executed ++ [(event, false)], false⟩ ::
            before } :=
      ⟨tables.valid, tables.nodup, tables.known, tables.owned, tables.checked,
        tables.check_le, tables.event_le⟩
    refine resetRaid set now only (ends _ (orderly false) (.inr (.inl ?_))) check ready
    exact ⟨(event, false), List.mem_append_right _ (List.mem_singleton_self _), rfl⟩
  | true =>
    rw [if_pos rfl]
    have later : ∀ other, other ∈ world.raidList ∨ world.raids other = none → other ≠ raid →
        update world.nextEvent raid (world.nextEvent raid + 1) other = 0 :=
      fun other listed different =>
        (update_of_ne different _ _).trans (ready other listed different)
    have set : Tables
        { world with
          nextEvent := update world.nextEvent raid (world.nextEvent raid + 1)
          timers := world.timers.take id
          started := ⟨raid, world.raidEvents raid, executed ++ [(event, true)], false⟩ ::
            before } :=
      ⟨tables.valid, tables.nodup, tables.known, tables.owned, tables.checked,
        tables.check_le, tables.event_le⟩
    simp only [World.getNextRaidEvent, update_self]
    split
    · next newRaidEvent isNew =>
      refine ⟨set.scheduleNext raid, ?_, ?_, fun none => ?_, fun other is => ?_⟩
      · obtain ⟨timer, inside, isCheck⟩ := check
        exact ⟨timer, mem_start.mpr (.inr inside), isCheck⟩
      · intro other listed different
        exact later other listed fun same => different (same ▸ running)
      · cases none.symm.trans running
      · obtain rfl := Option.some.inj (running.symm.trans is)
        refine .scheduleNext runs.known only ?_ ?_
        · refine ⟨before, executed ++ [(event, true)], rfl, ?_, ?_, ended⟩
          · simp only [update_self]
            exact taken
          · intro entry inside
            rcases List.mem_append.mp inside with earlier | last
            · exact successes entry earlier
            · rw [List.mem_singleton.mp last]
        · simp only [update_self]
          exact (List.getElem?_eq_some_iff.mp isNew).1
    · next isLast =>
      have full : (world.raidEvents raid).length ≤ world.nextEvent raid + 1 :=
        List.getElem?_eq_none_iff.mp isLast
      refine resetRaid set now only (ends _ (orderly false) (.inl ?_)) check later
      have lengths := congrArg List.length taken
      rw [List.length_map, List.length_take] at lengths
      simp only at lengths ⊢
      omega

end Invariant

/-! ## Reloads -/

/-- The events of some raids have been stopped. -/
structure Stopped (raids : List Nat) (world after : World) : Prop where
  raids_eq : after.raids = world.raids
  raidList_eq : after.raidList = world.raidList
  nextEvent_eq : after.nextEvent = world.nextEvent
  mem_timers : ∀ timer, timer ∈ after.timers.running ↔ timer ∈ world.timers.running ∧
    ∀ raid ∈ raids, timer.id = world.nextEventEvent raid → timer.fired
  started_eq : after.started = world.started.map fun start =>
    if start.raid ∈ raids then { start with stopped := true } else start

theorem stopEvents_stopped (pos : ∀ timer ∈ world.timers.running, 0 < timer.id)
    (raid : Nat) : Stopped [raid] world (world.stopEvents raid) := by
  rw [World.stopEvents]
  split
  · refine ⟨rfl, rfl, rfl, fun timer => ?_, ?_⟩
    · simp only [mem_stop, List.mem_singleton, forall_eq]
      rw [or_iff_not_imp_left, not_not]
    · simp only [List.mem_singleton]
  · next none =>
    refine ⟨rfl, rfl, rfl, fun timer => ?_, ?_⟩
    · simp only [List.mem_singleton, forall_eq]
      refine ⟨fun member => ⟨member, fun same => ?_⟩, And.left⟩
      have zero := pos timer member
      simp only [ne_eq, not_not] at none
      omega
    · simp only [List.mem_singleton]

theorem nextEventEvent_stopEvents (world : World) (raid : Nat) :
    (world.stopEvents raid).nextEventEvent = update world.nextEventEvent raid 0 := by
  rw [World.stopEvents]
  split
  · rfl
  · next none =>
    simp only [ne_eq, not_not] at none
    rw [← none, Function.update_eq_self]

theorem foldl_stopEvents (raids : List Nat) : ∀ {world : World}, Tables world →
    Stopped raids world (raids.foldl (fun world raid => world.stopEvents raid) world) ∧
      Tables (raids.foldl (fun world raid => world.stopEvents raid) world) := by
  induction raids with
  | nil =>
    intro world tables
    refine ⟨⟨rfl, rfl, rfl, fun timer => ?_, ?_⟩, tables⟩
    · simp only [List.foldl_nil, List.not_mem_nil, false_implies, implies_true, and_true]
    · simp only [List.foldl_nil, List.not_mem_nil, if_false, List.map_id']
  | cons raid raids ih =>
    intro world tables
    have first := stopEvents_stopped tables.valid.pos raid
    obtain ⟨rest, after⟩ := ih (tables.stopEvents raid)
    rw [List.foldl_cons]
    refine ⟨⟨rest.raids_eq.trans first.raids_eq, rest.raidList_eq.trans first.raidList_eq,
      rest.nextEvent_eq.trans first.nextEvent_eq, fun timer => ?_, ?_⟩, after⟩
    · rw [rest.mem_timers, first.mem_timers, nextEventEvent_stopEvents, and_assoc]
      refine and_congr_right fun member => ?_
      have pos := tables.valid.pos timer member
      constructor
      · rintro ⟨own, others⟩ other listed same
        by_cases isIt : other = raid
        · exact own raid (List.mem_singleton_self raid) (isIt ▸ same)
        · have later := (List.mem_cons.mp listed).resolve_left isIt
          exact others other later (by rwa [update_of_ne isIt])
      · intro all
        refine ⟨fun other listed => ?_, fun other listed same => ?_⟩
        · rw [List.mem_singleton.mp listed]
          exact all raid List.mem_cons_self
        · by_cases isIt : other = raid
          · rw [isIt, update_self] at same
            omega
          · rw [update_of_ne isIt] at same
            exact all other (List.mem_cons_of_mem raid listed) same
    · rw [rest.started_eq, first.started_eq, List.map_map]
      refine List.map_congr_left fun start member => ?_
      simp only [Function.comp_apply, List.mem_cons, List.not_mem_nil, or_false]
      by_cases isIt : start.raid = raid
      · simp only [isIt, if_true, true_or, ite_self]
      · simp only [isIt, if_false, false_or]

/-- The timer of `checkRaids` is stopped first. -/
theorem Tables.stopCheck (tables : Tables world) :
    Tables { world with
      timers := world.timers.stop world.checkRaidsEvent
      checkRaidsEvent := 0 } where
  valid := tables.valid.stop _
  nodup := tables.nodup
  known := tables.known
  owned := fun timer member => tables.owned timer (mem_stop.mp member).1
  checked := by
    intro timer member isZero
    have pos := tables.valid.pos timer (mem_stop.mp member).1
    simp only at isZero
    omega
  check_le := Nat.zero_le _
  event_le := tables.event_le

theorem Stopped.started {raids : List Nat} {world after : World}
    (stopped : Stopped raids world after)
    (ended : ∀ start ∈ world.started, start.Orderly ∧ (start.Over ∨ start.raid ∈ raids)) :
    ∀ start ∈ after.started, start.Orderly ∧ start.Over := by
  intro start member
  rw [stopped.started_eq] at member
  obtain ⟨old, present, rfl⟩ := List.mem_map.mp member
  obtain ⟨orderly, isOver⟩ := ended old present
  split
  · exact ⟨⟨orderly.delays, orderly.order, orderly.success⟩, .inr (.inr rfl)⟩
  · next notStopped => exact ⟨orderly, isOver.resolve_right notStopped⟩

namespace Invariant

variable {world : World}

theorem clear (invariant : Invariant world)
    (stops : ∀ raid, world.running = some raid → raid ∈ world.raidList ∧
      ∀ timer ∈ world.timers.running, timer.action.raid? = some raid → timer.fired = false) :
    Tables world.clear ∧ Idle world.clear ∧ world.clear.raids = world.raids ∧
      world.clear.nextEvent = world.nextEvent := by
  obtain ⟨stopped, tables⟩ := foldl_stopEvents world.raidList invariant.toTables.stopCheck
  rw [World.clear]
  generalize List.foldl _ _ _ = after at stopped tables ⊢
  refine ⟨⟨tables.valid, List.nodup_nil, fun raid member => ?_, tables.owned, tables.checked,
    tables.check_le, tables.event_le⟩,
    ⟨fun timer member => ?_, stopped.started fun start member => ?_⟩, stopped.raids_eq,
    stopped.nextEvent_eq⟩
  · cases member
  · obtain ⟨inside, stays⟩ := (stopped.mem_timers timer).mp member
    have present := (mem_stop.mp inside).1
    cases action : timer.action with
    | checkRaids => rfl
    | executeRaidEvent raid index =>
      have isRaid : timer.action.raid? = some raid := by rw [action]; rfl
      have running := invariant.of_timer present isRaid
      obtain ⟨listed, waits⟩ := stops raid running
      have isNext := (invariant.isRunning _ running).only timer present (by rw [isRaid]; rfl)
      have fired := stays raid listed isNext
      rw [waits timer present isRaid] at fired
      cases fired
  · cases running : world.running with
    | none =>
      have ended := (invariant.idle running).started start member
      exact ⟨ended.1, .inl ended.2⟩
    | some raid =>
      obtain ⟨before, executed, started, order, success, ended⟩ :=
        (invariant.isRunning _ running).start
      have orderly := invariant.sound.orderly start member
      simp only [started] at member
      rcases List.mem_cons.mp member with rfl | earlier
      · exact ⟨orderly, .inr (stops raid running).1⟩
      · exact ⟨orderly, .inl (ended start earlier).2⟩

variable {loaded : List (Nat × Raid)}

theorem startup (tables : Tables world) (idle : Idle world) (noneRuns : world.running = none)
    (ready : ∀ raid, world.raids raid = none → world.nextEvent raid = 0)
    (fresh : Fresh world loaded) (now : UInt64) :
    Invariant ((world.loadFromXml loaded).startup now) := by
  refine scheduleCheck ⟨tables.valid, fresh.1, fun raid listed => ?_, tables.owned,
    tables.checked, tables.check_le, tables.event_le⟩ (fun raid listed _ => ?_)
    (fun _ => ⟨idle.timers, idle.started⟩) fun raid running => ?_
  · obtain ⟨entry, member, same⟩ := List.mem_map.mp listed
    have found : (loaded.lookup raid).isSome :=
      List.lookup_isSome_iff.mpr ⟨entry, member, beq_iff_eq.mpr same.symm⟩
    simp only [World.loadFromXml, Option.isSome_or, found, Bool.true_or]
  · apply ready
    rcases listed with isLoaded | isNone
    · exact fresh.2 raid isLoaded
    · exact (Option.or_eq_none_iff.mp isNone).2
  · cases running.symm.trans noneRuns

theorem reload (invariant : Invariant world) {now : UInt64} (fresh : Fresh world loaded)
    (stops : ∀ raid, world.running = some raid → raid ∈ world.raidList ∧
      ∀ timer ∈ world.timers.running, timer.action.raid? = some raid → timer.fired = false) :
    Invariant ((world.reload loaded).startup now) := by
  obtain ⟨tables, idle, sameRaids, sameNext⟩ := invariant.clear stops
  refine startup tables idle rfl (fun raid isNone => ?_) ?_ now
  · rw [sameRaids] at isNone
    rw [sameNext]
    refine invariant.ready raid (.inr isNone) fun running => ?_
    have known := (invariant.isRunning _ running).known
    rw [isNone] at known
    cases known
  · rw [Fresh, sameRaids]
    exact fresh

theorem begin (nodup : (loaded.map Prod.fst).Nodup) (now : UInt64) :
    Invariant (begin loaded now) := by
  refine startup ⟨.empty, List.nodup_nil, ?_, ?_, ?_, Nat.le_refl _,
    fun _ => Nat.le_refl _⟩ ⟨?_, ?_⟩ rfl (fun _ _ => rfl) ⟨nodup, fun _ _ => rfl⟩ now
  all_goals intro _ member; cases member

end Invariant

/-! ## The promise is broken otherwise -/

theorem not_sound_checkRaids (invariant : Invariant world) {id : Nat}
    {now : UInt64} {random : Nat → UInt32}
    (chosen : world.chosen now random = some raid) (empty : world.raidEvents raid = []) :
    ¬Sound ({ world with timers := world.timers.take id }.checkRaids now random) := by
  intro sound
  have noneRuns := (World.of_chosen chosen).1
  have only := (invariant.idle_take id noneRuns).timers
  set taken : World := { world with timers := world.timers.take id }
  have sameChosen : taken.chosen now random = some raid := chosen
  have noNext : ({ taken with running := some raid } : World).startRaid raid =
      { taken with
        running := some raid
        started := ⟨raid, world.raidEvents raid, [], false⟩ :: world.started } := by
    have isNone : (world.raidEvents raid)[world.nextEvent raid]? = none := by
      rw [empty]
      exact List.getElem?_nil
    simp only [World.raidEvents] at isNone
    simp only [World.startRaid, World.getNextRaidEvent, World.raidEvents, taken, isNone]
  rw [World.checkRaids, sameChosen] at sound
  simp only [noNext] at sound
  have pending : ∃ timer ∈ (taken.timers.start .checkRaids).running,
      timer.action.raid? = some raid := by
    split at sound
    · exact (sound.getRunning raid).mp rfl
    · exact (sound.getRunning raid).mp rfl
  obtain ⟨timer, member, isRaid⟩ := pending
  rcases mem_start.mp member with rfl | old
  · cases isRaid
  · rw [only timer old] at isRaid
    cases isRaid

theorem not_sound_reload (invariant : Invariant world)
    {loaded : List (Nat × Raid)} {now : UInt64} (running : world.running = some raid)
    (forgotten : raid ∈ world.raidList → ∃ timer ∈ world.timers.running,
      timer.action.raid? = some raid ∧ timer.fired = true) :
    ¬Sound ((world.reload loaded).startup now) := by
  intro sound
  have runs := invariant.isRunning _ running
  obtain ⟨timer, member, isNext, action⟩ := runs.timer
  have isRaid : timer.action.raid? = some raid := by rw [action]; rfl
  have notCheck : timer.id ≠ world.checkRaidsEvent := by
    intro same
    rw [invariant.checked timer member same] at isRaid
    cases isRaid
  have stays : ∀ other ∈ world.raidList, timer.id = world.nextEventEvent other →
      timer.fired = true := by
    intro other listed same
    have isOther := invariant.owned timer member other same
    obtain rfl := Option.some.inj (isRaid.symm.trans isOther)
    obtain ⟨late, inside, lateRaid, fired⟩ := forgotten listed
    have sameId : late.id = timer.id :=
      (runs.only late inside (by rw [lateRaid]; rfl)).trans isNext.symm
    rwa [invariant.valid.eq_of_id inside member sameId] at fired
  obtain ⟨stopped, -⟩ := foldl_stopEvents world.raidList invariant.toTables.stopCheck
  have left : timer ∈ world.clear.timers.running :=
    (stopped.mem_timers timer).mpr ⟨mem_stop.mpr ⟨member, .inl notCheck⟩, stays⟩
  have isRunning := (sound.getRunning raid).mpr
    ⟨timer, mem_start.mpr (.inr left), isRaid⟩
  cases isRunning

instance : ∀ (world : World) (op : Op), Decidable (system.legal world op)
  | world, .fire id => inferInstanceAs (Decidable (∃ timer ∈ world.timers.running, timer.id = id))
  | world, .checkRaids id _ _ =>
    inferInstanceAs (Decidable (⟨id, .checkRaids, true⟩ ∈ world.timers.running))
  | world, .executeRaidEvent id raid index _ _ =>
    inferInstanceAs (Decidable (⟨id, .executeRaidEvent raid index, true⟩ ∈ world.timers.running))
  | world, .reload loaded _ => inferInstanceAs (Decidable
      ((loaded.map Prod.fst).Nodup ∧ ∀ raid ∈ loaded.map Prod.fst, world.raids raid = none))

/-- A raid of two events that cannot be repeated. -/
def rats : Raid := ⟨[⟨1000⟩, ⟨5000⟩], 600, 0, false, by decide⟩

/-- A raid whose events all failed to load. -/
def noEvents : Raid := ⟨[], 600, 0, true, List.Pairwise.nil⟩

/-- The first event succeeds and the second fails. -/
def ratsOps : List Op :=
  [.fire 1, .checkRaids 1 60000 fun _ => 0, .fire 2, .executeRaidEvent 2 7 0 true 61000,
    .fire 4, .executeRaidEvent 4 7 1 false 65000]

end Otserv.Raids
