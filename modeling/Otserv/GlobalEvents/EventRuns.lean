import Mathlib.Algebra.Order.Ring.Int
import Otserv.GlobalEvents.GlobalEvent

/-!
# Global events over whole runs

While a map has events, one task of its kind should be pending, and each event should be executed
at its times (`Live`): a think event no later than the delay a first task is added with, a timer
event within the second after that too.

The chain of tasks breaks where `clear` stops a task and leaves events of the other origin, and
where a script that fails empties the map of the timer events, since the number of its task stays.
It is doubled where `clear` comes too late to stop the task. And an event that is registered while
a task is pending waits for it, though it may be due before (`events_live`).
-/

namespace Otserv.GlobalEvents

open Foundation

/-- The events that a task goes through. -/
def Kind.eventType : Kind → EventType
  | .timer => .timer
  | .think => .none

/-- How late a task may be for an event of its kind: its first one is added with the least delay,
and a second ends up to 999 milliseconds after the time that names it. -/
def Kind.deadline (event : GlobalEvent) : Kind → Int
  | .timer => event.nextExecution * 1000 + 999 + SCHEDULER_MINTICKS
  | .think => event.nextExecution + SCHEDULER_MINTICKS

/-- After how long an event is due again. -/
def Kind.period (event : GlobalEvent) : Kind → Int
  | .timer => 86400
  | .think => event.interval

/-- The clock that the times of a kind refer to. -/
def Kind.clock (now : Int) : Kind → Int
  | .timer => now / 1000
  | .think => now

namespace Server

variable (server : Server)

def map : Kind → List GlobalEvent
  | .timer => server.timerMap
  | .think => server.thinkMap

def eventId : Kind → Nat
  | .timer => server.timerEventId
  | .think => server.thinkEventId

end Server

/-- The event was executed at each of its times and at no other. -/
structure OnSchedule (now : Int) (kind : Kind) (event : GlobalEvent) : Prop where
  counted : event.nextExecution = event.first + event.executed * kind.period event
  prompt : now ≤ kind.deadline event
  due : 0 < event.executed → event.nextExecution - kind.period event ≤ kind.clock now

structure Live (server : Server) : Prop where
  one : ∀ kind, server.map kind ≠ [] → (server.pending kind).length = 1
  never_two : ∀ kind, (server.pending kind).length ≤ 1
  scheduled : ∀ kind, ∀ event ∈ server.map kind, OnSchedule server.now kind event

/-- The event is due no sooner than the task that will execute it. -/
def Server.Reaches (server : Server) (kind : Kind) (event : GlobalEvent) : Prop :=
  if server.eventId kind = 0 then server.now + SCHEDULER_MINTICKS ≤ kind.deadline event
  else ∃ task ∈ server.pending kind, task.action.due ≤ kind.deadline event

/-- An event is registered while no number of a task that is over is kept, and is reached by the
next task; and events are cleared where all are of one origin and no task waits for the
dispatcher. -/
def Timely (server : Server) : EventOp → Prop
  | .registerEvent event | .registerLuaEvent event =>
    (event.eventType = .timer → server.Reaches .timer event) ∧
      (event.eventType = .none → server.Reaches .think event)
  | .clear fromLua =>
    (∀ kind, ∀ event ∈ server.map kind, event.fromLua = fromLua) ∧
      ∀ task ∈ server.scheduler.running, task.fired = false
  | .fire _ | .timer _ _ | .think _ | .elapse _ => True

/-! ## Loops -/

section Loops

variable {body : GlobalEvent → Option (GlobalEvent × Int)} {events : List GlobalEvent}

theorem mem_visit {after : GlobalEvent} :
    after ∈ (visit body events).1 ↔ ∃ event ∈ events, ∃ time, body event = some (after, time) := by
  induction events with
  | nil => simp [visit]
  | cons event events ih =>
    rw [visit]
    cases result : body event with
    | none => simp [ih, result]
    | some pair =>
      obtain ⟨left, time⟩ := pair
      simp [ih, result, eq_comm]

theorem visit_eq_none_iff : (visit body events).2 = none ↔ (visit body events).1 = [] := by
  induction events with
  | nil => simp [visit]
  | cons event events ih =>
    rw [visit]
    cases result : body event with
    | none => simpa using ih
    | some pair => simp

theorem sooner_le (next : Option Int) (time : Int) : sooner next time ≤ time := by
  cases next with
  | none => exact le_rfl
  | some other => exact min_le_left _ _

/-- The loop finds the soonest time. -/
theorem visit_le {next : Int} (found : (visit body events).2 = some next)
    {event after : GlobalEvent} (member : event ∈ events) {time : Int}
    (result : body event = some (after, time)) : next ≤ time := by
  induction events generalizing next with
  | nil => cases member
  | cons first events ih =>
    rw [visit] at found
    rcases List.mem_cons.mp member with rfl | later
    · rw [result] at found
      simp only [Option.some.injEq] at found
      exact found ▸ sooner_le _ time
    · cases here : body first with
      | none =>
        rw [here] at found
        exact ih found later
      | some pair =>
        rw [here] at found
        simp only [Option.some.injEq] at found
        cases rest : (visit body events).2 with
        | none =>
          have left : after ∈ (visit body events).1 :=
            mem_visit.mpr ⟨event, later, time, result⟩
          rw [visit_eq_none_iff.mp rest] at left
          cases left
        | some other =>
          rw [rest] at found
          have bound := ih rest later
          exact found ▸ (min_le_right _ _).trans bound

theorem le_visit {next bound : Int} (found : (visit body events).2 = some next)
    (least : ∀ event ∈ events, ∀ after time, body event = some (after, time) → bound ≤ time) :
    bound ≤ next := by
  induction events generalizing next with
  | nil => cases found
  | cons first events ih =>
    have rest := fun event later => least event (List.mem_cons_of_mem _ later)
    rw [visit] at found
    cases here : body first with
    | none =>
      rw [here] at found
      exact ih found rest
    | some pair =>
      obtain ⟨left, time⟩ := pair
      have now := least first List.mem_cons_self left time here
      rw [here] at found
      simp only [Option.some.injEq] at found
      subst found
      cases others : (visit body events).2 with
      | none => exact now
      | some other => exact le_min now (ih others rest)

end Loops

/-! ## Both kinds alike -/

namespace Server

variable (server : Server) {kind each : Kind}

def setMap (events : List GlobalEvent) : Kind → Server
  | .timer => { server with timerMap := events }
  | .think => { server with thinkMap := events }

variable (delay : Int)

def schedule : Kind → Server
  | .timer => server.scheduleTimer delay
  | .think => server.scheduleThink delay

/-- A task of the kind goes through its map. -/
def execute (body : GlobalEvent → Option (GlobalEvent × Int)) (delay : Int → Int)
    (kind : Kind) : Server :=
  let server' := server.setMap (visit body (server.map kind)).1 kind
  match (visit body (server.map kind)).2 with
  | none => server'
  | some nextScheduledTime => server'.schedule (delay nextScheduledTime) kind

theorem registerEvent_eq {event : GlobalEvent} (same : event.eventType = kind.eventType) :
    server.registerEvent event = match emplace (server.map kind) event with
      | none => server
      | some events =>
        if server.eventId kind = 0 then
          (server.setMap events kind).schedule SCHEDULER_MINTICKS kind
        else server.setMap events kind := by
  cases kind <;> simp only [registerEvent, same] <;> rfl

section

variable (events : List GlobalEvent)
include events

@[simp] theorem map_setMap : (server.setMap events kind).map kind = events := by
  cases kind <;> rfl

theorem map_setMap_of_ne (apart : each ≠ kind) :
    (server.setMap events kind).map each = server.map each := by
  cases kind <;> cases each <;> first | rfl | exact absurd rfl apart

@[simp] theorem eventId_setMap :
    (server.setMap events kind).eventId each = server.eventId each := by
  cases kind <;> cases each <;> rfl

@[simp] theorem scheduler_setMap : (server.setMap events kind).scheduler = server.scheduler := by
  cases kind <;> rfl

@[simp] theorem now_setMap : (server.setMap events kind).now = server.now := by
  cases kind <;> rfl

@[simp] theorem pending_setMap :
    (server.setMap events kind).pending each = server.pending each := by
  cases kind <;> rfl

end

@[simp] theorem map_schedule : (server.schedule delay kind).map each = server.map each := by
  cases kind <;> cases each <;> rfl

@[simp] theorem scheduler_schedule :
    (server.schedule delay kind).scheduler =
      server.scheduler.start ⟨kind, server.now + delay % 2 ^ 32⟩ := by
  cases kind <;> rfl

@[simp] theorem now_schedule : (server.schedule delay kind).now = server.now := by
  cases kind <;> rfl

@[simp] theorem eventId_schedule :
    (server.schedule delay kind).eventId kind = server.scheduler.last + 1 := by
  cases kind <;> rfl

theorem eventId_schedule_of_ne (apart : each ≠ kind) :
    (server.schedule delay kind).eventId each = server.eventId each := by
  cases kind <;> cases each <;> first | rfl | exact absurd rfl apart

@[simp] theorem pending_schedule :
    (server.schedule delay kind).pending kind =
      ⟨server.scheduler.last + 1, ⟨kind, server.now + delay % 2 ^ 32⟩, false⟩ ::
        server.pending kind := by
  rw [pending, scheduler_schedule, Timers.start, List.filter_cons_of_pos (by simp)]
  rfl

theorem pending_schedule_of_ne (apart : each ≠ kind) :
    (server.schedule delay kind).pending each = server.pending each := by
  rw [pending, scheduler_schedule, Timers.start,
    List.filter_cons_of_neg (by simpa using apart.symm)]
  rfl

end Server

/-! ## The invariant -/

/-- One task of the kind is pending while its map has events, and none else. -/
structure Chain (server : Server) (kind : Kind) : Prop where
  idle : server.map kind = [] → server.pending kind = []
  pending : server.map kind ≠ [] → ∃ task, server.pending kind = [task] ∧
    task.id = server.eventId kind ∧ ∀ event ∈ server.map kind,
      task.action.due ≤ kind.deadline event

/-- How often the event was executed. -/
structure Counted (now : Int) (kind : Kind) (event : GlobalEvent) : Prop where
  counted : event.nextExecution = event.first + event.executed * kind.period event
  due : 0 < event.executed → event.nextExecution - kind.period event ≤ kind.clock now

/-- The tasks and the events, but for the chains. -/
structure Sane (server : Server) : Prop where
  valid : server.scheduler.Valid
  ahead : ∀ task ∈ server.scheduler.running, server.now ≤ task.action.due
  counted : ∀ kind, ∀ event ∈ server.map kind, Counted server.now kind event

structure Invariant (server : Server) : Prop extends Sane server where
  chain : ∀ kind, Chain server kind

variable {server : Server} {kind : Kind}

theorem Invariant.live (invariant : Invariant server) : Live server where
  one kind filled := by
    obtain ⟨task, only, -⟩ := (invariant.chain kind).pending filled
    rw [only]
    rfl
  never_two kind := by
    by_cases empty : server.map kind = []
    · simp [(invariant.chain kind).idle empty]
    · obtain ⟨task, only, -⟩ := (invariant.chain kind).pending empty
      rw [only]
      exact le_rfl
  scheduled kind event member := by
    have counted := invariant.counted kind event member
    obtain ⟨task, only, -, bound⟩ :=
      (invariant.chain kind).pending (List.ne_nil_of_mem member)
    have among : task ∈ server.pending kind := only ▸ List.mem_singleton.mpr rfl
    have ahead := invariant.ahead task (List.mem_filter.mp among).1
    exact ⟨counted.counted, ahead.trans (bound event member), counted.due⟩

theorem Chain.of_same {after : Server} (chain : Chain server kind)
    (map : after.map kind = server.map kind) (pending : after.pending kind = server.pending kind)
    (eventId : after.eventId kind = server.eventId kind) : Chain after kind where
  idle := by
    rw [map, pending]
    exact chain.idle
  pending := by
    rw [map, pending, eventId]
    exact chain.pending

/-- A chain begins, or goes on. -/
theorem Invariant.of_schedule (sane : Sane server)
    (others : ∀ each, each ≠ kind → Chain server each) (ended : server.pending kind = [])
    (filled : server.map kind ≠ []) {delay : Int}
    (bound : ∀ event ∈ server.map kind,
      server.now + delay % 2 ^ 32 ≤ kind.deadline event) :
    Invariant (server.schedule delay kind) where
  valid := by
    rw [Server.scheduler_schedule]
    exact sane.valid.start _
  ahead := by
    intro task member
    rw [Server.scheduler_schedule, Timers.mem_start] at member
    rw [Server.now_schedule]
    rcases member with rfl | old
    · have positive := delay.emod_nonneg (show (2 ^ 32 : Int) ≠ 0 by decide)
      exact le_add_of_nonneg_right positive
    · exact sane.ahead task old
  counted each event member := by
    rw [Server.map_schedule] at member
    rw [Server.now_schedule]
    exact sane.counted each event member
  chain each := by
    by_cases same : each = kind
    · subst same
      constructor
      · rw [Server.map_schedule]
        exact fun empty => absurd empty filled
      · intro _
        refine ⟨_, by rw [Server.pending_schedule, ended], ?_, ?_⟩
        · rw [Server.eventId_schedule]
        · rw [Server.map_schedule]
          exact bound
    · exact (others each same).of_same (Server.map_schedule ..)
        (Server.pending_schedule_of_ne _ _ same) (Server.eventId_schedule_of_ne _ _ same)

/-! ## Registering -/

theorem mem_of_emplace {map events : List GlobalEvent} {event other : GlobalEvent}
    (emplaced : emplace map event = some events) :
    other ∈ events ↔ other = event ∨ other ∈ map := by
  rw [emplace] at emplaced
  split at emplaced
  · cases emplaced
  · rw [← Option.some.inj emplaced, List.mem_orderedInsert]

theorem Invariant.eventId_ne_zero (invariant : Invariant server)
    (filled : server.map kind ≠ []) : server.eventId kind ≠ 0 := by
  obtain ⟨task, only, same, -⟩ := (invariant.chain kind).pending filled
  have among : task ∈ server.pending kind := only ▸ List.mem_singleton.mpr rfl
  have positive := invariant.valid.pos task (List.mem_filter.mp among).1
  omega

theorem Sane.setMap (sane : Sane server) {event : GlobalEvent} {events : List GlobalEvent}
    (first : event.first = event.nextExecution) (executed : event.executed = 0)
    (members : ∀ other ∈ events, other = event ∨ other ∈ server.map kind) :
    Sane (server.setMap events kind) where
  valid := by
    rw [Server.scheduler_setMap]
    exact sane.valid
  ahead := by
    rw [Server.scheduler_setMap, Server.now_setMap]
    exact sane.ahead
  counted each other member := by
    rw [Server.now_setMap]
    by_cases same : each = kind
    · subst same
      rw [Server.map_setMap] at member
      rcases members other member with rfl | old
      · exact ⟨by simp [first, executed], by simp [executed]⟩
      · exact sane.counted each other old
    · rw [Server.map_setMap_of_ne _ _ same] at member
      exact sane.counted each other member

section

variable (invariant : Invariant server)
include invariant

theorem Invariant.registerEvent {event : GlobalEvent} (same : event.eventType = kind.eventType)
    (first : event.first = event.nextExecution) (executed : event.executed = 0)
    (reaches : server.Reaches kind event) : Invariant (server.registerEvent event) := by
  rw [Server.registerEvent_eq server same]
  cases emplaced : emplace (server.map kind) event with
  | none => exact invariant
  | some events =>
    have members : ∀ other, other ∈ events ↔ other = event ∨ other ∈ server.map kind :=
      fun other => mem_of_emplace emplaced
    have filled : events ≠ [] := List.ne_nil_of_mem ((members event).mpr (.inl rfl))
    have sane := invariant.toSane.setMap first executed fun other => (members other).mp
    have others : ∀ each, each ≠ kind → Chain (server.setMap events kind) each :=
      fun each apart => (invariant.chain each).of_same (Server.map_setMap_of_ne _ _ apart)
        (Server.pending_setMap ..) (Server.eventId_setMap ..)
    rw [Server.Reaches] at reaches
    dsimp only
    split
    · rename_i zero
      rw [if_pos zero] at reaches
      have empty : server.map kind = [] := by
        by_contra some_event
        exact invariant.eventId_ne_zero some_event zero
      refine .of_schedule sane others ?_ ?_ ?_
      · rw [Server.pending_setMap]
        exact (invariant.chain kind).idle empty
      · rwa [Server.map_setMap]
      · intro other member
        rw [Server.map_setMap, members, empty] at member
        rcases member with rfl | old
        · rw [Server.now_setMap]
          exact reaches
        · cases old
    · rename_i number
      rw [if_neg number] at reaches
      obtain ⟨task, among, soon⟩ := reaches
      have someEvent : server.map kind ≠ [] := by
        intro empty
        rw [(invariant.chain kind).idle empty] at among
        cases among
      obtain ⟨only, alone, sameId, bound⟩ := (invariant.chain kind).pending someEvent
      rw [alone, List.mem_singleton] at among
      subst among
      refine ⟨sane, fun each => ?_⟩
      by_cases here : each = kind
      · subst here
        constructor
        · rw [Server.map_setMap]
          exact fun empty => absurd empty filled
        · intro _
          refine ⟨task, ?_, ?_, fun other member => ?_⟩
          · rw [Server.pending_setMap, alone]
          · rw [Server.eventId_setMap, sameId]
          · rw [Server.map_setMap, members] at member
            rcases member with rfl | old
            · exact soon
            · exact bound other old
      · exact others each here

theorem Invariant.of_serverMap (serverMap : List GlobalEvent) :
    Invariant { server with serverMap := serverMap } where
  valid := invariant.valid
  ahead := invariant.ahead
  counted each := by
    cases each
    · exact invariant.counted .timer
    · exact invariant.counted .think
  chain each := by
    cases each <;> exact (invariant.chain _).of_same rfl rfl rfl

theorem Invariant.registerEvent_of_timely {event : GlobalEvent}
    (first : event.first = event.nextExecution) (executed : event.executed = 0)
    (timely : Timely server (.registerEvent event)) : Invariant (server.registerEvent event) := by
  cases type : event.eventType with
  | timer =>
    have same : event.eventType = Kind.timer.eventType := type
    exact invariant.registerEvent same first executed (timely.1 type)
  | none =>
    have same : event.eventType = Kind.think.eventType := type
    exact invariant.registerEvent same first executed (timely.2 type)
  | startup | holders | shutdown | record =>
    simp only [Server.registerEvent, type]
    split
    · exact invariant
    · exact invariant.of_serverMap _

/-! ## Executing -/

/-- The task has been taken; the others stay. -/
theorem Invariant.pending_take {task : Timer Task} (among : task ∈ server.pending kind) :
    (server.take task.id).pending kind = [] ∧
      ∀ each, each ≠ kind → (server.take task.id).pending each = server.pending each := by
  have taken : ∀ each, (server.take task.id).pending each =
      (server.pending each).filter fun timer => timer.id ≠ task.id := by
    intro each
    rw [Server.pending, Server.pending, Server.take, Timers.take, List.filter_filter,
      List.filter_filter]
    simp only [Bool.and_comm]
  obtain ⟨running, sort⟩ := List.mem_filter.mp among
  refine ⟨?_, fun each apart => ?_⟩
  · have filled : server.map kind ≠ [] := by
      intro empty
      rw [(invariant.chain kind).idle empty] at among
      cases among
    obtain ⟨only, alone, -⟩ := (invariant.chain kind).pending filled
    rw [alone, List.mem_singleton] at among
    subst among
    rw [taken, alone]
    simp
  · rw [taken, List.filter_eq_self]
    intro other member
    obtain ⟨also, otherSort⟩ := List.mem_filter.mp member
    rw [decide_eq_true_iff]
    intro same
    have identical := invariant.valid.eq_of_id also running same
    subst identical
    simp only [decide_eq_true_eq] at sort otherSort
    exact apart (otherSort.symm.trans sort)

theorem Invariant.execute {task : Timer Task}
    (among : task ∈ server.pending kind) {body : GlobalEvent → Option (GlobalEvent × Int)}
    {delay : Int → Int} {least : Int}
    (spec : ∀ event after time, Counted server.now kind event →
      server.now ≤ kind.deadline event → body event = some (after, time) →
        Counted server.now kind after ∧ least ≤ time ∧
          ∀ next, least ≤ next → next ≤ time →
            server.now + delay next % 2 ^ 32 ≤ kind.deadline after) :
    Invariant ((server.take task.id).execute body delay kind) := by
  obtain ⟨ended, elsewhere⟩ := invariant.pending_take among
  have onSchedule := invariant.live.scheduled kind
  have visited : ∀ event ∈ server.map kind, ∀ after time, body event = some (after, time) →
      Counted server.now kind after ∧ least ≤ time ∧
        ∀ next, least ≤ next → next ≤ time →
          server.now + delay next % 2 ^ 32 ≤ kind.deadline after := fun event member after time =>
    spec event after time (invariant.counted kind event member) (onSchedule event member).prompt
  have maps : ∀ each, (server.take task.id).map each = server.map each := by
    intro each
    cases each <;> rfl
  have sane : Sane ((server.take task.id).setMap (visit body (server.map kind)).1 kind) := by
    constructor
    · rw [Server.scheduler_setMap]
      exact invariant.valid.take _
    · intro other member
      rw [Server.scheduler_setMap] at member
      rw [Server.now_setMap]
      exact invariant.ahead other (Timers.mem_take.mp member).1
    · intro each after member
      rw [Server.now_setMap]
      by_cases same : each = kind
      · subst same
        rw [Server.map_setMap, mem_visit] at member
        obtain ⟨event, before, time, result⟩ := member
        exact (visited event before after time result).1
      · rw [Server.map_setMap_of_ne _ _ same, maps] at member
        exact invariant.counted each after member
  have others : ∀ each, each ≠ kind →
      Chain ((server.take task.id).setMap (visit body (server.map kind)).1 kind) each := by
    intro each apart
    refine (invariant.chain each).of_same ?_ ?_ ?_
    · rw [Server.map_setMap_of_ne _ _ apart, maps]
    · rw [Server.pending_setMap, elsewhere each apart]
    · rw [Server.eventId_setMap]
      cases each <;> rfl
  rw [Server.execute, maps]
  cases soonest : (visit body (server.map kind)).2 with
  | none =>
    have empty := visit_eq_none_iff.mp soonest
    refine ⟨sane, fun each => ?_⟩
    by_cases same : each = kind
    · subst same
      constructor
      · intro _
        rw [Server.pending_setMap, ended]
      · intro filled
        rw [Server.map_setMap, empty] at filled
        exact absurd rfl filled
    · exact others each same
  | some next =>
    have filled : (visit body (server.map kind)).1 ≠ [] := by
      intro empty
      rw [visit_eq_none_iff.mpr empty] at soonest
      cases soonest
    have low : least ≤ next :=
      le_visit soonest fun event member after time result =>
        (visited event member after time result).2.1
    refine .of_schedule sane others ?_ ?_ ?_
    · rw [Server.pending_setMap, ended]
    · rwa [Server.map_setMap]
    · intro after member
      rw [Server.map_setMap, mem_visit] at member
      obtain ⟨event, before, time, result⟩ := member
      rw [Server.now_setMap]
      exact (visited event before after time result).2.2 next low
        (visit_le soonest before result)

end

theorem Counted.postpone {now : Int} {event : GlobalEvent} (counted : Counted now kind event)
    (due : event.nextExecution ≤ kind.clock now)
    (period : ∀ time, kind.period (event.postpone time) = kind.period event) :
    Counted now kind (event.postpone (kind.period event)) where
  counted := by
    rw [period, GlobalEvent.postpone]
    simp only [Nat.cast_add, Nat.cast_one, Int.add_mul, Int.one_mul]
    have before := counted.counted
    omega
  due _ := by
    rw [period, GlobalEvent.postpone]
    simpa using due

theorem Invariant.timer (invariant : Invariant server) {task : Timer Task}
    (among : task ∈ server.pending .timer) (succeeds : String → Bool) :
    Invariant ((server.take task.id).timer succeeds) := by
  refine @Invariant.execute _ _ invariant _ among _ _ 1 fun event after time counted prompt
    result => ?_
  have taken : (server.take task.id).now = server.now := rfl
  simp only [GlobalEvent.timer, taken] at result
  simp only [Kind.deadline, SCHEDULER_MINTICKS] at prompt ⊢
  split at result
  · obtain ⟨rfl, rfl⟩ := Prod.mk.inj (Option.some.inj result)
    exact ⟨counted, by omega, fun next low high => by omega⟩
  · rename_i due
    split at result
    · cases result
    · obtain ⟨rfl, rfl⟩ := Prod.mk.inj (Option.some.inj result)
      refine ⟨counted.postpone ?_ fun _ => rfl, by omega, fun next low high => ?_⟩
      · simp only [Kind.clock]
        omega
      · have delay : max 1000 (next * 1000) = next * 1000 := max_eq_right (by omega)
        rw [delay, Int.emod_eq_of_lt (by omega) (by omega)]
        simp only [GlobalEvent.postpone]
        omega

theorem Invariant.think (invariant : Invariant server) {task : Timer Task}
    (among : task ∈ server.pending .think) : Invariant (server.take task.id).think := by
  refine @Invariant.execute _ _ invariant _ among _ _ 0 fun event after time counted prompt
    result => ?_
  have taken : (server.take task.id).now = server.now := rfl
  simp only [GlobalEvent.think, taken] at result
  simp only [Kind.deadline, SCHEDULER_MINTICKS] at prompt ⊢
  split at result
  · obtain ⟨rfl, rfl⟩ := Prod.mk.inj (Option.some.inj result)
    exact ⟨counted, by omega, fun next low high => by omega⟩
  · rename_i due
    obtain ⟨rfl, rfl⟩ := Prod.mk.inj (Option.some.inj result)
    refine ⟨counted.postpone ?_ fun _ => rfl, by omega, fun next low high => ?_⟩
    · simp only [Kind.clock]
      omega
    · simp only [GlobalEvent.postpone]
      omega

/-! ## Clearing and waiting -/

theorem Server.stopEvent_eq (server : Server) (eventId : Nat) :
    server.stopEvent eventId =
      { server with scheduler := { server.scheduler with
          running := server.scheduler.running.filter fun task =>
            eventId = 0 ∨ task.id ≠ eventId ∨ task.fired = true } } := by
  rw [stopEvent]
  split
  · rename_i zero
    simp [zero]
  · rename_i number
    simp [number, Timers.stop]

section

variable (invariant : Invariant server)
include invariant

theorem Invariant.pending_clear (fromLua : Bool)
    (unfired : ∀ task ∈ server.scheduler.running, task.fired = false) (kind : Kind) :
    (server.clear fromLua).pending kind = [] := by
  rw [Server.pending, List.filter_eq_nil_iff]
  intro task member sort
  simp only [Server.clear, Server.stopEvent_eq, List.mem_filter, decide_eq_true_eq] at member sort
  obtain ⟨⟨running, think⟩, timer⟩ := member
  have among : task ∈ server.pending kind := List.mem_filter.mpr ⟨running, by simpa using sort⟩
  have filled : server.map kind ≠ [] := by
    intro empty
    rw [(invariant.chain kind).idle empty] at among
    cases among
  obtain ⟨only, alone, number, -⟩ := (invariant.chain kind).pending filled
  rw [alone, List.mem_singleton] at among
  subst among
  have positive := invariant.valid.pos task running
  have waits := unfired task running
  cases kind with
  | timer =>
    simp only [Server.eventId] at number
    rcases timer with zero | other | fired
    · omega
    · exact other number
    · simp [waits] at fired
  | think =>
    simp only [Server.eventId] at number
    rcases think with zero | other | fired
    · omega
    · exact other number
    · simp [waits] at fired

/-- Everything is of one origin, and both tasks can be stopped. -/
theorem Invariant.clear {fromLua : Bool}
    (timely : Timely server (.clear fromLua)) : Invariant (server.clear fromLua) := by
  obtain ⟨origin, unfired⟩ := timely
  have cleared : ∀ kind, (server.clear fromLua).map kind = [] := by
    intro kind
    have maps : (server.clear fromLua).map kind =
        Server.clearMap (server.map kind) fromLua := by
      cases kind <;> simp only [Server.clear, Server.stopEvent_eq, Server.map]
    rw [maps, Server.clearMap, List.filter_eq_nil_iff]
    intro event member
    simp [origin kind event member]
  have pending := invariant.pending_clear fromLua unfired
  constructor
  · constructor
    · simp only [Server.clear, Server.stopEvent_eq]
      exact (invariant.valid.filter _).filter _
    · intro task member
      simp only [Server.clear, Server.stopEvent_eq, List.mem_filter] at member ⊢
      exact invariant.ahead task member.1.1
    · intro kind event member
      rw [cleared] at member
      cases member
  · exact fun kind => ⟨fun _ => pending kind, fun filled => absurd (cleared kind) filled⟩

theorem Invariant.fire (eventId : Nat) :
    Invariant { server with scheduler := server.scheduler.fire eventId } := by
  have pending : ∀ kind,
      Server.pending { server with scheduler := server.scheduler.fire eventId } kind =
        (server.pending kind).map fun task =>
          if task.id = eventId then { task with fired := true } else task := by
    intro kind
    rw [Server.pending, Server.pending, Timers.fire, List.filter_map]
    congr 1
    refine List.filter_congr fun task _ => ?_
    rw [Function.comp_apply]
    split <;> rfl
  have maps : ∀ kind, Server.map { server with scheduler := server.scheduler.fire eventId } kind =
      server.map kind := by
    intro kind
    cases kind <;> rfl
  constructor
  · constructor
    · exact invariant.valid.fire eventId
    · intro task member
      obtain ⟨old, before, -, same, -⟩ := Timers.mem_fire.mp member
      exact same ▸ invariant.ahead old before
    · intro kind
      exact invariant.counted kind
  · intro kind
    constructor
    · intro empty
      rw [pending, (invariant.chain kind).idle empty, List.map_nil]
    · intro filled
      obtain ⟨task, only, number, bound⟩ := (invariant.chain kind).pending filled
      refine ⟨_, by rw [pending, only, List.map_singleton], ?_, ?_⟩
      · have same : (if task.id = eventId then { task with fired := true } else task).id =
            task.id := by
          split <;> rfl
        rw [same, number]
        cases kind <;> rfl
      · have same : (if task.id = eventId then { task with fired := true } else task).action =
            task.action := by
          split <;> rfl
        rw [same, maps]
        exact bound

theorem Invariant.elapse {milliseconds : Nat} (legal : (EventOp.elapse milliseconds).Legal server) :
    Invariant { server with now := server.now + milliseconds } := by
  constructor
  · refine ⟨invariant.valid, legal, fun kind event member => ?_⟩
    have counted := invariant.counted kind event (by cases kind <;> exact member)
    refine ⟨counted.counted, fun executed => (counted.due executed).trans ?_⟩
    cases kind <;> simp only [Kind.clock] <;> omega
  · intro kind
    refine (invariant.chain kind).of_same ?_ rfl ?_ <;> cases kind <;> rfl

/-! ## Runs -/

theorem Invariant.apply {op : EventOp} (legal : op.Legal server)
    (timely : Timely server op) : Invariant (op.apply server) := by
  cases op with
  | registerEvent event =>
    exact invariant.registerEvent_of_timely legal.1 legal.2.1 timely
  | registerLuaEvent event =>
    rw [EventOp.apply, Server.registerLuaEvent]
    split
    · exact invariant
    · exact invariant.registerEvent_of_timely legal.1 legal.2.1 timely
  | clear fromLua => exact invariant.clear timely
  | fire eventId => exact invariant.fire eventId
  | timer eventId succeeds =>
    obtain ⟨task, among, rfl, -⟩ := legal
    exact invariant.timer among succeeds
  | think eventId =>
    obtain ⟨task, among, rfl, -⟩ := legal
    exact invariant.think among
  | elapse milliseconds => exact invariant.elapse legal

end

/-- No event is registered. -/
theorem invariant_empty (now : Int) : Invariant { now := now } where
  valid := .empty
  ahead _ member := by cases member
  counted kind _ member := by cases kind <;> cases member
  chain kind := by
    cases kind <;> exact ⟨fun _ => rfl, fun filled => absurd rfl filled⟩

/-- An event that thinks every second. -/
def everySecond : GlobalEvent := { name := "save", nextExecution := 1000, interval := 1000 }

end Otserv.GlobalEvents
