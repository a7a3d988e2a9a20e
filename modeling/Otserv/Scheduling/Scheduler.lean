import Mathlib.Data.List.Basic

/-!
# The scheduler and the dispatcher

Events are timed by the scheduler's thread and executed by the dispatcher's. Both are
reached through queues: `Scheduler::addEvent` and `Scheduler::stopEvent` post handlers,
which the scheduler's thread runs in their order, and so does a timer when it expires or
is cancelled; a handler of an expired timer hands the event's task to the dispatcher, whose
thread takes all tasks waiting at once and executes them in their order.

Time is left out: a timer that is waited for may expire at any moment. What a task does is
left out too, other than the calls it makes, which are operations of their own. Beside the
code's own state stand the events that were added, executed and deleted, and those for which
`stopEvent` was called when they were not executed yet.
-/

namespace Otserv.Scheduling

/-- A `SchedulerTask`, known by its address. -/
structure Event where
  address : Nat
  eventId : UInt32 := 0
deriving DecidableEq

/-- What waits to be executed. -/
inductive Task where
  | ofEvent (event : Event)
  | plain (address : Nat)
  | shutdown
deriving DecidableEq

def Task.event? : Task → Option Event
  | .ofEvent event => some event
  | _ => none

/-- What is posted to the `io_context`. -/
inductive Handler where
  | insert (event : Event)
  | cancel (eventId : UInt32)
  | expired (event : Event) (aborted : Bool)
  | cancelAll
deriving DecidableEq

/-- A timer of `eventIdTimerMap`, with the event whose wait is pending on it. -/
structure Timer where
  eventId : UInt32
  waiting : Option Event
deriving DecidableEq

def Timer.cancel (timer : Timer) : Timer := { timer with waiting := none }

/-- What is posted when a timer is cancelled. -/
def Timer.aborts (timer : Timer) : List Handler := timer.waiting.toList.map (.expired · true)

/-- `ThreadState`. -/
inductive ThreadState where
  | running | closing | terminated
deriving DecidableEq

structure World where
  lastEventId : UInt32 := 0
  posts : List Handler := []
  timers : List Timer := []
  schedulerState : ThreadState := .running
  /-- The `io_context` was stopped. -/
  stopped : Bool := false
  dispatcherState : ThreadState := .running
  taskList : List Task := []
  tmpTaskList : List Task := []
  added : List Event := []
  executed : List Event := []
  deleted : List Event := []
  cancelled : List Event := []

namespace World

variable (world : World)

def post (handlers : List Handler) : World := { world with posts := world.posts ++ handlers }

/-! ## Calls from other threads -/

/-- `Scheduler::addEvent`. -/
def addEvent (task : Event) : World :=
  if task.eventId = 0 then
    let event := { task with eventId := world.lastEventId + 1 }
    { world with
      lastEventId := world.lastEventId + 1
      posts := world.posts ++ [.insert event]
      added := event :: world.added }
  else { world with posts := world.posts ++ [.insert task], added := task :: world.added }

variable (eventId : UInt32)

/-- The event of an id that was not executed yet. -/
def unexecuted : List Event :=
  world.added.filter fun event => event.eventId = eventId ∧ event ∉ world.executed

/-- `Scheduler::stopEvent`. -/
def stopEvent (eventId : UInt32) : World :=
  if eventId = 0 then world
  else
    { world with
      posts := world.posts ++ [.cancel eventId]
      cancelled := world.unexecuted eventId ++ world.cancelled }

/-- `Scheduler::shutdown`. -/
def shutdownScheduler : World :=
  { world with schedulerState := .terminated, posts := world.posts ++ [.cancelAll] }

/-- `Dispatcher::addTask`. -/
def addTask (task : Task) : World :=
  if world.dispatcherState = .running then { world with taskList := world.taskList ++ [task] }
  else { world with deleted := task.event?.toList ++ world.deleted }

/-- `Dispatcher::shutdown`. -/
def shutdownDispatcher : World := { world with taskList := world.taskList ++ [.shutdown] }

/-! ## The scheduler's thread -/

/-- The timer of an id is cancelled. -/
def cancelTimer : World :=
  { world with
    timers := world.timers.map fun timer => if timer.eventId = eventId then timer.cancel else timer
    posts := world.posts ++
      (world.timers.filter fun timer => timer.eventId = eventId).flatMap Timer.aborts }

/-- `eventIdTimerMap.erase`: a timer that is destroyed is cancelled. -/
def eraseTimer : World :=
  { world with
    timers := world.timers.filter fun timer => timer.eventId ≠ eventId
    posts := world.posts ++
      (world.timers.filter fun timer => timer.eventId = eventId).flatMap Timer.aborts }

variable (event : Event)

/-- `eventIdTimerMap.emplace`, `expires_from_now`, which cancels what waits on the timer,
and `async_wait`. -/
def startTimer : World :=
  if world.timers.any fun timer => timer.eventId = event.eventId then
    let world := world.cancelTimer event.eventId
    { world with
      timers := world.timers.map fun timer =>
        if timer.eventId = event.eventId then { timer with waiting := some event } else timer }
  else { world with timers := world.timers ++ [⟨event.eventId, some event⟩] }

/-- The function given to `async_wait`. -/
def onExpired (aborted : Bool) : World :=
  let world := world.eraseTimer event.eventId
  if aborted || world.schedulerState = .terminated then
    { world with deleted := event :: world.deleted }
  else world.addTask (.ofEvent event)

def runHandler : Handler → World
  | .insert event => world.startTimer event
  | .cancel eventId => world.cancelTimer eventId
  | .expired event aborted => world.onExpired event aborted
  | .cancelAll =>
    { world with
      timers := world.timers.map Timer.cancel
      posts := world.posts ++ world.timers.flatMap Timer.aborts
      stopped := true }

/-- The next handler is run. -/
def runNext : World :=
  match world.posts with
  | [] => world
  | handler :: posts => { world with posts := posts }.runHandler handler

/-- The time of an event has come. -/
def expire : World :=
  { world with
    timers := world.timers.map fun timer =>
      if timer.waiting = some event then timer.cancel else timer
    posts := world.posts ++ [.expired event false] }

/-- The events that are waited for. -/
def waiting : List Event := world.timers.filterMap Timer.waiting

/-! ## The dispatcher's thread -/

/-- The part of `Dispatcher::threadMain` that takes the tasks. -/
def swap : World := { world with taskList := world.tmpTaskList, tmpTaskList := world.taskList }

/-- The next task is executed. -/
def execute : World :=
  match world.tmpTaskList with
  | [] => world
  | .ofEvent event :: tasks =>
    { world with tmpTaskList := tasks, executed := event :: world.executed }
  -- nothing is done for a plain task that has expired
  | .plain _ :: tasks => { world with tmpTaskList := tasks }
  | .shutdown :: tasks =>
    { world with tmpTaskList := tasks, dispatcherState := .terminated }

end World

end Otserv.Scheduling
