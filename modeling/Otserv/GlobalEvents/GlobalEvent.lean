import Otserv.Foundation.Runs
import Otserv.Foundation.Timers

/-!
# Global events

Global events that think at intervals, or are executed once a day at a time, wait in two maps by
their names; a task of the scheduler goes through each map, executes what is due and adds the next
task. The number of the task is kept, and registering an event adds a task where the number is
zero. `clear` stops both tasks and takes the events of one origin from the maps.

The clock counts milliseconds, and `time` is its seconds. It does not pass the time of a task that
the scheduler holds; a task whose time has come waits for the dispatcher, and is not stopped any
more. Whether a script succeeds is an argument, and what else it does is left out.
-/

namespace Otserv.GlobalEvents

open Foundation

abbrev SCHEDULER_MINTICKS : Int := 50

/-- `GlobalEvent_t`. -/
inductive EventType where
  | none | timer | startup | holders | shutdown | record
deriving DecidableEq

structure GlobalEvent where
  name : String
  eventType : EventType := .none
  /-- In milliseconds, or in seconds for a timer event. -/
  nextExecution : Int
  interval : Nat := 0
  fromLua : Bool := false
  /-- The first execution that was scheduled. -/
  first : Int := nextExecution
  executed : Nat := 0
deriving DecidableEq

namespace GlobalEvent

variable (event : GlobalEvent)

/-- The event was executed, and is due again after a while. -/
def postpone (nextExecutionTime : Int) : GlobalEvent :=
  { event with
    nextExecution := event.nextExecution + nextExecutionTime
    executed := event.executed + 1 }

/-- The body of the loop in `GlobalEvents::timer`: the event, unless it is erased, and when it is
due. -/
def timer (now : Int) (succeeds : String → Bool) : Option (GlobalEvent × Int) :=
  let nextExecutionTime := event.nextExecution - now
  if 0 < nextExecutionTime then some (event, nextExecutionTime)
  else if !succeeds event.name then none
  else some (event.postpone 86400, 86400)

/-- The body of the loop in `GlobalEvents::think`; a script that fails is only reported. -/
def think (now : Int) : Option (GlobalEvent × Int) :=
  let nextExecutionTime := event.nextExecution - now
  if 0 < nextExecutionTime then some (event, nextExecutionTime)
  else some (event.postpone event.interval, event.interval)

end GlobalEvent

/-- The sooner of two times, where there may be none yet. -/
def sooner (nextScheduledTime : Option Int) (nextExecutionTime : Int) : Int :=
  match nextScheduledTime with
  | none => nextExecutionTime
  | some time => min nextExecutionTime time

/-- A loop through a map: the events that are left, and when the next one is due. -/
def visit (body : GlobalEvent → Option (GlobalEvent × Int)) :
    List GlobalEvent → List GlobalEvent × Option Int
  | [] => ([], none)
  | event :: events =>
    let (events, nextScheduledTime) := visit body events
    match body event with
    | none => (events, nextScheduledTime)
    | some (event, nextExecutionTime) =>
      (event :: events, some (sooner nextScheduledTime nextExecutionTime))

/-- The two tasks. -/
inductive Kind where
  | timer | think
deriving DecidableEq

structure Task where
  kind : Kind
  due : Int
deriving DecidableEq

structure Server where
  thinkMap : List GlobalEvent := []
  serverMap : List GlobalEvent := []
  timerMap : List GlobalEvent := []
  thinkEventId : Nat := 0
  timerEventId : Nat := 0
  scheduler : Timers Task := {}
  /-- `OTSYS_TIME`. -/
  now : Int := 0
deriving DecidableEq

/-- `std::map::emplace`, by the name. -/
def emplace (map : List GlobalEvent) (event : GlobalEvent) : Option (List GlobalEvent) :=
  if event.name ∈ map.map GlobalEvent.name then none
  else some (map.orderedInsert (fun left right => left.name ≤ right.name) event)

namespace Server

variable (server : Server)

/-- `Scheduler::addEvent` with `createSchedulerTask`, whose delay has thirty-two bits. -/
def addEvent (kind : Kind) (delay : Int) : Server :=
  { server with scheduler := server.scheduler.start ⟨kind, server.now + delay % 2 ^ 32⟩ }

/-- `Scheduler::stopEvent`. -/
def stopEvent (eventId : Nat) : Server :=
  if eventId = 0 then server
  else { server with scheduler := server.scheduler.stop eventId }

/-- The timer task is added, and its number is kept. -/
def scheduleTimer (delay : Int) : Server :=
  { server.addEvent .timer delay with timerEventId := server.scheduler.last + 1 }

def scheduleThink (delay : Int) : Server :=
  { server.addEvent .think delay with thinkEventId := server.scheduler.last + 1 }

/-- `GlobalEvents::registerEvent`. -/
def registerEvent (event : GlobalEvent) : Server :=
  match event.eventType with
  | .timer =>
    match emplace server.timerMap event with
    | none => server
    | some timerMap =>
      let server := { server with timerMap := timerMap }
      if server.timerEventId = 0 then server.scheduleTimer SCHEDULER_MINTICKS else server
  | .none =>
    match emplace server.thinkMap event with
    | none => server
    | some thinkMap =>
      let server := { server with thinkMap := thinkMap }
      if server.thinkEventId = 0 then server.scheduleThink SCHEDULER_MINTICKS else server
  | .startup | .holders | .shutdown | .record =>
    match emplace server.serverMap event with
    | none => server
    | some serverMap => { server with serverMap := serverMap }

/-- `luaGlobalEventRegister`, with `GlobalEvents::registerLuaEvent`, which does what
`registerEvent` does. -/
def registerLuaEvent (event : GlobalEvent) : Server :=
  if event.eventType = .none ∧ event.interval = 0 then server else server.registerEvent event

/-- `GlobalEvents::clearMap`. -/
def clearMap (map : List GlobalEvent) (fromLua : Bool) : List GlobalEvent :=
  map.filter fun event => fromLua != event.fromLua

def clear (fromLua : Bool) : Server :=
  let server := server.stopEvent server.thinkEventId
  let server := { server with thinkEventId := 0 }
  let server := server.stopEvent server.timerEventId
  { server with
    timerEventId := 0
    thinkMap := clearMap server.thinkMap fromLua
    serverMap := clearMap server.serverMap fromLua
    timerMap := clearMap server.timerMap fromLua }

/-- `GlobalEvents::timer`. -/
def timer (succeeds : String → Bool) : Server :=
  let (timerMap, nextScheduledTime) :=
    visit (fun event => event.timer (server.now / 1000) succeeds) server.timerMap
  let server := { server with timerMap := timerMap }
  match nextScheduledTime with
  | none => server
  | some nextScheduledTime => server.scheduleTimer (max 1000 (nextScheduledTime * 1000))

/-- `GlobalEvents::think`. -/
def think : Server :=
  let (thinkMap, nextScheduledTime) :=
    visit (fun event => event.think server.now) server.thinkMap
  let server := { server with thinkMap := thinkMap }
  match nextScheduledTime with
  | none => server
  | some nextScheduledTime => server.scheduleThink nextScheduledTime

/-- The tasks of a kind that are pending. -/
def pending (kind : Kind) : List (Timer Task) :=
  server.scheduler.running.filter fun timer => timer.action.kind = kind

/-- The dispatcher has taken the task. -/
def take (eventId : Nat) : Server :=
  { server with scheduler := server.scheduler.take eventId }

end Server

inductive EventOp where
  | registerEvent (event : GlobalEvent)
  | registerLuaEvent (event : GlobalEvent)
  | clear (fromLua : Bool)
  /-- The time of a task has come. -/
  | fire (eventId : Nat)
  | timer (eventId : Nat) (succeeds : String → Bool)
  | think (eventId : Nat)
  | elapse (milliseconds : Nat)

namespace EventOp

/-- An event is registered before it is executed; a task is executed after its time has come; and
no task is late. -/
def Legal (server : Server) : EventOp → Prop
  | registerEvent event =>
    event.first = event.nextExecution ∧ event.executed = 0 ∧ event.fromLua = false
  | registerLuaEvent event =>
    event.first = event.nextExecution ∧ event.executed = 0 ∧ event.fromLua = true
  | clear _ => True
  | fire eventId =>
    ∃ task ∈ server.scheduler.running, task.id = eventId ∧ task.action.due ≤ server.now
  | timer eventId _ => ∃ task ∈ server.pending .timer, task.id = eventId ∧ task.fired = true
  | think eventId => ∃ task ∈ server.pending .think, task.id = eventId ∧ task.fired = true
  | elapse milliseconds =>
    ∀ task ∈ server.scheduler.running, server.now + milliseconds ≤ task.action.due

instance decidableLegal (server : Server) : ∀ op, Decidable (Legal server op)
  | registerEvent _ | registerLuaEvent _ => inferInstanceAs (Decidable (_ ∧ _ ∧ _))
  | clear _ => .isTrue trivial
  | fire _ => inferInstanceAs (Decidable (∃ task ∈ server.scheduler.running, _))
  | timer _ _ => inferInstanceAs (Decidable (∃ task ∈ server.pending .timer, _))
  | think _ => inferInstanceAs (Decidable (∃ task ∈ server.pending .think, _))
  | elapse _ => inferInstanceAs (Decidable (∀ task ∈ server.scheduler.running, _))

def apply (server : Server) : EventOp → Server
  | registerEvent event => server.registerEvent event
  | registerLuaEvent event => server.registerLuaEvent event
  | clear fromLua => server.clear fromLua
  | fire eventId => { server with scheduler := server.scheduler.fire eventId }
  | timer eventId succeeds => (server.take eventId).timer succeeds
  | think eventId => (server.take eventId).think
  | elapse milliseconds => { server with now := server.now + milliseconds }

end EventOp

def globalEvents : System Server EventOp where
  legal := EventOp.Legal
  step := EventOp.apply

instance (server : Server) (op : EventOp) : Decidable (globalEvents.legal server op) :=
  EventOp.decidableLegal server op

end Otserv.GlobalEvents
