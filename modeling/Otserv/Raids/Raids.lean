import Otserv.Foundation.Runs
import Otserv.Foundation.Timers

/-!
# Raids

`Raids::checkRaids` runs every minute and may start a raid, whose events are executed one
after the other, each by a timer that the one before started. A raid that cannot be repeated
leaves the list when it starts. `Raids::reload` clears and loads the raids anew, and
`Raids::startup` starts the timer of `checkRaids`.

A raid is known by its address, and raids that are loaded get addresses that no raid had.
What an event does is left out; whether it succeeds, the time and the random numbers are
arguments. Beside the code's own state stands what became of each raid that was started.
-/

namespace Otserv.Raids

open Foundation

/-- What a raid event is started with: its delay. -/
structure RaidEvent where
  delay : UInt32
deriving DecidableEq

/-- A raid as it was loaded, with its events by delay. -/
structure Raid where
  raidEvents : List RaidEvent
  interval : UInt32
  margin : UInt64
  canBeRepeated : Bool
  sorted : raidEvents.Pairwise fun lhs rhs => lhs.delay ≤ rhs.delay
deriving DecidableEq

inductive Action where
  | checkRaids
  | executeRaidEvent (raid index : Nat)
deriving DecidableEq

/-- A raid that was started: the events executed since, with their success, and whether its
events were stopped. -/
structure Started where
  raid : Nat
  events : List RaidEvent
  executed : List (RaidEvent × Bool) := []
  stopped : Bool := false
deriving DecidableEq

structure World where
  raids : Nat → Option Raid := fun _ => none
  raidList : List Nat := []
  nextEvent : Nat → Nat := fun _ => 0
  nextEventEvent : Nat → Nat := fun _ => 0
  running : Option Nat := none
  lastRaidEnd : UInt64 := 0
  checkRaidsEvent : Nat := 0
  timers : Timers Action := {}
  started : List Started := []

namespace World

variable (world : World)

def raidEvents (raid : Nat) : List RaidEvent := (world.raids raid).elim [] Raid.raidEvents

/-- `Raid::getNextRaidEvent`. -/
def getNextRaidEvent (raid : Nat) : Option RaidEvent :=
  (world.raidEvents raid)[world.nextEvent raid]?

/-- `Scheduler::addEvent` for the next event of a raid. -/
def scheduleNext (raid : Nat) : World :=
  { world with
    timers := world.timers.start (.executeRaidEvent raid (world.nextEvent raid))
    nextEventEvent := Function.update world.nextEventEvent raid (world.timers.last + 1) }

/-- `Raid::startRaid`. -/
def startRaid (raid : Nat) : World :=
  let world := { world with started := ⟨raid, world.raidEvents raid, [], false⟩ :: world.started }
  match world.getNextRaidEvent raid with
  | some _ => world.scheduleNext raid
  | none => world

/-- `Raid::resetRaid`. -/
def resetRaid (raid : Nat) (now : UInt64) : World :=
  { world with
    nextEvent := Function.update world.nextEvent raid 0
    running := none
    lastRaidEnd := now }

/-- The execution of an event is noted at the last start of the raid. -/
def note (raid : Nat) (event : RaidEvent) (success : Bool) : List Started → List Started
  | [] => []
  | start :: before =>
    if start.raid = raid then
      { start with executed := start.executed ++ [(event, success)] } :: before
    else start :: note raid event success before

/-- `Raid::executeRaidEvent`. -/
def executeRaidEvent (raid : Nat) (event : RaidEvent) (success : Bool) (now : UInt64) : World :=
  let world := { world with started := note raid event success world.started }
  if success then
    let world :=
      { world with
        nextEvent := Function.update world.nextEvent raid (world.nextEvent raid + 1) }
    match world.getNextRaidEvent raid with
    | some _ => world.scheduleNext raid
    | none => world.resetRaid raid now
  else world.resetRaid raid now

/-- `Raid::stopEvents`. -/
def stopEvents (raid : Nat) : World :=
  let world :=
    { world with
      started := world.started.map fun start =>
        if start.raid = raid then { start with stopped := true } else start }
  if world.nextEventEvent raid ≠ 0 then
    { world with
      timers := world.timers.stop (world.nextEventEvent raid)
      nextEventEvent := Function.update world.nextEventEvent raid 0 }
  else world

/-- `MAX_RAND_RANGE * CHECK_RAIDS_INTERVAL`. -/
def randRange : UInt32 := 600000000

/-- The raid is due, and the random number drawn for it lets it start. -/
def starts (now : UInt64) (random : Nat → UInt32) (raid : Nat) : Bool :=
  (world.raids raid).any fun it =>
    world.lastRaidEnd + it.margin ≤ now && random raid ≤ randRange / it.interval

/-- The raid that `checkRaids` starts. -/
def chosen (now : UInt64) (random : Nat → UInt32) : Option Nat :=
  if world.running.isSome then none else world.raidList.find? (world.starts now random)

/-- The timer of `checkRaids` is started. -/
def scheduleCheck : World :=
  { world with
    timers := world.timers.start .checkRaids
    checkRaidsEvent := world.timers.last + 1 }

/-- `Raids::checkRaids`. -/
def checkRaids (now : UInt64) (random : Nat → UInt32) : World :=
  let world :=
    match world.chosen now random with
    | none => world
    | some raid =>
      let world := { world with running := some raid }.startRaid raid
      if (world.raids raid).any Raid.canBeRepeated then world
      else { world with raidList := world.raidList.erase raid }
  world.scheduleCheck

/-- `Raids::startup`. -/
def startup (now : UInt64) : World := { world with lastRaidEnd := now }.scheduleCheck

/-- `Raids::clear`. -/
def clear : World :=
  let world := { world with timers := world.timers.stop world.checkRaidsEvent, checkRaidsEvent := 0 }
  let world := world.raidList.foldl (fun world raid => world.stopEvents raid) world
  { world with raidList := [], running := none, lastRaidEnd := 0 }

/-- `Raids::loadFromXml`. -/
def loadFromXml (loaded : List (Nat × Raid)) : World :=
  { world with
    raids := fun raid => (loaded.lookup raid).or (world.raids raid)
    raidList := loaded.map Prod.fst }

/-- `Raids::reload`. -/
def reload (loaded : List (Nat × Raid)) : World := world.clear.loadFromXml loaded

end World

/-! ## Runs -/

inductive Op where
  | fire (id : Nat)
  | checkRaids (id : Nat) (now : UInt64) (random : Nat → UInt32)
  | executeRaidEvent (id raid index : Nat) (success : Bool) (now : UInt64)
  | reload (loaded : List (Nat × Raid)) (now : UInt64)

variable (world : World) (loaded : List (Nat × Raid))

/-- The addresses of raids that are loaded differ, and no raid had them before. -/
def Fresh : Prop :=
  (loaded.map Prod.fst).Nodup ∧ ∀ raid ∈ loaded.map Prod.fst, world.raids raid = none

/-- A timer's action is taken when it has fired. -/
def legal : Op → Prop
  | .fire id => ∃ timer ∈ world.timers.running, timer.id = id
  | .checkRaids id _ _ => ⟨id, .checkRaids, true⟩ ∈ world.timers.running
  | .executeRaidEvent id raid index _ _ =>
    ⟨id, .executeRaidEvent raid index, true⟩ ∈ world.timers.running
  | .reload loaded _ => Fresh world loaded

def step : Op → World
  | .fire id => { world with timers := world.timers.fire id }
  | .checkRaids id now random =>
    { world with timers := world.timers.take id }.checkRaids now random
  | .executeRaidEvent id raid index success now =>
    let world := { world with timers := world.timers.take id }
    match (world.raidEvents raid)[index]? with
    | some event => world.executeRaidEvent raid event success now
    | none => world
  | .reload loaded now => (world.reload loaded).startup now

def system : System World Op := ⟨legal, step⟩

/-- Raids have been loaded and started up. -/
def begin (now : UInt64) : World :=
  (World.loadFromXml {} loaded).startup now

end Otserv.Raids
