import Otserv.Foundation.Runs
import Otserv.Foundation.Timers

/-!
# The walk event of a creature

A creature walks by events of `Game::checkCreatureWalk`: `onWalk` makes a step and adds the next
event, `addEventWalk` adds one unless there is one already, and makes a first step right away
where its time has come, and `stopEventWalk` stops it.

What a step does (the tile it leads to, its scripts, conditions that end) may call the same
functions. So an operation comes with all that is done inside it (`WalkOp`, `Pace`, `Walk`): the
durations when an event is added, and what is called during a step, behind the last one, and when
the walk is aborted. An event that has fired waits as a task of the dispatcher, and cannot be
stopped any more.
-/

namespace Otserv.Creatures

open Foundation

/-- How `getNextStep` goes on. -/
inductive NextStep where
  /-- A monster that nobody watches. -/
  | idle
  /-- A step that a monster chooses by itself, or none. -/
  | own (found : Bool)
  /-- The next direction of the way. -/
  | base
deriving DecidableEq

mutual

/-- What is called on a creature, with all that happens inside. -/
inductive WalkOp (Direction : Type) where
  | startAutoWalk (blocked : Bool) (listDir : List Direction) (pace : Pace Direction)
  | addEventWalk (firstStep : Bool) (pace : Pace Direction)
  | stopEventWalk
  | setSpeed (varSpeedDelta : Int) (pace : Pace Direction)
  | stopWalk
  | setBaseSpeed (newBaseSpeed : Nat)
  | changeHealth (alive : Bool)

/-- The durations when an event is added: `getWalkDelay`, `getStepDuration`, and the second with
the cost of the last step. The first step is none where it is delayed still. -/
inductive Pace (Direction : Type) where
  | mk (walkDelay stepDuration stepTicks : Int) (first : Option (Walk Direction))

/-- What is called during a step, behind the last one, and when the walk is aborted. -/
inductive Walk (Direction : Type) where
  | mk (delayed : Bool) (next : NextStep) (step complete aborted : List (WalkOp Direction))
      (pace : Pace Direction)

end

abbrev PLAYER_MIN_SPEED : Int := 10
abbrev PLAYER_MAX_SPEED : Int := 1500

structure Walker (Direction : Type) where
  isPlayer : Bool
  baseSpeed : Nat
  varSpeed : Int := 0
  /-- Its health is above zero. -/
  alive : Bool := true
  listWalkDir : List Direction := []
  cancelNextWalk : Bool := false
  eventWalk : Nat := 0
  /-- The events of the creature. -/
  events : Timers Unit := {}

namespace Walker

variable {Direction : Type} (walker : Walker Direction)

/-- A sum of 32 bits. -/
def getSpeed : Int := Int.bmod (walker.baseSpeed + walker.varSpeed) (2 ^ 32)

def getStepSpeed : Int :=
  if walker.isPlayer then max PLAYER_MIN_SPEED (min PLAYER_MAX_SPEED walker.getSpeed)
  else walker.getSpeed

def getEventStepTicks (onlyDelay : Bool) (walkDelay stepDuration stepTicks : Int) : Int :=
  if walkDelay ≤ 0 then
    if onlyDelay ∧ stepDuration > 0 then 1 else stepTicks
  else walkDelay

/-- The event that is added at the end of `addEventWalk`. -/
def addEvent : Walker Direction :=
  let events := walker.events.start ()
  { walker with events := events, eventWalk := events.last }

def stopEventWalk : Walker Direction :=
  if walker.eventWalk ≠ 0 then
    { walker with events := walker.events.stop walker.eventWalk, eventWalk := 0 }
  else walker

/-- The creature, and whether there is a step. -/
def getNextStep : NextStep → Walker Direction × Bool
  | .idle => ({ walker with eventWalk := 0 }, false)
  | .own found => (walker, found)
  | .base =>
    match walker.listWalkDir with
    | [] => (walker, false)
    | _ :: listWalkDir => ({ walker with listWalkDir := listWalkDir }, true)

end Walker

mutual

variable {Direction : Type}

def addEventWalk (firstStep : Bool) (walker : Walker Direction) :
    Pace Direction → Walker Direction
  | .mk walkDelay stepDuration stepTicks first =>
    let walker := { walker with cancelNextWalk := false }
    if walker.getStepSpeed ≤ 0 then walker
    else if walker.eventWalk ≠ 0 then walker
    else
      let ticks := Walker.getEventStepTicks firstStep walkDelay stepDuration stepTicks
      if ticks ≤ 0 then walker
      else if ticks = 1 then
        match first with
        | none => walker.addEvent
        | some walk => (checkCreatureWalk walker walk).addEvent
      else walker.addEvent

/-- `Game::checkCreatureWalk` and `Creature::onWalk`. -/
def checkCreatureWalk (walker : Walker Direction) : Walk Direction → Walker Direction
  | .mk delayed next step complete aborted pace =>
    if ¬walker.alive then walker
    else
      let walker :=
        if delayed then walker
        else
          match walker.getNextStep next with
          | (walker, true) => callAll walker step
          | (walker, false) =>
            let walker := walker.stopEventWalk
            if walker.listWalkDir = [] then callAll walker complete else walker
      let walker :=
        if walker.cancelNextWalk then
          { callAll { walker with listWalkDir := [] } aborted with cancelNextWalk := false }
        else walker
      if walker.eventWalk ≠ 0 then addEventWalk false { walker with eventWalk := 0 } pace
      else walker

def call (walker : Walker Direction) : WalkOp Direction → Walker Direction
  | .startAutoWalk blocked listDir pace =>
    if walker.isPlayer ∧ blocked then walker
    else addEventWalk (listDir.length = 1) { walker with listWalkDir := listDir } pace
  | .addEventWalk firstStep pace => addEventWalk firstStep walker pace
  | .stopEventWalk => walker.stopEventWalk
  | .setSpeed varSpeedDelta pace =>
    let oldSpeed := walker.getSpeed
    let walker := { walker with varSpeed := varSpeedDelta }
    if walker.getSpeed ≤ 0 then { walker.stopEventWalk with cancelNextWalk := true }
    else if oldSpeed ≤ 0 ∧ walker.listWalkDir ≠ [] then addEventWalk false walker pace
    else walker
  | .stopWalk => { walker with cancelNextWalk := true }
  | .setBaseSpeed newBaseSpeed => { walker with baseSpeed := newBaseSpeed }
  | .changeHealth alive => { walker with alive := alive }

/-- What is called, one after the other. -/
def callAll (walker : Walker Direction) : List (WalkOp Direction) → Walker Direction
  | [] => walker
  | op :: ops => callAll (call walker op) ops

end

/-- What happens to a creature in the game. -/
inductive WalkStep (Direction : Type) where
  /-- A task calls one of the functions. -/
  | call (op : WalkOp Direction)
  /-- An event fires, and its task waits. -/
  | fire (event : Nat)
  /-- The task of an event. -/
  | checkCreatureWalk (event : Nat) (walk : Walk Direction)

def walks (Direction : Type) : System (Walker Direction) (WalkStep Direction) where
  legal walker
    | .call _ => True
    | .fire event => ⟨event, (), false⟩ ∈ walker.events.running
    | .checkCreatureWalk event _ => ⟨event, (), true⟩ ∈ walker.events.running
  step walker
    | .call op => call walker op
    | .fire event => { walker with events := walker.events.fire event }
    | .checkCreatureWalk event walk =>
      checkCreatureWalk { walker with events := walker.events.take event } walk

end Otserv.Creatures
