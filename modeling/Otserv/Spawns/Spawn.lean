import Otserv.Foundation.Runs
import Otserv.World.Tiles

/-!
# Spawns

A spawn has slots, each for a monster that it spawns at its position, and keeps the monsters
it has spawned by the id of the slot. A monster that has left the zone is kept under the id
zero, so that the slot gets another. `checkSpawn` fills empty slots, and asks for another
call unless there are as many monsters as slots; a monster of the spawn that is removed from
the map asks for one too, and one that is convinced leaves the spawn.

Where a monster is placed, or that it is not, what the scripts answer, the clock and
`RATE_SPAWN` are arguments.
What kind of monster a slot is for and the order of the monsters of one slot are left out.
-/

namespace Otserv.Spawns

open Foundation
open World (Position)

/-- `Spawns::isInZone`. -/
def isInZone (centerPos : Position) (radius : Int) (pos : Position) : Bool :=
  radius = -1 ∨
    (pos.getX ≥ centerPos.getX - radius ∧ pos.getX ≤ centerPos.getX + radius ∧
      pos.getY ≥ centerPos.getY - radius ∧ pos.getY ≤ centerPos.getY + radius)

/-- `spawnBlock_t`, with the id it is kept under. -/
structure SpawnBlock where
  spawnId : Nat
  pos : Position
  lastSpawn : Int
  interval : UInt32
deriving DecidableEq

structure Monster where
  position : Position
  removed : Bool := false
  /-- The monster belongs to the spawn. -/
  spawn : Bool := false
deriving DecidableEq

structure Spawn where
  centerPos : Position
  radius : Int
  interval : UInt32 := 60000
  spawnMap : List SpawnBlock := []
  /-- The ids of slots with the monsters. -/
  spawnedMap : List (Nat × Nat) := []
  checkSpawnEvent : Nat := 0

/-- `Spawn::addMonster`. -/
def Spawn.addMonster (pos : Position) (interval : UInt32) (spawn : Spawn) : Spawn :=
  { spawn with
    interval := min spawn.interval interval
    spawnMap := spawn.spawnMap ++ [⟨spawn.spawnMap.length + 1, pos, 0, interval⟩] }

/-- A spawn with its monsters, the references it holds to each, and the `checkSpawn` events
that are pending. -/
structure Zone extends Spawn where
  monsters : Nat → Monster := fun _ => { position := ⟨0, 0, 0⟩, removed := true }
  lastMonster : Nat := 0
  references : Nat → Nat := fun _ => 0
  lastEvent : Nat := 0
  events : List Nat := []

namespace Zone

variable (zone : Zone)

/-- `Spawn::isInSpawnZone`. -/
def isInSpawnZone (pos : Position) : Bool := isInZone zone.centerPos zone.radius pos

/-- `Scheduler::addEvent` for `checkSpawn`. -/
def addEvent : Zone :=
  { zone with
    checkSpawnEvent := zone.lastEvent + 1
    lastEvent := zone.lastEvent + 1
    events := (zone.lastEvent + 1) :: zone.events }

/-- `Spawn::startSpawnCheck`. -/
def startSpawnCheck : Zone := if zone.checkSpawnEvent = 0 then zone.addEvent else zone

/-- `Spawn::spawnMonster`, when the monster is placed. -/
def spawnMonster (spawnId : Nat) (position : Position) (now : Int) : Zone :=
  let monster := zone.lastMonster + 1
  { zone with
    lastMonster := monster
    monsters := Function.update zone.monsters monster { position := position, spawn := true }
    references := Function.update zone.references monster (zone.references monster + 1)
    spawnedMap := (spawnId, monster) :: zone.spawnedMap
    spawnMap := zone.spawnMap.map fun sb =>
      if sb.spawnId = spawnId then { sb with lastSpawn := now } else sb }

/-- A slot is filled if the monster is placed. -/
def fill (now : Nat → Int) (placed : Nat → Option Position) (spawnId : Nat) : Zone :=
  match placed spawnId with
  | none => zone
  | some position => zone.spawnMonster spawnId position (now spawnId)

/-- `Spawn::startup`. -/
def startup (now : Nat → Int) (placed : Nat → Option Position) : Zone :=
  zone.spawnMap.foldl (fun zone sb => zone.fill now placed sb.spawnId) zone

/-- What `cleanup` makes of an entry. -/
def cleaned (entry : Nat × Nat) : Option (Nat × Nat) :=
  if (zone.monsters entry.2).removed then none
  else if !zone.isInSpawnZone (zone.monsters entry.2).position ∧ entry.1 ≠ 0 then
    some (0, entry.2)
  else some entry

/-- `Spawn::cleanup`. -/
def cleanup : Zone :=
  { zone with
    spawnedMap := zone.spawnedMap.filterMap zone.cleaned
    references := fun monster => zone.references monster -
      zone.spawnedMap.countP fun entry => entry.2 = monster ∧ (zone.monsters monster).removed }

/-- The loop of `checkSpawn`, with the monsters it has tried to spawn so far. -/
def respawn (rate : UInt32) (now : Nat → Int) (placed : Nat → Option Position) :
    List SpawnBlock → Nat → Zone → Zone
  | [], _, zone => zone
  | sb :: rest, spawnCount, zone =>
    if zone.spawnedMap.any fun entry => entry.1 = sb.spawnId then
      respawn rate now placed rest spawnCount zone
    else if now sb.spawnId ≥ sb.lastSpawn + sb.interval.toNat then
      let zone := zone.fill now placed sb.spawnId
      if spawnCount + 1 ≥ rate.toNat then zone
      else respawn rate now placed rest (spawnCount + 1) zone
    else respawn rate now placed rest spawnCount zone

/-- `Spawn::checkSpawn`. -/
def checkSpawn (rate : UInt32) (now : Nat → Int) (placed : Nat → Option Position) : Zone :=
  let zone := { zone with checkSpawnEvent := 0 }.cleanup
  let zone := respawn rate now placed zone.spawnMap 0 zone
  if zone.spawnedMap.length < zone.spawnMap.length then zone.addEvent else zone

/-- `Spawn::removeMonster`. -/
def removeMonster (monster : Nat) : Zone :=
  if zone.spawnedMap.any fun entry => entry.2 = monster then
    { zone with
      spawnedMap := zone.spawnedMap.eraseP fun entry => entry.2 = monster
      references := Function.update zone.references monster (zone.references monster - 1) }
  else zone

/-- `Monster::onRemoveCreature` of the monster itself, once it is removed. The script for
`creatureDisappearEvent`, if there is one, may have answered `true`. -/
def onRemoveCreature (monster : Nat) (handled : Bool) : Zone :=
  let zone :=
    { zone with
      monsters := Function.update zone.monsters monster
        { zone.monsters monster with removed := true } }
  if handled then zone
  else if (zone.monsters monster).spawn then zone.startSpawnCheck else zone

/-- `Monster::convinceCreature`: what it does with the spawn. -/
def convinceCreature (monster : Nat) : Zone :=
  if (zone.monsters monster).spawn then
    let zone := zone.removeMonster monster
    { zone with
      monsters := Function.update zone.monsters monster
        { zone.monsters monster with spawn := false } }
  else zone

/-- A monster walks. -/
def walk (monster : Nat) (position : Position) : Zone :=
  { zone with
    monsters := Function.update zone.monsters monster
      { zone.monsters monster with position := position } }

end Zone

/-! ## Runs -/

inductive Op where
  | checkSpawn (event : Nat) (rate : UInt32) (now : Nat → Int) (placed : Nat → Option Position)
  | remove (monster : Nat) (handled : Bool)
  | convince (monster : Nat)
  | walk (monster : Nat) (position : Position)

/-- An event that is pending may be run, and a monster that is on the map may be removed,
convinced or walk. -/
def system : System Zone Op where
  legal zone
    | .checkSpawn event _ _ _ => event ∈ zone.events
    | .remove monster _ | .convince monster | .walk monster _ =>
      (zone.monsters monster).removed = false
  step zone
    | .checkSpawn event rate now placed =>
      { zone with events := zone.events.erase event }.checkSpawn rate now placed
    | .remove monster handled => zone.onRemoveCreature monster handled
    | .convince monster => zone.convinceCreature monster
    | .walk monster position => zone.walk monster position

/-- A spawn with its slots. -/
def load (centerPos : Position) (radius : Int) (slots : List (Position × UInt32)) : Zone where
  toSpawn := slots.foldl (fun spawn slot => spawn.addMonster slot.1 slot.2)
    { centerPos := centerPos, radius := radius }

end Otserv.Spawns
