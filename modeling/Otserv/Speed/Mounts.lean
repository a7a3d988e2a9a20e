import Otserv.Conditions.ConditionList

/-!
# Mounts and the speed of a player

A player is mounted when the mount of the default outfit is set. Mounting,
dismounting and changing the mount each add to the player's `varSpeed`, and so do
conditions of speed; a condition of an outfit dismounts the player when it is
started.

Zones, access, premium accounts, the time of the last toggle and the outfits a
player may wear are arguments of the operations that ask for them.
-/

namespace Otserv.Speed

open Otserv.Foundation Otserv.Conditions

structure Mount where
  id : UInt8
  clientId : UInt16
  speed : Int
  premium : Bool := false
deriving DecidableEq

def getMountByID (mounts : List Mount) (id : UInt8) : Option Mount :=
  mounts.find? fun mount => mount.id = id

def getMountByClientID (mounts : List Mount) (clientId : UInt16) : Option Mount :=
  mounts.find? fun mount => mount.clientId = clientId

/-- The parts of an outfit that `playerChangeOutfit` reads. -/
structure Outfit where
  lookType : UInt16 := 0
  lookMount : UInt16 := 0
  lookWings : UInt16 := 0
  lookAura : UInt16 := 0
  lookShader : UInt16 := 0
  lookAddons : UInt8 := 0
deriving DecidableEq

/-- A player: the conditions and the change of speed, the default outfit, and
the storages of the current mount and of the tamed ones, thirty-one to a value. -/
structure Player where
  creature : Creature := {}
  defaultOutfit : Outfit := {}
  currentMount : Option UInt8 := none
  tamedMounts : UInt8 → Option UInt32 := fun _ => none
  lastToggleMount : Int := 0

namespace Player

def isMounted (player : Player) : Bool := player.defaultOutfit.lookMount != 0

def getCurrentMount (player : Player) : UInt8 := player.currentMount.getD 0

def setCurrentMount (mountId : UInt8) (player : Player) : Player :=
  { player with currentMount := some mountId }

def changeSpeed (varSpeedDelta : Int) (player : Player) : Player :=
  { player with creature := player.creature.changeSpeed varSpeedDelta }

/-- `Player::dismount`. -/
def dismount (mounts : List Mount) (player : Player) : Player :=
  let slowed := match getMountByID mounts player.getCurrentMount with
    | some mount => if mount.speed > 0 then player.changeSpeed (-mount.speed) else player
    | none => player
  { slowed with defaultOutfit := { slowed.defaultOutfit with lookMount := 0 } }

/-- The account of a player. -/
structure Account where
  gamemasterAccess : Bool := false
  premium : Bool := false

/-- `Player::hasMount(mount)`. -/
def hasMount (account : Account) (mount : Mount) (player : Player) : Bool :=
  if account.gamemasterAccess then true
  else if mount.premium && !account.premium then false
  else
    let tmpMountId := mount.id - 1
    match player.tamedMounts (tmpMountId / 31) with
    | none => false
    | some value => (1 <<< (tmpMountId % 31).toUInt32) &&& value != 0

/-- What `toggleMount` asks of its surroundings. -/
structure ToggleContext where
  now : Int
  wasMounted : Bool := false
  groupAccess : Bool := false
  protectionZone : Bool := false
  hasOutfit : Bool := true
  account : Account := {}

/-- What the checks of `toggleMount` come to: it is refused, the mount turns out
not to be owned and is forgotten, or the player rides it. -/
inductive Ride where
  | refused
  | forgets
  | rides (currentMount : Mount)

variable (mounts : List Mount)

/-- The checks of `toggleMount` before the player is seated. -/
def ride (context : ToggleContext) (player : Player) : Ride :=
  if player.isMounted then .refused
  else if !context.groupAccess ∧ context.protectionZone then .refused
  else if !context.hasOutfit then .refused
  else
    let currentMountId := player.getCurrentMount
    if currentMountId = 0 then .refused
    else match getMountByID mounts currentMountId with
      | none => .refused
      | some currentMount =>
        if !player.hasMount context.account currentMount then .forgets
        else if currentMount.premium && !context.account.premium then .refused
        else if player.creature.hasCondition context.now .outfit 0 then .refused
        else .rides currentMount

variable (context : ToggleContext)

/-- The last toggle is less than three seconds ago. -/
def tooSoon (player : Player) : Bool :=
  context.now - player.lastToggleMount < 3000 ∧ !context.wasMounted

/-- The end of `toggleMount` when the mount is ridden. -/
def seat (currentMount : Mount) (player : Player) : Player :=
  let seated := { player with
    defaultOutfit := { player.defaultOutfit with lookMount := currentMount.clientId } }
  let sped := if currentMount.speed ≠ 0 then seated.changeSpeed currentMount.speed else seated
  { sped with lastToggleMount := context.now }

/-- `Player::toggleMount`. -/
def toggleMount (mounts : List Mount) (context : ToggleContext) (mount : Bool)
    (player : Player) : Player :=
  if player.tooSoon context then player
  else if mount then
    match player.ride mounts context with
    | .refused => player
    | .forgets => player.setCurrentMount 0
    | .rides currentMount => player.seat context currentMount
  else if !player.isMounted then player
  else { player.dismount mounts with lastToggleMount := context.now }

/-- `Player::untameMount`. -/
def untameMount (mounts : List Mount) (mountId : UInt8) (player : Player) : Player :=
  match getMountByID mounts mountId with
  | none => player
  | some _ =>
    let tmpMountId := mountId - 1
    match player.tamedMounts (tmpMountId / 31) with
    | none => player
    | some value =>
      let player := { player with
        tamedMounts := Function.update player.tamedMounts (tmpMountId / 31)
          (some (value &&& ~~~(1 <<< (tmpMountId % 31).toUInt32))) }
      if player.getCurrentMount = mountId then
        let player := if player.isMounted then player.dismount mounts else player
        player.setCurrentMount 0
      else player

/-- What `playerChangeOutfit` asks besides mounts: the wings, the aura and the
shader are there and owned, and the outfit may be worn. -/
structure OutfitContext where
  allowChangeOutfit : Bool := true
  account : Account := {}
  wings : Bool := true
  aura : Bool := true
  shader : Bool := true
  canWear : Bool := true

/-- A mounted player changes to another mount. -/
def replaceMount (mount : Mount) (player : Player) : Player :=
  let player := match getMountByID mounts player.getCurrentMount with
    | some prevMount => player.changeSpeed (mount.speed - prevMount.speed)
    | none => player
  player.setCurrentMount mount.id

/-- The mount part of `Game::playerChangeOutfit`: the player and the outfit,
unless the mount is refused. -/
def changeMount (account : Account) (outfit : Outfit) (player : Player) :
    Option (Player × Outfit) :=
  if outfit.lookMount ≠ 0 then
    match getMountByClientID mounts outfit.lookMount with
    | none => none
    | some mount =>
      if !player.hasMount account mount then none
      else if player.isMounted then some (player.replaceMount mounts mount, outfit)
      else some (player.setCurrentMount mount.id, { outfit with lookMount := 0 })
  else if player.isMounted then some (player.dismount mounts, outfit)
  else some (player, outfit)

/-- `Game::playerChangeOutfit`. -/
def playerChangeOutfit (mounts : List Mount) (context : OutfitContext) (outfit : Outfit)
    (player : Player) : Player :=
  if !context.allowChangeOutfit then player
  else match player.changeMount mounts context.account outfit with
    | none => player
    | some (player, outfit) =>
      if outfit.lookWings ≠ 0 ∧ !context.wings then player
      else if outfit.lookAura ≠ 0 ∧ !context.aura then player
      else if outfit.lookShader ≠ 0 ∧ !context.shader then player
      else if context.canWear then { player with defaultOutfit := outfit }
      else player

/-- `addCondition` of a player: `Player::onAddCondition` dismounts when a
condition of an outfit is started. -/
def addCondition (mounts : List Mount) (now drawn walkDelay : Int) (condition : Option Condition)
    (player : Player) : Player :=
  let (creature, added) := player.creature.addCondition now drawn walkDelay condition
  let player := { player with creature := creature }
  if added = .started ∧ condition.any (fun condition => condition.conditionType = .outfit) then
    player.dismount mounts
  else player

end Player

end Otserv.Speed
