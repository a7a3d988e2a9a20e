import Otserv.Npcs.Npc

/-!
# The creatures that a client knows

The server tells a client of each creature it describes whether the client knows it already, and
if not, which other creature to forget. For this it keeps the set of the creatures that the client
knows. In what order the set is gone through is an argument of the call, and so is the view, which
says what the player sees.
-/

namespace Otserv.Network

open Foundation
open World (Position)

structure SeenCreature where
  isPlayer : Bool := false
  isRemoved : Bool := false
  isInGhostMode : Bool := false
  isInvisible : Bool := false
  position : Position
deriving DecidableEq

/-- The player, with the position that the client shows. -/
structure Viewer where
  id : UInt32
  access : Bool := false
  canSeeInvisibility : Bool := false
  myPos : Position
deriving DecidableEq

/-- `Player::canSeeCreature`. -/
def Viewer.canSeeCreature (player : Viewer) (id : UInt32) (creature : SeenCreature) : Bool :=
  if id = player.id then true
  else if creature.isInGhostMode && !player.access then false
  else !(!creature.isPlayer && !player.canSeeInvisibility && creature.isInvisible)

structure View where
  player : Option Viewer
  getCreatureByID : UInt32 → Option SeenCreature

/-- `ProtocolGame::canSee`. -/
def View.canSee (view : View) (id : UInt32) : Bool :=
  match view.getCreatureByID id, view.player with
  | some creature, some player =>
    !creature.isRemoved && player.canSeeCreature id creature &&
      Npcs.clientSees player.myPos creature.position
  | _, _ => false

inductive Known where
  | known
  | unknown (removedKnown : UInt32)
deriving DecidableEq

/-- The first in the order but for the creature itself. -/
def anyoneElse (id : UInt32) (order : List UInt32) : UInt32 :=
  ((if order.head? = some id then order.tail else order).head?).getD 0

/-- `ProtocolGame::checkCreatureAsKnown`. The creature is in the set, and in the order, when one
to be removed is looked for. -/
def checkCreatureAsKnown (view : View) (order : List UInt32) (id : UInt32)
    (knownCreatureSet : Finset UInt32) : Known × Finset UInt32 :=
  if id ∈ knownCreatureSet then (.known, knownCreatureSet)
  else
    let knownCreatureSet := insert id knownCreatureSet
    if knownCreatureSet.card > 1300 then
      let removedKnown :=
        (order.find? fun other => !view.canSee other).getD (anyoneElse id order)
      (.unknown removedKnown, knownCreatureSet.erase removedKnown)
    else (.unknown 0, knownCreatureSet)

/-- What the client makes of it. -/
def Known.learn (told : Known) (id : UInt32) (client : Finset UInt32) : Finset UInt32 :=
  match told with
  | .known => client
  | .unknown removedKnown =>
    insert id (if removedKnown = 0 then client else client.erase removedKnown)

structure Creatures where
  knownCreatureSet : Finset UInt32 := ∅
  client : Finset UInt32 := ∅
deriving DecidableEq

structure CreatureCall where
  id : UInt32
  order : List UInt32
  view : View

namespace Creatures

variable (creatures : Creatures) (call : CreatureCall)

def check : Known × Finset UInt32 :=
  checkCreatureAsKnown call.view call.order call.id creatures.knownCreatureSet

def tell : Creatures where
  knownCreatureSet := (creatures.check call).2
  client := (creatures.check call).1.learn call.id creatures.client

/-- An id of a creature, and an order of the set with the creature in it. -/
structure Asks : Prop where
  isId : call.id ≠ 0
  nodup : call.order.Nodup
  order : ∀ other, other ∈ call.order ↔ other = call.id ∨ other ∈ creatures.knownCreatureSet

def telling : System Creatures CreatureCall where
  legal := Asks
  step := tell

end Creatures

end Otserv.Network
