import Otserv.World.SpectatorCache

/-!
# Who watches an NPC

An NPC keeps the set of players that watch it and is idle while the set is empty. It hears of a
player that appears, moves or leaves where `Map::getSpectators` finds it around the place, and
then asks whether the player sees it; of its own moves it hears too, and does not ask.

A player sees what its client shows: the surroundings of the place where it stands, or of the
player that it spectates. The objects of players that have left stay, with their last place, since
others may spectate them still. Scripts, the walks and the shop of the NPC are left out.
-/

namespace Otserv.Npcs

open Foundation
open World (Position SpectatorsCall inRange mapMaxLayers)

def maxClientViewportX : Int := 14

def maxClientViewportY : Int := 8

/-- `ProtocolGame::canSee`, from the position that the client shows. -/
def clientSees (myPos pos : Position) : Bool :=
  let offsetz := myPos.getZ - pos.getZ
  (if myPos.z ≤ 7 then pos.z ≤ 7 else |offsetz| ≤ 2) ∧
    pos.getX ≥ myPos.getX - maxClientViewportX + offsetz ∧
    pos.getX ≤ myPos.getX + (maxClientViewportX + 1) + offsetz ∧
    pos.getY ≥ myPos.getY - maxClientViewportY + offsetz ∧
    pos.getY ≤ myPos.getY + (maxClientViewportY + 1) + offsetz

/-- Whether `Map::getSpectators` finds a creature at `pos`, on all floors around. -/
def found (centerPos pos : Position) : Bool :=
  centerPos.z.toNat < mapMaxLayers &&
    inRange centerPos (SpectatorsCall.range { centerPos := centerPos, multifloor := true }) pos

structure Player where
  inGame : Bool := false
  position : Position := ⟨0, 0, 0⟩
  client : Bool := false
  spectating : Option Nat := none
deriving DecidableEq

structure Npc where
  name : String := ""
  position : Position
  removed : Bool := false
  health : Int := 1000
  isIdle : Bool := true
  spectators : Finset Nat := ∅
deriving DecidableEq

/-- What `Npc::loadFromXml` reads of the file. -/
structure NpcXml where
  name : String
  health : Option Int

namespace Npc

variable (npc : Npc)

def setIdle (idle : Bool) : Npc :=
  if npc.removed ∨ npc.health ≤ 0 then npc else { npc with isIdle := idle }

def updateIdleStatus : Npc :=
  let status := decide (npc.spectators = ∅)
  if status ≠ npc.isIdle then npc.setIdle status else npc

/-- `Npc::onCreatureAppear`, of a player. -/
def onCreatureAppear (player : Nat) : Npc :=
  { npc with spectators := insert player npc.spectators }.updateIdleStatus

/-- `Npc::onRemoveCreature`, of a player. -/
def onRemoveCreature (player : Nat) : Npc :=
  { npc with spectators := npc.spectators.erase player }.updateIdleStatus

/-- `Npc::onCreatureMove`, of a player. -/
def onCreatureMove (player : Nat) (canSee : Bool) : Npc :=
  { npc with
    spectators :=
      if canSee then insert player npc.spectators
      else npc.spectators.erase player }.updateIdleStatus

/-- `Npc::reset`, of what is modelled. -/
def reset : Npc := { npc with isIdle := true }

def loadFromXml (xml : NpcXml) : Npc :=
  { npc with name := xml.name, health := xml.health.getD npc.health }

/-- `Npc::reload`, with the file where it can be read. -/
def reload (xml : Option NpcXml) : Npc :=
  if npc.name = "Holder" then npc
  else xml.elim npc.reset npc.reset.loadFromXml

end Npc

structure Game where
  npc : Npc
  players : Nat → Player := fun _ => {}

namespace Game

variable (game : Game)

/-- The position that the client of the player shows. -/
def eyes (player : Nat) : Position :=
  (game.players ((game.players player).spectating.getD player)).position

/-- `Player::canSee`. -/
def canSee (player : Nat) (pos : Position) : Bool :=
  (game.players player).client && clientSees (game.eyes player) pos

def setPlayer (player : Nat) (value : Player) : Game :=
  { game with players := Function.update game.players player value }

def setNpc (npc : Npc) : Game := { game with npc := npc }

/-- `Game::placeCreature`, of a player. -/
def placeCreature (player : Nat) (pos : Position) (client : Bool) : Game :=
  let game := game.setPlayer player { inGame := true, position := pos, client := client }
  if found pos game.npc.position then game.setNpc (game.npc.onCreatureAppear player)
  else game

/-- `Game::removeCreature`, of a player. -/
def removeCreature (player : Nat) : Game :=
  let value := game.players player
  let game := game.setPlayer player { value with inGame := false }
  if found value.position game.npc.position then
    game.setNpc (game.npc.onRemoveCreature player)
  else game

/-- `Map::moveCreature`, of a player. -/
def moveCreature (player : Nat) (newPos : Position) : Game :=
  let value := game.players player
  let game := game.setPlayer player { value with position := newPos }
  if found value.position game.npc.position || found newPos game.npc.position then
    game.setNpc (game.npc.onCreatureMove player (game.canSee player game.npc.position))
  else game

end Game

inductive NpcOp where
  | placeCreature (player : Nat) (pos : Position) (client : Bool)
  | removeCreature (player : Nat)
  /-- A step or a teleport of a player. -/
  | moveCreature (player : Nat) (newPos : Position)
  /-- A step or a teleport of the NPC itself. -/
  | moveNpc (newPos : Position)
  | reload (xml : Option NpcXml)
  | setSpectating (player : Nat) (target : Option Nat)
  /-- A client takes the player, or lets it go. -/
  | setClient (player : Nat) (client : Bool)

namespace NpcOp

/-- Whom it concerns is in the game or not yet, and places are on the map. -/
def Legal (game : Game) : NpcOp → Prop
  | placeCreature player pos _ =>
    (game.players player).inGame = false ∧ pos.z.toNat < mapMaxLayers
  | removeCreature player => (game.players player).inGame = true
  | moveCreature player newPos =>
    (game.players player).inGame = true ∧ newPos.z.toNat < mapMaxLayers
  | moveNpc newPos => newPos.z.toNat < mapMaxLayers
  | reload _ | setSpectating .. | setClient .. => True

instance decidableLegal (game : Game) : ∀ op, Decidable (Legal game op)
  | placeCreature .. | moveCreature .. => inferInstanceAs (Decidable (_ ∧ _))
  | removeCreature _ => inferInstanceAs (Decidable (_ = _))
  | moveNpc _ => inferInstanceAs (Decidable (_ < _))
  | reload _ | setSpectating .. | setClient .. => .isTrue trivial

def apply (game : Game) : NpcOp → Game
  | placeCreature player pos client => game.placeCreature player pos client
  | removeCreature player => game.removeCreature player
  | moveCreature player newPos => game.moveCreature player newPos
  | moveNpc newPos => game.setNpc { game.npc with position := newPos }
  | reload xml => game.setNpc (game.npc.reload xml)
  | setSpectating player target =>
    if target = some player then game
    else game.setPlayer player { game.players player with spectating := target }
  | setClient player client =>
    game.setPlayer player { game.players player with client := client }

end NpcOp

def npcs : System Game NpcOp where
  legal := NpcOp.Legal
  step := NpcOp.apply

instance (game : Game) (op : NpcOp) : Decidable (npcs.legal game op) :=
  NpcOp.decidableLegal game op

end Otserv.Npcs
