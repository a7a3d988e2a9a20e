import Otserv.Foundation.Runs

/-!
# Logins of a character that is in the game

A client that logs in with a character makes a player, or takes over the one that is in the game.
If that player has a client, it is disconnected, and the new one connects a second later
(`eventConnect`); until then the player `isConnecting`, and is not logged out for its silence.

A protocol is released by a task that the end of its connection posts. The connection is gone
(`expired`) when nobody holds it, which may be before the release as well as after it.
-/

namespace Otserv.Reconnects

open Foundation

inductive Stage where
  /-- There is no such player yet. -/
  | absent
  /-- Made by a login, and not in the game. -/
  | loaded
  | inGame
  | removed
deriving DecidableEq, Repr

structure Player (Client : Type) where
  client : Option Client := none
  isConnecting : Bool := false
  /-- The references that protocols hold. -/
  referenceCounter : Nat := 0
  stage : Stage := .absent

structure ProtocolGame (Id : Type) where
  player : Option Id := none
  /-- The player that the pending event connects to. -/
  eventConnect : Option Id := none
  /-- Its first message has come. -/
  loggedIn : Bool := false
  closed : Bool := false
  expired : Bool := false
  released : Bool := false

structure Game (Client Id : Type) where
  players : Id → Player Client := fun _ => {}
  protocols : Client → ProtocolGame Id := fun _ => {}
  /-- The entry of the character in `mappedPlayerNames`. -/
  mappedPlayerName : Option Id := none

/-- What `sendPing` asks of a player and its tile. -/
structure Silence where
  noPongTime : Nat
  noLogout : Bool
  protectionZone : Bool
  pzLocked : Bool
  inFight : Bool
  /-- `playerLogout` of the scripts. -/
  allowed : Bool

namespace Game

variable {Client Id : Type} [DecidableEq Client] [DecidableEq Id] (game : Game Client Id) (id : Id)

def modifyPlayer (change : Player Client → Player Client) : Game Client Id :=
  { game with players := Function.update game.players id (change (game.players id)) }

variable (client : Client)

def modifyProtocol (change : ProtocolGame Id → ProtocolGame Id) : Game Client Id :=
  { game with protocols := Function.update game.protocols client (change (game.protocols client)) }

/-- The end of a connection. -/
def close : Game Client Id :=
  game.modifyProtocol client fun protocol => { protocol with closed := true }

/-- `Protocol::disconnect`. -/
def disconnect (client : Client) : Game Client Id :=
  if (game.protocols client).expired then game else game.close client

def release : Game Client Id :=
  let game :=
    match (game.protocols client).player with
    | none => game
    | some id =>
      if (game.players id).client = some client then
        (game.modifyPlayer id fun player =>
          { player with
            client := none
            referenceCounter := player.referenceCounter - 1 }).modifyProtocol client
              fun protocol => { protocol with player := none }
      else game
  game.modifyProtocol client fun protocol => { protocol with released := true }

def connect (id : Id) : Game Client Id :=
  let game := game.modifyProtocol client fun protocol => { protocol with eventConnect := none }
  if (game.players id).stage ≠ .inGame ∨ (game.players id).client ≠ none then
    game.disconnect client
  else if (game.protocols client).expired then game
  else
    (game.modifyProtocol client fun protocol => { protocol with player := some id }).modifyPlayer id
      fun player =>
        { player with
          client := some client
          isConnecting := false
          referenceCounter := player.referenceCounter + 1 }

/-- A player is made, which may not come to be placed: it is not loaded, or banned, or has to
wait. -/
def loginNew (new : Id) (placed : Bool) : Game Client Id :=
  let game :=
    (game.modifyProtocol client fun protocol => { protocol with player := some new }).modifyPlayer
      new fun player =>
        { player with
          client := some client
          referenceCounter := player.referenceCounter + 1
          stage := .loaded }
  if placed then
    { game.modifyPlayer new fun player => { player with stage := .inGame } with
      mappedPlayerName := some new }
  else game.disconnect client

def login (new : Id) (allowClones replaceKickOnLogin placed : Bool) : Game Client Id :=
  let game := game.modifyProtocol client fun protocol => { protocol with loggedIn := true }
  match if allowClones then none else game.mappedPlayerName with
  | none => game.loginNew client new placed
  | some found =>
    if (game.protocols client).eventConnect ≠ none ∨ replaceKickOnLogin = false then
      game.disconnect client
    else
      match (game.players found).client with
      | none => game.connect client found
      | some old =>
        ((game.disconnect old).modifyPlayer found fun player =>
          { player with isConnecting := true }).modifyProtocol client
            fun protocol => { protocol with eventConnect := some found }

/-- `Game::removeCreature`. -/
def removeCreature (id : Id) : Game Client Id :=
  if (game.players id).stage = .removed then game
  else
    { game.modifyPlayer id fun player => { player with stage := .removed } with
      mappedPlayerName := none }

/-- `refused`: the tile, a fight or a script forbids it. -/
def logout (refused : Bool) : Game Client Id :=
  match (game.protocols client).player with
  | none => game
  | some id =>
    if (game.players id).stage ≠ .removed ∧ refused then game
    else (game.disconnect client).removeCreature id

def kickPlayer : Game Client Id :=
  match (game.players id).client with
  | some client => game.logout client false
  | none => game.removeCreature id

def canLogout (silence : Silence) : Bool :=
  if (game.players id).isConnecting then false
  else if silence.noLogout then false
  else if silence.protectionZone then true
  else !silence.pzLocked && !silence.inFight

def sendPing (silence : Silence) : Game Client Id :=
  if 60000 ≤ silence.noPongTime ∧ game.canLogout id silence then
    if silence.allowed then
      match (game.players id).client with
      | some client => game.logout client false
      | none => game.removeCreature id
    else game
  else game

end Game

inductive GameOp (Client Id : Type) where
  | login (client : Client) (new : Id) (allowClones replaceKickOnLogin placed : Bool)
  /-- The delayed event of a client. -/
  | connect (client : Client)
  /-- The connection of a client ends, by its peer, an error or a message it may not send. -/
  | close (client : Client)
  | expire (client : Client)
  | release (client : Client)
  | logout (client : Client) (refused : Bool)
  | kickPlayer (id : Id)
  | removeCreature (id : Id)
  | sendPing (id : Id) (silence : Silence)

def reconnects (Client Id : Type) [DecidableEq Client] [DecidableEq Id] :
    System (Game Client Id) (GameOp Client Id) where
  legal game
    | .login client new _ _ _ =>
      (game.protocols client).loggedIn = false ∧ (game.players new).stage = .absent
    | .connect client => (game.protocols client).eventConnect ≠ none
    | .close _ => True
    | .expire client => (game.protocols client).closed = true
    | .release client =>
      (game.protocols client).closed = true ∧ (game.protocols client).released = false
    | .logout client _ => ∀ id ∈ (game.protocols client).player, (game.players id).stage ≠ .loaded
    | .kickPlayer id | .removeCreature id | .sendPing id _ => (game.players id).stage = .inGame
  step game
    | .login client new allowClones replaceKickOnLogin placed =>
      game.login client new allowClones replaceKickOnLogin placed
    | .connect client =>
      match (game.protocols client).eventConnect with
      | none => game
      | some id => game.connect client id
    | .close client => game.close client
    | .expire client =>
      game.modifyProtocol client fun protocol => { protocol with expired := true }
    | .release client => game.release client
    | .logout client refused => game.logout client refused
    | .kickPlayer id => game.kickPlayer id
    | .removeCreature id => game.removeCreature id
    | .sendPing id silence => game.sendPing id silence

end Otserv.Reconnects
