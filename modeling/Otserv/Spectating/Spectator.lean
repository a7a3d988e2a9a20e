import Otserv.Foundation.Runs

/-!
# Spectators

A player may spectate another one, who keeps a vector of its spectators; what is sent to a player
is sent to its spectators too, and so on. `setSpectating` edits both sides. A logout, a
disconnection and the destructor release the spectators of a player in a loop over the vector,
whose body erases the element that the loop stands on: what such a loop does then is not defined
(`undefined`), and the model lets it go on over the places that the vector had.

A player that dies or is removed otherwise stays as an object while its client holds it.
-/

namespace Otserv.Spectating

open Foundation

structure Game (Id : Type) where
  spectating : Id → Option Id := fun _ => none
  spectators : Id → List Id := fun _ => []
  client : Id → Bool := fun _ => true
  removed : Id → Bool := fun _ => false
  /-- A loop has gone on from an element that its body erased. -/
  undefined : Bool := false

namespace Game

variable {Id : Type} [DecidableEq Id] (game : Game Id)

def removeSpectator (player spectator : Id) : Game Id :=
  { game with
    spectators :=
      Function.update game.spectators player ((game.spectators player).erase spectator) }

def addSpectator (player spectator : Id) : Game Id :=
  { game with
    spectators := Function.update game.spectators player (game.spectators player ++ [spectator]) }

variable (player : Id)

def setSpectating (target : Option Id) : Game Id :=
  if game.spectating player = target ∨ target = some player then game
  else
    let game :=
      match game.spectating player with
      | none => game
      | some spectating => game.removeSpectator spectating player
    let game := { game with spectating := Function.update game.spectating player target }
    match target with
    | none => game
    | some target => game.addSpectator target player

/-- The body of the loop over the spectators of a player, for one of them. -/
def releaseOne (player spectator : Id) : Game Id :=
  let after := game.setSpectating spectator none
  if after.spectators player = game.spectators player then after
  else { after with undefined := true }

/-- The loop over the places that are left of the vector. An element that is erased is overwritten
by those behind it, and the last place keeps what it had. -/
def releaseFrom (player : Id) : List Nat → List Id → Game Id → Game Id
  | [], _, game => game
  | place :: places, memory, game =>
    match memory[place]? with
    | none => game
    | some spectator =>
      let after := game.releaseOne player spectator
      let left := after.spectators player
      releaseFrom player places (left ++ memory.drop left.length) after

def releaseSpectators : Game Id :=
  releaseFrom player (List.range (game.spectators player).length) (game.spectators player) game

/-- `Game::removeCreature`. -/
def removeCreature (player : Id) : Game Id :=
  { game with removed := Function.update game.removed player true }

/-- `Player::disconnect`. -/
def disconnect (player : Id) : Game Id :=
  if game.client player then game.releaseSpectators player else game

/-- `ProtocolGame::release` of the player's client. -/
def release (player : Id) : Game Id :=
  { game with client := Function.update game.client player false }

/-- A client takes the player over. -/
def connect : Game Id :=
  { game with client := Function.update game.client player true }

/-- `ProtocolGame::logout` of the player's client; a player in the game may not be allowed to. -/
def logout (player : Id) (refused : Bool) : Game Id :=
  if game.removed player then game
  else if refused then game
  else
    let game :=
      if game.spectating player ≠ none then game.setSpectating player none else game
    (game.releaseSpectators player).removeCreature player

def kickPlayer : Game Id :=
  if game.client player then game.logout player false else game.removeCreature player

/-- The destructor. -/
def destroy : Game Id :=
  let game := if game.spectating player ≠ none then game.setSpectating player none else game
  game.releaseSpectators player

end Game

inductive GameOp (Id : Type) where
  | setSpectating (player : Id) (target : Option Id)
  | connect (player : Id)
  | release (player : Id)
  | disconnect (player : Id)
  | logout (player : Id) (refused : Bool)
  | kickPlayer (player : Id)
  /-- A death, or any other removal. -/
  | removeCreature (player : Id)
  | destroy (player : Id)

def spectating (Id : Type) [DecidableEq Id] : System (Game Id) (GameOp Id) where
  legal game
    | .setSpectating player target =>
      game.removed player = false ∧ ∀ other, target = some other → game.removed other = false
    | .connect player => game.client player = false
    | .release player | .logout player _ => game.client player = true
    | .kickPlayer player | .removeCreature player => game.removed player = false
    | .destroy player => game.removed player = true ∧ game.client player = false
    | .disconnect _ => True
  step game
    | .setSpectating player target => game.setSpectating player target
    | .connect player => game.connect player
    | .release player => game.release player
    | .disconnect player => game.disconnect player
    | .logout player refused => game.logout player refused
    | .kickPlayer player => game.kickPlayer player
    | .removeCreature player => game.removeCreature player
    | .destroy player => game.destroy player

end Otserv.Spectating
