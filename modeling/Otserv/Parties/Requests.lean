import Otserv.Foundation.Runs
import Otserv.Parties.PartyChat

/-!
# Requests about parties

The game finds the players of a request by their ids, and checks what they ask for before
it lets the party do it. A player who is removed from the game gives up every invitation
and leaves the party.

The scripts of the events allow what is asked for. Whether a player fights outside a
protection zone, who may not leave a party then, is an argument of the request.
-/

namespace Otserv.Parties

open Foundation

/-- The parties and the players in the game, by their ids. -/
structure Game extends World where
  players : UInt32 → Option Player := fun _ => none

namespace World

variable (world : World)

/-- `Player::isInviting`. -/
def isInviting (leader player : Player) : Bool :=
  match (world.getParty leader).bind world.parties with
  | none => false
  | some party => party.leader = leader ∧ player ∈ party.inviteList

/-- `Player::isPartner`. -/
def isPartner (player other : Player) : Bool :=
  (world.getParty player).isSome ∧ player ≠ other ∧
    world.getParty player = world.getParty other

/-- The party's leader is the player. -/
def leads (address : Nat) (player : Player) : Bool :=
  (world.parties address).any fun party => party.leader = player

/-- `Player::clearPartyInvitations`. -/
def clearPartyInvitations (player : Player) : World :=
  let world := (world.invitePartyList player).foldl
    (fun world address => world.removeInvite true address player false) world
  { world with invitePartyList := Function.update world.invitePartyList player [] }

/-- The part of `Player::onRemoveCreature` about parties and their channels. -/
def onRemoveCreature (player : Player) : World :=
  let world := world.clearPartyInvitations player
  let world :=
    match world.getParty player with
    | none => world
    | some address => world.leaveParty true true address player
  world.removeUserFromAllChannels player

variable (player invitedPlayer : Player)

/-- What `Game::playerInviteToParty` does with the players; a party that is made gets the
address. -/
def inviteToParty (address : Nat) : World :=
  if world.isInviting invitedPlayer player then world
  else if (world.getParty invitedPlayer).isSome then world
  else
    match world.getParty player with
    | none => (world.construct address player).invitePlayer address invitedPlayer
    | some party =>
      if world.leads party player then world.invitePlayer party invitedPlayer else world

/-- What `Game::playerJoinParty` does with the players. -/
def join (player leader : Player) : World :=
  if !world.isInviting leader player then world
  else
    match world.getParty leader with
    | none => world
    | some party =>
      if !world.leads party leader then world
      else if (world.getParty player).isSome then world
      else world.joinParty true party player

/-- What `Game::playerRevokePartyInvitation` does with the players. -/
def revokePartyInvitation : World :=
  match world.getParty player with
  | none => world
  | some party =>
    if !world.leads party player then world
    else if !world.isInviting player invitedPlayer then world
    else world.removeInvite true party invitedPlayer true

/-- What `Game::playerPassPartyLeadership` does with the players. -/
def passLeadership (player newLeader : Player) : World :=
  match world.getParty player with
  | none => world
  | some party =>
    if !world.leads party player then world
    else if !world.isPartner player newLeader then world
    else world.passPartyLeadership party newLeader

/-- What `Game::playerLeaveParty` does with the player. -/
def leave (player : Player) (fights : Bool) : World :=
  match world.getParty player with
  | none => world
  | some party => if fights then world else world.leaveParty true true party player

end World

namespace Game

variable (game : Game)

/-- Runs a request of a player about another; both have to be in the game. -/
def withPlayers (playerId otherId : UInt32) (request : Player → Player → World) : Game :=
  match game.players playerId, game.players otherId with
  | some player, some other => { game with toWorld := request player other }
  | _, _ => game

/-- `Game::playerInviteToParty`. -/
def playerInviteToParty (playerId invitedId : UInt32) (address : Nat) : Game :=
  if playerId = invitedId then game
  else game.withPlayers playerId invitedId fun player invitedPlayer =>
    game.inviteToParty player invitedPlayer address

/-- `Game::playerJoinParty`. -/
def playerJoinParty (playerId leaderId : UInt32) : Game :=
  game.withPlayers playerId leaderId game.join

/-- `Game::playerRevokePartyInvitation`. -/
def playerRevokePartyInvitation (playerId invitedId : UInt32) : Game :=
  game.withPlayers playerId invitedId game.revokePartyInvitation

/-- `Game::playerPassPartyLeadership`. -/
def playerPassPartyLeadership (playerId newLeaderId : UInt32) : Game :=
  game.withPlayers playerId newLeaderId game.passLeadership

/-- `Game::playerLeaveParty`. -/
def playerLeaveParty (playerId : UInt32) (fights : Bool) : Game :=
  match game.players playerId with
  | none => game
  | some player => { game with toWorld := game.leave player fights }

/-- A player gives up every invitation. -/
def clearPartyInvitations (playerId : UInt32) : Game :=
  match game.players playerId with
  | none => game
  | some player => { game with toWorld := game.toWorld.clearPartyInvitations player }

/-- A new player comes into the game. -/
def login (player : Player) : Game where
  toWorld := { game.toWorld with
    partyOf := Function.update game.partyOf player none
    invitePartyList := Function.update game.invitePartyList player [] }
  players := Function.update game.players player.id (some player)

/-- A player is removed from the game. -/
def logout (playerId : UInt32) : Game :=
  match game.players playerId with
  | none => game
  | some player =>
    { toWorld := game.onRemoveCreature player
      players := Function.update game.players playerId none }

end Game

/-! ## Runs -/

inductive Request where
  | inviteToParty (playerId invitedId : UInt32) (address : Nat)
  | joinParty (playerId leaderId : UInt32)
  | revokePartyInvitation (playerId invitedId : UInt32)
  | passPartyLeadership (playerId newLeaderId : UInt32)
  | leaveParty (playerId : UInt32) (fights : Bool)
  | clearPartyInvitations (playerId : UInt32)
  | login (player : Player)
  | logout (playerId : UInt32)

/-- A party that is made gets an address at which there is none, and a player that comes
an id that nobody has. A player may also give up the invitations alone, so that a logout
may do its two parts in either order. -/
def gameSystem : System Game Request where
  legal game
    | .inviteToParty _ _ address => game.parties address = none
    | .login player => game.players player.id = none
    | _ => True
  step game
    | .inviteToParty playerId invitedId address =>
      game.playerInviteToParty playerId invitedId address
    | .joinParty playerId leaderId => game.playerJoinParty playerId leaderId
    | .revokePartyInvitation playerId invitedId =>
      game.playerRevokePartyInvitation playerId invitedId
    | .passPartyLeadership playerId newLeaderId =>
      game.playerPassPartyLeadership playerId newLeaderId
    | .leaveParty playerId fights => game.playerLeaveParty playerId fights
    | .clearPartyInvitations playerId => game.clearPartyInvitations playerId
    | .login player => game.login player
    | .logout playerId => game.logout playerId

end Otserv.Parties
