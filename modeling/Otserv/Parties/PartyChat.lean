import Mathlib.Data.List.Basic

/-!
# Parties and their chat channels

A party has a leader, members and invitees; a player points to the party it is in.
The chat keeps a channel with its users for a party, from the first time a player
of the party asks for the list of channels, and finds it by the pointer of the
player who asks.

A party is known by its address; an address may be used again after the party was
deleted. Messages, icons, shared experience and the other channels are left out.
What the scripts of the events answer is an argument.
-/

namespace Otserv.Parties

structure Player where
  id : UInt32
  guid : UInt32
deriving DecidableEq

structure Party where
  leader : Player
  memberList : List Player := []
  inviteList : List Player := []
deriving DecidableEq

/-- The leader or a member. -/
def Party.has (player : Player) (party : Party) : Prop :=
  player = party.leader ∨ player ∈ party.memberList

instance (player : Player) (party : Party) : Decidable (party.has player) :=
  inferInstanceAs (Decidable (_ ∨ _))

def Party.empty (party : Party) : Bool := party.memberList.isEmpty && party.inviteList.isEmpty

/-- The parties that exist, the players' pointers and invitations, and the party
channels with their users. -/
structure World where
  parties : Nat → Option Party := fun _ => none
  partyOf : Player → Option Nat := fun _ => none
  invitePartyList : Player → List Nat := fun _ => []
  partyChannels : Nat → Option (List Player) := fun _ => none

namespace World

def getParty (player : Player) (world : World) : Option Nat := world.partyOf player

def setParty (party : Option Nat) (player : Player) (world : World) : World :=
  { world with partyOf := Function.update world.partyOf player party }

variable (address : Nat)

def setPartyAt (party : Option Party) (world : World) : World :=
  { world with parties := Function.update world.parties address party }

def setChannel (users : Option (List Player)) (world : World) : World :=
  { world with partyChannels := Function.update world.partyChannels address users }

/-- `Player::addPartyInvitation`. -/
def addPartyInvitation (address : Nat) (player : Player) (world : World) : World :=
  if address ∈ world.invitePartyList player then world
  else
    { world with
      invitePartyList := Function.update world.invitePartyList player
        (address :: world.invitePartyList player) }

/-- `Player::removePartyInvitation`. -/
def removePartyInvitation (address : Nat) (player : Player) (world : World) : World :=
  { world with
    invitePartyList := Function.update world.invitePartyList player
      ((world.invitePartyList player).filter (· ≠ address)) }

/-! ## The chat -/

/-- `Chat::getChannel` of `CHANNEL_PARTY`: the address and the users. -/
def getChannel (player : Player) (world : World) : Option (Nat × List Player) :=
  match world.getParty player with
  | none => none
  | some address => (world.partyChannels address).map fun users => (address, users)

/-- `Chat::createChannel` of `CHANNEL_PARTY`. -/
def createChannel (player : Player) (world : World) : World :=
  if (world.getChannel player).isSome then world
  else match world.getParty player with
    | none => world
    | some address =>
      if (world.partyChannels address).isSome then world else world.setChannel address (some [])

/-- `Chat::getChannelList`: what it does with party channels. -/
def getChannelList (player : Player) (world : World) : World :=
  if (world.getParty player).isSome then
    if (world.getChannel player).isSome then world else world.createChannel player
  else world

/-- `Chat::addUserToChannel`, where the script lets the player join or not. -/
def addUserToChannel (onJoin : Bool) (player : Player) (world : World) : World :=
  match world.getChannel player with
  | none => world
  | some (address, users) =>
    if player ∈ users then world
    else if !onJoin then world
    else world.setChannel address (some (player :: users))

/-- `ChatChannel::getOwner` of a party channel. -/
def channelOwner : UInt32 := 0

/-- `Chat::deleteChannel` of `CHANNEL_PARTY`. -/
def deleteChannel (player : Player) (world : World) : World :=
  match world.getParty player with
  | none => world
  | some address => world.setChannel address none

/-- `Chat::removeUserFromChannel` of `CHANNEL_PARTY`. -/
def removeUserFromChannel (player : Player) (world : World) : World :=
  match world.getChannel player with
  | none => world
  | some (address, users) =>
    if player ∈ users then
      let world := world.setChannel address (some (users.filter (· ≠ player)))
      if channelOwner = player.guid then world.deleteChannel player else world
    else world

/-- `Chat::removeUserFromAllChannels`. -/
def removeUserFromAllChannels (player : Player) (world : World) : World :=
  { world with
    partyChannels := fun address =>
      (world.partyChannels address).map fun users => users.filter (· ≠ player) }

/-- `ChatChannel::talk` in a party channel: who gets the message. -/
def talk (address : Nat) (fromPlayer : Player) (world : World) : List Player :=
  match world.partyChannels address with
  | none => []
  | some users => if fromPlayer ∈ users then users else []

/-- `Player::sendClosePrivate` of `CHANNEL_PARTY`. -/
def sendClosePrivate (player : Player) (world : World) : World :=
  world.removeUserFromChannel player

/-! ## Parties -/

/-- `Party::Party`. -/
def construct (leader : Player) (world : World) : World :=
  (world.setPartyAt address (some { leader := leader })).setParty (some address) leader

/-- A player's part in `disband`. -/
def dismiss (player : Player) (world : World) : World :=
  (world.setParty none player).sendClosePrivate player

/-- `Party::disband`. -/
def disband (onDisband : Bool) (address : Nat) (world : World) : World :=
  match world.parties address with
  | none => world
  | some party =>
    if !onDisband then world
    else
      let world := world.dismiss party.leader
      let world := party.inviteList.foldl
        (fun world invitee => world.removePartyInvitation address invitee) world
      let world := party.memberList.foldl (fun world member => world.dismiss member) world
      world.setPartyAt address none

/-- `Party::invitePlayer`. -/
def invitePlayer (address : Nat) (player : Player) (world : World) : World :=
  match world.parties address with
  | none => world
  | some party =>
    if player ∈ party.inviteList then world
    else
      (world.setPartyAt address
        (some { party with inviteList := party.inviteList ++ [player] })).addPartyInvitation
          address player

/-- `Party::joinParty`. -/
def joinParty (onJoin : Bool) (address : Nat) (player : Player) (world : World) : World :=
  match world.parties address with
  | none => world
  | some party =>
    if !onJoin then world
    else if player ∉ party.inviteList then world
    else
      let world := world.setPartyAt address (some { party with
        inviteList := party.inviteList.erase player
        memberList := party.memberList ++ [player] })
      (world.setParty (some address) player).removePartyInvitation address player

/-- `Party::removeInvite`. -/
def removeInvite (onDisband : Bool) (address : Nat) (player : Player) (removeFromPlayer : Bool)
    (world : World) : World :=
  match world.parties address with
  | none => world
  | some party =>
    if player ∉ party.inviteList then world
    else
      let party := { party with inviteList := party.inviteList.erase player }
      let world := world.setPartyAt address (some party)
      let world := if removeFromPlayer then world.removePartyInvitation address player else world
      if party.empty then world.disband onDisband address else world

/-- `Party::passPartyLeadership`. -/
def passPartyLeadership (address : Nat) (player : Player) (world : World) : World :=
  match world.parties address with
  | none => world
  | some party =>
    if party.leader = player ∨ world.getParty player ≠ some address then world
    else world.setPartyAt address (some { party with
      leader := player
      memberList := party.leader :: party.memberList.erase player })

end World

/-- The leader leaves and nobody is there to lead. -/
def Party.missingLeader (player : Player) (party : Party) : Bool :=
  party.leader = player ∧
    (party.memberList = [] ∨ party.memberList.length = 1 ∧ party.inviteList = [])

namespace World

/-- The leader who leaves passes the leadership to the first member. -/
def passOnLeaving (address : Nat) (player : Player) (world : World) : World :=
  match world.parties address with
  | none => world
  | some party =>
    if party.leader = player ∧ !party.missingLeader player then
      match party.memberList with
      | [] => world
      | front :: _ => world.passPartyLeadership address front
    else world

def eraseMember (address : Nat) (player : Player) (world : World) : World :=
  match world.parties address with
  | none => world
  | some party =>
    world.setPartyAt address (some { party with memberList := party.memberList.erase player })

/-- `Party::leaveParty`. -/
def leaveParty (onLeave onDisband : Bool) (address : Nat) (player : Player) (world : World) :
    World :=
  match world.parties address with
  | none => world
  | some party =>
    if world.getParty player ≠ some address ∧ party.leader ≠ player then world
    else if !onLeave then world
    else
      let world := world.passOnLeaving address player
      let world := world.eraseMember address player
      let world := (world.setParty none player).sendClosePrivate player
      if party.missingLeader player ∨ (world.parties address).any Party.empty then
        world.disband onDisband address
      else world

end World

end Otserv.Parties
