import Otserv.Foundation.Runs

/-!
# Private channels of the chat

A player with premium time may create one private channel, which has a number of its own between
100 and 9999. The players it invites may open it; they are invited by the numbers of their
characters, and are users by their creatures. A request names a channel by its number, and the
channels of the configuration are looked at before the private ones.

A private channel is the value of a map by its own number, so the map is the list of the channels
by rising numbers. Guild and party channels have their own numbers and stores and are left out, as
are names and messages that the server makes. What the scripts of the channels answer is an
argument.
-/

namespace Otserv.Chats

open Foundation

abbrev CHANNEL_GUILD : Nat := 0

abbrev CHANNEL_PARTY : Nat := 1

abbrev CHANNEL_PRIVATE : Nat := 65535

/-- A creature of a player, and the number of its character. -/
structure Player where
  inGame : Bool := false
  guid : Nat := 0
deriving DecidableEq

structure ChatChannel where
  id : Nat
  users : List Nat := []
deriving DecidableEq

structure PrivateChatChannel extends ChatChannel where
  owner : Nat
  invites : List Nat := []
deriving DecidableEq

namespace ChatChannel

variable (channel : ChatChannel)

/-- `ChatChannel::addUser`. -/
def addUser (onJoin : Bool) (player : Nat) : ChatChannel :=
  if player ∈ channel.users then channel
  else if !onJoin then channel
  else { channel with users := player :: channel.users }

/-- `ChatChannel::removeUser`. -/
def removeUser (player : Nat) : ChatChannel :=
  { channel with users := channel.users.filter (· ≠ player) }

/-- `ChatChannel::talk`: who gets the message. -/
def talk (fromPlayer : Nat) : List Nat :=
  if fromPlayer ∈ channel.users then channel.users else []

end ChatChannel

namespace PrivateChatChannel

variable (channel : PrivateChatChannel) (guid : Nat)

def isInvited : Bool := guid = channel.owner ∨ guid ∈ channel.invites

def removeInvite : PrivateChatChannel :=
  { channel with invites := channel.invites.filter (· ≠ guid) }

/-- `ChatChannel::addUser`, with no script. -/
def addUser (player : Nat) : PrivateChatChannel :=
  { channel with toChatChannel := channel.toChatChannel.addUser true player }

def removeUser (player : Nat) : PrivateChatChannel :=
  { channel with toChatChannel := channel.toChatChannel.removeUser player }

def invitePlayer : PrivateChatChannel :=
  if guid ∈ channel.invites then channel else { channel with invites := guid :: channel.invites }

def excludePlayer (player guid : Nat) : PrivateChatChannel :=
  if guid ∈ channel.invites then (channel.removeInvite guid).removeUser player else channel

end PrivateChatChannel

structure Chat where
  players : Nat → Player := fun _ => {}
  normalChannels : List ChatChannel := []
  privateChannels : List PrivateChatChannel := []

namespace Chat

variable (chat : Chat) (player : Nat)

def guid : Nat := (chat.players player).guid

variable (channelId : Nat)

def normalChannel : Option ChatChannel :=
  chat.normalChannels.find? fun channel => channel.id = channelId

def modifyNormal (change : ChatChannel → ChatChannel) : Chat :=
  { chat with
    normalChannels := chat.normalChannels.map fun channel =>
      if channel.id = channelId then change channel else channel }

def modifyPrivate (change : PrivateChatChannel → PrivateChatChannel) : Chat :=
  { chat with
    privateChannels := chat.privateChannels.map fun channel =>
      if channel.id = channelId then change channel else channel }

/-- A channel that `Chat::getChannel` finds. -/
inductive Found where
  | normal (channel : ChatChannel)
  | priv (channel : PrivateChatChannel)

/-- `Chat::getChannel`, but for guilds and parties. -/
def getChannel (canJoin : Bool) (player channelId : Nat) : Option Found :=
  if channelId = CHANNEL_GUILD ∨ channelId = CHANNEL_PARTY then none
  else match chat.normalChannel channelId with
    | some channel => if canJoin then some (.normal channel) else none
    | none =>
      match chat.privateChannels.find? fun channel => channel.id = channelId with
      | some channel => if channel.isInvited (chat.guid player) then some (.priv channel) else none
      | none => none

def getPrivateChannel : Option PrivateChatChannel :=
  chat.privateChannels.find? fun channel => channel.owner = chat.guid player

/-- The loop of `Chat::createChannel` that finds a free number. -/
def freeSlot : Option Nat :=
  (List.range' 100 9900).find? fun i => ∀ channel ∈ chat.privateChannels, channel.id ≠ i

/-- `Chat::createChannel` of `CHANNEL_PRIVATE`: the new channel. -/
def createChannel (canJoin isPremium : Bool) (player : Nat) : Option PrivateChatChannel :=
  if (chat.getChannel canJoin player CHANNEL_PRIVATE).isSome then none
  else if !isPremium || (chat.getPrivateChannel player).isSome then none
  else chat.freeSlot.map fun i => { id := i, owner := chat.guid player }

variable (channel : PrivateChatChannel)

def emplace : Chat :=
  { chat with
    privateChannels :=
      chat.privateChannels.orderedInsert (fun left right => left.id ≤ right.id) channel }

/-- `Chat::deleteChannel` of another channel than those of guilds and parties. -/
def deleteChannel (channelId : Nat) : Chat :=
  { chat with
    privateChannels := chat.privateChannels.filter fun channel => channel.id ≠ channelId }

/-- `Chat::addUserToChannel`. -/
def addUserToChannel (canJoin onJoin : Bool) (player channelId : Nat) : Chat :=
  match chat.getChannel canJoin player channelId with
  | none => chat
  | some (.normal _) => chat.modifyNormal channelId fun channel => channel.addUser onJoin player
  | some (.priv _) => chat.modifyPrivate channelId fun channel => channel.addUser player

/-- `ChatChannel::getOwner`. -/
def Found.owner : Found → Nat
  | .normal _ => 0
  | .priv channel => channel.owner

def Found.users : Found → List Nat
  | .normal channel => channel.users
  | .priv channel => channel.users

/-- The channel that was found loses a user. -/
def removeUser (player channelId : Nat) : Found → Chat
  | .normal _ => chat.modifyNormal channelId fun channel => channel.removeUser player
  | .priv _ => chat.modifyPrivate channelId fun channel => channel.removeUser player

/-- `Chat::removeUserFromChannel`. -/
def removeUserFromChannel (canJoin : Bool) (player channelId : Nat) : Chat :=
  match chat.getChannel canJoin player channelId with
  | none => chat
  | some found =>
    if player ∈ found.users then
      let chat := chat.removeUser player channelId found
      if found.owner = chat.guid player then chat.deleteChannel channelId else chat
    else chat

/-- What `Chat::removeUserFromAllChannels` does to a private channel. -/
def leave : Option PrivateChatChannel :=
  let channel := (channel.removeInvite (chat.guid player)).removeUser player
  if channel.owner = chat.guid player then none else some channel

/-- `Chat::removeUserFromAllChannels`. -/
def removeUserFromAllChannels (player : Nat) : Chat :=
  { chat with
    normalChannels := chat.normalChannels.map fun channel => channel.removeUser player
    privateChannels := chat.privateChannels.filterMap (chat.leave player) }

/-- `Chat::talkToChannel`: who gets the message. -/
def talkToChannel (canJoin onSpeak : Bool) (player channelId : Nat) : List Nat :=
  match chat.getChannel canJoin player channelId with
  | none => []
  | some (.normal channel) => if onSpeak then channel.talk player else []
  | some (.priv channel) => channel.talk player

/-- `Chat::load`: one channel of the file, which may be there already, and whose users join
again. -/
def load (channelId : Nat) (onJoin : Nat → Bool) : Chat :=
  match chat.normalChannel channelId with
  | none => { chat with normalChannels := { id := channelId } :: chat.normalChannels }
  | some _ =>
    chat.modifyNormal channelId fun channel =>
      { channel with users := channel.users.filter onJoin }

/-! ## Requests of players -/

/-- `Game::playerCreatePrivateChannel`. -/
def playerCreatePrivateChannel (canJoin isPremium : Bool) (player : Nat) : Chat :=
  if !isPremium then chat
  else match chat.createChannel canJoin isPremium player with
    | none => chat
    | some channel => chat.emplace (channel.addUser player)

/-- `Game::playerChannelInvite`, of a player of the game. -/
def playerChannelInvite (player invitePlayer : Nat) : Chat :=
  match chat.getPrivateChannel player with
  | none => chat
  | some channel =>
    if player = invitePlayer then chat
    else chat.modifyPrivate channel.id fun channel =>
      channel.invitePlayer (chat.guid invitePlayer)

/-- `Game::playerChannelExclude`, of a player of the game. -/
def playerChannelExclude (player excludePlayer : Nat) : Chat :=
  match chat.getPrivateChannel player with
  | none => chat
  | some channel =>
    if player = excludePlayer then chat
    else chat.modifyPrivate channel.id fun channel =>
      channel.excludePlayer excludePlayer (chat.guid excludePlayer)

def setPlayer (value : Player) : Chat :=
  { chat with players := Function.update chat.players player value }

/-- A player leaves the game. -/
def logout : Chat :=
  let chat := chat.removeUserFromAllChannels player
  chat.setPlayer player { chat.players player with inGame := false }

end Chat

inductive ChatOp where
  | login (player guid : Nat)
  | logout (player : Nat)
  /-- Another client takes over the player (`ProtocolGame::connect`). -/
  | connect (player : Nat)
  | load (channelId : Nat) (onJoin : Nat → Bool)
  | createPrivateChannel (canJoin isPremium : Bool) (player : Nat)
  | channelInvite (player invitePlayer : Nat)
  | channelExclude (player excludePlayer : Nat)
  | openChannel (canJoin onJoin : Bool) (player channelId : Nat)
  | closeChannel (canJoin : Bool) (player channelId : Nat)

namespace ChatOp

/-- Players who are in the game ask; characters have numbers from one on, and a character may be
in the game more than once. -/
def Legal (chat : Chat) : ChatOp → Prop
  | login player guid => (chat.players player).inGame = false ∧ guid ≠ 0
  | load _ _ => True
  | channelInvite player other | channelExclude player other =>
    (chat.players player).inGame = true ∧ (chat.players other).inGame = true
  | logout player | connect player | createPrivateChannel _ _ player | openChannel _ _ player _
  | closeChannel _ player _ => (chat.players player).inGame = true

instance decidableLegal (chat : Chat) : ∀ op, Decidable (Legal chat op)
  | login _ _ => inferInstanceAs (Decidable (_ ∧ _))
  | load _ _ => .isTrue trivial
  | channelInvite _ _ | channelExclude _ _ => inferInstanceAs (Decidable (_ ∧ _))
  | logout _ | connect _ | createPrivateChannel _ _ _ | openChannel _ _ _ _
  | closeChannel _ _ _ => inferInstanceAs (Decidable (_ = _))

def apply (chat : Chat) : ChatOp → Chat
  | login player guid => chat.setPlayer player { inGame := true, guid := guid }
  | logout player => chat.logout player
  | connect player => chat.removeUserFromAllChannels player
  | load channelId onJoin => chat.load channelId onJoin
  | createPrivateChannel canJoin isPremium player =>
    chat.playerCreatePrivateChannel canJoin isPremium player
  | channelInvite player invitePlayer => chat.playerChannelInvite player invitePlayer
  | channelExclude player excludePlayer => chat.playerChannelExclude player excludePlayer
  | openChannel canJoin onJoin player channelId =>
    chat.addUserToChannel canJoin onJoin player channelId
  | closeChannel canJoin player channelId => chat.removeUserFromChannel canJoin player channelId

end ChatOp

def chatSystem : System Chat ChatOp where
  legal := ChatOp.Legal
  step := ChatOp.apply

instance (chat : Chat) (op : ChatOp) : Decidable (chatSystem.legal chat op) :=
  ChatOp.decidableLegal chat op

end Otserv.Chats
