import Otserv.Foundation.Runs

/-!
# Guilds and their chat channels

A guild has ranks and a list of its members in the game; a player points to its guild and to a
rank of it. The chat keeps a channel with its users for a guild, from the first time a member asks
for the list of channels, and finds it by the pointer of the player who asks.

A guild is known by its number, since the game has one guild of a number; that a script takes a
guild from the game is left out. Buffs, messages, the other channels, and the list of all members
that comes from the database are left out too. A player is known by its creature, which is another
one each time it logs in.
-/

namespace Otserv.Guilds

open Foundation

structure GuildRank where
  id : Nat
  isDefault : Bool
deriving DecidableEq

structure Guild where
  ranks : List GuildRank := []
  membersOnline : List Nat := []
deriving DecidableEq

structure Player where
  guid : Nat := 0
  inGame : Bool := false
  guild : Option Nat := none
  guildRank : Option Nat := none
deriving DecidableEq

/-- What the database knows of a player's guild: its rank, and the row of the rank if the guild was
loaded without it. -/
structure Membership where
  guildId : Nat
  rankId : Nat
  rank : Option GuildRank := none
deriving DecidableEq

namespace Guild

variable (guild : Guild)

def getDefaultRank : Option GuildRank := guild.ranks.find? GuildRank.isDefault

def getRankById (rankId : Nat) : Option GuildRank := guild.ranks.find? fun rank => rank.id = rankId

def addRank (rank : GuildRank) : Guild := { guild with ranks := guild.ranks ++ [rank] }

/-- The first rank with the property changes. -/
def changeRank (which : GuildRank → Bool) (change : GuildRank → GuildRank) :
    List GuildRank → List GuildRank
  | [] => []
  | rank :: ranks =>
    if which rank then change rank :: ranks else rank :: changeRank which change ranks

/-- `Guild::editRank`: another default rank takes the place of the one there is. -/
def editRank (rankId : Nat) (isDefault : Bool) : Guild :=
  let ranks :=
    if isDefault then
      changeRank GuildRank.isDefault (fun rank => { rank with isDefault := false }) guild.ranks
    else guild.ranks
  { guild with
    ranks := changeRank (fun rank => rank.id = rankId)
      (fun rank => { rank with isDefault := isDefault }) ranks }

def addMember (player : Nat) : Guild :=
  { guild with membersOnline := guild.membersOnline ++ [player] }

def removeMember (player : Nat) : Guild :=
  { guild with membersOnline := guild.membersOnline.filter (· ≠ player) }

end Guild

/-- The guilds, the players, and the users of the guild channels. -/
structure World where
  guilds : Nat → Option Guild := fun _ => none
  players : Nat → Player := fun _ => {}
  guildChannels : Nat → Option (List Nat) := fun _ => none

namespace World

variable (world : World) (player : Nat)

def setPlayer (value : Player) : World :=
  { world with players := Function.update world.players player value }

variable (guildId : Nat)

/-- A guild of the game changes. -/
def modifyGuild (change : Guild → Guild) : World :=
  { world with
    guilds := Function.update world.guilds guildId ((world.guilds guildId).map change) }

def setChannel (users : Option (List Nat)) : World :=
  { world with guildChannels := Function.update world.guildChannels guildId users }

/-- `Game::addGuild`. -/
def addGuild (guildId : Nat) (ranks : List GuildRank) : World :=
  { world with guilds := Function.update world.guilds guildId (some { ranks := ranks }) }

/-! ## The chat -/

/-- `Chat::getChannel` of `CHANNEL_GUILD`: the guild's number and the users. -/
def getChannel (player : Nat) : Option (Nat × List Nat) :=
  match (world.players player).guild with
  | none => none
  | some guildId => (world.guildChannels guildId).map fun users => (guildId, users)

/-- `Chat::createChannel` of `CHANNEL_GUILD`. -/
def createChannel (player : Nat) : World :=
  if (world.getChannel player).isSome then world
  else match (world.players player).guild with
    | none => world
    | some guildId =>
      if (world.guildChannels guildId).isSome then world else world.setChannel guildId (some [])

/-- `Chat::getChannelList`: what it does with guild channels. -/
def getChannelList (player : Nat) : World :=
  if (world.players player).guild.isSome then
    if (world.getChannel player).isSome then world else world.createChannel player
  else world

/-- `Chat::addUserToChannel` of `CHANNEL_GUILD`, a channel without a script. -/
def addUserToChannel (player : Nat) : World :=
  match world.getChannel player with
  | none => world
  | some (guildId, users) =>
    if player ∈ users then world else world.setChannel guildId (some (player :: users))

/-- `ChatChannel::getOwner` of a guild channel. -/
def channelOwner : Nat := 0

/-- `Chat::deleteChannel` of `CHANNEL_GUILD`. -/
def deleteChannel (player : Nat) : World :=
  match (world.players player).guild with
  | none => world
  | some guildId => world.setChannel guildId none

/-- `Chat::removeUserFromChannel` of `CHANNEL_GUILD`. -/
def removeUserFromChannel (player : Nat) : World :=
  match world.getChannel player with
  | none => world
  | some (guildId, users) =>
    if player ∈ users then
      let world := world.setChannel guildId (some (users.filter (· ≠ player)))
      if channelOwner = (world.players player).guid then world.deleteChannel player else world
    else world

/-- `Chat::removeUserFromAllChannels`. -/
def removeUserFromAllChannels (player : Nat) : World :=
  { world with
    guildChannels := fun guildId =>
      (world.guildChannels guildId).map fun users => users.filter (· ≠ player) }

/-! ## Players -/

/-- `IOLoginData::loadPlayer`: the guild and its rank, which the guild may get with it. -/
def loadGuild (player guid : Nat) (membership : Option Membership) : World :=
  match membership with
  | none => world.setPlayer player { guid := guid }
  | some membership =>
    match world.guilds membership.guildId with
    | none => world.setPlayer player { guid := guid }
    | some guild =>
      let guild :=
        if (guild.getRankById membership.rankId).isNone then
          membership.rank.elim guild guild.addRank
        else guild
      (world.modifyGuild membership.guildId fun _ => guild).setPlayer player
        { guid := guid
          guild := some membership.guildId
          guildRank := (guild.getRankById membership.rankId).map GuildRank.id }

/-- `Player::onCreatureAppear`: the guild. -/
def onCreatureAppear (player : Nat) : World :=
  let world := world.setPlayer player { world.players player with inGame := true }
  match (world.players player).guild with
  | none => world
  | some guildId => world.modifyGuild guildId fun guild => guild.addMember player

/-- A player logs in. -/
def login (player guid : Nat) (membership : Option Membership) : World :=
  (world.loadGuild player guid membership).onCreatureAppear player

/-- `Player::onRemoveCreature`: the channels and the guild. -/
def onRemoveCreature (player : Nat) : World :=
  let world := world.removeUserFromAllChannels player
  match (world.players player).guild with
  | none => world
  | some guildId => world.modifyGuild guildId fun guild => guild.removeMember player

/-- A player logs out. -/
def logout : World :=
  let world := world.onRemoveCreature player
  world.setPlayer player { world.players player with inGame := false }

/-- The old guild at the end of `Player::setGuild`. -/
def leaveGuild (oldGuild : Option Nat) : World :=
  match oldGuild with
  | none => world
  | some guildId => world.modifyGuild guildId fun guild => guild.removeMember player

/-- `Guild::getDefaultRank`. -/
def getDefaultRank (guildId : Nat) : Option GuildRank :=
  (world.guilds guildId).bind Guild.getDefaultRank

/-- `Player::setGuild`. -/
def setGuild (player : Nat) (guild : Option Nat) : World :=
  let oldGuild := (world.players player).guild
  if guild = oldGuild then world
  else
    let world :=
      world.setPlayer player { world.players player with guild := none, guildRank := none }
    match guild with
    | none => world.leaveGuild player oldGuild
    | some guildId =>
      match world.getDefaultRank guildId with
      | none => world
      | some rank =>
        let world := world.setPlayer player
          { world.players player with guild := some guildId, guildRank := some rank.id }
        (world.modifyGuild guildId fun guild => guild.addMember player).leaveGuild player
          oldGuild

/-- `LuaScriptInterface::luaPlayerSetGuildRank`. -/
def setGuildRank (player rankId : Nat) : World :=
  match (world.players player).guild.bind world.guilds with
  | none => world
  | some guild =>
    match guild.getRankById rankId with
    | none => world
    | some rank => world.setPlayer player { world.players player with guildRank := some rank.id }

def membersOnline : List Nat :=
  (world.guilds guildId).elim [] Guild.membersOnline

def channelUsers : List Nat := (world.guildChannels guildId).getD []

end World

inductive GuildOp where
  | addGuild (guildId : Nat) (ranks : List GuildRank)
  | addRank (guildId : Nat) (rank : GuildRank)
  | editRank (guildId rankId : Nat) (isDefault : Bool)
  | login (player guid : Nat) (membership : Option Membership)
  | logout (player : Nat)
  | setGuild (player : Nat) (guild : Option Nat)
  | setGuildRank (player rankId : Nat)
  | getChannelList (player : Nat)
  | createChannel (player : Nat)
  | addUserToChannel (player : Nat)
  | removeUserFromChannel (player : Nat)

namespace GuildOp

/-- A guild is added where there is none of its number; players who are in the game, and they
alone, do other things than to log in. -/
def Legal (world : World) : GuildOp → Prop
  | addGuild guildId _ => world.guilds guildId = none
  | addRank _ _ | editRank _ _ _ => True
  | login player _ _ => (world.players player).inGame = false
  | setGuild player guild =>
    (world.players player).inGame = true ∧ ∀ guildId ∈ guild, (world.guilds guildId).isSome
  | logout player | setGuildRank player _ | getChannelList player | createChannel player
  | addUserToChannel player | removeUserFromChannel player =>
    (world.players player).inGame = true

instance decidableLegal (world : World) : ∀ op, Decidable (Legal world op)
  | addGuild _ _ => inferInstanceAs (Decidable (_ = _))
  | addRank _ _ | editRank _ _ _ => .isTrue trivial
  | setGuild _ guild =>
    inferInstanceAs (Decidable (_ ∧ ∀ guildId ∈ guild, (world.guilds guildId).isSome))
  | login _ _ _ | logout _ | setGuildRank _ _ | getChannelList _ | createChannel _
  | addUserToChannel _ | removeUserFromChannel _ => inferInstanceAs (Decidable (_ = _))

def apply (world : World) : GuildOp → World
  | addGuild guildId ranks => world.addGuild guildId ranks
  | addRank guildId rank => world.modifyGuild guildId fun guild => guild.addRank rank
  | editRank guildId rankId isDefault =>
    world.modifyGuild guildId fun guild => guild.editRank rankId isDefault
  | login player guid membership => world.login player guid membership
  | logout player => world.logout player
  | setGuild player guild => world.setGuild player guild
  | setGuildRank player rankId => world.setGuildRank player rankId
  | getChannelList player => world.getChannelList player
  | createChannel player => world.createChannel player
  | addUserToChannel player => world.addUserToChannel player
  | removeUserFromChannel player => world.removeUserFromChannel player

end GuildOp

def guildSystem : System World GuildOp where
  legal := GuildOp.Legal
  step := GuildOp.apply

instance (world : World) (op : GuildOp) : Decidable (guildSystem.legal world op) :=
  GuildOp.decidableLegal world op

end Otserv.Guilds
