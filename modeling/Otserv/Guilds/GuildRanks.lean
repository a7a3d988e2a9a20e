import Otserv.Foundation.Runs

/-!
# Ranks and members of a guild

A guild has its ranks in a vector that only grows: a rank that is removed is marked. A member is
recorded with the name of its rank, so whoever renames a rank renames it with the members, too.
The number of members is counted beside the records.

What scripts do to ranks and members is modelled, from a guild as it is loaded. Who is online,
wars and the rest of a guild are not looked into here.
-/

namespace Otserv.GuildRanks

open Foundation

structure GuildRank where
  id : UInt32
  name : String
  permissions : Int32
  isDefault : Bool
  leader : Bool := false
  removed : Bool := false
deriving DecidableEq

structure GuildMember where
  guid : UInt32
  vocationId : UInt32
  name : String
  rank : String
  level : UInt32
  lastLogin : UInt64
  contribution : UInt64 := 0
deriving DecidableEq

/-- A record of a member, when the name of a rank is changed. -/
def GuildMember.renamed (old new : String) (member : GuildMember) : GuildMember :=
  if member.rank ≠ new ∧ member.rank = old then { member with rank := new } else member

structure Guild where
  ranks : List GuildRank := []
  members : List GuildMember := []
  memberCount : UInt32 := 0
deriving DecidableEq

namespace Guild

variable (guild : Guild) (rankId : UInt32)

def getRankById : Option GuildRank :=
  guild.ranks.find? fun rank => rank.id = rankId

def getRankByName (name : String) : Option GuildRank :=
  guild.ranks.find? fun rank => rank.name = name

/-- A loop that changes the first rank of a kind. -/
def changeRank (which : GuildRank → Bool) (change : GuildRank → GuildRank) : Guild :=
  match guild.ranks.findIdx? which with
  | some place => { guild with ranks := guild.ranks.modify place change }
  | none => guild

def addRank (rankName : String) (permissions : Int32) (isDefault leader : Bool) : Guild :=
  { guild with
    ranks := guild.ranks ++ [{ id := rankId, name := rankName, permissions, isDefault, leader }] }

/-- The default goes to another rank before it is known whether there is one. -/
def editRank (rankName : String) (permissions : Int32) (isDefault : Bool) : Guild :=
  let guild :=
    if isDefault then guild.changeRank (·.isDefault) fun rank => { rank with isDefault := false }
    else guild
  match guild.getRankById rankId with
  | some rank =>
    { guild.changeRank (·.id = rankId) fun rank =>
        { rank with name := rankName, permissions, isDefault } with
      members := guild.members.map (GuildMember.renamed rank.name rankName) }
  | none => guild

def removeRank : Guild :=
  match guild.getRankById rankId with
  | some rank =>
    if rank.isDefault then guild
    else guild.changeRank (·.id = rankId) fun rank => { rank with removed := true }
  | none => guild

def addMember (member : GuildMember) : Guild :=
  { guild with
    members := guild.members ++ [member]
    memberCount := guild.memberCount + 1 }

/-- The number is lessened by one, whatever is erased. -/
def removeMember (guid : UInt32) : Guild :=
  { guild with
    members := guild.members.filter (·.guid ≠ guid)
    memberCount := guild.memberCount - 1 }

/-- The rank exists. -/
def setMemberRank (guid rankId : UInt32) : Guild :=
  match guild.members.findIdx? (·.guid = guid), guild.getRankById rankId with
  | some place, some rank =>
    { guild with
      members := guild.members.modify place fun member => { member with rank := rank.name } }
  | _, _ => guild

def getMemberRank (guid : UInt32) : Option GuildRank :=
  match guild.members.find? (·.guid = guid) with
  | some member => guild.getRankByName member.rank
  | none => none

end Guild

/-! ## Loading -/

/-- A row of `guild_ranks`. -/
structure RankRow where
  id : UInt32
  name : String
  permissions : Int32
  isDefault : Bool
  leader : Bool

/-- A row of `guild_members` with what is known of the player. -/
structure MemberRow where
  id : UInt32
  name : String
  vocation : UInt32
  level : UInt32
  lastlogin : UInt64
  rankId : UInt32
  contribution : UInt64

/-- The rank of the row exists. -/
def MemberRow.member (row : MemberRow) (guild : Guild) : GuildMember where
  guid := row.id
  vocationId := row.vocation
  name := row.name
  rank := ((guild.getRankById row.rankId).map (·.name)).getD ""
  level := row.level
  lastLogin := row.lastlogin
  contribution := row.contribution

/-- What `Game::loadGuilds` makes of the rows of a guild. -/
def Guild.load (ranks : List RankRow) (members : List MemberRow) : Guild :=
  let guild := ranks.foldl (fun guild row =>
    guild.addRank row.id row.name row.permissions row.isDefault row.leader) ({} : Guild)
  members.foldl (fun guild row => guild.addMember (row.member guild)) guild

/-! ## Operations -/

/-- A guild, and the rank that was last given to each member. Ranks are only added to the vector
at its end, so a place in it is a rank. -/
structure State where
  guild : Guild
  given : UInt32 → Option Nat

inductive Op where
  | addRank (rankId : UInt32) (rankName : String) (permissions : Int32) (isDefault leader : Bool)
  | editRank (rankId : UInt32) (rankName : String) (permissions : Int32) (isDefault : Bool)
  | removeRank (rankId : UInt32)
  | addMember (member : GuildMember)
  | removeMember (guid : UInt32)
  | setMemberRank (guid rankId : UInt32)

namespace State

/-- The place of a rank by its name. -/
def place (state : State) (name : String) : Option Nat :=
  state.guild.ranks.findIdx? fun rank => rank.name = name

/-- A guild that is loaded, where each row of a member gives it a rank. -/
def load (ranks : List RankRow) (members : List MemberRow) : State where
  guild := .load ranks members
  given guid := (members.find? (·.id = guid)).bind fun row =>
    ranks.findIdx? fun rank => rank.id = row.rankId

def apply (state : State) : Op → State
  | .addRank rankId rankName permissions isDefault leader =>
    { state with guild := state.guild.addRank rankId rankName permissions isDefault leader }
  | .editRank rankId rankName permissions isDefault =>
    { state with guild := state.guild.editRank rankId rankName permissions isDefault }
  | .removeRank rankId => { state with guild := state.guild.removeRank rankId }
  | .addMember member =>
    { guild := state.guild.addMember member
      given := Function.update state.given member.guid (state.place member.rank) }
  | .removeMember guid =>
    { guild := state.guild.removeMember guid
      given := Function.update state.given guid none }
  | .setMemberRank guid rankId =>
    { guild := state.guild.setMemberRank guid rankId
      given := Function.update state.given guid
        (state.guild.ranks.findIdx? fun rank => rank.id = rankId) }

end State

/-- A member is set to a rank that exists. -/
def Op.Legal (state : State) : Op → Prop
  | .setMemberRank _ rankId => (state.guild.getRankById rankId).isSome
  | _ => True

def rankSystem : System State Op where
  legal state op := op.Legal state
  step := State.apply

end Otserv.GuildRanks
