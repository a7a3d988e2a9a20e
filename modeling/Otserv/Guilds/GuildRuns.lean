import Otserv.Guilds.Guild

/-!
# Guild membership over whole runs

The members online of a guild should be the players in the game who point to it, each once, and the
users of its channel should be among them; and a player without a guild should have no rank
(`Sound`).

A player who changes the guild stays a user of the old one's channel, and stays one of its members
online where the new guild has no default rank, since `Player::setGuild` returns before the old
guild is told (`guilds_sound_iff`).
-/

namespace Otserv.Guilds

open Foundation

structure Sound (world : World) : Prop where
  nodup : ∀ guildId, (world.membersOnline guildId).Nodup
  members : ∀ guildId player, player ∈ world.membersOnline guildId ↔
    (world.players player).inGame = true ∧ (world.players player).guild = some guildId
  users : ∀ guildId, ∀ user ∈ world.channelUsers guildId, user ∈ world.membersOnline guildId
  ranked : ∀ player, (world.players player).guild = none → (world.players player).guildRank = none

/-- A player who changes the guild uses no channel of the old one, and the new one has a default
rank. -/
def Orderly (world : World) : GuildOp → Prop
  | .setGuild player guild =>
    guild = (world.players player).guild ∨
      ∀ oldGuild ∈ (world.players player).guild, player ∉ world.channelUsers oldGuild ∧
        ∀ guildId ∈ guild, (world.getDefaultRank guildId).isSome
  | .addGuild _ _ | .addRank _ _ | .editRank _ _ _ | .login _ _ _ | .logout _ | .setGuildRank _ _
  | .getChannelList _ | .createChannel _ | .addUserToChannel _ | .removeUserFromChannel _ => True

/-! ## The three stores -/

namespace World

variable (world : World) {player other guildId : Nat} (value : Player)

@[simp] theorem players_setPlayer_self : (world.setPlayer player value).players player = value :=
  Function.update_self ..

theorem players_setPlayer_of_ne (apart : other ≠ player) (value : Player) :
    (world.setPlayer player value).players other = world.players other :=
  Function.update_of_ne apart ..

@[simp] theorem membersOnline_setPlayer :
    (world.setPlayer player value).membersOnline = world.membersOnline := rfl

@[simp] theorem channelUsers_setPlayer :
    (world.setPlayer player value).channelUsers = world.channelUsers := rfl

variable (change : Guild → Guild)

@[simp] theorem players_modifyGuild :
    (world.modifyGuild guildId change).players = world.players := rfl

@[simp] theorem channelUsers_modifyGuild :
    (world.modifyGuild guildId change).channelUsers = world.channelUsers := rfl

theorem guilds_modifyGuild (each : Nat) :
    (world.modifyGuild guildId change).guilds each =
      if each = guildId then (world.guilds each).map change else world.guilds each := by
  by_cases same : each = guildId
  · subst same
    rw [if_pos rfl]
    exact Function.update_self ..
  · rw [if_neg same]
    exact Function.update_of_ne same ..

theorem membersOnline_modifyGuild (each : Nat) :
    (world.modifyGuild guildId change).membersOnline each =
      if each = guildId then (world.guilds each).elim [] fun guild => (change guild).membersOnline
      else world.membersOnline each := by
  rw [membersOnline, guilds_modifyGuild]
  split
  · cases world.guilds each with
    | none => rfl
    | some guild => rfl
  · rfl

theorem membersOnline_modifyGuild_of_keeps {change : Guild → Guild}
    (keeps : ∀ guild ∈ world.guilds guildId, (change guild).membersOnline = guild.membersOnline) :
    (world.modifyGuild guildId change).membersOnline = world.membersOnline := by
  funext each
  rw [membersOnline_modifyGuild]
  split
  · rename_i same
    subst same
    rw [membersOnline]
    cases found : world.guilds each with
    | none => rfl
    | some guild => exact keeps guild found
  · rfl

theorem membersOnline_addMember (known : (world.guilds guildId).isSome) (each : Nat) :
    (world.modifyGuild guildId fun guild => guild.addMember player).membersOnline each =
      if each = guildId then world.membersOnline each ++ [player]
      else world.membersOnline each := by
  obtain ⟨guild, found⟩ := Option.isSome_iff_exists.mp known
  rw [membersOnline_modifyGuild]
  split
  · rename_i same
    subst same
    rw [membersOnline, found]
    rfl
  · rfl

variable (oldGuild : Option Nat)

theorem membersOnline_leaveGuild (each : Nat) :
    (world.leaveGuild player oldGuild).membersOnline each =
      if oldGuild = some each then (world.membersOnline each).filter (· ≠ player)
      else world.membersOnline each := by
  cases oldGuild with
  | none => rfl
  | some guildId =>
    rw [leaveGuild, membersOnline_modifyGuild]
    by_cases same : guildId = each
    · subst same
      rw [if_pos rfl, if_pos rfl, membersOnline]
      cases world.guilds guildId with
      | none => rfl
      | some guild => rfl
    · rw [if_neg (Ne.symm same), if_neg fun equal => same (Option.some.inj equal)]

@[simp] theorem players_leaveGuild :
    (world.leaveGuild player oldGuild).players = world.players := by
  cases oldGuild <;> rfl

@[simp] theorem channelUsers_leaveGuild :
    (world.leaveGuild player oldGuild).channelUsers = world.channelUsers := by
  cases oldGuild <;> rfl

theorem channelUsers_setChannel (users : Option (List Nat)) (each : Nat) :
    (world.setChannel guildId users).channelUsers each =
      if each = guildId then users.getD [] else world.channelUsers each := by
  by_cases same : each = guildId
  · subst same
    rw [if_pos rfl]
    exact congrArg (Option.getD · []) (Function.update_self ..)
  · rw [if_neg same]
    exact congrArg (Option.getD · []) (Function.update_of_ne same ..)

theorem mem_channelUsers_removeUserFromAllChannels {user each : Nat} :
    user ∈ (world.removeUserFromAllChannels player).channelUsers each ↔
      user ∈ world.channelUsers each ∧ user ≠ player := by
  change user ∈ ((world.guildChannels each).map _).getD [] ↔
    user ∈ (world.guildChannels each).getD [] ∧ user ≠ player
  cases world.guildChannels each with
  | none => simp
  | some users => simp

end World

/-! ## Steps -/

variable {world after : World} {player : Nat}

theorem Sound.of_users (sound : Sound world) (players : after.players = world.players)
    (members : after.membersOnline = world.membersOnline)
    (users : ∀ guildId, ∀ user ∈ after.channelUsers guildId, user ∈ world.membersOnline guildId) :
    Sound after where
  nodup := by
    rw [members]
    exact sound.nodup
  members := by
    rw [members, players]
    exact sound.members
  users := by
    rw [members]
    exact users
  ranked := by
    rw [players]
    exact sound.ranked

theorem Sound.of_player (player : Nat) (sound : Sound world)
    (others : ∀ other, other ≠ player → after.players other = world.players other)
    (nodup : ∀ guildId, (after.membersOnline guildId).Nodup)
    (kept : ∀ guildId other, other ≠ player →
      (other ∈ after.membersOnline guildId ↔ other ∈ world.membersOnline guildId))
    (member : ∀ guildId, player ∈ after.membersOnline guildId ↔
      (after.players player).inGame = true ∧ (after.players player).guild = some guildId)
    (users : ∀ guildId, ∀ user ∈ after.channelUsers guildId,
      user ∈ world.channelUsers guildId ∧ user ≠ player)
    (ranked : (after.players player).guild = none → (after.players player).guildRank = none) :
    Sound after where
  nodup := nodup
  members guildId other := by
    by_cases same : other = player
    · subst same
      exact member guildId
    · rw [kept guildId other same, others other same]
      exact sound.members guildId other
  users guildId user among := by
    obtain ⟨before, apart⟩ := users guildId user among
    exact (kept guildId user apart).mpr (sound.users guildId user before)
  ranked other := by
    by_cases same : other = player
    · subst same
      exact ranked
    · rw [others other same]
      exact sound.ranked other

section

variable (sound : Sound world)
include sound

variable {guildId : Nat} {value : Player}

theorem Sound.guild_of_user (among : player ∈ world.channelUsers guildId) :
    (world.players player).inGame = true ∧ (world.players player).guild = some guildId :=
  (sound.members guildId player).mp (sound.users guildId player among)

theorem sound_addGuild (ranks : List GuildRank)
    (new : world.guilds guildId = none) : Sound (world.addGuild guildId ranks) := by
  refine sound.of_users rfl ?_ sound.users
  funext each
  by_cases same : each = guildId
  · subst same
    have added : (world.addGuild each ranks).guilds each = some { ranks := ranks } :=
      Function.update_self ..
    rw [World.membersOnline, World.membersOnline, added, new]
    rfl
  · exact congrArg (Option.elim · [] Guild.membersOnline) (Function.update_of_ne same ..)

theorem sound_modifyGuild {change : Guild → Guild}
    (keeps : ∀ guild ∈ world.guilds guildId, (change guild).membersOnline = guild.membersOnline) :
    Sound (world.modifyGuild guildId change) :=
  sound.of_users rfl (world.membersOnline_modifyGuild_of_keeps keeps) sound.users

theorem sound_enter (known : (world.guilds guildId).isSome) (oldGuild : Option Nat)
    (only : ∀ each, player ∈ world.membersOnline each → oldGuild = some each)
    (idle : ∀ each, player ∉ world.channelUsers each) (moved : oldGuild ≠ some guildId)
    (present : value.inGame = true) (member : value.guild = some guildId) :
    Sound (((world.setPlayer player value).modifyGuild guildId
      fun guild => guild.addMember player).leaveGuild player oldGuild) := by
  have members (each : Nat) : (((world.setPlayer player value).modifyGuild guildId
      fun guild => guild.addMember player).leaveGuild player oldGuild).membersOnline each =
      if each = guildId then world.membersOnline each ++ [player]
      else if oldGuild = some each then (world.membersOnline each).filter (· ≠ player)
      else world.membersOnline each := by
    have there : ((world.setPlayer player value).guilds guildId).isSome := known
    rw [World.membersOnline_leaveGuild, World.membersOnline_addMember _ there,
      World.membersOnline_setPlayer]
    by_cases here : each = guildId
    · subst here
      rw [if_pos rfl, if_pos rfl, if_neg moved]
    · rw [if_neg here, if_neg here]
  have outside : player ∉ world.membersOnline guildId := fun among => moved (only _ among)
  refine sound.of_player player (fun other apart => ?_) (fun each => ?_)
    (fun each other apart => ?_) (fun each => ?_) (fun each user among => ?_) fun none => ?_
  · simp [World.players_setPlayer_of_ne _ apart]
  · rw [members]
    split
    · rename_i here
      subst here
      exact .append (sound.nodup each) (List.nodup_singleton player)
        (List.disjoint_singleton.mpr outside)
    · split
      · exact (sound.nodup each).filter _
      · exact sound.nodup each
  · rw [members]
    split
    · simp [apart]
    · split
      · simp [apart]
      · rfl
  · rw [members]
    simp only [World.players_leaveGuild, World.players_modifyGuild, World.players_setPlayer_self,
      present, member, true_and, Option.some.injEq]
    split
    · rename_i here
      simp [here]
    · rename_i apart
      have notMember : player ∉ if oldGuild = some each then
          (world.membersOnline each).filter (· ≠ player) else world.membersOnline each := by
        split
        · simp
        · rename_i other
          exact fun among => other (only each among)
      exact iff_of_false notMember (Ne.symm apart)
  · simp only [World.channelUsers_leaveGuild, World.channelUsers_modifyGuild,
      World.channelUsers_setPlayer] at among
    refine ⟨among, ?_⟩
    rintro rfl
    exact idle each among
  · simp only [World.players_leaveGuild, World.players_modifyGuild,
      World.players_setPlayer_self] at none
    rw [member] at none
    cases none

theorem sound_leave {oldGuild : Option Nat}
    (only : ∀ each, player ∈ world.membersOnline each → oldGuild = some each)
    (players : ∀ other, other ≠ player → after.players other = world.players other)
    (self : after.players player = value)
    (members : after.membersOnline = (world.leaveGuild player oldGuild).membersOnline)
    (users : ∀ guildId, ∀ user ∈ after.channelUsers guildId,
      user ∈ world.channelUsers guildId ∧ user ≠ player)
    (left : value.inGame = false ∨ value.guild = none)
    (ranked : value.guild = none → value.guildRank = none) : Sound after := by
  subst self
  refine sound.of_player player players (fun each => ?_) (fun each other apart => ?_)
    (fun each => ?_) users ranked
  · rw [members, World.membersOnline_leaveGuild]
    split
    · exact (sound.nodup each).filter _
    · exact sound.nodup each
  · rw [members, World.membersOnline_leaveGuild]
    split
    · simp [apart]
    · rfl
  · refine iff_of_false (fun among => ?_) ?_
    · rw [members, World.membersOnline_leaveGuild] at among
      split at among
      · simp at among
      · rename_i other
        exact other (only each among)
    · rintro ⟨present, member⟩
      rcases left with absent | none
      · rw [present] at absent
        cases absent
      · rw [member] at none
        cases none

theorem Sound.absent (absent : (world.players player).inGame = false)
    (guildId : Nat) : player ∉ world.membersOnline guildId := by
  intro among
  rw [((sound.members guildId player).mp among).1] at absent
  cases absent

theorem Sound.idle (absent : (world.players player).inGame = false)
    (guildId : Nat) : player ∉ world.channelUsers guildId :=
  fun among => sound.absent absent guildId (sound.users guildId player among)

theorem sound_setPlayer (absent : (world.players player).inGame = false)
    (left : value.inGame = false ∨ value.guild = none)
    (ranked : value.guild = none → value.guildRank = none) :
    Sound (world.setPlayer player value) := by
  have none : ∀ each, player ∈ world.membersOnline each → (Option.none : Option Nat) = some each :=
    fun each among => absurd among (sound.absent absent each)
  refine sound_leave sound none (fun other apart => ?_) (World.players_setPlayer_self ..) rfl
    (fun each user among => ⟨among, ?_⟩) left ranked
  · exact World.players_setPlayer_of_ne _ apart _
  · rintro rfl
    exact sound.idle absent each among

theorem sound_loadGuild {guid : Nat} (membership : Option Membership)
    (absent : (world.players player).inGame = false) :
    Sound (world.loadGuild player guid membership) := by
  have plain : Sound (world.setPlayer player { guid := guid }) :=
    sound_setPlayer sound absent (.inl rfl) fun _ => rfl
  unfold World.loadGuild
  cases membership with
  | none => exact plain
  | some membership =>
    cases found : world.guilds membership.guildId with
    | none =>
      simp only [found]
      exact plain
    | some guild =>
      simp only [found]
      refine sound_setPlayer (sound_modifyGuild sound fun other same => ?_) absent (.inl rfl)
        fun none => by cases none
      obtain rfl := Option.some.inj (found.symm.trans same)
      split
      · cases membership.rank <;> rfl
      · rfl

end

theorem loadGuild_players (guid : Nat) (membership : Option Membership) :
    ((world.loadGuild player guid membership).players player).inGame = false ∧
      ∀ guildId ∈ ((world.loadGuild player guid membership).players player).guild,
        ((world.loadGuild player guid membership).guilds guildId).isSome := by
  unfold World.loadGuild
  cases membership with
  | none => simp
  | some membership =>
    cases found : world.guilds membership.guildId with
    | none => simp [found]
    | some guild =>
      simp only [found, World.players_setPlayer_self, true_and]
      intro guildId member
      obtain rfl := Option.some.inj member
      change ((world.modifyGuild _ _).guilds _).isSome = true
      rw [World.guilds_modifyGuild, if_pos rfl, found]
      rfl

theorem sound_onCreatureAppear (sound : Sound world)
    (absent : (world.players player).inGame = false)
    (known : ∀ guildId ∈ (world.players player).guild, (world.guilds guildId).isSome) :
    Sound (world.onCreatureAppear player) := by
  unfold World.onCreatureAppear
  cases member : (world.players player).guild with
  | none =>
    simp only [World.players_setPlayer_self, member]
    exact sound_setPlayer sound absent (.inr rfl) fun _ => sound.ranked player member
  | some guildId =>
    simp only [World.players_setPlayer_self, member]
    exact sound_enter sound (known guildId member) none
      (fun each among => absurd among (sound.absent absent each)) (sound.idle absent) (by simp)
      rfl rfl

theorem sound_login (sound : Sound world) {guid : Nat} (membership : Option Membership)
    (absent : (world.players player).inGame = false) :
    Sound (world.login player guid membership) := by
  have loaded : Sound (world.loadGuild player guid membership) :=
    sound_loadGuild sound membership absent
  obtain ⟨away, known⟩ := @loadGuild_players world player guid membership
  exact sound_onCreatureAppear loaded away known

theorem logout_eq :
    world.logout player =
      ((world.removeUserFromAllChannels player).leaveGuild player
        (world.players player).guild).setPlayer player
          { world.players player with inGame := false } := by
  have left : world.onRemoveCreature player =
      (world.removeUserFromAllChannels player).leaveGuild player (world.players player).guild := rfl
  rw [World.logout, left, World.players_leaveGuild]
  rfl

theorem sound_logout (sound : Sound world) : Sound (world.logout player) := by
  rw [logout_eq]
  refine sound_leave sound (fun each among => ((sound.members each player).mp among).2)
    (fun other apart => ?_) (World.players_setPlayer_self ..) ?_ (fun each user among => ?_)
    (.inl rfl) (sound.ranked player)
  · rw [World.players_setPlayer_of_ne _ apart, World.players_leaveGuild]
    rfl
  · funext each
    rw [World.membersOnline_setPlayer, World.membersOnline_leaveGuild,
      World.membersOnline_leaveGuild]
    rfl
  · rw [World.channelUsers_setPlayer, World.channelUsers_leaveGuild] at among
    exact world.mem_channelUsers_removeUserFromAllChannels.mp among

/-! ## Another guild -/

section Changing

variable {guild : Option Nat} {guildId : Nat}

theorem setGuild_none (apart : none ≠ (world.players player).guild) :
    world.setGuild player none =
      (world.setPlayer player
        { world.players player with guild := none, guildRank := none }).leaveGuild player
          (world.players player).guild := by
  rw [World.setGuild, if_neg apart]

theorem setGuild_rankless (apart : some guildId ≠ (world.players player).guild)
    (rankless : world.getDefaultRank guildId = none) :
    world.setGuild player (some guildId) =
      world.setPlayer player { world.players player with guild := none, guildRank := none } := by
  have default : (world.setPlayer player { world.players player with
      guild := none, guildRank := none }).getDefaultRank guildId = none := rankless
  rw [World.setGuild, if_neg apart]
  dsimp only
  rw [default]

theorem setGuild_some (apart : some guildId ≠ (world.players player).guild) {rank : GuildRank}
    (default : world.getDefaultRank guildId = some rank) :
    world.setGuild player (some guildId) =
      ((world.setPlayer player { world.players player with
        guild := some guildId, guildRank := some rank.id }).modifyGuild guildId
          fun guild => guild.addMember player).leaveGuild player
            (world.players player).guild := by
  have isDefault : (world.setPlayer player { world.players player with
      guild := none, guildRank := none }).getDefaultRank guildId = some rank := default
  rw [World.setGuild, if_neg apart]
  dsimp only
  rw [isDefault]
  simp [World.setPlayer, Function.update_idem]

theorem setGuild_forgets (apart : guild ≠ (world.players player).guild) :
    (world.setGuild player guild).channelUsers = world.channelUsers ∧
      ∀ oldGuild ∈ (world.players player).guild,
        ((world.setGuild player guild).players player).guild ≠ some oldGuild := by
  cases guild with
  | none =>
    rw [setGuild_none apart]
    simp
  | some guildId =>
    cases default : world.getDefaultRank guildId with
    | none =>
      rw [setGuild_rankless apart default]
      simp
    | some rank =>
      rw [setGuild_some apart default]
      refine ⟨by simp, fun oldGuild member same => apart ?_⟩
      rw [Option.mem_def.mp member]
      simpa using same

theorem sound_setGuild (sound : Sound world) (legal : (GuildOp.setGuild player guild).Legal world)
    (apart : guild ≠ (world.players player).guild)
    (orderly : ∀ oldGuild ∈ (world.players player).guild, player ∉ world.channelUsers oldGuild ∧
      ∀ guildId ∈ guild, (world.getDefaultRank guildId).isSome) :
    Sound (world.setGuild player guild) := by
  obtain ⟨present, known⟩ := legal
  have only (each : Nat) (among : player ∈ world.membersOnline each) :
      (world.players player).guild = some each := ((sound.members each player).mp among).2
  have idle (each : Nat) : player ∉ world.channelUsers each := fun among =>
    (orderly each (sound.guild_of_user among).2).1 among
  have users : ∀ each, ∀ user ∈ world.channelUsers each,
      user ∈ world.channelUsers each ∧ user ≠ player := by
    intro each user among
    refine ⟨among, ?_⟩
    rintro rfl
    exact idle each among
  cases guild with
  | none =>
    rw [setGuild_none apart]
    refine sound_leave sound only (fun other apart => ?_)
      (congrFun (World.players_leaveGuild ..) _) ?_ (fun each user among => ?_) (.inr ?_) fun _ => ?_
    · rw [World.players_leaveGuild, World.players_setPlayer_of_ne _ apart]
    · funext each
      rw [World.membersOnline_leaveGuild, World.membersOnline_leaveGuild,
        World.membersOnline_setPlayer]
    · rw [World.channelUsers_leaveGuild] at among
      exact users each user among
    · rw [World.players_setPlayer_self]
    · rw [World.players_setPlayer_self]
  | some guildId =>
    cases default : world.getDefaultRank guildId with
    | none =>
      rw [setGuild_rankless apart default]
      have nowhere : (world.players player).guild = none := by
        cases member : (world.players player).guild with
        | none => rfl
        | some oldGuild =>
          have ranked := (orderly oldGuild member).2 guildId rfl
          rw [default] at ranked
          cases ranked
      have none (each : Nat) (among : player ∈ world.membersOnline each) :
          (Option.none : Option Nat) = some each := nowhere ▸ only each among
      exact sound_leave sound none (fun other apart => World.players_setPlayer_of_ne _ apart _)
        (World.players_setPlayer_self ..) rfl users (.inr rfl) fun _ => rfl
    | some rank =>
      rw [setGuild_some apart default]
      exact sound_enter sound (known guildId rfl) _ only idle (apart.symm) present rfl

theorem sound_setGuild_iff (sound : Sound world)
    (legal : (GuildOp.setGuild player guild).Legal world) :
    Sound (world.setGuild player guild) ↔ Orderly world (.setGuild player guild) := by
  by_cases same : guild = (world.players player).guild
  · have stays : world.setGuild player guild = world := if_pos same
    rw [stays]
    exact iff_of_true sound (.inl same)
  · constructor
    · intro after
      obtain ⟨users, forgets⟩ := setGuild_forgets same
      refine .inr fun oldGuild member => ⟨fun among => ?_, fun guildId isGuild => ?_⟩
      · rw [← users] at among
        exact forgets oldGuild member (after.guild_of_user among).2
      · cases default : world.getDefaultRank guildId with
        | some rank => rfl
        | none =>
          obtain rfl := Option.mem_def.mp isGuild
          rw [setGuild_rankless same default] at after forgets
          -- the old guild still lists the player
          have listed := (sound.members oldGuild player).mpr ⟨legal.1, member⟩
          exact absurd ((after.members oldGuild player).mp listed).2 (forgets oldGuild member)
    · rintro (equal | orderly)
      · exact absurd equal same
      · exact sound_setGuild sound legal same orderly

end Changing

theorem sound_setGuildRank (sound : Sound world) (rankId : Nat) :
    Sound (world.setGuildRank player rankId) := by
  unfold World.setGuildRank
  split
  · exact sound
  · rename_i guild found
    split
    · exact sound
    · rename_i rank _
      have member : (world.players player).guild ≠ none := by
        intro none
        rw [none] at found
        cases found
      have players (other : Nat) : ((world.setPlayer player
          { world.players player with guildRank := some rank.id }).players other).inGame =
            (world.players other).inGame ∧ ((world.setPlayer player
          { world.players player with guildRank := some rank.id }).players other).guild =
            (world.players other).guild := by
        by_cases same : other = player
        · subst same
          simp
        · simp [World.players_setPlayer_of_ne _ same]
      refine ⟨sound.nodup, fun guildId other => ?_, sound.users, fun other => ?_⟩
      · rw [(players other).1, (players other).2]
        exact sound.members guildId other
      · by_cases same : other = player
        · subst same
          rw [(players other).2]
          exact fun none => absurd none member
        · rw [World.players_setPlayer_of_ne _ same]
          exact sound.ranked other

/-! ## The channels -/

theorem sound_setChannel (sound : Sound world) {guildId : Nat} {users : Option (List Nat)}
    (members : ∀ user ∈ users.getD [], user ∈ world.membersOnline guildId) :
    Sound (world.setChannel guildId users) := by
  refine sound.of_users rfl rfl fun each user among => ?_
  rw [World.channelUsers_setChannel] at among
  split at among
  · rename_i same
    exact same ▸ members user among
  · exact sound.users each user among

theorem sound_createChannel (sound : Sound world) : Sound (world.createChannel player) := by
  unfold World.createChannel
  split
  · exact sound
  · split
    · exact sound
    · split
      · exact sound
      · exact sound_setChannel sound fun user among => by cases among

theorem sound_getChannelList (sound : Sound world) : Sound (world.getChannelList player) := by
  unfold World.getChannelList
  split
  · split
    · exact sound
    · exact sound_createChannel sound
  · exact sound

theorem getChannel_eq_some {guildId : Nat} {users : List Nat}
    (found : world.getChannel player = some (guildId, users)) :
    (world.players player).guild = some guildId ∧ world.channelUsers guildId = users := by
  unfold World.getChannel at found
  split at found
  · cases found
  · rename_i member
    obtain ⟨others, here, same⟩ := Option.map_eq_some_iff.mp found
    obtain ⟨rfl, rfl⟩ := Prod.mk.inj same
    refine ⟨member, ?_⟩
    rw [World.channelUsers, here]
    rfl

theorem sound_addUserToChannel (sound : Sound world)
    (present : (world.players player).inGame = true) : Sound (world.addUserToChannel player) := by
  unfold World.addUserToChannel
  split
  · exact sound
  · rename_i guildId users found
    obtain ⟨member, rfl⟩ := getChannel_eq_some found
    split
    · exact sound
    · refine sound_setChannel sound fun user among => ?_
      rcases List.mem_cons.mp among with rfl | before
      · exact (sound.members guildId user).mpr ⟨present, member⟩
      · exact sound.users guildId user before

theorem sound_removeUserFromChannel (sound : Sound world) :
    Sound (world.removeUserFromChannel player) := by
  unfold World.removeUserFromChannel
  split
  · exact sound
  · rename_i guildId users found
    obtain ⟨-, rfl⟩ := getChannel_eq_some found
    split
    · have fewer : Sound (world.setChannel guildId
          (some ((world.channelUsers guildId).filter (· ≠ player)))) :=
        sound_setChannel sound fun user among =>
          sound.users guildId user (List.mem_filter.mp among).1
      dsimp only
      split
      · unfold World.deleteChannel
        split
        · exact fewer
        · exact sound_setChannel fewer fun user among => by cases among
      · exact fewer
    · exact sound

/-! ## Runs -/

theorem sound_apply_iff (sound : Sound world) {op : GuildOp} (legal : op.Legal world) :
    Sound (op.apply world) ↔ Orderly world op := by
  cases op with
  | addGuild guildId ranks => exact iff_of_true (sound_addGuild sound ranks legal) trivial
  | addRank guildId rank => exact iff_of_true (sound_modifyGuild sound fun _ _ => rfl) trivial
  | editRank guildId rankId isDefault =>
    exact iff_of_true (sound_modifyGuild sound fun _ _ => rfl) trivial
  | login player guid membership =>
    exact iff_of_true (sound_login sound membership legal) trivial
  | logout player => exact iff_of_true (sound_logout sound) trivial
  | setGuild player guild => exact sound_setGuild_iff sound legal
  | setGuildRank player rankId => exact iff_of_true (sound_setGuildRank sound rankId) trivial
  | getChannelList player => exact iff_of_true (sound_getChannelList sound) trivial
  | createChannel player => exact iff_of_true (sound_createChannel sound) trivial
  | addUserToChannel player => exact iff_of_true (sound_addUserToChannel sound legal) trivial
  | removeUserFromChannel player => exact iff_of_true (sound_removeUserFromChannel sound) trivial

/-- **Pointers, members online and users of the channels agree**, after each step of a run,
exactly when players change guilds in order. -/
theorem guilds_sound_iff {start : World} (sound : Sound start) {ops : List GuildOp}
    (legal : guildSystem.Legal start ops) :
    guildSystem.Throughout (fun _ _ after => Sound after) start ops ↔
      guildSystem.Throughout (fun before op _ => Orderly before op) start ops := by
  have step : ∀ before op, Sound before → guildSystem.legal before op →
      (Sound (guildSystem.step before op) ↔ Orderly before op) ∧
        (Sound (guildSystem.step before op) → Sound (guildSystem.step before op)) :=
    fun before op invariant allowed => ⟨sound_apply_iff invariant allowed, id⟩
  exact System.Throughout.iff_of_invariant step sound legal

theorem sound_empty : Sound {} where
  nodup _ := List.nodup_nil
  members _ _ := by simp [World.membersOnline]
  users _ _ among := by cases among
  ranked _ _ := rfl

/-- A player logs in without a guild, gets into one, uses its channel, leaves it and the guild, and
logs out. -/
theorem guilds_sound_iff_career :
    guildSystem.Throughout (fun _ _ after => Sound after) {}
      [.addGuild 1 [⟨7, true⟩], .login 0 5 none, .setGuild 0 (some 1), .getChannelList 0,
        .addUserToChannel 0, .removeUserFromChannel 0, .setGuild 0 none, .logout 0] := by
  refine (guilds_sound_iff sound_empty (by decide)).mpr
    ⟨trivial, trivial, .inr ?_, trivial, trivial, trivial, .inr ?_, trivial, trivial⟩
  · intro oldGuild member
    cases member
  · intro oldGuild member
    obtain rfl : 1 = oldGuild := Option.some.inj member
    refine ⟨by decide, fun guildId isGuild => ?_⟩
    cases isGuild

/-- A member of a guild gets into one that has no default rank, and the old guild keeps it among
the members online. -/
theorem old_guild_keeps_member :
    guildSystem.Legal {} [.addGuild 1 [⟨7, true⟩], .addGuild 2 [], .login 0 5 (some ⟨1, 7, none⟩),
        .setGuild 0 (some 2)] ∧
      ¬guildSystem.Throughout (fun _ _ after => Sound after) {}
        [.addGuild 1 [⟨7, true⟩], .addGuild 2 [], .login 0 5 (some ⟨1, 7, none⟩),
          .setGuild 0 (some 2)] := by
  refine ⟨by decide, fun throughout => ?_⟩
  have after := throughout.2.2.2.1
  have member := ((after.members 1 0).mp (by decide)).2
  exact absurd member (by decide)

end Otserv.Guilds
