import Otserv.Chats.Chat

/-!
# Who hears a private channel

Every user of a private channel should be its owner or invited at that moment, each private channel
have a number of its own in the range, and a player own no more than one (`Private`); and a channel
should be deleted when its owner leaves it or the game (`Closed`).

A channel of the configuration with the number of a private one hides it, and the owner cannot
leave. And since invitations are by character and users by creature, a character that is in the game
more than once loses its invitation with one of its creatures, and the others stay users
(`private_channels_iff`).
-/

namespace Otserv.Chats

open Foundation

structure Private (chat : Chat) : Prop where
  recorded : ∀ channel ∈ chat.privateChannels, ∀ user ∈ channel.users,
    channel.isInvited (chat.guid user) = true
  numbered : ∀ channel ∈ chat.privateChannels, 100 ≤ channel.id ∧ channel.id < 10000
  distinct : (chat.privateChannels.map fun channel => channel.id).Nodup
  owned : (chat.privateChannels.map PrivateChatChannel.owner).Nodup

/-- Who gets a message that is spoken in a private channel is its owner or invited. -/
def OnlyInvitedHear (chat : Chat) : Prop :=
  ∀ canJoin onSpeak player channelId channel,
    chat.getChannel canJoin player channelId = some (.priv channel) →
      ∀ hearer ∈ chat.talkToChannel canJoin onSpeak player channelId,
        channel.isInvited (chat.guid hearer) = true

/-- The channel of an owner who leaves it, or the game, is no more, and who leaves the game is
recorded in no other. -/
def Closed (before : Chat) : ChatOp → Chat → Prop
  | .closeChannel _ player channelId, after =>
    ∀ channel ∈ before.privateChannels, channel.id = channelId → player ∈ channel.users →
      channel.owner = before.guid player → ∀ left ∈ after.privateChannels, left.id ≠ channelId
  | .logout player, after | .connect player, after =>
    ∀ left ∈ after.privateChannels, left.owner ≠ before.guid player ∧ player ∉ left.users
  | .login _ _, _ | .load _ _, _ | .createPrivateChannel _ _ _, _ | .channelInvite _ _, _
  | .channelExclude _ _, _ | .openChannel _ _ _ _, _ => True

structure Secret (before : Chat) (op : ChatOp) (after : Chat) : Prop where
  isPrivate : Private after
  heard : OnlyInvitedHear after
  closed : Closed before op after

/-- No other creature of the player's character is a user by the invitation that is lost. -/
def Alone (chat : Chat) (player : Nat) (channel : PrivateChatChannel) : Prop :=
  chat.guid player = channel.owner ∨
    ∀ user ∈ channel.users, chat.guid user = chat.guid player → user = player

/-- The owner's channel is not hidden when it leaves, and no character loses its invitation of
which another creature is a user. -/
def Guarded (chat : Chat) : ChatOp → Prop
  | .closeChannel _ player channelId =>
    ∀ channel ∈ chat.privateChannels, channel.id = channelId → player ∈ channel.users →
      channel.owner = chat.guid player → chat.normalChannel channelId = none
  | .channelExclude player excludePlayer =>
    player ≠ excludePlayer → ∀ channel ∈ chat.privateChannels, channel.owner = chat.guid player →
      chat.guid excludePlayer ∈ channel.invites → Alone chat excludePlayer channel
  | .logout player | .connect player =>
    ∀ channel ∈ chat.privateChannels, Alone chat player channel
  | .login _ _ | .load _ _ | .createPrivateChannel _ _ _ | .channelInvite _ _
  | .openChannel _ _ _ _ => True

/-- Users are in the game, where characters have numbers. -/
structure Present (chat : Chat) : Prop where
  users : ∀ channel ∈ chat.privateChannels, ∀ user ∈ channel.users,
    (chat.players user).inGame = true
  characters : ∀ player, (chat.players player).inGame = true → chat.guid player ≠ 0

/-! ## Channels -/

namespace PrivateChatChannel

variable {channel : PrivateChatChannel} {guid other player user : Nat}

theorem isInvited_iff : channel.isInvited guid = true ↔
    guid = channel.owner ∨ guid ∈ channel.invites :=
  decide_eq_true_iff

@[simp] theorem mem_users_addUser :
    user ∈ (channel.addUser player).users ↔ user = player ∨ user ∈ channel.users := by
  unfold addUser ChatChannel.addUser
  split
  · rename_i present
    constructor
    · exact .inr
    · rintro (rfl | among)
      · exact present
      · exact among
  · simp

@[simp] theorem mem_users_removeUser :
    user ∈ (channel.removeUser player).users ↔ user ∈ channel.users ∧ user ≠ player := by
  simp [removeUser, ChatChannel.removeUser]

theorem isInvited_removeInvite :
    (channel.removeInvite other).isInvited guid = true ↔
      guid = channel.owner ∨ guid ∈ channel.invites ∧ guid ≠ other := by
  rw [isInvited_iff]
  simp [removeInvite]

theorem isInvited_invitePlayer (invited : channel.isInvited guid = true) :
    (channel.invitePlayer other).isInvited guid = true := by
  rw [isInvited_iff] at invited ⊢
  unfold invitePlayer
  split
  · exact invited
  · exact invited.imp id (List.mem_cons_of_mem _)

/-- Inviting and excluding change neither the number nor the owner. -/
@[simp] theorem id_addUser : (channel.addUser player).id = channel.id := by
  unfold addUser ChatChannel.addUser
  split
  · rfl
  · rfl

@[simp] theorem owner_invitePlayer : (channel.invitePlayer guid).owner = channel.owner := by
  unfold invitePlayer
  split <;> rfl

@[simp] theorem toChatChannel_invitePlayer :
    (channel.invitePlayer guid).toChatChannel = channel.toChatChannel := by
  unfold invitePlayer
  split <;> rfl

@[simp] theorem owner_excludePlayer :
    (channel.excludePlayer player guid).owner = channel.owner := by
  unfold excludePlayer
  split <;> rfl

@[simp] theorem id_excludePlayer : (channel.excludePlayer player guid).id = channel.id := by
  unfold excludePlayer
  split <;> rfl

end PrivateChatChannel

section Finding

variable {chat : Chat} {canJoin : Bool} {player channelId : Nat} {channel : PrivateChatChannel}

theorem getChannel_priv (found : chat.getChannel canJoin player channelId = some (.priv channel)) :
    channel ∈ chat.privateChannels ∧ channel.id = channelId ∧
      channel.isInvited (chat.guid player) = true ∧ chat.normalChannel channelId = none := by
  unfold Chat.getChannel at found
  split at found
  · cases found
  · split at found
    · split at found
      · cases found
      · cases found
    · rename_i absent
      split at found
      · rename_i here
        split at found
        · rename_i invited
          obtain rfl := Chat.Found.priv.inj (Option.some.inj found)
          have same := List.find?_some here
          exact ⟨List.mem_of_find?_eq_some here, by simpa using same, invited, absent⟩
        · cases found
      · cases found

theorem getPrivateChannel_eq_some (found : chat.getPrivateChannel player = some channel) :
    channel ∈ chat.privateChannels ∧ channel.owner = chat.guid player := by
  have same := List.find?_some found
  exact ⟨List.mem_of_find?_eq_some found, by simpa using same⟩

theorem Private.eq_of_id (isPrivate : Private chat) {first second : PrivateChatChannel}
    (left : first ∈ chat.privateChannels) (right : second ∈ chat.privateChannels)
    (same : first.id = second.id) : first = second :=
  List.inj_on_of_nodup_map isPrivate.distinct left right same

theorem Private.eq_of_owner (isPrivate : Private chat) {first second : PrivateChatChannel}
    (left : first ∈ chat.privateChannels) (right : second ∈ chat.privateChannels)
    (same : first.owner = second.owner) : first = second :=
  List.inj_on_of_nodup_map isPrivate.owned left right same

/-- **Delivery.** Messages go to users, and users are invited. -/
theorem Private.onlyInvitedHear (isPrivate : Private chat) : OnlyInvitedHear chat := by
  intro canJoin onSpeak player channelId channel found hearer hears
  rw [Chat.talkToChannel, found] at hears
  obtain ⟨member, -⟩ := getChannel_priv found
  unfold ChatChannel.talk at hears
  dsimp only at hears
  split at hears
  · exact isPrivate.recorded channel member hearer hears
  · cases hears

theorem removeUserFromChannel_hidden (hidden : chat.normalChannel channelId ≠ none)
    (numbered : chat.guid player ≠ 0) :
    (chat.removeUserFromChannel canJoin player channelId).privateChannels =
      chat.privateChannels := by
  unfold Chat.removeUserFromChannel
  cases found : chat.getChannel canJoin player channelId with
  | none => rfl
  | some which =>
    cases which with
    | priv channel => exact absurd (getChannel_priv found).2.2.2 hidden
    | normal channel =>
      have other : ¬(Chat.Found.normal channel).owner =
          (chat.removeUser player channelId (.normal channel)).guid player := numbered.symm
      dsimp only
      split
      · rfl
      · rfl

end Finding

/-! ## Changing the private channels -/

section Changing

variable {chat : Chat} {player channelId : Nat} {change : PrivateChatChannel → PrivateChatChannel}

theorem mem_modifyPrivate {channel : PrivateChatChannel} :
    channel ∈ (chat.modifyPrivate channelId change).privateChannels ↔
      ∃ before ∈ chat.privateChannels,
        (if before.id = channelId then change before else before) = channel :=
  List.mem_map

theorem map_modifyPrivate {value : PrivateChatChannel → Nat}
    (same : ∀ channel, value (change channel) = value channel) :
    (chat.modifyPrivate channelId change).privateChannels.map value =
      chat.privateChannels.map value := by
  rw [Chat.modifyPrivate, List.map_map]
  apply List.map_congr_left
  intro channel _
  rw [Function.comp_apply]
  split
  · exact same channel
  · rfl

theorem private_modifyPrivate_iff (isPrivate : Private chat)
    (ids : ∀ channel, (change channel).id = channel.id)
    (owners : ∀ channel, (change channel).owner = channel.owner) :
    Private (chat.modifyPrivate channelId change) ↔
      ∀ channel ∈ chat.privateChannels, channel.id = channelId →
        ∀ user ∈ (change channel).users, (change channel).isInvited (chat.guid user) = true := by
  constructor
  · intro after channel member same
    exact after.recorded (change channel)
      (mem_modifyPrivate.mpr ⟨channel, member, if_pos same⟩)
  · intro recorded
    refine ⟨?_, ?_, ?_, ?_⟩
    · rintro _ member user among
      obtain ⟨channel, before, rfl⟩ := mem_modifyPrivate.mp member
      by_cases same : channel.id = channelId
      · rw [if_pos same] at among ⊢
        exact recorded channel before same user among
      · rw [if_neg same] at among ⊢
        exact isPrivate.recorded channel before user among
    · rintro _ member
      obtain ⟨channel, before, rfl⟩ := mem_modifyPrivate.mp member
      have bounds := isPrivate.numbered channel before
      split
      · rwa [ids]
      · exact bounds
    · rw [map_modifyPrivate ids]
      exact isPrivate.distinct
    · rw [map_modifyPrivate owners]
      exact isPrivate.owned

theorem Private.filter (isPrivate : Private chat) (stays : PrivateChatChannel → Bool) :
    Private { chat with privateChannels := chat.privateChannels.filter stays } where
  recorded channel member := isPrivate.recorded channel (List.mem_filter.mp member).1
  numbered channel member := isPrivate.numbered channel (List.mem_filter.mp member).1
  distinct := isPrivate.distinct.sublist (List.filter_sublist.map _)
  owned := isPrivate.owned.sublist (List.filter_sublist.map _)

/-- Leaving all channels: one's own goes, and the others lose the player and the invitation. -/
theorem privateChannels_removeUserFromAllChannels :
    (chat.removeUserFromAllChannels player).privateChannels =
      (chat.privateChannels.filter fun channel => channel.owner ≠ chat.guid player).map
        fun channel => (channel.removeInvite (chat.guid player)).removeUser player := by
  rw [Chat.removeUserFromAllChannels]
  induction chat.privateChannels with
  | nil => rfl
  | cons channel channels ih =>
    by_cases own : channel.owner = chat.guid player
    · have gone : chat.leave player channel = none := if_pos own
      rw [List.filterMap_cons, gone, List.filter_cons_of_neg (by simpa using own)]
      exact ih
    · have left : chat.leave player channel =
          some ((channel.removeInvite (chat.guid player)).removeUser player) := if_neg own
      rw [List.filterMap_cons, left, List.filter_cons_of_pos (by simpa using own), List.map_cons]
      exact congrArg _ ih

theorem mem_removeUserFromAllChannels {left : PrivateChatChannel} :
    left ∈ (chat.removeUserFromAllChannels player).privateChannels ↔
      ∃ channel ∈ chat.privateChannels, channel.owner ≠ chat.guid player ∧
        (channel.removeInvite (chat.guid player)).removeUser player = left := by
  rw [privateChannels_removeUserFromAllChannels]
  simp [and_assoc]

end Changing

/-! ## Steps -/

section Steps

variable {chat : Chat} {canJoin : Bool} {player other channelId : Nat}

theorem private_removeUserFromAllChannels_iff (isPrivate : Private chat) :
    Private (chat.removeUserFromAllChannels player) ↔
      ∀ channel ∈ chat.privateChannels, Alone chat player channel := by
  constructor
  · intro after channel member
    by_cases own : channel.owner = chat.guid player
    · exact .inl own.symm
    · refine .inr fun user among same => ?_
      by_contra apart
      have recorded : (channel.removeInvite (chat.guid player)).isInvited (chat.guid user) = true :=
        after.recorded _ (mem_removeUserFromAllChannels.mpr ⟨channel, member, own, rfl⟩) user
          (PrivateChatChannel.mem_users_removeUser.mpr ⟨among, apart⟩)
      rcases PrivateChatChannel.isInvited_removeInvite.mp recorded with owner | ⟨-, differs⟩
      · exact own (owner.symm.trans same)
      · exact differs same
  · intro alone
    have fewer := isPrivate.filter fun channel => channel.owner ≠ chat.guid player
    refine ⟨?_, ?_, ?_, ?_⟩
    · intro left member user among
      obtain ⟨channel, before, own, rfl⟩ := mem_removeUserFromAllChannels.mp member
      obtain ⟨among, apart⟩ := PrivateChatChannel.mem_users_removeUser.mp among
      have recorded := isPrivate.recorded channel before user among
      refine PrivateChatChannel.isInvited_removeInvite.mpr
        ((PrivateChatChannel.isInvited_iff.mp recorded).imp id fun invited => ⟨invited, ?_⟩)
      intro same
      rcases alone channel before with owner | only
      · exact own owner.symm
      · exact apart (only user among same)
    · intro left member
      obtain ⟨channel, before, -, rfl⟩ := mem_removeUserFromAllChannels.mp member
      exact isPrivate.numbered channel before
    · rw [privateChannels_removeUserFromAllChannels, List.map_map]
      exact fewer.distinct
    · rw [privateChannels_removeUserFromAllChannels, List.map_map]
      exact fewer.owned

theorem closed_removeUserFromAllChannels :
    ∀ left ∈ (chat.removeUserFromAllChannels player).privateChannels,
      left.owner ≠ chat.guid player ∧ player ∉ left.users := by
  intro left member
  obtain ⟨channel, -, own, rfl⟩ := mem_removeUserFromAllChannels.mp member
  exact ⟨own, fun among => (PrivateChatChannel.mem_users_removeUser.mp among).2 rfl⟩

theorem Private.congr (isPrivate : Private chat) {after : Chat}
    (channels : after.privateChannels = chat.privateChannels)
    (guids : ∀ channel ∈ chat.privateChannels, ∀ user ∈ channel.users,
      after.guid user = chat.guid user) : Private after := by
  refine ⟨?_, ?_, ?_, ?_⟩
  · intro channel member user among
    rw [channels] at member
    rw [guids channel member user among]
    exact isPrivate.recorded channel member user among
  · rw [channels]
    exact isPrivate.numbered
  · rw [channels]
    exact isPrivate.distinct
  · rw [channels]
    exact isPrivate.owned

theorem freeSlot_eq_some {i : Nat} (found : chat.freeSlot = some i) :
    (100 ≤ i ∧ i < 10000) ∧ ∀ channel ∈ chat.privateChannels, channel.id ≠ i := by
  have free := List.find?_some found
  have among := List.mem_range'_1.mp (List.mem_of_find?_eq_some found)
  exact ⟨⟨among.1, by omega⟩, by simpa using free⟩

variable {channel : PrivateChatChannel}

theorem private_emplace (isPrivate : Private chat)
    (recorded : ∀ user ∈ channel.users, channel.isInvited (chat.guid user) = true)
    (numbered : 100 ≤ channel.id ∧ channel.id < 10000)
    (new : ∀ other ∈ chat.privateChannels, other.id ≠ channel.id)
    (first : ∀ other ∈ chat.privateChannels, other.owner ≠ channel.owner) :
    Private (chat.emplace channel) := by
  have member {each : PrivateChatChannel} :
      each ∈ (chat.emplace channel).privateChannels ↔ each = channel ∨
        each ∈ chat.privateChannels := List.mem_orderedInsert ..
  have perm : (chat.emplace channel).privateChannels.Perm (channel :: chat.privateChannels) :=
    List.perm_orderedInsert ..
  refine ⟨?_, ?_, ?_, ?_⟩
  · intro each among
    rcases member.mp among with rfl | before
    · exact recorded
    · exact isPrivate.recorded each before
  · intro each among
    rcases member.mp among with rfl | before
    · exact numbered
    · exact isPrivate.numbered each before
  · rw [(perm.map _).nodup_iff, List.map_cons, List.nodup_cons]
    refine ⟨fun among => ?_, isPrivate.distinct⟩
    obtain ⟨each, before, same⟩ := List.mem_map.mp among
    exact new each before same
  · rw [(perm.map _).nodup_iff, List.map_cons, List.nodup_cons]
    refine ⟨fun among => ?_, isPrivate.owned⟩
    obtain ⟨each, before, same⟩ := List.mem_map.mp among
    exact first each before same

theorem createChannel_eq_some {isPremium : Bool}
    (created : chat.createChannel canJoin isPremium player = some channel) :
    chat.getPrivateChannel player = none ∧
      ∃ i, chat.freeSlot = some i ∧ channel = { id := i, owner := chat.guid player } := by
  rw [Chat.createChannel] at created
  split at created
  · cases created
  · split at created
    · cases created
    · rename_i free
      obtain ⟨i, slot, same⟩ := Option.map_eq_some_iff.mp created
      refine ⟨?_, i, slot, same.symm⟩
      rw [Bool.or_eq_true, not_or] at free
      simpa using free.2

theorem playerCreatePrivateChannel_cases (isPremium : Bool) :
    chat.playerCreatePrivateChannel canJoin isPremium player = chat ∨
      ∃ i, chat.freeSlot = some i ∧ chat.getPrivateChannel player = none ∧
        chat.playerCreatePrivateChannel canJoin isPremium player =
          chat.emplace { id := i, users := [player], owner := chat.guid player } := by
  rw [Chat.playerCreatePrivateChannel]
  split
  · exact .inl rfl
  · cases created : chat.createChannel canJoin isPremium player with
    | none => exact .inl rfl
    | some channel =>
      obtain ⟨none, i, slot, rfl⟩ := createChannel_eq_some created
      exact .inr ⟨i, slot, none, rfl⟩

theorem private_playerCreatePrivateChannel (isPrivate : Private chat) (isPremium : Bool) :
    Private (chat.playerCreatePrivateChannel canJoin isPremium player) := by
  rcases @playerCreatePrivateChannel_cases chat canJoin player isPremium with
    same | ⟨i, slot, none, created⟩
  · rw [same]
    exact isPrivate
  · rw [created]
    obtain ⟨bounds, free⟩ := freeSlot_eq_some slot
    refine private_emplace isPrivate (fun user among => ?_) bounds free fun each before => ?_
    · obtain rfl := List.mem_singleton.mp among
      exact PrivateChatChannel.isInvited_iff.mpr (.inl rfl)
    · have other := List.find?_eq_none.mp none each before
      simpa using other

theorem private_playerChannelInvite (isPrivate : Private chat) :
    Private (chat.playerChannelInvite player other) := by
  rw [Chat.playerChannelInvite]
  split
  · exact isPrivate
  · split
    · exact isPrivate
    · refine (private_modifyPrivate_iff isPrivate (fun channel => by simp)
        (fun channel => by simp)).mpr fun channel member _ user among => ?_
      rw [PrivateChatChannel.toChatChannel_invitePlayer] at among
      exact PrivateChatChannel.isInvited_invitePlayer
        (isPrivate.recorded channel member user among)

theorem recorded_excludePlayer_iff
    (recorded : ∀ user ∈ channel.users, channel.isInvited (chat.guid user) = true) :
    (∀ user ∈ (channel.excludePlayer other (chat.guid other)).users,
        (channel.excludePlayer other (chat.guid other)).isInvited (chat.guid user) = true) ↔
      (chat.guid other ∈ channel.invites → Alone chat other channel) := by
  unfold PrivateChatChannel.excludePlayer
  split
  · rename_i invited
    rw [forall_prop_of_true invited]
    constructor
    · intro after
      by_cases own : chat.guid other = channel.owner
      · exact .inl own
      · refine .inr fun user among same => ?_
        by_contra apart
        have stays : (channel.removeInvite (chat.guid other)).isInvited (chat.guid user) = true :=
          after user (PrivateChatChannel.mem_users_removeUser.mpr ⟨among, apart⟩)
        rcases PrivateChatChannel.isInvited_removeInvite.mp stays with owner | ⟨-, differs⟩
        · exact own (same.symm.trans owner)
        · exact differs same
    · intro alone user among
      obtain ⟨among, apart⟩ := PrivateChatChannel.mem_users_removeUser.mp among
      change (channel.removeInvite (chat.guid other)).isInvited (chat.guid user) = true
      refine PrivateChatChannel.isInvited_removeInvite.mpr ?_
      rcases PrivateChatChannel.isInvited_iff.mp (recorded user among) with owner | guest
      · exact .inl owner
      · by_cases same : chat.guid user = chat.guid other
        · rcases alone with own | only
          · exact .inl (same.trans own)
          · exact absurd (only user among same) apart
        · exact .inr ⟨guest, same⟩
  · rename_i unknown
    exact iff_of_true recorded (absurd · unknown)

section

variable (isPrivate : Private chat)
include isPrivate

theorem private_playerChannelExclude_iff :
    Private (chat.playerChannelExclude player other) ↔
      Guarded chat (.channelExclude player other) := by
  rw [Chat.playerChannelExclude, Guarded]
  split
  · rename_i none
    refine iff_of_true isPrivate fun _ channel member own => ?_
    have noOwner := List.find?_eq_none.mp none channel member
    exact absurd own (by simpa using noOwner)
  · rename_i channel found
    obtain ⟨member, own⟩ := getPrivateChannel_eq_some found
    split
    · rename_i same
      exact iff_of_true isPrivate fun apart => absurd same apart
    · rename_i apart
      rw [private_modifyPrivate_iff isPrivate (fun channel => by simp) (fun channel => by simp),
        forall_prop_of_true apart]
      constructor
      · intro after each before owner
        obtain rfl := isPrivate.eq_of_owner before member (owner.trans own.symm)
        exact (recorded_excludePlayer_iff (isPrivate.recorded each before)).mp
          (after each before rfl)
      · intro guarded each before same
        obtain rfl := isPrivate.eq_of_id before member same
        exact (recorded_excludePlayer_iff (isPrivate.recorded each before)).mpr
          (guarded each before own)

theorem private_addUserToChannel (onJoin : Bool) :
    Private (chat.addUserToChannel canJoin onJoin player channelId) := by
  rw [Chat.addUserToChannel]
  split
  · exact isPrivate
  · exact isPrivate.congr rfl fun _ _ _ _ => rfl
  · rename_i channel found
    obtain ⟨member, rfl, invited, -⟩ := getChannel_priv found
    have ids (each : PrivateChatChannel) : (each.addUser player).id = each.id :=
      PrivateChatChannel.id_addUser
    refine (private_modifyPrivate_iff isPrivate ids (fun _ => rfl)).mpr
      fun each before same user among => ?_
    obtain rfl := isPrivate.eq_of_id before member same
    rcases PrivateChatChannel.mem_users_addUser.mp among with rfl | old
    · exact invited
    · exact isPrivate.recorded each before user old

theorem private_removeUser (found : Chat.Found) :
    Private (chat.removeUser player channelId found) := by
  cases found with
  | normal channel => exact isPrivate.congr rfl fun _ _ _ _ => rfl
  | priv channel =>
    have ids (each : PrivateChatChannel) : (each.removeUser player).id = each.id := rfl
    exact (private_modifyPrivate_iff isPrivate ids (fun _ => rfl)).mpr
      fun each before _ user among =>
        isPrivate.recorded each before user (PrivateChatChannel.mem_users_removeUser.mp among).1

theorem private_removeUserFromChannel :
    Private (chat.removeUserFromChannel canJoin player channelId) := by
  rw [Chat.removeUserFromChannel]
  split
  · exact isPrivate
  · rename_i found _
    split
    · dsimp only
      split
      · exact (private_removeUser isPrivate found).filter _
      · exact private_removeUser isPrivate found
    · exact isPrivate

theorem closed_removeUserFromChannel_iff (numbered : chat.guid player ≠ 0) :
    Closed chat (.closeChannel canJoin player channelId)
        (chat.removeUserFromChannel canJoin player channelId) ↔
      Guarded chat (.closeChannel canJoin player channelId) := by
  constructor
  · intro closed channel member same user own
    by_contra hidden
    have left := closed channel member same user own
    rw [removeUserFromChannel_hidden hidden numbered] at left
    exact left channel member same
  · intro guarded channel member same user own
    have visible := guarded channel member same user own
    have bounds := isPrivate.numbered channel member
    have others : ¬(channelId = CHANNEL_GUILD ∨ channelId = CHANNEL_PARTY) := by
      rintro (rfl | rfl)
      · rw [same] at bounds
        exact absurd bounds.1 (by decide)
      · rw [same] at bounds
        exact absurd bounds.1 (by decide)
    have here : chat.privateChannels.find? (fun channel => channel.id = channelId) =
        some channel := by
      cases found : chat.privateChannels.find? (fun channel => channel.id = channelId) with
      | none =>
        have apart := List.find?_eq_none.mp found channel member
        exact absurd same (by simpa using apart)
      | some each =>
        have equal := List.find?_some found
        rw [isPrivate.eq_of_id (List.mem_of_find?_eq_some found) member
          ((of_decide_eq_true equal).trans same.symm)]
    have found : chat.getChannel canJoin player channelId = some (.priv channel) := by
      rw [Chat.getChannel, if_neg others, visible]
      simp only [here]
      exact if_pos (PrivateChatChannel.isInvited_iff.mpr (.inl own.symm))
    have deleted : chat.removeUserFromChannel canJoin player channelId =
        (chat.removeUser player channelId (.priv channel)).deleteChannel channelId := by
      rw [Chat.removeUserFromChannel, found]
      dsimp only
      rw [if_pos (show player ∈ (Chat.Found.priv channel).users from user)]
      exact if_pos own
    intro left stays
    rw [deleted] at stays
    simpa using (List.mem_filter.mp stays).2

end

end Steps

/-! ## Who is in the game -/

section Presence

variable {chat after : Chat} {player : Nat}

theorem Present.of_users (present : Present chat) (players : after.players = chat.players)
    (users : ∀ channel ∈ after.privateChannels, ∀ user ∈ channel.users,
      (∃ before ∈ chat.privateChannels, user ∈ before.users) ∨
        (chat.players user).inGame = true) : Present after where
  users channel member user among := by
    rw [players]
    rcases users channel member user among with ⟨before, old, was⟩ | now
    · exact present.users before old user was
    · exact now
  characters user := by
    have same : after.guid user = chat.guid user := by rw [Chat.guid, players, Chat.guid]
    rw [players, same]
    exact present.characters user

theorem present_modifyPrivate (present : Present chat) {channelId : Nat}
    {change : PrivateChatChannel → PrivateChatChannel}
    (users : ∀ channel, ∀ user ∈ (change channel).users, user ∈ channel.users ∨
      (chat.players user).inGame = true) : Present (chat.modifyPrivate channelId change) := by
  refine present.of_users rfl fun channel member user among => ?_
  obtain ⟨before, old, rfl⟩ := mem_modifyPrivate.mp member
  split at among
  · exact (users before user among).imp (fun was => ⟨before, old, was⟩) id
  · exact .inl ⟨before, old, among⟩

theorem present_removeUserFromAllChannels (present : Present chat) :
    Present (chat.removeUserFromAllChannels player) := by
  refine present.of_users rfl fun left member user among => ?_
  obtain ⟨channel, old, -, rfl⟩ := mem_removeUserFromAllChannels.mp member
  exact .inl ⟨channel, old, (PrivateChatChannel.mem_users_removeUser.mp among).1⟩

theorem players_setPlayer_of_ne {other : Nat} (apart : other ≠ player) (value : Player) :
    (chat.setPlayer player value).players other = chat.players other :=
  Function.update_of_ne apart ..

theorem players_setPlayer_self (value : Player) :
    (chat.setPlayer player value).players player = value :=
  Function.update_self ..

theorem present_setPlayer (present : Present chat) {value : Player}
    (idle : ∀ channel ∈ chat.privateChannels, player ∉ channel.users)
    (numbered : value.inGame = true → value.guid ≠ 0) : Present (chat.setPlayer player value) where
  users channel member user among := by
    have other : user ≠ player := by
      rintro rfl
      exact idle channel member among
    rw [players_setPlayer_of_ne other]
    exact present.users channel member user among
  characters user := by
    rw [Chat.guid]
    by_cases same : user = player
    · subst same
      rw [players_setPlayer_self]
      exact numbered
    · rw [players_setPlayer_of_ne same]
      exact present.characters user

theorem Present.idle (present : Present chat) (absent : (chat.players player).inGame = false) :
    ∀ channel ∈ chat.privateChannels, player ∉ channel.users := by
  intro channel member among
  rw [present.users channel member player among] at absent
  cases absent

theorem private_setPlayer (isPrivate : Private chat)
    (idle : ∀ channel ∈ chat.privateChannels, player ∉ channel.users) (value : Player) :
    Private (chat.setPlayer player value) := by
  refine isPrivate.congr rfl fun channel member user among => ?_
  have other : user ≠ player := by
    rintro rfl
    exact idle channel member among
  rw [Chat.guid, players_setPlayer_of_ne other]
  rfl

theorem private_logout_iff (isPrivate : Private chat) :
    Private (chat.logout player) ↔ ∀ channel ∈ chat.privateChannels, Alone chat player channel := by
  have idle : ∀ channel ∈ (chat.removeUserFromAllChannels player).privateChannels,
      player ∉ channel.users := fun channel member =>
    (closed_removeUserFromAllChannels channel member).2
  rw [← private_removeUserFromAllChannels_iff isPrivate]
  constructor
  · intro after
    refine after.congr rfl fun channel member user among => ?_
    have other : user ≠ player := by
      rintro rfl
      exact idle channel member among
    rw [Chat.logout, Chat.guid, Chat.guid, players_setPlayer_of_ne other]
  · exact fun after => private_setPlayer after idle _

theorem present_apply (present : Present chat) {op : ChatOp} (legal : op.Legal chat) :
    Present (op.apply chat) := by
  cases op with
  | login player guid => exact present_setPlayer present (present.idle legal.1) fun _ => legal.2
  | logout player =>
    refine present_setPlayer (present_removeUserFromAllChannels present)
      (fun channel member => (closed_removeUserFromAllChannels channel member).2) fun gone => ?_
    cases gone
  | connect player => exact present_removeUserFromAllChannels present
  | load channelId onJoin =>
    rw [ChatOp.apply, Chat.load]
    split
    · exact ⟨present.users, present.characters⟩
    · exact ⟨present.users, present.characters⟩
  | createPrivateChannel canJoin isPremium player =>
    rw [ChatOp.apply]
    rcases @playerCreatePrivateChannel_cases chat canJoin player isPremium with
      same | ⟨i, -, -, created⟩
    · rw [same]
      exact present
    · rw [created]
      refine present.of_users rfl fun channel member user among => ?_
      rcases (List.mem_orderedInsert _).mp member with rfl | old
      · obtain rfl := List.mem_singleton.mp among
        exact .inr legal
      · exact .inl ⟨channel, old, among⟩
  | channelInvite player other =>
    rw [ChatOp.apply, Chat.playerChannelInvite]
    split
    · exact present
    · split
      · exact present
      · refine present_modifyPrivate present fun channel user among => .inl ?_
        rwa [PrivateChatChannel.toChatChannel_invitePlayer] at among
  | channelExclude player other =>
    rw [ChatOp.apply, Chat.playerChannelExclude]
    split
    · exact present
    · split
      · exact present
      · refine present_modifyPrivate present fun channel user among => .inl ?_
        unfold PrivateChatChannel.excludePlayer at among
        split at among
        · exact (PrivateChatChannel.mem_users_removeUser.mp among).1
        · exact among
  | openChannel canJoin onJoin player channelId =>
    rw [ChatOp.apply, Chat.addUserToChannel]
    split
    · exact present
    · exact ⟨present.users, present.characters⟩
    · refine present_modifyPrivate present fun channel user among => ?_
      rcases PrivateChatChannel.mem_users_addUser.mp among with rfl | old
      · exact .inr legal
      · exact .inl old
  | closeChannel canJoin player channelId =>
    have removed (found : Chat.Found) : Present (chat.removeUser player channelId found) := by
      cases found with
      | normal channel => exact ⟨present.users, present.characters⟩
      | priv channel =>
        exact present_modifyPrivate present fun channel user among =>
          .inl (PrivateChatChannel.mem_users_removeUser.mp among).1
    rw [ChatOp.apply, Chat.removeUserFromChannel]
    split
    · exact present
    · rename_i found _
      split
      · dsimp only
        split
        · refine ⟨fun channel member => ?_, (removed found).characters⟩
          exact (removed found).users channel (List.mem_filter.mp member).1
        · exact removed found
      · exact present

end Presence

/-! ## Runs -/

variable {chat : Chat}

theorem secret_apply_iff (isPrivate : Private chat) (present : Present chat) {op : ChatOp}
    (legal : op.Legal chat) : Secret chat op (op.apply chat) ↔ Guarded chat op := by
  have whole {after : Chat} (closed : Closed chat op after) :
      Secret chat op after ↔ Private after :=
    ⟨Secret.isPrivate, fun stays => ⟨stays, stays.onlyInvitedHear, closed⟩⟩
  cases op with
  | login player guid =>
    refine (whole trivial).trans (iff_of_true ?_ trivial)
    exact private_setPlayer isPrivate (present.idle legal.1) _
  | logout player =>
    have closed : Closed chat (.logout player) (chat.logout player) :=
      closed_removeUserFromAllChannels
    exact (whole closed).trans (private_logout_iff isPrivate)
  | connect player =>
    exact (whole closed_removeUserFromAllChannels).trans
      (private_removeUserFromAllChannels_iff isPrivate)
  | load channelId onJoin =>
    refine (whole trivial).trans (iff_of_true ?_ trivial)
    rw [ChatOp.apply, Chat.load]
    split
    · exact isPrivate.congr rfl fun _ _ _ _ => rfl
    · exact isPrivate.congr rfl fun _ _ _ _ => rfl
  | createPrivateChannel canJoin isPremium player =>
    exact (whole trivial).trans
      (iff_of_true (private_playerCreatePrivateChannel isPrivate isPremium) trivial)
  | channelInvite player other =>
    exact (whole trivial).trans (iff_of_true (private_playerChannelInvite isPrivate) trivial)
  | channelExclude player other =>
    exact (whole trivial).trans (private_playerChannelExclude_iff isPrivate)
  | openChannel canJoin onJoin player channelId =>
    exact (whole trivial).trans
      (iff_of_true (private_addUserToChannel isPrivate onJoin) trivial)
  | closeChannel canJoin player channelId =>
    have after : Private (chat.removeUserFromChannel canJoin player channelId) :=
      private_removeUserFromChannel isPrivate
    rw [← closed_removeUserFromChannel_iff isPrivate (present.characters player legal)]
    exact ⟨Secret.closed, fun closed => ⟨after, after.onlyInvitedHear, closed⟩⟩

/-- **Private channels stay private**, at each step of a run, exactly when no owner leaves a hidden
channel and no character loses its invitation of which another creature is a user. -/
theorem private_channels_iff {start : Chat} (isPrivate : Private start) (present : Present start)
    {ops : List ChatOp} (legal : chatSystem.Legal start ops) :
    chatSystem.Throughout Secret start ops ↔
      chatSystem.Throughout (fun before op _ => Guarded before op) start ops := by
  have step : ∀ before op, Private before ∧ Present before → chatSystem.legal before op →
      (Secret before op (chatSystem.step before op) ↔ Guarded before op) ∧
        (Secret before op (chatSystem.step before op) →
          Private (chatSystem.step before op) ∧ Present (chatSystem.step before op)) :=
    fun before op invariant allowed =>
      ⟨secret_apply_iff invariant.1 invariant.2 allowed,
        fun secret => ⟨secret.isPrivate, present_apply invariant.2 allowed⟩⟩
  exact System.Throughout.iff_of_invariant step ⟨isPrivate, present⟩ legal

variable (normalChannels : List ChatChannel)

theorem private_empty : Private { normalChannels := normalChannels } where
  recorded _ member := by cases member
  numbered _ member := by cases member
  distinct := List.nodup_nil
  owned := List.nodup_nil

theorem present_empty : Present { normalChannels := normalChannels } where
  users _ member := by cases member
  characters _ there := by cases there

/-- A player creates a channel and invites another, who opens it; both leave. -/
theorem private_channels_iff_talk :
    chatSystem.Throughout Secret {}
      [.login 0 7, .login 1 8, .createPrivateChannel true true 0, .channelInvite 0 1,
        .openChannel true true 1 100, .channelExclude 0 1, .closeChannel true 0 100] := by
  refine (private_channels_iff (private_empty []) (present_empty []) (by decide)).mpr
    ⟨trivial, trivial, trivial, trivial, trivial, ?_, ?_, trivial⟩
  · intro _ channel member _ _
    obtain rfl := List.mem_singleton.mp member
    exact .inr (by decide)
  · intro _ _ _ _ _
    rfl

/-- A character is in the game twice, and uses a channel with both creatures. The owner excludes
one, and the other stays a user without an invitation. -/
theorem excluded_character_hears :
    chatSystem.Legal {}
        [.login 0 7, .login 1 8, .login 2 8, .createPrivateChannel true true 0, .channelInvite 0 1,
          .openChannel true true 1 100, .openChannel true true 2 100, .channelExclude 0 1] ∧
      ¬chatSystem.Throughout Secret {}
        [.login 0 7, .login 1 8, .login 2 8, .createPrivateChannel true true 0, .channelInvite 0 1,
          .openChannel true true 1 100, .openChannel true true 2 100, .channelExclude 0 1] := by
  refine ⟨by decide, fun throughout => ?_⟩
  have secret := throughout.2.2.2.2.2.2.2.1.isPrivate
  have recorded := secret.recorded { id := 100, users := [2, 0], owner := 7 } (by decide) 2
    (by decide)
  exact absurd recorded (by decide)

end Otserv.Chats
