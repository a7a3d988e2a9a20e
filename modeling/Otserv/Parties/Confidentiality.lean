import Otserv.Foundation.Runs
import Otserv.Parties.PartyChat

/-!
# Who hears the party chat

Every user of a party's channel should be the leader or a member of the party, and
no channel outlive its party (`Confidential`).

A player who leaves, or whose party is disbanded, has no party any more when the
chat is asked to remove the player, and the chat finds the channel by the party:
nobody is removed, and the channel of a disbanded party stays
(`party_chat_confidential`).
-/

namespace Otserv.Parties

open Otserv.Foundation
open Function (update update_of_ne update_self)

inductive PartyOp where
  | construct (address : Nat) (leader : Player)
  | invitePlayer (address : Nat) (player : Player)
  | joinParty (onJoin : Bool) (address : Nat) (player : Player)
  | leaveParty (onLeave onDisband : Bool) (address : Nat) (player : Player)
  | passPartyLeadership (address : Nat) (player : Player)
  | removeInvite (onDisband : Bool) (address : Nat) (player : Player) (removeFromPlayer : Bool)
  | disband (onDisband : Bool) (address : Nat)
  | getChannelList (player : Player)
  | createChannel (player : Player)
  | addUserToChannel (onJoin : Bool) (player : Player)
  | removeUserFromChannel (player : Player)
  | removeUserFromAllChannels (player : Player)

/-- The parties and the chat. A new party gets an address at which there is none. -/
def partySystem : System World PartyOp where
  legal world
    | .construct address _ => world.parties address = none
    | _ => True
  step world
    | .construct address leader => world.construct address leader
    | .invitePlayer address player => world.invitePlayer address player
    | .joinParty onJoin address player => world.joinParty onJoin address player
    | .leaveParty onLeave onDisband address player =>
      world.leaveParty onLeave onDisband address player
    | .passPartyLeadership address player => world.passPartyLeadership address player
    | .removeInvite onDisband address player removeFromPlayer =>
      world.removeInvite onDisband address player removeFromPlayer
    | .disband onDisband address => world.disband onDisband address
    | .getChannelList player => world.getChannelList player
    | .createChannel player => world.createChannel player
    | .addUserToChannel onJoin player => world.addUserToChannel onJoin player
    | .removeUserFromChannel player => world.removeUserFromChannel player
    | .removeUserFromAllChannels player => world.removeUserFromAllChannels player

/-! ## Confidentiality -/

variable (world : World)

/-- A channel belongs to a party, and its users are the leader or members. -/
def Confidential : Prop :=
  ∀ address users, world.partyChannels address = some users →
    ∃ party, world.parties address = some party ∧ ∀ user ∈ users, party.has user

/-- A player's party exists, and has the player. -/
def PointersRight : Prop :=
  ∀ player address, world.partyOf player = some address →
    ∃ party, world.parties address = some party ∧ party.has player

structure PartyInvariant (world : World) : Prop where
  pointers : PointersRight world
  channels : Confidential world

/-- Who hears a message in a party's channel is the leader or a member. -/
def OnlyMembersHear : Prop :=
  ∀ address fromPlayer, ∀ hearer ∈ world.talk address fromPlayer,
    ∃ party, world.parties address = some party ∧ party.has hearer

theorem Confidential.onlyMembersHear {world : World} (confidential : Confidential world) :
    OnlyMembersHear world := by
  intro address fromPlayer hearer hears
  unfold World.talk at hears
  cases channel : world.partyChannels address with
  | none =>
    rw [channel] at hears
    cases hears
  | some users =>
    rw [channel] at hears
    dsimp only at hears
    split at hears
    · obtain ⟨party, exists_, has⟩ := confidential address users channel
      exact ⟨party, exists_, has hearer hears⟩
    · cases hears

/-- The party comes to its end when the player leaves. -/
def Party.endsWithout (player : Player) (party : Party) : Bool :=
  if party.leader = player then party.missingLeader player
  else (party.memberList.erase player).isEmpty && party.inviteList.isEmpty

/-- Nobody leaves a party while a user of its channel, and no party is disbanded
while it has a channel. -/
def LeavesQuietly : PartyOp → World → Prop
  | .leaveParty onLeave onDisband address player, _ =>
    ∀ party, world.parties address = some party →
      world.getParty player = some address ∨ party.leader = player → onLeave = true →
        (∀ users, world.partyChannels address = some users → player ∉ users) ∧
          (party.endsWithout player = true → onDisband = true →
            world.partyChannels address = none)
  | .removeInvite onDisband address player _, _ =>
    ∀ party, world.parties address = some party → player ∈ party.inviteList →
      { party with inviteList := party.inviteList.erase player : Party }.empty = true →
        onDisband = true → world.partyChannels address = none
  | .disband onDisband address, _ =>
    onDisband = true → (world.parties address).isSome → world.partyChannels address = none
  | _, _ => True

/-! ## What the operations change -/

section Changes

variable {world : World} {address : Nat} {player : Player} {party : Party}

theorem removeUserFromChannel_of_none (none : world.partyOf player = none) :
    world.removeUserFromChannel player = world := by
  simp only [World.removeUserFromChannel, World.getChannel, World.getParty, none]

theorem partyOf_setParty_self (party : Option Nat) (player : Player) (world : World) :
    (world.setParty party player).partyOf player = party :=
  update_self ..

theorem partyOf_setParty_of_ne {other : Player} (apart : other ≠ player) (party : Option Nat)
    (world : World) : (world.setParty party player).partyOf other = world.partyOf other :=
  update_of_ne apart ..

/-- Closing the channel after the party was unset closes nothing. -/
theorem dismiss_eq (player : Player) (world : World) :
    world.dismiss player = world.setParty none player :=
  removeUserFromChannel_of_none (partyOf_setParty_self none player world)

theorem foldl_dismiss_eq : ∀ (members : List Player) (world : World),
    members.foldl (fun world member => world.dismiss member) world =
      { world with
        partyOf := fun player => if player ∈ members then none else world.partyOf player }
  | [], world => by simp
  | member :: members, world => by
      rw [List.foldl_cons, foldl_dismiss_eq members, dismiss_eq]
      unfold World.setParty
      congr 1
      funext player
      by_cases same : player = member
      · simp [same]
      · simp [same]

theorem foldl_removePartyInvitation_eq (address : Nat) :
    ∀ (invitees : List Player) (world : World), ∃ invitations,
      invitees.foldl (fun world invitee => world.removePartyInvitation address invitee) world =
        { world with invitePartyList := invitations }
  | [], world => ⟨_, rfl⟩
  | invitee :: invitees, world => by
      obtain ⟨invitations, rest⟩ := foldl_removePartyInvitation_eq address invitees
        (world.removePartyInvitation address invitee)
      exact ⟨invitations, rest⟩

theorem disband_eq (exists_ : world.parties address = some party) :
    ∃ invitations, world.disband true address =
      { world with
        partyOf := fun player => if party.has player then none else world.partyOf player
        invitePartyList := invitations
        parties := update world.parties address none } := by
  obtain ⟨invitations, removed⟩ := foldl_removePartyInvitation_eq address party.inviteList
    (world.setParty none party.leader)
  refine ⟨invitations, ?_⟩
  unfold World.disband
  rw [exists_]
  simp only [Bool.not_true, Bool.false_eq_true, if_false]
  rw [dismiss_eq, removed, foldl_dismiss_eq]
  unfold World.setPartyAt World.setParty
  congr 1
  funext player
  unfold Party.has
  by_cases leads : player = party.leader
  · simp [leads]
  · simp [leads]

section

variable (invariant : PartyInvariant world)
include invariant

/-- A party that gets more, or is asked about no other way. -/
theorem PartyInvariant.setPartyAt (exists_ : world.parties address = some party) {after : Party}
    (keeps : ∀ player, party.has player → after.has player) :
    PartyInvariant (world.setPartyAt address (some after)) := by
  have lookup : ∀ other found, world.parties other = some found →
      ∃ now, (world.setPartyAt address (some after)).parties other = some now ∧
        ∀ player, found.has player → now.has player := by
    intro other found here
    by_cases same : other = address
    · subst same
      obtain rfl := Option.some.inj (exists_.symm.trans here)
      exact ⟨after, update_self other _ _, keeps⟩
    · exact ⟨found, (update_of_ne same _ _).trans here, fun _ => id⟩
  constructor
  · intro player other points
    obtain ⟨found, here, has⟩ := invariant.pointers player other points
    obtain ⟨now, there, keeps⟩ := lookup other found here
    exact ⟨now, there, keeps player has⟩
  · intro other users channel
    obtain ⟨found, here, has⟩ := invariant.channels other users channel
    obtain ⟨now, there, keeps⟩ := lookup other found here
    exact ⟨now, there, fun user isUser => keeps user (has user isUser)⟩

theorem PartyInvariant.invitations (invitations : Player → List Nat) :
    PartyInvariant { world with invitePartyList := invitations } :=
  ⟨invariant.pointers, invariant.channels⟩

theorem PartyInvariant.removePartyInvitation (address : Nat)
    (player : Player) : PartyInvariant (world.removePartyInvitation address player) :=
  invariant.invitations _

theorem PartyInvariant.addPartyInvitation (address : Nat)
    (player : Player) : PartyInvariant (world.addPartyInvitation address player) := by
  unfold World.addPartyInvitation
  split
  · exact invariant
  · exact invariant.invitations _

theorem PartyInvariant.set (exists_ : world.parties address = some party) (has : party.has player) :
    PartyInvariant (world.setParty (some address) player) := by
  refine ⟨fun other place points => ?_, invariant.channels⟩
  by_cases same : other = player
  · subst same
    rw [partyOf_setParty_self] at points
    obtain rfl := Option.some.inj points
    exact ⟨party, exists_, has⟩
  · rw [partyOf_setParty_of_ne same] at points
    exact invariant.pointers other place points

theorem PartyInvariant.disband (onDisband : Bool)
    (silent : onDisband = true → (world.parties address).isSome →
      world.partyChannels address = none) :
    PartyInvariant (world.disband onDisband address) := by
  cases exists_ : world.parties address with
  | none =>
    rw [World.disband, exists_]
    exact invariant
  | some party =>
    cases onDisband with
    | false =>
      rw [World.disband, exists_]
      exact invariant
    | true =>
      have noChannel := silent rfl (by rw [exists_]; rfl)
      obtain ⟨invitations, disbanded⟩ := disband_eq exists_
      rw [disbanded]
      constructor
      · intro player other points
        dsimp only at points
        split at points
        · cases points
        · rename_i outside
          obtain ⟨found, here, has⟩ := invariant.pointers player other points
          have apart : other ≠ address := by
            rintro rfl
            obtain rfl := Option.some.inj (exists_.symm.trans here)
            exact outside has
          exact ⟨found, (update_of_ne apart _ _).trans here, has⟩
      · intro other users channel
        have apart : other ≠ address := by
          rintro rfl
          rw [noChannel] at channel
          cases channel
        obtain ⟨found, here, has⟩ := invariant.channels other users channel
        exact ⟨found, (update_of_ne apart _ _).trans here, has⟩

end

theorem setPartyAt_same (exists_ : world.parties address = some party) :
    world.setPartyAt address (some party) = world := by
  unfold World.setPartyAt
  rw [← exists_, Function.update_eq_self]

theorem passPartyLeadership_spec (exists_ : world.parties address = some party)
    (player : Player) : ∃ after, world.passPartyLeadership address player =
        world.setPartyAt address (some after) ∧
      (∀ other, party.has other → after.has other) ∧
      (after = party ∨ after = { party with
        leader := player, memberList := party.leader :: party.memberList.erase player }) := by
  unfold World.passPartyLeadership
  rw [exists_]
  dsimp only
  split
  · exact ⟨party, (setPartyAt_same exists_).symm, fun _ => id, .inl rfl⟩
  · refine ⟨_, rfl, ?_, .inr rfl⟩
    rintro other (leads | isMember)
    · exact .inr (List.mem_cons.mpr (.inl leads))
    · by_cases same : other = player
      · exact .inl same
      · exact .inr (List.mem_cons_of_mem _ ((List.mem_erase_of_ne same).mpr isMember))

theorem passOnLeaving_spec (exists_ : world.parties address = some party) (player : Player) :
    ∃ after, world.passOnLeaving address player = world.setPartyAt address (some after) ∧
      (∀ other, party.has other → after.has other) ∧
      ({ after with memberList := after.memberList.erase player : Party }.empty = true →
        party.endsWithout player = true) := by
  have stays : ¬ (party.leader = player ∧ (!party.missingLeader player) = true) →
      ({ party with memberList := party.memberList.erase player : Party }.empty = true →
        party.endsWithout player = true) := by
    intro remains empty
    unfold Party.endsWithout
    split
    · rename_i leads
      by_contra leader
      exact remains ⟨leads, by simpa using leader⟩
    · exact empty
  unfold World.passOnLeaving
  rw [exists_]
  dsimp only
  split
  · rename_i leaving
    obtain ⟨leads, led⟩ := leaving
    have stillLed : ¬ (party.memberList = [] ∨
        party.memberList.length = 1 ∧ party.inviteList = []) := by
      intro missing
      simp [Party.missingLeader, leads, missing] at led
    cases members : party.memberList with
    | nil => exact absurd (.inl members) stillLed
    | cons front rest =>
      -- whether or not the leadership is passed on, someone remains
      obtain ⟨after, passed, keeps, cases_⟩ := passPartyLeadership_spec exists_ front
      refine ⟨after, passed, keeps, fun empty => ?_⟩
      exfalso
      simp only [Party.empty, Bool.and_eq_true, List.isEmpty_iff] at empty
      have alone : after.inviteList = [] → rest ≠ [] := by
        intro none last
        have same : after.inviteList = party.inviteList := by
          rcases cases_ with rfl | rfl <;> rfl
        exact stillLed (.inr ⟨by rw [members, last]; rfl, by rw [← same, none]⟩)
      have more := alone empty.2
      have long : rest.length < after.memberList.length := by
        rcases cases_ with rfl | rfl
        · rw [members]
          exact rest.length.lt_succ_self
        · simp [members]
      have erased := @List.le_length_erase _ _ _ player after.memberList
      rw [empty.1, List.length_nil] at erased
      exact more (List.length_eq_zero_iff.mp (by omega))
  · rename_i remains
    exact ⟨party, (setPartyAt_same exists_).symm, fun _ => id, stays remains⟩

section

variable (invariant : PartyInvariant world)
include invariant

theorem PartyInvariant.passPartyLeadership (player : Player) :
    PartyInvariant (world.passPartyLeadership address player) := by
  cases exists_ : world.parties address with
  | none =>
    rw [World.passPartyLeadership, exists_]
    exact invariant
  | some party =>
    obtain ⟨after, passed, keeps, -⟩ := passPartyLeadership_spec exists_ player
    rw [passed]
    exact invariant.setPartyAt exists_ keeps

theorem PartyInvariant.leaveParty (onLeave onDisband : Bool) {after : World}
    (quiet : LeavesQuietly world (.leaveParty onLeave onDisband address player) after) :
    PartyInvariant (world.leaveParty onLeave onDisband address player) := by
  unfold World.leaveParty
  cases exists_ : world.parties address with
  | none => exact invariant
  | some party =>
    dsimp only
    split
    · exact invariant
    rename_i inParty
    split
    · exact invariant
    rename_i allowed
    have isIn : world.getParty player = some address ∨ party.leader = player := by
      by_contra outside
      push Not at outside
      exact inParty outside
    have leaves : onLeave = true := by simpa using allowed
    obtain ⟨noUser, noChannel⟩ := quiet party exists_ isIn leaves
    obtain ⟨passed, passing, keeps, ends⟩ := passOnLeaving_spec exists_ player
    have erased : (world.passOnLeaving address player).eraseMember address player =
        world.setPartyAt address
          (some { passed with memberList := passed.memberList.erase player }) := by
      rw [passing, World.eraseMember]
      simp only [World.setPartyAt, update_self, Function.update_idem]
    rw [erased]
    -- the others stay in the party, and the player is neither its user nor points to it
    have gone : PartyInvariant ((world.setPartyAt address
        (some { passed with memberList := passed.memberList.erase player })).dismiss player) := by
      rw [dismiss_eq]
      have others : ∀ other, other ≠ player → party.has other →
          ({ passed with memberList := passed.memberList.erase player } : Party).has other := by
        intro other apart has
        rcases keeps other has with leads | isMember
        · exact .inl leads
        · exact .inr ((List.mem_erase_of_ne apart).mpr isMember)
      constructor
      · intro other place points
        have apart : other ≠ player := by
          rintro rfl
          rw [partyOf_setParty_self] at points
          cases points
        rw [partyOf_setParty_of_ne apart] at points
        obtain ⟨found, here, has⟩ := invariant.pointers other place points
        by_cases same : place = address
        · subst same
          obtain rfl := Option.some.inj (exists_.symm.trans here)
          exact ⟨_, update_self place _ _, others other apart has⟩
        · exact ⟨found, (update_of_ne same _ _).trans here, has⟩
      · intro place users channel
        obtain ⟨found, here, has⟩ := invariant.channels place users channel
        by_cases same : place = address
        · subst same
          obtain rfl := Option.some.inj (exists_.symm.trans here)
          refine ⟨_, update_self place _ _, fun user isUser => ?_⟩
          refine others user ?_ (has user isUser)
          rintro rfl
          exact noUser users channel isUser
        · exact ⟨found, (update_of_ne same _ _).trans here, has⟩
    split
    · rename_i disbands
      refine gone.disband onDisband fun allowed _ => ?_
      rw [dismiss_eq]
      refine noChannel ?_ allowed
      rcases disbands with missing | empty
      · unfold Party.endsWithout
        rw [if_pos, missing]
        simp only [Party.missingLeader, decide_eq_true_eq] at missing
        exact missing.1
      · apply ends
        have lookup : ((world.setPartyAt address (some { passed with
            memberList := passed.memberList.erase player })).dismiss player).parties address =
            some { passed with memberList := passed.memberList.erase player } := by
          rw [dismiss_eq]
          exact update_self ..
        change Option.any Party.empty (World.parties (.dismiss player _) address) = true
          at empty
        rw [lookup] at empty
        exact empty
    · exact gone

/-! ## Joining and inviting -/

theorem PartyInvariant.construct (free : world.parties address = none) (leader : Player) :
    PartyInvariant (world.construct address leader) := by
  have made : PartyInvariant (world.setPartyAt address (some { leader := leader })) := by
    constructor
    · intro player other points
      obtain ⟨found, here, has⟩ := invariant.pointers player other points
      have apart : other ≠ address := by
        rintro rfl
        rw [free] at here
        cases here
      exact ⟨found, (update_of_ne apart _ _).trans here, has⟩
    · intro other users channel
      obtain ⟨found, here, has⟩ := invariant.channels other users channel
      have apart : other ≠ address := by
        rintro rfl
        rw [free] at here
        cases here
      exact ⟨found, (update_of_ne apart _ _).trans here, has⟩
  exact made.set (update_self ..) (.inl rfl)

theorem PartyInvariant.invitePlayer (player : Player) :
    PartyInvariant (world.invitePlayer address player) := by
  unfold World.invitePlayer
  cases exists_ : world.parties address with
  | none => exact invariant
  | some party =>
    dsimp only
    split
    · exact invariant
    · apply PartyInvariant.addPartyInvitation
      exact invariant.setPartyAt exists_ fun _ has => has

theorem PartyInvariant.joinParty (onJoin : Bool)
    (player : Player) : PartyInvariant (world.joinParty onJoin address player) := by
  unfold World.joinParty
  cases exists_ : world.parties address with
  | none => exact invariant
  | some party =>
    dsimp only
    split
    · exact invariant
    · split
      · exact invariant
      · apply PartyInvariant.removePartyInvitation
        refine .set (invariant.setPartyAt exists_ ?_) (update_self ..)
          (.inr (by simp))
        rintro other (leads | isMember)
        · exact .inl leads
        · exact .inr (List.mem_append_left _ isMember)

theorem PartyInvariant.removeInvite (onDisband : Bool) (removeFromPlayer : Bool) {after : World}
    (quiet : LeavesQuietly world (.removeInvite onDisband address player removeFromPlayer) after) :
    PartyInvariant (world.removeInvite onDisband address player removeFromPlayer) := by
  unfold World.removeInvite
  cases exists_ : world.parties address with
  | none => exact invariant
  | some party =>
    dsimp only
    split
    · exact invariant
    rename_i invited
    have revoked : PartyInvariant (world.setPartyAt address
        (some { party with inviteList := party.inviteList.erase player })) :=
      invariant.setPartyAt exists_ fun _ has => has
    have noChannel := quiet party exists_ (not_not.mp invited)
    split
    · rename_i empty
      split
      · exact (revoked.removePartyInvitation address player).disband onDisband
          fun allowed _ => noChannel empty allowed
      · exact revoked.disband onDisband fun allowed _ => noChannel empty allowed
    · split
      · exact revoked.removePartyInvitation address player
      · exact revoked

/-! ## The chat -/

theorem PartyInvariant.setChannel {users : List Player}
    (exists_ : world.parties address = some party) (has : ∀ user ∈ users, party.has user) :
    PartyInvariant (world.setChannel address (some users)) := by
  refine ⟨invariant.pointers, fun other found channel => ?_⟩
  by_cases same : other = address
  · subst same
    obtain rfl := Option.some.inj ((update_self other _ _).symm.trans channel)
    exact ⟨party, exists_, has⟩
  · exact invariant.channels other found ((update_of_ne same _ _).symm.trans channel)

end

theorem getChannel_some {found : Nat × List Player} (finds : world.getChannel player = some found) :
    world.partyOf player = some found.1 ∧ world.partyChannels found.1 = some found.2 := by
  unfold World.getChannel World.getParty at finds
  cases points : world.partyOf player with
  | none =>
    rw [points] at finds
    cases finds
  | some place =>
    rw [points] at finds
    obtain ⟨users, channel, rfl⟩ := Option.map_eq_some_iff.mp finds
    exact ⟨rfl, channel⟩

section

variable (invariant : PartyInvariant world)
include invariant

variable (player : Player)

theorem PartyInvariant.createChannel : PartyInvariant (world.createChannel player) := by
  unfold World.createChannel World.getParty
  split
  · exact invariant
  · cases points : world.partyOf player with
    | none => exact invariant
    | some place =>
      dsimp only
      split
      · exact invariant
      · obtain ⟨party, exists_, -⟩ := invariant.pointers player place points
        exact invariant.setChannel exists_ fun user isUser => by cases isUser

theorem PartyInvariant.getChannelList : PartyInvariant (world.getChannelList player) := by
  unfold World.getChannelList
  split
  · split
    · exact invariant
    · exact invariant.createChannel player
  · exact invariant

theorem PartyInvariant.addUserToChannel (onJoin : Bool)
    (player : Player) : PartyInvariant (world.addUserToChannel onJoin player) := by
  unfold World.addUserToChannel
  cases finds : world.getChannel player with
  | none => exact invariant
  | some found =>
    obtain ⟨place, users⟩ := found
    obtain ⟨points, channel⟩ := getChannel_some finds
    obtain ⟨party, exists_, hasUsers⟩ := invariant.channels place users channel
    obtain ⟨same, there, has⟩ := invariant.pointers player place points
    obtain rfl := Option.some.inj (exists_.symm.trans there)
    dsimp only
    split
    · exact invariant
    · split
      · exact invariant
      · refine invariant.setChannel exists_ fun user isUser => ?_
        rcases List.mem_cons.mp isUser with rfl | isUser
        · exact has
        · exact hasUsers user isUser

theorem PartyInvariant.removeUserFromChannel
    : PartyInvariant (world.removeUserFromChannel player) := by
  unfold World.removeUserFromChannel
  cases finds : world.getChannel player with
  | none => exact invariant
  | some found =>
    obtain ⟨place, users⟩ := found
    obtain ⟨points, channel⟩ := getChannel_some finds
    obtain ⟨party, exists_, hasUsers⟩ := invariant.channels place users channel
    have removed : PartyInvariant (world.setChannel place (some (users.filter (· ≠ player)))) :=
      invariant.setChannel exists_ fun user isUser => hasUsers user (List.mem_of_mem_filter isUser)
    dsimp only
    split
    · split
      · unfold World.deleteChannel World.getParty
        cases (world.setChannel place (some (users.filter (· ≠ player)))).partyOf player with
        | none => exact removed
        | some other =>
          refine ⟨removed.pointers, fun address users channel => ?_⟩
          by_cases same : address = other
          · subst same
            exact absurd ((update_self address _ _).symm.trans channel) (by simp)
          · exact removed.channels address users
              ((update_of_ne same _ _).symm.trans channel)
      · exact removed
    · exact invariant

theorem PartyInvariant.removeUserFromAllChannels
    : PartyInvariant (world.removeUserFromAllChannels player) := by
  refine ⟨invariant.pointers, fun address users channel => ?_⟩
  obtain ⟨before, here, rfl⟩ := Option.map_eq_some_iff.mp channel
  obtain ⟨party, exists_, has⟩ := invariant.channels address before here
  exact ⟨party, exists_, fun user isUser => has user (List.mem_of_mem_filter isUser)⟩

end

end Changes

/-! ## Runs -/

theorem party_step (op : PartyOp) (invariant : PartyInvariant world)
    (legal : partySystem.legal world op)
    (quiet : LeavesQuietly world op (partySystem.step world op)) :
    PartyInvariant (partySystem.step world op) := by
  cases op with
  | construct address leader => exact invariant.construct legal leader
  | invitePlayer address player => exact invariant.invitePlayer player
  | joinParty onJoin address player => exact invariant.joinParty onJoin player
  | leaveParty onLeave onDisband address player =>
    exact invariant.leaveParty onLeave onDisband quiet
  | passPartyLeadership address player => exact invariant.passPartyLeadership player
  | removeInvite onDisband address player removeFromPlayer =>
    exact invariant.removeInvite onDisband removeFromPlayer quiet
  | disband onDisband address => exact invariant.disband onDisband quiet
  | getChannelList player => exact invariant.getChannelList player
  | createChannel player => exact invariant.createChannel player
  | addUserToChannel onJoin player => exact invariant.addUserToChannel onJoin player
  | removeUserFromChannel player => exact invariant.removeUserFromChannel player
  | removeUserFromAllChannels player => exact invariant.removeUserFromAllChannels player

/-- **Party chat is confidential** in every run in which nobody leaves a party
while a user of its channel and no party is disbanded while it has a channel. -/
theorem party_chat_confidential {ops : List PartyOp} (legal : partySystem.Legal {} ops)
    (quiet : partySystem.Throughout LeavesQuietly {} ops) :
    partySystem.Throughout (fun _ _ after => Confidential after ∧ OnlyMembersHear after) {}
      ops := by
  have initial : PartyInvariant {} := by
    constructor
    · intro player address points
      cases points
    · intro address users channel
      cases channel
  refine .of_invariant (fun before op invariant legal quiet => ?_) initial legal
    quiet
  have after := party_step before op invariant legal quiet
  exact ⟨⟨after.channels, after.channels.onlyMembersHear⟩, after⟩

/-- Three players; the second closes the channel and leaves. -/
theorem party_chat_confidential_closing_first :
    partySystem.Throughout (fun _ _ after => Confidential after ∧ OnlyMembersHear after) {}
      [.construct 0 ⟨1, 11⟩, .invitePlayer 0 ⟨2, 12⟩, .joinParty true 0 ⟨2, 12⟩,
        .invitePlayer 0 ⟨3, 13⟩, .getChannelList ⟨2, 12⟩, .addUserToChannel true ⟨2, 12⟩,
        .removeUserFromChannel ⟨2, 12⟩, .leaveParty true true 0 ⟨2, 12⟩] :=
  party_chat_confidential
    ⟨rfl, trivial, trivial, trivial, trivial, trivial, trivial, trivial, trivial⟩
    ⟨trivial, trivial, trivial, trivial, trivial, trivial, trivial, by
      intro party exists_ _ _
      cases exists_
      exact ⟨fun users channel => by cases channel; decide, fun ends => by revert ends; decide⟩,
      trivial⟩

/-- A member who leaves with the channel open stays its user. -/
theorem leaving_member_stays_user :
    ¬ (partySystem.Legal {}
        [.construct 0 ⟨1, 11⟩, .invitePlayer 0 ⟨2, 12⟩, .joinParty true 0 ⟨2, 12⟩,
          .invitePlayer 0 ⟨3, 13⟩, .getChannelList ⟨2, 12⟩, .addUserToChannel true ⟨2, 12⟩,
          .leaveParty true true 0 ⟨2, 12⟩] →
      partySystem.Throughout (fun _ _ after => Confidential after ∧ OnlyMembersHear after) {}
        [.construct 0 ⟨1, 11⟩, .invitePlayer 0 ⟨2, 12⟩, .joinParty true 0 ⟨2, 12⟩,
          .invitePlayer 0 ⟨3, 13⟩, .getChannelList ⟨2, 12⟩, .addUserToChannel true ⟨2, 12⟩,
          .leaveParty true true 0 ⟨2, 12⟩]) := by
  intro holds
  have confidential := (holds ⟨rfl, trivial, trivial, trivial, trivial, trivial, trivial,
    trivial⟩).2.2.2.2.2.2.1.1
  obtain ⟨party, exists_, has⟩ := confidential 0 [⟨2, 12⟩] rfl
  cases exists_
  exact absurd (has ⟨2, 12⟩ (by simp)) (by decide)

end Otserv.Parties
