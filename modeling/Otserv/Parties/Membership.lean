import Otserv.Parties.Confidentiality
import Otserv.Parties.Requests

/-!
# Membership

The lists of the parties and the pointers and invitations of the players agree after every
request (`parties_consistent`). While a player gives up the invitations one by one, the parties
agree with those that are left (`Linked.clear`).
-/

namespace Otserv.Parties

open Foundation
open Function (update_self update_of_ne update_eq_self update_idem)

/-- The party's lists, of players that are in the game. -/
structure Party.Formed (online : Player → Prop) (party : Party) : Prop where
  leader : party.leader ∉ party.memberList
  members : party.memberList.Nodup
  invitees : party.inviteList.Nodup
  apart : ∀ player ∈ party.inviteList, ¬party.has player
  online : ∀ player, party.has player ∨ player ∈ party.inviteList → online player

/-- The parties, the players' pointers and their invitations agree. -/
structure Linked (online : Player → Prop) (parties : Nat → Option Party)
    (partyOf : Player → Option Nat) (invitations : Player → List Nat) : Prop where
  formed : ∀ address party, parties address = some party → party.Formed online
  pointer : ∀ player address, partyOf player = some address ↔
    ∃ party, parties address = some party ∧ party.has player
  invitation : ∀ player address, address ∈ invitations player ↔
    ∃ party, parties address = some party ∧ player ∈ party.inviteList
  nodup : ∀ player, (invitations player).Nodup

/-- Every party has members or invitees. -/
def Occupied (parties : Nat → Option Party) : Prop :=
  ∀ address party, parties address = some party → party.empty = false

namespace Linked

variable {online : Player → Prop} {parties : Nat → Option Party}
  {partyOf partyOf' : Player → Option Nat} {invitations invitations' : Player → List Nat}
  {address : Nat}

section

variable (linked : Linked online parties partyOf invitations)
include linked

/-- **One party changes, with all that points to it.** -/
theorem update {after : Option Party} (formed : ∀ party, after = some party → party.Formed online)
    (pointer : ∀ player, partyOf' player = some address ↔
      ∃ party, after = some party ∧ party.has player)
    (pointers : ∀ player other, other ≠ address →
      (partyOf' player = some other ↔ partyOf player = some other))
    (invitation : ∀ player, address ∈ invitations' player ↔
      ∃ party, after = some party ∧ player ∈ party.inviteList)
    (others : ∀ player other, other ≠ address →
      (other ∈ invitations' player ↔ other ∈ invitations player))
    (nodup : ∀ player, (invitations' player).Nodup) :
    Linked online (Function.update parties address after) partyOf' invitations' where
  formed := by
    intro other party here
    by_cases same : other = address
    · subst same
      rw [update_self] at here
      exact formed party here
    · rw [update_of_ne same] at here
      exact linked.formed other party here
  pointer := by
    intro player other
    by_cases same : other = address
    · subst same
      rw [update_self]
      exact pointer player
    · rw [update_of_ne same, pointers player other same]
      exact linked.pointer player other
  invitation := by
    intro player other
    by_cases same : other = address
    · subst same
      rw [update_self]
      exact invitation player
    · rw [update_of_ne same, others player other same]
      exact linked.invitation player other
  nodup := nodup

theorem points_iff {party : Party} (exists_ : parties address = some party) (player : Player) :
    partyOf player = some address ↔ party.has player := by
  rw [linked.pointer player address, exists_]
  simp only [Option.some.injEq, exists_eq_left']

theorem invited_iff {party : Party} (exists_ : parties address = some party) (player : Player) :
    address ∈ invitations player ↔ player ∈ party.inviteList := by
  rw [linked.invitation player address, exists_]
  simp only [Option.some.injEq, exists_eq_left']

theorem move {party after : Party} {player : Player} {points : Option Nat} {invites : List Nat}
    (exists_ : parties address = some party) (formed : after.Formed online)
    (has : ∀ other, other ≠ player → (after.has other ↔ party.has other))
    (invited : ∀ other, other ≠ player → (other ∈ after.inviteList ↔ other ∈ party.inviteList))
    (pointer : points = some address ↔ after.has player)
    (pointers : ∀ other, other ≠ address → (points = some other ↔ partyOf player = some other))
    (invitation : address ∈ invites ↔ player ∈ after.inviteList)
    (others : ∀ other, other ≠ address → (other ∈ invites ↔ other ∈ invitations player))
    (nodup : invites.Nodup) :
    Linked online (Function.update parties address (some after))
      (Function.update partyOf player points) (Function.update invitations player invites) := by
  apply linked.update
  · rintro found ⟨⟩
    exact formed
  · intro other
    simp only [Option.some.injEq, exists_eq_left']
    by_cases same : other = player
    · rw [same, update_self]
      exact pointer
    · rw [update_of_ne same, linked.points_iff exists_, has other same]
  · intro other place apart
    by_cases same : other = player
    · rw [same, update_self]
      exact pointers place apart
    · rw [update_of_ne same]
  · intro other
    simp only [Option.some.injEq, exists_eq_left']
    by_cases same : other = player
    · rw [same, update_self]
      exact invitation
    · rw [update_of_ne same, linked.invited_iff exists_, invited other same]
  · intro other place apart
    by_cases same : other = player
    · rw [same, update_self]
      exact others place apart
    · rw [update_of_ne same]
  · intro other
    by_cases same : other = player
    · rw [same, update_self]
      exact nodup
    · rw [update_of_ne same]
      exact linked.nodup other

theorem unreferenced (none : parties address = none) (player : Player) :
    partyOf player ≠ some address ∧ address ∉ invitations player := by
  constructor
  · intro points
    obtain ⟨party, here, -⟩ := (linked.pointer player address).mp points
    cases none.symm.trans here
  · intro invited
    obtain ⟨party, here, -⟩ := (linked.invitation player address).mp invited
    cases none.symm.trans here

end

end Linked

/-! ## Operations -/

section Operations

variable {online : Player → Prop} {world : World} {address : Nat} {party : Party}
  {player : Player}

theorem mem_remove {invitations : List Nat} {other : Nat} :
    other ∈ invitations.filter (· ≠ address) ↔ other ∈ invitations ∧ other ≠ address := by
  rw [List.mem_filter, decide_eq_true_eq]

theorem Linked.invitePlayer
    (linked : Linked online world.parties world.partyOf world.invitePartyList)
    (exists_ : world.parties address = some party) (uninvited : player ∉ party.inviteList)
    (outside : ¬party.has player) (isOnline : online player) :
    let after := world.invitePlayer address player
    Linked online after.parties after.partyOf after.invitePartyList ∧
      after.parties = Function.update world.parties address
        (some { party with inviteList := party.inviteList ++ [player] }) := by
  have notInvited : address ∉ world.invitePartyList player := by
    rwa [linked.invited_iff exists_]
  have formed := linked.formed address party exists_
  have invites : world.invitePlayer address player =
      { world with
        parties := Function.update world.parties address
          (some { party with inviteList := party.inviteList ++ [player] })
        partyOf := Function.update world.partyOf player (world.partyOf player)
        invitePartyList := Function.update world.invitePartyList player
          (address :: world.invitePartyList player) } := by
    rw [World.invitePlayer, exists_, update_eq_self]
    simp only [if_neg uninvited, World.setPartyAt, World.addPartyInvitation]
    exact if_neg notInvited
  simp only [invites, and_true]
  refine linked.move exists_ ?_ (fun _ _ => .rfl) (fun other apart => ?_) ?_
    (fun _ _ => .rfl) ?_ (fun other apart => ?_)
    (List.nodup_cons.mpr ⟨notInvited, linked.nodup player⟩)
  · refine ⟨formed.leader, formed.members, ?_, fun other invited => ?_, fun other inside => ?_⟩
    · exact formed.invitees.append (List.nodup_singleton player)
        (List.disjoint_singleton.mpr uninvited)
    · rcases List.mem_append.mp invited with before | last
      · exact formed.apart other before
      · rw [List.mem_singleton.mp last]
        exact outside
    · rcases inside with has | invited
      · exact formed.online other (.inl has)
      · rcases List.mem_append.mp invited with before | last
        · exact formed.online other (.inr before)
        · rw [List.mem_singleton.mp last]
          exact isOnline
  · rw [List.mem_append, List.mem_singleton, or_iff_left apart]
  · exact linked.points_iff exists_ player
  · simp only [List.mem_cons, List.mem_append, true_or, or_true]
  · rw [List.mem_cons, or_iff_right apart]

theorem Linked.joinParty (linked : Linked online world.parties world.partyOf world.invitePartyList)
    (exists_ : world.parties address = some party) (invited : player ∈ party.inviteList)
    (free : world.partyOf player = none) :
    let after := world.joinParty true address player
    Linked online after.parties after.partyOf after.invitePartyList ∧
      after.parties = Function.update world.parties address (some { party with
        inviteList := party.inviteList.erase player
        memberList := party.memberList ++ [player] }) := by
  have formed := linked.formed address party exists_
  have joins : world.joinParty true address player =
      { world with
        parties := Function.update world.parties address (some { party with
          inviteList := party.inviteList.erase player
          memberList := party.memberList ++ [player] })
        partyOf := Function.update world.partyOf player (some address)
        invitePartyList := Function.update world.invitePartyList player
          ((world.invitePartyList player).filter (· ≠ address)) } := by
    rw [World.joinParty, exists_]
    simp only [Bool.not_true, Bool.false_eq_true, if_false, invited, not_true]
    rfl
  simp only [joins, and_true]
  have hasNow : ∀ other, ({ party with
      inviteList := party.inviteList.erase player
      memberList := party.memberList ++ [player] } : Party).has other ↔
        party.has other ∨ other = player := by
    intro other
    simp only [Party.has, List.mem_append, List.mem_singleton, or_assoc]
  have outside := formed.apart player invited
  refine linked.move exists_ ?_ (fun other apart => ?_) (fun other apart => ?_) ?_
    (fun other apart => ?_) ?_ (fun other apart => ?_) ((linked.nodup player).filter _)
  · refine ⟨?_, ?_, formed.invitees.erase player, fun other isInvited => ?_, fun other inside => ?_⟩
    · intro leads
      rcases List.mem_append.mp leads with before | last
      · exact formed.leader before
      · exact outside (.inl (List.mem_singleton.mp last).symm)
    · exact formed.members.append (List.nodup_singleton player)
        (List.disjoint_singleton.mpr fun isMember => outside (.inr isMember))
    · obtain ⟨apart, before⟩ := formed.invitees.mem_erase_iff.mp isInvited
      rw [hasNow]
      rintro (has | same)
      · exact formed.apart other before has
      · exact apart same
    · rw [hasNow] at inside
      rcases inside with (has | rfl) | isInvited
      · exact formed.online other (.inl has)
      · exact formed.online other (.inr invited)
      · exact formed.online other (.inr (List.mem_of_mem_erase isInvited))
  · rw [hasNow, or_iff_left apart]
  · rw [List.mem_erase_of_ne apart]
  · simp only [hasNow, or_true]
  · rw [free]
    simp only [Option.some.injEq, reduceCtorEq, iff_false]
    exact apart.symm
  · rw [mem_remove, formed.invitees.mem_erase_iff]
    simp only [ne_eq, not_true, and_false, false_and]
  · rw [mem_remove, and_iff_left apart]

theorem foldl_removePartyInvitation (address : Nat) (invitees : List Player) :
    ∀ world : World,
      invitees.foldl (fun world invitee => world.removePartyInvitation address invitee) world =
        { world with
          invitePartyList := fun player =>
            if player ∈ invitees then (world.invitePartyList player).filter (· ≠ address)
            else world.invitePartyList player } := by
  induction invitees with
  | nil =>
    intro world
    simp only [List.foldl_nil, List.not_mem_nil, if_false]
  | cons invitee invitees ih =>
    intro world
    rw [List.foldl_cons, ih]
    unfold World.removePartyInvitation
    congr 1
    funext player
    by_cases same : player = invitee
    · simp [same]
    · simp [same]

theorem disband_true (exists_ : world.parties address = some party) :
    world.disband true address =
      { world with
        partyOf := fun player => if party.has player then none else world.partyOf player
        invitePartyList := fun player =>
          if player ∈ party.inviteList then (world.invitePartyList player).filter (· ≠ address)
          else world.invitePartyList player
        parties := Function.update world.parties address none } := by
  unfold World.disband
  rw [exists_]
  simp only [Bool.not_true, Bool.false_eq_true, if_false]
  rw [dismiss_eq, foldl_removePartyInvitation, foldl_dismiss_eq]
  unfold World.setPartyAt World.setParty
  congr 1
  funext player
  unfold Party.has
  by_cases leads : player = party.leader
  · simp [leads]
  · simp [leads]

variable {invitations : Player → List Nat}

theorem Linked.disband (linked : Linked online world.parties world.partyOf invitations)
    (exists_ : world.parties address = some party) :
    Linked online (Function.update world.parties address none)
      (fun player => if party.has player then none else world.partyOf player)
      fun player => if player ∈ party.inviteList then (invitations player).filter (· ≠ address)
        else invitations player := by
  apply linked.update
  · nofun
  · intro player
    simp only [reduceCtorEq, false_and, exists_false, iff_false]
    split
    · nofun
    · next outside => rwa [linked.points_iff exists_]
  · intro player other apart
    split
    · next has =>
      rw [(linked.points_iff exists_ player).mpr has]
      simp only [reduceCtorEq, Option.some.injEq, false_iff]
      exact apart.symm
    · rfl
  · intro player
    simp only [reduceCtorEq, false_and, exists_false, iff_false]
    split
    · rw [mem_remove]
      exact fun left => left.2 rfl
    · next uninvited => rwa [linked.invited_iff exists_]
  · intro player other apart
    split
    · rw [mem_remove, and_iff_left apart]
    · rfl
  · intro player
    split
    · exact (linked.nodup player).filter _
    · exact linked.nodup player

theorem Linked.uninvite {invites : List Nat}
    (linked : Linked online world.parties world.partyOf invitations)
    (exists_ : world.parties address = some party)
    (left : ∀ other, other ∈ invites ↔ other ∈ invitations player ∧ other ≠ address)
    (nodup : invites.Nodup) :
    Linked online
      (Function.update world.parties address
        (some { party with inviteList := party.inviteList.erase player }))
      world.partyOf (Function.update invitations player invites) := by
  have formed := linked.formed address party exists_
  rw [← update_eq_self player world.partyOf]
  refine linked.move exists_ ?_ (fun _ _ => .rfl) (fun other apart => ?_) ?_
    (fun _ _ => .rfl) ?_ (fun other apart => ?_) nodup
  · refine ⟨formed.leader, formed.members, formed.invitees.erase player,
      fun other isInvited => formed.apart other (List.mem_of_mem_erase isInvited),
      fun other inside => formed.online other (inside.imp_right List.mem_of_mem_erase)⟩
  · rw [List.mem_erase_of_ne apart]
  · exact linked.points_iff exists_ player
  · rw [left, formed.invitees.mem_erase_iff]
    simp only [ne_eq, not_true, and_false, false_and]
  · rw [left, and_iff_left apart]

/-! ## Leaving -/

theorem Linked.passPartyLeadership
    (linked : Linked online world.parties world.partyOf world.invitePartyList)
    (exists_ : world.parties address = some party) (follows : party.leader ≠ player)
    (has : party.has player) :
    let after := world.passPartyLeadership address player
    Linked online after.parties after.partyOf after.invitePartyList ∧
      after.parties = Function.update world.parties address (some { party with
        leader := player
        memberList := party.leader :: party.memberList.erase player }) := by
  have formed := linked.formed address party exists_
  have points := (linked.points_iff exists_ player).mpr has
  have isMember : player ∈ party.memberList := has.resolve_left follows.symm
  have passes : world.passPartyLeadership address player =
      world.setPartyAt address (some { party with
        leader := player
        memberList := party.leader :: party.memberList.erase player }) := by
    have stays : ¬(party.leader = player ∨ world.getParty player ≠ some address) :=
      not_or.mpr ⟨follows, not_not.mpr points⟩
    rw [World.passPartyLeadership, exists_]
    simp only [if_neg stays]
  have hasNow : ∀ other, ({ party with
      leader := player
      memberList := party.leader :: party.memberList.erase player } : Party).has other ↔
        party.has other := by
    intro other
    simp only [Party.has, List.mem_cons, formed.members.mem_erase_iff]
    by_cases same : other = player
    · simp [same, isMember]
    · simp [same]
  simp only [passes, World.setPartyAt, and_true]
  apply linked.update
  · rintro after ⟨⟩
    refine ⟨?_, ?_, formed.invitees, fun other invited => ?_, fun other inside => ?_⟩
    · rw [List.mem_cons, formed.members.mem_erase_iff]
      rintro (same | ⟨apart, -⟩)
      · exact follows same.symm
      · exact apart rfl
    · exact List.nodup_cons.mpr ⟨fun inside => formed.leader (List.mem_of_mem_erase inside),
        formed.members.erase player⟩
    · rw [hasNow]
      exact formed.apart other invited
    · rw [hasNow] at inside
      exact formed.online other inside
  · intro other
    simp only [Option.some.injEq, exists_eq_left', hasNow]
    exact linked.points_iff exists_ other
  · exact fun _ _ _ => .rfl
  · intro other
    simp only [Option.some.injEq, exists_eq_left']
    exact linked.invited_iff exists_ other
  · exact fun _ _ _ => .rfl
  · exact linked.nodup

/-- The party after the player has left it, when someone is there to lead. -/
def Party.without (player : Player) (party : Party) : Party :=
  if party.leader = player then
    match party.memberList with
    | [] => party
    | front :: rest => { party with leader := front, memberList := rest }
  else { party with memberList := party.memberList.erase player }

theorem Party.has_without (formed : party.Formed online) (led : !party.missingLeader player)
    (other : Player) : (party.without player).has other ↔ party.has other ∧ other ≠ player := by
  unfold Party.without
  split
  · next leads =>
    cases members : party.memberList with
    | nil => simp [Party.missingLeader, leads, members] at led
    | cons front rest =>
      have outside := formed.leader
      rw [leads, members] at outside
      simp only [Party.has, leads, members]
      have apart : ∀ found ∈ front :: rest, found ≠ player := fun found inside same =>
        outside (same ▸ inside)
      constructor
      · intro inside
        exact ⟨.inr (List.mem_cons.mpr inside), apart other (List.mem_cons.mpr inside)⟩
      · rintro ⟨isLeader | inside, notPlayer⟩
        · exact absurd isLeader notPlayer
        · exact List.mem_cons.mp inside
  · next follows =>
    simp only [Party.has, formed.members.mem_erase_iff]
    constructor
    · rintro (leads | ⟨apart, isMember⟩)
      · exact ⟨.inl leads, fun same => follows (leads.symm.trans same)⟩
      · exact ⟨.inr isMember, apart⟩
    · rintro ⟨leads | isMember, apart⟩
      · exact .inl leads
      · exact .inr ⟨apart, isMember⟩

theorem Party.inviteList_without : (party.without player).inviteList = party.inviteList := by
  unfold Party.without
  split
  · split <;> rfl
  · rfl

theorem Party.Formed.without (formed : party.Formed online)
    (led : !party.missingLeader player) : (party.without player).Formed online where
  leader := by
    unfold Party.without
    split
    · cases members : party.memberList with
      | nil => exact formed.leader
      | cons front rest =>
        have nodup := formed.members
        rw [members] at nodup
        exact (List.nodup_cons.mp nodup).1
    · exact fun inside => formed.leader (List.mem_of_mem_erase inside)
  members := by
    unfold Party.without
    split
    · cases members : party.memberList with
      | nil => exact formed.members
      | cons front rest =>
        have nodup := formed.members
        rw [members] at nodup
        exact (List.nodup_cons.mp nodup).2
    · exact formed.members.erase player
  invitees := by
    rw [Party.inviteList_without]
    exact formed.invitees
  apart := by
    intro other invited
    rw [Party.inviteList_without] at invited
    rw [Party.has_without formed led]
    exact fun has => formed.apart other invited has.1
  online := by
    intro other inside
    rw [Party.inviteList_without, Party.has_without formed led] at inside
    exact formed.online other (inside.imp_left And.left)

/-- The player has left the party, but for what disbanding does. -/
def World.left (address : Nat) (player : Player) (party : Party) (world : World) : World :=
  { world with
    parties := Function.update world.parties address (some (party.without player))
    partyOf := Function.update world.partyOf player none }

theorem Linked.left (linked : Linked online world.parties world.partyOf world.invitePartyList)
    (exists_ : world.parties address = some party) (led : !party.missingLeader player)
    (has : party.has player) :
    Linked online (world.left address player party).parties
      (world.left address player party).partyOf
      (world.left address player party).invitePartyList := by
  have formed := linked.formed address party exists_
  have points := (linked.points_iff exists_ player).mpr has
  have same : world.invitePartyList =
      Function.update world.invitePartyList player (world.invitePartyList player) :=
    (update_eq_self player world.invitePartyList).symm
  simp only [World.left]
  rw [same]
  refine linked.move exists_ (formed.without led) (fun other apart => ?_) (fun other _ => ?_) ?_
    (fun other apart => ?_) ?_ (fun _ _ => .rfl) (linked.nodup player)
  · rw [Party.has_without formed led, and_iff_left apart]
  · rw [Party.inviteList_without]
  · rw [Party.has_without formed led]
    simp only [reduceCtorEq, ne_eq, not_true, and_false]
  · rw [points]
    simp only [reduceCtorEq, Option.some.injEq, false_iff]
    exact apart.symm
  · rw [Party.inviteList_without]
    exact linked.invited_iff exists_ player

/-- What is left to do once the leadership has been passed on, if it is. -/
theorem leaveParty_eq (linked : Linked online world.parties world.partyOf world.invitePartyList)
    (exists_ : world.parties address = some party) (has : party.has player) :
    world.leaveParty true true address player =
      if party.missingLeader player then world.disband true address
      else
        if (party.without player).empty then
          (world.left address player party).disband true address
        else world.left address player party := by
  have formed := linked.formed address party exists_
  have points : world.getParty player = some address := (linked.points_iff exists_ player).mpr has
  have isIn : ¬(world.getParty player ≠ some address ∧ party.leader ≠ player) := fun out =>
    out.1 points
  rw [World.leaveParty, exists_]
  simp only [if_neg isIn, Bool.not_true, Bool.false_eq_true, if_false]
  have closes : ∀ world : World, (world.setParty none player).sendClosePrivate player =
      world.setParty none player := dismiss_eq player
  rw [closes]
  by_cases missing : party.missingLeader player
  · -- nobody leads: the lists stay as they are until the party is disbanded
    simp only [missing, true_or, if_true]
    have leads : party.leader = player := (of_decide_eq_true missing).1
    have notMember : player ∉ party.memberList := leads ▸ formed.leader
    have passes : world.passOnLeaving address player = world := by
      rw [World.passOnLeaving, exists_]
      simp only [missing, Bool.not_true, Bool.false_eq_true, and_false, if_false]
    have erases : world.eraseMember address player = world := by
      rw [World.eraseMember, exists_]
      simp only [List.erase_of_not_mem notMember]
      exact setPartyAt_same exists_
    have still : (world.setParty none player).parties address = some party := exists_
    rw [passes, erases, disband_true exists_, disband_true still]
    unfold World.setParty
    congr 1
    funext other
    by_cases same : other = player
    · subst same
      simp only [has, if_true]
    · simp only [update_of_ne same]
  · have led : (!party.missingLeader player) = true := by simp [missing]
    have leaves : ((world.passOnLeaving address player).eraseMember address player).setParty none
        player = world.left address player party := by
      have erases : (world.passOnLeaving address player).eraseMember address player =
          world.setPartyAt address (some (party.without player)) := by
        rw [World.passOnLeaving, exists_]
        simp only [led, and_true]
        by_cases leads : party.leader = player
        · cases members : party.memberList with
          | nil => simp [Party.missingLeader, leads, members] at led
          | cons front rest =>
            have isMember : front ∈ party.memberList := members ▸ List.mem_cons_self
            have follows : party.leader ≠ front := fun same =>
              formed.leader (same ▸ isMember)
            have isFront := (linked.points_iff exists_ front).mpr (.inr isMember)
            have passes : ¬(party.leader = front ∨ world.getParty front ≠ some address) :=
              not_or.mpr ⟨follows, not_not.mpr isFront⟩
            simp only
            rw [World.passPartyLeadership, exists_]
            simp only [if_neg passes]
            rw [World.eraseMember]
            simp only [World.setPartyAt, update_self, update_idem,
              Party.without, if_true, members, leads, List.erase_cons_head]
        · rw [if_neg leads, World.eraseMember, exists_]
          simp only [Party.without, if_neg leads]
      rw [erases]
      rfl
    rw [leaves]
    have now : (world.left address player party).parties address =
        some (party.without player) := update_self ..
    have notMissing : party.missingLeader player = false := by simpa using missing
    simp only [notMissing, now, Option.any_some, Bool.false_eq_true, false_or, if_false]

end Operations

/-! ## Requests -/

/-- What holds of the parties between the requests. -/
structure Consistent (online : Player → Prop) (world : World) : Prop where
  linked : Linked online world.parties world.partyOf world.invitePartyList
  occupied : Occupied world.parties

variable {parties : Nat → Option Party}

theorem Occupied.update (occupied : Occupied parties) {address : Nat} {after : Option Party}
    (isOccupied : ∀ party, after = some party → party.empty = false) :
    Occupied (Function.update parties address after) := by
  intro other party here
  by_cases same : other = address
  · subst same
    rw [update_self] at here
    exact isOccupied party here
  · rw [update_of_ne same] at here
    exact occupied other party here

theorem Occupied.update_update (occupied : Occupied parties)
    {address : Nat} {between after : Option Party}
    (isOccupied : ∀ party, after = some party → party.empty = false) :
    Occupied (Function.update (Function.update parties address between) address after) := by
  rw [update_idem]
  exact occupied.update isOccupied

namespace Consistent

variable {online : Player → Prop} {world : World} {address : Nat} {player other : Player}

theorem leads_iff {party : Party} (exists_ : world.parties address = some party) :
    world.leads address player = true ↔ party.leader = player := by
  rw [World.leads, exists_, Option.any_some, decide_eq_true_eq]

theorem isInviting_iff {leader : Player} : world.isInviting leader player = true ↔
    ∃ address party, world.partyOf leader = some address ∧ world.parties address = some party ∧
      party.leader = leader ∧ player ∈ party.inviteList := by
  unfold World.isInviting World.getParty
  cases world.partyOf leader with
  | none => simp only [Option.bind_none, Bool.false_eq_true, reduceCtorEq, false_and, exists_false]
  | some address =>
    simp only [Option.bind_some, Option.some.injEq, exists_and_left, exists_eq_left']
    cases world.parties address with
    | none => simp only [Bool.false_eq_true, reduceCtorEq, false_and, exists_false]
    | some party => simp only [decide_eq_true_eq, Option.some.injEq, exists_eq_left']

theorem disband (consistent : Linked online world.parties world.partyOf world.invitePartyList)
    {party : Party} (exists_ : world.parties address = some party)
    (occupied : Occupied (Function.update world.parties address none)) :
    Consistent online (world.disband true address) := by
  rw [disband_true exists_]
  exact ⟨consistent.disband exists_, occupied⟩

theorem leaveParty (consistent : Consistent online world)
    (points : world.partyOf player = some address) :
    let after := world.leaveParty true true address player
    Consistent online after ∧ after.partyOf player = none ∧
      (world.invitePartyList player = [] → after.invitePartyList player = []) := by
  obtain ⟨party, exists_, has⟩ := (consistent.linked.pointer player address).mp points
  simp only [leaveParty_eq consistent.linked exists_ has]
  split
  · refine ⟨disband consistent.linked exists_ (consistent.occupied.update nofun), ?_⟩
    rw [disband_true exists_]
    simp only [has, if_true, true_and]
    intro none
    rw [none, List.filter_nil, ite_self]
  · next led =>
    have isLed : !party.missingLeader player := by simpa using led
    have linked := consistent.linked.left exists_ isLed has
    split
    · have here : (world.left address player party).parties address =
          some (party.without player) := update_self ..
      refine ⟨disband linked here (consistent.occupied.update_update nofun), ?_⟩
      rw [disband_true here]
      simp only [World.left, update_self, ite_self, true_and]
      intro none
      rw [none, List.filter_nil, ite_self]
    · next notEmpty =>
      refine ⟨⟨linked, consistent.occupied.update ?_⟩, update_self .., id⟩
      rintro after ⟨⟩
      simpa using notEmpty

theorem removeInvite {invitations : Player → List Nat} {invites : List Nat} {party : Party}
    (linked : Linked online world.parties world.partyOf invitations)
    (occupied : Occupied world.parties) (exists_ : world.parties address = some party)
    (invited : player ∈ party.inviteList) (removeFromPlayer : Bool)
    (left : ∀ other, other ∈ invites ↔ other ∈ invitations player ∧ other ≠ address)
    (nodup : invites.Nodup) :
    let after := world.removeInvite true address player removeFromPlayer
    Linked online after.parties after.partyOf (Function.update invitations player invites) ∧
      Occupied after.parties ∧
      after.invitePartyList = if removeFromPlayer then
        Function.update world.invitePartyList player
          ((world.invitePartyList player).filter (· ≠ address))
        else world.invitePartyList := by
  have less := linked.uninvite exists_ left nodup
  set erased : Party := { party with inviteList := party.inviteList.erase player } with isErased
  set between : World :=
    if removeFromPlayer then
      (world.setPartyAt address (some erased)).removePartyInvitation address player
    else world.setPartyAt address (some erased) with isBetween
  have removes : world.removeInvite true address player removeFromPlayer =
      if erased.empty then between.disband true address else between := by
    rw [World.removeInvite, exists_]
    simp only [invited, not_true, if_false]
    rfl
  have parties : between.parties = Function.update world.parties address (some erased) := by
    rw [isBetween]
    split <;> rfl
  have partyOf : between.partyOf = world.partyOf := by
    rw [isBetween]
    split <;> rfl
  have lists : between.invitePartyList = if removeFromPlayer then
      Function.update world.invitePartyList player
        ((world.invitePartyList player).filter (· ≠ address))
      else world.invitePartyList := by
    rw [isBetween]
    split <;> rfl
  rw [← parties, ← partyOf] at less
  rw [removes]
  split
  · next isEmpty =>
    have here : between.parties address = some erased := by
      rw [parties]
      exact update_self ..
    have nobody : erased.inviteList = [] := by
      simp only [Party.empty, Bool.and_eq_true, List.isEmpty_iff] at isEmpty
      exact isEmpty.2
    have ended := less.disband here
    rw [disband_true here]
    simp only [nobody, List.not_mem_nil, if_false] at ended ⊢
    refine ⟨ended, ?_, lists⟩
    rw [parties]
    exact occupied.update_update fun _ isParty => absurd isParty (Option.not_mem_none _)
  · next notEmpty =>
    refine ⟨less, ?_, lists⟩
    rw [parties]
    apply occupied.update
    rintro after ⟨⟩
    simpa using notEmpty

/-- The invitations that are left are given up one by one; the list that is walked stays as
it is meanwhile. -/
theorem clear (invites : List Nat) : ∀ world : World,
    Linked online world.parties world.partyOf
      (Function.update world.invitePartyList player invites) → Occupied world.parties →
    let after := invites.foldl
      (fun world address => world.removeInvite true address player false) world
    Linked online after.parties after.partyOf
      (Function.update after.invitePartyList player []) ∧ Occupied after.parties ∧
        after.invitePartyList = world.invitePartyList := by
  induction invites with
  | nil => exact fun world linked occupied => ⟨linked, occupied, rfl⟩
  | cons address invites ih =>
    intro world linked occupied
    have isInvited := (linked.invitation player address).mp
      (by rw [update_self]; exact List.mem_cons_self)
    obtain ⟨party, exists_, invited⟩ := isInvited
    have nodup := linked.nodup player
    rw [update_self, List.nodup_cons] at nodup
    obtain ⟨less, still, same⟩ := removeInvite linked occupied exists_ invited false
      (fun other => by
        rw [update_self, List.mem_cons]
        constructor
        · exact fun later => ⟨.inr later, fun same => nodup.1 (same ▸ later)⟩
        · exact fun both => both.1.resolve_left both.2) nodup.2
    simp only [Bool.false_eq_true, if_false] at same
    rw [update_idem, ← same] at less
    obtain ⟨done, final, kept⟩ := ih _ less still
    exact ⟨done, final, kept.trans same⟩

section

variable (consistent : Consistent online world)
include consistent

theorem clearPartyInvitations :
    let after := world.clearPartyInvitations player
    Consistent online after ∧ after.invitePartyList player = [] := by
  have start := consistent.linked
  rw [← update_eq_self player world.invitePartyList] at start
  obtain ⟨linked, occupied, -⟩ := clear _ world start consistent.occupied
  exact ⟨⟨linked, occupied⟩, update_self ..⟩

theorem revokePartyInvitation : Consistent online (world.revokePartyInvitation player other) := by
  unfold World.revokePartyInvitation
  cases points : world.getParty player with
  | none => exact consistent
  | some address =>
    dsimp only
    split
    · exact consistent
    split
    · exact consistent
    · next inviting =>
      obtain ⟨found, party, isFound, exists_, -, invited⟩ :=
        isInviting_iff.mp (by simpa using inviting)
      obtain rfl : address = found := Option.some.inj (points.symm.trans isFound)
      obtain ⟨linked, occupied, lists⟩ := removeInvite consistent.linked consistent.occupied
        exists_ invited true (fun _ => mem_remove) ((consistent.linked.nodup other).filter _)
      rw [if_pos rfl] at lists
      rw [← lists] at linked
      exact ⟨linked, occupied⟩

theorem passLeadership : Consistent online (world.passLeadership player other) := by
  unfold World.passLeadership
  cases points : world.getParty player with
  | none => exact consistent
  | some address =>
    dsimp only
    split
    · exact consistent
    split
    · exact consistent
    · next leading partner =>
      obtain ⟨party, exists_, has⟩ := (consistent.linked.pointer player address).mp points
      have leads := (leads_iff exists_).mp (by simpa using leading)
      have isPartner : player ≠ other ∧ world.getParty player = world.getParty other := by
        simp only [World.isPartner, points, Option.isSome_some, true_and, Bool.not_eq_true,
          Bool.not_eq_false', decide_eq_true_eq] at partner
        rwa [points]
      have follows : party.leader ≠ other := leads ▸ isPartner.1
      have otherHas : party.has other :=
        (consistent.linked.points_iff exists_ other).mp (isPartner.2.symm.trans points)
      obtain ⟨linked, parties⟩ := consistent.linked.passPartyLeadership exists_ follows otherHas
      refine ⟨linked, ?_⟩
      rw [parties]
      apply consistent.occupied.update
      rintro after ⟨⟩
      rfl

theorem join : Consistent online (world.join player other) := by
  unfold World.join
  split
  · exact consistent
  · next inviting =>
    obtain ⟨address, party, points, exists_, -, invited⟩ :=
      isInviting_iff.mp (by simpa using inviting)
    have sameParty : world.getParty other = some address := points
    rw [sameParty]
    dsimp only
    split
    · exact consistent
    split
    · exact consistent
    · next free =>
      obtain ⟨linked, parties⟩ := consistent.linked.joinParty exists_ invited
        (Option.not_isSome_iff_eq_none.mp free)
      refine ⟨linked, ?_⟩
      rw [parties]
      apply consistent.occupied.update
      rintro after ⟨⟩
      simp [Party.empty]

/-- A party is made for its first invitation. -/
theorem construct (fresh : world.parties address = none)
    (free : world.partyOf player = none) (isOnline : online player) :
    Linked online (world.construct address player).parties
      (world.construct address player).partyOf
      (world.construct address player).invitePartyList := by
  have unreferenced := consistent.linked.unreferenced fresh
  have made : world.construct address player =
      { world with
        parties := Function.update world.parties address (some { leader := player })
        partyOf := Function.update world.partyOf player (some address) } := rfl
  simp only [made]
  apply consistent.linked.update
  · rintro party ⟨⟩
    refine ⟨List.not_mem_nil, List.nodup_nil, List.nodup_nil, nofun, ?_⟩
    rintro member ((isLeader | isMember) | invited)
    · exact isLeader ▸ isOnline
    · cases isMember
    · cases invited
  · intro member
    simp only [Option.some.injEq, exists_eq_left', Party.has, List.not_mem_nil, or_false]
    by_cases same : member = player
    · simp [same]
    · simp [same, (unreferenced member).1]
  · intro member place apart
    by_cases same : member = player
    · rw [same, update_self, free]
      simp [apart.symm]
    · rw [update_of_ne same]
  · intro member
    simp [(unreferenced member).2]
  · exact fun _ _ _ => .rfl
  · exact consistent.linked.nodup

theorem inviteToParty
    (fresh : world.parties address = none) (apart : player ≠ other) (isOnline : online player)
    (otherOnline : online other) :
    Consistent online (world.inviteToParty player other address) := by
  unfold World.inviteToParty
  split
  · exact consistent
  split
  · exact consistent
  · next otherFree =>
    have free : world.partyOf other = none := Option.not_isSome_iff_eq_none.mp otherFree
    cases points : world.getParty player with
    | none =>
      have linked := consistent.construct fresh points isOnline
      have here : (world.construct address player).parties address =
          some { leader := player } := update_self ..
      have outside : ¬({ leader := player } : Party).has other := by
        rintro (same | isMember)
        · exact apart same.symm
        · cases isMember
      obtain ⟨invited, parties⟩ := linked.invitePlayer here List.not_mem_nil outside otherOnline
      refine ⟨invited, ?_⟩
      rw [parties]
      apply consistent.occupied.update_update
      rintro after ⟨⟩
      rfl
    | some place =>
      dsimp only
      split
      · next leading =>
        obtain ⟨party, exists_, -⟩ := (consistent.linked.pointer player place).mp points
        by_cases invited : other ∈ party.inviteList
        · rw [World.invitePlayer, exists_]
          simp only [invited, if_true]
          exact consistent
        · have outside : ¬party.has other := by
            rw [← consistent.linked.points_iff exists_, free]
            nofun
          obtain ⟨linked, parties⟩ :=
            consistent.linked.invitePlayer exists_ invited outside otherOnline
          refine ⟨linked, ?_⟩
          rw [parties]
          apply consistent.occupied.update
          rintro after ⟨⟩
          simp [Party.empty]
      · exact consistent

theorem onRemoveCreature :
    let after := world.onRemoveCreature player
    Consistent online after ∧ after.partyOf player = none ∧ after.invitePartyList player = [] := by
  obtain ⟨cleared, none⟩ := @clearPartyInvitations online world player consistent
  simp only [World.onRemoveCreature]
  cases points : (world.clearPartyInvitations player).getParty player with
  | none => exact ⟨⟨cleared.linked, cleared.occupied⟩, points, none⟩
  | some address =>
    obtain ⟨left, free, still⟩ := cleared.leaveParty points
    exact ⟨⟨left.linked, left.occupied⟩, free, still none⟩

end

theorem online_mono {online' : Player → Prop} (consistent : Consistent online world)
    (stays : ∀ player, online player →
      world.partyOf player ≠ none ∨ world.invitePartyList player ≠ [] → online' player) :
    Consistent online' world := by
  have linked := consistent.linked
  refine ⟨⟨fun address party exists_ => ?_, linked.pointer, linked.invitation, linked.nodup⟩,
    consistent.occupied⟩
  have formed := linked.formed address party exists_
  refine ⟨formed.leader, formed.members, formed.invitees, formed.apart, fun player inside => ?_⟩
  apply stays player (formed.online player inside)
  rcases inside with has | invited
  · left
    rw [(linked.points_iff exists_ player).mpr has]
    nofun
  · right
    exact List.ne_nil_of_mem ((linked.invited_iff exists_ player).mpr invited)

end Consistent

/-! ## Runs -/

/-- The property of the parties: every list and pointer agrees with the others. -/
structure PartiesSound (world : World) : Prop where
  leader_not_member : ∀ address party, world.parties address = some party →
    party.leader ∉ party.memberList
  lists_nodup : ∀ address party, world.parties address = some party →
    party.memberList.Nodup ∧ party.inviteList.Nodup
  partyOf_iff : ∀ player address, world.getParty player = some address ↔
    ∃ party, world.parties address = some party ∧ party.has player
  invited_iff : ∀ player address, address ∈ world.invitePartyList player ↔
    ∃ party, world.parties address = some party ∧ player ∈ party.inviteList
  not_both : ∀ address party, world.parties address = some party →
    ∀ player ∈ party.inviteList, ¬party.has player
  /-- Nobody refers to a party without members and invitees, or to one that was disbanded. -/
  unreferenced : ∀ address, (world.parties address).all Party.empty = true → ∀ player,
    world.getParty player ≠ some address ∧ address ∉ world.invitePartyList player

theorem Consistent.partiesSound {online : Player → Prop} {world : World}
    (consistent : Consistent online world) : PartiesSound world where
  leader_not_member := fun address party exists_ =>
    (consistent.linked.formed address party exists_).leader
  lists_nodup := fun address party exists_ =>
    let formed := consistent.linked.formed address party exists_
    ⟨formed.members, formed.invitees⟩
  partyOf_iff := consistent.linked.pointer
  invited_iff := consistent.linked.invitation
  not_both := fun address party exists_ =>
    (consistent.linked.formed address party exists_).apart
  unreferenced := by
    intro address gone
    cases exists_ : world.parties address with
    | none => exact consistent.linked.unreferenced exists_
    | some party =>
      rw [exists_, Option.all_some, consistent.occupied address party exists_] at gone
      cases gone

/-- The player is in the game. -/
def Game.isOnline (game : Game) (player : Player) : Prop :=
  game.players player.id = some player

structure GameInvariant (game : Game) : Prop where
  consistent : Consistent game.isOnline game.toWorld
  ids : ∀ playerId player, game.players playerId = some player → player.id = playerId

namespace GameInvariant

variable {game : Game}

section

variable (invariant : GameInvariant game)
include invariant

theorem isOnline {playerId : UInt32} {player : Player}
    (found : game.players playerId = some player) : game.isOnline player := by
  rw [Game.isOnline, invariant.ids playerId player found]
  exact found

theorem withPlayers {playerId otherId : UInt32} {request : Player → Player → World}
    (consistent : ∀ player other, game.players playerId = some player →
      game.players otherId = some other → Consistent game.isOnline (request player other)) :
    GameInvariant (game.withPlayers playerId otherId request) := by
  unfold Game.withPlayers
  split
  · next player other isPlayer isOther =>
    exact ⟨consistent player other isPlayer isOther, invariant.ids⟩
  · exact invariant

theorem playerInviteToParty {playerId invitedId : UInt32}
    {address : Nat} (fresh : game.parties address = none) :
    GameInvariant (game.playerInviteToParty playerId invitedId address) := by
  unfold Game.playerInviteToParty
  split
  · exact invariant
  · next apart =>
    apply invariant.withPlayers
    intro player other isPlayer isOther
    apply invariant.consistent.inviteToParty fresh _ (invariant.isOnline isPlayer)
      (invariant.isOnline isOther)
    rintro rfl
    exact apart ((invariant.ids _ _ isPlayer).symm.trans (invariant.ids _ _ isOther))

variable (playerId : UInt32)

theorem playerLeaveParty (fights : Bool) :
    GameInvariant (game.playerLeaveParty playerId fights) := by
  unfold Game.playerLeaveParty
  split
  · exact invariant
  · next player isPlayer =>
    refine ⟨?_, invariant.ids⟩
    unfold World.leave
    cases points : game.getParty player with
    | none => exact invariant.consistent
    | some address =>
      dsimp only
      split
      · exact invariant.consistent
      · exact (invariant.consistent.leaveParty points).1

theorem clearPartyInvitations : GameInvariant (game.clearPartyInvitations playerId) := by
  unfold Game.clearPartyInvitations
  split
  · exact invariant
  · next player isPlayer =>
    exact ⟨invariant.consistent.clearPartyInvitations.1, invariant.ids⟩

theorem login {player : Player}
    (fresh : game.players player.id = none) : GameInvariant (game.login player) := by
  have offline : ¬game.isOnline player := by
    rw [Game.isOnline, fresh]
    nofun
  have linked := invariant.consistent.linked
  have noParty : game.partyOf player = none := by
    by_contra points
    obtain ⟨address, points⟩ := Option.ne_none_iff_exists'.mp points
    obtain ⟨party, exists_, has⟩ := (linked.pointer player address).mp points
    exact offline ((linked.formed address party exists_).online player (.inl has))
  have noInvitations : game.invitePartyList player = [] := by
    apply List.eq_nil_iff_forall_not_mem.mpr
    intro address invited
    obtain ⟨party, exists_, isInvitee⟩ := (linked.invitation player address).mp invited
    exact offline ((linked.formed address party exists_).online player (.inr isInvitee))
  have sameWorld : (game.login player).toWorld = game.toWorld := by
    unfold Game.login
    rw [← noParty, ← noInvitations, update_eq_self, update_eq_self]
  refine ⟨?_, fun playerId found isFound => ?_⟩
  · rw [sameWorld]
    refine invariant.consistent.online_mono fun found isOnline _ => ?_
    have apart : found.id ≠ player.id := by
      intro same
      rw [Game.isOnline, same, fresh] at isOnline
      cases isOnline
    exact (update_of_ne apart _ _).trans isOnline
  · simp only [Game.login] at isFound
    by_cases same : playerId = player.id
    · rw [same, update_self] at isFound
      rw [same, Option.some.inj isFound]
    · rw [update_of_ne same] at isFound
      exact invariant.ids playerId found isFound

theorem logout : GameInvariant (game.logout playerId) := by
  unfold Game.logout
  split
  · exact invariant
  · next player isPlayer =>
    obtain ⟨consistent, noParty, noInvitations⟩ :=
      @Consistent.onRemoveCreature _ _ player invariant.consistent
    refine ⟨consistent.online_mono fun found isOnline refers => ?_, fun id found isFound => ?_⟩
    · have apart : found.id ≠ playerId := by
        intro same
        rw [Game.isOnline, same, isPlayer] at isOnline
        rw [← Option.some.inj isOnline] at refers
        exact refers.elim (fun points => points noParty) fun invited => invited noInvitations
      exact (update_of_ne apart _ _).trans isOnline
    · simp only at isFound
      by_cases same : id = playerId
      · rw [same, update_self] at isFound
        cases isFound
      · rw [update_of_ne same] at isFound
        exact invariant.ids id found isFound

theorem step {request : Request}
    (legal : gameSystem.legal game request) : GameInvariant (gameSystem.step game request) := by
  cases request with
  | inviteToParty playerId invitedId address => exact invariant.playerInviteToParty legal
  | joinParty playerId leaderId =>
    exact invariant.withPlayers fun _ _ _ _ => invariant.consistent.join
  | revokePartyInvitation playerId invitedId =>
    exact invariant.withPlayers fun _ _ _ _ => invariant.consistent.revokePartyInvitation
  | passPartyLeadership playerId newLeaderId =>
    exact invariant.withPlayers fun _ _ _ _ => invariant.consistent.passLeadership
  | leaveParty playerId fights => exact invariant.playerLeaveParty playerId fights
  | clearPartyInvitations playerId => exact invariant.clearPartyInvitations playerId
  | login player => exact invariant.login legal
  | logout playerId => exact invariant.logout playerId

end

/-- No party has been made yet. -/
theorem start {players : UInt32 → Option Player}
    (ids : ∀ playerId player, players playerId = some player → player.id = playerId) :
    GameInvariant { players := players } where
  consistent := by
    refine ⟨⟨nofun, ?_, ?_, fun _ => List.nodup_nil⟩, nofun⟩
    · intro player address
      simp only [reduceCtorEq, false_and, exists_false]
    · intro player address
      simp only [List.not_mem_nil, reduceCtorEq, false_and, exists_false]
  ids := ids

end GameInvariant

/-- **The parties and the players agree about who is in which party and invited to which,
in every state that requests and logouts lead to from a game without parties.** -/
theorem parties_consistent {players : UInt32 → Option Player}
    (ids : ∀ playerId player, players playerId = some player → player.id = playerId)
    {requests : List Request} (legal : gameSystem.Legal { players := players } requests) :
    PartiesSound (gameSystem.run { players := players } requests).toWorld := by
  have invariant : GameInvariant (gameSystem.run { players := players } requests) :=
    System.run_invariant_of_legal (fun _ _ invariant legal => invariant.step legal)
      (.start ids) legal
  exact invariant.consistent.partiesSound

instance : ∀ (game : Game) (request : Request), Decidable (gameSystem.legal game request)
  | game, .inviteToParty _ _ address => inferInstanceAs (Decidable (game.parties address = none))
  | game, .login player => inferInstanceAs (Decidable (game.players player.id = none))
  | _, .joinParty _ _ | _, .revokePartyInvitation _ _ | _, .passPartyLeadership _ _
  | _, .leaveParty _ _ | _, .clearPartyInvitations _ | _, .logout _ => .isTrue trivial

/-- Three players: the second is invited and joins, the leader leaves with the third
invited, who goes before joining. -/
theorem parties_consistent_three :
    let players : UInt32 → Option Player := fun id =>
      if id = 1 then some ⟨1, 11⟩ else if id = 2 then some ⟨2, 12⟩ else
        if id = 3 then some ⟨3, 13⟩ else none
    PartiesSound (gameSystem.run { players := players }
      [.inviteToParty 1 2 100, .joinParty 2 1, .inviteToParty 1 3 101, .leaveParty 1 false,
        .logout 3]).toWorld :=
  parties_consistent (by grind) (by decide)

end Otserv.Parties
