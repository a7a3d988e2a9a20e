import Otserv.Houses.Transfers
import Otserv.Houses.Visitors

/-!
# Uninvited visitors

No player should be on a tile of a house to whom the house does not open (`Visits.NoTrespass`),
and when the house changes its owner nobody should be left there but who may edit houses. Of a
house whose entry is outside of any house this is kept by every operation that leads nobody in
past `queryAdd` (`no_trespass_kept`): `Teleport::addThing` and the loop over the destinations in
`internalMoveCreature` move a creature with `Map::moveCreature`, which asks no tile. The loop goes
on to the entry of the house unless it is cut off after `MAP_MAX_LAYERS` turns.
-/

namespace Otserv.Houses

open Foundation
open Function (update update_of_ne update_self update_eq_self update_idem)

namespace Land

/-- Where a creature gets that is moved to a tile, when so many teleports may follow. -/
def arrivesWithin (land : Land) : Nat → Nat → Nat
  | 0, tile => tile
  | depth + 1, tile =>
    match land.teleportDest tile with
    | some destTile => arrivesWithin land depth destTile
    | none => tile

def arrives (land : Land) (tile : Nat) : Nat := land.arrivesWithin land.depth tile

end Land

theorem AccessHouseLevel.rank_le_owner (level : AccessHouseLevel) :
    level.rank ≤ AccessHouseLevel.owner.rank := by
  cases level <;> decide

namespace House

variable {lookup : Lookup} {house : House} {ownedByAccount : Bool} {player : Player}

/-- Whom a house opens to. -/
theorem isInvited_iff : house.isInvited ownedByAccount player = true ↔
    (ownedByAccount = true ∧ house.ownerAccountId = player.accountNumber) ∨
      player.canEditHouses = true ∨ player.guid = house.owner ∨
        house.subOwnerList.isInList player = true ∨ house.guestList.isInList player = true := by
  have account : (ownedByAccount && house.ownerAccountId == player.accountNumber) = true ↔
      ownedByAccount = true ∧ house.ownerAccountId = player.accountNumber := by
    rw [Bool.and_eq_true, beq_iff_eq]
  rw [isInvited, getHouseAccessLevel, ← account]
  split_ifs with byAccount edits owns subOwns isGuest
  · exact iff_of_true rfl (.inl byAccount)
  · exact iff_of_true rfl (.inr (.inl edits))
  · exact iff_of_true rfl (.inr (.inr (.inl owns)))
  · exact iff_of_true rfl (.inr (.inr (.inr (.inl subOwns))))
  · exact iff_of_true rfl (.inr (.inr (.inr (.inr isGuest))))
  · refine iff_of_false (by decide) ?_
    rintro (is | is | is | is | is)
    · exact byAccount is
    · exact edits is
    · exact owns is
    · exact subOwns is
    · exact isGuest is

theorem isInvited_of_editor (edits : player.canEditHouses = true) :
    house.isInvited ownedByAccount player = true :=
  isInvited_iff.mpr (.inr (.inl edits))

theorem isInvited_setAccessList {listId : Nat} (isDoor : ¬ (listId = GUEST_LIST ∨
    listId = SUBOWNER_LIST)) (textlist : Text) :
    (house.setAccessList lookup listId textlist).isInvited ownedByAccount player =
      house.isInvited ownedByAccount player := by
  rw [not_or] at isDoor
  rw [setAccessList, if_neg isDoor.1, if_neg isDoor.2]
  cases house.doorSet.findIdx? (·.doorId == listId) <;> rfl

theorem ownerAccountId_setAccessList (listId : Nat) (textlist : Text) :
    (house.setAccessList lookup listId textlist).ownerAccountId = house.ownerAccountId := by
  rw [setAccessList]
  split_ifs
  · rfl
  · rfl
  · cases house.doorSet.findIdx? (·.doorId == listId) <;> rfl

/-- A house that nobody owns is owned by no account. -/
def Accounted (house : House) : Prop := house.owner = 0 → house.ownerAccountId = 0

theorem Accounted.setAccessList (accounted : house.Accounted) (listId : Nat) (textlist : Text) :
    (house.setAccessList lookup listId textlist).Accounted := by
  rw [Accounted, ownerAccountId_setAccessList, (setAccessList_frame lookup house listId textlist).1]
  exact accounted

theorem Accounted.setOwner (accounted : house.Accounted) (guid : Nat) :
    (house.setOwner lookup guid).Accounted := by
  unfold House.setOwner
  by_cases same : house.isLoaded ∧ house.owner = guid
  · rwa [if_pos same]
  rw [if_neg same]
  by_cases given : guid ≠ 0 ∧ lookup.getNameByGuid guid ≠ []
  · simp only [if_pos given]
    exact fun unowned => absurd unowned given.1
  · simp only [if_neg given]
    by_cases owned : house.owner ≠ 0
    · simp only [if_pos owned]
      exact fun _ => rfl
    · simp only [if_neg owned]
      exact accounted

/-- A house that nobody owned opens to whom it did. -/
theorem isInvited_setOwner (accounted : house.Accounted) (unowned : house.owner = 0) (guid : Nat)
    (invited : house.isInvited ownedByAccount player = true) :
    (house.setOwner lookup guid).isInvited ownedByAccount player = true := by
  have lists : (house.setOwner lookup guid).subOwnerList = house.subOwnerList ∧
      (house.setOwner lookup guid).guestList = house.guestList := by
    unfold House.setOwner
    by_cases same : house.isLoaded ∧ house.owner = guid
    · rw [if_pos same]
      exact ⟨rfl, rfl⟩
    rw [if_neg same]
    simp only [if_neg (not_not.mpr unowned)]
    split <;> exact ⟨rfl, rfl⟩
  rw [isInvited_iff] at invited
  rcases invited with ⟨-, account⟩ | edits | owns | subOwns | isGuest
  · rw [accounted unowned] at account
    exact absurd account.symm player.accountNumber_pos.ne'
  · exact isInvited_of_editor edits
  · rw [unowned] at owns
    exact absurd owns player.guid_pos.ne'
  · refine isInvited_iff.mpr (.inr (.inr (.inr (.inl ?_))))
    rwa [lists.1]
  · refine isInvited_iff.mpr (.inr (.inr (.inr (.inr ?_))))
    rwa [lists.2]

end House

namespace Visits

variable {land : Land} {visits after : Visits} {creature tile number : Nat}

/-! ## Where the creatures are -/

theorem creatures_addThing (tile creature : Nat) :
    (visits.addThing tile creature).creatures =
      update visits.creatures tile (creature :: visits.creatures tile) := rfl

theorem parent_addThing (tile creature : Nat) :
    (visits.addThing tile creature).parent =
      update visits.parent creature (some tile) := rfl

theorem creatures_removeThing (tile creature : Nat) :
    (visits.removeThing tile creature).creatures =
      update visits.creatures tile ((visits.creatures tile).erase creature) := rfl

theorem parent_removeThing (tile creature : Nat) :
    (visits.removeThing tile creature).parent = update visits.parent creature none := rfl

/-- The lists of the tiles agree with the tiles of the creatures. -/
structure Placed (visits : Visits) : Prop where
  nodup : ∀ tile, (visits.creatures tile).Nodup
  mem_iff : ∀ {tile creature},
    creature ∈ visits.creatures tile ↔ visits.parent creature = some tile

/-- A creature has been moved to a tile, and nothing else. -/
structure Moved (visits : Visits) (creature tile : Nat) (after : Visits) : Prop where
  houses : after.houses = visits.houses
  placed : after.Placed
  parent : after.parent = update visits.parent creature (some tile)
  others : ∀ tile, (after.creatures tile).erase creature = (visits.creatures tile).erase creature

namespace Moved

theorem trans {next : Visits} {further : Nat} (moved : visits.Moved creature tile after)
    (again : after.Moved creature further next) : visits.Moved creature further next where
  houses := again.houses.trans moved.houses
  placed := again.placed
  parent := by rw [again.parent, moved.parent, update_idem]
  others := fun tile => (again.others tile).trans (moved.others tile)

theorem parent_self (moved : visits.Moved creature tile after) :
    after.parent creature = some tile := by
  rw [moved.parent, update_self]

theorem parent_of_ne (moved : visits.Moved creature tile after) {other : Nat}
    (different : other ≠ creature) : after.parent other = visits.parent other := by
  rw [moved.parent, update_of_ne different]

/-- On other tiles the creature is taken out of the list. -/
theorem creatures_of_ne (moved : visits.Moved creature tile after) {other : Nat}
    (different : other ≠ tile) : after.creatures other = (visits.creatures other).erase creature := by
  have absent : creature ∉ after.creatures other := by
    rw [moved.placed.mem_iff, moved.parent_self, Option.some_inj]
    exact different.symm
  rw [← moved.others, List.erase_of_not_mem absent]

end Moved

namespace Placed

variable (placed : visits.Placed)
include placed

theorem addThing (nowhere : visits.parent creature = none) (tile : Nat) :
    visits.Moved creature tile (visits.addThing tile creature) := by
  have absent (other : Nat) : creature ∉ visits.creatures other := by
    rw [placed.mem_iff, nowhere]
    exact Option.some_ne_none other ∘ .symm
  refine ⟨rfl, ⟨fun other => ?_, fun {other someone} => ?_⟩, rfl, fun other => ?_⟩
  · rw [creatures_addThing]
    by_cases here : other = tile
    · rw [here, update_self]
      exact List.nodup_cons.mpr ⟨absent tile, placed.nodup tile⟩
    · rw [update_of_ne here]
      exact placed.nodup other
  · rw [creatures_addThing, parent_addThing]
    by_cases same : someone = creature
    · subst same
      rw [update_self, Option.some_inj]
      by_cases here : other = tile
      · rw [here, update_self]
        exact iff_of_true List.mem_cons_self rfl
      · rw [update_of_ne here]
        exact iff_of_false (absent other) fun eq => here eq.symm
    · rw [update_of_ne same, ← placed.mem_iff]
      by_cases here : other = tile
      · rw [here, update_self, List.mem_cons]
        exact or_iff_right same
      · rw [update_of_ne here]
  · rw [creatures_addThing]
    by_cases here : other = tile
    · rw [here, update_self, List.erase_cons_head, List.erase_of_not_mem (absent tile)]
    · rw [update_of_ne here]

theorem removeThing (isAt : visits.parent creature = some tile) :
    (visits.removeThing tile creature).Placed ∧
      ∀ other, (visits.removeThing tile creature).creatures other =
        (visits.creatures other).erase creature := by
  have erased (other : Nat) : (visits.removeThing tile creature).creatures other =
      (visits.creatures other).erase creature := by
    rw [creatures_removeThing]
    by_cases here : other = tile
    · rw [here, update_self]
    · rw [update_of_ne here, List.erase_of_not_mem]
      rw [placed.mem_iff, isAt, Option.some_inj]
      exact fun eq => here eq.symm
  refine ⟨⟨fun other => ?_, fun {other someone} => ?_⟩, erased⟩
  · rw [erased]
    exact (placed.nodup other).erase creature
  · rw [erased, (placed.nodup other).mem_erase_iff, placed.mem_iff, parent_removeThing]
    by_cases same : someone = creature
    · rw [same, update_self]
      exact iff_of_false (fun both => both.1 rfl) (Option.some_ne_none other ∘ .symm)
    · rw [update_of_ne same]
      exact and_iff_right same

theorem relocate {oldTile : Nat} (isAt : visits.parent creature = some oldTile) (tile : Nat) :
    visits.Moved creature tile ((visits.removeThing oldTile creature).addThing tile creature) := by
  obtain ⟨removed, erased⟩ := placed.removeThing isAt
  have nowhere : (visits.removeThing oldTile creature).parent creature = none :=
    update_self _ _ _
  have added := removed.addThing nowhere tile
  refine ⟨rfl, added.placed, ?_, fun other => ?_⟩
  · rw [added.parent, parent_removeThing, update_idem]
  · rw [added.others, erased, List.erase_of_not_mem]
    exact (placed.nodup other).not_mem_erase

/-- **`Map::moveCreature`** moves a creature to the tile, and on where its teleports lead to. -/
theorem moveCreatureWithin {oldTile : Nat} (isAt : visits.parent creature = some oldTile)
    (depth newTile : Nat) :
    visits.Moved creature (land.arrivesWithin depth newTile)
      (moveCreatureWithin land creature depth newTile visits) := by
  induction depth generalizing visits oldTile newTile with
  | zero =>
    rw [Visits.moveCreatureWithin, isAt]
    simp only []
    rw [if_neg (not_not_intro (placed.mem_iff.mpr isAt))]
    exact placed.relocate isAt newTile
  | succ depth ih =>
    have moved := placed.relocate isAt newTile
    rw [Visits.moveCreatureWithin, isAt]
    simp only []
    rw [if_neg (not_not_intro (placed.mem_iff.mpr isAt)), Land.arrivesWithin]
    cases land.teleportDest newTile with
    | none => exact moved
    | some destTile => exact moved.trans (ih moved.placed moved.parent_self destTile)

theorem moveCreature {oldTile : Nat} (isAt : visits.parent creature = some oldTile)
    (newTile : Nat) :
    visits.Moved creature (land.arrives newTile) (visits.moveCreature land creature newTile) :=
  placed.moveCreatureWithin isAt land.depth newTile

end Placed

theorem moveCreature_of_none (nowhere : visits.parent creature = none) (newTile : Nat) :
    visits.moveCreature land creature newTile = visits := by
  rw [moveCreature, moveCreatureWithin, nowhere]

/-! ## Who is let in -/

/-- The creature may be on the tile, as far as the house goes. -/
def Admits (land : Land) (visits : Visits) (number creature tile : Nat) : Prop :=
  ∀ player ∈ land.player creature, land.house tile = some number →
    visits.isInvited land number player

/-- **No uninvited player is on a tile of the house.** -/
def NoTrespass (land : Land) (number : Nat) (visits : Visits) : Prop :=
  ∀ creature tile, visits.parent creature = some tile → visits.Admits land number creature tile

/-- If there is a teleport on the tile, it leads nobody in who is not invited. -/
def Treads (land : Land) (visits : Visits) (number creature tile : Nat) : Prop :=
  land.arrives tile ≠ tile → visits.Admits land number creature (land.arrives tile)

/-- The destinations that follow one another from a tile come to rest, or are at the last no tile
of the house, and no teleport on them leads in. -/
def Settles (land : Land) (visits : Visits) (number creature : Nat) : Nat → Nat → Prop
  | 0, tile => visits.Admits land number creature tile
  | layers + 1, tile =>
    visits.queryDestination land creature tile = tile ∨
      visits.Treads land number creature (visits.queryDestination land creature tile) ∧
        (land.arrives (visits.queryDestination land creature tile) =
            visits.queryDestination land creature tile →
          Settles land visits number creature layers
            (visits.queryDestination land creature tile))

theorem isInvited_congr (same : after.houses number = visits.houses number) :
    after.isInvited land number = visits.isInvited land number := by
  funext player
  rw [isInvited, isInvited, same]

theorem admits_congr (same : after.houses number = visits.houses number) :
    after.Admits land number creature tile ↔ visits.Admits land number creature tile := by
  rw [Admits, Admits, isInvited_congr same]

theorem queryDestination_congr (same : after.houses = visits.houses) (creature tile : Nat) :
    after.queryDestination land creature tile = visits.queryDestination land creature tile := by
  have sameInvited : after.isInvited land = visits.isInvited land :=
    funext fun number => isInvited_congr (congrFun same number)
  rw [queryDestination, queryDestination, sameInvited]

theorem settles_congr (same : after.houses = visits.houses) (layers tile : Nat) :
    after.Settles land number creature layers tile ↔
      visits.Settles land number creature layers tile := by
  induction layers generalizing tile with
  | zero => exact admits_congr (congrFun same number)
  | succ layers ih =>
    rw [Settles, Settles, queryDestination_congr same, ih, Treads, Treads,
      admits_congr (congrFun same number)]

/-- `queryAdd` lets in who is invited. -/
theorem admits_of_queryAdd {noLimit : Bool} {otherwise : ReturnValue}
    (lets : visits.queryAdd land tile creature noLimit otherwise = .noError) :
    visits.Admits land number creature tile := by
  intro player isPlayer isHouse
  by_contra uninvited
  rw [queryAdd, isHouse, isPlayer] at lets
  simp only [] at lets
  rw [if_neg uninvited] at lets
  cases lets

/-- Where `queryAdd` is asked first, only teleports lead in. -/
theorem admits_arrives {noLimit : Bool} {otherwise : ReturnValue}
    (lets : visits.queryAdd land tile creature noLimit otherwise = .noError)
    (treads : visits.Treads land number creature tile) :
    visits.Admits land number creature (land.arrives tile) := by
  by_cases stays : land.arrives tile = tile
  · rw [stays]
    exact admits_of_queryAdd lets
  · exact treads stays

theorem noTrespass_of (kept : ∀ {someone place}, someone ≠ creature →
      visits.parent someone = some place → visits.Admits land number someone place)
    (isAt : visits.parent creature = some tile) (admits : visits.Admits land number creature tile) :
    visits.NoTrespass land number := by
  intro someone place isThere
  by_cases same : someone = creature
  · rw [same, isAt, Option.some_inj] at isThere
    rwa [same, ← isThere]
  · exact kept same isThere

/-- Others stay where they are, and the creature is let in. -/
theorem Moved.noTrespass (moved : visits.Moved creature tile after)
    (kept : visits.NoTrespass land number) (admits : visits.Admits land number creature tile) :
    after.NoTrespass land number := by
  have same := congrFun moved.houses number
  refine noTrespass_of (fun different isAt => ?_) moved.parent_self ((admits_congr same).mpr admits)
  rw [moved.parent_of_ne different] at isAt
  exact (admits_congr same).mpr (kept _ _ isAt)

section Entry

variable {entry : Nat} (isEntry : land.entry number = some entry)
  (outside : land.house entry = none)
include isEntry outside

/-- A player who is not invited is sent on from every tile of the house. -/
theorem admits_of_rest (rests : visits.queryDestination land creature tile = tile) :
    visits.Admits land number creature tile := by
  intro player isPlayer isHouse
  by_contra uninvited
  rw [queryDestination, isHouse, isPlayer] at rests
  simp only [] at rests
  rw [if_neg uninvited, isEntry, Option.getD_some] at rests
  rw [rests, isHouse] at outside
  cases outside

/-! ## Movement -/

theorem Placed.followDestinations (placed : visits.Placed)
    (kept : ∀ {someone place}, someone ≠ creature → visits.parent someone = some place →
      visits.Admits land number someone place)
    (isAt : visits.parent creature = some tile) {layers : Nat}
    (settles : visits.Settles land number creature layers tile) :
    (visits.followDestinations land creature layers tile).Placed ∧
      (visits.followDestinations land creature layers tile).NoTrespass land number ∧
        (visits.followDestinations land creature layers tile).houses = visits.houses := by
  induction layers generalizing visits tile with
  | zero => exact ⟨placed, noTrespass_of kept isAt settles, rfl⟩
  | succ layers ih =>
    rw [Visits.followDestinations]
    by_cases rests : visits.queryDestination land creature tile = tile
    · rw [if_pos rests]
      exact ⟨placed, noTrespass_of kept isAt (admits_of_rest isEntry outside rests), rfl⟩
    rw [if_neg rests]
    obtain ⟨treads, onwards⟩ := settles.resolve_left rests
    have moved := @Placed.moveCreature land _ _ placed _ isAt
      (visits.queryDestination land creature tile)
    generalize visits.queryDestination land creature tile = subCylinder at *
    have same := congrFun moved.houses number
    have keptToo {someone place : Nat} (different : someone ≠ creature)
        (isThere : (visits.moveCreature land creature subCylinder).parent someone = some place) :
        (visits.moveCreature land creature subCylinder).Admits land number someone place := by
      rw [moved.parent_of_ne different] at isThere
      exact (admits_congr same).mpr (kept different isThere)
    by_cases stays : land.arrives subCylinder = subCylinder
    · have isThere := moved.parent_self
      rw [stays] at isThere
      rw [if_pos isThere]
      have settles := (settles_congr moved.houses layers subCylinder).mpr (onwards stays)
      obtain ⟨placedToo, noTrespass, houses⟩ := ih moved.placed keptToo isThere settles
      exact ⟨placedToo, noTrespass, houses.trans moved.houses⟩
    · have elsewhere : (visits.moveCreature land creature subCylinder).parent creature ≠
          some subCylinder := by
        rwa [moved.parent_self, ne_eq, Option.some_inj]
      rw [if_neg elsewhere]
      exact ⟨moved.placed, noTrespass_of keptToo moved.parent_self
        ((admits_congr same).mpr (treads stays)), moved.houses⟩

/-- **`Game::internalMoveCreature`.** -/
theorem Placed.internalMoveCreature (placed : visits.Placed)
    (kept : visits.NoTrespass land number) {otherwise : ReturnValue}
    (treads : visits.Treads land number creature tile)
    (settles : land.arrives tile = tile →
      visits.Settles land number creature MAP_MAX_LAYERS tile) :
    (visits.internalMoveCreature land creature tile otherwise).Placed ∧
      (visits.internalMoveCreature land creature tile otherwise).NoTrespass land number ∧
        (visits.internalMoveCreature land creature tile otherwise).houses = visits.houses := by
  rw [Visits.internalMoveCreature]
  by_cases lets : visits.queryAdd land tile creature false otherwise = .noError
  swap
  · rw [if_pos lets]
    exact ⟨placed, kept, rfl⟩
  rw [if_neg (not_not_intro lets)]
  cases isAt : visits.parent creature with
  | none =>
    simp only [moveCreature_of_none isAt]
    rw [if_neg (isAt ▸ Option.some_ne_none tile ∘ Eq.symm)]
    exact ⟨placed, kept, rfl⟩
  | some oldTile =>
    have moved := @Placed.moveCreature land _ _ placed _ isAt tile
    have arrived := moved.noTrespass kept (admits_arrives lets treads)
    by_cases stays : land.arrives tile = tile
    · have isThere := moved.parent_self
      rw [stays] at isThere
      rw [if_pos isThere]
      obtain ⟨placedToo, noTrespass, houses⟩ := Placed.followDestinations isEntry outside
        moved.placed (fun _ isIn => arrived _ _ isIn) isThere
        ((settles_congr moved.houses MAP_MAX_LAYERS tile).mpr (settles stays))
      exact ⟨placedToo, noTrespass, houses.trans moved.houses⟩
    · have elsewhere : (visits.moveCreature land creature tile).parent creature ≠ some tile := by
        rwa [moved.parent_self, ne_eq, Option.some_inj]
      rw [if_neg elsewhere]
      exact ⟨moved.placed, arrived, moved.houses⟩

end Entry

/-- `Game::internalTeleport` leaves everything, or moves the creature to a tile that lets it in. -/
theorem Placed.internalTeleport (placed : visits.Placed) (creature : Nat) (newTile : Option Nat) :
    visits.internalTeleport land creature newTile = visits ∨
      ∃ toTile, newTile = some toTile ∧
        visits.queryAdd land toTile creature true .noError = .noError ∧
          visits.Moved creature (land.arrives toTile)
            (visits.internalTeleport land creature newTile) := by
  cases newTile with
  | none => exact .inl rfl
  | some toTile =>
    rw [Visits.internalTeleport]
    split_ifs with isThere refused
    · exact .inl rfl
    · exact .inl rfl
    · cases isAt : visits.parent creature with
      | none => exact .inl (moveCreature_of_none isAt toTile)
      | some oldTile =>
        exact .inr ⟨toTile, rfl, not_not.mp refused, placed.moveCreature isAt toTile⟩

/-- **`Game::internalTeleport`.** -/
theorem Placed.noTrespass_internalTeleport (placed : visits.Placed)
    (kept : visits.NoTrespass land number) {newTile : Option Nat}
    (treads : ∀ toTile ∈ newTile, visits.Treads land number creature toTile) :
    (visits.internalTeleport land creature newTile).Placed ∧
      (visits.internalTeleport land creature newTile).NoTrespass land number ∧
        (visits.internalTeleport land creature newTile).houses = visits.houses := by
  rcases @Placed.internalTeleport land _ placed creature newTile with
    same | ⟨toTile, isNew, lets, moved⟩
  · rw [same]
    exact ⟨placed, kept, rfl⟩
  · exact ⟨moved.placed, moved.noTrespass kept (admits_arrives lets (treads toTile isNew)),
      moved.houses⟩

/-- What `Game::placeCreature` has to keep to: the tile that is found leads nobody in. -/
def Places (land : Land) (visits : Visits) (number creature tile : Nat) : Prop :=
  let toCylinder := visits.queryDestination land creature tile
  (toCylinder ≠ tile → visits.Admits land number creature toCylinder) ∧
    ∀ destTile ∈ land.teleportDest toCylinder,
      visits.Admits land number creature (land.arrives destTile)

/-- **`Game::placeCreature`.** -/
theorem Placed.placeCreature {entry : Nat} (isEntry : land.entry number = some entry)
    (outside : land.house entry = none) (placed : visits.Placed)
    (kept : visits.NoTrespass land number) {centre : Option (Nat × ReturnValue)}
    {around : List (Nat × ReturnValue)} {forceLogin : Bool}
    (places : ∀ tile ∈ visits.foundTile land creature centre around forceLogin,
      visits.Places land number creature tile) :
    (visits.placeCreature land creature centre around forceLogin).Placed ∧
      (visits.placeCreature land creature centre around forceLogin).NoTrespass land number ∧
        (visits.placeCreature land creature centre around forceLogin).houses = visits.houses := by
  rw [Visits.placeCreature]
  by_cases nowhere : visits.parent creature = none
  swap
  · rw [if_pos nowhere]
    exact ⟨placed, kept, rfl⟩
  rw [if_neg (not_not_intro nowhere)]
  cases found : visits.foundTile land creature centre around forceLogin with
  | none => exact ⟨placed, kept, rfl⟩
  | some tile =>
    obtain ⟨admits, treads⟩ := places tile found
    simp only []
    have admitsDest : visits.Admits land number creature
        (visits.queryDestination land creature tile) := by
      by_cases rests : visits.queryDestination land creature tile = tile
      · rw [rests]
        exact admits_of_rest isEntry outside rests
      · exact admits rests
    generalize visits.queryDestination land creature tile = toCylinder at *
    have added := placed.addThing nowhere toCylinder
    have addedKept := added.noTrespass kept admitsDest
    rw [postAddNotification]
    cases isDest : land.teleportDest toCylinder with
    | none => exact ⟨added.placed, addedKept, added.houses⟩
    | some destTile =>
      have moved := @Placed.moveCreature land _ _ added.placed _ added.parent_self destTile
      have lets := (admits_congr (congrFun added.houses number)).mpr (treads destTile isDest)
      exact ⟨moved.placed, moved.noTrespass addedKept lets, moved.houses.trans added.houses⟩

/-! ## Kicks -/

section Kicks

variable {other : Nat} {kicked : Player → Prop}

/-- All that the kicks from a house do: players who are on its tiles get to its entry. -/
structure Swept (land : Land) (number other : Nat) (kicked : Player → Prop)
    (visits after : Visits) : Prop where
  placed : after.Placed
  moves : ∀ creature, after.parent creature = visits.parent creature ∨
    ∃ player tile entry, land.player creature = some player ∧ kicked player ∧
      visits.parent creature = some tile ∧ land.house tile = some other ∧
        land.entry other = some entry ∧
          (land.house entry = some number → visits.isInvited land number player) ∧
            after.parent creature = some (land.arrives entry)

namespace Swept

theorem refl (placed : visits.Placed) : Swept land number other kicked visits visits :=
  ⟨placed, fun _ => .inl rfl⟩

/-- Who is sent away twice was on a tile of the house before the first time. -/
theorem trans {next : Visits} (swept : Swept land number other kicked visits after)
    (again : Swept land number other kicked after next)
    (same : ∀ entry ∈ land.entry other, land.house entry = some number →
      after.houses number = visits.houses number) :
    Swept land number other kicked visits next := by
  refine ⟨again.placed, fun creature => ?_⟩
  rcases again.moves creature with stays |
    ⟨player, tile, entry, isPlayer, isKicked, isAt, isHouse, isEntry, lets, sent⟩
  · rw [stays]
    exact swept.moves creature
  · refine .inr ?_
    have letsBefore (isInside : land.house entry = some number) :
        visits.isInvited land number player := by
      rw [← isInvited_congr (same entry isEntry isInside)]
      exact lets isInside
    rcases swept.moves creature with stayed |
      ⟨_, wasTile, _, _, _, wasAt, wasHouse, -, -, -⟩
    · rw [stayed] at isAt
      exact ⟨player, tile, entry, isPlayer, isKicked, isAt, isHouse, isEntry, letsBefore, sent⟩
    · exact ⟨player, wasTile, entry, isPlayer, isKicked, wasAt, wasHouse, isEntry, letsBefore, sent⟩

theorem mono {more : Player → Prop} (swept : Swept land number other kicked visits after)
    (weaker : ∀ player, kicked player → more player) :
    Swept land number other more visits after := by
  refine ⟨swept.placed, fun creature => (swept.moves creature).imp_right ?_⟩
  rintro ⟨player, tile, entry, isPlayer, isKicked, rest⟩
  exact ⟨player, tile, entry, isPlayer, weaker player isKicked, rest⟩

end Swept

/-- **A kick** is one of these. -/
theorem Placed.kickPlayer (placed : visits.Placed) (kicker : Option Player) {target : Nat}
    (isKicked : ∀ player, land.player target = some player → player.canEditHouses = false →
      kicked player) :
    (visits.kickPlayer land other kicker target).houses = visits.houses ∧
      Swept land number other kicked visits (visits.kickPlayer land other kicker target) := by
  rw [Visits.kickPlayer]
  cases isPlayer : land.player target with
  | none => exact ⟨rfl, .refl placed⟩
  | some player =>
    simp only []
    split_ifs with elsewhere spared
    · exact ⟨rfl, .refl placed⟩
    · exact ⟨rfl, .refl placed⟩
    · rcases @Placed.internalTeleport land _ placed target (land.entry other) with
        same | ⟨entry, isEntry, lets, moved⟩
      · rw [same]
        exact ⟨rfl, .refl placed⟩
      · refine ⟨moved.houses, moved.placed, fun creature => ?_⟩
        by_cases isIt : creature = target
        swap
        · exact .inl (moved.parent_of_ne isIt)
        subst isIt
        obtain ⟨tile, isAt, isHouse⟩ := Option.bind_eq_some_iff.mp (not_not.mp elsewhere)
        have noEditor : player.canEditHouses = false :=
          Bool.eq_false_iff.mpr fun edits => spared (.inr edits)
        exact .inr ⟨player, tile, entry, isPlayer, isKicked player isPlayer noEditor, isAt,
          isHouse, isEntry, admits_of_queryAdd lets player isPlayer, moved.parent_self⟩

theorem kickLoop_induction {holds : Visits → Prop} {kick : Visits → Nat → Visits}
    (step : ∀ visits creature, holds visits → holds (kick visits creature)) (tile index : Nat)
    (initial : holds visits) : holds (visits.kickLoop kick tile index) := by
  induction index generalizing visits with
  | zero => exact initial
  | succ index ih =>
    rw [kickLoop]
    cases (visits.creatures tile)[index]? with
    | none => exact ih initial
    | some creature => exact ih (step visits creature initial)

theorem foldl_kickLoop_induction {holds : Visits → Prop} {kick : Visits → Nat → Visits}
    (step : ∀ visits creature, holds visits → holds (kick visits creature)) (tiles : List Nat)
    (initial : holds visits) : holds (tiles.foldl (fun visits tile =>
      visits.kickLoop kick tile (visits.creatures tile).length) visits) := by
  induction tiles generalizing visits with
  | nil => exact initial
  | cons tile tiles ih => exact ih (kickLoop_induction step tile _ initial)

/-- The kicks from a house that a loop is made of. -/
def Sweeps (land : Land) (number other : Nat) (kicked : Player → Prop) (visits : Visits)
    (kick : Visits → Nat → Visits) : Prop :=
  ∀ (between : Visits) creature, between.houses = visits.houses → between.Placed →
    (kick between creature).houses = between.houses ∧
      Swept land number other kicked between (kick between creature)

/-- What the loops have done so far. -/
theorem Sweeps.step {kick : Visits → Nat → Visits}
    (sweeps : Sweeps land number other kicked visits kick) {start : Visits}
    (sameStart : start.houses = visits.houses) (between : Visits) (creature : Nat)
    (before : between.houses = visits.houses ∧ Swept land number other kicked start between) :
    (kick between creature).houses = visits.houses ∧
      Swept land number other kicked start (kick between creature) := by
  obtain ⟨sameHouses, swept⟩ := before
  obtain ⟨again, sweptAgain⟩ := sweeps between creature sameHouses swept.placed
  refine ⟨again.trans sameHouses, swept.trans sweptAgain fun _ _ _ => ?_⟩
  rw [sameHouses, sameStart]

/-- **The loops over kicks.** -/
theorem Placed.kickTiles (placed : visits.Placed) {kick : Visits → Nat → Visits}
    (sweeps : Sweeps land number other kicked visits kick) :
    (visits.kickTiles land kick other).houses = visits.houses ∧
      Swept land number other kicked visits (visits.kickTiles land kick other) :=
  foldl_kickLoop_induction (sweeps.step rfl) (land.houseTiles other) ⟨rfl, .refl placed⟩

section Entry

variable {entry : Nat} (isEntry : land.entry number = some entry)
  (outside : land.house entry = none)
include isEntry outside

theorem Placed.kickPlayer_moved (placed : visits.Placed) {player : Player}
    (isPlayer : land.player creature = some player) (isAt : visits.parent creature = some tile)
    (isHouse : land.house tile = some number) (noEditor : player.canEditHouses = false) :
    visits.Moved creature (land.arrives entry) (visits.kickPlayer land number none creature) := by
  have here : (visits.parent creature).bind land.house = some number := by
    rw [isAt, Option.bind_some, isHouse]
  have below : ¬ (((visits.houses number).getHouseAccessLevel land.ownedByAccount none).rank <
      ((visits.houses number).getHouseAccessLevel land.ownedByAccount (some player)).rank ∨
        player.canEditHouses = true) := by
    rw [noEditor]
    rintro (above | edits)
    · exact Nat.not_lt.mpr (AccessHouseLevel.rank_le_owner _) above
    · cases edits
  have different : visits.parent creature ≠ some entry := by
    rw [isAt, ne_eq, Option.some_inj]
    rintro rfl
    rw [isHouse] at outside
    cases outside
  have lets : visits.queryAdd land entry creature true .noError = .noError := by
    rw [queryAdd, outside]
    rfl
  rw [Visits.kickPlayer, isPlayer]
  simp only []
  rw [if_neg (not_not_intro here), if_neg below, isEntry, Visits.internalTeleport,
    if_neg different, if_neg (not_not_intro lets)]
  exact placed.moveCreature isAt entry

omit isEntry outside in
/-- **The loop over a tile** misses nobody. -/
theorem kickLoop_clears {kick : Visits → Nat → Visits} {houses : Nat → House}
    (away : land.house (land.arrives entry) ≠ some number)
    (kicks : ∀ {between : Visits} {creature player}, between.houses = houses → between.Placed →
      land.player creature = some player → kicked player → between.parent creature = some tile →
        between.Moved creature (land.arrives entry) (kick between creature))
    (spares : ∀ {between : Visits} {creature}, between.houses = houses → between.Placed →
      (∀ player, land.player creature = some player → ¬ kicked player) →
        kick between creature = between)
    (isHouse : land.house tile = some number) {index : Nat} (sameHouses : visits.houses = houses)
    (placed : visits.Placed) (inRange : index ≤ (visits.creatures tile).length) :
    ∀ creature ∈ (visits.kickLoop kick tile index).creatures tile,
      creature ∈ (visits.creatures tile).drop index ∨
        ∀ player, land.player creature = some player → ¬ kicked player := by
  induction index generalizing visits with
  | zero => exact fun creature isThere => .inl isThere
  | succ index ih =>
    intro someone isThere
    have found := List.getElem?_eq_getElem inRange
    have split := List.drop_eq_getElem_cons inRange
    have isAt := placed.mem_iff.mp (List.getElem_mem inRange)
    have erased := List.Nodup.erase_getElem (placed.nodup tile) index inRange
    generalize (visits.creatures tile)[index] = creature at *
    rw [kickLoop, found] at isThere
    simp only [] at isThere
    by_cases isKicked : ∃ player, land.player creature = some player ∧ kicked player
    · obtain ⟨player, isPlayer, isKicked⟩ := isKicked
      have moved := kicks sameHouses placed isPlayer isKicked isAt
      have different : tile ≠ land.arrives entry := by
        rintro same
        exact away (same ▸ isHouse)
      -- only the creature at the index has left the list
      have list : (kick visits creature).creatures tile =
          (visits.creatures tile).take index ++ (visits.creatures tile).drop (index + 1) := by
        rw [moved.creatures_of_ne different, erased, List.eraseIdx_eq_take_drop_succ]
      have before : ((visits.creatures tile).take index).length = index :=
        List.length_take_of_le (Nat.le_of_succ_le inRange)
      have stillInRange : index ≤ ((kick visits creature).creatures tile).length := by
        rw [list, List.length_append, before]
        exact Nat.le_add_right _ _
      have behind := ih (moved.houses.trans sameHouses) moved.placed stillInRange someone isThere
      rwa [list, List.drop_left' before] at behind
    · have none (player : Player) (isPlayer : land.player creature = some player) :
          ¬ kicked player := fun wouldBe => isKicked ⟨player, isPlayer, wouldBe⟩
      rw [spares sameHouses placed none] at isThere
      rcases ih sameHouses placed (Nat.le_of_succ_le inRange) someone isThere with behind | spared
      · rw [split] at behind
        rcases List.mem_cons.mp behind with rfl | further
        · exact .inr none
        · exact .inl further
      · exact .inr spared

omit outside in
/-- **The loops over the tiles of the house** leave nobody behind who is to be kicked, when a
teleport on the entry leads none of them back. -/
theorem Placed.kickTiles_clears (placed : visits.Placed) {kick : Visits → Nat → Visits}
    (shut : ∀ creature player tile, land.player creature = some player →
      visits.parent creature = some tile → land.house tile = some number → kicked player →
        land.house (land.arrives entry) ≠ some number)
    (sweeps : Sweeps land number number kicked visits kick)
    (kicks : ∀ {between : Visits} {creature player tile}, between.houses = visits.houses →
      between.Placed → land.player creature = some player → kicked player →
        between.parent creature = some tile → land.house tile = some number →
          between.Moved creature (land.arrives entry) (kick between creature))
    (spares : ∀ {between : Visits} {creature}, between.houses = visits.houses → between.Placed →
      (∀ player, land.player creature = some player → ¬ kicked player) →
        kick between creature = between)
    {creature : Nat} {player : Player} (isPlayer : land.player creature = some player)
    (isAt : (visits.kickTiles land kick number).parent creature = some tile)
    (isHouse : land.house tile = some number) : ¬ kicked player := by
  obtain ⟨-, swept⟩ := placed.kickTiles sweeps
  by_cases away : land.house (land.arrives entry) = some number
  · -- nobody was to be kicked
    intro isKicked
    rcases swept.moves creature with stays |
      ⟨other, wasTile, gate, isOther, isKickedToo, wasAt, wasHouse, isGate, -, -⟩
    · rw [stays] at isAt
      exact shut creature player tile isPlayer isAt isHouse isKicked away
    · exact shut creature other wasTile isOther wasAt wasHouse isKickedToo away
  -- one tile after the other
  have general (tiles : List Nat) (inside : ∀ tile ∈ tiles, land.house tile = some number)
      (between : Visits) (sameHouses : between.houses = visits.houses) (betweenPlaced : between.Placed)
      (tile : Nat) (isTile : tile ∈ tiles)
      (isAt : (tiles.foldl (fun visits tile =>
        visits.kickLoop kick tile (visits.creatures tile).length) between).parent creature =
          some tile) : ¬ kicked player := by
    induction tiles generalizing between with
    | nil => cases isTile
    | cons first tiles ih =>
      rw [List.foldl_cons] at isAt
      have isFirst := inside first List.mem_cons_self
      obtain ⟨sameAfter, sweptFirst⟩ := kickLoop_induction (sweeps.step sameHouses) first
        (between.creatures first).length ⟨sameHouses, .refl betweenPlaced⟩
      rcases List.mem_cons.mp isTile with rfl | later
      · obtain ⟨-, sweptRest⟩ := foldl_kickLoop_induction (sweeps.step sameAfter) tiles
          ⟨sameAfter, .refl sweptFirst.placed⟩
        have stayed := (sweptRest.moves creature).resolve_right ?_
        · rw [stayed, ← sweptFirst.placed.mem_iff] at isAt
          have cleared := kickLoop_clears away
            (fun sameHouses placed isPlayer isKicked isAt =>
              kicks sameHouses placed isPlayer isKicked isAt isFirst) spares isFirst
            sameHouses betweenPlaced (Nat.le_refl _) creature isAt
          rw [List.drop_length] at cleared
          exact cleared.resolve_left List.not_mem_nil player isPlayer
        · rintro ⟨-, -, gate, -, -, -, -, isGate, -, sent⟩
          rw [isEntry, Option.some_inj] at isGate
          rw [sent, Option.some_inj, ← isGate] at isAt
          exact away (isAt ▸ isFirst)
      · exact ih (fun tile isThere => inside tile (List.mem_cons_of_mem first isThere)) _
          sameAfter sweptFirst.placed later isAt
  have isTile := land.mem_houseTiles.mpr isHouse
  exact general _ (fun tile => land.mem_houseTiles.mp) visits rfl placed tile isTile isAt

end Entry

/-! ## Lists and owners -/

/-- No teleport leads from the entry of a house in. -/
def Shut (land : Land) (visits : Visits) (number other creature : Nat) : Prop :=
  ∀ entry ∈ land.entry other,
    (other = number → land.house (land.arrives entry) ≠ some number) ∧
      (other ≠ number → visits.Treads land number creature entry)

/-- Of every player who is on a tile of a house and is to be kicked. -/
def ShutTo (land : Land) (visits : Visits) (number other : Nat) (kicked : Player → Prop) : Prop :=
  ∀ creature player tile, land.player creature = some player →
    visits.parent creature = some tile → land.house tile = some other → kicked player →
      visits.Shut land number other creature

/-- Who is kicked from another house. -/
theorem Swept.noTrespass (swept : Swept land number other kicked visits after)
    (kept : visits.NoTrespass land number) (different : other ≠ number)
    (same : after.houses number = visits.houses number)
    (shut : visits.ShutTo land number other kicked) : after.NoTrespass land number := by
  intro creature tile isAt
  rw [admits_congr same]
  rcases swept.moves creature with stays |
    ⟨player, wasTile, entry, isPlayer, isKicked, wasAt, wasHouse, isEntry, lets, sent⟩
  · rw [stays] at isAt
    exact kept creature tile isAt
  · rw [sent, Option.some_inj] at isAt
    rw [← isAt]
    have treads := (shut creature player wasTile isPlayer wasAt wasHouse isKicked entry
      isEntry).2 different
    by_cases rests : land.arrives entry = entry
    · intro someone isSomeone isInside
      rw [isPlayer, Option.mem_some_iff] at isSomeone
      subst isSomeone
      rw [rests] at isInside
      exact lets isInside
    · exact treads rests

theorem sweeps_kickPlayer :
    Sweeps land number other (fun player => player.canEditHouses = false) visits
      (fun visits => visits.kickPlayer land other none) :=
  fun _ _ _ placed => placed.kickPlayer none fun _ _ noEditor => noEditor

theorem kickUninvited_of_uninvited {player : Player} (isPlayer : land.player creature = some player)
    (uninvited : visits.isInvited land other player = false) :
    kickUninvited land other visits creature = visits.kickPlayer land other none creature := by
  rw [kickUninvited, isPlayer]
  simp only []
  rw [if_neg (Bool.eq_false_iff.mp uninvited)]

theorem kickUninvited_of_invited
    (invited : ∀ player, land.player creature = some player →
      ¬ visits.isInvited land other player = false) :
    kickUninvited land other visits creature = visits := by
  rw [kickUninvited]
  cases isPlayer : land.player creature with
  | none => rfl
  | some player => exact if_pos (Bool.not_eq_false _ ▸ invited player isPlayer)

theorem sweeps_kickUninvited :
    Sweeps land number other (fun player => visits.isInvited land other player = false) visits
      (kickUninvited land other) := by
  intro between creature same placed
  have sameInvited := @isInvited_congr land _ _ other (congrFun same other)
  cases isPlayer : land.player creature with
  | none =>
    rw [kickUninvited_of_invited fun player isIt => by rw [isPlayer] at isIt; cases isIt]
    exact ⟨rfl, .refl placed⟩
  | some player =>
    by_cases uninvited : between.isInvited land other player = false
    · rw [kickUninvited_of_uninvited isPlayer uninvited]
      refine placed.kickPlayer none fun someone isSomeone _ => ?_
      rw [isPlayer, Option.some_inj] at isSomeone
      rwa [← isSomeone, ← sameInvited]
    · rw [kickUninvited_of_invited fun someone isSomeone => ?_]
      · exact ⟨rfl, .refl placed⟩
      · rw [isPlayer, Option.some_inj] at isSomeone
        rwa [← isSomeone]

theorem Placed.setHouse (placed : visits.Placed) (other : Nat) (house : House) :
    (visits.setHouse other house).Placed := ⟨placed.nodup, placed.mem_iff⟩

/-- **`House::setAccessList`** kicks who is not invited then. -/
theorem Placed.setAccessList (placed : visits.Placed) (lookup : Lookup) (other listId : Nat)
    (textlist : Text) :
    let changed :=
      visits.setHouse other ((visits.houses other).setAccessList lookup listId textlist)
    (visits.setAccessList land lookup other listId textlist).houses = changed.houses ∧
      Swept land number other (fun player => changed.isInvited land other player = false) changed
        (visits.setAccessList land lookup other listId textlist) := by
  intro changed
  have placedToo : changed.Placed := placed.setHouse other _
  rw [Visits.setAccessList]
  split_ifs
  · exact placedToo.kickTiles sweeps_kickUninvited
  · exact ⟨rfl, .refl placedToo⟩

/-- What is done about a house: it changes, and who may not edit houses may be kicked from it. -/
structure Settled (land : Land) (number other : Nat) (visits after : Visits) : Prop where
  houses : ∃ house, after.houses = update visits.houses other house
  swept : Swept land number other (fun player => player.canEditHouses = false) visits after

namespace Settled

theorem setHouse (placed : visits.Placed) (other : Nat) (house : House) :
    Settled land number other visits (visits.setHouse other house) :=
  ⟨⟨house, rfl⟩, placed.setHouse other house, fun _ => .inl rfl⟩

theorem kickTiles (placed : visits.Placed) :
    Settled land number other visits
      (visits.kickTiles land (fun visits => visits.kickPlayer land other none) other) := by
  obtain ⟨houses, swept⟩ := placed.kickTiles sweeps_kickPlayer
  refine ⟨⟨visits.houses other, ?_⟩, swept⟩
  rw [houses, update_eq_self]

theorem houses_of_ne (settled : Settled land number other visits after)
    (different : other ≠ number) : after.houses number = visits.houses number := by
  obtain ⟨house, same⟩ := settled.houses
  rw [same, update_of_ne different.symm]

section Entry

variable {entry : Nat} (isEntry : land.entry number = some entry)
  (outside : land.house entry = none)
include isEntry outside

theorem trans {next : Visits} (settled : Settled land number other visits after)
    (again : Settled land number other after next) : Settled land number other visits next := by
  obtain ⟨house, same⟩ := settled.houses
  obtain ⟨further, sameAgain⟩ := again.houses
  refine ⟨⟨further, ?_⟩, settled.swept.trans again.swept fun gate isGate isInside => ?_⟩
  · rw [sameAgain, same, update_idem]
  · by_cases here : other = number
    · rw [here, isEntry, Option.mem_some_iff] at isGate
      rw [← isGate, outside] at isInside
      cases isInside
    · exact settled.houses_of_ne here

theorem setAccessList (placed : visits.Placed) (lookup : Lookup) (listId : Nat)
    (textlist : Text) : Settled land number other visits
      (visits.setAccessList land lookup other listId textlist) := by
  obtain ⟨houses, swept⟩ := placed.setAccessList lookup other listId textlist
  refine trans isEntry outside (setHouse placed other _)
    ⟨⟨(visits.houses other).setAccessList lookup listId textlist, ?_⟩, swept.mono ?_⟩
  · rw [houses, Visits.setHouse, update_idem]
  · intro player uninvited
    by_contra edits
    rw [Bool.not_eq_false] at edits
    rw [isInvited, House.isInvited_of_editor edits] at uninvited
    cases uninvited

theorem cleanAccessLists (placed : visits.Placed) (lookup : Lookup) :
    Settled land number other visits (visits.cleanAccessLists land lookup other) := by
  have first := @setHouse land visits number placed other
    { visits.houses other with owner := 0, ownerAccountId := 0 }
  have second := trans isEntry outside first
    (setAccessList isEntry outside first.swept.placed lookup SUBOWNER_LIST [])
  have third := trans isEntry outside second
    (setAccessList isEntry outside second.swept.placed lookup GUEST_LIST [])
  exact trans isEntry outside third (setHouse third.swept.placed other _)

theorem dropOwner (placed : visits.Placed) (lookup : Lookup) :
    Settled land number other visits (visits.dropOwner land lookup other) := by
  have loaded := @setHouse land visits number placed other
    { visits.houses other with isLoaded := true }
  rw [Visits.dropOwner]
  split_ifs
  · have kicked := trans isEntry outside loaded (kickTiles loaded.swept.placed)
    exact trans isEntry outside kicked
      (cleanAccessLists isEntry outside kicked.swept.placed lookup)
  · exact trans isEntry outside loaded (setHouse loaded.swept.placed other _)

theorem setOwner (placed : visits.Placed) (lookup : Lookup) (guid : Nat) :
    Settled land number other visits (visits.setOwner land lookup other guid) := by
  rw [Visits.setOwner]
  split_ifs
  · exact ⟨⟨visits.houses other, (update_eq_self _ _).symm⟩, .refl placed⟩
  · have dropped := @dropOwner land visits number other entry isEntry outside placed lookup
    exact trans isEntry outside dropped (setHouse dropped.swept.placed other _)

end Entry

end Settled

/-! ## The house itself -/

theorem houses_setHouse_self (other : Nat) (house : House) :
    (visits.setHouse other house).houses other = house := update_self _ _ _

theorem house_setAccessList (placed : visits.Placed) (lookup : Lookup) (other listId : Nat)
    (textlist : Text) : (visits.setAccessList land lookup other listId textlist).houses other =
      (visits.houses other).setAccessList lookup listId textlist := by
  obtain ⟨houses, -⟩ := @Placed.setAccessList land visits 0 placed lookup other listId textlist
  rw [houses, houses_setHouse_self]

theorem house_cleanAccessLists (placed : visits.Placed) (lookup : Lookup) (other : Nat) :
    (visits.cleanAccessLists land lookup other).houses other =
      (visits.houses other).cleanAccessLists lookup := by
  have first := placed.setHouse other { visits.houses other with owner := 0, ownerAccountId := 0 }
  have second := (@Placed.setAccessList land _ 0 first lookup other SUBOWNER_LIST []).2.placed
  rw [Visits.cleanAccessLists, houses_setHouse_self, house_setAccessList second,
    house_setAccessList first, houses_setHouse_self]
  rfl

/-- **The house is the one** that `House::setOwner` makes, whoever is kicked. -/
theorem house_setOwner (placed : visits.Placed) (lookup : Lookup) (other guid : Nat) :
    (visits.setOwner land lookup other guid).houses other =
      (visits.houses other).setOwner lookup guid := by
  have loaded := placed.setHouse other { visits.houses other with isLoaded := true }
  have dropped : (visits.dropOwner land lookup other).houses other =
      if (visits.houses other).owner ≠ 0 then
        ({ visits.houses other with isLoaded := true } : House).cleanAccessLists lookup
      else { visits.houses other with
        isLoaded := true, paidUntil := House.paidUntilFrom lookup } := by
    rw [Visits.dropOwner]
    simp only [houses_setHouse_self]
    split_ifs
    · obtain ⟨houses, swept⟩ := loaded.kickTiles (@sweeps_kickPlayer land _ 0 other)
      rw [house_cleanAccessLists swept.placed, houses, houses_setHouse_self]
    · exact houses_setHouse_self _ _
  rw [Visits.setOwner, House.setOwner]
  by_cases same : (visits.houses other).isLoaded ∧ (visits.houses other).owner = guid
  · rw [if_pos same, if_pos same]
  · rw [if_neg same, if_neg same, Visits.giveOwner, houses_setHouse_self, dropped]

/-! ## The tiles of the house -/

section Entry

variable {entry : Nat} (isEntry : land.entry number = some entry)
  (outside : land.house entry = none) (placed : visits.Placed)
include isEntry outside placed

theorem noTrespass_setAccessList (kept : visits.NoTrespass land number) (lookup : Lookup)
    {listId : Nat} {textlist : Text}
    (shut : listId = GUEST_LIST ∨ listId = SUBOWNER_LIST → visits.ShutTo land number other
      fun player => ((visits.houses other).setAccessList lookup listId textlist).isInvited
        land.ownedByAccount player = false) :
    (visits.setAccessList land lookup other listId textlist).NoTrespass land number := by
  have changedPlaced := placed.setHouse other
    ((visits.houses other).setAccessList lookup listId textlist)
  have sameInvited (player : Player) :
      (visits.setHouse other ((visits.houses other).setAccessList lookup listId
        textlist)).isInvited land other player =
        ((visits.houses other).setAccessList lookup listId textlist).isInvited
          land.ownedByAccount player := by
    rw [isInvited, houses_setHouse_self]
  by_cases isList : listId = GUEST_LIST ∨ listId = SUBOWNER_LIST
  swap
  · rw [Visits.setAccessList, if_neg isList]
    intro creature tile isAt player isPlayer isHouse
    have invited := kept creature tile isAt player isPlayer isHouse
    by_cases here : other = number
    · subst here
      rw [sameInvited, House.isInvited_setAccessList isList]
      exact invited
    · rw [isInvited_congr (update_of_ne (Ne.symm here) _ _)]
      exact invited
  by_cases here : other = number
  · subst here
    intro creature tile isAt player isPlayer isHouse
    obtain ⟨houses, -⟩ :=
      @Placed.setAccessList land visits other placed lookup other listId textlist
    rw [isInvited_congr (congrFun houses other), sameInvited]
    rw [Visits.setAccessList, if_pos isList] at isAt
    have cleared := Placed.kickTiles_clears isEntry changedPlaced ?_ sweeps_kickUninvited ?_ ?_
      isPlayer isAt isHouse
    · rw [sameInvited, Bool.not_eq_false] at cleared
      exact cleared
    · intro someone other tile isOther isThere isInside uninvited
      rw [sameInvited] at uninvited
      exact (shut isList someone other tile isOther isThere isInside uninvited entry isEntry).1 rfl
    · intro between someone other place same betweenPlaced isOther uninvited isThere isInside
      rw [← isInvited_congr (congrFun same _)] at uninvited
      rw [kickUninvited_of_uninvited isOther uninvited]
      have noEditor : other.canEditHouses = false := by
        by_contra edits
        rw [Bool.not_eq_false] at edits
        rw [isInvited, House.isInvited_of_editor edits] at uninvited
        cases uninvited
      exact betweenPlaced.kickPlayer_moved isEntry outside isOther isThere isInside noEditor
    · intro between someone same betweenPlaced invited
      refine kickUninvited_of_invited fun other isOther => ?_
      rw [isInvited_congr (congrFun same _)]
      exact invited other isOther
  · obtain ⟨houses, swept⟩ :=
      @Placed.setAccessList land visits number placed lookup other listId textlist
    have keptChanged : (visits.setHouse other ((visits.houses other).setAccessList lookup listId
        textlist)).NoTrespass land number := by
      intro creature tile isAt
      rw [admits_congr (update_of_ne (Ne.symm here) _ _)]
      exact kept creature tile isAt
    refine swept.noTrespass keptChanged here (congrFun houses number) ?_
    intro creature player tile isPlayer isAt isHouse uninvited gate isGate
    rw [sameInvited] at uninvited
    obtain ⟨first, second⟩ := shut isList creature player tile isPlayer isAt isHouse uninvited
      gate isGate
    refine ⟨first, fun different stays => ?_⟩
    rw [admits_congr (update_of_ne (Ne.symm here) _ _)]
    exact second different stays

/-- **A house with an owner gets another**, and only those stay who may edit houses. -/
theorem editors_setOwner (lookup : Lookup) {guid : Nat} (owned : (visits.houses number).owner ≠ 0)
    (changes : ¬ ((visits.houses number).isLoaded ∧ (visits.houses number).owner = guid))
    (shut : visits.ShutTo land number number fun player => player.canEditHouses = false)
    {player : Player} (isPlayer : land.player creature = some player)
    (isAt : (visits.setOwner land lookup number guid).parent creature = some tile)
    (isHouse : land.house tile = some number) : player.canEditHouses = true := by
  have loaded := placed.setHouse number { visits.houses number with isLoaded := true }
  have kicked := @Settled.kickTiles land _ number number loaded
  have cleaned := @Settled.cleanAccessLists land _ number number entry isEntry outside
    kicked.swept.placed lookup
  rw [Visits.setOwner, if_neg changes] at isAt
  have parents : ((visits.dropOwner land lookup number).giveOwner lookup number guid).parent =
      (((visits.setHouse number { visits.houses number with isLoaded := true }).kickTiles land
        (fun visits => visits.kickPlayer land number none) number).cleanAccessLists land lookup
          number).parent := by
    rw [giveOwner, Visits.dropOwner, houses_setHouse_self, if_pos owned]
    rfl
  rw [parents] at isAt
  -- who is there after the lists are cleaned was not kicked before
  have cleared {someone place : Nat} {other : Player} (isOther : land.player someone = some other)
      (isThere : ((visits.setHouse number { visits.houses number with isLoaded := true }).kickTiles
        land (fun visits => visits.kickPlayer land number none) number).parent someone = some place)
      (isInside : land.house place = some number) : ¬ other.canEditHouses = false := by
    refine Placed.kickTiles_clears isEntry loaded ?_ sweeps_kickPlayer ?_ ?_ isOther isThere isInside
    · intro someone other tile isOther isThere isInside noEditor
      exact (shut someone other tile isOther isThere isInside noEditor entry isEntry).1 rfl
    · intro between someone other place _ betweenPlaced isOther noEditor isThere isInside
      exact betweenPlaced.kickPlayer_moved isEntry outside isOther isThere isInside noEditor
    · intro between someone _ betweenPlaced editor
      rw [Visits.kickPlayer]
      cases isSomeone : land.player someone with
      | none => rfl
      | some other =>
        have edits := Bool.not_eq_false _ ▸ editor other isSomeone
        simp only [edits, or_true, if_true, ite_self]
  rcases cleaned.swept.moves creature with stays |
    ⟨other, wasTile, gate, isOther, noEditor, wasAt, wasHouse, -, -, -⟩
  · rw [stays] at isAt
    exact Bool.not_eq_false _ ▸ cleared isPlayer isAt isHouse
  · exact absurd noEditor (cleared isOther wasAt wasHouse)

end Entry

/-- Nobody is kicked from a house that has no owner to lose. -/
theorem parent_setOwner {lookup : Lookup} {guid : Nat}
    (quiet : (visits.houses other).owner = 0 ∨
      (visits.houses other).isLoaded ∧ (visits.houses other).owner = guid) :
    (visits.setOwner land lookup other guid).parent = visits.parent := by
  rw [setOwner]
  split_ifs with same
  · rfl
  · have unowned : ¬ (visits.houses other).owner ≠ 0 :=
      not_not_intro (quiet.resolve_right same)
    rw [giveOwner, dropOwner, houses_setHouse_self, if_neg unowned]
    rfl

section Entry

variable {entry : Nat} (isEntry : land.entry number = some entry)
  (outside : land.house entry = none) (placed : visits.Placed)
include isEntry outside placed

/-- **`House::setOwner`.** -/
theorem noTrespass_setOwner (kept : visits.NoTrespass land number)
    (accounted : (visits.houses number).Accounted) (lookup : Lookup) {guid : Nat}
    (shut : (visits.houses other).owner ≠ 0 →
      ¬ ((visits.houses other).isLoaded ∧ (visits.houses other).owner = guid) →
        visits.ShutTo land number other fun player => player.canEditHouses = false) :
    (visits.setOwner land lookup other guid).NoTrespass land number := by
  have settled := @Settled.setOwner land visits number other entry isEntry outside placed lookup
    guid
  by_cases quiet : (visits.houses other).owner = 0 ∨
    (visits.houses other).isLoaded ∧ (visits.houses other).owner = guid
  · intro creature tile isAt player isPlayer isHouse
    rw [parent_setOwner quiet] at isAt
    have invited := kept creature tile isAt player isPlayer isHouse
    by_cases here : other = number
    · subst here
      rw [isInvited, house_setOwner placed]
      rcases quiet with unowned | same
      · exact House.isInvited_setOwner accounted unowned guid invited
      · rw [House.setOwner, if_pos same]
        exact invited
    · rwa [isInvited_congr (settled.houses_of_ne here)]
  · rw [not_or] at quiet
    by_cases here : other = number
    · subst here
      intro creature tile isAt player isPlayer isHouse
      exact House.isInvited_of_editor (editors_setOwner isEntry outside placed lookup quiet.1
        quiet.2 (shut quiet.1 quiet.2) isPlayer isAt isHouse)
    · exact settled.swept.noTrespass kept here (settled.houses_of_ne here) (shut quiet.1 quiet.2)

end Entry

/-- **`House::kickPlayer`.** -/
theorem noTrespass_kickPlayer (placed : visits.Placed) (kept : visits.NoTrespass land number)
    {kicker : Option Player} {target : Nat}
    (treads : ∀ tile ∈ visits.parent target, land.house tile = some other →
      ∀ entry ∈ land.entry other, visits.Treads land number target entry) :
    (visits.kickPlayer land other kicker target).Placed ∧
      (visits.kickPlayer land other kicker target).NoTrespass land number ∧
        (visits.kickPlayer land other kicker target).houses = visits.houses := by
  rw [kickPlayer]
  cases land.player target with
  | none => exact ⟨placed, kept, rfl⟩
  | some player =>
    simp only []
    split_ifs with elsewhere spared
    · exact ⟨placed, kept, rfl⟩
    · exact ⟨placed, kept, rfl⟩
    · obtain ⟨tile, isAt, isHouse⟩ := Option.bind_eq_some_iff.mp (not_not.mp elsewhere)
      exact placed.noTrespass_internalTeleport kept (treads tile isAt isHouse)

end Kicks

/-! ## Runs -/

/-- What holds after an operation. -/
structure Cleared (land : Land) (number : Nat) (before : Visits) (op : VisitOp) (after : Visits) :
    Prop where
  invited : after.NoTrespass land number
  /-- A change from one owner to another leaves only those inside who may edit houses. -/
  editors : ∀ lookup guid, op = .setOwner lookup number guid →
    (before.houses number).owner ≠ 0 → (before.houses number).owner ≠ guid →
      ∀ creature player tile, land.player creature = some player →
        after.parent creature = some tile → land.house tile = some number →
          player.canEditHouses = true

/-- What leads nobody in past `queryAdd`. -/
def Guarded (land : Land) (number : Nat) (visits : Visits) : VisitOp → Prop
  | .internalMoveCreature creature toTile _ =>
    visits.Treads land number creature toTile ∧
      (land.arrives toTile = toTile →
        visits.Settles land number creature MAP_MAX_LAYERS toTile)
  | .placeCreature creature centre around forceLogin =>
    ∀ tile ∈ visits.foundTile land creature centre around forceLogin,
      visits.Places land number creature tile
  | .internalTeleport creature newTile =>
    ∀ toTile ∈ newTile, visits.Treads land number creature toTile
  | .setAccessList lookup other listId textlist =>
    listId = GUEST_LIST ∨ listId = SUBOWNER_LIST → visits.ShutTo land number other
      fun player => ((visits.houses other).setAccessList lookup listId textlist).isInvited
        land.ownedByAccount player = false
  | .setOwner _ other guid =>
    (visits.houses other).owner ≠ 0 →
      ¬ ((visits.houses other).isLoaded ∧ (visits.houses other).owner = guid) →
        visits.ShutTo land number other fun player => player.canEditHouses = false
  | .kickPlayer other _ target =>
    ∀ tile ∈ visits.parent target, land.house tile = some other →
      ∀ entry ∈ land.entry other, visits.Treads land number target entry

structure Invariant (land : Land) (number : Nat) (visits : Visits) : Prop where
  placed : visits.Placed
  kept : visits.NoTrespass land number
  accounted : (visits.houses number).Accounted

namespace Invariant

theorem of_sameHouses (invariant : visits.Invariant land number)
    (step : after.Placed ∧ after.NoTrespass land number ∧ after.houses = visits.houses) :
    after.Invariant land number :=
  ⟨step.1, step.2.1, step.2.2 ▸ invariant.accounted⟩

variable {entry : Nat} (isEntry : land.entry number = some entry)
  (outside : land.house entry = none)
include isEntry outside

theorem setAccessList (invariant : visits.Invariant land number) {lookup : Lookup}
    {other listId : Nat} {textlist : Text}
    (guarded : visits.Guarded land number (.setAccessList lookup other listId textlist)) :
    (visits.setAccessList land lookup other listId textlist).Invariant land number := by
  have settled := @Settled.setAccessList land visits number other entry isEntry outside
    invariant.placed lookup listId textlist
  refine ⟨settled.swept.placed, noTrespass_setAccessList isEntry outside invariant.placed
    invariant.kept lookup guarded, ?_⟩
  by_cases here : other = number
  · subst here
    rw [house_setAccessList invariant.placed]
    exact invariant.accounted.setAccessList listId textlist
  · rw [settled.houses_of_ne here]
    exact invariant.accounted

theorem setOwner (invariant : visits.Invariant land number) {lookup : Lookup} {other guid : Nat}
    (guarded : visits.Guarded land number (.setOwner lookup other guid)) :
    (visits.setOwner land lookup other guid).Invariant land number := by
  have settled := @Settled.setOwner land visits number other entry isEntry outside
    invariant.placed lookup guid
  refine ⟨settled.swept.placed, noTrespass_setOwner isEntry outside invariant.placed
    invariant.kept invariant.accounted lookup guarded, ?_⟩
  by_cases here : other = number
  · subst here
    rw [house_setOwner invariant.placed]
    exact invariant.accounted.setOwner guid
  · rw [settled.houses_of_ne here]
    exact invariant.accounted

/-- **One operation.** -/
theorem step (invariant : visits.Invariant land number) {op : VisitOp}
    (guarded : visits.Guarded land number op) :
    ((visiting land).step visits op).Invariant land number := by
  have placed := invariant.placed
  cases op with
  | internalMoveCreature creature toTile otherwise =>
    exact invariant.of_sameHouses
      (Placed.internalMoveCreature isEntry outside placed invariant.kept guarded.1 guarded.2)
  | placeCreature creature centre around forceLogin =>
    exact invariant.of_sameHouses
      (Placed.placeCreature isEntry outside placed invariant.kept guarded)
  | internalTeleport creature newTile =>
    exact invariant.of_sameHouses (placed.noTrespass_internalTeleport invariant.kept guarded)
  | setAccessList lookup other listId textlist =>
    exact invariant.setAccessList isEntry outside guarded
  | setOwner lookup other guid => exact invariant.setOwner isEntry outside guarded
  | kickPlayer other kicker target =>
    exact invariant.of_sameHouses (noTrespass_kickPlayer placed invariant.kept guarded)

end Invariant

/-- **No uninvited player stays in a house** whose entry is outside of any, throughout every run
that leads nobody in past `queryAdd`. -/
theorem no_trespass_kept {entry : Nat} (isEntry : land.entry number = some entry)
    (outside : land.house entry = none) {start : Visits}
    (initial : start.Invariant land number) {ops : List VisitOp}
    (guarded : (visiting land).Throughout (fun before op _ => before.Guarded land number op)
      start ops) :
    (visiting land).Throughout (Cleared land number) start ops := by
  refine .of_invariant (fun before op invariant _ guards => ?_) initial
    (.mono (fun _ _ _ => trivial) guarded) guarded
  have after := invariant.step isEntry outside guards
  refine ⟨⟨after.kept, ?_⟩, after⟩
  rintro lookup guid rfl owned changes creature player tile isPlayer isAt isHouse
  have different : ¬ ((before.houses number).isLoaded ∧ (before.houses number).owner = guid) :=
    fun same => changes same.2
  exact editors_setOwner isEntry outside invariant.placed lookup owned different
    (guards owned different) isPlayer isAt isHouse

/-! ## A street with a house -/

/-- The house `7` is the tile `1`, its entry is the tile `0`, and a teleport on the tile `2` leads
into it. -/
def street : Land where
  house tile := if tile = 1 then some 7 else none
  houseTiles number := if number = 7 then [1] else []
  mem_houseTiles := by
    intro number tile
    by_cases here : number = 7
    · rw [if_pos here, List.mem_singleton, here]
      constructor
      · exact fun isTile => if_pos isTile
      · intro isHouse
        by_contra elsewhere
        rw [if_neg elsewhere] at isHouse
        cases isHouse
    · rw [if_neg here]
      refine iff_of_false List.not_mem_nil ?_
      split_ifs
      · exact fun same => here (Option.some_inj.mp same).symm
      · exact fun same => nomatch same
  entry _ := some 0
  teleport tile := if tile = 2 then some 1 else none
  depth := 1
  player creature :=
    if positive : 0 < creature then
      some { guid := creature, accountNumber := creature
             guid_pos := positive, accountNumber_pos := positive }
    else none
  nullptrTile := 99

/-- The owner walks in, a guest follows and is put out, and the house is sold. -/
def houseVisits : List VisitOp :=
  [.setOwner town 7 1, .placeCreature 1 (some (0, .noError)) [] false,
    .internalMoveCreature 1 1 .noError, .setAccessList town 7 GUEST_LIST ['b'],
    .placeCreature 2 (some (0, .noError)) [] false, .internalMoveCreature 2 1 .noError,
    .setAccessList town 7 GUEST_LIST [], .kickPlayer 7 none 1, .internalTeleport 1 (some 1),
    .setOwner town 7 3]

theorem invariant_empty : Visits.Invariant street 7 { houses := fun _ => {} } where
  placed := ⟨fun _ => List.nodup_nil, iff_of_false List.not_mem_nil nofun⟩
  kept _ _ isAt := nomatch isAt
  accounted _ := rfl

theorem shutTo_street (visits : Visits) (kicked : Player → Prop) :
    visits.ShutTo street 7 7 kicked := by
  intro creature player tile _ _ _ _ entry isEntry
  cases isEntry
  exact ⟨fun _ => nofun, fun different => absurd rfl different⟩

theorem no_trespass_kept_visits :
    (visiting street).Throughout (Cleared street 7) { houses := fun _ => {} } houseVisits := by
  refine no_trespass_kept rfl rfl invariant_empty ?_
  refine ⟨fun owned => absurd rfl owned, ?_, ?_, fun _ => shutTo_street _ _, ?_, ?_,
    fun _ => shutTo_street _ _, ?_, ?_, fun _ _ => shutTo_street _ _, trivial⟩
  · rintro tile ⟨⟩
    exact ⟨fun moved => absurd rfl moved, nofun⟩
  · exact ⟨fun moved => absurd rfl moved, fun _ => .inl rfl⟩
  · rintro tile ⟨⟩
    exact ⟨fun moved => absurd rfl moved, nofun⟩
  · exact ⟨fun moved => absurd rfl moved, fun _ => .inl rfl⟩
  · rintro tile - - entry ⟨⟩ moved
    exact absurd rfl moved
  · rintro tile ⟨⟩ moved
    exact absurd rfl moved

/-- A player steps on the teleport, and is in the house uninvited. -/
theorem stranger_teleported :
    ¬ (visiting street).Throughout (Cleared street 7) { houses := fun _ => {} }
        [.setOwner town 7 1, .placeCreature 2 (some (0, .noError)) [] false,
          .internalMoveCreature 2 2 .noError] := by
  rintro ⟨-, -, cleared, -⟩
  have invited := cleared.invited 2 1 (by decide) _ rfl rfl
  revert invited
  decide

end Visits

end Otserv.Houses
