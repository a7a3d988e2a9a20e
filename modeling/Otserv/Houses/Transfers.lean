import Otserv.Houses.House

/-!
# Trades of a house

A document should transfer only what the player for whom it was issued owns, there should be one
document at most, and a house that changes its owner should have empty lists (`Sound`).

`luaHouseStartTrade` compares the owner with the player when the document is issued;
`executeTransfer` compares the documents only, so that a house which was given to somebody else
in between is transferred all the same. And `setOwner` cleans the lists of an owned house only,
while the lists of a house without an owner can be set too (`transfers_sound_iff`).
-/

namespace Otserv.Houses

open Foundation

namespace House

variable (lookup : Lookup) (house : House)

/-- Nobody is on a list. -/
structure Uninviting : Prop where
  guests : house.guestList = {}
  subOwners : house.subOwnerList = {}
  doors : ∀ door ∈ house.doorSet, door.accessList = {}

/-- The owner stays: it is the same one, or nobody takes the place of nobody. -/
def Stays (guid : Nat) : Prop :=
  house.owner = guid ∨ house.owner = 0 ∧ lookup.getNameByGuid guid = []

end House

/-- One step: the states before it and after it. -/
structure Sound (before : Trades) (op : TradeOp) (after : Trades) : Prop where
  single : after.documents.length ≤ 1
  /-- The owner is changed by `setOwner`, or with a document that its owner was given. -/
  issued : after.house.owner ≠ before.house.owner →
    (∃ lookup guid, op = .setOwner lookup guid) ∨
      ∃ lookup item newOwner, op = .transfer lookup item newOwner ∧ item ∈ before.documents ∧
        before.issuers[item]? = some before.house.owner
  /-- A document whose trade was completed or cancelled changes nothing. -/
  spent : ∀ lookup item newOwner, op = .transfer lookup item newOwner →
    item ∉ before.documents → after.house = before.house
  cleaned : after.house.owner ≠ before.house.owner → after.house.Uninviting

/-- When the owner changes, the document is the owner's, and the lists of a house without an
owner are empty. -/
def Entitled (trades : Trades) : TradeOp → Prop
  | .transfer lookup item newOwner =>
    trades.house.transferItem = some item → ¬trades.house.Stays lookup newOwner →
      trades.issuers[item]? = some trades.house.owner ∧
        (trades.house.owner = 0 → trades.house.Uninviting)
  | .setOwner lookup guid =>
    ¬trades.house.Stays lookup guid → trades.house.owner = 0 → trades.house.Uninviting
  | .startTrade _ | .cancel _ | .setAccessList .. => True

/-! ## The owner -/

namespace House

variable (lookup : Lookup) (house : House)

theorem setAccessList_frame (listId : Nat) (textlist : Text) :
    (house.setAccessList lookup listId textlist).owner = house.owner ∧
      (house.setAccessList lookup listId textlist).isLoaded = house.isLoaded ∧
      (house.setAccessList lookup listId textlist).transferItem = house.transferItem := by
  unfold setAccessList
  by_cases guests : listId = GUEST_LIST
  · rw [if_pos guests]
    exact ⟨rfl, rfl, rfl⟩
  rw [if_neg guests]
  by_cases subOwners : listId = SUBOWNER_LIST
  · rw [if_pos subOwners]
    exact ⟨rfl, rfl, rfl⟩
  rw [if_neg subOwners]
  cases house.doorSet.findIdx? (·.doorId == listId) with
  | none => exact ⟨rfl, rfl, rfl⟩
  | some index => exact ⟨rfl, rfl, rfl⟩

theorem uninviting_cleanAccessLists : (house.cleanAccessLists lookup).Uninviting := by
  refine ⟨rfl, rfl, fun door among => ?_⟩
  obtain ⟨old, -, rfl⟩ := List.mem_map.mp among
  rfl

variable {lookup house} {guid : Nat}

/-- **A new owner**, or none where the player is not known. -/
theorem owner_setOwner : (house.setOwner lookup guid).owner =
    if house.isLoaded ∧ house.owner = guid then house.owner
    else if guid ≠ 0 ∧ lookup.getNameByGuid guid ≠ [] then guid
    else 0 := by
  unfold setOwner
  by_cases same : house.isLoaded ∧ house.owner = guid
  · rw [if_pos same, if_pos same]
  rw [if_neg same, if_neg same]
  by_cases named : guid ≠ 0 ∧ lookup.getNameByGuid guid ≠ []
  · simp only [if_pos named]
  · simp only [if_neg named]
    by_cases owned : house.owner ≠ 0
    · simp only [if_pos owned]
      rfl
    · simp only [if_neg owned]
      exact not_not.mp owned

theorem setOwner_owner_iff (loaded : house.owner ≠ 0 → house.isLoaded = true) :
    (house.setOwner lookup guid).owner = house.owner ↔ house.Stays lookup guid := by
  rw [owner_setOwner, Stays]
  by_cases same : house.owner = guid
  · by_cases isLoaded : house.isLoaded = true
    · rw [if_pos ⟨isLoaded, same⟩]
      exact iff_of_true rfl (.inl same)
    · have nobody : house.owner = 0 := by
        by_contra owned
        exact isLoaded (loaded owned)
      rw [if_neg fun both => isLoaded both.1, if_neg fun both => both.1 (same ▸ nobody)]
      exact iff_of_true nobody.symm (.inl same)
  rw [if_neg fun both => same both.2]
  by_cases named : guid ≠ 0 ∧ lookup.getNameByGuid guid ≠ []
  · rw [if_pos named]
    refine iff_of_false (fun given => same given.symm) fun stays => ?_
    exact stays.elim same fun nobody => named.2 nobody.2
  rw [if_neg named]
  constructor
  · intro nobody
    refine .inr ⟨nobody.symm, ?_⟩
    by_contra known
    exact named ⟨fun zero => same (nobody.symm.trans zero.symm), known⟩
  · rintro (given | nobody)
    · exact absurd given same
    · exact nobody.1.symm

theorem uninviting_setOwner (before : house.owner = 0 → house.Uninviting)
    (changes : (house.setOwner lookup guid).owner ≠ house.owner) :
    (house.setOwner lookup guid).Uninviting := by
  have fresh : ¬(house.isLoaded ∧ house.owner = guid) := by
    intro same
    rw [owner_setOwner, if_pos same] at changes
    exact changes rfl
  have cleared : ∀ cleaned : House, cleaned.Uninviting → ∀ owner name account warnings,
      ({ cleaned with
        owner := owner
        ownerName := name
        ownerAccountId := account
        rentWarnings := warnings } : House).Uninviting :=
    fun cleaned empty _ _ _ _ => ⟨empty.guests, empty.subOwners, empty.doors⟩
  unfold setOwner
  rw [if_neg fresh]
  by_cases owned : house.owner ≠ 0
  · simp only [if_pos owned]
    have empty := uninviting_cleanAccessLists lookup { house with isLoaded := true }
    split
    · exact cleared _ empty _ _ _ _
    · exact cleared _ empty _ _ _ _
  · simp only [if_neg owned]
    obtain ⟨guests, subOwners, doors⟩ := before (not_not.mp owned)
    split <;> exact ⟨guests, subOwners, doors⟩

theorem uninviting_of_setOwner (nobody : house.owner = 0)
    (empty : (house.setOwner lookup guid).Uninviting) : house.Uninviting := by
  unfold setOwner at empty
  by_cases same : house.isLoaded ∧ house.owner = guid
  · rw [if_pos same] at empty
    exact empty
  rw [if_neg same] at empty
  simp only [if_neg (not_not.mpr nobody)] at empty
  split at empty <;> exact ⟨empty.guests, empty.subOwners, empty.doors⟩

theorem transferItem_setOwner : (house.setOwner lookup guid).transferItem = house.transferItem := by
  unfold setOwner
  by_cases same : house.isLoaded ∧ house.owner = guid
  · rw [if_pos same]
  rw [if_neg same]
  by_cases owned : house.owner ≠ 0
  · simp only [if_pos owned]
    split <;> rfl
  · simp only [if_neg owned]
    split <;> rfl

theorem isLoaded_setOwner : (house.setOwner lookup guid).isLoaded = true := by
  unfold setOwner
  by_cases same : house.isLoaded ∧ house.owner = guid
  · rw [if_pos same]
    exact same.1
  rw [if_neg same]
  by_cases owned : house.owner ≠ 0
  · simp only [if_pos owned]
    split <;> rfl
  · simp only [if_neg owned]
    split <;> rfl

end House

/-! ## The invariant -/

structure Trades.Invariant (trades : Trades) : Prop where
  documents : trades.documents = trades.house.transferItem.toList
  loaded : trades.house.owner ≠ 0 → trades.house.isLoaded = true
  numbered : ∀ item, trades.house.transferItem = some item → item < trades.issuers.length

namespace Trades.Invariant

variable {trades : Trades}

section

variable (invariant : trades.Invariant)
include invariant

theorem documents_length : trades.documents.length ≤ 1 := by
  rw [invariant.documents]
  cases trades.house.transferItem with
  | none => exact Nat.zero_le 1
  | some item => exact Nat.le_refl 1

theorem mem_documents {item : Nat} :
    item ∈ trades.documents ↔ trades.house.transferItem = some item := by
  rw [invariant.documents]
  exact Option.mem_toList.trans Option.mem_def

theorem startTrade (player : Nat) : (trades.startTrade player).Invariant := by
  unfold Trades.startTrade House.getTransferItem
  cases known : trades.house.transferItem with
  | some item => exact invariant
  | none =>
    refine ⟨?_, invariant.loaded, ?_⟩
    · rw [invariant.documents, known]
      rfl
    · rintro item ⟨⟩
      rw [List.length_append]
      exact Nat.lt_succ_self _

variable (lookup : Lookup)

theorem transfer (item newOwner : Nat) : (trades.transfer lookup item newOwner).Invariant := by
  unfold Trades.transfer House.executeTransfer
  by_cases known : trades.house.transferItem = some item
  · rw [if_neg (not_not.mpr known)]
    refine ⟨?_, fun _ => House.isLoaded_setOwner, nofun⟩
    show trades.documents.erase item = []
    rw [invariant.documents, known, Option.toList_some, List.erase_cons_head]
  · rw [if_pos known]
    refine ⟨?_, invariant.loaded, invariant.numbered⟩
    rw [List.erase_of_not_mem (invariant.mem_documents.not.mpr known), invariant.documents]

theorem cancel : trades.cancel.Invariant := by
  refine ⟨?_, invariant.loaded, nofun⟩
  refine List.filter_eq_nil_iff.mpr fun item among => ?_
  rw [invariant.mem_documents.mp among]
  exact fun other => of_decide_eq_true other rfl

theorem setOwner (guid : Nat) :
    ({ trades with house := trades.house.setOwner lookup guid } : Trades).Invariant := by
  refine ⟨?_, fun _ => House.isLoaded_setOwner, ?_⟩
  · rw [House.transferItem_setOwner, invariant.documents]
  · rw [House.transferItem_setOwner]
    exact invariant.numbered

theorem setAccessList (listId : Nat) (textlist : Text) :
    ({ trades with house := trades.house.setAccessList lookup listId textlist } :
      Trades).Invariant := by
  obtain ⟨owner, isLoaded, transferItem⟩ :=
    trades.house.setAccessList_frame lookup listId textlist
  refine ⟨?_, ?_, ?_⟩
  · rw [transferItem, invariant.documents]
  · rw [owner, isLoaded]
    exact invariant.loaded
  · rw [transferItem]
    exact invariant.numbered

/-- Each operation keeps the invariant. -/
theorem step (op : TradeOp) : (houseTrades.step trades op).Invariant := by
  cases op with
  | startTrade player => exact invariant.startTrade player
  | transfer lookup item newOwner => exact invariant.transfer lookup item newOwner
  | cancel item => exact invariant.cancel
  | setOwner lookup guid => exact invariant.setOwner lookup guid
  | setAccessList lookup listId textlist => exact invariant.setAccessList lookup listId textlist

end

/-! ## What is sound -/

theorem sound_of_same (after : Trades) {op : TradeOp} (onwards : after.Invariant)
    (same : after.house.owner = trades.house.owner)
    (other : ∀ lookup item newOwner, op ≠ .transfer lookup item newOwner) :
    Sound trades op after where
  single := onwards.documents_length
  issued := fun changes => absurd same changes
  spent := fun lookup item newOwner isTransfer => absurd isTransfer (other lookup item newOwner)
  cleaned := fun changes => absurd same changes

theorem sound_setOwner_iff (invariant : trades.Invariant) (lookup : Lookup) (guid : Nat) :
    Sound trades (.setOwner lookup guid)
        { trades with house := trades.house.setOwner lookup guid } ↔
      Entitled trades (.setOwner lookup guid) := by
  have onwards := invariant.setOwner lookup guid
  have ownerIff := @House.setOwner_owner_iff lookup trades.house guid invariant.loaded
  constructor
  · intro sound leaves nobody
    have empty := sound.cleaned fun same => leaves (ownerIff.mp same)
    exact House.uninviting_of_setOwner nobody empty
  · intro entitled
    refine ⟨onwards.documents_length, fun _ => .inl ⟨lookup, guid, rfl⟩, nofun, fun changes => ?_⟩
    exact House.uninviting_setOwner (entitled fun stays => changes (ownerIff.mpr stays)) changes

theorem sound_transfer_iff (invariant : trades.Invariant) (lookup : Lookup) (item newOwner : Nat) :
    Sound trades (.transfer lookup item newOwner) (trades.transfer lookup item newOwner) ↔
      Entitled trades (.transfer lookup item newOwner) := by
  have onwards := invariant.transfer lookup item newOwner
  have ownerIff := @House.setOwner_owner_iff lookup trades.house newOwner invariant.loaded
  by_cases known : trades.house.transferItem = some item
  · have result : (trades.transfer lookup item newOwner).house =
        { trades.house.setOwner lookup newOwner with transferItem := none } := by
      unfold Trades.transfer House.executeTransfer
      rw [if_neg (not_not.mpr known)]
    have owner : (trades.transfer lookup item newOwner).house.owner =
        (trades.house.setOwner lookup newOwner).owner := by
      rw [result]
    have among := invariant.mem_documents.mpr known
    constructor
    · intro sound _ leaves
      have changes : (trades.transfer lookup item newOwner).house.owner ≠ trades.house.owner := by
        rw [owner]
        exact fun same => leaves (ownerIff.mp same)
      refine ⟨?_, fun nobody => ?_⟩
      · obtain ⟨_, _, ⟨⟩⟩ | ⟨_, _, _, ⟨⟩, -, issuer⟩ := sound.issued changes
        exact issuer
      · have empty := sound.cleaned changes
        rw [result] at empty
        exact House.uninviting_of_setOwner nobody ⟨empty.guests, empty.subOwners, empty.doors⟩
    · intro entitled
      refine ⟨onwards.documents_length, fun changes => ?_, ?_, fun changes => ?_⟩
      · rw [owner] at changes
        obtain ⟨issuer, -⟩ := entitled known fun stays => changes (ownerIff.mpr stays)
        exact .inr ⟨lookup, item, newOwner, rfl, among, issuer⟩
      · rintro _ _ _ ⟨⟩ gone
        exact absurd among gone
      · rw [owner] at changes
        obtain ⟨-, before⟩ := entitled known fun stays => changes (ownerIff.mpr stays)
        have empty := House.uninviting_setOwner before changes
        rw [result]
        exact ⟨empty.guests, empty.subOwners, empty.doors⟩
  · have result : (trades.transfer lookup item newOwner).house = trades.house := by
      unfold Trades.transfer House.executeTransfer
      rw [if_pos known]
    refine iff_of_true ?_ fun valid => absurd valid known
    refine ⟨onwards.documents_length, fun changes => ?_, ?_, fun changes => ?_⟩
    · exact absurd (congrArg House.owner result) changes
    · exact fun _ _ _ _ _ => result
    · exact absurd (congrArg House.owner result) changes

/-- **A step** is sound exactly where the document is the owner's and the lists are empty. -/
theorem sound_iff (invariant : trades.Invariant) (op : TradeOp) :
    Sound trades op (houseTrades.step trades op) ↔ Entitled trades op := by
  have onwards := invariant.step op
  cases op with
  | startTrade player =>
    refine iff_of_true (sound_of_same _ onwards ?_ nofun) trivial
    show (trades.startTrade player).house.owner = trades.house.owner
    unfold Trades.startTrade House.getTransferItem
    cases trades.house.transferItem with
    | none => rfl
    | some item => rfl
  | transfer lookup item newOwner => exact invariant.sound_transfer_iff lookup item newOwner
  | cancel item => exact iff_of_true (sound_of_same _ onwards rfl nofun) trivial
  | setOwner lookup guid => exact invariant.sound_setOwner_iff lookup guid
  | setAccessList lookup listId textlist =>
    refine iff_of_true (sound_of_same _ onwards ?_ nofun) trivial
    exact (trades.house.setAccessList_frame lookup listId textlist).1

end Trades.Invariant

/-- **A document transfers what its owner was given it for, and a new owner has empty lists**,
exactly where the house still belongs to the player of the document and a house without an owner
gets one while its lists are empty. -/
theorem transfers_sound_iff (doors : List Door) {ops : List TradeOp}
    (legal : houseTrades.Legal { house := { doorSet := doors } } ops) :
    houseTrades.Throughout Sound { house := { doorSet := doors } } ops ↔
      houseTrades.Throughout (fun before op _ => Entitled before op)
        { house := { doorSet := doors } } ops := by
  have initial : Trades.Invariant { house := { doorSet := doors } } :=
    { documents := rfl
      loaded := fun owned => absurd rfl owned
      numbered := nofun }
  refine System.Throughout.iff_of_invariant (fun before op invariant _ => ?_) initial legal
  exact ⟨invariant.sound_iff op, fun _ => invariant.step op⟩

/-- **A house has one document at most**, the one that it knows, and a house with an owner is loaded,
in every run, also where it is traded by who has lost it. -/
theorem runs_documented (doors : List Door) (ops : List TradeOp) :
    (houseTrades.run { house := { doorSet := doors } } ops).Invariant := by
  have kept {start : Trades} (invariant : start.Invariant) :
      (houseTrades.run start ops).Invariant := by
    induction ops generalizing start with
    | nil => exact invariant
    | cons op ops ih => exact ih (invariant.step op)
  exact kept ⟨rfl, fun owned => absurd rfl owned, nofun⟩

/-- Players `1`, `2` and `3` have names. -/
def town : Lookup where
  rentPeriod := "Monthly".toList
  currentTime := 0
  getNameByGuid
    | 1 => ['a']
    | 2 => ['b']
    | 3 => ['c']
    | _ => []
  getAccountIdByPlayerName := List.length
  getGuidByName
    | ['a'] => 1
    | ['b'] => 2
    | ['c'] => 3
    | _ => 0
  getGuildIdByName _ := 0

/-- A house that is bought, traded and left. -/
def handedOver : List TradeOp :=
  [.setOwner town 1, .setAccessList town GUEST_LIST ['b'], .startTrade 1, .cancel 0,
    .startTrade 1, .transfer town 1 2, .transfer town 0 3, .setOwner town 0]

theorem transfers_sound_iff_handedOver :
    houseTrades.Throughout Sound { house := { doorSet := [⟨1, {}⟩] } } handedOver ↔
      houseTrades.Throughout (fun before op _ => Entitled before op)
        { house := { doorSet := [⟨1, {}⟩] } } handedOver := by
  refine transfers_sound_iff [⟨1, {}⟩] ?_
  exact ⟨trivial, trivial, rfl, List.mem_cons_self, rfl, Nat.one_lt_two, Nat.two_pos, trivial,
    trivial⟩

/-- The house is given to player `2` while player `1` trades it with player `3`. -/
theorem lost_house :
    ∃ ops, houseTrades.Legal {} ops ∧ ¬houseTrades.Throughout Sound {} ops ∧
      (houseTrades.run {} ops).house.owner = 3 := by
  refine ⟨[.setOwner town 1, .startTrade 1, .setOwner town 2, .transfer town 0 3], ?_, ?_, rfl⟩
  · exact ⟨trivial, rfl, trivial, Nat.one_pos, trivial⟩
  · rintro ⟨-, -, -, transferred, -⟩
    obtain ⟨_, _, ⟨⟩⟩ | ⟨_, _, _, ⟨⟩, -, issuer⟩ := transferred.issued (by decide)
    cases issuer

end Otserv.Houses
