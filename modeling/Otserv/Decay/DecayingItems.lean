import Otserv.Items.Item

/-!
# Items that decay

What the decay queues ask of an item: its duration, its decay state and what it decays
to, and what setting another type does to them. `Item::setID` gives an item the default
duration of its new type and marks it as not decaying, or takes both from it.
-/

namespace Otserv.Items

def IntAttr.all : List IntAttr :=
  [.actionId, .uniqueId, .date, .weight, .attack, .defense, .extraDefense, .armor, .hitChance,
    .shootRange, .owner, .duration, .decayState, .corpseOwner, .charges, .fluidType, .doorId,
    .blink, .pokemonHolderCreatureId, .uniqueItem, .autoOpen, .heldX, .heldY, .heldU, .decayTo,
    .wrapId]

def StrAttr.all : List StrAttr :=
  [.description, .text, .writer, .name, .article, .pluralName, .special, .pokemonHolder,
    .pokemonHolderInfo]

namespace Item

variable (item : Item)

def getDuration : UInt32 := .ofInt (item.getIntAttr .duration)

/-- `decreaseDuration`, which `increaseIntAttr` does with the negative. -/
def decreaseDuration (item : Item) (time : Int) : Item :=
  item.setIntAttr .duration (item.getIntAttr .duration - time)

variable (game : Game)

def getDecayTo (item : Item) : Int :=
  if item.hasAttribute .decayTo then (Int32.ofInt (item.getIntAttr .decayTo)).toInt
  else (game.items item.id).decayTo

/-- The decay state is `DECAYING_TRUE`. -/
def Marked : Prop := item.getDecaying = DecayState.decaying.value

instance (item : Item) : Decidable item.Marked := inferInstanceAs (Decidable (_ = _))

/-- `Item::canDecay`. -/
def canDecay (game : Game) (isRemoved : Bool) (item : Item) : Bool :=
  if isRemoved then false
  else if item.getDecayTo game < 0 ∨ (game.items item.id).decayTime = 0 then false
  else if item.hasAttribute .uniqueId then false
  else true

/-- `Item::equals`. Maps of custom attributes are compared by their addresses, and two
items never share one. -/
def equals (item other : Item) : Bool :=
  item.id = other.id ∧ IntAttr.all.all (fun type => item.ints type = other.ints type) ∧
    StrAttr.all.all (fun type => item.strs type = other.strs type) ∧
    item.custom = none ∧ other.custom = none

/-- No attribute is set. -/
def attributeless : Bool :=
  IntAttr.all.all (fun type => item.ints type = none) ∧
    StrAttr.all.all (fun type => item.strs type = none) ∧ item.custom = none

/-- `Item::setDefaultSubtype`. -/
def setDefaultSubtype (game : Game) (item : Item) : Item :=
  let it := game.items item.id
  let item := item.setItemCount 1
  if it.charges ≠ 0 then
    if it.stackable then item.setItemCount it.charges.toUInt16
    else item.setCharges it.charges.toUInt16
  else item

/-- `Item::setID`. -/
def setID (game : Game) (item : Item) (newid : UInt16) : Item :=
  let prevIt := game.items item.id
  let it := game.items newid
  let newDuration := it.decayTime * 1000
  let item := { item with id := newid }
  let item :=
    if newDuration = 0 ∧ !it.stopTime ∧ it.decayTo < 0 then
      (item.removeIntAttribute .decayState).removeIntAttribute .duration
    else item
  let item := item.removeIntAttribute .corpseOwner
  if newDuration > 0 ∧ (!prevIt.stopTime ∨ !item.hasAttribute .duration) then
    (item.setDecaying .notDecaying).setDuration newDuration.toInt32
  else item

/-- What `Item::clone` makes of the attributes: those of `CreateItem` where the item
has no attribute list (`bare`), else a copy of the item's. -/
def copied (bare : Bool) (item : Item) : Option Item :=
  (createItem game item.id item.count).map fun created =>
    if bare && item.attributeless then created
    else { created with ints := item.ints, strs := item.strs, custom := item.custom }

@[simp] theorem setID_id (item : Item) (newid : UInt16) : (item.setID game newid).id = newid := by
  simp only [setID]
  split_ifs <;> rfl

/-! ## The mark -/

section Marks

variable {game : Game} {item : Item}

theorem marked_congr (other : Item) (same : item.ints .decayState = other.ints .decayState) :
    item.Marked ↔ other.Marked := by
  rw [Marked, Marked, getDecaying, getDecaying, getIntAttr, getIntAttr, same]

theorem marked_setDecaying (state : DecayState) :
    (item.setDecaying state).Marked ↔ state = .decaying := by
  cases state <;> simp [Marked, getDecaying, getIntAttr, setDecaying, DecayState.value] <;> decide

theorem not_marked_of_none (none : item.ints .decayState = none) : ¬ item.Marked := by
  rw [Marked, getDecaying, getIntAttr, none]
  decide

theorem marked_setItemCount (n : UInt16) : (item.setItemCount n).Marked ↔ item.Marked :=
  marked_congr item rfl

theorem marked_setSubType (n : UInt16) : (item.setSubType game n).Marked ↔ item.Marked := by
  simp only [setSubType]
  split_ifs <;> exact marked_congr item (by simp [setFluidType, setItemCount, setCharges])

theorem setDefaultSubtype_keeps : (item.setDefaultSubtype game).id = item.id ∧
    (item.setDefaultSubtype game).ints .decayState = item.ints .decayState ∧
    (item.setDefaultSubtype game).ints .duration = item.ints .duration := by
  simp only [setDefaultSubtype]
  split_ifs <;> simp [setItemCount, setCharges, setIntAttr]

theorem marked_setDefaultSubtype : (item.setDefaultSubtype game).Marked ↔ item.Marked :=
  marked_congr item setDefaultSubtype_keeps.2.1

theorem marked_decreaseDuration (time : Int) : (item.decreaseDuration time).Marked ↔ item.Marked :=
  marked_congr item (by simp [decreaseDuration])

theorem marked_setID {newid : UInt16} (marked : (item.setID game newid).Marked) : item.Marked := by
  by_contra unmarked
  have removed : ¬ (((({ item with id := newid } : Item).removeIntAttribute
      .decayState).removeIntAttribute .duration).removeIntAttribute .corpseOwner).Marked :=
    not_marked_of_none (by simp)
  have kept : ¬ (({ item with id := newid } : Item).removeIntAttribute .corpseOwner).Marked := by
    rwa [marked_congr item (by simp)]
  have cleared (item : Item) (time : Int32) :
      ¬ ((item.setDecaying .notDecaying).setDuration time).Marked := by
    rw [marked_congr (item.setDecaying .notDecaying) (by simp [setDuration]),
      marked_setDecaying]
    decide
  revert marked
  simp only [setID]
  split_ifs
  · exact cleared _ _
  · exact removed
  · exact cleared _ _
  · exact kept

theorem marked_setID_congr {other : Item} (id : item.id = other.id)
    (state : item.ints .decayState = other.ints .decayState)
    (duration : item.ints .duration = other.ints .duration) (newid : UInt16) :
    (item.setID game newid).Marked ↔ (other.setID game newid).Marked := by
  have lasts (item : Item) : (item.removeIntAttribute .corpseOwner).hasAttribute .duration =
      (item.ints .duration).isSome := by
    simp [hasAttribute, removeIntAttribute]
  refine marked_congr _ ?_
  simp only [setID, id, lasts]
  split_ifs <;> simp_all [removeIntAttribute, setDuration, setDecaying, setIntAttr]

theorem not_marked_createItem {type count : UInt16}
    (created : createItem game type count = some item) : ¬ item.Marked :=
  not_marked_of_none <|
    (createItem_fresh created).ints .decayState (by decide) (by decide) (by decide)

end Marks

end Item

end Otserv.Items
