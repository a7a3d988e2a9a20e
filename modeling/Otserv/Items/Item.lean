import Otserv.Foundation.Numerals

/-!
# Items and their attributes

An item is of a type and has a count and attributes: whole numbers, texts, and a
map of custom attributes under keys in lower case. `Item::CreateItem` builds an item
with what its type says about counts, charges, fluids and durations.

The list of attributes with its bit set is a partial function of the attribute, and
the map of custom attributes is the list of its entries in the order it iterates
over them. The fields of the classes derived from `Item` are left out; what their
constructors do to the attributes is kept.
-/

namespace Otserv.Items

/-- `itemgroup_t`. -/
inductive ItemGroup where
  | none | ground | container | weapon | ammunition | armor | charges | teleport | magicField
  | writeable | key | splash | fluid | door | deprecated
deriving DecidableEq

/-- `ItemTypes_t`. -/
inductive ItemTypes where
  | none | depot | mailbox | trashHolder | container | door | magicField | teleport | bed | key
  | rune
deriving DecidableEq

structure ItemType where
  id : UInt16
  group : ItemGroup := .none
  type : ItemTypes := .none
  stackable : Bool := false
  moveable : Bool := false
  alwaysOnTop : Bool := false
  stopTime : Bool := false
  decayTime : UInt32 := 0
  decayTo : Int := -1
  charges : UInt32 := 0
  weight : UInt32 := 0
  maxItems : UInt16 := 8
  /-- Bits of `TILESTATE_FLOORCHANGE`, which are the lowest seven. -/
  floorChange : Fin 128 := 0
  alwaysOnTopOrder : UInt8 := 0
  hasHeight : Bool := false
  blockSolid : Bool := false
  blockProjectile : Bool := false
  isPokeball : Bool := false
  blockPathFind : Bool := false
  allowPickupable : Bool := false
  replaceable : Bool := true
  pickupable : Bool := false
  isVertical : Bool := false
  isHorizontal : Bool := false

namespace ItemType

def isGroundTile (it : ItemType) : Bool := it.group = .ground
def isPokeballItem (it : ItemType) : Bool := it.isPokeball
def isPickupable (it : ItemType) : Bool := it.allowPickupable || it.pickupable

def isContainer (it : ItemType) : Bool := it.group = .container
def isSplash (it : ItemType) : Bool := it.group = .splash
def isFluidContainer (it : ItemType) : Bool := it.group = .fluid
def isDoor (it : ItemType) : Bool := it.type = .door
def isMagicField (it : ItemType) : Bool := it.type = .magicField
def isTeleport (it : ItemType) : Bool := it.type = .teleport
def isDepot (it : ItemType) : Bool := it.type = .depot
def isMailbox (it : ItemType) : Bool := it.type = .mailbox
def isTrashHolder (it : ItemType) : Bool := it.type = .trashHolder
def isBed (it : ItemType) : Bool := it.type = .bed

def hasSubType (it : ItemType) : Bool :=
  it.isFluidContainer || it.isSplash || it.stackable || it.charges ≠ 0

end ItemType

/-- What items ask the game for: `Item::items`, and which unique ids are taken. -/
structure Game where
  items : UInt16 → ItemType
  uniqueItems : UInt16 → Bool

/-- The `ITEM_ATTRIBUTE_` types of `intAttributeTypes`. -/
inductive IntAttr where
  | actionId | uniqueId | date | weight | attack | defense | extraDefense | armor | hitChance
  | shootRange | owner | duration | decayState | corpseOwner | charges | fluidType | doorId
  | blink | pokemonHolderCreatureId | uniqueItem | autoOpen | heldX | heldY | heldU | decayTo
  | wrapId
deriving DecidableEq

/-- The `ITEM_ATTRIBUTE_` types of `stringAttributeTypes`. -/
inductive StrAttr where
  | description | text | writer | name | article | pluralName | special | pokemonHolder
  | pokemonHolderInfo
deriving DecidableEq

/-- `ItemDecayState_t`. -/
inductive DecayState where
  | notDecaying | decaying | pending
deriving DecidableEq

def DecayState.value : DecayState → UInt8
  | .notDecaying => 0
  | .decaying => 1
  | .pending => 2

/-- `ItemAttributes::CustomAttribute`, a double as its bits. -/
inductive CustomAttribute where
  | blank
  | string (text : List UInt8)
  | integer (value : Int64)
  | double (bits : UInt64)
  | boolean (value : Bool)
deriving DecidableEq

abbrev CustomAttributeMap := List (List UInt8 × CustomAttribute)

variable (text : List UInt8)

/-- `asLowerCaseString`. -/
def lowerCase : List UInt8 :=
  text.map fun letter => if 65 ≤ letter ∧ letter ≤ 90 then letter + 32 else letter

@[simp] theorem length_lowerCase : (lowerCase text).length = text.length := by
  simp [lowerCase]

@[simp] theorem lowerCase_lowerCase : lowerCase (lowerCase text) = lowerCase text := by
  rw [lowerCase, lowerCase, List.map_map]
  refine List.map_congr_left fun letter _ => ?_
  -- a lowered capital is past the capitals
  simp only [Function.comp_apply]
  split
  next capital =>
    have past : ¬ (65 ≤ letter + 32 ∧ letter + 32 ≤ 90) := by
      simp only [UInt8.le_iff_toNat_le, UInt8.toNat_add, UInt8.toNat_ofNat] at capital ⊢
      omega
    rw [if_neg past]
  next => rfl

structure Item where
  id : UInt16
  count : UInt16 := 1
  ints : IntAttr → Option Int := fun _ => none
  strs : StrAttr → Option (List UInt8) := fun _ => none
  custom : Option CustomAttributeMap := none

namespace Item

/-! ## Attributes -/

variable (item : Item) (type : IntAttr)

def hasAttribute : Bool := (item.ints type).isSome

def getIntAttr : Int := (item.ints type).getD 0

def setIntAttr (value : Int) : Item :=
  { item with ints := Function.update item.ints type (some value) }

def hasStrAttribute (type : StrAttr) : Bool := (item.strs type).isSome

def getStrAttr (type : StrAttr) : List UInt8 := (item.strs type).getD []

def setStrAttr (type : StrAttr) (value : List UInt8) : Item :=
  if value.isEmpty then item
  else { item with strs := Function.update item.strs type (some value) }

/-- `removeAttribute`, on an attribute of each of the three kinds. -/
def removeIntAttribute : Item :=
  { item with ints := Function.update item.ints type none }

def removeStrAttribute (type : StrAttr) : Item :=
  { item with strs := Function.update item.strs type none }

def removeCustomAttributes : Item := { item with custom := none }

def setCustomAttribute (key : List UInt8) (value : CustomAttribute) : Item :=
  { item with
    custom := some ((lowerCase key, value) ::
      (item.custom.getD []).filter (fun entry => entry.1 ≠ lowerCase key)) }

def removeCustomAttribute (key : List UInt8) : Item :=
  { item with custom := item.custom.map (List.filter fun entry => entry.1 ≠ lowerCase key) }

section Fields

variable (item : Item) (type : IntAttr)

@[simp] theorem setIntAttr_id (value : Int) : (item.setIntAttr type value).id = item.id := rfl

@[simp] theorem setIntAttr_count (value : Int) :
    (item.setIntAttr type value).count = item.count := rfl

@[simp] theorem setIntAttr_ints (value : Int) (other : IntAttr) :
    (item.setIntAttr type value).ints other = if other = type then some value else item.ints other :=
  Function.update_apply item.ints type (some value) other

@[simp] theorem setIntAttr_strs (value : Int) : (item.setIntAttr type value).strs = item.strs := rfl

@[simp] theorem setIntAttr_custom (value : Int) :
    (item.setIntAttr type value).custom = item.custom := rfl

@[simp] theorem removeIntAttribute_ints (type other : IntAttr) :
    (item.removeIntAttribute type).ints other = if other = type then none else item.ints other :=
  Function.update_apply item.ints type none other

@[simp] theorem removeStrAttribute_strs (type other : StrAttr) :
    (item.removeStrAttribute type).strs other = if other = type then none else item.strs other :=
  Function.update_apply item.strs type none other

@[simp] theorem setStrAttr_id (type : StrAttr) (value : List UInt8) :
    (item.setStrAttr type value).id = item.id := by
  rw [setStrAttr]
  split <;> rfl

@[simp] theorem setStrAttr_count (type : StrAttr) (value : List UInt8) :
    (item.setStrAttr type value).count = item.count := by
  rw [setStrAttr]
  split <;> rfl

@[simp] theorem setStrAttr_ints (type : StrAttr) (value : List UInt8) :
    (item.setStrAttr type value).ints = item.ints := by
  rw [setStrAttr]
  split <;> rfl

@[simp] theorem setStrAttr_strs (type : StrAttr) (value : List UInt8) (other : StrAttr) :
    (item.setStrAttr type value).strs other =
      if other = type ∧ value ≠ [] then some value else item.strs other := by
  rw [setStrAttr]
  cases value with
  | nil => simp
  | cons letter value =>
    simpa using Function.update_apply item.strs type (some (letter :: value)) other

@[simp] theorem setStrAttr_custom (type : StrAttr) (value : List UInt8) :
    (item.setStrAttr type value).custom = item.custom := by
  rw [setStrAttr]
  split <;> rfl

variable (key : List UInt8) (value : CustomAttribute)

@[simp] theorem setCustomAttribute_ints :
    (item.setCustomAttribute key value).ints = item.ints := rfl

@[simp] theorem setCustomAttribute_strs :
    (item.setCustomAttribute key value).strs = item.strs := rfl

@[simp] theorem setCustomAttribute_count :
    (item.setCustomAttribute key value).count = item.count := rfl

@[simp] theorem setCustomAttribute_id : (item.setCustomAttribute key value).id = item.id := rfl

end Fields

/-! ## Setters and getters -/

variable (n : UInt16)

def setItemCount : Item := { item with count := n }

def setActionId : Item :=
  item.setIntAttr .actionId (if n < 100 then 100 else (n.toNat : Int))

def getActionId : UInt16 := .ofInt (item.getIntAttr .actionId)

variable (game : Game)

def setUniqueId (item : Item) (n : UInt16) : Item :=
  if item.hasAttribute .uniqueId then item
  else if game.uniqueItems n then item
  else item.setIntAttr .uniqueId n.toNat

def setCharges : Item := item.setIntAttr .charges n.toNat

def getCharges : UInt16 := .ofInt (item.getIntAttr .charges)

def setFluidType : Item := item.setIntAttr .fluidType n.toNat

def getFluidType : UInt16 := .ofInt (item.getIntAttr .fluidType)

def setDate (n : Int32) : Item := item.setIntAttr .date n.toInt

def getDate : Int := item.getIntAttr .date

def setDuration (time : Int32) : Item := item.setIntAttr .duration time.toInt

def setDecaying (state : DecayState) : Item :=
  item.setIntAttr .decayState state.value.toNat

def getDecaying : UInt8 := .ofInt (item.getIntAttr .decayState)

/-- `Item::getSubType`. -/
def getSubType (game : Game) (item : Item) : UInt16 :=
  let it := game.items item.id
  if it.isFluidContainer || it.isSplash then item.getFluidType
  else if it.stackable then item.count
  else if it.charges ≠ 0 then item.getCharges
  else item.count

/-- `Item::setSubType`. -/
def setSubType (game : Game) (item : Item) (n : UInt16) : Item :=
  let it := game.items item.id
  if it.isFluidContainer || it.isSplash then item.setFluidType n
  else if it.stackable then item.setItemCount n
  else if it.charges ≠ 0 then item.setCharges n
  else item.setItemCount n

@[simp] theorem setSubType_id (item : Item) (n : UInt16) :
    (item.setSubType game n).id = item.id := by
  simp only [setSubType]
  split_ifs <;> rfl

/-! ## Creation -/

def setDefaultDuration (item : Item) : Item :=
  let duration := (game.items item.id).decayTime * 1000
  if duration ≠ 0 then item.setDuration duration.toInt32 else item

/-- The constructor `Item::Item`. -/
def new (type count : UInt16) : Item :=
  let it := game.items type
  let item : Item := { id := type }
  setDefaultDuration game <|
    if it.isFluidContainer || it.isSplash then item.setFluidType count
    else if it.stackable then
      if count ≠ 0 then item.setItemCount count
      else if it.charges ≠ 0 then item.setItemCount it.charges.toUInt16
      else item
    else if it.charges ≠ 0 then
      if count ≠ 0 then item.setCharges count else item.setCharges it.charges.toUInt16
    else item

/-- "Nobody is sleeping there.", the description of an empty bed. -/
def nobodySleeping : List UInt8 :=
  [78, 111, 98, 111, 100, 121, 32, 105, 115, 32, 115, 108, 101, 101, 112, 105, 110, 103, 32, 116,
    104, 101, 114, 101, 46]

/-- `Item::CreateItem`. -/
def createItem (type count : UInt16) : Option Item :=
  let it := game.items type
  if it.group = .deprecated then none
  else
    let count := if it.stackable && count == 0 then 1 else count
    if it.id ≠ 0 then
      some <|
        -- the derived classes are built without a count
        if it.isDepot then new game type 0
        else if it.isContainer then new game type 0
        else if it.isTeleport then new game type 0
        else if it.isMagicField then new game type 0
        else if it.isDoor then new game type 0
        else if it.isTrashHolder then new game type 0
        else if it.isMailbox then new game type 0
        else if it.isBed then (new game type 0).setStrAttr .description nobodySleeping
        else if it.id ≥ 2210 ∧ it.id ≤ 2212 then new game (type - 3) count
        else if it.id = 2215 ∨ it.id = 2216 then new game (type - 2) count
        else if it.id ≥ 2202 ∧ it.id ≤ 2206 then new game (type - 37) count
        else if it.id = 2640 then new game 6132 count
        else if it.id = 6301 then new game 6300 count
        else if it.id = 18528 then new game 18408 count
        else new game type count
    else none

/-- The item is as the constructor leaves it, or a bed told to be empty. -/
def Constructed (item : Item) : Prop :=
  ∃ id n, item = new game id n ∨ item = (new game id n).setStrAttr .description nobodySleeping

theorem createItem_constructed {game : Game} {type count : UInt16} {item : Item}
    (created : createItem game type count = some item) : Constructed game item := by
  have plain (id n) : Constructed game (new game id n) := ⟨id, n, .inl rfl⟩
  have bed (id n) :
      Constructed game ((new game id n).setStrAttr .description nobodySleeping) :=
    ⟨id, n, .inr rfl⟩
  have either {p : Prop} [Decidable p] {yes no : Item} (whenYes : Constructed game yes)
      (whenNo : Constructed game no) : Constructed game (if p then yes else no) := by
    split
    · exact whenYes
    · exact whenNo
  unfold createItem at created
  extract_lets it n at created
  by_cases deprecated : it.group = .deprecated
  · rw [if_pos deprecated] at created
    contradiction
  by_cases known : it.id ≠ 0
  · rw [if_neg deprecated, if_pos known] at created
    rw [← Option.some.inj created]
    repeat' first | exact plain _ _ | exact bed _ _ | apply either
  · rw [if_neg deprecated, if_neg known] at created
    contradiction

/-! ## Fresh items -/

section Fresh

variable {game : Game} {item : Item}

/-- The item's type keeps charges as charges. -/
def holdsCharges (game : Game) (item : Item) : Bool :=
  let it := game.items item.id
  !(it.isFluidContainer || it.isSplash) && !it.stackable && it.charges ≠ 0

/-- The attributes a created item can have. -/
structure Fresh (game : Game) (item : Item) : Prop where
  custom : item.custom = none
  ints : ∀ type, type ≠ .charges → type ≠ .fluidType → type ≠ .duration → item.ints type = none
  charges : item.holdsCharges game = false → item.ints .charges = none

theorem setDefaultDuration_id (item : Item) : (item.setDefaultDuration game).id = item.id := by
  simp only [setDefaultDuration]
  split_ifs <;> rfl

theorem setDefaultDuration_custom (item : Item) :
    (item.setDefaultDuration game).custom = item.custom := by
  simp only [setDefaultDuration]
  split_ifs <;> rfl

theorem setDefaultDuration_ints (item : Item) {type : IntAttr} (other : type ≠ .duration) :
    (item.setDefaultDuration game).ints type = item.ints type := by
  simp only [setDefaultDuration]
  split_ifs
  · simp [setDuration, other]
  · rfl

theorem new_id (type count : UInt16) : (new game type count).id = type := by
  rw [new, setDefaultDuration_id]
  split_ifs <;> rfl

theorem new_fresh (type count : UInt16) : Fresh game (new game type count) where
  custom := by
    rw [new, setDefaultDuration_custom]
    split_ifs <;> rfl
  ints := by
    intro other notCharges notFluid notDuration
    rw [new, setDefaultDuration_ints _ notDuration]
    split_ifs <;> simp [setFluidType, setItemCount, setCharges, notCharges, notFluid]
  charges := by
    intro none
    rw [holdsCharges, new_id] at none
    rw [new, setDefaultDuration_ints _ (by decide)]
    split_ifs <;> simp_all [setFluidType, setItemCount]

theorem createItem_fresh {type count : UInt16}
    (created : createItem game type count = some item) : Fresh game item := by
  obtain ⟨id, n, rfl | rfl⟩ := createItem_constructed created
  · exact new_fresh id n
  · have fresh : Fresh game (new game id n) := new_fresh id n
    exact
      { custom := by rw [setStrAttr_custom, fresh.custom]
        ints := by
          exact fresh.ints
        charges := by
          exact fresh.charges }

end Fresh

end Item

end Otserv.Items
