import Otserv.Items.Item

/-!
# The attributes of an item in memory

`ItemAttributes` keeps the attributes of an item in a vector, beside a mask with a bit for each
attribute that is set. The value of an attribute is a union: a whole number, or a pointer to a
text or to a map of custom attributes that the attribute owns. What is owned lies at an address,
which is all that is seen of it when the union is read as a number.

Where a function allocates, `places` says at which address what an attribute of a type owns comes
to lie, and `grows` whether the vector has to grow.
-/

namespace Otserv.Items

/-- `itemAttrTypes`, of the three kinds that the masks distinguish. -/
inductive AttrType where
  | int (type : IntAttr)
  | str (type : StrAttr)
  | custom
deriving DecidableEq

namespace AttrType

/-- In the order of their bits. -/
def all : List AttrType :=
  [.int .actionId, .int .uniqueId, .str .description, .str .text, .int .date, .str .writer,
    .str .name, .str .article, .str .pluralName, .int .weight, .int .attack, .int .defense,
    .int .extraDefense, .int .armor, .int .hitChance, .int .shootRange, .int .owner,
    .int .duration, .int .decayState, .int .corpseOwner, .int .charges, .int .fluidType,
    .int .doorId, .str .special, .int .blink, .str .pokemonHolder, .str .pokemonHolderInfo,
    .int .pokemonHolderCreatureId, .int .uniqueItem, .int .autoOpen, .int .heldX, .int .heldY,
    .int .heldU, .custom, .int .decayTo, .int .wrapId]

/-- The number of the bit of an attribute. -/
def bit (type : AttrType) : Nat := all.idxOf type

variable (type : AttrType)

/-- `1ULL << bit`. -/
def value : BitVec 64 := .twoPow 64 type.bit

def mask (types : List AttrType) : BitVec 64 :=
  types.foldl (fun bits type => bits ||| type.value) 0#64

def intAttributeTypes : BitVec 64 :=
  mask [.int .actionId, .int .uniqueId, .int .date, .int .weight, .int .attack, .int .defense,
    .int .extraDefense, .int .armor, .int .hitChance, .int .shootRange, .int .owner,
    .int .duration, .int .decayState, .int .corpseOwner, .int .charges, .int .fluidType,
    .int .doorId, .int .pokemonHolderCreatureId, .int .uniqueItem, .int .autoOpen, .int .heldX,
    .int .heldY, .int .heldU, .int .blink, .int .decayTo, .int .wrapId]

/-- A number of 32 bits. -/
def stringAttributeTypes : BitVec 32 :=
  (mask [.str .description, .str .text, .str .writer, .str .name, .str .article,
    .str .pluralName, .str .special, .str .pokemonHolder, .str .pokemonHolderInfo]).setWidth 32

def isIntAttrType : Bool := type.value &&& intAttributeTypes ≠ 0

def isStrAttrType : Bool :=
  type.value &&& stringAttributeTypes.setWidth 64 ≠ 0

def isCustomAttrType : Bool :=
  type.value &&& AttrType.custom.value = type.value

/-- The masks tell the three kinds apart. -/
@[simp] theorem isIntAttrType_eq :
    type.isIntAttrType = match type with | .int _ => true | .str _ => false | .custom => false := by
  cases type with
  | int type => cases type <;> decide
  | str type => cases type <;> decide
  | custom => decide

@[simp] theorem isStrAttrType_eq :
    type.isStrAttrType = match type with | .int _ => false | .str _ => true | .custom => false := by
  cases type with
  | int type => cases type <;> decide
  | str type => cases type <;> decide
  | custom => decide

@[simp] theorem isCustomAttrType_eq :
    type.isCustomAttrType =
      match type with | .int _ => false | .str _ => false | .custom => true := by
  cases type with
  | int type => cases type <;> decide
  | str type => cases type <;> decide
  | custom => decide

theorem mem_all : type ∈ all := by
  cases type with
  | int type => cases type <;> decide
  | str type => cases type <;> decide
  | custom => decide

theorem bit_lt : type.bit < 64 :=
  Nat.lt_of_lt_of_le (List.idxOf_lt_length_of_mem type.mem_all) (by decide)

theorem bit_inj {type other : AttrType} : type.bit = other.bit ↔ type = other :=
  List.idxOf_inj type.mem_all

end AttrType

/-! ## Values -/

/-- The union of an attribute. A text and a map lie at an address. -/
inductive AttrValue where
  | integer (value : Int64)
  | string (address : UInt64) (text : List UInt8)
  | custom (address : UInt64) (map : CustomAttributeMap)

namespace AttrValue

/-- `value.integer`, whatever was put into the union. -/
def asInteger : AttrValue → Int64
  | .integer value => value
  | .string address _ => address.toInt64
  | .custom address _ => address.toInt64

/-- `*value.string`. -/
def deref : AttrValue → List UInt8
  | .string _ text => text
  | .integer _ => []
  | .custom _ _ => []

/-- `*value.custom`. -/
def derefCustom : AttrValue → CustomAttributeMap
  | .custom _ map => map
  | .integer _ => []
  | .string _ _ => []

/-- The map, if it is one, is changed where it lies. -/
def onMap (change : CustomAttributeMap → CustomAttributeMap) : AttrValue → AttrValue
  | .custom address map => .custom address (change map)
  | other => other

/-- Where what the attribute owns lies. -/
def address? : AttrValue → Option UInt64
  | .integer _ => none
  | .string address _ => some address
  | .custom address _ => some address

end AttrValue

/-- `ItemAttributes::Attribute`. -/
structure Attribute where
  type : AttrType
  value : AttrValue := .integer 0

/-- The addresses of what is allocated, for each type of attribute. -/
abbrev Places := AttrType → UInt64

/-- The copy constructor of `Attribute`. -/
def Attribute.copy (places : Places) (i : Attribute) : Attribute where
  type := i.type
  value :=
    if i.type.isIntAttrType then .integer i.value.asInteger
    else if i.type.isStrAttrType then .string (places i.type) i.value.deref
    else if i.type.isCustomAttrType then .custom (places i.type) i.value.derefCustom
    else .integer 0

/-! ## The vector and the mask -/

structure ItemAttributes where
  attributes : List Attribute := []
  attributeBits : BitVec 64 := 0#64

namespace ItemAttributes

variable (list : ItemAttributes) (type : AttrType)

def hasAttribute : Bool := type.value &&& list.attributeBits ≠ 0

def getExistingAttr : Option Attribute :=
  if list.hasAttribute type then list.attributes.find? (·.type = type) else none

/-- The first attribute of the type is changed, if there is one. -/
def updateFirst (type : AttrType) (change : Attribute → Attribute) :
    List Attribute → Option (List Attribute)
  | [] => none
  | attr :: rest =>
    if attr.type = type then some (change attr :: rest)
    else (updateFirst type change rest).map (attr :: ·)

/-- The attribute gets a value. -/
def assign (value : AttrValue → AttrValue) (attr : Attribute) : Attribute :=
  { attr with value := value attr.value }

/-- `getAttr`, and what is done with the reference to the value that it returns. -/
def getAttr (places : Places) (grows : Bool) (type : AttrType)
    (value : AttrValue → AttrValue) : ItemAttributes :=
  match
    if list.hasAttribute type then updateFirst type (assign value) list.attributes else none with
  | some attributes => { list with attributes := attributes }
  | none =>
    { attributes :=
        (if grows then list.attributes.map (Attribute.copy places) else list.attributes) ++
          [{ type := type, value := value (.integer 0) }]
      attributeBits := list.attributeBits ||| type.value }

variable (places : Places)

/-- The attributes are looked at from the end. The last takes the place of the one that is
removed. -/
def removeAttribute (type : AttrType) : ItemAttributes :=
  if !list.hasAttribute type then list
  else
    { attributes :=
        match list.attributes.reverse with
        | [] => []
        | last :: others =>
          if last.type = type then others.reverse
          else
            match updateFirst type (fun _ => last.copy places) others with
            | some others => others.reverse
            | none => list.attributes
      attributeBits := list.attributeBits &&& ~~~type.value }

variable (grows : Bool)

def setStrAttr (type : AttrType) (value : List UInt8) : ItemAttributes :=
  if !type.isStrAttrType then list
  else if value.isEmpty then list
  else list.getAttr places grows type fun _ => .string (places type) value

def getIntAttr : Int64 :=
  if !type.isIntAttrType then 0
  else (list.getExistingAttr type).elim 0 (·.value.asInteger)

def setIntAttr (type : AttrType) (value : Int64) : ItemAttributes :=
  if !type.isIntAttrType then list
  else list.getAttr places grows type fun _ => .integer value

def increaseIntAttr (type : AttrType) (value : Int64) : ItemAttributes :=
  if !type.isIntAttrType then list
  else list.getAttr places grows type fun before => .integer (before.asInteger + value)

/-- What is done with the map of `getCustomAttributeMap`, if there is one. -/
def onCustom (change : CustomAttributeMap → CustomAttributeMap) : ItemAttributes :=
  { list with
    attributes :=
      (updateFirst .custom (assign (.onMap change)) list.attributes).getD list.attributes }

def removeCustomAttribute (key : List UInt8) : ItemAttributes :=
  if !list.hasAttribute .custom then list
  else list.onCustom (List.filter fun entry => entry.1 ≠ lowerCase key)

def setCustomAttribute (key : List UInt8) (value : CustomAttribute) : ItemAttributes :=
  let key := lowerCase key
  let list :=
    if list.hasAttribute .custom then list.removeCustomAttribute key
    else list.getAttr places grows .custom fun _ => .custom (places .custom) []
  list.onCustom ((key, value) :: ·)

/-- The copy constructor. -/
def copy (places : Places) : ItemAttributes :=
  { list with attributes := list.attributes.map (Attribute.copy places) }

end ItemAttributes

end Otserv.Items
