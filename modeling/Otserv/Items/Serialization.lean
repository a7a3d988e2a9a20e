import Otserv.Foundation.ByteStream
import Otserv.Foundation.TagStream
import Otserv.Items.Item

/-!
# Writing and reading the attributes of an item

`Item::serializeAttr` writes the attributes an item has, each under a tag of its own
and in a fixed order; `Item::unserializeAttr` reads tag after tag until the stream
ends, and `Item::readAttr` knows for each tag what follows it and which setter takes
the value.

The derived classes handle the tags of their own fields and hand every other tag on
to `Item::readAttr`, which only skips theirs.
-/

namespace Otserv.Items

open Otserv.Foundation

/-- The tags of `AttrTypes_t` that `Item::readAttr` has a case for. -/
inductive AttrTypes where
  | actionId | uniqueId | text | desc | teleDest | depotId | runeCharges | houseDoorId | countOld
  | duration | decayingState | writtenDate | writtenBy | sleeperGuid | sleepStart | charges
  | containerItems | name | article | pluralName | weight | attack | defense | extraDefense
  | armor | hitChance | shootRange | special | autoOpen | count | pokemonHolder
  | pokemonHolderInfo | pokemonHolderCreatureId | uniqueItem | heldX | heldY | heldU | blink
  | customAttributes | decayTo | wrapId
deriving DecidableEq

namespace AttrTypes

def all : List AttrTypes :=
  [.actionId, .uniqueId, .text, .desc, .teleDest, .depotId, .runeCharges, .houseDoorId, .countOld,
    .duration, .decayingState, .writtenDate, .writtenBy, .sleeperGuid, .sleepStart, .charges,
    .containerItems, .name, .article, .pluralName, .weight, .attack, .defense, .extraDefense,
    .armor, .hitChance, .shootRange, .special, .autoOpen, .count, .pokemonHolder,
    .pokemonHolderInfo, .pokemonHolderCreatureId, .uniqueItem, .heldX, .heldY, .heldU, .blink,
    .customAttributes, .decayTo, .wrapId]

def value : AttrTypes → UInt8
  | .actionId => 4
  | .uniqueId => 5
  | .text => 6
  | .desc => 7
  | .teleDest => 8
  | .depotId => 10
  | .runeCharges => 12
  | .houseDoorId => 14
  | .countOld => 15
  | .duration => 16
  | .decayingState => 17
  | .writtenDate => 18
  | .writtenBy => 19
  | .sleeperGuid => 20
  | .sleepStart => 21
  | .charges => 22
  | .containerItems => 23
  | .name => 24
  | .article => 25
  | .pluralName => 26
  | .weight => 27
  | .attack => 28
  | .defense => 29
  | .extraDefense => 30
  | .armor => 31
  | .hitChance => 32
  | .shootRange => 33
  | .special => 34
  | .autoOpen => 35
  | .count => 36
  | .pokemonHolder => 38
  | .pokemonHolderInfo => 39
  | .pokemonHolderCreatureId => 40
  | .uniqueItem => 41
  | .heldX => 42
  | .heldY => 43
  | .heldU => 44
  | .blink => 45
  | .customAttributes => 46
  | .decayTo => 47
  | .wrapId => 48

/-- The tag of a byte, if `readAttr` has a case for it. -/
def ofByte (byte : UInt8) : Option AttrTypes := all.find? fun tag => tag.value == byte

@[simp] theorem ofByte_value (tag : AttrTypes) : ofByte tag.value = some tag := by
  cases tag <;> rfl

theorem value_ne_zero (tag : AttrTypes) : tag.value ≠ 0 := by
  cases tag <;> decide

end AttrTypes

/-! ## Custom attributes -/

namespace CustomAttribute

/-- The position of the kind in `VariantAttribute`. -/
def which : CustomAttribute → UInt8
  | .blank => 0
  | .string _ => 1
  | .integer _ => 2
  | .double _ => 3
  | .boolean _ => 4

def serialize (val : CustomAttribute) : List UInt8 :=
  val.which ::
    match val with
    | .blank => []
    | .string text => writeString text
    | .integer value => writeInt 8 value.toInt
    | .double bits => writeInt 8 bits.toNat
    | .boolean value => writeInt 1 value.toNat

def unserialize : List UInt8 → Read CustomAttribute
  | [] => none
  | pos :: bytes =>
    if pos = 1 then (readString bytes).map fun (text, rest) => (.string text, rest)
    else if pos = 2 then
      (readSigned 8 bytes).map fun (value, rest) => (.integer (.ofInt value), rest)
    else if pos = 3 then
      (readUnsigned 8 bytes).map fun (bits, rest) => (.double (.ofInt bits), rest)
    else if pos = 4 then
      (readUnsigned 1 bytes).map fun (value, rest) => (.boolean (value ≠ 0), rest)
    else none

end CustomAttribute

namespace Item

/-! ## Writing -/

/-- A tag and a whole number. -/
def intField (tag : AttrTypes) (width : Nat) (value : Int) : List UInt8 :=
  tag.value :: writeInt width value

def strField (tag : AttrTypes) (text : List UInt8) : List UInt8 := tag.value :: writeString text

variable (item : Item)

/-- The attribute, if the item has it. -/
def writeIntAttr (tag : AttrTypes) (width : Nat) (type : IntAttr) : List UInt8 :=
  if item.hasAttribute type then intField tag width (item.getIntAttr type) else []

def writeStrAttr (tag : AttrTypes) (type : StrAttr) : List UInt8 :=
  if item.hasStrAttribute type then strField tag (item.getStrAttr type) else []

/-- The text, unless it is empty. -/
def writeText (tag : AttrTypes) (type : StrAttr) : List UInt8 :=
  if item.getStrAttr type ≠ [] then strField tag (item.getStrAttr type) else []

variable (game : Game)

/-- The count is written of the types that use it, in `ATTR_COUNT`. -/
def counted (item : Item) : Bool :=
  let it := game.items item.id
  it.stackable || it.isFluidContainer || it.isSplash

def writeCount (item : Item) : List UInt8 :=
  if item.counted game then intField .count 2 (item.getSubType game).toNat else []

def writeCharges : List UInt8 :=
  if item.getCharges ≠ 0 then intField .charges 2 item.getCharges.toNat else []

def writeActionId (item : Item) : List UInt8 :=
  if (game.items item.id).moveable ∧ item.getActionId ≠ 0 then
    intField .actionId 2 item.getActionId.toNat
  else []

def writeDate : List UInt8 :=
  if item.getDate ≠ 0 then intField .writtenDate 4 item.getDate else []

/-- The decay states that are written. -/
def WritesDecayState : Prop :=
  item.getDecaying = DecayState.decaying.value ∨ item.getDecaying = DecayState.pending.value

instance (item : Item) : Decidable item.WritesDecayState := inferInstanceAs (Decidable (_ ∨ _))

def writeDecayState : List UInt8 :=
  if item.WritesDecayState then
    intField .decayingState 1 item.getDecaying.toNat
  else []

def writeCustomAttributes : List UInt8 :=
  match item.custom with
  | none => []
  | some customAttrMap =>
    AttrTypes.customAttributes.value :: (writeInt 8 customAttrMap.length ++
      customAttrMap.flatMap fun entry => writeString entry.1 ++ entry.2.serialize)

/-- The fields of `Item::serializeAttr`, in its order. -/
def attrFields (item : Item) : List (List UInt8) :=
  [item.writeCount game,
    item.writeCharges,
    item.writeActionId game,
    item.writeText .text .text,
    item.writeDate,
    item.writeText .writtenBy .writer,
    item.writeText .desc .description,
    item.writeIntAttr .autoOpen 1 .autoOpen,
    item.writeIntAttr .duration 4 .duration,
    item.writeDecayState,
    item.writeStrAttr .name .name,
    item.writeStrAttr .article .article,
    item.writeStrAttr .pluralName .pluralName,
    item.writeIntAttr .weight 4 .weight,
    item.writeIntAttr .attack 4 .attack,
    item.writeIntAttr .defense 4 .defense,
    item.writeIntAttr .extraDefense 4 .extraDefense,
    item.writeIntAttr .armor 4 .armor,
    item.writeIntAttr .hitChance 1 .hitChance,
    item.writeIntAttr .shootRange 1 .shootRange,
    item.writeStrAttr .special .special,
    item.writeIntAttr .uniqueItem 4 .uniqueItem,
    item.writeStrAttr .pokemonHolder .pokemonHolder,
    item.writeStrAttr .pokemonHolderInfo .pokemonHolderInfo,
    item.writeIntAttr .pokemonHolderCreatureId 8 .pokemonHolderCreatureId,
    item.writeIntAttr .heldY 4 .heldY,
    item.writeIntAttr .heldX 4 .heldX,
    item.writeIntAttr .heldU 4 .heldU,
    item.writeIntAttr .blink 8 .blink,
    item.writeCustomAttributes,
    item.writeIntAttr .decayTo 4 .decayTo,
    item.writeIntAttr .wrapId 2 .wrapId]

/-- `Item::serializeAttr`. -/
def serializeAttr (game : Game) (item : Item) : List UInt8 := (item.attrFields game).flatten

/-! ## Reading -/

/-- Hand a value that was read on to a setter; at the stream's end the reading fails. -/
def store {α : Type} (read : Read α) (set : α → Item) : Option (Item × List UInt8) :=
  read.map fun (value, rest) => (set value, rest)

@[simp] theorem store_some {α : Type} (value : α) (rest : List UInt8) (set : α → Item) :
    store (some (value, rest)) set = some (set value, rest) := rfl

/-- A field of a derived class is read over. -/
def skip (count : Nat) (bytes : List UInt8) : Option (Item × List UInt8) :=
  store (readBytes count bytes) fun _ => item

/-- The entries of the custom attributes. -/
def readCustomAttributes : Nat → Item → List UInt8 → Option (Item × List UInt8)
  | 0, item, bytes => some (item, bytes)
  | size + 1, item, bytes =>
    (readString bytes).bind fun (key, left) =>
      (CustomAttribute.unserialize left).bind fun (val, rest) =>
        readCustomAttributes size (item.setCustomAttribute key val) rest

/-- `Item::readAttr`. -/
def readAttr (game : Game) : AttrTypes → Item → List UInt8 → Option (Item × List UInt8)
  | .countOld, item, bytes | .runeCharges, item, bytes =>
    store (readUnsigned 1 bytes) fun count => item.setSubType game (.ofInt count)
  | .count, item, bytes =>
    store (readUnsigned 2 bytes) fun count => item.setSubType game (.ofInt count)
  | .autoOpen, item, bytes => store (readSigned 1 bytes) (item.setIntAttr .autoOpen)
  | .actionId, item, bytes =>
    store (readUnsigned 2 bytes) fun actionId => item.setActionId (.ofInt actionId)
  | .uniqueId, item, bytes =>
    store (readUnsigned 2 bytes) fun uniqueId => item.setUniqueId game (.ofInt uniqueId)
  | .text, item, bytes => store (readString bytes) (item.setStrAttr .text)
  | .writtenDate, item, bytes =>
    store (readUnsigned 4 bytes) fun writtenDate => item.setDate (.ofInt writtenDate)
  | .writtenBy, item, bytes => store (readString bytes) (item.setStrAttr .writer)
  | .desc, item, bytes => store (readString bytes) (item.setStrAttr .description)
  | .charges, item, bytes =>
    store (readUnsigned 2 bytes) fun charges => item.setSubType game (.ofInt charges)
  | .duration, item, bytes =>
    store (readSigned 4 bytes) fun duration => item.setDuration (.ofInt (max 0 duration))
  | .decayingState, item, bytes =>
    store (readUnsigned 1 bytes) fun state =>
      if state ≠ DecayState.notDecaying.value.toNat then item.setDecaying .pending else item
  | .name, item, bytes => store (readString bytes) (item.setStrAttr .name)
  | .article, item, bytes => store (readString bytes) (item.setStrAttr .article)
  | .pluralName, item, bytes => store (readString bytes) (item.setStrAttr .pluralName)
  | .weight, item, bytes => store (readUnsigned 4 bytes) (item.setIntAttr .weight)
  | .attack, item, bytes => store (readSigned 4 bytes) (item.setIntAttr .attack)
  | .defense, item, bytes => store (readSigned 4 bytes) (item.setIntAttr .defense)
  | .extraDefense, item, bytes => store (readSigned 4 bytes) (item.setIntAttr .extraDefense)
  | .armor, item, bytes => store (readSigned 4 bytes) (item.setIntAttr .armor)
  | .hitChance, item, bytes => store (readSigned 1 bytes) (item.setIntAttr .hitChance)
  | .shootRange, item, bytes => store (readUnsigned 1 bytes) (item.setIntAttr .shootRange)
  | .special, item, bytes => store (readString bytes) (item.setStrAttr .special)
  | .uniqueItem, item, bytes => store (readSigned 4 bytes) (item.setIntAttr .uniqueItem)
  | .pokemonHolder, item, bytes => store (readString bytes) (item.setStrAttr .pokemonHolder)
  | .pokemonHolderInfo, item, bytes =>
    store (readString bytes) (item.setStrAttr .pokemonHolderInfo)
  | .pokemonHolderCreatureId, item, bytes =>
    store (readSigned 8 bytes) (item.setIntAttr .pokemonHolderCreatureId)
  | .heldX, item, bytes => store (readSigned 4 bytes) (item.setIntAttr .heldX)
  | .heldY, item, bytes => store (readSigned 4 bytes) (item.setIntAttr .heldY)
  | .heldU, item, bytes => store (readSigned 4 bytes) (item.setIntAttr .heldU)
  | .blink, item, bytes => store (readSigned 8 bytes) (item.setIntAttr .blink)
  | .decayTo, item, bytes => store (readSigned 4 bytes) (item.setIntAttr .decayTo)
  | .wrapId, item, bytes => store (readUnsigned 2 bytes) (item.setIntAttr .wrapId)
  | .depotId, item, bytes => item.skip 2 bytes
  | .houseDoorId, item, bytes => item.skip 1 bytes
  | .sleeperGuid, item, bytes => item.skip 4 bytes
  | .sleepStart, item, bytes => item.skip 4 bytes
  | .teleDest, item, bytes => item.skip 5 bytes
  | .containerItems, _, _ => none
  | .customAttributes, item, bytes =>
    (readUnsigned 8 bytes).bind fun (size, rest) => readCustomAttributes size.toNat item rest

/-- `Item::readAttr` at a byte of the stream; it fails at those it has no case for. -/
def readTag (byte : UInt8) (item : Item) (bytes : List UInt8) : Option (Item × List UInt8) :=
  (AttrTypes.ofByte byte).bind fun tag => readAttr game tag item bytes

/-- `Item::unserializeAttr`, with the item it leaves and the rest of the stream, or
`none` when it fails. -/
def unserializeAttr (game : Game) (item : Item) (bytes : List UInt8) : Option (Item × List UInt8) :=
  readAll (readTag game) bytes.length item bytes

end Item

end Otserv.Items
