import Otserv.Items.Serialization
import Otserv.Items.Setters

/-!
# What reading the written bytes does

Each field that `serializeAttr` writes is one that `readAttr` reads whole, so reading
what was written of an item does to the item it is read into what the fields do in
turn (`unserializeAttr_serializeAttr`). A plain attribute takes the place of its own;
a count and charges both go through `setSubType`, whose place the type decides; and a
custom attribute without a value makes the reading fail (`restoreCustom_isSome`).
-/

namespace Otserv.Items

open Otserv.Foundation

/-! ## Custom attributes -/

namespace CustomAttribute

theorem unserialize_serialize {val : CustomAttribute} (fits : val.InWidth)
    (filled : val ≠ .blank) (rest : List UInt8) :
    unserialize (val.serialize ++ rest) = some (val, rest) := by
  cases val with
  | blank => contradiction
  | string text =>
    have short : text.length ≤ 65535 := fits
    simp [serialize, unserialize, which, readString_writeString short]
  | integer value => simp [serialize, unserialize, which, readSigned_writeInt]
  | double bits =>
    have same : UInt64.ofInt ((bits.toNat : Int) % 256 ^ 8) = bits := by
      have below := bits.toNat_lt
      apply UInt64.toNat_inj.mp
      rw [UInt64.ofInt, UInt64.toNat_ofNat']
      omega
    simpa [serialize, unserialize, which, readUnsigned_writeInt] using same
  | boolean value =>
    cases value <;> simp [serialize, unserialize, which, readUnsigned_writeInt]

/-- A custom attribute without a value is written, and not read back. -/
theorem unserialize_serialize_blank (rest : List UInt8) :
    unserialize (serialize .blank ++ rest) = none := rfl

end CustomAttribute

namespace Item

variable (item : Item)

/-- The value under a key, as it is stored. -/
def findCustom (key : List UInt8) : Option CustomAttribute :=
  ((item.custom.getD []).find? fun entry => entry.1 = key).map Prod.snd

/-- Set the entries one after the other; one without a value makes it fail. -/
def putCustom : CustomAttributeMap → Item → Option Item
  | [], onto => some onto
  | (key, val) :: entries, onto =>
    if val = .blank then none else putCustom entries (onto.setCustomAttribute key val)

variable {entries : CustomAttributeMap}

theorem readCustomAttributes_written
    (fit : ∀ entry ∈ entries, entry.1.length ≤ 65535 ∧ entry.2.InWidth) (onto : Item)
    (rest : List UInt8) :
    readCustomAttributes entries.length onto
        ((entries.flatMap fun entry => writeString entry.1 ++ entry.2.serialize) ++ rest) =
      (putCustom entries onto).map fun after => (after, rest) := by
  induction entries generalizing onto with
  | nil => rfl
  | cons entry entries ih =>
    obtain ⟨key, val⟩ := entry
    obtain ⟨short, fits⟩ := fit (key, val) List.mem_cons_self
    have left := ih fun entry member => fit entry (List.mem_cons_of_mem _ member)
    rw [List.length_cons, readCustomAttributes, List.flatMap_cons, List.append_assoc,
      List.append_assoc, readString_writeString short, Option.bind_some]
    by_cases blank : val = .blank
    · subst blank
      simp [putCustom, CustomAttribute.unserialize_serialize_blank]
    · simp [putCustom, blank, CustomAttribute.unserialize_serialize fits blank, left]

theorem putCustom_isSome (entries : CustomAttributeMap) (onto : Item) :
    (putCustom entries onto).isSome ↔ ∀ entry ∈ entries, entry.2 ≠ .blank := by
  induction entries generalizing onto with
  | nil => simp [putCustom]
  | cons entry entries ih =>
    obtain ⟨key, val⟩ := entry
    by_cases blank : val = .blank
    · simp [putCustom, blank]
    · simp [putCustom, blank, ih]

/-- Setting custom attributes leaves everything else. -/
theorem putCustom_frame {onto after : Item} (put : putCustom entries onto = some after) :
    after.id = onto.id ∧ after.count = onto.count ∧ after.ints = onto.ints ∧
      after.strs = onto.strs := by
  induction entries generalizing onto with
  | nil => cases put; exact ⟨rfl, rfl, rfl, rfl⟩
  | cons entry entries ih =>
    rw [putCustom] at put
    split at put
    next => contradiction
    next => simpa using ih put

theorem findCustom_setCustomAttribute (key other : List UInt8) (val : CustomAttribute) :
    (item.setCustomAttribute key val).findCustom other =
      if other = lowerCase key then some val else item.findCustom other := by
  simp only [findCustom, setCustomAttribute, Option.getD_some, List.find?_cons]
  split
  next same => simp [(of_decide_eq_true same).symm]
  next differ =>
    have apart : ¬ lowerCase key = other := of_decide_eq_false differ
    rw [if_neg fun same => apart same.symm, List.find?_filter]
    congr 2
    funext entry
    by_cases found : entry.1 = other
    · simp [found, Ne.symm apart]
    · simp [found]

theorem putCustom_find {onto after : Item}
    (put : putCustom entries onto = some after) (distinct : (entries.map Prod.fst).Nodup)
    (lower : ∀ entry ∈ entries, lowerCase entry.1 = entry.1) (key : List UInt8) :
    after.findCustom key =
      ((entries.find? fun entry => entry.1 = key).map Prod.snd).or (onto.findCustom key) := by
  induction entries generalizing onto with
  | nil => cases put; simp
  | cons entry entries ih =>
    obtain ⟨first, val⟩ := entry
    rw [putCustom] at put
    split at put
    next => contradiction
    next =>
      obtain ⟨fresh, distinct⟩ := List.nodup_cons.mp distinct
      have lowered : lowerCase first = first := lower (first, val) List.mem_cons_self
      rw [ih put distinct fun entry member => lower entry (List.mem_cons_of_mem _ member),
        findCustom_setCustomAttribute, lowered, List.find?_cons]
      by_cases same : key = first
      · -- the first entry's key comes up no more
        have absent : entries.find? (fun entry => entry.1 = key) = none := by
          rw [List.find?_eq_none]
          intro entry member found
          apply fresh
          rw [← same, ← of_decide_eq_true found]
          exact List.mem_map.mpr ⟨entry, member, rfl⟩
        simp [same, same ▸ absent]
      · simp [same, Ne.symm same]

/-! ## What each field does -/

variable (game : Game)

/-- The count goes through `setSubType`. -/
def restoreCount (item onto : Item) : Item :=
  if item.counted game then onto.setSubType game (item.getSubType game) else onto

/-- So do the charges. -/
def restoreCharges (item onto : Item) : Item :=
  if item.getCharges ≠ 0 then onto.setSubType game item.getCharges else onto

def restoreActionId (item onto : Item) : Item :=
  if (game.items item.id).moveable ∧ item.getActionId ≠ 0 then onto.setActionId item.getActionId
  else onto

def restoreDate (item onto : Item) : Item :=
  if item.getDate ≠ 0 then onto.setIntAttr .date (item.getDate.bmod (2 ^ 32)) else onto

def restoreDecayState (item onto : Item) : Item :=
  if item.WritesDecayState then onto.setDecaying .pending else onto

/-- An absent text is empty, which `setStrAttr` does not set. -/
def restoreStr (type : StrAttr) (onto : Item) : Item :=
  onto.setStrAttr type (item.getStrAttr type)

def restoreInt (type : IntAttr) (back : Int → Int) (onto : Item) : Item :=
  match item.ints type with
  | none => onto
  | some value => onto.setIntAttr type (back value)

def restoreCustom (item onto : Item) : Option Item := putCustom (item.custom.getD []) onto

/-- What comes back of a number read as one of `width` bytes without a sign. -/
def unsigned (width : Nat) (value : Int) : Int := value % 256 ^ width

/-- What comes back of a number read as one of `width` bytes with a sign. -/
def signed (width : Nat) (value : Int) : Int := value.bmod (256 ^ width)

/-- What the fields do, in the order of `serializeAttr`. -/
def updates (item : Item) : List (Item → Option Item) :=
  [some ∘ item.restoreCount game,
    some ∘ item.restoreCharges game,
    some ∘ item.restoreActionId game,
    some ∘ item.restoreStr .text,
    some ∘ item.restoreDate,
    some ∘ item.restoreStr .writer,
    some ∘ item.restoreStr .description,
    some ∘ item.restoreInt .autoOpen (signed 1),
    some ∘ item.restoreInt .duration fun value => max 0 (signed 4 value),
    some ∘ item.restoreDecayState,
    some ∘ item.restoreStr .name,
    some ∘ item.restoreStr .article,
    some ∘ item.restoreStr .pluralName,
    some ∘ item.restoreInt .weight (unsigned 4),
    some ∘ item.restoreInt .attack (signed 4),
    some ∘ item.restoreInt .defense (signed 4),
    some ∘ item.restoreInt .extraDefense (signed 4),
    some ∘ item.restoreInt .armor (signed 4),
    some ∘ item.restoreInt .hitChance (signed 1),
    some ∘ item.restoreInt .shootRange (unsigned 1),
    some ∘ item.restoreStr .special,
    some ∘ item.restoreInt .uniqueItem (signed 4),
    some ∘ item.restoreStr .pokemonHolder,
    some ∘ item.restoreStr .pokemonHolderInfo,
    some ∘ item.restoreInt .pokemonHolderCreatureId (signed 8),
    some ∘ item.restoreInt .heldY (signed 4),
    some ∘ item.restoreInt .heldX (signed 4),
    some ∘ item.restoreInt .heldU (signed 4),
    some ∘ item.restoreInt .blink (signed 8),
    item.restoreCustom,
    some ∘ item.restoreInt .decayTo (signed 4),
    some ∘ item.restoreInt .wrapId (unsigned 2)]

section Fields

variable {game : Game} {item : Item} {tag : AttrTypes}

/-- A tag with what `readAttr` reads after it is a field. -/
theorem reads_tag {payload : List UInt8} {next : Item → Option Item}
    (reads : ∀ onto rest,
      readAttr game tag onto (payload ++ rest) = (next onto).map fun after => (after, rest)) :
    Reads (readTag game) (tag.value :: payload) next := by
  refine .field tag.value_ne_zero fun onto rest => ?_
  rw [readTag, AttrTypes.ofByte_value, Option.bind_some, reads]

theorem reads_nothing {next : Item → Option Item} (idle : ∀ onto, next onto = some onto) :
    Reads (readTag game) [] next := by
  have same : next = some := funext idle
  rw [same]
  exact .absent

/-- A field that is written under a condition. -/
theorem reads_when {p : Prop} [Decidable p] {payload : List UInt8} {set : Item → Item}
    (reads : p → ∀ onto rest, readAttr game tag onto (payload ++ rest) = some (set onto, rest)) :
    Reads (readTag game) (if p then tag.value :: payload else [])
      (some ∘ fun onto => if p then set onto else onto) := by
  by_cases written : p
  · simp only [if_pos written]
    exact reads_tag (reads written)
  · simp only [if_neg written]
    exact reads_nothing fun _ => rfl

theorem reads_writeIntAttr {width : Nat} {type : IntAttr} {back : Int → Int}
    (reads : ∀ value onto rest, readAttr game tag onto (writeInt width value ++ rest) =
      some (onto.setIntAttr type (back value), rest)) :
    Reads (readTag game) (item.writeIntAttr tag width type) (some ∘ item.restoreInt type back) := by
  cases held : item.ints type with
  | none =>
    have absent : item.writeIntAttr tag width type = [] := by
      simp [writeIntAttr, hasAttribute, held]
    rw [absent]
    exact reads_nothing fun onto => by simp [restoreInt, held]
  | some value =>
    have written : item.writeIntAttr tag width type = intField tag width value := by
      simp [writeIntAttr, hasAttribute, getIntAttr, held]
    rw [written]
    refine reads_tag fun onto rest => ?_
    simp [reads, restoreInt, held]

theorem reads_writeText (wellFormed : item.WellFormed) {type : StrAttr}
    (reads : ∀ onto bytes,
      readAttr game tag onto bytes = store (readString bytes) (onto.setStrAttr type)) :
    Reads (readTag game) (item.writeText tag type) (some ∘ item.restoreStr type) := by
  cases held : item.strs type with
  | none =>
    have absent : item.writeText tag type = [] := by simp [writeText, getStrAttr, held]
    rw [absent]
    exact reads_nothing fun onto => by simp [restoreStr, getStrAttr, held, setStrAttr]
  | some text =>
    obtain ⟨filled, short⟩ := wellFormed.strs type text held
    have written : item.writeText tag type = strField tag text := by
      simp [writeText, getStrAttr, held, filled]
    rw [written]
    refine reads_tag fun onto rest => ?_
    simp [reads, readString_writeString short, store, restoreStr, getStrAttr, held]

theorem writeStrAttr_eq_writeText (wellFormed : item.WellFormed) (tag : AttrTypes)
    (type : StrAttr) : item.writeStrAttr tag type = item.writeText tag type := by
  cases held : item.strs type with
  | none => simp [writeStrAttr, writeText, hasStrAttribute, getStrAttr, held]
  | some text =>
    have filled := (wellFormed.strs type text held).1
    simp [writeStrAttr, writeText, hasStrAttribute, getStrAttr, held, filled]

theorem reads_writeCustomAttributes (wellFormed : item.WellFormed) :
    Reads (readTag game) item.writeCustomAttributes item.restoreCustom := by
  cases held : item.custom with
  | none =>
    have absent : item.writeCustomAttributes = [] := by rw [writeCustomAttributes, held]
    rw [absent]
    exact reads_nothing fun onto => by simp [restoreCustom, held, putCustom]
  | some entries =>
    have room : ((entries.length : Int) % 256 ^ 8).toNat = entries.length := by
      have := wellFormed.room entries held
      omega
    have fit : ∀ entry ∈ entries, entry.1.length ≤ 65535 ∧ entry.2.InWidth :=
      fun entry member =>
        have fits := wellFormed.entries entries held entry member
        ⟨fits.1, fits.2.2⟩
    rw [writeCustomAttributes, held]
    refine reads_tag fun onto rest => ?_
    rw [readAttr, List.append_assoc, readUnsigned_writeInt, Option.bind_some]
    simp only [room, restoreCustom, held, Option.getD_some]
    exact readCustomAttributes_written fit onto rest

theorem uint16_ofInt_toNat (n : UInt16) : UInt16.ofInt (n.toNat : Int) = n := by
  have below := n.toNat_lt
  apply UInt16.toNat_inj.mp
  rw [UInt16.ofInt, UInt16.toNat_ofNat']
  omega

/-- A 16-bit number is read back whole. -/
theorem store_uint16 (n : UInt16) (rest : List UInt8) (set : UInt16 → Item) :
    store (readUnsigned 2 (writeInt 2 n.toNat ++ rest)) (fun read => set (.ofInt read)) =
      some (set n, rest) := by
  have same : (n.toNat : Int) % 256 ^ 2 = n.toNat := by
    have := n.toNat_lt
    omega
  rw [readUnsigned_writeInt, same, store_some, uint16_ofInt_toNat]

theorem reads_writeDate : Reads (readTag game) item.writeDate (some ∘ item.restoreDate) := by
  refine reads_when fun _ onto rest => ?_
  have same : (Int32.ofInt (item.getDate % 256 ^ 4)).toInt = item.getDate.bmod (2 ^ 32) := by
    rw [Int32.toInt_ofInt]
    exact item.getDate.emod_bmod Int32.size
  rw [readAttr, readUnsigned_writeInt, store_some]
  exact congrArg (fun date => some (onto.setIntAttr .date date, rest)) same

theorem reads_writeDecayState :
    Reads (readTag game) item.writeDecayState (some ∘ item.restoreDecayState) := by
  refine reads_when fun decays onto rest => ?_
  have kept : (item.getDecaying.toNat : Int) % 256 ^ 1 ≠ DecayState.notDecaying.value.toNat := by
    rcases decays with same | same <;> rw [same] <;> decide
  rw [readAttr, readUnsigned_writeInt, store_some, if_pos kept]

theorem reads_writeDuration :
    Reads (readTag game) (item.writeIntAttr .duration 4 .duration)
      (some ∘ item.restoreInt .duration fun value => max 0 (signed 4 value)) := by
  refine reads_writeIntAttr fun value onto rest => ?_
  have same : (Int32.ofInt (max 0 (signed 4 value))).toInt = max 0 (signed 4 value) := by
    have below : signed 4 value < 2 ^ 31 := by
      have := Int.bmod_lt (x := value) (m := 256 ^ 4) (by decide)
      rw [signed]
      omega
    rw [Int32.toInt_ofInt]
    have size : Int32.size = 2 ^ 32 := rfl
    exact Int.bmod_eq_of_le (by omega) (by omega)
  rw [readAttr, readSigned_writeInt, store_some]
  exact congrArg (fun time => some (onto.setIntAttr .duration time, rest)) same

/-- **Every field is read.** Each field that is written is read whole, and does what
its update says. -/
theorem reads_attrFields (wellFormed : item.WellFormed) :
    List.Forall₂ (Reads (readTag game)) (item.attrFields game) (item.updates game) := by
  have number {tag : AttrTypes} {width : Nat} {type : IntAttr}
      (plain : ∀ onto bytes,
        readAttr game tag onto bytes = store (readUnsigned width bytes) (onto.setIntAttr type)) :
      Reads (readTag game) (item.writeIntAttr tag width type)
        (some ∘ item.restoreInt type (unsigned width)) :=
    reads_writeIntAttr fun value onto rest => by
      rw [plain, readUnsigned_writeInt, store_some, unsigned]
  have signedNumber {tag : AttrTypes} {width : Nat} {type : IntAttr}
      (plain : ∀ onto bytes,
        readAttr game tag onto bytes = store (readSigned width bytes) (onto.setIntAttr type)) :
      Reads (readTag game) (item.writeIntAttr tag width type)
        (some ∘ item.restoreInt type (signed width)) :=
    reads_writeIntAttr fun value onto rest => by
      rw [plain, readSigned_writeInt, store_some, signed]
  have text {tag : AttrTypes} {type : StrAttr}
      (plain : ∀ onto bytes,
        readAttr game tag onto bytes = store (readString bytes) (onto.setStrAttr type)) :
      Reads (readTag game) (item.writeText tag type) (some ∘ item.restoreStr type) :=
    reads_writeText wellFormed plain
  have string {tag : AttrTypes} {type : StrAttr}
      (plain : ∀ onto bytes,
        readAttr game tag onto bytes = store (readString bytes) (onto.setStrAttr type)) :
      Reads (readTag game) (item.writeStrAttr tag type) (some ∘ item.restoreStr type) :=
    writeStrAttr_eq_writeText wellFormed tag type ▸ text plain
  refine
    .cons (reads_when fun _ onto rest => store_uint16 _ rest (onto.setSubType game)) <|
    .cons (reads_when fun _ onto rest => store_uint16 _ rest (onto.setSubType game)) <|
    .cons (reads_when fun _ onto rest => store_uint16 _ rest onto.setActionId) <|
    .cons (text fun _ _ => rfl) <|
    .cons reads_writeDate <|
    .cons (text fun _ _ => rfl) <|
    .cons (text fun _ _ => rfl) <|
    .cons (signedNumber fun _ _ => rfl) <|
    .cons reads_writeDuration <|
    .cons reads_writeDecayState <|
    .cons (string fun _ _ => rfl) <|
    .cons (string fun _ _ => rfl) <|
    .cons (string fun _ _ => rfl) <|
    .cons (number fun _ _ => rfl) <|
    .cons (signedNumber fun _ _ => rfl) <|
    .cons (signedNumber fun _ _ => rfl) <|
    .cons (signedNumber fun _ _ => rfl) <|
    .cons (signedNumber fun _ _ => rfl) <|
    .cons (signedNumber fun _ _ => rfl) <|
    .cons (number fun _ _ => rfl) <|
    .cons (string fun _ _ => rfl) <|
    .cons (signedNumber fun _ _ => rfl) <|
    .cons (string fun _ _ => rfl) <|
    .cons (string fun _ _ => rfl) <|
    .cons (signedNumber fun _ _ => rfl) <|
    .cons (signedNumber fun _ _ => rfl) <|
    .cons (signedNumber fun _ _ => rfl) <|
    .cons (signedNumber fun _ _ => rfl) <|
    .cons (signedNumber fun _ _ => rfl) <|
    .cons (reads_writeCustomAttributes wellFormed) <|
    .cons (signedNumber fun _ _ => rfl) <|
    .cons (number fun _ _ => rfl) .nil

/-- **Reading what was written.** It does to an item what the fields do in turn, and
reads all the bytes. -/
theorem unserializeAttr_serializeAttr (wellFormed : item.WellFormed) (onto : Item) :
    unserializeAttr game onto (item.serializeAttr game) =
      (inTurn (item.updates game) onto).map fun after => (after, []) :=
  readAll_flatten (reads_attrFields wellFormed) onto (Nat.le_refl _)

end Fields

end Item

end Otserv.Items
