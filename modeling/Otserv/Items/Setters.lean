import Otserv.Foundation.Runs
import Otserv.Items.Item

/-!
# Runs of setters and removals

From an item as `Item::CreateItem` builds it, attributes are set and removed in any
order. A setter is legal with a value within the width `serializeAttr` has for the
attribute: the number type it is written as, or 65535 bytes of text.

Every item so reached is well formed (`run_wellFormed`): its numbers are within those
widths, its texts are not empty, and its custom attributes are under different keys,
all in lower case.
-/

namespace Otserv.Items

open Otserv.Foundation

/-! ## Widths -/

/-- The least value of the number type the attribute is written as; an attribute that
is not written has 64 bits with a sign. -/
def IntAttr.least : IntAttr → Int
  | .attack | .defense | .extraDefense | .armor | .decayTo => -2 ^ 31
  | .hitChance | .autoOpen => -2 ^ 7
  | .uniqueId | .owner | .corpseOwner | .doorId | .blink | .pokemonHolderCreatureId => -2 ^ 63
  | .actionId | .date | .weight | .shootRange | .duration | .decayState | .charges | .fluidType
  | .uniqueItem | .heldX | .heldY | .heldU | .wrapId => 0

/-- The first value past the number type the attribute is written as. -/
def IntAttr.limit : IntAttr → Int
  | .attack | .defense | .extraDefense | .armor | .decayTo => 2 ^ 31
  | .hitChance | .autoOpen => 2 ^ 7
  | .uniqueId | .owner | .corpseOwner | .doorId | .blink | .pokemonHolderCreatureId => 2 ^ 63
  | .actionId | .charges | .fluidType | .wrapId => 2 ^ 16
  | .shootRange | .decayState => 2 ^ 8
  | .date | .weight | .duration | .uniqueItem | .heldX | .heldY | .heldU => 2 ^ 32

/-- The value is within the width the attribute is written in. -/
def IntAttr.InWidth (type : IntAttr) (value : Int) : Prop := type.least ≤ value ∧ value < type.limit

instance (type : IntAttr) (value : Int) : Decidable (type.InWidth value) :=
  inferInstanceAs (Decidable (_ ∧ _))

/-- A text of the custom attribute is within the width of texts. -/
def CustomAttribute.InWidth : CustomAttribute → Prop
  | .string text => text.length ≤ 65535
  | .blank | .integer _ | .double _ | .boolean _ => True

/-! ## The setters -/

/-- The setters and removals. `rehash` is no call of the program: it is the order in
which the map of custom attributes iterates, which the hashes decide. -/
inductive AttrOp where
  | setItemCount (n : UInt16)
  | setSubType (n : UInt16)
  | setCharges (n : UInt16)
  | setFluidType (n : UInt16)
  | setActionId (n : UInt16)
  | setDate (n : Int32)
  | setDuration (time : Int32)
  | setDecaying (state : DecayState)
  | setIntAttr (type : IntAttr) (value : Int)
  | setStrAttr (type : StrAttr) (value : List UInt8)
  | setCustomAttribute (key : List UInt8) (value : CustomAttribute)
  | removeIntAttribute (type : IntAttr)
  | removeStrAttribute (type : StrAttr)
  | removeCustomAttributes
  | removeCustomAttribute (key : List UInt8)
  | rehash (entries : CustomAttributeMap)

namespace AttrOp

def apply (game : Game) (item : Item) : AttrOp → Item
  | setItemCount n => item.setItemCount n
  | setSubType n => item.setSubType game n
  | setCharges n => item.setCharges n
  | setFluidType n => item.setFluidType n
  | setActionId n => item.setActionId n
  | setDate n => item.setDate n
  | setDuration time => item.setDuration time
  | setDecaying state => item.setDecaying state
  | setIntAttr type value => item.setIntAttr type value
  | setStrAttr type value => item.setStrAttr type value
  | setCustomAttribute key value => item.setCustomAttribute key value
  | removeIntAttribute type => item.removeIntAttribute type
  | removeStrAttribute type => item.removeStrAttribute type
  | removeCustomAttributes => item.removeCustomAttributes
  | removeCustomAttribute key => item.removeCustomAttribute key
  | rehash entries => { item with custom := item.custom.map fun _ => entries }

/-- The value is within the width it is written in, and a 64-bit number can say how
many custom attributes there are. -/
def Legal (item : Item) : AttrOp → Prop
  | setDate n => 0 ≤ n.toInt
  | setDuration time => 0 ≤ time.toInt
  | setIntAttr type value => type.InWidth value
  | setStrAttr _ value => value.length ≤ 65535
  | setCustomAttribute key value =>
    key.length ≤ 65535 ∧ value.InWidth ∧ (item.custom.getD []).length + 1 < 2 ^ 64
  | rehash entries => entries.Perm (item.custom.getD [])
  | setItemCount _ | setSubType _ | setCharges _ | setFluidType _ | setActionId _
  | setDecaying _ | removeIntAttribute _ | removeStrAttribute _ | removeCustomAttributes
  | removeCustomAttribute _ => True

end AttrOp

/-- Setters and removals in any order. -/
def setters (game : Game) : System Item AttrOp where
  legal := AttrOp.Legal
  step := AttrOp.apply game

/-! ## Well-formed items -/

namespace Item

/-- What setters within the widths keep. Only the default duration of a type can be
a negative number, where its milliseconds do not fit. -/
structure WellFormed (item : Item) : Prop where
  ints : ∀ type value, item.ints type = some value →
    type.InWidth value ∨ type = .duration ∧ -2 ^ 31 ≤ value ∧ value < 0
  strs : ∀ type text, item.strs type = some text → text ≠ [] ∧ text.length ≤ 65535
  keys : ∀ entries, item.custom = some entries → (entries.map Prod.fst).Nodup
  entries : ∀ entries, item.custom = some entries → ∀ entry ∈ entries,
    entry.1.length ≤ 65535 ∧ lowerCase entry.1 = entry.1 ∧ entry.2.InWidth
  room : ∀ entries, item.custom = some entries → entries.length < 2 ^ 64

namespace WellFormed

variable {item : Item}

theorem ofId (id : UInt16) : WellFormed { id := id } where
  ints := by simp
  strs := by simp
  keys := by simp
  entries := by simp
  room := by simp

section

variable (wellFormed : item.WellFormed)
include wellFormed

theorem setItemCount (n : UInt16) : (item.setItemCount n).WellFormed :=
  { wellFormed with }

theorem setIntAttr {type : IntAttr} {value : Int}
    (fits : type.InWidth value ∨ type = .duration ∧ -2 ^ 31 ≤ value ∧ value < 0) :
    (item.setIntAttr type value).WellFormed where
  __ := wellFormed
  ints := by
    intro other found holds
    rw [setIntAttr_ints] at holds
    split at holds
    next same => exact Option.some.inj holds ▸ same ▸ fits
    next => exact wellFormed.ints other found holds

theorem removeIntAttribute (type : IntAttr) :
    (item.removeIntAttribute type).WellFormed where
  __ := wellFormed
  ints := by
    intro other found holds
    rw [removeIntAttribute_ints] at holds
    split at holds
    next => contradiction
    next => exact wellFormed.ints other found holds

theorem setStrAttr (type : StrAttr) {text : List UInt8}
    (short : text.length ≤ 65535) : (item.setStrAttr type text).WellFormed where
  ints := by simpa using wellFormed.ints
  strs := by
    intro other found holds
    rw [setStrAttr_strs] at holds
    split at holds
    next filled => exact Option.some.inj holds ▸ ⟨filled.2, short⟩
    next => exact wellFormed.strs other found holds
  keys := by simpa using wellFormed.keys
  entries := by simpa using wellFormed.entries
  room := by simpa using wellFormed.room

theorem removeStrAttribute (type : StrAttr) :
    (item.removeStrAttribute type).WellFormed where
  __ := wellFormed
  strs := by
    intro other found holds
    rw [removeStrAttribute_strs] at holds
    split at holds
    next => contradiction
    next => exact wellFormed.strs other found holds

/-- A setter of a 16-bit number. -/
theorem setUInt16 {type : IntAttr} (wide : type.limit = 2 ^ 16)
    (unsigned : type.least = 0) (n : UInt16) : (item.setIntAttr type n.toNat).WellFormed := by
  have below := n.toNat_lt
  exact wellFormed.setIntAttr (.inl ⟨by omega, by omega⟩)

theorem setSubType (game : Game) (n : UInt16) : (item.setSubType game n).WellFormed := by
  simp only [Item.setSubType]
  split_ifs
  · exact wellFormed.setUInt16 rfl rfl n
  · exact wellFormed.setItemCount n
  · exact wellFormed.setUInt16 rfl rfl n
  · exact wellFormed.setItemCount n

theorem setCustomAttribute {key : List UInt8}
    {value : CustomAttribute} (short : key.length ≤ 65535) (fits : value.InWidth)
    (room : (item.custom.getD []).length + 1 < 2 ^ 64) :
    (item.setCustomAttribute key value).WellFormed where
  __ := wellFormed
  keys := by
    rintro _ ⟨⟩
    rw [List.map_cons, List.nodup_cons]
    constructor
    · simp
    · cases held : item.custom with
      | none => simp
      | some entries =>
        exact (wellFormed.keys entries held).sublist (List.filter_sublist.map Prod.fst)
  entries := by
    rintro _ ⟨⟩ entry member
    rcases List.mem_cons.mp member with rfl | kept
    · exact ⟨by simpa using short, lowerCase_lowerCase key, fits⟩
    · cases held : item.custom with
      | none => simp [held] at kept
      | some entries =>
        rw [held, Option.getD_some] at kept
        exact wellFormed.entries entries held entry (List.mem_of_mem_filter kept)
  room := by
    rintro _ ⟨⟩
    have fewer := List.length_filter_le (fun entry => decide (entry.1 ≠ lowerCase key))
      (item.custom.getD [])
    rw [List.length_cons]
    omega

theorem mapCustom {part : CustomAttributeMap → CustomAttributeMap}
    (within : ∀ entries, item.custom = some entries → (part entries).Subperm entries) :
    WellFormed { item with custom := item.custom.map part } where
  __ := wellFormed
  keys := by
    intro _ holds
    obtain ⟨entries, held, rfl⟩ := Option.map_eq_some_iff.mp holds
    obtain ⟨sorted, same, sub⟩ := within entries held
    have distinct := (wellFormed.keys entries held).sublist (sub.map Prod.fst)
    exact (same.map Prod.fst).nodup_iff.mp distinct
  entries := by
    intro _ holds entry member
    obtain ⟨entries, held, rfl⟩ := Option.map_eq_some_iff.mp holds
    exact wellFormed.entries entries held entry ((within entries held).subset member)
  room := by
    intro _ holds
    obtain ⟨entries, held, rfl⟩ := Option.map_eq_some_iff.mp holds
    exact Nat.lt_of_le_of_lt (within entries held).length_le (wellFormed.room entries held)

theorem setDefaultDuration (game : Game) : (item.setDefaultDuration game).WellFormed := by
  simp only [Item.setDefaultDuration]
  split_ifs
  · refine wellFormed.setIntAttr ?_
    set time := ((game.items item.id).decayTime * 1000).toInt32
    have above := time.le_toInt
    have below := time.toInt_lt
    simp only [IntAttr.InWidth, IntAttr.least, IntAttr.limit, true_and]
    omega
  · exact wellFormed

end

theorem new (game : Game) (type count : UInt16) : (Item.new game type count).WellFormed := by
  have start := ofId type
  apply setDefaultDuration
  split_ifs
  · exact start.setUInt16 rfl rfl count
  · exact start.setItemCount count
  · exact start.setItemCount _
  · exact start
  · exact start.setUInt16 rfl rfl count
  · exact start.setUInt16 rfl rfl _
  · exact start

theorem createItem {game : Game} {type count : UInt16}
    (created : Item.createItem game type count = some item) : item.WellFormed := by
  obtain ⟨id, n, rfl | rfl⟩ := createItem_constructed created
  · exact new game id n
  · exact (new game id n).setStrAttr .description (by decide)

end WellFormed

end Item

/-! ## Runs -/

theorem apply_wellFormed (game : Game) {item : Item} {op : AttrOp} (wellFormed : item.WellFormed)
    (legal : op.Legal item) : (op.apply game item).WellFormed := by
  cases op with
  | setItemCount n => exact wellFormed.setItemCount n
  | setSubType n => exact wellFormed.setSubType game n
  | setCharges n => exact wellFormed.setUInt16 rfl rfl n
  | setFluidType n => exact wellFormed.setUInt16 rfl rfl n
  | setActionId n =>
    have below := n.toNat_lt
    refine wellFormed.setIntAttr (.inl ?_)
    simp only [IntAttr.InWidth, IntAttr.least, IntAttr.limit]
    split_ifs <;> omega
  | setDate n =>
    have below := n.toInt_lt
    have positive : 0 ≤ n.toInt := legal
    refine wellFormed.setIntAttr (.inl ?_)
    simp only [IntAttr.InWidth, IntAttr.least, IntAttr.limit]
    omega
  | setDuration time =>
    have below := time.toInt_lt
    have positive : 0 ≤ time.toInt := legal
    refine wellFormed.setIntAttr (.inl ?_)
    simp only [IntAttr.InWidth, IntAttr.least, IntAttr.limit]
    omega
  | setDecaying state =>
    refine wellFormed.setIntAttr (.inl ?_)
    cases state <;> decide
  | setIntAttr type value => exact wellFormed.setIntAttr (.inl legal)
  | setStrAttr type value => exact wellFormed.setStrAttr type legal
  | setCustomAttribute key value =>
    exact wellFormed.setCustomAttribute legal.1 legal.2.1 legal.2.2
  | removeIntAttribute type => exact wellFormed.removeIntAttribute type
  | removeStrAttribute type => exact wellFormed.removeStrAttribute type
  | removeCustomAttributes =>
    refine { wellFormed with keys := ?_, entries := ?_, room := ?_ } <;> rintro _ ⟨⟩
  | removeCustomAttribute key =>
    exact wellFormed.mapCustom fun _ _ => List.filter_sublist.subperm
  | rehash entries =>
    refine wellFormed.mapCustom fun held known => ?_
    have reordered : entries.Perm (item.custom.getD []) := legal
    rw [known] at reordered
    exact reordered.subperm

/-- **Setters keep items well formed.** So is every item a legal run of setters makes
of an item that was created. -/
theorem run_wellFormed {game : Game} {type count : UInt16} {start : Item} {ops : List AttrOp}
    (created : Item.createItem game type count = some start)
    (legal : (setters game).Legal start ops) : ((setters game).run start ops).WellFormed := by
  have step : ∀ before op, before.WellFormed → (setters game).legal before op →
      ((setters game).step before op).WellFormed :=
    fun _ _ wellFormed allowed => apply_wellFormed game wellFormed allowed
  exact System.run_invariant_of_legal step (.createItem created) legal

theorem run_id (game : Game) (ops : List AttrOp) (start : Item) :
    ((setters game).run start ops).id = start.id := by
  induction ops generalizing start with
  | nil => rfl
  | cons op ops ih =>
    rw [System.run_cons, ih]
    cases op <;> simp only [setters, AttrOp.apply, Item.setSubType, Item.setStrAttr] <;>
      first | rfl | (split_ifs <;> rfl)

end Otserv.Items
