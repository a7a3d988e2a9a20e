import Otserv.Items.Attributes

/-!
# Well-kept lists of attributes

A list of attributes has at most one of each type, with a value of its kind, and the mask has its
bit (`WellKept`). What it holds, without the addresses (`contents`), is then a function of the
type. Every operation keeps that.
-/

namespace Otserv.Items

/-- A value without its address. -/
inductive Datum where
  | integer (value : Int64)
  | text (text : List UInt8)
  | map (map : CustomAttributeMap)

def AttrValue.datum : AttrValue → Datum
  | .integer value => .integer value
  | .string _ text => .text text
  | .custom _ map => .map map

/-- The value is of the kind of the type. -/
def AttrValue.Fits : AttrValue → AttrType → Prop
  | .integer _, .int _ => True
  | .string _ _, .str _ => True
  | .custom _ _, .custom => True
  | _, _ => False

def Attribute.Fits (attr : Attribute) : Prop := attr.value.Fits attr.type

/-- What is copied is of its kind. -/
theorem Attribute.copy_fits (attr : Attribute) (places : Places) : (attr.copy places).Fits := by
  obtain ⟨type, value⟩ := attr
  cases type <;> simp [Attribute.Fits, Attribute.copy, AttrValue.Fits]

theorem AttrValue.Fits.onMap {value : AttrValue} {type : AttrType} (fits : value.Fits type)
    (change : CustomAttributeMap → CustomAttributeMap) : (value.onMap change).Fits type := by
  cases value with
  | integer value => exact fits
  | string address text => exact fits
  | custom address map =>
    cases type with
    | int type => cases fits
    | str type => cases fits
    | custom => trivial

namespace ItemAttributes

variable (list : ItemAttributes) (type : AttrType)

/-- The types of the attributes, in their order. -/
def types : List AttrType := list.attributes.map Attribute.type

/-- The value of the first attribute of the type. -/
def find? : Option AttrValue := (list.attributes.find? (·.type = type)).map (·.value)

/-- What the list holds of a type. -/
def contents : Option Datum := (list.find? type).map AttrValue.datum

end ItemAttributes

/-- The attributes have different types and values of their kinds, and the mask has their
bits. -/
structure WellKept (list : ItemAttributes) : Prop where
  nodup : list.types.Nodup
  fits : ∀ attr ∈ list.attributes, attr.Fits
  bits : ∀ i, list.attributeBits.getLsbD i = true ↔ ∃ type ∈ list.types, type.bit = i

theorem getLsbD_value (type : AttrType) (i : Nat) : type.value.getLsbD i = true ↔ type.bit = i := by
  rw [AttrType.value, BitVec.getLsbD_twoPow]
  simp [type.bit_lt]

theorem WellKept.empty : WellKept {} := by
  refine ⟨List.nodup_nil, fun attr never => absurd never List.not_mem_nil, fun i => ?_⟩
  simp [ItemAttributes.types]

namespace WellKept

variable {list after : ItemAttributes} {type : AttrType}

theorem hasAttribute_iff (kept : WellKept list) :
    list.hasAttribute type = true ↔ type ∈ list.types := by
  have bit : list.attributeBits.getLsbD type.bit = true ↔ type ∈ list.types := by
    rw [kept.bits]
    constructor
    · rintro ⟨other, member, same⟩
      exact AttrType.bit_inj.mp same ▸ member
    · exact fun member => ⟨type, member, rfl⟩
  rw [← bit, ItemAttributes.hasAttribute, decide_eq_true_eq, AttrType.value, BitVec.twoPow_and]
  split
  next set =>
    refine ⟨fun _ => set, fun _ zero => ?_⟩
    have same := congrArg (BitVec.getLsbD · type.bit) zero
    simp [type.bit_lt] at same
  next clear => exact ⟨fun never => absurd rfl never, fun set => absurd set clear⟩

/-- An attribute is found by its type. -/
theorem find?_eq_some (kept : WellKept list) {value : AttrValue} :
    list.find? type = some value ↔
      ∃ attr ∈ list.attributes, attr.type = type ∧ attr.value = value := by
  rw [ItemAttributes.find?, Option.map_eq_some_iff]
  constructor
  · rintro ⟨attr, found, isValue⟩
    exact ⟨attr, List.mem_of_find?_eq_some found, by simpa using List.find?_some found, isValue⟩
  · rintro ⟨attr, member, isType, isValue⟩
    refine ⟨attr, ?_, isValue⟩
    cases found : list.attributes.find? (·.type = type) with
    | none =>
      have never := List.find?_eq_none.mp found attr member
      simp [isType] at never
    | some other =>
      have sameType : other.type = type := by simpa using List.find?_some found
      rw [List.inj_on_of_nodup_map kept.nodup (List.mem_of_find?_eq_some found) member
        (sameType.trans isType.symm)]

theorem find?_isSome : (list.find? type).isSome = true ↔ type ∈ list.types := by
  simp [ItemAttributes.find?, ItemAttributes.types]

/-! ## What the operations keep -/

theorem set (kept : WellKept list) (nodup : after.types.Nodup)
    (fits : ∀ attr ∈ after.attributes, attr.Fits)
    (types : ∀ other, other ∈ after.types ↔ other ∈ list.types ∨ other = type)
    (bits : after.attributeBits = list.attributeBits ||| type.value) : WellKept after := by
  refine ⟨nodup, fits, fun i => ?_⟩
  rw [bits, BitVec.getLsbD_or, Bool.or_eq_true, kept.bits, getLsbD_value]
  simp only [types, or_and_right, exists_or, exists_eq_left]

theorem clear (kept : WellKept list) (nodup : after.types.Nodup)
    (fits : ∀ attr ∈ after.attributes, attr.Fits)
    (types : ∀ other, other ∈ after.types ↔ other ∈ list.types ∧ other ≠ type)
    (bits : after.attributeBits = list.attributeBits &&& ~~~type.value) : WellKept after := by
  refine ⟨nodup, fits, fun i => ?_⟩
  rw [bits, BitVec.getLsbD_and, Bool.and_eq_true, kept.bits, BitVec.getLsbD_not,
    Bool.and_eq_true, decide_eq_true_eq, Bool.not_eq_true', Bool.eq_false_iff, Ne, getLsbD_value]
  simp only [types]
  constructor
  · rintro ⟨⟨other, member, here⟩, -, differs⟩
    exact ⟨other, ⟨member, fun same => differs (same ▸ here)⟩, here⟩
  · rintro ⟨other, ⟨member, differs⟩, here⟩
    exact ⟨⟨other, member, here⟩, here ▸ other.bit_lt,
      fun same => differs (AttrType.bit_inj.mp (here.trans same.symm))⟩

theorem congr (kept : WellKept list) (types : after.types = list.types)
    (fits : ∀ attr ∈ after.attributes, attr.Fits)
    (bits : after.attributeBits = list.attributeBits) : WellKept after :=
  ⟨types ▸ kept.nodup, fits, fun i => by rw [bits, types]; exact kept.bits i⟩

end WellKept

/-- Attributes have different types, so only one is changed. -/
theorem updateFirst_eq {list : List Attribute} {type : AttrType} {change : Attribute → Attribute}
    (nodup : (list.map Attribute.type).Nodup) (has : type ∈ list.map Attribute.type) :
    ItemAttributes.updateFirst type change list =
      some (list.map fun attr => if attr.type = type then change attr else attr) := by
  induction list with
  | nil => cases has
  | cons first rest ih =>
    rw [List.map_cons, List.nodup_cons] at nodup
    rw [ItemAttributes.updateFirst]
    split
    next here =>
      have others :
          rest.map (fun attr => if attr.type = type then change attr else attr) = rest := by
        refine (List.map_congr_left fun attr member => if_neg fun same => ?_).trans rest.map_id
        exact nodup.1 (here ▸ same ▸ List.mem_map_of_mem member)
      rw [List.map_cons, others, if_pos here]
    next elsewhere =>
      have later := (List.mem_cons.mp has).resolve_left (Ne.symm elsewhere)
      rw [ih nodup.2 later, List.map_cons, if_neg elsewhere]
      rfl

namespace WellKept

variable {list : ItemAttributes} {type : AttrType} (places : Places) (grows : Bool)

section

variable (kept : WellKept list)
include kept

/-- A value of its kind is put in the place of another. -/
theorem assign {value : AttrValue → AttrValue} (has : type ∈ list.types)
    (fits : ∀ before, before.Fits type → (value before).Fits type) :
    ∃ attributes, ItemAttributes.updateFirst type (ItemAttributes.assign value) list.attributes =
        some attributes ∧ WellKept { list with attributes := attributes } ∧
          attributes.map Attribute.type = list.types := by
  have same : (list.attributes.map fun attr =>
      if attr.type = type then ItemAttributes.assign value attr else attr).map Attribute.type =
        list.types := by
    rw [ItemAttributes.types, List.map_map]
    refine List.map_congr_left fun attr _ => ?_
    rw [Function.comp_apply]
    split <;> rfl
  refine ⟨_, updateFirst_eq kept.nodup has, kept.congr same (fun after member => ?_) rfl, same⟩
  obtain ⟨attr, original, rfl⟩ := List.mem_map.mp member
  split
  next here =>
    subst here
    exact fits attr.value (kept.fits attr original)
  next => exact kept.fits attr original

theorem getAttr (type : AttrType) (value : AttrValue → AttrValue)
    (fits : ∀ before, (value before).Fits type) :
    WellKept (list.getAttr places grows type value) := by
  rw [ItemAttributes.getAttr]
  by_cases has : type ∈ list.types
  · obtain ⟨attributes, assigned, after, -⟩ := kept.assign has fun before _ => fits before
    rw [if_pos (kept.hasAttribute_iff.mpr has), assigned]
    exact after
  · rw [if_neg fun set => has (kept.hasAttribute_iff.mp set)]
    have copied : (if grows = true then list.attributes.map (.copy places)
        else list.attributes).map Attribute.type = list.types := by
      split
      · exact List.map_map
      · rfl
    refine kept.set ?_ (fun attr member => ?_) (fun other => ?_) rfl
    · rw [ItemAttributes.types, List.map_append, copied]
      refine List.nodup_append.mpr ⟨kept.nodup, List.nodup_singleton _, ?_⟩
      rintro other member _ new rfl
      obtain rfl := List.mem_singleton.mp new
      exact has member
    · rcases List.mem_append.mp member with old | new
      · split at old
        · obtain ⟨original, -, rfl⟩ := List.mem_map.mp old
          exact original.copy_fits places
        · exact kept.fits attr old
      · exact List.mem_singleton.mp new ▸ fits _
    · rw [ItemAttributes.types, List.map_append, copied, List.mem_append]
      exact or_congr_right List.mem_singleton

theorem removeAttribute (type : AttrType) : WellKept (list.removeAttribute places type) := by
  rw [ItemAttributes.removeAttribute]
  by_cases has : type ∈ list.types
  case neg =>
    rw [Bool.eq_false_iff.mpr fun set => has (kept.hasAttribute_iff.mp set)]
    exact kept
  rw [kept.hasAttribute_iff.mpr has]
  simp only [Bool.not_true, Bool.false_eq_true, if_false]
  -- the types in the order from the end
  have whole : list.types.reverse = list.attributes.reverse.map Attribute.type :=
    (List.map_reverse).symm
  have fits : ∀ attr ∈ list.attributes.reverse, attr.Fits :=
    fun attr member => kept.fits attr (List.mem_reverse.mp member)
  have mem_iff (other : AttrType) : other ∈ list.types ↔
      other ∈ list.attributes.reverse.map Attribute.type := by rw [← whole, List.mem_reverse]
  have nodup := whole ▸ List.nodup_reverse.mpr kept.nodup
  have isIn := (mem_iff type).mp has
  cases reversed : list.attributes.reverse with
  | nil =>
    rw [reversed] at isIn
    cases isIn
  | cons last others =>
    rw [reversed, List.map_cons] at nodup isIn
    rw [reversed] at fits
    obtain ⟨fresh, apart⟩ := List.nodup_cons.mp nodup
    simp only [reversed, List.map_cons, List.mem_cons] at mem_iff
    simp only
    by_cases isLast : last.type = type
    · rw [if_pos isLast]
      refine kept.clear ?_ (fun attr member => ?_) (fun other => ?_) rfl
      · rw [ItemAttributes.types, List.map_reverse]
        exact List.nodup_reverse.mpr apart
      · exact fits attr (List.mem_cons_of_mem _ (List.mem_reverse.mp member))
      · rw [ItemAttributes.types, List.map_reverse, List.mem_reverse, mem_iff, ← isLast]
        constructor
        · exact fun member => ⟨.inr member, fun same => fresh (same ▸ member)⟩
        · exact fun both => both.1.resolve_left both.2
    · rw [if_neg isLast]
      have hasOthers := (List.mem_cons.mp isIn).resolve_left (Ne.symm isLast)
      rw [updateFirst_eq apart hasOthers]
      have typesAfter : (others.map fun attr =>
          if attr.type = type then last.copy places else attr).map Attribute.type =
            (others.map Attribute.type).map fun other =>
              if other = type then last.type else other := by
        rw [List.map_map, List.map_map]
        refine List.map_congr_left fun attr _ => ?_
        rw [Function.comp_apply, Function.comp_apply]
        split <;> rfl
      refine kept.clear ?_ (fun attr member => ?_) (fun other => ?_) rfl
      · rw [ItemAttributes.types, List.map_reverse, typesAfter]
        refine List.nodup_reverse.mpr (apart.map_on fun first member second memberToo same => ?_)
        split at same
        · split at same
          · exact ‹first = type›.trans ‹second = type›.symm
          · exact absurd (same ▸ memberToo) fresh
        · split at same
          · exact absurd (same ▸ member) fresh
          · exact same
      · obtain ⟨original, old, rfl⟩ := List.mem_map.mp (List.mem_reverse.mp member)
        split
        · exact last.copy_fits places
        · exact fits original (List.mem_cons_of_mem _ old)
      · rw [ItemAttributes.types, List.map_reverse, List.mem_reverse, typesAfter, mem_iff,
          List.mem_map]
        constructor
        · rintro ⟨before, member, rfl⟩
          split
          · exact ⟨.inl rfl, isLast⟩
          · exact ⟨.inr member, ‹¬before = type›⟩
        · rintro ⟨rfl | member, differs⟩
          · exact ⟨type, hasOthers, if_pos rfl⟩
          · exact ⟨other, member, if_neg differs⟩

theorem onCustom (change : CustomAttributeMap → CustomAttributeMap) (has : .custom ∈ list.types) :
    WellKept (list.onCustom change) ∧ (list.onCustom change).types = list.types := by
  obtain ⟨attributes, assigned, after, same⟩ :=
    kept.assign has fun before fits => fits.onMap change
  rw [ItemAttributes.onCustom, assigned]
  exact ⟨after, same⟩

variable (type : AttrType)

theorem setIntAttr (value : Int64) : WellKept (list.setIntAttr places grows type value) := by
  rw [ItemAttributes.setIntAttr, AttrType.isIntAttrType_eq]
  cases type with
  | int type => exact kept.getAttr places grows _ _ fun _ => trivial
  | str type => exact kept
  | custom => exact kept

theorem increaseIntAttr (value : Int64) :
    WellKept (list.increaseIntAttr places grows type value) := by
  rw [ItemAttributes.increaseIntAttr, AttrType.isIntAttrType_eq]
  cases type with
  | int type => exact kept.getAttr places grows _ _ fun _ => trivial
  | str type => exact kept
  | custom => exact kept

theorem setStrAttr (value : List UInt8) : WellKept (list.setStrAttr places grows type value) := by
  rw [ItemAttributes.setStrAttr, AttrType.isStrAttrType_eq]
  cases type with
  | int type => exact kept
  | str type =>
    cases value with
    | nil => exact kept
    | cons letter value => exact kept.getAttr places grows _ _ fun _ => trivial
  | custom => exact kept

theorem removeCustomAttribute (key : List UInt8) :
    WellKept (list.removeCustomAttribute key) ∧
      (list.removeCustomAttribute key).types = list.types := by
  rw [ItemAttributes.removeCustomAttribute]
  split
  · exact ⟨kept, rfl⟩
  next has =>
    exact kept.onCustom _ (kept.hasAttribute_iff.mp (by simpa using has))

theorem setCustomAttribute (key : List UInt8) (value : CustomAttribute) :
    WellKept (list.setCustomAttribute places grows key value) := by
  rw [ItemAttributes.setCustomAttribute]
  split
  next has =>
    obtain ⟨removed, same⟩ := kept.removeCustomAttribute (lowerCase key)
    exact (removed.onCustom _ (same ▸ kept.hasAttribute_iff.mp has)).1
  next hasNot =>
    have added := kept.getAttr places grows .custom
      (fun _ => .custom (places .custom) []) fun _ => trivial
    refine (added.onCustom _ ?_).1
    rw [ItemAttributes.getAttr, if_neg hasNot, ItemAttributes.types, List.map_append]
    exact List.mem_append_right _ List.mem_cons_self

theorem copy : WellKept (list.copy places) := by
  refine kept.congr (List.map_map) (fun attr member => ?_) rfl
  obtain ⟨original, -, rfl⟩ := List.mem_map.mp member
  exact original.copy_fits places

end

end WellKept

end Otserv.Items
