import Otserv.Items.AttributeLists
import Otserv.Items.StoredItems

/-!
# Equal items

In every run the lists of attributes are well kept (`sound_run`), and so two items are equal
exactly if the comparison sees the same of each attribute (`equals_iff_seen`). It sees numbers and
texts as they are, but of a map of custom attributes only its address. Two items never share a
map, and so items of the same content are equal if and only if they are one item or have no
custom attributes (`equals_sameContent_iff`).
-/

namespace Otserv.Items

open Otserv.Foundation

/-! ## What the comparison sees -/

/-- What is compared of a value: its text, or the union read as a number. -/
def seen (type : AttrType) (value : AttrValue) : Datum :=
  if type.isStrAttrType then .text value.deref else .integer value.asInteger

variable {memory : Memory} {value other : AttrValue} {type : AttrType}

theorem sameValue_iff :
    StoredItem.sameValue type value other = true ↔ seen type value = seen type other := by
  rw [StoredItem.sameValue, seen, seen]
  split <;> simp

variable {first second : ItemAttributes}

theorem bits_eq_iff (kept : WellKept first)
    (keptToo : WellKept second) : first.attributeBits = second.attributeBits ↔
      ∀ type, type ∈ first.types ↔ type ∈ second.types := by
  constructor
  · intro same type
    rw [← kept.hasAttribute_iff, ← keptToo.hasAttribute_iff, ItemAttributes.hasAttribute,
      ItemAttributes.hasAttribute, same]
  · intro same
    refine BitVec.eq_of_getLsbD_eq fun i _ => ?_
    rw [Bool.eq_iff_iff, kept.bits, keptToo.bits]
    simp only [same]

/-- The comparison of two lists of attributes. -/
def sameLists (first second : ItemAttributes) : Bool :=
  if first.attributeBits ≠ second.attributeBits then false
  else first.attributes.all fun attr => second.attributes.all fun otherAttr =>
    !(attr.type = otherAttr.type && !StoredItem.sameValue attr.type attr.value otherAttr.value)

theorem sameLists_iff (kept : WellKept first)
    (keptToo : WellKept second) : sameLists first second = true ↔
      ∀ type, (first.find? type).map (seen type) = (second.find? type).map (seen type) := by
  have unfolded : sameLists first second = true ↔
      first.attributeBits = second.attributeBits ∧
        ∀ attr ∈ first.attributes, ∀ other ∈ second.attributes, attr.type = other.type →
          seen attr.type attr.value = seen attr.type other.value := by
    rw [sameLists]
    by_cases same : first.attributeBits = second.attributeBits
    · rw [if_neg (not_not.mpr same)]
      simp only [List.all_eq_true, Bool.not_eq_true', Bool.and_eq_false_iff,
        decide_eq_false_iff_not, Bool.not_eq_false', sameValue_iff, same, true_and,
        imp_iff_not_or]
    · simp [same]
  rw [unfolded, bits_eq_iff kept keptToo]
  constructor
  · rintro ⟨types, values⟩ type
    have sameSome := types type
    rw [← WellKept.find?_isSome, ← WellKept.find?_isSome] at sameSome
    cases found : first.find? type with
    | none =>
      rw [found] at sameSome
      have none : second.find? type = none :=
        Option.not_isSome_iff_eq_none.mp fun has => absurd (sameSome.mpr has) (by simp)
      rw [none]
    | some value =>
      rw [found] at sameSome
      obtain ⟨other, isOther⟩ := Option.isSome_iff_exists.mp (sameSome.mp rfl)
      obtain ⟨attr, member, rfl, rfl⟩ := kept.find?_eq_some.mp found
      obtain ⟨otherAttr, memberToo, isType, rfl⟩ := keptToo.find?_eq_some.mp isOther
      rw [isOther]
      exact congrArg some (values attr member otherAttr memberToo isType.symm)
  · intro same
    refine ⟨fun type => ?_, fun attr member other memberToo isType => ?_⟩
    · have sameSome := congrArg Option.isSome (same type)
      rw [Option.isSome_map, Option.isSome_map] at sameSome
      rw [← WellKept.find?_isSome, ← WellKept.find?_isSome, sameSome]
    · have both := same attr.type
      rw [kept.find?_eq_some.mpr ⟨attr, member, rfl, rfl⟩,
        keptToo.find?_eq_some.mpr ⟨other, memberToo, isType.symm, rfl⟩] at both
      exact Option.some.inj both

namespace StoredItem

/-- The list of attributes of the item is well kept. -/
abbrev Kept (item : StoredItem) : Prop := WellKept item.getAttributes

/-- A list that was not allocated yet is as good as an empty one. -/
theorem equals_eq (item other : StoredItem) : item.equals other =
    (item.id = other.id && sameLists item.getAttributes other.getAttributes) := by
  rw [equals]
  by_cases same : item.id = other.id
  · rw [if_neg (not_not.mpr same)]
    simp only [same, decide_true, Bool.true_and]
    rw [getAttributes, getAttributes]
    cases item.attributes with
    | none =>
      cases other.attributes with
      | none => rfl
      | some list =>
        simp only [Option.getD_none, Option.getD_some, sameLists, List.all_nil]
        by_cases clear : list.attributeBits = 0#64
        · simp [clear]
        · simp [clear, Ne.symm clear]
    | some list =>
      cases other.attributes with
      | none =>
        simp only [Option.getD_none, Option.getD_some, sameLists, List.all_nil]
        by_cases clear : list.attributeBits = 0#64
        · simp [clear]
        · simp [clear]
      | some others => rfl
  · simp [same]

theorem equals_iff_seen {item other : StoredItem} (kept : item.Kept) (keptToo : other.Kept) :
    item.equals other = true ↔ item.id = other.id ∧ ∀ type,
      (item.getAttributes.find? type).map (seen type) =
        (other.getAttributes.find? type).map (seen type) := by
  rw [equals_eq, Bool.and_eq_true, decide_eq_true_eq, sameLists_iff kept keptToo]

end StoredItem

/-! ## Equal content -/

/-- The values are the same, and maps under each key. -/
def Datum.Same : Datum → Datum → Prop
  | .integer first, .integer second => first = second
  | .text first, .text second => first = second
  | .map first, .map second => ∀ key, first.lookup key = second.lookup key
  | _, _ => False

namespace StoredItem

variable (item : StoredItem)

def contents (type : AttrType) : Option Datum :=
  item.getAttributes.contents type

/-- The items are of one type and carry the same attributes with the same values. -/
def SameContent (item other : StoredItem) : Prop :=
  item.id = other.id ∧ ∀ type, Option.Rel Datum.Same (item.contents type) (other.contents type)

/-- The item has a map of custom attributes, and be it empty. -/
def HasCustom : Prop := (item.contents .custom).isSome = true

theorem SameContent.refl : item.SameContent item := by
  refine ⟨rfl, fun type => ?_⟩
  cases item.contents type with
  | none => exact .none
  | some datum => cases datum <;> exact .some (by simp [Datum.Same])

end StoredItem

theorem same_iff_seen (plain : type ≠ .custom)
    (fits : value.Fits type) (fitsToo : other.Fits type) :
    Datum.Same value.datum other.datum ↔ seen type value = seen type other := by
  rw [seen, seen, AttrType.isStrAttrType_eq]
  cases type with
  | int type =>
    cases value with
    | integer value =>
      cases other with
      | integer other => simp [Datum.Same, AttrValue.datum, AttrValue.asInteger]
      | string address text => cases fitsToo
      | custom address map => cases fitsToo
    | string address text => cases fits
    | custom address map => cases fits
  | str type =>
    cases value with
    | string address text =>
      cases other with
      | string address text => simp [Datum.Same, AttrValue.datum, AttrValue.deref]
      | integer other => cases fitsToo
      | custom address map => cases fitsToo
    | integer value => cases fits
    | custom address map => cases fits
  | custom => exact absurd rfl plain

theorem address_of_seen (fits : value.Fits .custom)
    (fitsToo : other.Fits .custom) (same : seen .custom value = seen .custom other) :
    ∃ address, value.address? = some address ∧ other.address? = some address := by
  rw [seen, seen, AttrType.isStrAttrType_eq] at same
  cases value with
  | custom address map =>
    cases other with
    | custom otherAddress otherMap =>
      refine ⟨address, rfl, ?_⟩
      simp only [Bool.false_eq_true, if_false, AttrValue.asInteger, Datum.integer.injEq] at same
      rw [AttrValue.address?, ← UInt64.toUInt64_toInt64 address, same,
        UInt64.toUInt64_toInt64]
    | integer other => cases fitsToo
    | string address text => cases fitsToo
  | integer value => cases fits
  | string address text => cases fits

/-- What is copied is the same but for the addresses. -/
theorem copy_datum {attr : Attribute} (fits : attr.Fits) (places : Places) :
    (attr.copy places).value.datum = attr.value.datum := by
  obtain ⟨type, value⟩ := attr
  cases type with
  | int type =>
    cases value with
    | integer value => simp [Attribute.copy, AttrValue.asInteger]
    | string address text => cases fits
    | custom address map => cases fits
  | str type =>
    cases value with
    | string address text => simp [Attribute.copy, AttrValue.deref, AttrValue.datum]
    | integer value => cases fits
    | custom address map => cases fits
  | custom =>
    cases value with
    | custom address map => simp [Attribute.copy, AttrValue.derefCustom, AttrValue.datum]
    | integer value => cases fits
    | string address text => cases fits

/-! ## The items of a run -/

namespace StoredItem

variable {item : StoredItem} (places : Places) (grows : Bool) (game : Game)

theorem contents_copy (kept : item.Kept) (type : AttrType) :
    (item.copy places).contents type = item.contents type := by
  rw [contents, contents, getAttributes, getAttributes, copy]
  cases isList : item.attributes with
  | none => rfl
  | some list =>
    have fits : ∀ attr ∈ list.attributes, attr.Fits := by
      intro attr member
      apply kept.fits
      rwa [getAttributes, isList]
    simp only [Option.map_some, Option.getD_some, ItemAttributes.contents,
      ItemAttributes.find?, ItemAttributes.copy, List.find?_map, Option.map_map]
    cases found : list.attributes.find? (·.type = type) with
    | none => exact congrArg (Option.map _) found
    | some attr =>
      refine (congrArg (Option.map _) found).trans ?_
      exact congrArg some (copy_datum (fits attr (List.mem_of_find?_eq_some found)) places)

theorem Kept.onList {change : ItemAttributes → ItemAttributes} (kept : item.Kept)
    (keeps : ∀ list, WellKept list → WellKept (change list)) :
    Kept { item with attributes := item.attributes.map change } := by
  rw [Kept, getAttributes] at kept ⊢
  cases isList : item.attributes with
  | none => exact .empty
  | some list =>
    rw [isList] at kept
    exact keeps list kept

theorem Kept.setIntAttr (kept : item.Kept) (type : AttrType) (value : Int64) :
    (item.setIntAttr places grows type value).Kept :=
  WellKept.setIntAttr places grows kept type value

theorem Kept.setStrAttr (kept : item.Kept) (type : AttrType) (value : List UInt8) :
    (item.setStrAttr places grows type value).Kept :=
  WellKept.setStrAttr places grows kept type value

theorem kept_new (type count : UInt16) : (new places grows game type count).Kept := by
  have bare : Kept { id := type } := .empty
  have duration {item : StoredItem} (kept : item.Kept) :
      (setDefaultDuration places grows game item).Kept := by
    unfold setDefaultDuration
    dsimp only
    split
    · exact kept.setIntAttr ..
    · exact kept
  apply duration
  split
  · exact bare.setIntAttr ..
  · split
    · split
      · exact .empty
      · split
        · exact .empty
        · exact bare
    · split
      · split
        · exact bare.setIntAttr ..
        · exact bare.setIntAttr ..
      · exact bare

theorem kept_createItem {type count : UInt16} {created : StoredItem}
    (isCreated : createItem places grows game type count = some created) : created.Kept := by
  obtain ⟨⟨id, n, bed⟩, -, rfl⟩ := Option.map_eq_some_iff.mp isCreated
  dsimp only
  split
  · exact (kept_new places grows game id n).setStrAttr ..
  · exact kept_new places grows game id n

theorem Kept.clone {cloned : StoredItem} (kept : item.Kept)
    (isCloned : item.clone places grows game = some cloned) : cloned.Kept := by
  obtain ⟨created, isCreated, rfl⟩ := Option.map_eq_some_iff.mp isCloned
  cases isList : item.attributes with
  | none => exact kept_createItem places grows game isCreated
  | some list =>
    rw [Kept, getAttributes, isList] at kept
    have copied : Kept { created with attributes := some (list.copy places) } :=
      .copy places kept
    dsimp only
    split
    · exact copied.setIntAttr ..
    · exact copied

end StoredItem

/-- The lists of attributes are well kept. -/
def Memory.Kept (memory : Memory) : Prop := ∀ pointer item, memory pointer = some item → item.Kept

variable {game : Game}

theorem kept_result (kept : memory.Kept) {step : ItemStep} {item : StoredItem}
    (result : step.result game memory = some item) : item.Kept := by
  obtain ⟨op, places, grows⟩ := step
  cases op with
  | createItem pointer type count => exact StoredItem.kept_createItem places grows game result
  | setIntAttr pointer type value =>
    obtain ⟨before, at_, rfl⟩ := Option.map_eq_some_iff.mp result
    exact (kept pointer before at_).setIntAttr places grows type value
  | increaseIntAttr pointer type value =>
    obtain ⟨before, at_, rfl⟩ := Option.map_eq_some_iff.mp result
    exact (kept pointer before at_).increaseIntAttr places grows type value
  | setStrAttr pointer type value =>
    obtain ⟨before, at_, rfl⟩ := Option.map_eq_some_iff.mp result
    exact (kept pointer before at_).setStrAttr places grows type value
  | removeAttribute pointer type =>
    obtain ⟨before, at_, rfl⟩ := Option.map_eq_some_iff.mp result
    exact (kept pointer before at_).onList fun list kept => kept.removeAttribute places type
  | setCustomAttribute pointer key value =>
    obtain ⟨before, at_, rfl⟩ := Option.map_eq_some_iff.mp result
    exact (kept pointer before at_).setCustomAttribute places grows key value
  | removeCustomAttribute pointer key =>
    obtain ⟨before, at_, rfl⟩ := Option.map_eq_some_iff.mp result
    exact (kept pointer before at_).onList fun list kept => (kept.removeCustomAttribute key).1
  | copy original pointer =>
    obtain ⟨before, at_, rfl⟩ := Option.map_eq_some_iff.mp result
    exact (kept original before at_).onList fun list kept => kept.copy places
  | clone original pointer =>
    obtain ⟨before, at_, cloned⟩ := Option.bind_eq_some_iff.mp result
    exact (kept original before at_).clone places grows game cloned

theorem step_self (memory : Memory) (step : ItemStep) :
    (memories game).step memory step step.pointer = step.result game memory := by
  change Function.update memory step.pointer (step.result game memory) step.pointer = _
  rw [Function.update_self]

theorem step_of_ne {step : ItemStep} {pointer : Nat} (elsewhere : pointer ≠ step.pointer) :
    (memories game).step memory step pointer = memory pointer :=
  Function.update_of_ne elsewhere ..

/-- Lists stay well kept, and what is owned stays apart. -/
theorem sound_run {run : List ItemStep} (legal : (memories game).Legal (fun _ => none) run) :
    ((memories game).run (fun _ => none) run).Kept ∧
      Allocated ((memories game).run (fun _ => none) run) := by
  have step (memory : Memory) (step : ItemStep) (sound : memory.Kept ∧ Allocated memory)
      (legal : (memories game).legal memory step) :
      ((memories game).step memory step).Kept ∧ Allocated ((memories game).step memory step) := by
    refine ⟨fun pointer item here => ?_, legal.2.2⟩
    by_cases same : pointer = step.pointer
    · subst same
      rw [step_self] at here
      exact kept_result sound.1 here
    · rw [step_of_ne same] at here
      exact sound.1 pointer item here
  refine System.run_invariant_of_legal step ⟨?_, ?_⟩ legal
  · intro pointer item never
    cases never
  · rintro p q type other address ⟨item, never, -⟩
    cases never

theorem WellKept.find?_fits {list : ItemAttributes} (kept : WellKept list)
    {value : AttrValue} (found : list.find? type = some value) : value.Fits type := by
  obtain ⟨attr, member, rfl, rfl⟩ := kept.find?_eq_some.mp found
  exact kept.fits attr member

namespace StoredItem

variable {item other : StoredItem}

theorem seen_iff (kept : item.Kept) (keptToo : other.Kept) {type : AttrType}
    (plain : type ≠ .custom) :
    (item.getAttributes.find? type).map (seen type) =
        (other.getAttributes.find? type).map (seen type) ↔
      Option.Rel Datum.Same (item.contents type) (other.contents type) := by
  rw [contents, contents, ItemAttributes.contents, ItemAttributes.contents]
  cases found : item.getAttributes.find? type with
  | none =>
    cases foundToo : other.getAttributes.find? type with
    | none => simp
    | some second => simp
  | some first =>
    cases foundToo : other.getAttributes.find? type with
    | none => simp
    | some second =>
      have same := same_iff_seen plain (kept.find?_fits found) (keptToo.find?_fits foundToo)
      simp [same]

theorem hasCustom_iff : item.HasCustom ↔ ∃ value, item.getAttributes.find? .custom = some value := by
  rw [HasCustom, contents, ItemAttributes.contents, Option.isSome_map, Option.isSome_iff_exists]

theorem shared_of_equals (kept : item.Kept) (keptToo : other.Kept) {memory : Memory} {p q : Nat}
    (here : memory p = some item) (there : memory q = some other)
    (equal : item.equals other = true) (has : item.HasCustom) :
    ∃ address, Owns memory p .custom address ∧ Owns memory q .custom address := by
  have same := ((equals_iff_seen kept keptToo).mp equal).2 .custom
  obtain ⟨first, found⟩ := hasCustom_iff.mp has
  rw [found] at same
  obtain ⟨second, foundToo, seen⟩ := Option.map_eq_some_iff.mp same.symm
  obtain ⟨address, isFirst, isSecond⟩ :=
    address_of_seen (kept.find?_fits found) (keptToo.find?_fits foundToo) seen.symm
  obtain ⟨attr, member, isType, rfl⟩ := kept.find?_eq_some.mp found
  obtain ⟨otherAttr, memberToo, isTypeToo, rfl⟩ := keptToo.find?_eq_some.mp foundToo
  exact ⟨address, ⟨item, here, attr, member, isType, isFirst⟩,
    ⟨other, there, otherAttr, memberToo, isTypeToo, isSecond⟩⟩

end StoredItem

/-- **Equal content.** Items are equal if they have the same content, and are one item or have
no custom attributes. -/
theorem equals_iff (kept : memory.Kept) (allocated : Allocated memory)
    {p q : Nat} {item other : StoredItem} (here : memory p = some item)
    (there : memory q = some other) :
    item.equals other = true ↔ item.SameContent other ∧ (p = q ∨ ¬item.HasCustom) := by
  have keptItem := kept p item here
  have keptOther := kept q other there
  constructor
  · intro equal
    have apart : p = q ∨ ¬item.HasCustom := by
      by_cases has : item.HasCustom
      · obtain ⟨address, mine, its⟩ :=
          StoredItem.shared_of_equals keptItem keptOther here there equal has
        exact .inl (allocated p q _ _ address mine its).1
      · exact .inr has
    refine ⟨?_, apart⟩
    rcases apart with rfl | bare
    · obtain rfl := Option.some.inj (here.symm.trans there)
      exact .refl item
    · obtain ⟨sameId, same⟩ := (StoredItem.equals_iff_seen keptItem keptOther).mp equal
      refine ⟨sameId, fun type => ?_⟩
      by_cases plain : type = .custom
      · subst plain
        have none : item.getAttributes.find? .custom = none :=
          Option.eq_none_iff_forall_ne_some.mpr fun value found =>
            bare (StoredItem.hasCustom_iff.mpr ⟨value, found⟩)
        have noneToo := same .custom
        rw [none] at noneToo
        rw [StoredItem.contents, StoredItem.contents, ItemAttributes.contents,
          ItemAttributes.contents, none, Option.map_eq_none_iff.mp noneToo.symm]
        exact .none
      · exact (StoredItem.seen_iff keptItem keptOther plain).mp (same type)
  · rintro ⟨⟨sameId, same⟩, rfl | bare⟩
    · obtain rfl := Option.some.inj (here.symm.trans there)
      exact (StoredItem.equals_iff_seen keptItem keptItem).mpr ⟨rfl, fun _ => rfl⟩
    · refine (StoredItem.equals_iff_seen keptItem keptOther).mpr ⟨sameId, fun type => ?_⟩
      by_cases plain : type = .custom
      · subst plain
        have rel := same .custom
        have none : item.contents .custom = none := Option.not_isSome_iff_eq_none.mp bare
        rw [none] at rel
        cases isOther : other.contents .custom with
        | none =>
          rw [Option.map_eq_none_iff.mp none, Option.map_eq_none_iff.mp isOther]
        | some datum =>
          rw [isOther] at rel
          cases rel
      · exact (StoredItem.seen_iff keptItem keptOther plain).mpr (same type)

/-- **`Item::equals` and content.** Of items that a run leads to it compares the content, unless
two of them have custom attributes and the same content, which it then denies. It is symmetric
and transitive, and a copy has the content of its original. -/
theorem equals_sameContent_iff {run : List ItemStep}
    (legal : (memories game).Legal (fun _ => none) run) {p q : Nat} {item other : StoredItem}
    (here : (memories game).run (fun _ => none) run p = some item)
    (there : (memories game).run (fun _ => none) run q = some other) :
    ((item.equals other = true ↔ item.SameContent other) ↔
        p = q ∨ ¬item.HasCustom ∨ ¬item.SameContent other) ∧
      item.equals other = other.equals item ∧
      (∀ r third, (memories game).run (fun _ => none) run r = some third →
        item.equals other = true → other.equals third = true → item.equals third = true) ∧
      ∀ places, item.SameContent (item.copy places) := by
  obtain ⟨kept, allocated⟩ := sound_run legal
  have keptItem := kept p item here
  have keptOther := kept q other there
  refine ⟨?_, ?_, fun r third found => ?_, fun places => ⟨rfl, fun type => ?_⟩⟩
  · rw [equals_iff kept allocated here there]
    tauto
  · rw [Bool.eq_iff_iff, StoredItem.equals_iff_seen keptItem keptOther,
      StoredItem.equals_iff_seen keptOther keptItem]
    constructor
    · exact fun ⟨sameId, same⟩ => ⟨sameId.symm, fun type => (same type).symm⟩
    · exact fun ⟨sameId, same⟩ => ⟨sameId.symm, fun type => (same type).symm⟩
  · have keptThird := kept r third found
    rw [StoredItem.equals_iff_seen keptItem keptOther,
      StoredItem.equals_iff_seen keptOther keptThird,
      StoredItem.equals_iff_seen keptItem keptThird]
    rintro ⟨sameId, same⟩ ⟨sameIdToo, sameToo⟩
    exact ⟨sameId.trans sameIdToo, fun type => (same type).trans (sameToo type)⟩
  · rw [StoredItem.contents_copy places keptItem]
    exact (StoredItem.SameContent.refl item).2 type

/-! ## Two items with the same custom attribute -/

namespace Marked

/-- Any item is stackable. -/
def coins : Game where
  items := fun id => { id := id, stackable := true }
  uniqueItems := fun _ => false

/-- The map comes to lie at the address. -/
def step (op : ItemOp) (address : UInt64) : ItemStep where
  op := op
  places := fun _ => address
  grows := false

/-- An item is created and gets a custom attribute, and then it is copied. -/
def run : List ItemStep :=
  [step (.createItem 1 2148 1) 0, step (.setCustomAttribute 1 [] (.boolean true)) 1,
    step (.copy 1 2) 2]

/-- The coin, whose map lies at the address. -/
def coin (address : UInt64) : StoredItem where
  id := 2148
  attributes := some
    { attributes := [{ type := .custom, value := .custom address [([], .boolean true)] }]
      attributeBits := AttrType.value .custom }

theorem allocated {memory : Memory}
    (coins : ∀ pointer item, memory pointer = some item →
      item.attributes = none ∨ item = coin (.ofNat pointer) ∧ pointer ≤ 2) :
    Allocated memory := by
  have owned {p : Nat} {type : AttrType} {address : UInt64} (owns : Owns memory p type address) :
      type = .custom ∧ p = address.toNat := by
    obtain ⟨item, here, attr, member, rfl, isAddress⟩ := owns
    rcases coins p item here with bare | ⟨rfl, small⟩
    · rw [StoredItem.getAttributes, bare] at member
      cases member
    · obtain rfl := List.mem_singleton.mp member
      refine ⟨rfl, ?_⟩
      rw [← Option.some.inj isAddress, UInt64.toNat_ofNat']
      omega
  intro p q type other address mine its
  exact ⟨(owned mine).2.trans (owned its).2.symm, (owned mine).1.trans (owned its).1.symm⟩

theorem legal : (memories coins).Legal (fun _ => none) run := by
  refine ⟨⟨fun _ => rfl, rfl, ?_⟩, ⟨nofun, rfl, ?_⟩, ⟨fun _ => rfl, rfl, ?_⟩, trivial⟩
  · refine allocated fun pointer item here => ?_
    by_cases first : pointer = 1
    · subst first
      obtain rfl := Option.some.inj here
      exact .inl rfl
    · rw [Function.update_of_ne] at here
      · cases here
      · exact first
  · refine allocated fun pointer item here => ?_
    by_cases first : pointer = 1
    · subst first
      obtain rfl := Option.some.inj here
      exact .inr ⟨rfl, by decide⟩
    · rw [Function.update_of_ne, step_of_ne] at here
      · cases here
      · exact first
      · exact first
  · refine allocated fun pointer item here => ?_
    by_cases second : pointer = 2
    · subst second
      obtain rfl := Option.some.inj here
      exact .inr ⟨rfl, by decide⟩
    by_cases first : pointer = 1
    · subst first
      obtain rfl := Option.some.inj here
      exact .inr ⟨rfl, by decide⟩
    · rw [Function.update_of_ne, step_of_ne, step_of_ne] at here
      · cases here
      · exact first
      · exact first
      · exact second

end Marked

theorem equals_sameContent_iff_coin :
    ((Marked.coin 1).equals (Marked.coin 1) = true ↔
      (Marked.coin 1).SameContent (Marked.coin 1)) :=
  (equals_sameContent_iff Marked.legal (p := 1) (q := 1) rfl rfl).1.mpr (.inl rfl)

/-- The coin and its copy have the same custom attribute, and are not equal. -/
theorem not_equals_sameContent :
    ¬∀ (game : Game) (run : List ItemStep), (memories game).Legal (fun _ => none) run →
      ∀ p q item other, (memories game).run (fun _ => none) run p = some item →
        (memories game).run (fun _ => none) run q = some other →
          (item.equals other = true ↔ item.SameContent other) := by
  intro always
  have same : (Marked.coin 1).SameContent (Marked.coin 2) := by
    refine ⟨rfl, fun type => ?_⟩
    cases type with
    | int type => exact .none
    | str type => exact .none
    | custom => exact .some fun _ => rfl
  have equal := (always Marked.coins Marked.run Marked.legal 1 2 _ _ rfl rfl).mpr same
  exact absurd equal (by decide)

end Otserv.Items
