import Otserv.Items.Restoring

/-!
# Items that come back

An item is written and read into a fresh item of its id. What each attribute of the
fresh item is afterwards follows from the one field that sets it (`Restored`,
`restored`).

An item does not always come back as it was. Charges are written of any type and read
through `setSubType`, which gives them to the count or the fluid of a type that holds
no charges; some numbers are written without a sign and read with one; an action id
below 100 is raised; and a custom attribute without a value cannot be read
(`roundTrips_iff`).
-/

namespace Otserv.Items

open Otserv.Foundation

namespace Item

variable {game : Game} {item onto result : Item}

/-! ## What each field sets -/

section Updates

variable (item onto) (n : UInt16)

@[simp] theorem setSubType_strs : (onto.setSubType game n).strs = onto.strs := by
  simp only [setSubType]
  split_ifs <;> rfl

@[simp] theorem setSubType_custom : (onto.setSubType game n).custom = onto.custom := by
  simp only [setSubType]
  split_ifs <;> rfl

/-- `setSubType` sets the count, the fluid type or the charges. -/
theorem setSubType_ints {type : IntAttr} (notCharges : type ≠ .charges)
    (notFluid : type ≠ .fluidType) : (onto.setSubType game n).ints type = onto.ints type := by
  simp only [setSubType]
  split_ifs <;> simp [setFluidType, setItemCount, setCharges, notCharges, notFluid]

@[simp] theorem restoreCount_frame :
    (item.restoreCount game onto).id = onto.id ∧
      (item.restoreCount game onto).strs = onto.strs ∧
      (item.restoreCount game onto).custom = onto.custom := by
  rw [restoreCount]
  split_ifs <;> simp

theorem restoreCount_ints {type : IntAttr} (notCharges : type ≠ .charges)
    (notFluid : type ≠ .fluidType) : (item.restoreCount game onto).ints type = onto.ints type := by
  rw [restoreCount]
  split_ifs
  · exact setSubType_ints onto _ notCharges notFluid
  · rfl

@[simp] theorem restoreCharges_frame :
    (item.restoreCharges game onto).id = onto.id ∧
      (item.restoreCharges game onto).strs = onto.strs ∧
      (item.restoreCharges game onto).custom = onto.custom := by
  rw [restoreCharges]
  split_ifs <;> simp

theorem restoreCharges_ints {type : IntAttr} (notCharges : type ≠ .charges)
    (notFluid : type ≠ .fluidType) :
    (item.restoreCharges game onto).ints type = onto.ints type := by
  rw [restoreCharges]
  split_ifs
  · exact setSubType_ints onto _ notCharges notFluid
  · rfl

variable (type : IntAttr)

@[simp] theorem restoreActionId_ints :
    (item.restoreActionId game onto).ints type =
      if type = .actionId ∧ (game.items item.id).moveable ∧ item.getActionId ≠ 0 then
        some (max 100 (item.getActionId.toNat : Int))
      else onto.ints type := by
  rw [restoreActionId]
  by_cases written : (game.items item.id).moveable ∧ item.getActionId ≠ 0
  · have raised : (if item.getActionId < 100 then (100 : Int) else item.getActionId.toNat) =
        max 100 (item.getActionId.toNat : Int) := by
      split_ifs with low <;> rw [UInt16.lt_iff_toNat_lt] at low <;>
        simp only [UInt16.reduceToNat] at low <;> omega
    simp [written, setActionId, raised]
  · rw [if_neg written, if_neg fun both => written both.2]

@[simp] theorem restoreActionId_frame :
    (item.restoreActionId game onto).id = onto.id ∧
      (item.restoreActionId game onto).count = onto.count ∧
      (item.restoreActionId game onto).strs = onto.strs ∧
      (item.restoreActionId game onto).custom = onto.custom := by
  rw [restoreActionId]
  split_ifs <;> exact ⟨rfl, rfl, rfl, rfl⟩

@[simp] theorem restoreDate_ints :
    (item.restoreDate onto).ints type =
      if type = .date ∧ item.getDate ≠ 0 then some (item.getDate.bmod (2 ^ 32))
      else onto.ints type := by
  rw [restoreDate]
  by_cases written : item.getDate ≠ 0
  · simp [written]
  · rw [if_neg written, if_neg fun both => written both.2]

@[simp] theorem restoreDate_frame :
    (item.restoreDate onto).id = onto.id ∧ (item.restoreDate onto).count = onto.count ∧
      (item.restoreDate onto).strs = onto.strs ∧
      (item.restoreDate onto).custom = onto.custom := by
  rw [restoreDate]
  split_ifs <;> exact ⟨rfl, rfl, rfl, rfl⟩

@[simp] theorem restoreDecayState_ints :
    (item.restoreDecayState onto).ints type =
      if type = .decayState ∧ item.WritesDecayState then some (DecayState.pending.value.toNat : Int)
      else onto.ints type := by
  rw [restoreDecayState]
  by_cases written : item.WritesDecayState
  · simp [written, setDecaying]
  · rw [if_neg written, if_neg fun both => written both.2]

@[simp] theorem restoreDecayState_frame :
    (item.restoreDecayState onto).id = onto.id ∧
      (item.restoreDecayState onto).count = onto.count ∧
      (item.restoreDecayState onto).strs = onto.strs ∧
      (item.restoreDecayState onto).custom = onto.custom := by
  rw [restoreDecayState]
  split_ifs <;> exact ⟨rfl, rfl, rfl, rfl⟩

@[simp] theorem restoreInt_ints (back : Int → Int) (other : IntAttr) :
    (item.restoreInt type back onto).ints other =
      if other = type then ((item.ints type).map back).or (onto.ints type)
      else onto.ints other := by
  rw [restoreInt]
  cases item.ints type with
  | none =>
    by_cases same : other = type
    · simp [same]
    · simp [same]
  | some value => simp

@[simp] theorem restoreInt_frame (back : Int → Int) :
    (item.restoreInt type back onto).id = onto.id ∧
      (item.restoreInt type back onto).count = onto.count ∧
      (item.restoreInt type back onto).strs = onto.strs ∧
      (item.restoreInt type back onto).custom = onto.custom := by
  rw [restoreInt]
  cases item.ints type <;> exact ⟨rfl, rfl, rfl, rfl⟩

@[simp] theorem restoreStr_strs (type other : StrAttr) :
    (item.restoreStr type onto).strs other =
      if other = type ∧ item.getStrAttr type ≠ [] then some (item.getStrAttr type)
      else onto.strs other :=
  setStrAttr_strs onto type (item.getStrAttr type) other

@[simp] theorem restoreStr_frame (type : StrAttr) :
    (item.restoreStr type onto).id = onto.id ∧ (item.restoreStr type onto).count = onto.count ∧
      (item.restoreStr type onto).ints = onto.ints ∧
      (item.restoreStr type onto).custom = onto.custom := by
  simp [restoreStr]

end Updates

/-! ## What the item holds afterwards -/

/-- How a plain attribute comes back: one that has a field of its own and is set as it
is read. -/
def readBack : IntAttr → Option (Int → Int)
  | .autoOpen | .hitChance => some (signed 1)
  | .duration => some fun value => max 0 (signed 4 value)
  | .weight => some (unsigned 4)
  | .attack | .defense | .extraDefense | .armor | .uniqueItem | .heldX | .heldY | .heldU
  | .decayTo => some (signed 4)
  | .shootRange => some (unsigned 1)
  | .pokemonHolderCreatureId | .blink => some (signed 8)
  | .wrapId => some (unsigned 2)
  | .actionId | .uniqueId | .date | .owner | .decayState | .corpseOwner | .charges | .fluidType
  | .doorId => none

/-- What an item that was written makes of the item it is read into. -/
structure Restored (game : Game) (item onto result : Item) : Prop where
  id : result.id = onto.id
  count : result.count = (item.restoreCharges game (item.restoreCount game onto)).count
  subTypes : ∀ type, type = .charges ∨ type = .fluidType →
    result.ints type = (item.restoreCharges game (item.restoreCount game onto)).ints type
  actionId : result.ints .actionId =
    if (game.items item.id).moveable ∧ item.getActionId ≠ 0 then
      some (max 100 (item.getActionId.toNat : Int))
    else onto.ints .actionId
  date : result.ints .date =
    if item.getDate ≠ 0 then some (item.getDate.bmod (2 ^ 32)) else onto.ints .date
  decayState : result.ints .decayState =
    if item.WritesDecayState then some (DecayState.pending.value.toNat : Int)
    else onto.ints .decayState
  ints : ∀ type back, readBack type = some back →
    result.ints type = ((item.ints type).map back).or (onto.ints type)
  strs : ∀ type, result.strs type =
    if item.getStrAttr type ≠ [] then some (item.getStrAttr type) else onto.strs type
  custom : onto.custom = none → ∀ key, result.findCustom key = item.findCustom key

theorem findCustom_congr (other : Item) (same : item.custom = other.custom)
    (key : List UInt8) : item.findCustom key = other.findCustom key := by
  rw [findCustom, findCustom, same]

/-- **What comes back.** Where the fields' updates succeed they leave what each field
says, and what no field says as it was. -/
theorem restored (wellFormed : item.WellFormed)
    (updated : inTurn (item.updates game) onto = some result) : Restored game item onto result := by
  simp only [updates, inTurn, Function.comp_apply, Option.bind_some] at updated
  obtain ⟨between, put, settled⟩ := Option.bind_eq_some_iff.mp updated
  obtain ⟨id, count, ints, strs⟩ := putCustom_frame put
  rw [← Option.some.inj settled]
  exact
    { id := by simp [id]
      count := by simp [count]
      subTypes := by rintro type (rfl | rfl) <;> simp [ints]
      actionId := by simp [ints, restoreCharges_ints, restoreCount_ints]
      date := by simp [ints, restoreCharges_ints, restoreCount_ints]
      decayState := by simp [ints, restoreCharges_ints, restoreCount_ints]
      ints := by
        intro type back plain
        cases type <;> cases plain <;> simp [ints, restoreCharges_ints, restoreCount_ints]
      strs := by
        intro type
        cases type <;> simp [strs]
      custom := by
        intro bare key
        have distinct : ((item.custom.getD []).map Prod.fst).Nodup := by
          cases held : item.custom with
          | none => simp
          | some entries => exact wellFormed.keys entries held
        have lower : ∀ entry ∈ item.custom.getD [], lowerCase entry.1 = entry.1 := by
          cases held : item.custom with
          | none => simp
          | some entries =>
            exact fun entry member => (wellFormed.entries entries held entry member).2.1
        rw [findCustom_congr between (by simp) key, putCustom_find put distinct lower key,
          findCustom_congr onto (by simp) key]
        simp [findCustom, bare] }

/-! ## The round trip -/

/-- Every attribute that was written has the same value, a decaying item is pending. -/
structure SameWritten (game : Game) (item result : Item) : Prop where
  count : item.counted game → result.getSubType game = item.getSubType game
  charges : item.getCharges ≠ 0 → result.getCharges = item.getCharges
  actionId : (game.items item.id).moveable → item.getActionId ≠ 0 →
    result.getActionId = item.getActionId
  date : item.getDate ≠ 0 → result.getDate = item.getDate
  decayState : item.WritesDecayState → result.getDecaying = DecayState.pending.value
  ints : ∀ type, (readBack type).isSome → item.hasAttribute type →
    result.getIntAttr type = item.getIntAttr type
  strs : ∀ type, item.hasStrAttribute type → result.getStrAttr type = item.getStrAttr type
  custom : item.custom.isSome → ∀ key, result.findCustom key = item.findCustom key

/-- The bytes written of the item are all read, and what was written is the same. -/
def RoundTrips (game : Game) (item fresh : Item) : Prop :=
  ∃ result, unserializeAttr game fresh (item.serializeAttr game) = some (result, []) ∧
    SameWritten game item result

/-- Nothing of the item is written that is read as something else. -/
structure Readable (game : Game) (item : Item) : Prop where
  charges : item.getCharges ≠ 0 → item.holdsCharges game
  actionId : (game.items item.id).moveable → item.getActionId ≠ 0 → 100 ≤ item.getActionId
  date : item.getDate < 2 ^ 31
  duration : item.hasAttribute .duration →
    0 ≤ item.getIntAttr .duration ∧ item.getIntAttr .duration < 2 ^ 31
  halves : ∀ type, type = .uniqueItem ∨ type = .heldX ∨ type = .heldY ∨ type = .heldU →
    item.getIntAttr type < 2 ^ 31
  custom : ∀ entry ∈ item.custom.getD [], entry.2 ≠ .blank

theorem readBack_eq_iff {type : IntAttr} {back : Int → Int} (plain : readBack type = some back)
    {value : Int} (fits : type.InWidth value ∨ type = .duration ∧ -2 ^ 31 ≤ value ∧ value < 0) :
    back value = value ↔
      (type = .duration → 0 ≤ value ∧ value < 2 ^ 31) ∧
        (type = .uniqueItem ∨ type = .heldX ∨ type = .heldY ∨ type = .heldU →
          value < 2 ^ 31) := by
  -- one goal for each plain attribute, in numbers
  cases type <;> cases plain <;>
    simp only [IntAttr.InWidth, IntAttr.least, IntAttr.limit, unsigned, signed, Int.bmod_def,
      reduceCtorEq, false_and, or_false, true_and, or_true, or_self, forall_const,
      false_implies, and_true, iff_true] at fits ⊢ <;>
    omega

section SubTypes

variable (game)

theorem holdsCharges_of_counted (counted : item.counted game) : item.holdsCharges game = false := by
  simp only [Item.counted, Bool.or_eq_true] at counted
  rcases counted with (stackable | fluid) | splash
  · simp [holdsCharges, stackable]
  · simp [holdsCharges, fluid]
  · simp [holdsCharges, splash]

theorem setSubType_charges (onto : Item) (n : UInt16) :
    (onto.setSubType game n).ints .charges =
      if onto.holdsCharges game then some (n.toNat : Int) else onto.ints .charges := by
  simp only [setSubType, holdsCharges]
  split_ifs <;> simp_all [setFluidType, setItemCount, setCharges]

theorem getSubType_setSubType (onto : Item) (n : UInt16) :
    (onto.setSubType game n).getSubType game = n := by
  simp only [getSubType, setSubType_id]
  simp only [setSubType]
  split_ifs <;>
    simp [getFluidType, setFluidType, setItemCount, getCharges, setCharges, getIntAttr,
      uint16_ofInt_toNat]

theorem getSubType_congr (item other : Item) (id : item.id = other.id)
    (count : item.count = other.count)
    (ints : ∀ type, type = .charges ∨ type = .fluidType → item.ints type = other.ints type) :
    item.getSubType game = other.getSubType game := by
  have charges : item.getCharges = other.getCharges := by
    rw [getCharges, getCharges, getIntAttr, getIntAttr, ints .charges (.inl rfl)]
  have fluid : item.getFluidType = other.getFluidType := by
    rw [getFluidType, getFluidType, getIntAttr, getIntAttr, ints .fluidType (.inr rfl)]
  rw [getSubType, getSubType, id, count, charges, fluid]

end SubTypes

namespace Restored

variable {fresh : Item} (restored : Restored game item fresh result)

include restored

theorem charges (same : fresh.id = item.id) : result.ints .charges =
    if item.getCharges ≠ 0 ∧ item.holdsCharges game then some (item.getCharges.toNat : Int)
    else fresh.ints .charges := by
  have kept : (item.restoreCount game fresh).ints .charges = fresh.ints .charges := by
    rw [restoreCount]
    split
    next counted =>
      have none := holdsCharges_of_counted game counted
      rw [setSubType_charges, holdsCharges, same, ← holdsCharges, none, if_neg Bool.false_ne_true]
    next => rfl
  have holds : (item.restoreCount game fresh).holdsCharges game = item.holdsCharges game := by
    simp [holdsCharges, same]
  rw [restored.subTypes .charges (.inl rfl), restoreCharges]
  by_cases written : item.getCharges ≠ 0
  · rw [if_pos written, setSubType_charges, holds, kept]
    simp [written]
  · rw [if_neg written, kept, if_neg fun both => written both.1]

/-- A count is read back unless charges are read over it. -/
theorem subType (counted : item.counted game)
    (uncharged : item.getCharges = 0) : result.getSubType game = item.getSubType game := by
  have alone : item.restoreCharges game (item.restoreCount game fresh) =
      fresh.setSubType game (item.getSubType game) := by
    rw [restoreCharges, if_neg (not_not.mpr uncharged), restoreCount, if_pos counted]
  have equal := getSubType_congr game result (fresh.setSubType game (item.getSubType game))
    (by rw [restored.id, setSubType_id]) (alone ▸ restored.count) (alone ▸ restored.subTypes)
  rw [equal, getSubType_setSubType]

theorem charges_iff (isFresh : Fresh game fresh) (same : fresh.id = item.id) :
    (item.getCharges ≠ 0 → result.getCharges = item.getCharges) ↔
      (item.getCharges ≠ 0 → item.holdsCharges game) := by
  have charges := restored.charges same
  refine forall_congr' fun written => ?_
  by_cases holds : item.holdsCharges game
  · rw [if_pos ⟨written, holds⟩] at charges
    simp [getCharges, getIntAttr, charges, uint16_ofInt_toNat, holds]
  · have lost : result.getCharges = 0 := by
      have none : fresh.holdsCharges game = false := by
        rw [holdsCharges, same, ← holdsCharges]
        exact Bool.eq_false_of_not_eq_true holds
      rw [if_neg fun both => holds both.2, isFresh.charges none] at charges
      rw [getCharges, getIntAttr, charges]
      rfl
    simp [lost, holds, Ne.symm written]

theorem actionId_iff :
    ((game.items item.id).moveable → item.getActionId ≠ 0 →
        result.getActionId = item.getActionId) ↔
      ((game.items item.id).moveable → item.getActionId ≠ 0 → 100 ≤ item.getActionId) := by
  refine forall_congr' fun moveable => forall_congr' fun written => ?_
  have found := restored.actionId
  rw [if_pos ⟨moveable, written⟩] at found
  have raised : result.getActionId.toNat = max 100 item.getActionId.toNat := by
    have below := item.getActionId.toNat_lt
    rw [getActionId, getIntAttr, found, Option.getD_some, UInt16.ofInt, UInt16.toNat_ofNat']
    omega
  rw [← UInt16.toNat_inj, raised, UInt16.le_iff_toNat_le]
  simp

theorem date_iff (wellFormed : item.WellFormed) :
    (item.getDate ≠ 0 → result.getDate = item.getDate) ↔ item.getDate < 2 ^ 31 := by
  have width : 0 ≤ item.getDate ∧ item.getDate < 2 ^ 32 := by
    rw [getDate, getIntAttr]
    cases held : item.ints .date with
    | none => decide
    | some value =>
      have fits := wellFormed.ints .date value held
      simpa [IntAttr.InWidth, IntAttr.least, IntAttr.limit] using fits
  by_cases written : item.getDate ≠ 0
  · have found := restored.date
    rw [if_pos written] at found
    have read : result.getDate = item.getDate.bmod (2 ^ 32) := by
      rw [getDate, getIntAttr, found, Option.getD_some]
    rw [read, Int.bmod_def]
    omega
  · simp [not_not.mp written]

/-- The value of a plain attribute that the item has comes back through `readBack`. -/
theorem plain {type : IntAttr} {back : Int → Int} (plain : readBack type = some back)
    {value : Int} (held : item.ints type = some value) : result.ints type = some (back value) := by
  rw [restored.ints type back plain, held, Option.map_some, Option.some_or]

theorem ints_iff (wellFormed : item.WellFormed) :
    (∀ type, (readBack type).isSome → item.hasAttribute type →
        result.getIntAttr type = item.getIntAttr type) ↔
      (item.hasAttribute .duration →
        0 ≤ item.getIntAttr .duration ∧ item.getIntAttr .duration < 2 ^ 31) ∧
      ∀ type, type = .uniqueItem ∨ type = .heldX ∨ type = .heldY ∨ type = .heldU →
        item.getIntAttr type < 2 ^ 31 := by
  have exact {type : IntAttr} {back : Int → Int} (plain : readBack type = some back) {value : Int}
      (held : item.ints type = some value) :
      result.getIntAttr type = item.getIntAttr type ↔
        (type = .duration → 0 ≤ value ∧ value < 2 ^ 31) ∧
          (type = .uniqueItem ∨ type = .heldX ∨ type = .heldY ∨ type = .heldU →
            value < 2 ^ 31) := by
    rw [← readBack_eq_iff plain (wellFormed.ints type value held), getIntAttr, getIntAttr,
      restored.plain plain held, held, Option.getD_some, Option.getD_some]
  constructor
  · intro equal
    constructor
    · intro has
      obtain ⟨value, held⟩ := Option.isSome_iff_exists.mp has
      rw [getIntAttr, held]
      exact ((exact rfl held).mp (equal .duration rfl has)).1 rfl
    · intro type half
      cases held : item.ints type with
      | none => simp [getIntAttr, held]
      | some value =>
        have has : item.hasAttribute type := by simp [hasAttribute, held]
        rw [getIntAttr, held]
        rcases half with rfl | rfl | rfl | rfl <;>
          exact ((exact rfl held).mp (equal _ rfl has)).2 (by decide)
  · rintro ⟨duration, halves⟩ type known has
    obtain ⟨back, plain⟩ := Option.isSome_iff_exists.mp known
    obtain ⟨value, held⟩ := Option.isSome_iff_exists.mp has
    refine (exact plain held).mpr ⟨?_, fun half => ?_⟩
    · rintro rfl
      simpa [getIntAttr, held] using duration has
    · simpa [getIntAttr, held] using halves type half

/-- **What was written is the same exactly when it is readable.** -/
theorem sameWritten_iff (wellFormed : item.WellFormed) (isFresh : Fresh game fresh)
    (same : fresh.id = item.id) (filled : ∀ entry ∈ item.custom.getD [], entry.2 ≠ .blank) :
    SameWritten game item result ↔ Readable game item := by
  constructor
  · intro equal
    obtain ⟨duration, halves⟩ := (restored.ints_iff wellFormed).mp equal.ints
    exact
      { charges := (restored.charges_iff isFresh same).mp equal.charges
        actionId := restored.actionId_iff.mp equal.actionId
        date := (restored.date_iff wellFormed).mp equal.date
        duration := duration
        halves := halves
        custom := filled }
  · intro readable
    exact
      { count := fun counted => restored.subType counted <| by
          by_contra charged
          have holds := readable.charges charged
          rw [holdsCharges_of_counted game counted] at holds
          contradiction
        charges := (restored.charges_iff isFresh same).mpr readable.charges
        actionId := restored.actionId_iff.mpr readable.actionId
        date := (restored.date_iff wellFormed).mpr readable.date
        decayState := by
          intro decays
          have found := restored.decayState
          rw [if_pos decays] at found
          rw [getDecaying, getIntAttr, found]
          rfl
        ints := (restored.ints_iff wellFormed).mpr ⟨readable.duration, readable.halves⟩
        strs := by
          intro type has
          obtain ⟨text, held⟩ := Option.isSome_iff_exists.mp has
          have found := restored.strs type
          rw [getStrAttr, held, Option.getD_some,
            if_pos (wellFormed.strs type text held).1] at found
          rw [getStrAttr, getStrAttr, found, held]
        custom := fun _ => restored.custom isFresh.custom }

end Restored

/-! ## Attributes that are left out -/

/-- Every attribute that `serializeAttr` writes is the same, those that were left out
for being absent included. -/
structure SameAttributes (game : Game) (item result : Item) : Prop where
  count : item.counted game → result.getSubType game = item.getSubType game
  charges : result.getCharges = item.getCharges
  actionId : (game.items item.id).moveable → result.getActionId = item.getActionId
  date : result.getDate = item.getDate
  decayState : result.getDecaying =
    if item.WritesDecayState then DecayState.pending.value else DecayState.notDecaying.value
  ints : ∀ type, (readBack type).isSome → result.ints type = item.ints type
  strs : ∀ type, result.strs type = item.strs type
  custom : ∀ key, result.findCustom key = item.findCustom key

/-- The item still has what a fresh item is given. -/
structure KeepsDefaults (item fresh : Item) : Prop where
  charges : fresh.getCharges ≠ 0 → item.getCharges ≠ 0
  duration : fresh.hasAttribute .duration → item.hasAttribute .duration
  strs : ∀ type, fresh.hasStrAttribute type → item.hasStrAttribute type

namespace Restored

variable {fresh : Item} (restored : Restored game item fresh result)

include restored

theorem strs_of_absent {type : StrAttr} (absent : item.strs type = none) :
    result.strs type = fresh.strs type := by
  rw [restored.strs, getStrAttr, absent]
  exact if_neg (not_not.mpr rfl)

theorem ints_of_absent {type : IntAttr} (known : (readBack type).isSome)
    (absent : item.ints type = none) : result.ints type = fresh.ints type := by
  obtain ⟨back, plain⟩ := Option.isSome_iff_exists.mp known
  rw [restored.ints type back plain, absent, Option.map_none, Option.none_or]

theorem getCharges_of_absent (same : fresh.id = item.id) (absent : item.getCharges = 0) :
    result.getCharges = fresh.getCharges := by
  rw [getCharges, getCharges, getIntAttr, getIntAttr, restored.charges same,
    if_neg fun both => both.1 absent]

/-- An attribute that was left out is absent again exactly when the fresh item has
none either. -/
theorem sameAttributes_iff (wellFormed : item.WellFormed) (isFresh : Fresh game fresh)
    (same : fresh.id = item.id) :
    SameAttributes game item result ↔
      SameWritten game item result ∧ KeepsDefaults item fresh := by
  constructor
  · intro equal
    refine ⟨?_, ?_⟩
    · exact
        { count := equal.count
          charges := fun _ => equal.charges
          actionId := fun moveable _ => equal.actionId moveable
          date := fun _ => equal.date
          decayState := fun decays => by rw [equal.decayState, if_pos decays]
          ints := fun type known _ => by rw [getIntAttr, getIntAttr, equal.ints type known]
          strs := fun type _ => by rw [getStrAttr, getStrAttr, equal.strs type]
          custom := fun _ => equal.custom }
    · exact
        { charges := by
            intro given absent
            apply given
            rw [← restored.getCharges_of_absent same absent, equal.charges, absent]
          duration := by
            intro given
            by_contra absent
            have none : item.ints .duration = none := by simpa [hasAttribute] using absent
            have kept := restored.ints_of_absent rfl none
            rw [equal.ints .duration rfl] at kept
            exact absent (by rwa [hasAttribute, kept])
          strs := by
            intro type given
            by_contra absent
            have none : item.strs type = none := by simpa [hasStrAttribute] using absent
            have kept := restored.strs_of_absent none
            rw [equal.strs type] at kept
            exact absent (by rwa [hasStrAttribute, kept]) }
  · rintro ⟨equal, keeps⟩
    exact
      { count := equal.count
        charges := by
          by_cases absent : item.getCharges = 0
          · rw [restored.getCharges_of_absent same absent, absent]
            by_contra given
            exact keeps.charges given absent
          · exact equal.charges absent
        actionId := by
          intro moveable
          by_cases absent : item.getActionId = 0
          · have kept := restored.actionId
            rw [if_neg fun both => both.2 absent,
              isFresh.ints _ (by decide) (by decide) (by decide)] at kept
            rw [absent, getActionId, getIntAttr, kept]
            rfl
          · exact equal.actionId moveable absent
        date := by
          by_cases absent : item.getDate = 0
          · have kept := restored.date
            rw [if_neg (not_not.mpr absent),
              isFresh.ints _ (by decide) (by decide) (by decide)] at kept
            rw [absent, getDate, getIntAttr, kept]
            rfl
          · exact equal.date absent
        decayState := by
          by_cases decays : item.WritesDecayState
          · rw [if_pos decays, equal.decayState decays]
          · have kept := restored.decayState
            rw [if_neg decays, isFresh.ints _ (by decide) (by decide) (by decide)] at kept
            rw [if_neg decays, getDecaying, getIntAttr, kept]
            rfl
        ints := by
          intro type known
          cases held : item.ints type with
          | none =>
            rw [restored.ints_of_absent known held]
            by_cases defaulted : type = .duration
            · subst defaulted
              by_contra given
              have has := keeps.duration (Option.isSome_iff_ne_none.mpr given)
              rw [hasAttribute, held] at has
              contradiction
            · apply isFresh.ints type _ _ defaulted
              · rintro rfl
                contradiction
              · rintro rfl
                contradiction
          | some value =>
            obtain ⟨back, plain⟩ := Option.isSome_iff_exists.mp known
            have value_eq := equal.ints type known (by simp [hasAttribute, held])
            have found := restored.plain plain held
            rw [getIntAttr, getIntAttr, held, found] at value_eq
            rw [found]
            exact congrArg some value_eq
        strs := by
          intro type
          cases held : item.strs type with
          | none =>
            rw [restored.strs_of_absent held]
            by_contra given
            have has := keeps.strs type (Option.isSome_iff_ne_none.mpr given)
            rw [hasStrAttribute, held] at has
            contradiction
          | some text =>
            rw [restored.strs, getStrAttr, held, Option.getD_some,
              if_pos (wellFormed.strs type text held).1]
        custom := by
          intro key
          cases held : item.custom with
          | none => exact restored.custom isFresh.custom key
          | some entries => exact equal.custom (by simp [held]) key }

end Restored

/-- The bytes written of the item are all read, and every attribute is the same. -/
def RoundTripsWhole (game : Game) (item fresh : Item) : Prop :=
  ∃ result, unserializeAttr game fresh (item.serializeAttr game) = some (result, []) ∧
    SameAttributes game item result

/-- Reading what was written of an item ends with what the updates make of the fresh
item, if they do not fail. -/
theorem unserializes_iff (wellFormed : item.WellFormed) :
    unserializeAttr game onto (item.serializeAttr game) = some (result, []) ↔
      inTurn (item.updates game) onto = some result := by
  rw [unserializeAttr_serializeAttr wellFormed]
  cases inTurn (item.updates game) onto with
  | none => simp
  | some after => simp

theorem inTurn_updates_isSome (game : Game) (item onto : Item) :
    (inTurn (item.updates game) onto).isSome ↔
      ∀ entry ∈ item.custom.getD [], entry.2 ≠ .blank := by
  have onlyCustom (before : Item) (after : Item → Item) :
      ((putCustom (item.custom.getD []) before).bind fun between => some (after between)).isSome ↔
        ∀ entry ∈ item.custom.getD [], entry.2 ≠ .blank := by
    rw [← putCustom_isSome _ before]
    cases putCustom (item.custom.getD []) before <;> simp
  exact onlyCustom _ _

section Whole

variable {fresh : Item} (wellFormed : item.WellFormed) (isFresh : Fresh game fresh)
  (same : fresh.id = item.id)

include wellFormed isFresh same

theorem roundTrips_iff_readable : RoundTrips game item fresh ↔ Readable game item := by
  constructor
  · rintro ⟨result, read, equal⟩
    have updated := (unserializes_iff wellFormed).mp read
    have filled := (inTurn_updates_isSome game item fresh).mp (by simp [updated])
    exact ((restored wellFormed updated).sameWritten_iff wellFormed isFresh same filled).mp equal
  · intro readable
    obtain ⟨result, updated⟩ := Option.isSome_iff_exists.mp
      ((inTurn_updates_isSome game item fresh).mpr readable.custom)
    refine ⟨result, (unserializes_iff wellFormed).mpr updated, ?_⟩
    exact ((restored wellFormed updated).sameWritten_iff wellFormed isFresh same
      readable.custom).mpr readable

theorem roundTripsWhole_iff :
    RoundTripsWhole game item fresh ↔ RoundTrips game item fresh ∧ KeepsDefaults item fresh := by
  have exact {result : Item}
      (read : unserializeAttr game fresh (item.serializeAttr game) = some (result, [])) :
      SameAttributes game item result ↔
        SameWritten game item result ∧ KeepsDefaults item fresh :=
    (restored wellFormed ((unserializes_iff wellFormed).mp read)).sameAttributes_iff wellFormed
      isFresh same
  constructor
  · rintro ⟨result, read, equal⟩
    obtain ⟨written, keeps⟩ := (exact read).mp equal
    exact ⟨⟨result, read, written⟩, keeps⟩
  · rintro ⟨⟨result, read, written⟩, keeps⟩
    exact ⟨result, read, (exact read).mpr ⟨written, keeps⟩⟩

end Whole

end Item

/-- A world of types that stack. -/
def stackGame : Game where
  items := fun id => { id := id, stackable := true }
  uniqueItems := fun _ => false

end Otserv.Items
