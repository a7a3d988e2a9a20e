import Otserv.Players.Outfits

/-!
# Outfits come back from a login

A save writes the outfits under the first keys of their range, into the map of the player that
goes on living: it does not erase the keys that an earlier save of the same session used. So a
login gives the outfits of the last save back, each once, exactly where no earlier save of that
session had more outfits (`logins_restore_iff`). Any other storage value comes back unchanged.
-/

namespace Otserv.Players

open Foundation

/-! ## Values and keys -/

/-- **The value of an outfit** holds its look type and its addons. -/
@[simp] theorem ofValue_value (entry : OutfitEntry) : OutfitEntry.ofValue entry.value = entry := by
  obtain ⟨lookType, addons⟩ := entry
  simp only [OutfitEntry.ofValue, OutfitEntry.value, OutfitEntry.mk.injEq]
  constructor
  · rw [← UInt16.toBitVec_inj]
    simp
    ext i below
    grind
  · rw [← UInt8.toBitVec_inj]
    simp
    ext i below
    have mask : (255#8)[i] = true := BitVec.getElem_allOnes i below
    rw [BitVec.getElem_and, mask, Bool.and_true]

variable {player : Player} {storageMap : StorageMap} {most : Nat} {key : UInt32}

theorem isInKeyRange_iff {range : KeyRange} {start size : Nat}
    (isStart : range.start.toNat = start) (isSize : range.size.toNat = size) :
    isInKeyRange key range = true ↔ start ≤ key.toNat ∧ key.toNat ≤ start + size := by
  rw [isInKeyRange, decide_eq_true_eq, ge_iff_le, UInt32.le_iff_toNat_le, isStart]
  refine and_congr_right fun low => ?_
  have notBelow : range.start ≤ key := UInt32.le_iff_toNat_le.mpr (isStart ▸ low)
  rw [UInt32.le_iff_toNat_le, UInt32.toNat_sub_of_le _ _ notBelow, isStart, isSize]
  omega

theorem inOutfits_iff : isInKeyRange key outfitsRange = true ↔
    10001000 ≤ key.toNat ∧ key.toNat ≤ 10001500 :=
  isInKeyRange_iff rfl rfl

theorem reserved_of_outfits (inside : isInKeyRange key outfitsRange = true) :
    isInKeyRange key reservedRange = true := by
  have bounds := inOutfits_iff.mp inside
  refine (isInKeyRange_iff rfl rfl : _ ↔ 10000000 ≤ key.toNat ∧ _).mpr ?_
  show 10000000 ≤ key.toNat ∧ key.toNat ≤ 10000000 + 10000000
  omega

/-! ## What is stored -/

/-- The keys for outfits are the first `most` of their range, and what is under any other key a
login stores again. -/
structure Stored (storageMap : StorageMap) (most : Nat) : Prop where
  few : most ≤ 500
  outfits : ∀ key, isInKeyRange key outfitsRange = true →
    (key ∈ storageMap ↔ 10001000 < key.toNat ∧ key.toNat ≤ 10001000 + most)
  others : ∀ key value, storageMap.lookup key = some value →
    isInKeyRange key outfitsRange = false → isUnknownReserved key = false ∧ value ≠ -1

theorem Stored.empty : Stored ∅ 0 where
  few := Nat.zero_le _
  outfits := by
    intro key _
    refine iff_of_false (AList.notMem_empty key) fun bounds => ?_
    omega
  others := by
    intro key value found
    cases found

theorem lookup_addStorageValue {value : Int32} (isOther : isInKeyRange key outfitsRange = false)
    (isKnown : isUnknownReserved key = false) (stored : value ≠ -1) (other : UInt32) :
    (player.addStorageValue key value).storageMap.lookup other =
      if other = key then some value else player.storageMap.lookup other := by
  rw [Player.addStorageValue, if_neg (by simp [isOther]), if_neg (by simp [isKnown]),
    if_pos stored]
  split
  · next same =>
    rw [same]
    exact AList.lookup_insert _
  · next apart => exact AList.lookup_insert_ne apart

theorem Stored.addStorageValue (stored : Stored player.storageMap most)
    (isOther : isInKeyRange key outfitsRange = false) (value : Int32) :
    Stored (player.addStorageValue key value).storageMap most := by
  rw [Player.addStorageValue, if_neg (by simp [isOther])]
  split
  · exact stored
  next isKnown =>
  have apart : ∀ other, isInKeyRange other outfitsRange = true → other ≠ key := by
    intro other inside same
    rw [same, isOther] at inside
    cases inside
  split
  · next isValue =>
    refine ⟨stored.few, fun other inside => ?_, fun other found => ?_⟩
    · rw [AList.mem_insert, or_iff_right (apart other inside)]
      exact stored.outfits other inside
    · by_cases same : other = key
      · rw [same, AList.lookup_insert]
        rintro ⟨⟩ -
        exact ⟨Bool.eq_false_iff.mpr isKnown, isValue⟩
      · rw [AList.lookup_insert_ne same]
        exact stored.others other found
  · refine ⟨stored.few, fun other inside => ?_, fun other found => ?_⟩
    · rw [AList.mem_erase, and_iff_right (apart other inside)]
      exact stored.outfits other inside
    · by_cases same : other = key
      · rw [same, AList.lookup_erase]
        exact nofun
      · rw [AList.lookup_erase_ne same]
        exact stored.others other found

/-! ## Saves -/

/-- **What `genReservedStorageRange` writes**: the outfits one after the other, and nothing else
changes. -/
theorem lookup_genReserved (entries : List OutfitEntry) : ∀ (baseKey : UInt32)
    (storageMap : StorageMap), baseKey.toNat + entries.length < 2 ^ 32 → ∀ key : UInt32,
      (Player.genReserved entries baseKey storageMap).lookup key =
        if baseKey.toNat < key.toNat ∧ key.toNat ≤ baseKey.toNat + entries.length then
          (entries[key.toNat - baseKey.toNat - 1]?).map OutfitEntry.value
        else storageMap.lookup key := by
  induction entries with
  | nil =>
    intro baseKey storageMap _ key
    rw [if_neg (by rw [List.length_nil]; omega)]
    rfl
  | cons entry rest ih =>
    intro baseKey storageMap fits key
    rw [List.length_cons] at fits ⊢
    have next : (baseKey + 1).toNat = baseKey.toNat + 1 := by
      exact Nat.mod_eq_of_lt (by simp; omega)
    rw [Player.genReserved, ih (baseKey + 1) _ (by omega), next]
    by_cases same : key = baseKey + 1
    · rw [same, next, if_neg (by omega), AList.lookup_insert, if_pos (by omega)]
      have first : baseKey.toNat + 1 - baseKey.toNat - 1 = 0 := by omega
      rw [first]
      rfl
    · have apart : key.toNat ≠ baseKey.toNat + 1 := fun isNext =>
        same (UInt32.toNat_inj.mp (isNext.trans next.symm))
      rw [AList.lookup_insert_ne same]
      by_cases after : baseKey.toNat + 1 < key.toNat ∧
          key.toNat ≤ baseKey.toNat + 1 + rest.length
      · have later : key.toNat - baseKey.toNat - 1 =
            key.toNat - (baseKey.toNat + 1) - 1 + 1 := by omega
        rw [if_pos after, if_pos (by omega), later, List.getElem?_cons_succ]
      · rw [if_neg after, if_neg (by omega)]

theorem lookup_genReservedStorageRange (few : player.outfits.length ≤ 500)
    (key : UInt32) : player.genReservedStorageRange.storageMap.lookup key =
      if 10001000 < key.toNat ∧ key.toNat ≤ 10001000 + player.outfits.length then
        (player.outfits[key.toNat - 10001001]?).map OutfitEntry.value
      else player.storageMap.lookup key := by
  have start : outfitsRange.start.toNat = 10001000 := rfl
  have fits : outfitsRange.start.toNat + player.outfits.length < 2 ^ 32 := by
    omega
  have written := lookup_genReserved player.outfits outfitsRange.start player.storageMap fits key
  rw [start, Nat.sub_sub] at written
  exact written

theorem Stored.genReservedStorageRange
    (stored : Stored player.storageMap most) (few : player.outfits.length ≤ 500) :
    Stored player.genReservedStorageRange.storageMap (max most player.outfits.length) where
  few := by
    have fewStored := stored.few
    omega
  outfits := by
    intro key inside
    rw [← AList.lookup_isSome, lookup_genReservedStorageRange few]
    split
    · next written =>
      rw [List.getElem?_eq_getElem (by omega)]
      refine iff_of_true rfl ?_
      omega
    · rw [AList.lookup_isSome, stored.outfits key inside]
      omega
  others := by
    intro key value found isOther
    have outside : ¬(10001000 < key.toNat ∧ key.toNat ≤ 10001000 + player.outfits.length) := by
      intro written
      have inside := inOutfits_iff.mpr (by omega : 10001000 ≤ key.toNat ∧ key.toNat ≤ 10001500)
      rw [isOther] at inside
      cases inside
    rw [lookup_genReservedStorageRange few, if_neg outside] at found
    exact stored.others key value found isOther

/-! ## Logins -/

variable (rows : List (Sigma fun _ : UInt32 => Int32))

/-- The outfits that are stored in rows. -/
def outfitsOf : List OutfitEntry :=
  (rows.filter fun row => isInKeyRange row.1 outfitsRange).map fun row => .ofValue row.2

/-- **What a login makes of the rows**: outfits of those in their range, and the others are
stored. -/
theorem load_spec : ∀ start : Player,
    rows.NodupKeys →
      (∀ row ∈ rows, isInKeyRange row.1 outfitsRange = false →
        isUnknownReserved row.1 = false ∧ row.2 ≠ -1) →
      let player := rows.foldl (fun player row => player.addStorageValue row.1 row.2) start
      player.outfits = start.outfits ++ outfitsOf rows ∧
        ∀ key, player.storageMap.lookup key =
          if isInKeyRange key outfitsRange then start.storageMap.lookup key
          else (rows.dlookup key).or (start.storageMap.lookup key) := by
  induction rows with
  | nil =>
    intro start _ _
    refine ⟨(List.append_nil _).symm, fun key => ?_⟩
    split <;> rfl
  | cons row rest ih =>
    intro start nodup others
    obtain ⟨notLater, nodup⟩ := List.nodupKeys_cons.mp nodup
    have rows := ih (start.addStorageValue row.1 row.2) nodup
      (fun later inside => others later (List.mem_cons_of_mem _ inside))
    rw [outfitsOf, List.filter_cons, List.foldl_cons]
    cases isOutfit : isInKeyRange row.1 outfitsRange with
    | true =>
      have added : start.addStorageValue row.1 row.2 =
          { start with outfits := start.outfits ++ [.ofValue row.2] } :=
        if_pos ⟨reserved_of_outfits isOutfit, isOutfit⟩
      rw [added] at rows ⊢
      refine ⟨rows.1.trans (List.append_assoc _ _ _), fun key => (rows.2 key).trans ?_⟩
      split
      · rfl
      · next isOther =>
        have apart : key ≠ row.1 := fun same => isOther (same ▸ isOutfit)
        rw [List.dlookup_cons_ne _ _ apart]
    | false =>
      obtain ⟨isKnown, isValue⟩ := others row List.mem_cons_self isOutfit
      have same : (start.addStorageValue row.1 row.2).outfits = start.outfits := by
        rw [Player.addStorageValue, if_neg (by simp [isOutfit]), if_neg (by simp [isKnown]),
          if_pos isValue]
      refine ⟨rows.1.trans (by rw [same]; rfl), fun key => (rows.2 key).trans ?_⟩
      rw [lookup_addStorageValue isOutfit isKnown isValue]
      by_cases isRow : key = row.1
      · rw [isRow, if_pos rfl, isOutfit, List.dlookup_eq_none.mpr notLater,
          List.dlookup_cons_eq]
        rfl
      · rw [if_neg isRow, List.dlookup_cons_ne _ _ isRow]

/-- The key of an outfit. -/
def outfitKey (index : Nat) : UInt32 := .ofNat (10001001 + index)

theorem toNat_outfitKey {index : Nat} (below : index < 500) :
    (outfitKey index).toNat = 10001001 + index := by
  rw [outfitKey, UInt32.toNat_ofNat', Nat.mod_eq_of_lt]
  omega

theorem Stored.keys (stored : Stored storageMap most) :
    ((storageMap.entries.filter fun row => isInKeyRange row.1 outfitsRange).map Sigma.fst).Perm
      ((List.range most).map outfitKey) := by
  have few := stored.few
  have rows : ((storageMap.entries.filter fun row =>
      isInKeyRange row.1 outfitsRange).map Sigma.fst).Nodup :=
    ((List.filter_sublist).map Sigma.fst).nodup storageMap.nodupKeys
  have numbers : ((List.range most).map outfitKey).Nodup := by
    refine .map_on (fun index below other otherBelow same => ?_) List.nodup_range
    have sameNat := congrArg UInt32.toNat same
    rw [List.mem_range] at below otherBelow
    rw [toNat_outfitKey (by omega), toNat_outfitKey (by omega)] at sameNat
    omega
  refine (List.perm_ext_iff_of_nodup rows numbers).mpr fun key => ?_
  have isKey : key ∈ (storageMap.entries.filter fun row =>
      isInKeyRange row.1 outfitsRange).map Sigma.fst ↔
        key ∈ storageMap ∧ isInKeyRange key outfitsRange = true := by
    rw [AList.mem_keys, AList.keys, List.keys, List.mem_map, List.mem_map]
    constructor
    · rintro ⟨row, inside, rfl⟩
      obtain ⟨member, isOutfit⟩ := List.mem_filter.mp inside
      exact ⟨⟨row, member, rfl⟩, isOutfit⟩
    · rintro ⟨⟨row, member, rfl⟩, isOutfit⟩
      exact ⟨row, List.mem_filter.mpr ⟨member, isOutfit⟩, rfl⟩
  rw [isKey, List.mem_map]
  constructor
  · rintro ⟨member, isOutfit⟩
    have bounds := (stored.outfits key isOutfit).mp member
    refine ⟨key.toNat - 10001001, List.mem_range.mpr (by omega), UInt32.toNat_inj.mp ?_⟩
    rw [toNat_outfitKey (by omega)]
    omega
  · rintro ⟨index, below, rfl⟩
    rw [List.mem_range] at below
    have isNat := toNat_outfitKey (by omega : index < 500)
    have isOutfit : isInKeyRange (outfitKey index) outfitsRange = true :=
      inOutfits_iff.mpr (by omega)
    exact ⟨(stored.outfits _ isOutfit).mpr (by omega), isOutfit⟩

theorem Stored.length_outfitsOf
    (stored : Stored storageMap most) : (outfitsOf storageMap.entries).length = most := by
  have lengths := stored.keys.length_eq
  rw [List.length_map, List.length_map, List.length_range] at lengths
  rw [outfitsOf, List.length_map, lengths]

/-- Rows that store these outfits, and no more, are read as them. -/
theorem Stored.outfitsOf_perm {outfits : List OutfitEntry}
    (stored : Stored storageMap outfits.length)
    (written : ∀ index (below : index < outfits.length),
      storageMap.lookup (outfitKey index) = some outfits[index].value) :
    (outfitsOf storageMap.entries).Perm outfits := by
  -- What is under a key, as far as it is an outfit's.
  let outfitOf (key : UInt32) : OutfitEntry :=
    .ofValue ((storageMap.lookup key).getD 0)
  have byKey : outfitsOf storageMap.entries =
      ((storageMap.entries.filter fun row => isInKeyRange row.1 outfitsRange).map
        Sigma.fst).map outfitOf := by
    rw [outfitsOf, List.map_map]
    refine List.map_congr_left fun row inside => ?_
    have found : storageMap.lookup row.1 = some row.2 :=
      AList.mem_lookup_iff.mpr (List.mem_filter.mp inside).1
    simp only [Function.comp_apply, outfitOf, found, Option.getD_some]
  have inOrder : ((List.range outfits.length).map outfitKey).map outfitOf = outfits := by
    rw [List.map_map]
    refine List.ext_getElem (by simp) fun index _ below => ?_
    simp only [List.getElem_map, List.getElem_range, Function.comp_apply, outfitOf,
      written index below, Option.getD_some, ofValue_value]
  rw [byKey]
  exact (stored.keys.map outfitOf).trans (.of_eq inOrder)

/-! ## Runs -/

structure Invariant (world : World) : Prop where
  few : world.player.outfits.length ≤ 500
  stored : Stored world.player.storageMap world.most
  rows : Stored world.rows world.savedMost
  /-- No save writes fewer outfits than there are. -/
  savedMost : world.saved.outfits.length ≤ world.savedMost
  written : ∀ index (below : index < world.saved.outfits.length),
    world.rows.lookup (outfitKey index) = some world.saved.outfits[index].value
  kept : ∀ key, isInKeyRange key outfitsRange = false →
    world.rows.lookup key = world.saved.storageMap.lookup key

namespace Invariant

variable {world : World}

/-- Only the player changes, and its storage map stays as it is. -/
theorem setOutfits (invariant : Invariant world) {outfits : List OutfitEntry}
    (few : outfits.length ≤ 500) :
    Invariant { world with player := { world.player with outfits := outfits } } :=
  { invariant with few := few }

theorem length_addOutfitTo (lookType : UInt16) (addons : UInt8) (entries : List OutfitEntry) :
    (Player.addOutfitTo lookType addons entries).length =
      if entries.any fun entry => entry.lookType = lookType then entries.length
      else entries.length + 1 := by
  induction entries with
  | nil => rfl
  | cons entry rest ih =>
    rw [Player.addOutfitTo, List.any_cons]
    split
    · next same => simp [same]
    · next apart =>
      rw [List.length_cons, ih, decide_eq_false apart, Bool.false_or]
      split <;> rfl

theorem length_removeAddonFrom (lookType : UInt16) (addons : UInt8) (entries : List OutfitEntry) :
    (Player.removeAddonFrom lookType addons entries).length = entries.length := by
  induction entries with
  | nil => rfl
  | cons entry rest ih =>
    rw [Player.removeAddonFrom]
    split
    · rfl
    · rw [List.length_cons, ih, List.length_cons]

theorem savePlayer (invariant : Invariant world) (committed : Bool) :
    Invariant (world.savePlayer committed) := by
  have stored := invariant.stored.genReservedStorageRange invariant.few
  cases committed with
  | false => exact { invariant with few := invariant.few, stored := stored }
  | true =>
    refine ⟨invariant.few, stored, stored, le_max_right _ _, fun index below => ?_,
      fun key isOther => ?_⟩
    · have few := invariant.few
      have inside : index < world.player.outfits.length := below
      show world.player.genReservedStorageRange.storageMap.lookup (outfitKey index) =
        some world.player.outfits[index].value
      rw [lookup_genReservedStorageRange few, toNat_outfitKey (by omega), if_pos (by omega),
        Nat.add_sub_cancel_left, List.getElem?_eq_getElem inside]
      rfl
    · show world.player.genReservedStorageRange.storageMap.lookup key =
        world.player.storageMap.lookup key
      rw [lookup_genReservedStorageRange invariant.few, if_neg]
      intro written
      have few := invariant.few
      have inside := inOutfits_iff.mpr (by omega : 10001000 ≤ key.toNat ∧ key.toNat ≤ 10001500)
      rw [isOther] at inside
      cases inside

theorem loaded (invariant : Invariant world) {rows : List (Sigma fun _ : UInt32 => Int32)}
    (same : rows.Perm world.rows.entries) :
    (loadPlayer rows).outfits = outfitsOf rows ∧
      ∀ key, (loadPlayer rows).storageMap.lookup key =
        if isInKeyRange key outfitsRange then none else world.rows.lookup key := by
  have nodup : rows.NodupKeys := (List.perm_nodupKeys same).mpr world.rows.nodupKeys
  have spec := load_spec rows {} nodup fun row inside isOther =>
    invariant.rows.others row.1 row.2 (AList.mem_lookup_iff.mpr (same.subset inside)) isOther
  refine ⟨spec.1, fun key => (spec.2 key).trans ?_⟩
  rw [AList.lookup_empty, Option.or_none, AList.lookup,
    List.perm_dlookup key nodup same]

theorem login (invariant : Invariant world) {rows : List (Sigma fun _ : UInt32 => Int32)}
    (same : rows.Perm world.rows.entries) :
    Invariant { world with player := loadPlayer rows, most := 0 } := by
  obtain ⟨outfits, storage⟩ := invariant.loaded same
  have sameOutfits : (outfitsOf rows).Perm (outfitsOf world.rows.entries) :=
    (same.filter _).map _
  refine { invariant with few := ?_, stored := ⟨Nat.zero_le _, ?_, ?_⟩ }
  · rw [outfits, sameOutfits.length_eq, invariant.rows.length_outfitsOf]
    exact invariant.rows.few
  · intro key isOutfit
    rw [← AList.lookup_isSome, storage, isOutfit]
    refine iff_of_false (by simp) fun bounds => ?_
    have none : key.toNat ≤ 10001000 + 0 := bounds.2
    omega
  · intro key value found isOther
    rw [storage, isOther] at found
    exact invariant.rows.others key value found isOther

/-- **Every step** preserves the invariant. -/
theorem step (invariant : Invariant world) {op : Op} (legal : system.legal world op) :
    Invariant (system.step world op) := by
  cases op with
  | addOutfit lookType addons =>
    refine invariant.setOutfits ?_
    rw [length_addOutfitTo]
    split
    · exact invariant.few
    · next isNew =>
      exact legal.resolve_left isNew
  | removeOutfit lookType =>
    exact invariant.setOutfits (Nat.le_trans List.eraseP_sublist.length_le invariant.few)
  | removeOutfitAddon lookType addons =>
    exact invariant.setOutfits (Nat.le_trans (Nat.le_of_eq (length_removeAddonFrom _ _ _)) invariant.few)
  | addStorageValue key value =>
    have isOther : isInKeyRange key outfitsRange = false := legal
    refine { invariant with few := ?_, stored := invariant.stored.addStorageValue isOther value }
    have same : (world.player.addStorageValue key value).outfits = world.player.outfits := by
      rw [Player.addStorageValue, if_neg (by simp [isOther])]
      split
      · rfl
      · split <;> rfl
    show (world.player.addStorageValue key value).outfits.length ≤ 500
    rw [same]
    exact invariant.few
  | savePlayer committed => exact invariant.savePlayer committed
  | login rows => exact invariant.login legal

end Invariant

/-- The outfits of the last save come back, each once. -/
def OutfitsRestored (before : World) : Op → World → Prop
  | .login _, after => after.player.outfits.Perm before.saved.outfits
  | _, _ => True

/-- The storage values outside of the reserved range come back. -/
def StorageRestored (before : World) : Op → World → Prop
  | .login _, after => ∀ key, isInKeyRange key reservedRange = false →
      after.player.getStorageValue key = before.saved.getStorageValue key
  | _, _ => True

/-- No save of the session of the last save had more outfits than that one. -/
def NoneLeftOver (before : World) : Op → Prop
  | .login _ => before.savedMost ≤ before.saved.outfits.length
  | _ => True

theorem Invariant.storageRestored {world : World} (invariant : Invariant world) {op : Op}
    (legal : system.legal world op) : StorageRestored world op (system.step world op) := by
  cases op with
  | login rows =>
    intro key isOther
    have isOutfit : isInKeyRange key outfitsRange = false := by
      refine Bool.eq_false_iff.mpr fun inside => ?_
      rw [reserved_of_outfits inside] at isOther
      cases isOther
    show (loadPlayer rows).storageMap.lookup key = _
    rw [(invariant.loaded legal).2, isOutfit]
    exact invariant.kept key isOutfit
  | _ => trivial

theorem Invariant.outfitsRestored_iff {world : World} (invariant : Invariant world) {op : Op}
    (legal : system.legal world op) :
    OutfitsRestored world op (system.step world op) ↔ NoneLeftOver world op := by
  cases op with
  | login rows =>
    have sameOutfits : (outfitsOf rows).Perm (outfitsOf world.rows.entries) :=
      (List.Perm.filter _ legal).map _
    show (loadPlayer rows).outfits.Perm world.saved.outfits ↔ _
    rw [(invariant.loaded legal).1]
    constructor
    · intro restored
      have lengths := (sameOutfits.symm.trans restored).length_eq
      rw [invariant.rows.length_outfitsOf] at lengths
      exact Nat.le_of_eq lengths
    · intro noneLeft
      have isMost := Nat.le_antisymm noneLeft invariant.savedMost
      have stored := invariant.rows
      rw [isMost] at stored
      exact sameOutfits.trans (stored.outfitsOf_perm invariant.written)
  | _ => exact .rfl

/-- **Every login restores** the storage values outside of the reserved range; and it restores
the outfits of the last save exactly where no save of that session had more of them. -/
theorem logins_restore_iff {ops : List Op} (legal : system.Legal {} ops) :
    system.Throughout StorageRestored {} ops ∧
      (system.Throughout OutfitsRestored {} ops ↔
        system.Throughout (fun before op _ => NoneLeftOver before op) {} ops) := by
  have start : Invariant {} :=
    ⟨Nat.zero_le _, .empty, .empty, Nat.le_refl _, nofun, fun _ _ => rfl⟩
  have outfits : ∀ before op, Invariant before → system.legal before op →
      (OutfitsRestored before op (system.step before op) ↔ NoneLeftOver before op) ∧
        (OutfitsRestored before op (system.step before op) →
          Invariant (system.step before op)) :=
    fun _ _ invariant legal => ⟨invariant.outfitsRestored_iff legal, fun _ => invariant.step legal⟩
  have storage : ∀ before op, Invariant before → system.legal before op → True →
      StorageRestored before op (system.step before op) ∧ Invariant (system.step before op) :=
    fun _ _ invariant legal _ => ⟨invariant.storageRestored legal, invariant.step legal⟩
  have unguarded : system.Throughout (fun _ _ _ => True) ({} : World) ops :=
    .mono (fun _ _ _ => trivial) legal
  exact ⟨.of_invariant storage start legal unguarded,
    System.Throughout.iff_of_invariant outfits start legal⟩

instance : ∀ (world : World) (op : Op), Decidable (system.legal world op)
  | world, .addOutfit lookType _ => inferInstanceAs (Decidable
      ((world.player.outfits.any fun entry => entry.lookType = lookType) ∨
        world.player.outfits.length < 500))
  | _, .addStorageValue key _ =>
    inferInstanceAs (Decidable (isInKeyRange key outfitsRange = false))
  | world, .login rows => inferInstanceAs (Decidable (rows.Perm world.rows.entries))
  | _, .removeOutfit _ | _, .removeOutfitAddon _ _ | _, .savePlayer _ =>
    inferInstanceAs (Decidable True)

def citizen : OutfitEntry := ⟨128, 0⟩
def hunter : OutfitEntry := ⟨129, 3⟩

/-- The rows of both outfits. -/
def bothRows : List (Sigma fun _ : UInt32 => Int32) :=
  [⟨10001001, citizen.value⟩, ⟨10001002, hunter.value⟩]

/-- Two outfits are saved. -/
def twoOutfits : List Op := [.addOutfit 128 0, .addOutfit 129 3, .savePlayer true]

theorem logins_restore_iff_two :
    system.Throughout StorageRestored {} (twoOutfits ++ [.login bothRows]) ∧
      (system.Throughout OutfitsRestored {} (twoOutfits ++ [.login bothRows]) ↔
        system.Throughout (fun before op _ => NoneLeftOver before op) {}
          (twoOutfits ++ [.login bothRows])) :=
  logins_restore_iff (by decide)

/-- An outfit that is removed between two saves of a session comes back. -/
theorem removed_outfit_back :
    system.Legal {} (twoOutfits ++ [.removeOutfit 129, .savePlayer true, .login bothRows]) ∧
      ¬system.Throughout OutfitsRestored {}
        (twoOutfits ++ [.removeOutfit 129, .savePlayer true, .login bothRows]) ∧
      (system.run {} (twoOutfits ++ [.removeOutfit 129, .savePlayer true])).player.outfits =
        [citizen] ∧
      (system.run {} (twoOutfits ++
        [.removeOutfit 129, .savePlayer true, .login bothRows])).player.outfits =
          [citizen, hunter] := by
  refine ⟨by decide, fun restored => ?_, by decide, by decide⟩
  have atLogin := restored.2.2.2.2.2.1
  exact absurd atLogin.length_eq (by decide)

end Otserv.Players
