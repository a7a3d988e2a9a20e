import Otserv.HouseItems.HouseItem

/-!
# Trees of items that come back

What `saveItem` writes of a tree of items, `loadItem` reads into the same tree, with the
bytes behind it left over, if each item's own attributes are read back and no item of the
tree is a depot locker: `DepotLocker::readAttr` hands the tag of a container's items on to
`Item::readAttr`, which takes it for an error. And a container must have fewer items than
the four bytes of their count can say. A tree that is not so does not come back
(`rebuilt_iff`).
-/

namespace Otserv.HouseItems

open Otserv.Foundation

variable {Own : Type*} (game : Game Own)

/-! ## Trees -/

namespace Item

/-- Something holds of every item of a tree. -/
inductive Everywhere (holds : Item Own → Prop) : Item Own → Prop
  | mk {item : Item Own} (here : holds item)
      (inside : ∀ inner ∈ item.itemlist, Everywhere holds inner) : Everywhere holds item

section Everywhere

variable {holds : Item Own → Prop} {item : Item Own}

theorem Everywhere.here (everywhere : item.Everywhere holds) : holds item := by
  cases everywhere with
  | mk here _ => exact here

theorem Everywhere.inside (everywhere : item.Everywhere holds) :
    ∀ inner ∈ item.itemlist, inner.Everywhere holds := by
  cases everywhere with
  | mk _ inside => exact inside

end Everywhere

/-- The bytes are a stream of tags, none of them 0 or that of a container's items, and
reading each with what follows it makes an item of what it was before. -/
inductive ReadsBack (id : UInt16) (cls : ItemClass) : Own → List UInt8 → Own → Prop
  | done (own : Own) : ReadsBack id cls own [] own
  | attr {own next result : Own} {attr : UInt8} {payload bytes : List UInt8} (notEnd : attr ≠ 0)
      (notItems : attr ≠ ATTR_CONTAINER_ITEMS)
      (read : ∀ rest, game.readAttr cls id attr own (payload ++ rest) = (true, next, rest))
      (later : ReadsBack id cls next bytes result) :
      ReadsBack id cls own (attr :: (payload ++ bytes)) result

/-- `CreateItem` makes an item of this id and class, its own attributes are read back into
it, and only a container has items in it. -/
structure IsCreatable (item : Item Own) : Prop where
  created : createItem game item.id =
    some ⟨item.id, item.cls, game.construct item.cls item.id, []⟩
  readsBack : ReadsBack game item.id item.cls (game.construct item.cls item.id)
    (game.serializeAttr item.cls item.id item.own) item.own
  onlyContainers : item.isContainer = false → item.itemlist = []

/-- A tree of creatable ids. -/
abbrev Creatable : Item Own → Prop := Everywhere (IsCreatable game)

/-- No depot locker, and no more items than can be counted. -/
structure IsPlain (item : Item Own) : Prop where
  notLocker : item.cls ≠ .depotLocker
  counted : item.itemlist.length < 2 ^ 32

abbrev Plain : Item Own → Prop := Everywhere IsPlain

/-- With any bytes behind it, what was saved of the tree is read, and no more, and the same
tree is given to the parent: a container, or a tile where an item of the id is made anew. -/
def Rebuilt (item : Item Own) : Prop :=
  ∀ rest,
    (∀ itemlist, loadItem game (saveItem game item ++ rest).length false itemlist
        (saveItem game item ++ rest) = (true, item :: itemlist, rest)) ∧
    ∀ tile : Tile Own, (game.items item.id).moveable ∨ (game.items item.id).forceSerialize →
      tile.loadItem game (saveItem game item ++ rest) =
        (true, game.startDecayingOn item (tile.internalAddThing game item), rest)

end Item

/-! ## What is written -/

/-- What `saveItem` writes behind the id. -/
def saveBody (item : Item Own) : List UInt8 :=
  game.serializeAttr item.cls item.id item.own ++
    ((if item.isContainer then
      ATTR_CONTAINER_ITEMS ::
        (writeNat 4 item.itemlist.length ++ item.itemlist.reverse.flatMap (saveItem game))
    else []) ++ [0])

theorem saveReversed_eq (items : List (Item Own)) :
    saveReversed game items = items.reverse.flatMap (saveItem game) := by
  induction items with
  | nil => simp [saveReversed]
  | cons item items ih => simp [saveReversed, ih]

theorem saveItem_eq (item : Item Own) :
    saveItem game item = writeNat 2 item.id.toNat ++ saveBody game item := by
  obtain ⟨id, cls, own, itemlist⟩ := item
  rw [saveItem, saveReversed_eq]
  rfl

@[simp] theorem length_writeNat (width value : Nat) : (writeNat width value).length = width := by
  induction width generalizing value with
  | zero => rfl
  | succ width ih => rw [writeNat, List.length_cons, ih]

variable {game}

theorem length_saveItem_lt {item inner : Item Own} (container : item.isContainer = true)
    (member : inner ∈ item.itemlist) :
    (saveItem game inner).length < (saveItem game item).length := by
  have within : (saveItem game inner).length ≤
      (item.itemlist.reverse.flatMap (saveItem game)).length := by
    rw [List.length_flatMap]
    exact List.single_le_sum (by simp) _
      (List.mem_map_of_mem (List.mem_reverse.mpr member))
  rw [saveItem_eq game item, saveBody, if_pos container]
  simp only [List.length_append, List.length_cons, length_writeNat]
  omega

/-! ## Reading the attributes -/

section Attributes

variable {item : Item Own} {id : UInt16} {cls : ItemClass} {itemlist : List (Item Own)}

theorem readAttrs_readsBack {own result : Own} {bytes : List UInt8}
    (back : Item.ReadsBack game id cls own bytes result) (rest : List UInt8) :
    ∀ {fuel : Nat}, bytes.length ≤ fuel → ∃ left, fuel - bytes.length ≤ left ∧
      readAttrs game id cls itemlist fuel own (bytes ++ rest) =
        readAttrs game id cls itemlist left result rest := by
  induction back with
  | done own => exact fun {fuel} _ => ⟨fuel, by simp, rfl⟩
  | @attr own next result attr payload bytes notEnd notItems read later ih =>
    intro fuel enough
    cases fuel with
    | zero => simp at enough
    | succ fuel =>
      rw [List.length_cons, List.length_append] at enough
      have enough : bytes.length ≤ fuel := by omega
      obtain ⟨left, fuelLeft, same⟩ := ih enough
      refine ⟨left, by rw [List.length_cons, List.length_append]; omega, ?_⟩
      rw [List.cons_append, List.append_assoc, readAttrs, if_neg notEnd, if_neg notItems, read]
      exact same

section

variable (creatable : item.IsCreatable game)
include creatable

theorem unserializeAttr_own (attr : UInt8) (rest : List UInt8) :
    ∃ fuel, Item.unserializeAttr game
        (⟨item.id, item.cls, game.construct item.cls item.id, []⟩ : Item Own)
        (game.serializeAttr item.cls item.id item.own ++ attr :: rest) =
      readAttrs game item.id item.cls [] (fuel + 1) item.own (attr :: rest) := by
  have enough : (game.serializeAttr item.cls item.id item.own).length ≤
      (game.serializeAttr item.cls item.id item.own ++ attr :: rest).length := by simp
  obtain ⟨left, fuelLeft, same⟩ :=
    @readAttrs_readsBack _ _ _ _ [] _ _ _ creatable.readsBack (attr :: rest) _ enough
  simp only [List.length_append, List.length_cons] at fuelLeft same
  refine ⟨left - 1, ?_⟩
  rw [Nat.sub_add_cancel (by omega), ← same]
  simp [Item.unserializeAttr, Item.id, Item.cls, Item.own, Item.itemlist]

theorem unserializeAttr_container (container : item.cls = .container) (rest : List UInt8) :
    Item.unserializeAttr game
        (⟨item.id, item.cls, game.construct item.cls item.id, []⟩ : Item Own)
        (saveBody game item ++ rest) =
      ⟨true, ⟨item.id, item.cls, item.own, []⟩, item.itemlist.length % 256 ^ 4,
        item.itemlist.reverse.flatMap (saveItem game) ++ 0 :: rest⟩ := by
  have isContainer : item.isContainer = true := by simp [Item.isContainer, container]
  rw [saveBody, if_pos isContainer]
  simp only [List.append_assoc, List.cons_append, List.nil_append]
  obtain ⟨fuel, same⟩ := unserializeAttr_own creatable ATTR_CONTAINER_ITEMS
    (writeNat 4 item.itemlist.length ++
      (item.itemlist.reverse.flatMap (saveItem game) ++ 0 :: rest))
  rw [same, readAttrs, if_neg (by decide), if_pos rfl, if_pos container, readNat_writeNat]

theorem unserializeAttr_depotLocker (locker : item.cls = .depotLocker) (rest : List UInt8) :
    (Item.unserializeAttr game
        (⟨item.id, item.cls, game.construct item.cls item.id, []⟩ : Item Own)
        (saveBody game item ++ rest)).ok = false := by
  have isContainer : item.isContainer = true := by simp [Item.isContainer, locker]
  rw [saveBody, if_pos isContainer]
  simp only [List.append_assoc, List.cons_append, List.nil_append]
  obtain ⟨fuel, same⟩ := unserializeAttr_own creatable ATTR_CONTAINER_ITEMS
    (writeNat 4 item.itemlist.length ++
      (item.itemlist.reverse.flatMap (saveItem game) ++ 0 :: rest))
  rw [same, readAttrs, if_neg (by decide), if_pos rfl, if_neg (by simp [locker])]

/-- Any other item is read up to its end. -/
theorem unserializeAttr_other (other : item.isContainer = false) (rest : List UInt8) :
    Item.unserializeAttr game
        (⟨item.id, item.cls, game.construct item.cls item.id, []⟩ : Item Own)
        (saveBody game item ++ rest) = ⟨true, ⟨item.id, item.cls, item.own, []⟩, 0, rest⟩ := by
  rw [saveBody, if_neg (by simp [other])]
  simp only [List.append_assoc, List.cons_append, List.nil_append]
  obtain ⟨fuel, same⟩ := unserializeAttr_own creatable 0 rest
  rw [same, readAttrs, if_pos rfl]

end

end Attributes

/-! ## Reading the items of a container -/

section Containers

variable {load : Loader Own} {items : List (Item Own)}

theorem loadContainer_reads
    (reads : ∀ item ∈ items, ∀ itemlist rest,
      load itemlist (saveItem game item ++ rest) = (true, item :: itemlist, rest))
    (itemlist : List (Item Own)) (rest : List UInt8) :
    loadContainer load items.length itemlist (items.flatMap (saveItem game) ++ rest) =
      loadContainer load 0 (items.reverse ++ itemlist) rest := by
  induction items generalizing itemlist with
  | nil => rfl
  | cons item items ih =>
    have first := reads item List.mem_cons_self itemlist
      (items.flatMap (saveItem game) ++ rest)
    rw [List.flatMap_cons, List.append_assoc, List.length_cons, loadContainer, first]
    dsimp only
    rw [ih (fun inner member => reads inner (List.mem_cons_of_mem item member)),
      List.reverse_cons, List.append_assoc, List.singleton_append]

/-- Whatever is read is put in front of what is there. -/
def Prepends (load : Loader Own) : Prop :=
  ∀ itemlist bytes, ∃ front, (load itemlist bytes).2.1 = front ++ itemlist

theorem loadContainer_prepends (prepends : Prepends load) (count : Nat) :
    Prepends (loadContainer load count) := by
  induction count with
  | zero =>
    intro itemlist bytes
    exact ⟨[], by cases bytes <;> rfl⟩
  | succ count ih =>
    intro itemlist bytes
    obtain ⟨front, first⟩ := prepends itemlist bytes
    rw [loadContainer]
    cases reading : load itemlist bytes with
    | mk ok result =>
      obtain ⟨items, rest⟩ := result
      rw [reading] at first
      cases ok with
      | false => exact ⟨front, first⟩
      | true =>
        obtain ⟨further, later⟩ := ih items rest
        exact ⟨further ++ front, by rw [List.append_assoc, ← first]; exact later⟩

/-- An item that comes back when it is read, without bytes too many or too few, is plain. -/
def ReadsOnlyPlain (game : Game Own) (load : Loader Own) (item : Item Own) : Prop :=
  ∀ {itemlist : List (Item Own)} {rest left : List UInt8},
    load itemlist (saveItem game item ++ rest) = (true, item :: itemlist, left) →
      item.Plain ∧ left = rest

/-- Reading the item well puts one item in front. -/
def ReadsOne (game : Game Own) (load : Loader Own) (item : Item Own) : Prop :=
  ∀ {itemlist items : List (Item Own)} {rest left : List UInt8},
    load itemlist (saveItem game item ++ rest) = (true, items, left) →
      ∃ first, items = first :: itemlist

/-- **No wrong turn.** A container that has in the end the items that were saved of it
was read item by item, each the one that was saved, and none was left out. -/
theorem loadContainer_exact (prepends : Prepends load)
    (one : ∀ item ∈ items, ReadsOne game load item)
    (plain : ∀ item ∈ items, ReadsOnlyPlain game load item) {count : Nat}
    (few : count ≤ items.length) {itemlist : List (Item Own)} {rest left : List UInt8}
    (loaded : loadContainer load count itemlist (items.flatMap (saveItem game) ++ rest) =
      (true, items.reverse ++ itemlist, left)) :
    count = items.length ∧ (∀ item ∈ items, item.Plain) ∧
      loadContainer load 0 (items.reverse ++ itemlist) rest =
        (true, items.reverse ++ itemlist, left) := by
  -- along the items in the order they are read
  induction items generalizing count itemlist with
  | nil =>
    obtain rfl : count = 0 := Nat.le_zero.mp few
    exact ⟨rfl, by simp, loaded⟩
  | cons item items ih =>
    cases count with
    | zero =>
      -- nothing is read, so nothing is added
      exfalso
      have kept (bytes : List UInt8) :
          (loadContainer load 0 itemlist bytes).2.1 = itemlist := by
        cases bytes <;> rfl
      have longer : itemlist = (item :: items).reverse ++ itemlist :=
        (kept _).symm.trans (congrArg (fun result => result.2.1) loaded)
      have lengths := congrArg List.length longer
      rw [List.length_append, List.length_reverse, List.length_cons] at lengths
      omega
    | succ count =>
      rw [List.flatMap_cons, List.append_assoc, loadContainer] at loaded
      cases reading : load itemlist
          (saveItem game item ++ (items.flatMap (saveItem game) ++ rest)) with
      | mk ok result =>
        obtain ⟨between, left'⟩ := result
        rw [reading] at loaded
        cases ok with
        | false => simp at loaded
        | true =>
          dsimp only at loaded
          obtain ⟨first, rfl⟩ := one item List.mem_cons_self reading
          obtain ⟨front, whole⟩ :=
            loadContainer_prepends prepends count (first :: itemlist) left'
          -- the item that was put in front stays where the saved one was
          have same : front ++ [first] = items.reverse ++ [item] := by
            have sides : items.reverse ++ [item] ++ itemlist =
                front ++ [first] ++ itemlist := by
              rw [loaded, List.reverse_cons] at whole
              rw [List.append_assoc front, List.singleton_append]
              exact whole
            exact (List.append_cancel_right sides).symm
          obtain ⟨-, isFirst⟩ := List.append_inj' same rfl
          obtain rfl : first = item := by simpa using isFirst
          obtain ⟨isPlain, rfl⟩ := plain first List.mem_cons_self reading
          have further : loadContainer load count (first :: itemlist)
              (items.flatMap (saveItem game) ++ rest) =
                (true, items.reverse ++ (first :: itemlist), left) := by
            rw [loaded, List.reverse_cons, List.append_assoc, List.singleton_append]
          obtain ⟨all, plainItems, ends⟩ := ih
            (fun inner member => one inner (List.mem_cons_of_mem first member))
            (fun inner member => plain inner (List.mem_cons_of_mem first member))
            (Nat.le_of_succ_le_succ few) further
          refine ⟨congrArg (· + 1) all, ?_, ?_⟩
          · intro inner member
            rcases List.mem_cons.mp member with rfl | later
            · exact isPlain
            · exact plainItems inner later
          · rw [List.reverse_cons, List.append_assoc, List.singleton_append]
            exact ends

end Containers

/-! ## Reading a tree -/

section Trees

variable {load : Loader Own} {item : Item Own}

theorem readNat_id (id : UInt16) (rest : List UInt8) :
    readNat 2 (writeNat 2 id.toNat ++ rest) = some (id.toNat, rest) := by
  have fits : id.toNat % 256 ^ 2 = id.toNat := Nat.mod_eq_of_lt id.toNat_lt
  rw [readNat_writeNat, fits]

section

variable (creatable : item.IsCreatable game)
include creatable

theorem loadNew_container (container : item.cls = .container) (rest : List UInt8) :
    loadNew game load item.id (saveBody game item ++ rest) =
      match loadContainer load (item.itemlist.length % 256 ^ 4) []
          (item.itemlist.reverse.flatMap (saveItem game) ++ 0 :: rest) with
      | (true, itemlist, rest) => (true, some ⟨item.id, item.cls, item.own, itemlist⟩, rest)
      | (false, _, rest) => (false, none, rest) := by
  rw [loadNew, creatable.created]
  dsimp only
  rw [unserializeAttr_container creatable container, if_pos rfl, loadContents]
  have isContainer :
      Item.isContainer (⟨item.id, item.cls, item.own, []⟩ : Item Own) = true := by
    simp [Item.isContainer, container]
  rw [if_pos isContainer]
  simp only [Item.id_mk, Item.cls_mk, Item.own_mk, Item.itemlist_mk]
  rcases loadContainer load (item.itemlist.length % 256 ^ 4) []
    (item.itemlist.reverse.flatMap (saveItem game) ++ 0 :: rest) with ⟨_ | _, itemlist, rest⟩
  · rfl
  · rfl

theorem loadNew_depotLocker (locker : item.cls = .depotLocker) (rest : List UInt8) :
    ∃ left, loadNew game load item.id (saveBody game item ++ rest) = (false, none, left) := by
  rw [loadNew, creatable.created]
  dsimp only
  rw [if_neg (by rw [unserializeAttr_depotLocker creatable locker]; simp)]
  exact ⟨_, rfl⟩

theorem loadNew_other (other : item.isContainer = false) (rest : List UInt8) :
    loadNew game load item.id (saveBody game item ++ rest) = (true, some item, rest) := by
  have bare : (⟨item.id, item.cls, item.own, []⟩ : Item Own) = item := by
    rw [← creatable.onlyContainers other, Item.mk_fields]
  rw [loadNew, creatable.created]
  dsimp only
  rw [unserializeAttr_other creatable other, bare, if_pos rfl, loadContents,
    if_neg (by simp [other])]

theorem loadNew_reads (plain : item.IsPlain)
    (reads : item.isContainer = true → ∀ inner ∈ item.itemlist, ∀ itemlist rest,
      load itemlist (saveItem game inner ++ rest) = (true, inner :: itemlist, rest))
    (rest : List UInt8) :
    loadNew game load item.id (saveBody game item ++ rest) = (true, some item, rest) := by
  by_cases container : item.cls = .container
  · have isContainer : item.isContainer = true := by simp [Item.isContainer, container]
    have counted : item.itemlist.length % 256 ^ 4 = item.itemlist.reverse.length := by
      rw [List.length_reverse, Nat.mod_eq_of_lt (by simpa using plain.counted)]
    have contents := loadContainer_reads
      (fun inner member => reads isContainer inner (List.mem_reverse.mp member)) [] (0 :: rest)
    rw [loadNew_container creatable container, counted, contents]
    simp [loadContainer]
  · refine loadNew_other creatable ?_ rest
    simp [Item.isContainer, container, plain.notLocker]

theorem loadNew_exact (prepends : Prepends load)
    (one : ∀ inner ∈ item.itemlist, ReadsOne game load inner)
    (plain : ∀ inner ∈ item.itemlist, ReadsOnlyPlain game load inner) {rest left : List UInt8}
    (loaded : loadNew game load item.id (saveBody game item ++ rest) = (true, some item, left)) :
    item.Plain ∧ left = rest := by
  by_cases locker : item.cls = .depotLocker
  · obtain ⟨after, fails⟩ := @loadNew_depotLocker _ _ load _ creatable locker rest
    simp [fails] at loaded
  by_cases container : item.cls = .container
  · rw [loadNew_container creatable container] at loaded
    cases reading : loadContainer load (item.itemlist.length % 256 ^ 4) []
        (item.itemlist.reverse.flatMap (saveItem game) ++ 0 :: rest) with
    | mk ok result =>
      obtain ⟨itemlist, after⟩ := result
      rw [reading] at loaded
      cases ok with
      | false => simp at loaded
      | true =>
        obtain ⟨same, rfl⟩ :
            ⟨item.id, item.cls, item.own, itemlist⟩ = item ∧ after = left := by
          simpa using loaded
        have contents : itemlist = item.itemlist := congrArg Item.itemlist same
        have few : item.itemlist.length % 256 ^ 4 ≤ item.itemlist.reverse.length := by
          rw [List.length_reverse]
          exact Nat.mod_le _ _
        have whole : loadContainer load (item.itemlist.length % 256 ^ 4) []
            (item.itemlist.reverse.flatMap (saveItem game) ++ 0 :: rest) =
              (true, item.itemlist.reverse.reverse ++ [], after) := by
          rw [reading, contents, List.reverse_reverse, List.append_nil]
        obtain ⟨all, plainItems, ends⟩ := loadContainer_exact prepends
          (fun inner member => one inner (List.mem_reverse.mp member))
          (fun inner member => plain inner (List.mem_reverse.mp member)) few whole
        rw [List.length_reverse] at all
        have counted : item.itemlist.length < 2 ^ 32 :=
          all ▸ item.itemlist.length.mod_lt (by decide)
        refine ⟨⟨⟨locker, counted⟩, fun inner member =>
          plainItems inner (List.mem_reverse.mpr member)⟩, ?_⟩
        exact (congrArg (fun result => result.2.2) ends).symm
  · have other : item.isContainer = false := by simp [Item.isContainer, container, locker]
    have empty := creatable.onlyContainers other
    rw [loadNew_other creatable other] at loaded
    refine ⟨⟨⟨locker, by simp [empty]⟩, by simp [empty]⟩, ?_⟩
    exact (congrArg (fun result => result.2.2) loaded).symm

end

variable (fuel : Nat)

/-- With an item's id in front, `loadItem` is what the making of a new item gives. -/
theorem loadItem_saveItem (onTile : Bool) (itemlist : List (Item Own)) (rest : List UInt8) :
    loadItem game (fuel + 1) onTile itemlist (saveItem game item ++ rest) =
      placeNew game onTile itemlist
        (loadNew game (loadItem game fuel false) item.id (saveBody game item ++ rest)) := by
  rw [saveItem_eq, List.append_assoc, loadItem, readNat_id]
  simp only [UInt16.ofNat_toNat]

theorem prepends_loadItem : Prepends (loadItem game fuel false) := by
  intro itemlist bytes
  cases fuel with
  | zero => exact ⟨[], rfl⟩
  | succ fuel =>
    rw [loadItem]
    cases readNat 2 bytes with
    | none => exact ⟨[], rfl⟩
    | some read =>
      obtain ⟨id, rest⟩ := read
      dsimp only
      rcases loadNew game (loadItem game fuel false) (.ofNat id) rest with
        ⟨ok, _ | item, rest⟩
      · exact ⟨[], rfl⟩
      · exact ⟨[item], rfl⟩

/-- **There and back.** A plain tree is read as it was, however many bytes follow it. -/
theorem loadItem_reads (creatable : item.Creatable game) (plain : item.Plain)
    (enough : (saveItem game item).length ≤ fuel) (itemlist : List (Item Own)) (rest : List UInt8) :
    loadItem game fuel false itemlist (saveItem game item ++ rest) =
      (true, item :: itemlist, rest) := by
  -- along the fuel: an item in a container is shorter than it
  induction fuel generalizing item itemlist rest with
  | zero =>
    rw [saveItem_eq] at enough
    simp at enough
  | succ fuel ih =>
    have reads : item.isContainer = true → ∀ inner ∈ item.itemlist, ∀ itemlist rest,
        loadItem game fuel false itemlist (saveItem game inner ++ rest) =
          (true, inner :: itemlist, rest) := by
      intro container inner member itemlist rest
      have shorter := @length_saveItem_lt _ game _ _ container member
      exact ih (creatable.inside inner member) (plain.inside inner member) (by omega)
        itemlist rest
    rw [loadItem_saveItem, loadNew_reads creatable.here plain.here reads]
    rfl

theorem readsOne_loadItem (creatable : item.IsCreatable game) :
    ReadsOne game (loadItem game fuel false) item := by
  intro itemlist items rest left loaded
  cases fuel with
  | zero => simp [loadItem] at loaded
  | succ fuel =>
    rw [loadItem_saveItem] at loaded
    cases reading : loadNew game (loadItem game fuel false) item.id
        (saveBody game item ++ rest) with
    | mk ok result =>
      obtain ⟨new, after⟩ := result
      rw [reading] at loaded
      cases new with
      | some first => exact ⟨first, by simpa [placeIn] using (congrArg (·.2.1) loaded).symm⟩
      | none =>
        -- an id that is created is not passed over
        exfalso
        rw [loadNew, creatable.created] at reading
        dsimp only at reading loaded
        obtain ⟨rfl, -, -⟩ : ok = true ∧ itemlist = items ∧ after = left := by
          simpa using loaded
        split at reading
        · split at reading <;> simp at reading
        · simp at reading

/-- **Only plain trees come back.** -/
theorem loadItem_exact (creatable : item.Creatable game) :
    ReadsOnlyPlain game (loadItem game fuel false) item := by
  induction fuel generalizing item with
  | zero =>
    intro itemlist rest left loaded
    simp [loadItem] at loaded
  | succ fuel ih =>
    intro itemlist rest left loaded
    rw [loadItem_saveItem] at loaded
    cases reading : loadNew game (loadItem game fuel false) item.id
        (saveBody game item ++ rest) with
    | mk ok result =>
      obtain ⟨new, after⟩ := result
      rw [reading] at loaded
      cases new with
      | none =>
        have lengths := congrArg (fun result => result.2.1.length) loaded
        simp at lengths
      | some first =>
        obtain ⟨rfl, rfl, rfl⟩ : ok = true ∧ first = item ∧ after = left := by
          simpa [placeIn] using loaded
        exact loadNew_exact creatable.here (prepends_loadItem fuel)
          (fun inner member => readsOne_loadItem fuel (creatable.inside inner member).here)
          (fun inner member => ih (creatable.inside inner member)) reading

theorem loadItem_inside {fuel : Nat} (creatable : item.Creatable game) (plain : item.Plain)
    (enough : (saveItem game item).length ≤ fuel) :
    item.isContainer = true → ∀ inner ∈ item.itemlist, ∀ itemlist rest,
      loadItem game fuel false itemlist (saveItem game inner ++ rest) =
        (true, inner :: itemlist, rest) := by
  intro container inner member itemlist rest
  have shorter := @length_saveItem_lt _ game _ _ container member
  exact loadItem_reads fuel (creatable.inside inner member) (plain.inside inner member) (by omega)
    itemlist rest

/-- On a tile that an item of the id is made anew on, `loadItem` adds the tree. -/
theorem loadItem_onTile (creatable : item.Creatable game) (plain : item.Plain)
    (anew : (game.items item.id).moveable ∨ (game.items item.id).forceSerialize)
    (tile : Tile Own) (rest : List UInt8) :
    tile.loadItem game (saveItem game item ++ rest) =
      (true, game.startDecayingOn item (tile.internalAddThing game item), rest) := by
  have enough : (saveItem game item).length ≤ (saveItem game item ++ rest).length := by simp
  have made := loadNew_reads creatable.here plain.here (loadItem_inside creatable plain enough) rest
  have anew : ((game.items item.id).moveable || (game.items item.id).forceSerialize) = true := by
    simpa using anew
  rw [Tile.loadItem]
  rw [saveItem_eq, List.append_assoc] at made ⊢
  rw [readNat_id]
  simp only [UInt16.ofNat_toNat]
  rw [if_pos anew, made]

theorem loadItem_gone (creatable : item.Creatable game) (plain : item.Plain)
    (stationary : ¬ ((game.items item.id).moveable ∨ (game.items item.id).forceSerialize))
    {tile : Tile Own} (gone : ∀ other ∈ tile.items, Tile.isFound game item.id other = false)
    (rest : List UInt8) : tile.loadItem game (saveItem game item ++ rest) = (true, tile, rest) := by
  have notFound : (tile.items.zipIdx.find? fun entry => Tile.isFound game item.id entry.1) =
      none := by
    rw [List.find?_eq_none]
    intro entry member
    simp [gone entry.1 (List.fst_mem_of_mem_zipIdx member)]
  have enough : (saveItem game item).length ≤ (saveItem game item ++ rest).length := by simp
  have made := loadNew_reads creatable.here plain.here (loadItem_inside creatable plain enough) rest
  have stationary : ((game.items item.id).moveable || (game.items item.id).forceSerialize) =
      false := by simpa using stationary
  rw [Tile.loadItem]
  rw [saveItem_eq, List.append_assoc] at made ⊢
  rw [readNat_id]
  simp only [UInt16.ofNat_toNat, stationary, Bool.false_eq_true, if_false]
  rw [Tile.loadStationary, notFound]
  -- the dummy is read as the new item would be
  rw [loadNew, creatable.here.created] at made
  rw [creatable.here.created]
  dsimp only at made ⊢
  split at made
  · generalize loadContents _ _ = contents at made ⊢
    obtain ⟨ok, dummy, left⟩ := contents
    cases ok with
    | false => simp at made
    | true =>
      obtain ⟨-, rfl⟩ : dummy = item ∧ left = rest := by simpa using made
      rfl
  · simp at made

/-- **Which trees come back.** -/
theorem rebuilt_iff (creatable : item.Creatable game) : item.Rebuilt game ↔ item.Plain := by
  constructor
  · intro rebuilt
    exact (loadItem_exact _ creatable ((rebuilt []).1 [])).1
  · intro plain rest
    refine ⟨fun itemlist => loadItem_reads _ creatable plain (by simp) itemlist rest,
      fun tile anew => loadItem_onTile creatable plain anew tile rest⟩

end Trees

end Otserv.HouseItems
