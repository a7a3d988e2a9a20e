import Otserv.Network.MapDescription

/-!
# Map descriptions are read back

A client that knows which part of the map is described takes every tile and every empty cell
back from the bytes of the description, to their end, as long as the description fits into
the message (`described_of_read`). Bytes for which there is no room are left out
(`long_description_lost`).
-/

namespace Otserv.Network

open Foundation

/-! ## What is added to a message -/

/-- The bytes were added behind what was there. -/
structure NetworkMessage.Adds (before after : NetworkMessage) (bytes : List UInt8) : Prop where
  position : after.position.toNat = before.position.toNat + bytes.length
  kept (place length : Nat) : place + length ≤ before.position.toNat →
    after.buffer.bytes place length = before.buffer.bytes place length
  added : after.buffer.bytes before.position.toNat bytes.length = bytes

namespace NetworkMessage

variable (msg : NetworkMessage)

theorem Adds.refl : msg.Adds msg [] :=
  ⟨rfl, fun _ _ _ => rfl, rfl⟩

theorem Adds.trans {before between after : NetworkMessage} {bytes more : List UInt8}
    (first : before.Adds between bytes) (second : between.Adds after more) :
    before.Adds after (bytes ++ more) where
  position := by
    rw [second.position, first.position, List.length_append, Nat.add_assoc]
  kept place length below := by
    rw [second.kept place length (by rw [first.position]; omega), first.kept place length below]
  added := by
    rw [List.length_append, Buffer.bytes_add, second.kept _ _ (Nat.le_of_eq first.position.symm), first.added,
      ← first.position, second.added]

theorem Adds.since {before after : NetworkMessage} {bytes : List UInt8}
    (adds : before.Adds after bytes) : after.since before = bytes := by
  rw [NetworkMessage.since, adds.position, Nat.add_sub_cancel_left, adds.added]

theorem adds_addBytes (bytes : List UInt8)
    (fits : msg.position.toNat + bytes.length < MAX_BODY_LENGTH) :
    msg.Adds (msg.addBytes bytes) bytes := by
  have room : MAX_BODY_LENGTH = 65521 := rfl
  have canAdd : (!msg.canAdd bytes.length) = false := by
    rw [canAdd, decide_eq_true (by omega), Bool.not_true]
  have eq : msg.addBytes bytes =
      { msg with
        buffer := msg.buffer.store msg.position.toNat bytes
        position := msg.position + UInt16.ofNat bytes.length
        length := msg.length + UInt16.ofNat bytes.length } := by
    rw [addBytes, canAdd]
    rfl
  rw [eq]
  refine ⟨?_, fun place length below => ?_, Buffer.bytes_store _ _ _⟩
  · rw [UInt16.toNat_add, toNat_ofNat16 (by omega), Nat.mod_eq_of_lt (by omega)]
  · exact Buffer.bytes_store_behind _ _ _ _ below

/-- What fits is written, call by call. -/
theorem adds_foldl (writes : List (List UInt8)) (msg : NetworkMessage)
    (fits : msg.position.toNat + writes.flatten.length < MAX_BODY_LENGTH) :
    msg.Adds (writes.foldl addBytes msg) writes.flatten := by
  induction writes generalizing msg with
  | nil => exact .refl msg
  | cons bytes writes ih =>
    rw [List.flatten_cons, List.length_append] at fits
    have first := msg.adds_addBytes bytes (by omega)
    have second := ih (msg.addBytes bytes) (by rw [first.position]; omega)
    exact first.trans second

/-- No more can be added than there is room for. -/
theorem length_since (msg before : NetworkMessage) : (msg.since before).length < 65536 := by
  rw [since, Buffer.length_bytes]
  exact Nat.lt_of_le_of_lt (Nat.sub_le _ _) msg.position.toNat_lt

end NetworkMessage

namespace ProtocolGame

/-! ## The calls that write a tile -/

variable (tile : Tile)

/-- The calls that describe a tile. -/
def tileWrites : List (List UInt8) := bytes16 0 :: tile.shown.flatten

theorem flatten_tileWrites : (tileWrites tile).flatten = tile.description := rfl

theorem foldl_addThing (things : List Thing) (msg : NetworkMessage) :
    things.foldl addThing msg = things.flatten.foldl NetworkMessage.addBytes msg :=
  List.foldl_flatten.symm

theorem addItems_eq (items : List Thing) (msg : NetworkMessage) {count : Nat}
    (few : count < 10) : addItems items msg count =
      ((items.take (10 - count)).foldl addThing msg,
        count + (items.take (10 - count)).length) := by
  induction items generalizing msg count with
  | nil => rw [List.take_nil]; rfl
  | cons item items ih =>
    rw [addItems, show 10 - count = 9 - count + 1 by omega, List.take_succ_cons]
    by_cases last : count + 1 = 10
    · rw [if_pos last, show 9 - count = 0 by omega]
      rfl
    · rw [if_neg last, ih (addThing msg item) (by omega), show 10 - (count + 1) = 9 - count by omega,
        List.foldl_cons, List.length_cons]
      exact Prod.ext rfl (by omega)

theorem addCreatures_eq (creatures : List (Bool × Thing)) (msg : NetworkMessage) (count : Nat) :
    addCreatures creatures msg count =
      (((creatures.filter (·.1)).map (·.2)).foldl addThing msg,
        count + ((creatures.filter (·.1)).map (·.2)).length) := by
  induction creatures generalizing msg count with
  | nil => rfl
  | cons creature creatures ih =>
    obtain ⟨canSee, creature⟩ := creature
    cases canSee with
    | false => exact ih msg count
    | true =>
      have rest := ih (addThing msg creature) (count + 1)
      rw [List.filter_cons_of_pos rfl, List.map_cons, List.foldl_cons, List.length_cons]
      exact rest.trans (Prod.ext rfl (by omega))

theorem addDownItems_eq (items : List Thing) (msg : NetworkMessage) (count : Nat) :
    (if count < 10 then (addItems items msg count).1 else msg) =
      (items.take (10 - count)).foldl addThing msg := by
  by_cases few : count < 10
  · rw [if_pos few, addItems_eq items msg few]
  · rw [if_neg few, show 10 - count = 0 by omega]
    rfl

theorem describe_behind (ground : List Thing) (few : ground.length < 10) (tile : Tile)
    (msg : NetworkMessage) :
    (let (msg, count) := addItems tile.topItems (ground.foldl addThing msg) ground.length
      let (msg, count) := addCreatures tile.creatures.reverse msg count
      if count < 10 then (addItems tile.downItems msg count).1 else msg) =
    (let top := ground ++ tile.topItems.take (10 - ground.length)
      let standing := top ++ (tile.creatures.reverse.filter (·.1)).map (·.2)
      standing ++ tile.downItems.take (10 - standing.length)).foldl addThing msg := by
  simp only [addItems_eq _ _ few, addCreatures_eq, addDownItems_eq, List.foldl_append,
    List.length_append]

theorem GetTileDescription_eq (msg : NetworkMessage) :
    GetTileDescription tile msg = (tileWrites tile).foldl NetworkMessage.addBytes msg := by
  have shown : GetTileDescription tile msg = tile.shown.foldl addThing (msg.add16 0) := by
    obtain ⟨none | ground, topItems, creatures, downItems⟩ := tile
    · exact describe_behind [] (by decide) ⟨none, topItems, creatures, downItems⟩ (msg.add16 0)
    · exact describe_behind [ground] (by decide : 1 < 10)
        ⟨some ground, topItems, creatures, downItems⟩ (msg.add16 0)
  rw [shown, foldl_addThing]
  rfl

/-! ## The calls that write the map -/

variable (skip : Int)

/-- The calls that end a run of empty cells. -/
def skipWrites : List (List UInt8) :=
  if 0 ≤ skip then [[UInt8.ofInt skip], [0xFF]] else []

/-- The calls that describe cells, from a run on. -/
def cellWrites : Int → List (Option Tile) → List (List UInt8)
  | skip, [] => skipWrites skip
  | skip, some tile :: tiles => skipWrites skip ++ tileWrites tile ++ cellWrites 0 tiles
  | skip, none :: tiles =>
    if skip = 0xFE then [0xFF] :: [0xFF] :: cellWrites (-1) tiles
    else cellWrites (skip + 1) tiles

theorem addSkip_eq (msg : NetworkMessage) :
    addSkip skip msg = (skipWrites skip).foldl NetworkMessage.addBytes msg := by
  rw [addSkip, skipWrites]
  split_ifs <;> rfl

theorem flatten_skipWrites : (skipWrites skip).flatten = SkipRuns.closing skip := by
  rw [skipWrites, SkipRuns.closing]
  split_ifs <;> rfl

/-- The loops over the cells make these calls. -/
theorem foldl_describeCell (tiles : List (Option Tile)) (msg : NetworkMessage) (skip : Int) :
    addSkip (tiles.foldl (fun state tile => describeCell tile state) (msg, skip)).2
        (tiles.foldl (fun state tile => describeCell tile state) (msg, skip)).1 =
      (cellWrites skip tiles).foldl NetworkMessage.addBytes msg := by
  induction tiles generalizing msg skip with
  | nil => exact addSkip_eq skip msg
  | cons tile tiles ih =>
    cases tile with
    | some tile =>
      rw [List.foldl_cons, describeCell, ih, cellWrites, List.foldl_append, List.foldl_append,
        ← addSkip_eq, ← GetTileDescription_eq]
    | none =>
      rw [List.foldl_cons, describeCell, cellWrites]
      split_ifs with full
      · rw [ih]
        rfl
      · rw [ih]

theorem flatten_cellWrites (tiles : List (Option Tile)) :
    (cellWrites skip tiles).flatten =
      SkipRuns.write skip (tiles.map fun tile => tile.map Tile.description) := by
  induction tiles generalizing skip with
  | nil => exact flatten_skipWrites skip
  | cons tile tiles ih =>
    cases tile with
    | some tile =>
      rw [cellWrites, List.flatten_append, List.flatten_append, ih, flatten_skipWrites,
        flatten_tileWrites]
      rfl
    | none =>
      rw [cellWrites, List.map_cons, Option.map_none, SkipRuns.write]
      split_ifs with full
      · rw [List.flatten_cons, List.flatten_cons, ih]
        rfl
      · exact ih (skip + 1)

section Map

variable (getTile : UInt16 → UInt16 → UInt8 → Option Tile) (x y : Int) (z : Fin 16)
  (width height : Int)

/-- The description of the map, with room for all of it. -/
def mapBytes : List UInt8 :=
  SkipRuns.write (-1) ((described getTile x y z width height).map (·.2))

theorem GetMapDescription_eq (msg : NetworkMessage) :
    GetMapDescription getTile x y z width height msg =
      (cellWrites (-1) ((cells z width height).map (tileAt getTile x y z))).foldl
        NetworkMessage.addBytes msg := by
  have loops (state : NetworkMessage × Int) :
      (floors z).foldl (fun state nz =>
        GetFloorDescription getTile x y nz width height (z - nz) state) state =
      ((cells z width height).map (tileAt getTile x y z)).foldl
        (fun state tile => describeCell tile state) state := by
    rw [List.foldl_map, cells, List.foldl_flatMap]
    simp only [List.foldl_flatMap, List.foldl_map]
    rfl
  rw [← foldl_describeCell, ← loops]
  rfl

theorem flatten_mapWrites :
    (cellWrites (-1) ((cells z width height).map (tileAt getTile x y z))).flatten =
      mapBytes getTile x y z width height := by
  rw [flatten_cellWrites, mapBytes, described, List.map_map, List.map_map]
  rfl

end Map

/-- **The map is read back from its description** if there is room for it: which cells hold
a tile, and what the description of each is. -/
theorem described_of_read {getTile : UInt16 → UInt16 → UInt8 → Option Tile}
    {split : List UInt8 → Option (List UInt8 × List UInt8)} {x y : Int} {z : Fin 16}
    {width height : Int} {msg : NetworkMessage}
    (fits : msg.position.toNat + (mapBytes getTile x y z width height).length < MAX_BODY_LENGTH)
    (delimited : ∀ cell ∈ described getTile x y z width height, ∀ description,
      cell.2 = some description → SkipRuns.Delimited split description) :
    SkipRuns.read split true 0 (cells z width height)
        ((GetMapDescription getTile x y z width height msg).since msg) =
      some (described getTile x y z width height, []) := by
  have bytes := flatten_mapWrites getTile x y z width height
  rw [← bytes] at fits
  have adds := NetworkMessage.adds_foldl _ msg fits
  rw [← GetMapDescription_eq, bytes] at adds
  have places : cells z width height = (described getTile x y z width height).map (·.1) := by
    rw [described, List.map_map]
    exact (List.map_id _).symm
  rw [adds.since, places]
  exact SkipRuns.read_write _ delimited

theorem delimited_of_tiles {getTile : UInt16 → UInt16 → UInt8 → Option Tile}
    {split : List UInt8 → Option (List UInt8 × List UInt8)}
    (tiles : ∀ x y z tile, getTile x y z = some tile →
      SkipRuns.Delimited split tile.description) (x y : Int) (z : Fin 16) (width height : Int) :
    ∀ cell ∈ described getTile x y z width height, ∀ description,
      cell.2 = some description → SkipRuns.Delimited split description := by
  intro cell member description isDescription
  obtain ⟨place, -, rfl⟩ := List.mem_map.mp member
  obtain ⟨tile, found, rfl⟩ := Option.map_eq_some_iff.mp isDescription
  exact tiles _ _ _ tile found

/-- A message with nothing in it. -/
def emptyMessage : NetworkMessage := { buffer := ⟨fun _ => 0⟩ }

/-- A tile with a ground of the client's id 102. -/
def grassTile : Tile := ⟨some [[0x66, 0x00], [0xFF], [0x00]], [], [], []⟩

def bareTile : Tile := ⟨none, [], [], []⟩

/-- So many bytes are a description. -/
def splitAt (length : Nat) (bytes : List UInt8) : Option (List UInt8 × List UInt8) :=
  if bytes.length < length then none else some (bytes.take length, bytes.drop length)

theorem splitAt_append (description rest : List UInt8) :
    splitAt description.length (description ++ rest) = some (description, rest) := by
  have long : ¬(description ++ rest).length < description.length := by
    rw [List.length_append]
    exact Nat.not_lt.mpr (Nat.le_add_right _ _)
  rw [splitAt, if_neg long, List.take_left, List.drop_left]

theorem delimited_splitAt {low high : UInt8} {rest : List UInt8} (noMarker : high ≠ 0xFF) :
    SkipRuns.Delimited (splitAt (rest.length + 2)) (low :: high :: rest) where
  starts := ⟨low, high, rest, rfl, noMarker⟩
  ends _ _ := splitAt_append (low :: high :: rest) _

/-- One tile of the lowest floor is seen between fifteen empty cells. -/
theorem described_of_read_grass :
    SkipRuns.read (splitAt 6) true 0 (cells 7 2 1)
        ((GetMapDescription (fun x _ z => if x = 1 ∧ z = 7 then some grassTile else none)
          0 0 7 2 1 emptyMessage).since emptyMessage) =
      some (described (fun x _ z => if x = 1 ∧ z = 7 then some grassTile else none) 0 0 7 2 1,
        []) := by
  apply described_of_read
  · decide +kernel
  · apply delimited_of_tiles
    intro x y z tile found
    split_ifs at found
    cases found
    exact @delimited_splitAt 0 0 [0x66, 0x00, 0xFF, 0x00] (by decide)

theorem length_cells (z : Fin 16) (width height : Int) :
    (cells z width height).length = (floors z).length * (width.toNat * height.toNat) := by
  simp only [cells, List.length_flatMap, List.length_map, List.length_range, List.map_const',
    List.sum_replicate_nat]

/-- A column of 5000 tiles on each floor is too long for a message, and cannot be read
back. -/
theorem long_description_lost :
    ∃ (getTile : UInt16 → UInt16 → UInt8 → Option Tile)
      (split : List UInt8 → Option (List UInt8 × List UInt8)) (x y : Int) (z : Fin 16)
      (width height : Int) (msg : NetworkMessage),
      (∀ cell ∈ described getTile x y z width height, ∀ description,
        cell.2 = some description → SkipRuns.Delimited split description) ∧
      SkipRuns.read split true 0 (cells z width height)
          ((GetMapDescription getTile x y z width height msg).since msg) ≠
        some (described getTile x y z width height, []) := by
  refine ⟨fun _ _ _ => some bareTile, splitAt 2, 0, 0, 7, 1, 5000, emptyMessage, ?_, ?_⟩
  · apply delimited_of_tiles
    intro x y z tile found
    cases found
    exact @delimited_splitAt 0 0 [] (by decide)
  · intro reads
    have shorter (bytes description rest : List UInt8)
        (isSplit : splitAt 2 bytes = some (description, rest)) : rest.length ≤ bytes.length := by
      rw [splitAt] at isSplit
      split_ifs at isSplit
      cases isSplit
      rw [List.length_drop]
      exact Nat.sub_le _ _
    have enough := SkipRuns.length_of_read shorter _ _ _ reads
    have short := (GetMapDescription (fun _ _ _ => some bareTile) 0 0 7 1 5000
      emptyMessage).length_since emptyMessage
    have all : (described (fun _ _ _ => some bareTile) 0 0 7 1 5000).countP
        (fun cell => cell.2.isSome) = 40000 := by
      have present : ∀ cell ∈ described (fun _ _ _ => some bareTile) 0 0 7 1 5000,
          cell.2.isSome = true := by
        intro cell member
        obtain ⟨place, -, rfl⟩ := List.mem_map.mp member
        rfl
      rw [List.countP_eq_length.mpr present, described, List.length_map, length_cells]
      rfl
    omega

end ProtocolGame

end Otserv.Network
