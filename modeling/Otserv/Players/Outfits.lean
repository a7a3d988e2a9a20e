import Mathlib.Data.List.AList
import Otserv.Foundation.Runs

/-!
# Outfits in the storage of a player

While a player is on-line its outfits are a list. A save writes them into the player's own
storage map, under numbers from a range of keys that is reserved for them, and then writes the
map to the database; a login adds each row to a new player, and a row in that range becomes an
outfit.

The quest log and the warning for an unknown reserved key are left out.
-/

namespace Otserv.Players

open Foundation

structure OutfitEntry where
  lookType : UInt16
  addons : UInt8
deriving DecidableEq

/-- `std::map<uint32_t, int32_t>`. -/
abbrev StorageMap : Type := AList fun _ : UInt32 => Int32

/-! ## Key ranges -/

structure KeyRange where
  start : UInt32
  size : UInt32

/-- `IS_IN_KEYRANGE`. -/
def isInKeyRange (key : UInt32) (range : KeyRange) : Bool :=
  key ≥ range.start ∧ key - range.start ≤ range.size

def reservedRange : KeyRange := ⟨10000000, 10000000⟩
def outfitsRange : KeyRange := ⟨reservedRange.start + 1000, 500⟩
def mountsRange : KeyRange := ⟨reservedRange.start + 2001, 10⟩
def wingsRange : KeyRange := ⟨reservedRange.start + 2012, 10⟩
def aurasRange : KeyRange := ⟨reservedRange.start + 2023, 10⟩
def shadersRange : KeyRange := ⟨reservedRange.start + 2034, 10⟩

/-- A reserved key that is of none of the ranges. -/
def isUnknownReserved (key : UInt32) : Bool :=
  isInKeyRange key reservedRange ∧ ¬isInKeyRange key outfitsRange ∧
    ¬(isInKeyRange key mountsRange ∨ isInKeyRange key wingsRange ∨ isInKeyRange key aurasRange ∨
      isInKeyRange key shadersRange)

/-! ## The player -/

structure Player where
  outfits : List OutfitEntry := []
  storageMap : StorageMap := ∅

/-- `(entry.lookType << 16) | entry.addons`. -/
def OutfitEntry.value (entry : OutfitEntry) : Int32 :=
  (entry.lookType.toUInt32 <<< 16 ||| entry.addons.toUInt32).toInt32

/-- The entry that a login makes of a value. -/
def OutfitEntry.ofValue (value : Int32) : OutfitEntry :=
  ⟨(value >>> 16).toUInt32.toUInt16, (value &&& 0xFF).toUInt32.toUInt8⟩

namespace Player

variable (player : Player)

/-- `Player::addStorageValue`. -/
def addStorageValue (key : UInt32) (value : Int32) : Player :=
  if isInKeyRange key reservedRange ∧ isInKeyRange key outfitsRange then
    { player with outfits := player.outfits ++ [.ofValue value] }
  else if isUnknownReserved key then player
  else if value ≠ -1 then { player with storageMap := player.storageMap.insert key value }
  else { player with storageMap := player.storageMap.erase key }

/-- `Player::getStorageValue`. -/
def getStorageValue (key : UInt32) : Option Int32 := player.storageMap.lookup key

/-- The loop of `genReservedStorageRange`. -/
def genReserved : List OutfitEntry → UInt32 → StorageMap → StorageMap
  | [], _, storageMap => storageMap
  | entry :: rest, baseKey, storageMap =>
    genReserved rest (baseKey + 1) (storageMap.insert (baseKey + 1) entry.value)

/-- `Player::genReservedStorageRange`. -/
def genReservedStorageRange : Player :=
  { player with storageMap := genReserved player.outfits outfitsRange.start player.storageMap }

/-- The loop of `addOutfit`. -/
def addOutfitTo (lookType : UInt16) (addons : UInt8) : List OutfitEntry → List OutfitEntry
  | [] => [⟨lookType, addons⟩]
  | outfitEntry :: rest =>
    if outfitEntry.lookType = lookType then
      { outfitEntry with addons := outfitEntry.addons ||| addons } :: rest
    else outfitEntry :: addOutfitTo lookType addons rest

/-- `Player::addOutfit`. -/
def addOutfit (lookType : UInt16) (addons : UInt8) : Player :=
  { player with outfits := addOutfitTo lookType addons player.outfits }

/-- `Player::removeOutfit`. -/
def removeOutfit (lookType : UInt16) : Player :=
  { player with outfits := player.outfits.eraseP fun entry => entry.lookType = lookType }

/-- The loop of `removeOutfitAddon`. -/
def removeAddonFrom (lookType : UInt16) (addons : UInt8) : List OutfitEntry → List OutfitEntry
  | [] => []
  | outfitEntry :: rest =>
    if outfitEntry.lookType = lookType then
      { outfitEntry with addons := outfitEntry.addons &&& ~~~addons } :: rest
    else outfitEntry :: removeAddonFrom lookType addons rest

/-- `Player::removeOutfitAddon`. -/
def removeOutfitAddon (lookType : UInt16) (addons : UInt8) : Player :=
  { player with outfits := removeAddonFrom lookType addons player.outfits }

end Player

/-- The storage part of `IOLoginData::loadPlayer`: a new player is given the rows. -/
def loadPlayer (rows : List (Sigma fun _ : UInt32 => Int32)) : Player :=
  rows.foldl (fun player row => player.addStorageValue row.1 row.2) {}

/-! ## Saves and logins -/

/-- A player on-line and the rows of `player_storage`, with what the last save was given. -/
structure World where
  player : Player := {}
  rows : StorageMap := ∅
  /-- The player at the last save. -/
  saved : Player := {}
  /-- The most outfits at a save of this session. -/
  most : Nat := 0
  /-- The same at the last save. -/
  savedMost : Nat := 0

/-- The storage part of `IOLoginData::savePlayer`. Where the save fails later, its transaction
is rolled back. -/
def World.savePlayer (world : World) (committed : Bool) : World :=
  let player := world.player.genReservedStorageRange
  let most := max world.most world.player.outfits.length
  if committed then
    { player := player, rows := player.storageMap, saved := world.player, most := most,
      savedMost := most }
  else { world with player := player, most := most }

inductive Op where
  | addOutfit (lookType : UInt16) (addons : UInt8)
  | removeOutfit (lookType : UInt16)
  | removeOutfitAddon (lookType : UInt16) (addons : UInt8)
  | addStorageValue (key : UInt32) (value : Int32)
  | savePlayer (committed : Bool)
  | login (rows : List (Sigma fun _ : UInt32 => Int32))

/-- A player has at most 500 outfits, a storage value is not set under a key for outfits, and
the rows come in some order. -/
def system : System World Op where
  legal world
    | .addOutfit lookType _ =>
      (world.player.outfits.any fun entry => entry.lookType = lookType) ∨
        world.player.outfits.length < 500
    | .addStorageValue key _ => isInKeyRange key outfitsRange = false
    | .login rows => rows.Perm world.rows.entries
    | .removeOutfit _ | .removeOutfitAddon _ _ | .savePlayer _ => True
  step world
    | .addOutfit lookType addons =>
      { world with player := world.player.addOutfit lookType addons }
    | .removeOutfit lookType => { world with player := world.player.removeOutfit lookType }
    | .removeOutfitAddon lookType addons =>
      { world with player := world.player.removeOutfitAddon lookType addons }
    | .addStorageValue key value =>
      { world with player := world.player.addStorageValue key value }
    | .savePlayer committed => world.savePlayer committed
    | .login rows => { world with player := loadPlayer rows, most := 0 }

end Otserv.Players
