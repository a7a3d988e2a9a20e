import Mathlib.Data.List.DropRight
import Otserv.Foundation.Runs

/-!
# A house

The owner of a house, the lists of who may enter it, and the document with which its owner trades
it. `setOwner` cleans the lists of an owned house; `getTransferItem` issues one document at a
time, and a trade with it is completed (`executeTransfer`) or cancelled (`resetTransferItem`).

The documents are numbered, and it is kept for whom each one was issued and which of them exist.
What the server looks up in the database comes with each operation. The creatures and items in
the house, its beds and the description of its doors are left out.
-/

namespace Otserv.Houses

open Foundation

abbrev Text := List Char

/-- What is looked up: `0` and an empty name stand for nobody. -/
structure Lookup where
  rentPeriod : Text
  currentTime : Nat
  getNameByGuid : Nat → Text
  getAccountIdByPlayerName : Text → Nat
  /-- Of a player in the game, or else of one in the database. -/
  getGuidByName : Text → Nat
  getGuildIdByName : Text → Nat

structure AccessList where
  list : Text := []
  playerList : List Nat := []
  guildRankList : List Nat := []
  allowEveryone : Bool := false
deriving DecidableEq

namespace AccessList

variable (lookup : Lookup) (access : AccessList)

def addPlayer (name : Text) : AccessList :=
  let guid := lookup.getGuidByName name
  if guid ≠ 0 then { access with playerList := access.playerList.insert guid } else access

def addGuild (name : Text) : AccessList :=
  let guildId := lookup.getGuildIdByName name
  if guildId ≠ 0 then { access with guildRankList := access.guildRankList.insert guildId }
  else access

def trim (mark : Char) (line : Text) : Text :=
  (line.rdropWhile (· == mark)).dropWhile (· == mark)

/-- One line of the list. -/
def parseLine (line : Text) : AccessList :=
  let line := trim ' ' (trim '\t' (trim ' ' line))
  if line = [] ∨ line.head? = some '#' ∨ 100 < line.length then access
  else
    let line := line.map Char.toLower
    if '@' ∈ line then access.addGuild lookup (line.dropWhile (· != '@')).tail
    else if line = ['*'] then { access with allowEveryone := true }
    else if '!' ∈ line ∨ '*' ∈ line ∨ '?' ∈ line then access
    else access.addPlayer lookup line

def parseList (list : Text) : AccessList :=
  let cleared : AccessList := { list := list }
  if list = [] then cleared
  else ((list.splitOn '\n').take 99).foldl (parseLine lookup) cleared

end AccessList

structure Door where
  doorId : Nat
  accessList : AccessList := {}
deriving DecidableEq

def Door.setAccessList (lookup : Lookup) (textlist : Text) (door : Door) : Door :=
  { door with accessList := .parseList lookup textlist }

abbrev GUEST_LIST : Nat := 0x100
abbrev SUBOWNER_LIST : Nat := 0x101

structure House where
  owner : Nat := 0
  ownerName : Text := []
  ownerAccountId : Nat := 0
  isLoaded : Bool := false
  paidUntil : Nat := 0
  rentWarnings : Nat := 0
  guestList : AccessList := {}
  subOwnerList : AccessList := {}
  doorSet : List Door := []
  /-- The number of the document. -/
  transferItem : Option Nat := none

namespace House

variable (lookup : Lookup) (house : House)

def setAccessList (listId : Nat) (textlist : Text) : House :=
  if listId = GUEST_LIST then { house with guestList := .parseList lookup textlist }
  else if listId = SUBOWNER_LIST then { house with subOwnerList := .parseList lookup textlist }
  else
    -- only the first door of the number
    match house.doorSet.findIdx? (·.doorId == listId) with
    | some index =>
      { house with doorSet := house.doorSet.modify index (Door.setAccessList lookup textlist) }
    | none => house

/-- How long the rent is paid for when nobody owned the house. -/
def paidUntilFrom : Nat :=
  let strRentPeriod := lookup.rentPeriod.map Char.toLower
  if strRentPeriod = "yearly".toList then lookup.currentTime + 24 * 60 * 60 * 365
  else if strRentPeriod = "monthly".toList then lookup.currentTime + 24 * 60 * 60 * 30
  else if strRentPeriod = "weekly".toList then lookup.currentTime + 24 * 60 * 60 * 7
  else if strRentPeriod = "daily".toList then lookup.currentTime + 24 * 60 * 60
  else 0

/-- Nobody owns the house any more, and nobody may enter it. -/
def cleanAccessLists : House :=
  let house := { house with owner := 0, ownerAccountId := 0 }
  let house := (house.setAccessList lookup SUBOWNER_LIST []).setAccessList lookup GUEST_LIST []
  { house with doorSet := house.doorSet.map (Door.setAccessList lookup []) }

def setOwner (guid : Nat) : House :=
  if house.isLoaded ∧ house.owner = guid then house
  else
    let house := { house with isLoaded := true }
    let house :=
      if house.owner ≠ 0 then house.cleanAccessLists lookup
      else { house with paidUntil := paidUntilFrom lookup }
    let house := { house with rentWarnings := 0 }
    let name := lookup.getNameByGuid guid
    if guid ≠ 0 ∧ name ≠ [] then
      { house with
        owner := guid
        ownerName := name
        ownerAccountId := lookup.getAccountIdByPlayerName name }
    else house

/-- The new document, or none while there is one. -/
def getTransferItem (number : Nat) : House × Option Nat :=
  match house.transferItem with
  | some _ => (house, none)
  | none => ({ house with transferItem := some number }, some number)

/-- The document that is released goes with the house. -/
def resetTransferItem : House × Option Nat :=
  ({ house with transferItem := none }, house.transferItem)

def executeTransfer (item newOwner : Nat) : House × Bool :=
  if house.transferItem ≠ some item then (house, false)
  else ({ house.setOwner lookup newOwner with transferItem := none }, true)

end House

/-- The house and its documents. -/
structure Trades where
  house : House := {}
  /-- For whom each document was issued. -/
  issuers : List Nat := []
  /-- The documents that exist. -/
  documents : List Nat := []

namespace Trades

variable (trades : Trades)

/-- `luaHouseStartTrade`, where the player owns the house. -/
def startTrade (player : Nat) : Trades :=
  match trades.house.getTransferItem trades.issuers.length with
  | (_, none) => trades
  | (house, some item) =>
    { house := house
      issuers := trades.issuers ++ [player]
      documents := trades.documents ++ [item] }

/-- `onTradeEvent` with `ON_TRADE_TRANSFER`; the document is removed behind it. -/
def transfer (lookup : Lookup) (item newOwner : Nat) : Trades :=
  { trades with
    house := (trades.house.executeTransfer lookup item newOwner).1
    documents := trades.documents.erase item }

/-- `onTradeEvent` with `ON_TRADE_CANCEL`. -/
def cancel : Trades :=
  let (house, released) := trades.house.resetTransferItem
  { trades with
    house := house
    documents := trades.documents.filter fun item => released ≠ some item }

end Trades

inductive TradeOp where
  | startTrade (player : Nat)
  | transfer (lookup : Lookup) (item newOwner : Nat)
  | cancel (item : Nat)
  | setOwner (lookup : Lookup) (guid : Nat)
  | setAccessList (lookup : Lookup) (listId : Nat) (textlist : Text)

/-- What players and scripts do with a house. A trade may be completed with any document that was
ever issued, and cancelled while the document exists. -/
def houseTrades : System Trades TradeOp where
  legal trades
    | .startTrade player => trades.house.owner = player
    | .transfer _ item _ => item < trades.issuers.length
    | .cancel item => item ∈ trades.documents
    | .setOwner .. | .setAccessList .. => True
  step trades
    | .startTrade player => trades.startTrade player
    | .transfer lookup item newOwner => trades.transfer lookup item newOwner
    | .cancel _ => trades.cancel
    | .setOwner lookup guid => { trades with house := trades.house.setOwner lookup guid }
    | .setAccessList lookup listId textlist =>
      { trades with house := trades.house.setAccessList lookup listId textlist }

end Otserv.Houses
