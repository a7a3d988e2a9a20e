import Otserv.Foundation.OwnerIndex

/-!
# The market: offers, the lists of each player's offers, and the offer counter

`IOMarket` keeps all offers in `marketItems` by their number, the numbers of
each player's offers in `playerItems`, and in `lastIdIncrement` the counter from
which `addMarketItem` takes the next number.

The offers are read from the rows of `market_offers` once, at start
(`loadMarketItems`), and are written back as freshly numbered rows
(`saveMarketItems`).
-/

namespace Otserv.Market

open Otserv.Foundation

structure PokeballAttributes where
  name : String := ""
  boost : UInt16 := 0
deriving DecidableEq, Inhabited

/-- An offer. `currency` is the number behind `MarketCurrency_t`: 0 for money
and 1 for diamonds. -/
structure MarketItem where
  attributes : List UInt8 := []
  itemName : String := ""
  playerName : String := ""
  amount : UInt16 := 0
  category : UInt16 := 0
  itemtype : UInt16 := 0
  id : UInt32 := 0
  playerId : UInt32 := 0
  price : UInt64 := 0
  created : Int := 0
  anonymous : Bool := false
  expired : Bool := false
  currency : UInt8 := 0
  attributesSize : Nat := 0
  pokeballAttributes : PokeballAttributes := {}
deriving DecidableEq, Inhabited

/-- A row of the table `market_offers`. -/
structure OfferRow where
  id : UInt32
  playerId : UInt32
  itemtype : UInt16 := 0
  amount : UInt16 := 0
  created : Int := 0
  anonymous : UInt16 := 0
  price : UInt64 := 0
  currency : UInt8 := 0
  attributes : List UInt8 := []
deriving DecidableEq, Inhabited

structure IOMarket where
  marketItems : AList (fun _ : UInt32 => MarketItem) := ∅
  /-- `std::unordered_map` read through `operator[]`: a player without an entry
  has the empty list. -/
  playerItems : UInt32 → List UInt32 := fun _ => []
  lastIdIncrement : UInt32 := 0

/-- What loading reads besides the rows: the item types, the clock, the names of
the players, and the item made from a row. The latter is none when
`Item::CreateItem` or `unserializeAttr` fails, and else the name and the boost of
the Pokémon the item holds. -/
structure LoadContext where
  marketCategory : UInt16 → UInt16
  itemTypeName : UInt16 → String
  now : Int
  playerName : UInt32 → String
  readItem : UInt16 → List UInt8 → Option (String × UInt16)

/-- Offers expire after two days. -/
def offerLifetime : Int := 86400000 * 2

/-- The offer read from one row, or none when its item cannot be read. -/
def readOffer (context : LoadContext) (row : OfferRow) : Option MarketItem :=
  match context.readItem row.itemtype row.attributes with
  | none => none
  | some (pokeName, boost) =>
    some {
      id := row.id
      playerId := row.playerId
      itemtype := row.itemtype
      amount := row.amount
      created := row.created
      category := context.marketCategory row.itemtype
      itemName := context.itemTypeName row.itemtype
      expired := decide (row.created + offerLifetime < context.now)
      pokeballAttributes := if pokeName = "" then {} else { name := pokeName, boost := boost }
      attributes := row.attributes
      attributesSize := row.attributes.length
      anonymous := row.anonymous != 0
      playerName := if row.anonymous = 0 then context.playerName row.playerId else "Anonymous"
      price := row.price
      currency := row.currency }

/-- The body of the loading loop: a row whose item cannot be read is skipped. -/
def loadRow (context : LoadContext) (market : IOMarket) (row : OfferRow) : IOMarket :=
  match readOffer context row with
  | none => market
  | some offer =>
    { market with
      playerItems := Function.update market.playerItems offer.playerId
        (market.playerItems offer.playerId ++ [offer.id])
      marketItems := market.marketItems.insert offer.id offer }

/-- `SELECT MAX(id)` over the table; the caller has rows. -/
def maxId (rows : List OfferRow) : UInt32 :=
  rows.foldl (fun best row => if best < row.id then row.id else best) 0

def recalculateLastIdIncrement (rows : List OfferRow) (market : IOMarket) : IOMarket :=
  { market with lastIdIncrement := maxId rows }

/-- Without rows the query has no result and nothing changes. -/
def loadMarketItems (context : LoadContext) (rows : List OfferRow) (market : IOMarket) : IOMarket :=
  if rows.isEmpty then market
  else recalculateLastIdIncrement rows (rows.foldl (loadRow context) market)

def addMarketItem (newItem : MarketItem) (market : IOMarket) : IOMarket :=
  let lastIdIncrement := market.lastIdIncrement + 1
  let newItem := { newItem with id := lastIdIncrement }
  { lastIdIncrement := lastIdIncrement
    playerItems := Function.update market.playerItems newItem.playerId
      (newItem.id :: market.playerItems newItem.playerId)
    marketItems := market.marketItems.insert lastIdIncrement newItem }

/-- `marketItems[id]`: the offer, or a default one when there is none. -/
def getMarketItem (market : IOMarket) (id : UInt32) : MarketItem :=
  (market.marketItems.lookup id).getD default

def removeMarketItem (id : UInt32) (market : IOMarket) : IOMarket :=
  let playerId := (getMarketItem market id).playerId
  { market with
    playerItems := Function.update market.playerItems playerId
      ((market.playerItems playerId).filter (· ≠ id))
    marketItems := market.marketItems.erase id }

/-- How the database takes a save: whether the batch accepts the row with this
number, and whether the last batch is inserted. -/
structure SaveOutcome where
  addRow : UInt32 → Bool := fun _ => true
  execute : Bool := true

/-- The row written for an offer under its new number. -/
def offerRow (id : UInt32) (item : MarketItem) : OfferRow where
  id := id
  playerId := item.playerId
  itemtype := item.itemtype
  amount := item.amount
  created := item.created
  anonymous := if item.anonymous then 1 else 0
  price := item.price
  currency := item.currency
  attributes := item.attributes.take item.attributesSize

/-- The loop of `saveMarketItems`, which uses the offer counter as its own: the
rows written, the counter, and whether every row was accepted. -/
def saveRows (outcome : SaveOutcome) :
    List MarketItem → UInt32 → List OfferRow → List OfferRow × UInt32 × Bool
  | [], lastIdIncrement, rows => (rows, lastIdIncrement, true)
  | item :: items, lastIdIncrement, rows =>
    if item.playerId = 0 then
      saveRows outcome items lastIdIncrement rows
    else
      let lastIdIncrement := lastIdIncrement + 1
      if outcome.addRow lastIdIncrement then
        saveRows outcome items lastIdIncrement (rows ++ [offerRow lastIdIncrement item])
      else
        (rows, lastIdIncrement, false)

/-- The offers in the order the map hands them out. -/
def offers (market : IOMarket) : List MarketItem := market.marketItems.entries.map (·.2)

structure SaveResult where
  rows : List OfferRow
  market : IOMarket
  /-- All rows were inserted. -/
  saved : Bool

/-- Only the counter changes in memory: it ends at the number of the last row. -/
def saveMarketItems (outcome : SaveOutcome) (market : IOMarket) : SaveResult :=
  let (rows, lastIdIncrement, accepted) := saveRows outcome (offers market) 0 []
  { rows := rows
    market := { market with lastIdIncrement := lastIdIncrement }
    saved := accepted && outcome.execute }

/-! ## The offers and the players' lists agree -/

/-- Every player's list holds the numbers of the player's offers, each once. -/
abbrev Consistent (market : IOMarket) : Prop :=
  Indexes (fun id => market.marketItems.lookup id) MarketItem.playerId market.playerItems

theorem consistent_empty : Consistent {} :=
  .of_empty (fun _ => rfl) (fun _ => rfl)

variable {context : LoadContext} {market : IOMarket} {row : OfferRow}

theorem addMarketItem_consistent (consistent : Consistent market)
    (newItem : MarketItem) (fresh : market.marketItems.lookup (market.lastIdIncrement + 1) = none) :
    Consistent (addMarketItem newItem market) := by
  unfold Consistent addMarketItem
  rw [lookup_insert_eq_update]
  exact consistent.insert fresh _ (.refl _)

theorem removeMarketItem_consistent (consistent : Consistent market)
    {id : UInt32} (listed : id ∈ market.marketItems) : Consistent (removeMarketItem id market) := by
  obtain ⟨offer, found⟩ := Option.isSome_iff_exists.mp (AList.lookup_isSome.mpr listed)
  have owner : getMarketItem market id = offer := by simp [getMarketItem, found]
  unfold Consistent removeMarketItem
  rw [lookup_erase_eq_update, owner]
  exact consistent.erase found

theorem readOffer_id {offer : MarketItem}
    (read : readOffer context row = some offer) : offer.id = row.id := by
  unfold readOffer at read
  split at read
  · cases read
  · cases read
    rfl

theorem loadRow_consistent (consistent : Consistent market)
    (fresh : market.marketItems.lookup row.id = none) :
    Consistent (loadRow context market row) := by
  unfold loadRow
  split
  · exact consistent
  · rename_i offer read
    unfold Consistent
    rw [lookup_insert_eq_update]
    refine consistent.insert ?_ _ (List.perm_append_singleton _ _)
    rw [readOffer_id read]
    exact fresh

theorem loadRow_lookup_ne (context : LoadContext) (market : IOMarket)
    {id : UInt32} (other : id ≠ row.id) :
    (loadRow context market row).marketItems.lookup id = market.marketItems.lookup id := by
  unfold loadRow
  split
  · rfl
  · rename_i offer read
    exact AList.lookup_insert_ne (by rw [readOffer_id read]; exact other)

theorem loadRows_consistent (context : LoadContext) :
    ∀ (rows : List OfferRow) (market : IOMarket), Consistent market →
      (rows.map OfferRow.id).Nodup →
      (∀ row ∈ rows, market.marketItems.lookup row.id = none) →
      Consistent (rows.foldl (loadRow context) market)
  | [], _, consistent, _, _ => consistent
  | row :: rows, market, consistent, distinct, fresh => by
      have distinctRows := List.nodup_cons.mp (by simpa using distinct :
        (row.id :: rows.map OfferRow.id).Nodup)
      refine loadRows_consistent context rows _
        (loadRow_consistent consistent (fresh row (by simp))) distinctRows.2 fun later member => ?_
      have other : later.id ≠ row.id := by
        intro same
        exact distinctRows.1 (same ▸ List.mem_map_of_mem member)
      rw [loadRow_lookup_ne context market other]
      exact fresh later (by simp [member])

theorem loadMarketItems_consistent {rows : List OfferRow} (consistent : Consistent market)
    (empty : ∀ id, market.marketItems.lookup id = none) (distinct : (rows.map OfferRow.id).Nodup) :
    Consistent (loadMarketItems context rows market) := by
  unfold loadMarketItems
  split
  · exact consistent
  · exact loadRows_consistent context rows market consistent distinct fun row _ => empty row.id

end Otserv.Market
