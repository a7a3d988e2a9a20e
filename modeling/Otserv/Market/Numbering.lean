import Otserv.Foundation.Runs
import Otserv.Market.Offers

/-!
# Runs of the market and the numbers of its offers

The operations of the market are loading, adding, removing and saving. Loading
is made on an empty market from rows with distinct numbers, removing is made of
a listed offer, and a save inserts all its rows.

`saveMarketItems` numbers the saved rows from one with the counter that
`addMarketItem` takes its numbers from, and the offers in memory keep the numbers
they have. When removals have left gaps, the counter ends below numbers that are
still listed, and a later offer takes one of them: the older offer is lost, and
its number stays in the list of a player who does not own it.

A run keeps the offers and the lists exactly when none is added while the number
after the counter is listed (`runs_keep_offers_iff`), as in runs of compact saves
(`adds_at_free_number_of_compact_saves`).
-/

namespace Otserv.Market

open Otserv.Foundation

inductive MarketOp where
  | load (context : LoadContext) (rows : List OfferRow)
  | add (newItem : MarketItem)
  | remove (id : UInt32)
  | save (outcome : SaveOutcome)

/-- The market and its operations, each made as its callers make it. -/
def marketSystem : System IOMarket MarketOp where
  legal market
    | .load _ rows => market.marketItems.keys = [] ∧ (rows.map OfferRow.id).Nodup
    | .add _ => True
    | .remove id => id ∈ market.marketItems
    | .save outcome => (saveMarketItems outcome market).saved = true
  step market
    | .load context rows => loadMarketItems context rows market
    | .add newItem => addMarketItem newItem market
    | .remove id => removeMarketItem id market
    | .save outcome => (saveMarketItems outcome market).market

variable (before : IOMarket)

/-- Listed offers stay as they are: adding lists one offer more under a number
of its own, removing takes away the offer it names, and a save takes away none. -/
def KeepsOffers : MarketOp → IOMarket → Prop
  | .load _ _, after =>
    ∀ id ∈ before.marketItems, after.marketItems.lookup id = before.marketItems.lookup id
  | .add newItem, after =>
    ∃ id, before.marketItems.lookup id = none ∧
      after.marketItems.lookup id = some { newItem with id := id } ∧
      ∀ other, other ≠ id → after.marketItems.lookup other = before.marketItems.lookup other
  | .remove id, after =>
    after.marketItems.lookup id = none ∧
      ∀ other, other ≠ id → after.marketItems.lookup other = before.marketItems.lookup other
  | .save _, after =>
    ∀ id, after.marketItems.lookup id = before.marketItems.lookup id

/-- The step keeps the offers, and leaves every player's list with exactly the
numbers of the player's offers. -/
def KeepsMarket (op : MarketOp) (after : IOMarket) : Prop :=
  KeepsOffers before op after ∧ Consistent after

/-- An offer is added only while the number after the counter is free. -/
def AddsAtFreeNumber : MarketOp → IOMarket → Prop
  | .add _, _ => before.lastIdIncrement + 1 ∉ before.marketItems
  | _, _ => True

instance (before : IOMarket) : ∀ op, Decidable (marketSystem.legal before op)
  | .load _ rows =>
    inferInstanceAs
      (Decidable (before.marketItems.keys = [] ∧ (rows.map OfferRow.id).Nodup))
  | .add _ => .isTrue trivial
  | .remove id => inferInstanceAs (Decidable (id ∈ before.marketItems))
  | .save outcome => inferInstanceAs (Decidable ((saveMarketItems outcome before).saved = true))

instance (before : IOMarket) : ∀ op after, Decidable (AddsAtFreeNumber before op after)
  | .add _, _ =>
    inferInstanceAs (Decidable (before.lastIdIncrement + 1 ∉ before.marketItems))
  | .load _ _, _ | .remove _, _ | .save _, _ => .isTrue trivial

variable {market : IOMarket}

theorem lookup_none_of_keys_nil (empty : market.marketItems.keys = [])
    (id : UInt32) : market.marketItems.lookup id = none := by
  rw [AList.lookup_eq_none, AList.mem_keys, empty]
  exact List.not_mem_nil

/-! ## One step -/

/-- **At a free number every operation keeps the market.** -/
theorem step_keepsMarket (before : IOMarket) (op : MarketOp) (consistent : Consistent before)
    (legal : marketSystem.legal before op)
    (free : AddsAtFreeNumber before op (marketSystem.step before op)) :
    KeepsMarket before op (marketSystem.step before op) := by
  cases op with
  | load context rows =>
    refine ⟨fun id listed => ?_,
      loadMarketItems_consistent consistent (lookup_none_of_keys_nil legal.1) legal.2⟩
    rw [AList.mem_keys, legal.1] at listed
    cases listed
  | add newItem =>
    have fresh : before.marketItems.lookup (before.lastIdIncrement + 1) = none :=
      AList.lookup_eq_none.mpr free
    refine ⟨⟨before.lastIdIncrement + 1, fresh, ?_, fun other different => ?_⟩,
      addMarketItem_consistent consistent newItem fresh⟩
    · exact AList.lookup_insert _
    · exact AList.lookup_insert_ne different
  | remove id =>
    refine ⟨⟨AList.lookup_erase _ _, fun other different => ?_⟩,
      removeMarketItem_consistent consistent legal⟩
    exact AList.lookup_erase_ne different
  | save outcome => exact ⟨fun _ => rfl, consistent⟩

theorem add_not_keepsOffers_of_taken {before : IOMarket} (newItem : MarketItem)
    (taken : before.lastIdIncrement + 1 ∈ before.marketItems) :
    ¬ KeepsOffers before (.add newItem) (addMarketItem newItem before) := by
  rintro ⟨id, free, listed, -⟩
  by_cases here : id = before.lastIdIncrement + 1
  · subst here
    exact AList.lookup_eq_none.mp free taken
  · have unchanged : (addMarketItem newItem before).marketItems.lookup id =
        before.marketItems.lookup id := AList.lookup_insert_ne here
    rw [unchanged, free] at listed
    cases listed

/-! ## Whole runs -/

/-- **Exactly the runs that add at free numbers keep the market.** -/
theorem runs_keep_offers_iff (ops : List MarketOp) (legal : marketSystem.Legal {} ops) :
    marketSystem.Throughout KeepsMarket {} ops ↔
      marketSystem.Throughout AddsAtFreeNumber {} ops := by
  constructor
  · refine .mono fun before op keeps => ?_
    cases op with
    | add newItem => exact fun taken => add_not_keepsOffers_of_taken newItem taken keeps.1
    | load _ _ => trivial
    | remove _ => trivial
    | save _ => trivial
  · refine .of_invariant (fun before op consistent legalOp free => ?_)
      consistent_empty legal
    have keeps := step_keepsMarket before op consistent legalOp free
    exact ⟨keeps, keeps.2⟩

/-- An offer of the player with the given number. -/
def offerOf (playerId : UInt32) : MarketItem := { playerId := playerId }

/-- Two offers added, the market saved, and a third offer added. -/
theorem runs_keep_offers_iff_save_between :
    marketSystem.Throughout KeepsMarket {}
      [.add (offerOf 7), .add (offerOf 8), .save {}, .add (offerOf 9)] :=
  (runs_keep_offers_iff _ (by decide +kernel)).mpr (by decide +kernel)

/-- **A removal before a save loses an offer.** Player 7 lists offer 1, player 8
lists offer 2, and offer 1 is removed. The save writes one row and leaves the
counter at 1, so the next offer, of player 9, is stored as number 2 in place of
player 8's, whose list still names it. -/
theorem removal_before_save_loses_offer :
    marketSystem.Legal {}
        [.add (offerOf 7), .add (offerOf 8), .remove 1, .save {}, .add (offerOf 9)] ∧
      ¬ marketSystem.Throughout KeepsMarket {}
        [.add (offerOf 7), .add (offerOf 8), .remove 1, .save {}, .add (offerOf 9)] := by
  refine ⟨by decide +kernel, fun keeps => ?_⟩
  have lost := keeps.2.2.2.2.1.1
  exact add_not_keepsOffers_of_taken (offerOf 9) (by decide +kernel) lost

/-! ## Saves without gaps -/

/-- The number of rows a save writes: offers of player 0 are not saved. -/
def savedRows (market : IOMarket) : Nat :=
  (offers market).countP fun item => item.playerId ≠ 0

/-- The counter does not wrap, and a save is made only while no listed number
is above the count of its rows. -/
def SavesCompactly : MarketOp → IOMarket → Prop
  | .add _, _ => before.lastIdIncrement ≠ 0xFFFFFFFF
  | .save _, _ => ∀ id ∈ before.marketItems, id ≤ UInt32.ofNat (savedRows before)
  | _, _ => True

/-- Every listed number is at most the counter. -/
def NumbersBelowCounter (market : IOMarket) : Prop :=
  ∀ id ∈ market.marketItems, id ≤ market.lastIdIncrement

theorem saveRows_counter (outcome : SaveOutcome) :
    ∀ (items : List MarketItem) (start : UInt32) (rows : List OfferRow),
      (saveRows outcome items start rows).2.2 = true →
      (saveRows outcome items start rows).2.1 =
        start + UInt32.ofNat (items.countP fun item => item.playerId ≠ 0)
  | [], start, rows, _ => by simp [saveRows]
  | item :: items, start, rows, accepted => by
      by_cases nobody : item.playerId = 0
      · simp only [saveRows, nobody, if_true] at accepted ⊢
        rw [saveRows_counter outcome items start rows accepted]
        simp [nobody]
      · cases taken : outcome.addRow (start + 1) with
        | false => simp [saveRows, nobody, taken] at accepted
        | true =>
          simp only [saveRows, nobody, taken, if_true, if_false] at accepted ⊢
          rw [saveRows_counter outcome items (start + 1) _ accepted]
          simp [nobody, UInt32.add_assoc, UInt32.add_comm 1]

theorem saveMarketItems_counter {outcome : SaveOutcome}
    (saved : (saveMarketItems outcome market).saved = true) :
    (saveMarketItems outcome market).market.lastIdIncrement =
      UInt32.ofNat (savedRows market) := by
  have accepted : (saveRows outcome (offers market) 0 []).2.2 = true := by
    simp only [saveMarketItems, Bool.and_eq_true] at saved
    exact saved.1
  have counter := saveRows_counter outcome (offers market) 0 [] accepted
  simpa [saveMarketItems, savedRows] using counter

variable {context : LoadContext}

theorem loadRow_mem {row : OfferRow} {id : UInt32}
    (listed : id ∈ (loadRow context market row).marketItems) :
    id = row.id ∨ id ∈ market.marketItems := by
  by_cases same : id = row.id
  · exact .inl same
  · rw [← AList.lookup_isSome, loadRow_lookup_ne context market same, AList.lookup_isSome] at listed
    exact .inr listed

theorem loadRows_mem (context : LoadContext) :
    ∀ (rows : List OfferRow) (market : IOMarket) {id : UInt32},
      id ∈ (rows.foldl (loadRow context) market).marketItems →
      id ∈ rows.map OfferRow.id ∨ id ∈ market.marketItems
  | [], _, _, listed => .inr listed
  | row :: rows, market, id, listed => by
      rcases loadRows_mem context rows _ listed with later | earlier
      · exact .inl (List.mem_cons_of_mem _ later)
      · rcases loadRow_mem earlier with here | before
        · exact .inl (by simp [here])
        · exact .inr before

theorem le_foldl_id : ∀ (rows : List OfferRow) (start : UInt32),
    start ≤ rows.foldl (fun best row => if best < row.id then row.id else best) start ∧
      ∀ row ∈ rows,
        row.id ≤ rows.foldl (fun best row => if best < row.id then row.id else best) start
  | [], _ => ⟨UInt32.le_refl _, by simp⟩
  | first :: rows, start => by
      obtain ⟨fromNext, fromRows⟩ :=
        le_foldl_id rows (if start < first.id then first.id else start)
      have fromStart : start ≤ if start < first.id then first.id else start := by
        split
        · exact UInt32.le_of_lt ‹_›
        · exact UInt32.le_refl _
      have fromFirst : first.id ≤ if start < first.id then first.id else start := by
        split
        · exact UInt32.le_refl _
        · exact UInt32.not_lt.mp ‹_›
      refine ⟨UInt32.le_trans fromStart fromNext, fun row member => ?_⟩
      rcases List.mem_cons.mp member with rfl | member
      · exact UInt32.le_trans fromFirst fromNext
      · exact fromRows row member

variable {rows : List OfferRow}

theorem le_maxId {id : UInt32} (member : id ∈ rows.map OfferRow.id) : id ≤ maxId rows := by
  obtain ⟨row, present, rfl⟩ := List.mem_map.mp member
  exact (le_foldl_id rows 0).2 row present

theorem loadMarketItems_numbersBelowCounter (empty : market.marketItems.keys = []) :
    NumbersBelowCounter (loadMarketItems context rows market) := by
  intro id listed
  unfold loadMarketItems at listed ⊢
  split at listed
  · rw [AList.mem_keys, empty] at listed
    cases listed
  · rename_i someRows
    rw [if_neg someRows]
    rcases loadRows_mem context rows market listed with fromRow | before
    · exact le_maxId fromRow
    · rw [AList.mem_keys, empty] at before
      cases before

theorem step_numbersBelowCounter (before : IOMarket) (op : MarketOp)
    (below : NumbersBelowCounter before) (legal : marketSystem.legal before op)
    (compact : SavesCompactly before op (marketSystem.step before op)) :
    AddsAtFreeNumber before op (marketSystem.step before op) ∧
      NumbersBelowCounter (marketSystem.step before op) := by
  cases op with
  | load context rows => exact ⟨trivial, loadMarketItems_numbersBelowCounter legal.1⟩
  | add newItem =>
    have grows : before.lastIdIncrement < before.lastIdIncrement + 1 :=
      UInt32.lt_add_one compact
    refine ⟨fun taken => UInt32.not_le.mpr grows (below _ taken), fun id listed => ?_⟩
    rcases (AList.mem_insert _).mp listed with rfl | earlier
    · exact UInt32.le_refl _
    · exact UInt32.le_trans (below id earlier) (UInt32.le_of_lt grows)
  | remove id => exact ⟨trivial, fun other listed => below other (AList.mem_erase.mp listed).2⟩
  | save outcome =>
    refine ⟨trivial, fun id listed => ?_⟩
    have counter := saveMarketItems_counter legal
    simp only [marketSystem]
    rw [counter]
    exact compact id listed

/-- **Saves without gaps leave the numbers above the counter free.** -/
theorem adds_at_free_number_of_compact_saves (ops : List MarketOp)
    (legal : marketSystem.Legal {} ops) (compact : marketSystem.Throughout SavesCompactly {} ops) :
    marketSystem.Throughout AddsAtFreeNumber {} ops :=
  .of_invariant step_numbersBelowCounter
    (by intro id listed; cases listed) legal compact

theorem adds_at_free_number_of_compact_saves_one :
    marketSystem.Throughout AddsAtFreeNumber {} [.add (offerOf 7), .save {}, .add (offerOf 8)] := by
  refine adds_at_free_number_of_compact_saves _ (by decide +kernel) ⟨nofun, ?_, nofun, trivial⟩
  intro id listed
  obtain rfl : id = 1 := List.mem_singleton.mp listed
  decide +kernel

end Otserv.Market
