import Otserv.Foundation.Runs

/-!
# Trades between players

A player offers an item to another with a request, which the other answers with an item of its
own; when both have accepted the items are exchanged. Either may close the trade before that. The
items on offer are kept in a table with the player who offers each.

Players and items are known by numbers. What else a request, and accepting, may be refused for, and
what containers hold at that time, come with each operation. The messages are left out, and so is
how the items of a completed trade are moved: while they are, neither player can do anything else.
-/

namespace Otserv.Trade

open Foundation

/-- `tradestate_t`. -/
inductive TradeState where
  | none | initiated | accept | acknowledge | transfer
deriving DecidableEq

structure Trader where
  tradeState : TradeState := .none
  tradePartner : Option Nat := none
  tradeItem : Option Nat := none

/-- The players, the items on offer with who offers them, and the items of the trades that came to
the transfer: of the player who was the last to accept, and of its partner. -/
structure Trading where
  players : Nat → Trader := fun _ => {}
  tradeItems : List (Nat × Nat) := []
  transfers : List (Option Nat × Option Nat) := []

namespace Trading

variable (trading : Trading) (player : Nat)

def setPlayer (trader : Trader) : Trading :=
  { trading with players := Function.update trading.players player trader }

def setTradeState (state : TradeState) : Trading :=
  trading.setPlayer player { trading.players player with tradeState := state }

/-- `tradeItems[item] = player`. -/
def putItem (item player : Nat) : Trading :=
  { trading with
    tradeItems := (item, player) :: trading.tradeItems.filter fun entry => entry.1 ≠ item }

/-- The item is looked for in the table, and erased. -/
def eraseItem (item : Option Nat) : Trading :=
  { trading with tradeItems := trading.tradeItems.filter fun entry => some entry.1 ≠ item }

/-- The check in `playerRequestTrade`: the item is on offer, holds one that is, or is held by
one. -/
def isTraded (isHoldingItem : Nat → Nat → Bool) (tradeItem : Nat) : Bool :=
  trading.tradeItems.any fun entry =>
    entry.1 == tradeItem || isHoldingItem tradeItem entry.1 || isHoldingItem entry.1 tradeItem

/-- `Game::internalStartTrade`. -/
def internalStartTrade (player tradePartner tradeItem : Nat) : Trading :=
  let trader := trading.players player
  let partner := trading.players tradePartner
  if trader.tradeState ≠ .none ∧
      ¬ (trader.tradeState = .acknowledge ∧ trader.tradePartner = some tradePartner) then trading
  else if partner.tradeState ≠ .none ∧ partner.tradePartner ≠ some player then trading
  else
    let trading := trading.setPlayer player
      { tradePartner := some tradePartner, tradeItem := some tradeItem, tradeState := .initiated }
    let trading := trading.putItem tradeItem player
    let partner := trading.players tradePartner
    if partner.tradeState = .none then
      trading.setPlayer tradePartner
        { partner with tradeState := .acknowledge, tradePartner := some player }
    else trading

/-- `Game::playerRequestTrade`, when the item may be traded with the partner at all. -/
def playerRequestTrade (isHoldingItem : Nat → Nat → Bool) (player tradePartner tradeItem : Nat) :
    Trading :=
  if tradePartner = player then trading
  else if trading.isTraded isHoldingItem tradeItem then trading
  else trading.internalStartTrade player tradePartner tradeItem

/-- A player is out of its trade. -/
def leaveTrade : Trading :=
  (trading.eraseItem (trading.players player).tradeItem).setPlayer player {}

/-- `Game::internalCloseTrade`. -/
def internalCloseTrade (player : Nat) : Trading :=
  let tradePartner := (trading.players player).tradePartner
  if (tradePartner.any fun partner => (trading.players partner).tradeState = .transfer) ∨
      (trading.players player).tradeState = .transfer then trading
  else
    let trading := trading.leaveTrade player
    match tradePartner with
    | some partner => trading.leaveTrade partner
    | none => trading

/-- The transfer in `Game::playerAcceptTrade`, whether or not the items can be moved. -/
def transfer (player tradePartner : Nat) : Trading :=
  let playerTradeItem := (trading.players player).tradeItem
  let partnerTradeItem := (trading.players tradePartner).tradeItem
  let trading := (trading.setTradeState player .transfer).setTradeState tradePartner .transfer
  let trading := (trading.eraseItem playerTradeItem).eraseItem partnerTradeItem
  let trading := (trading.setPlayer player {}).setPlayer tradePartner {}
  { trading with transfers := trading.transfers ++ [(playerTradeItem, partnerTradeItem)] }

/-- `Game::playerAcceptTrade`, whether the partner is in reach and the event allows the trade. -/
def playerAcceptTrade (player : Nat) (isReachable isAllowed : Bool) : Trading :=
  let trader := trading.players player
  if ¬ (trader.tradeState = .acknowledge ∨ trader.tradeState = .initiated) then trading
  else
    match trader.tradePartner with
    | none => trading
    | some tradePartner =>
      if !isReachable then trading
      else
        let trading := trading.setTradeState player .accept
        if (trading.players tradePartner).tradeState = .accept then
          if !isAllowed then trading.internalCloseTrade player
          else trading.transfer player tradePartner
        else trading

end Trading

inductive TradeOp where
  | playerRequestTrade (isHoldingItem : Nat → Nat → Bool) (player tradePartner tradeItem : Nat)
  | playerAcceptTrade (player : Nat) (isReachable isAllowed : Bool)
  | internalCloseTrade (player : Nat)

def trades : System Trading TradeOp where
  legal _ _ := True
  step trading
    | .playerRequestTrade isHoldingItem player tradePartner tradeItem =>
      trading.playerRequestTrade isHoldingItem player tradePartner tradeItem
    | .playerAcceptTrade player isReachable isAllowed =>
      trading.playerAcceptTrade player isReachable isAllowed
    | .internalCloseTrade player => trading.internalCloseTrade player

end Otserv.Trade
