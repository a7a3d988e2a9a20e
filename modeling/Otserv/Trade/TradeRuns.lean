import Otserv.Trade.Trade

/-!
# Trades that are accepted by both sides

In every run the partners of a trade are each other's, a player is idle exactly when it has no
partner, and the table has the items on offer with who offers them (`sound_throughout`). No trade
should come to the transfer before both sides have offered something; a player who has been asked
for a trade may accept without (`exchanged_throughout`).
-/

namespace Otserv.Trade

open Foundation
open Function (update_of_ne update_self)

/-- The trades agree with each other and with the table. -/
structure Sound (trading : Trading) : Prop where
  symmetric : ∀ {player partner}, (trading.players player).tradePartner = some partner →
    (trading.players partner).tradePartner = some player
  idle : ∀ player, (trading.players player).tradeState = .none ↔
    (trading.players player).tradePartner = none
  offered : ∀ {item player}, (item, player) ∈ trading.tradeItems ↔
    (trading.players player).tradeItem = some item
  once : (trading.tradeItems.map Prod.fst).Nodup

structure Invariant (trading : Trading) : Prop extends Sound trading where
  apart : ∀ player, (trading.players player).tradePartner ≠ some player
  settled : ∀ player, (trading.players player).tradeState ≠ .transfer
  empty : ∀ player, (trading.players player).tradeState = .none ∨
    (trading.players player).tradeState = .acknowledge → (trading.players player).tradeItem = none

variable (trading : Trading)

/-- Whoever has asked for a trade or accepted one has offered an item. -/
def Complete : Prop :=
  ∀ player, (trading.players player).tradeItem = none →
    (trading.players player).tradeState = .none ∨
      (trading.players player).tradeState = .acknowledge

/-- Each trade that came to the transfer was of two items. -/
def Exchanged : Prop :=
  ∀ items ∈ trading.transfers, items.1 ≠ none ∧ items.2 ≠ none

/-- Two players are out of their trade. -/
structure Parted (player partner : Nat) (before after : Trading) : Prop where
  left : ∀ other, other = player ∨ other = partner → after.players other = {}
  others : ∀ other, other ≠ player → other ≠ partner →
    after.players other = before.players other
  tradeItems : after.tradeItems = before.tradeItems.filter fun entry =>
    some entry.1 ≠ (before.players player).tradeItem ∧
      some entry.1 ≠ (before.players partner).tradeItem

namespace Parted

variable {before after : Trading} {player partner : Nat}

/-- **Leaving a trade** keeps the invariant, when no others trade with the two. -/
theorem invariant (parted : Parted player partner before after) (invariant : Invariant before)
    (closed : ∀ other, (before.players other).tradePartner = some player ∨
      (before.players other).tradePartner = some partner → other = player ∨ other = partner) :
    Invariant after := by
  obtain ⟨left, others, tradeItems⟩ := parted
  have cases_ (other : Nat) : (other = player ∨ other = partner) ∧ after.players other = {} ∨
      (other ≠ player ∧ other ≠ partner) ∧ after.players other = before.players other := by
    by_cases out : other = player ∨ other = partner
    · exact .inl ⟨out, left other out⟩
    · rw [not_or] at out
      exact .inr ⟨out, others other out.1 out.2⟩
  have distinct {item one other : Nat} (first : (before.players one).tradeItem = some item)
      (second : (before.players other).tradeItem = some item) : one = other := by
    have same := List.inj_on_of_nodup_map invariant.once (invariant.offered.mpr first)
      (invariant.offered.mpr second) rfl
    exact congrArg Prod.snd same
  refine ⟨⟨fun {one other} isPartner => ?_, fun other => ?_, fun {item other} => ?_, ?_⟩,
    fun other => ?_, fun other => ?_, fun other => ?_⟩
  · rcases cases_ one with ⟨-, gone⟩ | ⟨away, same⟩
    · rw [gone] at isPartner
      cases isPartner
    · rw [same] at isPartner
      rcases cases_ other with ⟨out, -⟩ | ⟨-, sameOther⟩
      · have inside := closed one (by rcases out with rfl | rfl <;> simp [isPartner])
        exact absurd inside (not_or.mpr away)
      · rw [sameOther]
        exact invariant.symmetric isPartner
  · rcases cases_ other with ⟨-, gone⟩ | ⟨-, same⟩
    · rw [gone]
      exact iff_of_true rfl rfl
    · rw [same]
      exact invariant.idle other
  · rw [tradeItems, List.mem_filter, decide_eq_true_iff, invariant.offered]
    rcases cases_ other with ⟨out, gone⟩ | ⟨away, same⟩
    · rw [gone]
      refine iff_of_false ?_ nofun
      rintro ⟨offers, first, second⟩
      rcases out with rfl | rfl
      · exact first offers.symm
      · exact second offers.symm
    · rw [same]
      refine and_iff_left_of_imp fun offers => ⟨fun first => ?_, fun second => ?_⟩
      · exact away.1 (distinct offers first.symm)
      · exact away.2 (distinct offers second.symm)
  · rw [tradeItems]
    exact (List.filter_sublist.map Prod.fst).nodup invariant.once
  · rcases cases_ other with ⟨-, gone⟩ | ⟨-, same⟩
    · rw [gone]
      nofun
    · rw [same]
      exact invariant.apart other
  · rcases cases_ other with ⟨-, gone⟩ | ⟨-, same⟩
    · rw [gone]
      nofun
    · rw [same]
      exact invariant.settled other
  · rcases cases_ other with ⟨-, gone⟩ | ⟨-, same⟩
    · rw [gone]
      exact fun _ => rfl
    · rw [same]
      exact invariant.empty other

theorem complete (parted : Parted player partner before after) (complete : Complete before) :
    Complete after := by
  intro other none
  by_cases out : other = player ∨ other = partner
  · rw [parted.left other out]
    exact .inl rfl
  · rw [not_or] at out
    rw [parted.others other out.1 out.2] at none ⊢
    exact complete other none

end Parted

/-- A player has offered an item to another. -/
structure Offered (player partner item : Nat) (before after : Trading) : Prop where
  offer : after.players player = ⟨.initiated, some partner, some item⟩
  asked : after.players partner =
    if (before.players partner).tradeState = .none then
      { before.players partner with tradeState := .acknowledge, tradePartner := some player }
    else before.players partner
  others : ∀ other, other ≠ player → other ≠ partner →
    after.players other = before.players other
  tradeItems : after.tradeItems =
    (item, player) :: before.tradeItems.filter fun entry => entry.1 ≠ item

namespace Trading

variable {trading : Trading} {player partner item : Nat}

/-- **A request** changes nothing, or offers an item that is not on offer, to a player who is
idle or has asked for the trade. -/
theorem playerRequestTrade_cases (isHoldingItem : Nat → Nat → Bool) (player partner item : Nat) :
    trading.playerRequestTrade isHoldingItem player partner item = trading ∨
      partner ≠ player ∧ (∀ other, (item, other) ∉ trading.tradeItems) ∧
        ((trading.players player).tradeState = .none ∨
          (trading.players player).tradeState = .acknowledge ∧
            (trading.players player).tradePartner = some partner) ∧
        ((trading.players partner).tradeState = .none ∨
          (trading.players partner).tradePartner = some player) ∧
        (trading.playerRequestTrade isHoldingItem player partner item).transfers =
          trading.transfers ∧
        Offered player partner item trading
          (trading.playerRequestTrade isHoldingItem player partner item) := by
  rw [playerRequestTrade]
  by_cases same : partner = player
  · exact .inl (if_pos same)
  rw [if_neg same]
  by_cases traded : trading.isTraded isHoldingItem item = true
  · exact .inl (if_pos traded)
  rw [if_neg traded, internalStartTrade]
  simp only []
  split_ifs with busy elsewhere idle
  · exact .inl rfl
  · exact .inl rfl
  all_goals
    have fresh (other : Nat) : (item, other) ∉ trading.tradeItems := by
      intro isThere
      refine traded (List.any_eq_true.mpr ⟨_, isThere, ?_⟩)
      simp
    have ready : (trading.players player).tradeState = .none ∨
        (trading.players player).tradeState = .acknowledge ∧
          (trading.players player).tradePartner = some partner := by
      by_contra notReady
      rw [not_or] at notReady
      exact busy notReady
    have partnerReady : (trading.players partner).tradeState = .none ∨
        (trading.players partner).tradePartner = some player := by
      by_contra notReady
      rw [not_or] at notReady
      exact elsewhere notReady
    refine .inr ⟨same, fresh, ready, partnerReady, rfl, ?_⟩
    have unchanged : ((trading.setPlayer player
        ⟨.initiated, some partner, some item⟩).putItem item player).players partner =
          trading.players partner := update_of_ne same _ _
    rw [unchanged] at idle
  · refine ⟨?_, ?_, fun other notPlayer notPartner => ?_, rfl⟩
    · exact (update_of_ne (.symm same) _ _).trans (update_self _ _ _)
    · rw [if_pos idle]
      refine (update_self _ _ _).trans ?_
      rw [unchanged]
    · exact (update_of_ne notPartner _ _).trans (update_of_ne notPlayer _ _)
  · refine ⟨update_self _ _ _, ?_, fun other notPlayer _ => ?_, rfl⟩
    · rw [if_neg idle]
      exact unchanged
    · exact update_of_ne notPlayer _ _

end Trading

namespace Offered

variable {before after : Trading} {player partner item : Nat}

/-- **An offer** keeps the invariant. -/
theorem invariant (offered : Offered player partner item before after)
    (invariant : Invariant before) (different : partner ≠ player)
    (fresh : ∀ other, (item, other) ∉ before.tradeItems)
    (ready : (before.players player).tradeState = .none ∨
      (before.players player).tradeState = .acknowledge ∧
        (before.players player).tradePartner = some partner)
    (partnerReady : (before.players partner).tradeState = .none ∨
      (before.players partner).tradePartner = some player) : Invariant after := by
  obtain ⟨offer, asked, others, tradeItems⟩ := offered
  have noItem : (before.players player).tradeItem = none :=
    invariant.empty player (ready.imp_right And.left)
  -- the two are free for each other
  have freePlayer {other : Nat}
      (isPartner : (before.players other).tradePartner = some player) : other = partner := by
    have back := invariant.symmetric isPartner
    rcases ready with idle | ⟨-, trading⟩
    · rw [(invariant.idle player).mp idle] at back
      cases back
    · rw [trading, Option.some_inj] at back
      exact back.symm
  have freePartner {other : Nat}
      (isPartner : (before.players other).tradePartner = some partner) : other = player := by
    have back := invariant.symmetric isPartner
    rcases partnerReady with idle | trading
    · rw [(invariant.idle partner).mp idle] at back
      cases back
    · rw [trading, Option.some_inj] at back
      exact back.symm
  have askedPartner : (after.players partner).tradePartner = some player := by
    rw [asked]
    split_ifs with idle
    · rfl
    · exact partnerReady.resolve_left idle
  have askedItem : (after.players partner).tradeItem = (before.players partner).tradeItem := by
    rw [asked]
    split_ifs <;> rfl
  have askedState : (after.players partner).tradeState ≠ .none ∧
      (after.players partner).tradeState ≠ .transfer := by
    rw [asked]
    split_ifs with idle
    · exact ⟨nofun, nofun⟩
    · exact ⟨idle, invariant.settled partner⟩
  have askedEmpty (isEmpty : (after.players partner).tradeState = .none ∨
      (after.players partner).tradeState = .acknowledge) :
      (after.players partner).tradeItem = none := by
    rw [askedItem]
    rw [asked] at isEmpty
    split_ifs at isEmpty with idle
    · exact invariant.empty partner (.inl idle)
    · exact invariant.empty partner isEmpty
  have cases_ (other : Nat) : other = player ∨ other = partner ∨
      (other ≠ player ∧ other ≠ partner) ∧ after.players other = before.players other := by
    by_cases isPlayer : other = player
    · exact .inl isPlayer
    by_cases isPartner : other = partner
    · exact .inr (.inl isPartner)
    · exact .inr (.inr ⟨⟨isPlayer, isPartner⟩, others other isPlayer isPartner⟩)
  refine ⟨⟨fun {one other} isPartner => ?_, fun other => ?_, fun {thing other} => ?_, ?_⟩,
    fun other => ?_, fun other => ?_, fun other => ?_⟩
  · rcases cases_ one with rfl | rfl | ⟨away, same⟩
    · rw [offer, Option.some_inj] at isPartner
      rw [← isPartner]
      exact askedPartner
    · rw [askedPartner, Option.some_inj] at isPartner
      rw [← isPartner, offer]
    · rw [same] at isPartner
      rcases cases_ other with rfl | rfl | ⟨-, sameOther⟩
      · exact absurd (freePlayer isPartner) away.2
      · exact absurd (freePartner isPartner) away.1
      · rw [sameOther]
        exact invariant.symmetric isPartner
  · rcases cases_ other with rfl | rfl | ⟨-, same⟩
    · rw [offer]
      exact iff_of_false nofun nofun
    · rw [askedPartner]
      exact iff_of_false askedState.1 nofun
    · rw [same]
      exact invariant.idle other
  · rw [tradeItems, List.mem_cons, List.mem_filter, decide_eq_true_iff]
    have isOld : (thing, other) ∈ before.tradeItems ∧ thing ≠ item ↔
        (before.players other).tradeItem = some thing := by
      rw [invariant.offered]
      refine and_iff_left_of_imp fun offers => ?_
      rintro rfl
      exact fresh other (invariant.offered.mpr offers)
    rw [isOld, Prod.mk.injEq]
    rcases cases_ other with rfl | rfl | ⟨away, same⟩
    · rw [offer, noItem, Option.some_inj]
      exact ⟨fun isThere => (isThere.resolve_right nofun).1.symm, fun isItem => .inl ⟨isItem.symm,
        rfl⟩⟩
    · rw [askedItem]
      exact or_iff_right fun both => different both.2
    · rw [same]
      exact or_iff_right fun both => away.1 both.2
  · rw [tradeItems, List.map_cons, List.nodup_cons]
    refine ⟨fun isThere => ?_, (List.filter_sublist.map Prod.fst).nodup invariant.once⟩
    obtain ⟨entry, isEntry, same⟩ := List.mem_map.mp isThere
    exact of_decide_eq_true (List.mem_filter.mp isEntry).2 same
  · rcases cases_ other with rfl | rfl | ⟨-, same⟩
    · rw [offer, ne_eq, Option.some_inj]
      exact different
    · rw [askedPartner, ne_eq, Option.some_inj]
      exact different.symm
    · rw [same]
      exact invariant.apart other
  · rcases cases_ other with rfl | rfl | ⟨-, same⟩
    · rw [offer]
      nofun
    · exact askedState.2
    · rw [same]
      exact invariant.settled other
  · rcases cases_ other with rfl | rfl | ⟨-, same⟩
    · rw [offer]
      rintro (isNone | isAsked)
      · cases isNone
      · cases isAsked
    · exact askedEmpty
    · rw [same]
      exact invariant.empty other

theorem complete (offered : Offered player partner item before after)
    (complete : Complete before) : Complete after := by
  intro other none
  by_cases isPlayer : other = player
  · rw [isPlayer, offered.offer] at none
    cases none
  by_cases isPartner : other = partner
  · rw [isPartner, offered.asked] at none ⊢
    split_ifs at none ⊢ with idle
    · exact .inr rfl
    · exact complete partner none
  · rw [offered.others other isPlayer isPartner] at none ⊢
    exact complete other none

end Offered

namespace Trading

variable {trading : Trading} {player partner : Nat}

theorem players_setTradeState (player : Nat) (state : TradeState) :
    (trading.setTradeState player state).players player =
      { trading.players player with tradeState := state } := update_self _ _ _

theorem parted_leaveTrade (player partner : Nat) :
    Parted player partner trading ((trading.leaveTrade player).leaveTrade partner) := by
  have left : (trading.leaveTrade player).players player = {} := update_self _ _ _
  refine ⟨fun other out => ?_, fun other notPlayer notPartner => ?_, ?_⟩
  · by_cases isPartner : other = partner
    · rw [isPartner]
      exact update_self _ _ _
    · refine (update_of_ne isPartner _ _).trans ?_
      rw [out.resolve_right isPartner]
      exact left
  · exact (update_of_ne notPartner _ _).trans (update_of_ne notPlayer _ _)
  · change ((trading.tradeItems.filter _).filter _) = _
    rw [List.filter_filter]
    refine List.filter_congr fun entry _ => ?_
    by_cases same : partner = player
    · rw [same, left, ← Bool.decide_and, decide_eq_decide]
      exact ⟨fun both => ⟨both.2, both.2⟩, fun both => ⟨nofun, both.1⟩⟩
    · have kept : (trading.leaveTrade player).players partner = trading.players partner :=
        update_of_ne same _ _
      rw [kept, ← Bool.decide_and, decide_eq_decide]
      exact And.comm

theorem parted_leaveTrade_self (player : Nat) :
    Parted player player trading (trading.leaveTrade player) := by
  refine ⟨fun other out => ?_, fun other notPlayer _ => update_of_ne notPlayer _ _, ?_⟩
  · rw [or_self] at out
    rw [out]
    exact update_self _ _ _
  · refine List.filter_congr fun entry _ => ?_
    rw [decide_eq_decide, and_self]

/-- **The transfer**: both leave the trade. -/
theorem parted_transfer (player partner : Nat) :
    Parted player partner trading (trading.transfer player partner) := by
  refine ⟨fun other out => ?_, fun other notPlayer notPartner => ?_, ?_⟩
  · by_cases isPartner : other = partner
    · rw [isPartner]
      exact update_self _ _ _
    · refine (update_of_ne isPartner _ _).trans ?_
      rw [out.resolve_right isPartner]
      exact update_self _ _ _
  · have away (trading : Trading) (first second : Trader) :
        ((trading.setPlayer player first).setPlayer partner second).players other =
          trading.players other :=
      (update_of_ne notPartner _ _).trans (update_of_ne notPlayer _ _)
    exact (away _ {} {}).trans (away _ _ _)
  · change ((trading.tradeItems.filter _).filter _) = _
    rw [List.filter_filter]
    refine List.filter_congr fun entry _ => ?_
    rw [← Bool.decide_and, decide_eq_decide]
    exact And.comm

end Trading

namespace Invariant

variable {trading : Trading} {player partner : Nat}

theorem closed (invariant : Invariant trading)
    (trades : (trading.players player).tradePartner = some partner) {other : Nat}
    (isPartner : (trading.players other).tradePartner = some player ∨
      (trading.players other).tradePartner = some partner) : other = player ∨ other = partner := by
  rcases isPartner with ofPlayer | ofPartner
  · have back := invariant.symmetric ofPlayer
    rw [trades, Option.some_inj] at back
    exact .inr back.symm
  · have back := invariant.symmetric ofPartner
    rw [invariant.symmetric trades, Option.some_inj] at back
    exact .inl back.symm

/-- **`Game::internalCloseTrade`.** -/
theorem internalCloseTrade (invariant : Invariant trading) (player : Nat) :
    Invariant (trading.internalCloseTrade player) ∧
      (Complete trading → Complete (trading.internalCloseTrade player)) ∧
        (trading.internalCloseTrade player).transfers = trading.transfers := by
  have idle : ¬ (((trading.players player).tradePartner.any fun partner =>
      (trading.players partner).tradeState = .transfer) = true ∨
        (trading.players player).tradeState = .transfer) := by
    rintro (partners | own)
    · cases trades : (trading.players player).tradePartner with
      | none =>
        rw [trades] at partners
        cases partners
      | some partner =>
        rw [trades, Option.any_some] at partners
        exact invariant.settled partner (of_decide_eq_true partners)
    · exact invariant.settled player own
  rw [Trading.internalCloseTrade]
  rw [if_neg idle]
  cases trades : (trading.players player).tradePartner with
  | none =>
    have parted := @Trading.parted_leaveTrade_self trading player
    refine ⟨parted.invariant invariant fun other isPartner => ?_, parted.complete, rfl⟩
    rw [or_self] at isPartner
    have back := invariant.symmetric isPartner
    rw [trades] at back
    cases back
  | some partner =>
    have parted := @Trading.parted_leaveTrade trading player partner
    exact ⟨parted.invariant invariant fun other => invariant.closed trades, parted.complete, rfl⟩

theorem setTradeState_accept (invariant : Invariant trading)
    (trades : (trading.players player).tradePartner = some partner) :
    Invariant (trading.setTradeState player .accept) := by
  have cases_ (other : Nat) : other = player ∧
      (trading.setTradeState player .accept).players other =
        { trading.players player with tradeState := .accept } ∨
      other ≠ player ∧
        (trading.setTradeState player .accept).players other = trading.players other := by
    by_cases isPlayer : other = player
    · rw [isPlayer]
      exact .inl ⟨rfl, update_self _ _ _⟩
    · exact .inr ⟨isPlayer, update_of_ne isPlayer _ _⟩
  have samePartner (other : Nat) : ((trading.setTradeState player .accept).players other).tradePartner
      = (trading.players other).tradePartner := by
    rcases cases_ other with ⟨isPlayer, accepted⟩ | ⟨-, same⟩
    · rw [accepted, isPlayer]
    · rw [same]
  have sameItem (other : Nat) : ((trading.setTradeState player .accept).players other).tradeItem =
      (trading.players other).tradeItem := by
    rcases cases_ other with ⟨isPlayer, accepted⟩ | ⟨-, same⟩
    · rw [accepted, isPlayer]
    · rw [same]
  refine ⟨⟨fun {one other} isPartner => ?_, fun other => ?_, fun {item other} => ?_,
    invariant.once⟩, fun other => ?_, fun other => ?_, fun other => ?_⟩
  · rw [samePartner] at isPartner ⊢
    exact invariant.symmetric isPartner
  · rw [samePartner]
    rcases cases_ other with ⟨isPlayer, accepted⟩ | ⟨-, same⟩
    · rw [accepted, isPlayer, trades]
      exact iff_of_false nofun nofun
    · rw [same]
      exact invariant.idle other
  · rw [sameItem]
    exact invariant.offered
  · rw [samePartner]
    exact invariant.apart other
  · rcases cases_ other with ⟨-, accepted⟩ | ⟨-, same⟩
    · rw [accepted]
      nofun
    · rw [same]
      exact invariant.settled other
  · rcases cases_ other with ⟨-, accepted⟩ | ⟨-, same⟩
    · rw [accepted]
      rintro (isNone | isAsked)
      · cases isNone
      · cases isAsked
    · rw [same]
      exact invariant.empty other

end Invariant

/-- **Accepting** changes nothing, or is the first of the two, or closes the trade, or comes to the
transfer. -/
theorem Trading.playerAcceptTrade_cases {trading : Trading} (player : Nat)
    (isReachable isAllowed : Bool) :
    trading.playerAcceptTrade player isReachable isAllowed = trading ∨
      isReachable = true ∧ ((trading.players player).tradeState = .acknowledge ∨
        (trading.players player).tradeState = .initiated) ∧
      ∃ partner, (trading.players player).tradePartner = some partner ∧
        (trading.playerAcceptTrade player isReachable isAllowed =
            trading.setTradeState player .accept ∨
          ((trading.setTradeState player .accept).players partner).tradeState = .accept ∧
            (trading.playerAcceptTrade player isReachable isAllowed =
                (trading.setTradeState player .accept).internalCloseTrade player ∨
              trading.playerAcceptTrade player isReachable isAllowed =
                (trading.setTradeState player .accept).transfer player partner)) := by
  rw [playerAcceptTrade]
  by_cases ready : (trading.players player).tradeState = .acknowledge ∨
    (trading.players player).tradeState = .initiated
  swap
  · rw [if_pos ready]
    exact .inl rfl
  rw [if_neg (not_not_intro ready)]
  cases trades : (trading.players player).tradePartner with
  | none => exact .inl rfl
  | some partner =>
    cases isReachable with
    | false => exact .inl rfl
    | true =>
      refine .inr ⟨rfl, ready, partner, rfl, ?_⟩
      simp only [Bool.not_true, Bool.false_eq_true, if_false]
      by_cases accepted :
        ((trading.setTradeState player .accept).players partner).tradeState = .accept
      · rw [if_pos accepted]
        refine .inr ⟨accepted, ?_⟩
        cases isAllowed with
        | false => exact .inl rfl
        | true => exact .inr rfl
      · rw [if_neg accepted]
        exact .inl rfl

/-- Nobody who has been asked for a trade accepts it without an offer. -/
def Offers : TradeOp → Prop
  | .playerAcceptTrade player isReachable _ =>
    isReachable = true → (trading.players player).tradeState ≠ .acknowledge
  | _ => True

namespace Invariant

variable {trading : Trading}

/-- The trades agree after every operation. -/
theorem step (invariant : Invariant trading) (op : TradeOp) :
    Invariant (trades.step trading op) := by
  cases op with
  | playerRequestTrade isHoldingItem player partner item =>
    change Invariant (trading.playerRequestTrade isHoldingItem player partner item)
    rcases trading.playerRequestTrade_cases isHoldingItem player partner item with
      same | ⟨different, fresh, ready, partnerReady, -, offered⟩
    · rw [same]
      exact invariant
    · exact offered.invariant invariant different fresh ready partnerReady
  | playerAcceptTrade player isReachable isAllowed =>
    change Invariant (trading.playerAcceptTrade player isReachable isAllowed)
    rcases trading.playerAcceptTrade_cases player isReachable isAllowed with
      same | ⟨-, -, partner, isPartner, accepts⟩
    · rw [same]
      exact invariant
    have accepted := invariant.setTradeState_accept isPartner
    have stillPartner :
        ((trading.setTradeState player .accept).players player).tradePartner = some partner := by
      rw [Trading.players_setTradeState]
      exact isPartner
    rcases accepts with first | ⟨-, closes | transfers⟩
    · rw [first]
      exact accepted
    · rw [closes]
      exact (accepted.internalCloseTrade player).1
    · rw [transfers]
      exact (Trading.parted_transfer player partner).invariant accepted
        fun other => accepted.closed stillPartner
  | internalCloseTrade player => exact (invariant.internalCloseTrade player).1

/-- Without an offer nobody accepts, and the transfer has two items. -/
theorem step_complete (invariant : Invariant trading) (complete : Complete trading)
    (exchanged : Exchanged trading) {op : TradeOp} (offers : Offers trading op) :
    Complete (trades.step trading op) ∧ Exchanged (trades.step trading op) := by
  cases op with
  | playerRequestTrade isHoldingItem player partner item =>
    change Complete (trading.playerRequestTrade isHoldingItem player partner item) ∧
      Exchanged (trading.playerRequestTrade isHoldingItem player partner item)
    rcases trading.playerRequestTrade_cases isHoldingItem player partner item with
      same | ⟨-, -, -, -, transfers, offered⟩
    · rw [same]
      exact ⟨complete, exchanged⟩
    · rw [Exchanged, transfers]
      exact ⟨offered.complete complete, exchanged⟩
  | playerAcceptTrade player isReachable isAllowed =>
    change Complete (trading.playerAcceptTrade player isReachable isAllowed) ∧
      Exchanged (trading.playerAcceptTrade player isReachable isAllowed)
    rcases trading.playerAcceptTrade_cases player isReachable isAllowed with
      same | ⟨reachable, ready, partner, isPartner, accepts⟩
    · rw [same]
      exact ⟨complete, exchanged⟩
    have initiated := ready.resolve_left (offers reachable)
    have self := @Trading.players_setTradeState trading player .accept
    have hasItem : (trading.players player).tradeItem ≠ none := by
      intro none
      rcases complete player none with isNone | isAsked
      · rw [initiated] at isNone
        cases isNone
      · rw [initiated] at isAsked
        cases isAsked
    have accepted : Complete (trading.setTradeState player .accept) := by
      intro other none
      by_cases isPlayer : other = player
      · rw [isPlayer, self] at none
        exact absurd none hasItem
      · have same : (trading.setTradeState player .accept).players other =
            trading.players other := update_of_ne isPlayer _ _
        rw [same] at none ⊢
        exact complete other none
    rcases accepts with first | ⟨partnerAccepted, closes | transfers⟩
    · rw [first]
      exact ⟨accepted, exchanged⟩
    · obtain ⟨-, kept, same⟩ :=
        (invariant.setTradeState_accept isPartner).internalCloseTrade player
      rw [closes, Exchanged, same]
      exact ⟨kept accepted, exchanged⟩
    · rw [transfers]
      refine ⟨(Trading.parted_transfer player partner).complete accepted, fun items isItems => ?_⟩
      rcases List.mem_append.mp isItems with isOld | isNew
      · exact exchanged items isOld
      · rw [List.mem_singleton.mp isNew, self]
        refine ⟨hasItem, fun none => ?_⟩
        rcases accepted partner none with isNone | isAsked
        · rw [partnerAccepted] at isNone
          cases isNone
        · rw [partnerAccepted] at isAsked
          cases isAsked
  | internalCloseTrade player =>
    obtain ⟨-, kept, same⟩ := invariant.internalCloseTrade player
    change Complete (trading.internalCloseTrade player) ∧
      Exchanged (trading.internalCloseTrade player)
    rw [Exchanged, same]
    exact ⟨kept complete, exchanged⟩

end Invariant

/-! ## Runs -/

theorem invariant_idle : Invariant {} where
  symmetric := nofun
  idle _ := iff_of_true rfl rfl
  offered := iff_of_false List.not_mem_nil nofun
  once := List.nodup_nil
  apart _ := nofun
  settled _ := nofun
  empty _ _ := rfl

/-- **The trades agree with each other and with the table**, throughout every run. -/
theorem sound_throughout (ops : List TradeOp) :
    trades.Throughout (fun _ _ after => Sound after) {} ops := by
  have unguarded : ∀ before op, Invariant before → trades.legal before op → True →
      Sound (trades.step before op) ∧ Invariant (trades.step before op) :=
    fun _ op invariant _ _ => ⟨(invariant.step op).toSound, invariant.step op⟩
  have always : trades.Throughout (fun _ _ _ => True) {} ops :=
    .of_forall (fun _ _ => trivial) _ ops
  exact .of_invariant unguarded invariant_idle always always

/-- **Every trade that comes to the transfer is of two items**, and the trades agree, throughout
every run in which nobody accepts a trade without an offer. -/
theorem exchanged_throughout {ops : List TradeOp}
    (offers : trades.Throughout (fun before op _ => Offers before op) {} ops) :
    trades.Throughout (fun _ _ after => Sound after ∧ Exchanged after) {} ops := by
  have step : ∀ before op, (Invariant before ∧ Complete before ∧ Exchanged before) →
      trades.legal before op → Offers before op →
        (Sound (trades.step before op) ∧ Exchanged (trades.step before op)) ∧
          Invariant (trades.step before op) ∧ Complete (trades.step before op) ∧
            Exchanged (trades.step before op) := by
    rintro before op ⟨invariant, complete, exchanged⟩ - offers
    have after := invariant.step op
    have completed := invariant.step_complete complete exchanged offers
    exact ⟨⟨after.toSound, completed.2⟩, after, completed⟩
  refine .of_invariant step ⟨invariant_idle, fun _ _ => .inl rfl, nofun⟩
    (.of_forall (fun _ _ => trivial) _ ops) offers

/-- Nothing holds anything. -/
def loose (_ _ : Nat) : Bool := false

/-- Two players trade, and a third asks one of them in between. -/
theorem exchanged_throughout_two :
    trades.Throughout (fun _ _ after => Sound after ∧ Exchanged after) {}
      [.playerRequestTrade loose 1 2 10, .playerRequestTrade loose 3 1 30,
        .playerAcceptTrade 1 true true, .playerRequestTrade loose 2 1 20,
        .playerAcceptTrade 2 true true] :=
  exchanged_throughout ⟨trivial, trivial, fun _ => nofun, trivial, fun _ => nofun, trivial⟩

/-- The player who is asked accepts without an offer, and so does the other. -/
theorem nothing_offered :
    ¬ trades.Throughout (fun _ _ after => Sound after ∧ Exchanged after) {}
      [.playerRequestTrade loose 1 2 10, .playerAcceptTrade 2 true true,
        .playerAcceptTrade 1 true true] := by
  rintro ⟨-, -, ⟨-, exchanged⟩, -⟩
  exact (exchanged (some 10, none) (by decide)).2 rfl

end Otserv.Trade
