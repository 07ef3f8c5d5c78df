import Mathlib.Algebra.Order.Ring.Rat
import SomethingTrade.Json
import SomethingTrade.Machine
import SomethingTrade.MarketEvents

/-!
# The Market State

What is known of the market while it runs: the state of each symbol, the last quote of
each token, and the markets that are over. A market is over for ever once a lifecycle event
says so; the quotes that are stored for it are made incomplete then, and so are those that
come later. Every event leaves with the times at which it was applied.

## Representation

* Applying an event takes the readings of both clocks.
* Prices and returns are exact. The volatility of a symbol, a square root that nothing else
  reads, is left out, and so are the formatted lines.

## Main results

* `marketStateMachine`: the market state as a machine.
* `MarketState.apply_marketInvalid`: which markets are over after an event.
* `MarketState.exec_deadQuotes`: the stored quotes of markets that are over are incomplete,
  in every run.
-/

namespace SomethingTrade

/-! ### Symbols -/

/-- The windows returns are taken over, in seconds. -/
def returnWindowsSec : List ℤ := [1, 5, 15, 30]

/-- How long prices are kept. -/
def maxReturnWindowNs : ℤ := 30 * 1000000000

/-- The name of a window. -/
def returnWindowKey (windowSec : ℤ) : String := toString windowSec ++ "s"

/-- What is known of a symbol. -/
structure SymbolState where
  symbol : String
  latestPrice : Option ℚ
  bestBid : Option ℚ
  bestBidSize : Option ℚ
  bestAsk : Option ℚ
  bestAskSize : Option ℚ
  rollingReturns : Dict String (Option ℚ)
  bidAskSpread : Option ℚ
  lastEventTimestamp : Option ℤ
  localReceiveTimestamp : Option ℤ
  parseDoneTimestamp : Option ℤ
  stateUpdatedTimestamp : Option ℤ
  recvMonotonicNs : Option ℤ
  parseDoneMonotonicNs : Option ℤ
  stateUpdatedMonotonicNs : Option ℤ
  latencyMs : Option ℚ
  lastDepthUpdateId : Option ℤ
  priceHistory : List (ℤ × ℚ)
  deriving DecidableEq

/-- A symbol of which nothing is known. -/
def SymbolState.init (symbol : String) : SymbolState where
  symbol := symbol
  latestPrice := none
  bestBid := none
  bestBidSize := none
  bestAsk := none
  bestAskSize := none
  rollingReturns := .ofList (returnWindowsSec.map fun window => (returnWindowKey window, none))
  bidAskSpread := none
  lastEventTimestamp := none
  localReceiveTimestamp := none
  parseDoneTimestamp := none
  stateUpdatedTimestamp := none
  recvMonotonicNs := none
  parseDoneMonotonicNs := none
  stateUpdatedMonotonicNs := none
  latencyMs := none
  lastDepthUpdateId := none
  priceHistory := []

/-- The last price of a history that is not after a time; the search ends at the first
later one. -/
def priceAtOrBefore (history : List (ℤ × ℚ)) (targetTs : ℤ) : Option ℚ :=
  ((history.takeWhile fun e => e.1 ≤ targetTs).getLast?).map Prod.snd

namespace SymbolState

/-- The return over a window: missing without a price from before it, or when that price
is zero. -/
def returnOver (s : SymbolState) (nowTs : ℤ) (currentPrice : ℚ) (windowSec : ℤ) : Option ℚ :=
  match priceAtOrBefore s.priceHistory (nowTs - windowSec * 1000000000) with
  | none => none
  | some baseline => if baseline = 0 then none else some (currentPrice / baseline - 1)

/-- Take the returns over all windows again. -/
def recomputeReturns (s : SymbolState) (nowTs : ℤ) (currentPrice : ℚ) : SymbolState :=
  { s with
    rollingReturns := returnWindowsSec.foldl
      (fun returns window =>
        returns.set (returnWindowKey window) (s.returnOver nowTs currentPrice window))
      s.rollingReturns }

/-- Add a price to the history, and drop those that are too old from its front. -/
def appendPrice (s : SymbolState) (timestamp : ℤ) (price : ℚ) : SymbolState :=
  { s with
    priceHistory := (s.priceHistory ++ [(timestamp, price)]).dropWhile fun e =>
      e.1 < timestamp - maxReturnWindowNs }.recomputeReturns timestamp price

/-- Note the times of an event. -/
def updateCommonTimestamps (s : SymbolState) (event : RealtimeMarketEvent)
    (stateUpdatedTs : ℤ) : SymbolState :=
  { s with
    lastEventTimestamp := some (orNumber event.exchangeEventTs event.tsNs)
    localReceiveTimestamp := event.localReceivedTs
    parseDoneTimestamp := event.parseDoneTs
    stateUpdatedTimestamp := some stateUpdatedTs
    recvMonotonicNs := event.recvMonotonicNs
    parseDoneMonotonicNs := event.parseDoneMonotonicNs
    stateUpdatedMonotonicNs := event.stateUpdatedMonotonicNs
    latencyMs := event.latencyMs }

end SymbolState

/-- The time of an event. -/
def eventTimestamp (event : RealtimeMarketEvent) : ℤ :=
  orNumber (orValue event.exchangeEventTs event.localReceivedTs) event.tsNs

/-! ### Events as they leave -/

/-- An event with the times at which it was applied. -/
def RealtimeMarketEvent.withStateLatency (event : RealtimeMarketEvent) (now : Moment) :
    RealtimeMarketEvent :=
  { event with
    stateUpdatedTs := some now.nowTs
    stateUpdatedMonotonicNs := some now.nowMonotonicNs
    latencyMs := event.recvMonotonicNs.map fun recv =>
      ((now.nowMonotonicNs - recv : ℤ) : ℚ) / 1000000 }

/-- An event with the times at which it was applied. -/
def MarketEvent.withStateLatency (event : MarketEvent) (now : Moment) : MarketEvent :=
  match event with
  | .marketTick e =>
      .marketTick { e with
        toRealtimeMarketEvent := e.toRealtimeMarketEvent.withStateLatency now }
  | .orderBookTop e =>
      .orderBookTop { e with
        toRealtimeMarketEvent := e.toRealtimeMarketEvent.withStateLatency now }
  | .depthUpdate e =>
      .depthUpdate { e with
        toRealtimeMarketEvent := e.toRealtimeMarketEvent.withStateLatency now }
  | .polymarketQuote q =>
      .polymarketQuote { q with
        toRealtimeMarketEvent := q.toRealtimeMarketEvent.withStateLatency now }
  | .marketLifecycle e =>
      .marketLifecycle { e with
        toRealtimeMarketEvent := e.toRealtimeMarketEvent.withStateLatency now }

/-- A quote made incomplete, with an error unless it has one. -/
def PolymarketQuote.markIncomplete (quote : PolymarketQuote) (error : String) :
    PolymarketQuote :=
  { quote with
    bookComplete := false
    validationError := some (orText quote.validationError error) }

/-- Whether a lifecycle event ends its market. -/
def MarketLifecycleType.endsMarket : MarketLifecycleType → Bool
  | .marketResolved | .closed | .expired => true
  | _ => false

/-! ### The market state -/

/-- The market state: the last events of each kind, the last quote of each token, and the
markets that are over. -/
structure MarketState where
  ticks : Dict String MarketTick
  bookTops : Dict String OrderBookTop
  depthUpdates : Dict String DepthUpdate
  polymarketQuotes : Dict String PolymarketQuote
  marketLifecycleEvents : List MarketLifecycleEvent
  lifecycleEventsByMarket : Dict String MarketLifecycleEvent
  marketInvalid : Dict String Unit
  symbols : Dict String SymbolState
  maxPolymarketQuoteAgeMs : ℚ
  deriving DecidableEq

namespace MarketState

/-- A fresh market state. -/
def init (maxPolymarketQuoteAgeMs : ℚ) : MarketState where
  ticks := .empty
  bookTops := .empty
  depthUpdates := .empty
  polymarketQuotes := .empty
  marketLifecycleEvents := []
  lifecycleEventsByMarket := .empty
  marketInvalid := .empty
  symbols := .empty
  maxPolymarketQuoteAgeMs := maxPolymarketQuoteAgeMs

/-- Whether a market is over. -/
def isMarketInvalid (state : MarketState) (marketId : String) : Bool :=
  (state.marketInvalid.get? marketId).isSome

/-- Whether a quote is too old: by the monotonic clock when it was received by it, and
otherwise by the first time it has. -/
def isStaleQuote (state : MarketState) (quote : PolymarketQuote) (now : Moment) : Bool :=
  match quote.recvMonotonicNs with
  | some recv =>
      ((now.nowMonotonicNs - recv : ℤ) : ℚ) / 1000000 > state.maxPolymarketQuoteAgeMs
  | none =>
      match orValue quote.eventTs (orValue quote.receivedTs quote.exchangeEventTs) with
      | none => false
      | some reference =>
          ((now.nowTs - reference : ℤ) : ℚ) / 1000000 > state.maxPolymarketQuoteAgeMs

/-- A quote as it is stored: incomplete when its market is over, and incomplete and stale
when it is too old. -/
def admitQuote (state : MarketState) (quote : PolymarketQuote) (now : Moment) :
    PolymarketQuote :=
  let quote :=
    if state.isMarketInvalid quote.marketId then quote.markIncomplete "market_invalidated"
    else quote
  if state.isStaleQuote quote now then
    { quote.markIncomplete "quote_stale" with bookStale := true }
  else quote

/-- Change what is known of a symbol. -/
def updateSymbol (state : MarketState) (symbol : String) (f : SymbolState → SymbolState) :
    MarketState :=
  { state with
    symbols := state.symbols.set symbol (f ((state.symbols.get? symbol).getD (.init symbol))) }

/-- Make the stored quotes of a market incomplete. -/
def invalidatePolymarketQuotes (state : MarketState) (marketId : String) : MarketState :=
  { state with
    polymarketQuotes := state.polymarketQuotes.mapValues fun quote =>
      if quote.marketId = marketId then quote.markIncomplete "market_invalidated" else quote }

/-- Store an event. -/
def store (state : MarketState) (event : MarketEvent) (now : Moment) : MarketState :=
  match event with
  | .marketTick e =>
      { state with ticks := state.ticks.set e.symbol e }.updateSymbol e.symbol fun s =>
        ({ s with latestPrice := some e.price }.appendPrice
          (eventTimestamp e.toRealtimeMarketEvent) e.price).updateCommonTimestamps
          e.toRealtimeMarketEvent now.nowTs
  | .orderBookTop e =>
      { state with bookTops := state.bookTops.set e.symbol e }.updateSymbol e.symbol fun s =>
        { s with
          bestBid := some e.bidPrice
          bestBidSize := some e.bidSize
          bestAsk := some e.askPrice
          bestAskSize := some e.askSize
          bidAskSpread := some (max 0 (e.askPrice - e.bidPrice))
        }.updateCommonTimestamps e.toRealtimeMarketEvent now.nowTs
  | .depthUpdate e =>
      { state with depthUpdates := state.depthUpdates.set e.symbol e }.updateSymbol e.symbol
        fun s =>
          { s with lastDepthUpdateId := some e.finalUpdateId }.updateCommonTimestamps
            e.toRealtimeMarketEvent now.nowTs
  | .polymarketQuote q =>
      { state with polymarketQuotes := state.polymarketQuotes.set q.tokenId q }
  | .marketLifecycle e =>
      let state := { state with
        marketLifecycleEvents := state.marketLifecycleEvents ++ [e]
        lifecycleEventsByMarket := state.lifecycleEventsByMarket.set e.marketId e }
      if e.lifecycleType.endsMarket then
        { state with marketInvalid := state.marketInvalid.set e.marketId ()
        }.invalidatePolymarketQuotes e.marketId
      else state

/-- An event as it leaves the market state. -/
def updatedEvent (state : MarketState) (event : MarketEvent) (now : Moment) : MarketEvent :=
  MarketEvent.withStateLatency
    (match event with
      | .polymarketQuote q => .polymarketQuote (state.admitQuote q now)
      | event => event)
    now

/-- Apply an event. -/
def apply (state : MarketState) (event : MarketEvent) (now : Moment) :
    MarketState × MarketEvent :=
  let updated := state.updatedEvent event now
  (state.store updated now, updated)

end MarketState

/-- The market state as a machine. -/
def marketStateMachine : Machine MarketState (MarketEvent × Moment) MarketEvent where
  step state input := state.apply input.1 input.2

/-! ### Markets that are over -/

/-- The market an event ends. -/
def MarketEvent.endedMarket : MarketEvent → Option String
  | .marketLifecycle e => if e.lifecycleType.endsMarket then some e.marketId else none
  | _ => none

namespace MarketState

/-- The stored quotes of the markets that are over are incomplete. -/
def DeadQuotes (state : MarketState) : Prop :=
  ∀ e ∈ state.polymarketQuotes.entries,
    state.isMarketInvalid e.2.marketId = true → e.2.bookComplete = false

/-- Which markets are over after an event, and which quotes are stored. -/
inductive Applied (state : MarketState) (event : MarketEvent) (now : Moment)
    (state' : MarketState) : Prop
  /-- Neither changes. -/
  | other (same : state'.marketInvalid = state.marketInvalid)
      (quotes : state'.polymarketQuotes = state.polymarketQuotes)
      (ended : event.endedMarket = none)
  /-- A quote is stored, incomplete when its market is over. -/
  | quote (quote : PolymarketQuote) (same : state'.marketInvalid = state.marketInvalid)
      (quotes : state'.polymarketQuotes = state.polymarketQuotes.set quote.tokenId quote)
      (dead : state.isMarketInvalid quote.marketId = true → quote.bookComplete = false)
      (ended : event.endedMarket = none)
  /-- A market ends, and its quotes are made incomplete. -/
  | ends (marketId : String)
      (lost : state'.marketInvalid = state.marketInvalid.set marketId ())
      (quotes : state'.polymarketQuotes = state.polymarketQuotes.mapValues fun quote =>
        if quote.marketId = marketId then quote.markIncomplete "market_invalidated" else quote)
      (ended : event.endedMarket = some marketId)

/-- A quote of a market that is over is admitted as incomplete. -/
theorem admitQuote_dead (state : MarketState) (quote : PolymarketQuote) (now : Moment) :
    (state.admitQuote quote now).marketId = quote.marketId ∧
      (state.isMarketInvalid quote.marketId = true →
        (state.admitQuote quote now).bookComplete = false) := by
  by_cases hover : state.isMarketInvalid quote.marketId = true
  · simp only [admitQuote, if_pos hover]
    split <;> exact ⟨rfl, fun _ => rfl⟩
  · simp only [admitQuote, if_neg hover]
    split <;> exact ⟨rfl, fun h => absurd h hover⟩

/-- **What an event does** to the markets that are over and to the stored quotes. -/
theorem apply_applied (state : MarketState) (event : MarketEvent) (now : Moment) :
    Applied state event now (state.apply event now).1 := by
  cases event with
  | marketTick e => exact .other rfl rfl rfl
  | orderBookTop e => exact .other rfl rfl rfl
  | depthUpdate e => exact .other rfl rfl rfl
  | polymarketQuote q =>
      obtain ⟨hmarket, hdead⟩ := admitQuote_dead state q now
      refine .quote { state.admitQuote q now with
        toRealtimeMarketEvent :=
          (state.admitQuote q now).toRealtimeMarketEvent.withStateLatency now } rfl rfl ?_ rfl
      intro hover
      exact hdead (hmarket ▸ hover)
  | marketLifecycle e =>
      by_cases hends : e.lifecycleType.endsMarket = true
      · have hrun : (state.apply (.marketLifecycle e) now).1 = _ := if_pos hends
        rw [hrun]
        exact .ends e.marketId rfl rfl (if_pos hends)
      · have hrun : (state.apply (.marketLifecycle e) now).1 = _ := if_neg hends
        rw [hrun]
        exact .other rfl rfl (if_neg hends)

/-- A market is over after an event when it was before, or when the event ends it. -/
theorem apply_marketInvalid (state : MarketState) (event : MarketEvent) (now : Moment)
    (marketId : String) :
    (state.apply event now).1.isMarketInvalid marketId =
      (state.isMarketInvalid marketId || decide (event.endedMarket = some marketId)) := by
  cases apply_applied state event now with
  | other same quotes ended => simp [isMarketInvalid, same, ended]
  | quote q same quotes dead ended => simp [isMarketInvalid, same, ended]
  | ends ended lost quotes h =>
      rw [isMarketInvalid, isMarketInvalid, lost, Dict.get?_set, h]
      by_cases hid : ended = marketId <;> simp [hid]

variable {state : MarketState}

/-- A market that is over stays over. -/
theorem apply_stays_over {marketId : String} (h : state.isMarketInvalid marketId = true)
    (event : MarketEvent) (now : Moment) :
    (state.apply event now).1.isMarketInvalid marketId = true := by
  rw [apply_marketInvalid, h, Bool.true_or]

/-- An event keeps the quotes of the markets that are over incomplete. -/
theorem apply_deadQuotes (h : state.DeadQuotes) (event : MarketEvent) (now : Moment) :
    (state.apply event now).1.DeadQuotes := by
  cases apply_applied state event now with
  | other same quotes ended =>
      rw [DeadQuotes, quotes]
      simp only [isMarketInvalid, same]
      exact h
  | quote q same quotes dead ended =>
      rw [DeadQuotes, quotes]
      simp only [isMarketInvalid, same]
      exact Dict.forall_entries_set
        (P := fun (_ : String) (q : PolymarketQuote) =>
          state.isMarketInvalid q.marketId = true → q.bookComplete = false) h dead
  | ends ended lost quotes hended =>
      rw [DeadQuotes, quotes]
      intro e he hover
      obtain ⟨⟨token, q⟩, hq, rfl⟩ := List.mem_map.mp he
      dsimp only at hover ⊢
      split
      · rfl
      · rename_i hid
        rw [if_neg hid, isMarketInvalid, lost, Dict.get?_set, if_neg (Ne.symm hid)] at hover
        exact h _ hq hover

end MarketState

section

variable {state : MarketState} (inputs : List (MarketEvent × Moment))

theorem MarketState.exec_stays_over {marketId : String}
    (h : state.isMarketInvalid marketId = true) :
    (marketStateMachine.exec state inputs).isMarketInvalid marketId = true :=
  marketStateMachine.exec_invariant (I := fun s => s.isMarketInvalid marketId = true)
    (fun _ input hs => apply_stays_over hs input.1 input.2) h inputs

theorem MarketState.exec_deadQuotes (h : state.DeadQuotes) :
    (marketStateMachine.exec state inputs).DeadQuotes :=
  marketStateMachine.exec_invariant (I := DeadQuotes)
    (fun _ input hs => apply_deadQuotes hs input.1 input.2) h inputs

end

theorem MarketState.init_deadQuotes (maxAgeMs : ℚ) : (MarketState.init maxAgeMs).DeadQuotes := by
  intro e he
  cases he

end SomethingTrade
