import Mathlib.Data.Rat.Defs
import SomethingTrade.Dict

/-!
# Market Events

The events that are passed between the modules. Every event of a feed carries the times at
which it was stamped, received, parsed and applied; a time that was not taken is missing,
and the readers treat a time of zero as missing too (`orValue`).
-/

namespace SomethingTrade

/-! ### Labels -/

/-- How reported best prices are validated. -/
inductive ValidationMode
  | strict | tolerant | diagnostic
  deriving DecidableEq

/-- The kind of message a quote comes from. -/
inductive UpdateType
  | book | priceChange | bestBidAsk
  deriving DecidableEq

/-- What a token stands for. -/
inductive PolymarketSideLabel
  | yes | no | up | down | above | below | higher | lower | unknown
  deriving DecidableEq

/-- The feed an event comes from. -/
inductive EventSource
  | binance | polymarket | replay
  deriving DecidableEq

/-- What happened to a market. -/
inductive MarketLifecycleType
  | tickSizeChange | marketResolved | newMarket | closed | expired
  deriving DecidableEq

/-- The text of a lifecycle type. -/
def MarketLifecycleType.text : MarketLifecycleType → String
  | tickSizeChange => "tick_size_change"
  | marketResolved => "market_resolved"
  | newMarket => "new_market"
  | closed => "closed"
  | expired => "expired"

/-- Whether a text starts with another. -/
def startsWith (text start : String) : Bool := start.toList.isPrefixOf text.toList

/-! ### Missing values -/

section

variable {α : Type} [Zero α] [DecidableEq α]

/-- `a or b` on numbers that may be missing: zero counts as missing. -/
def orValue (a b : Option α) : Option α :=
  match a with
  | none => b
  | some x => if x = 0 then b else some x

end

/-! ### Events -/

/-- The times of an event of a feed, and its sequence number. -/
structure RealtimeMarketEvent where
  tsNs : ℤ
  exchangeEventTs : Option ℤ
  localReceivedTs : Option ℤ
  parseDoneTs : Option ℤ
  stateUpdatedTs : Option ℤ
  recvMonotonicNs : Option ℤ
  parseDoneMonotonicNs : Option ℤ
  stateUpdatedMonotonicNs : Option ℤ
  latencyMs : Option ℚ
  sequence : Option ℤ
  deriving DecidableEq

/-- A trade. -/
structure MarketTick extends RealtimeMarketEvent where
  source : EventSource
  symbol : String
  price : ℚ
  deriving DecidableEq

/-- The best prices of an exchange. -/
structure OrderBookTop extends RealtimeMarketEvent where
  source : EventSource
  symbol : String
  bidPrice : ℚ
  bidSize : ℚ
  askPrice : ℚ
  askSize : ℚ
  deriving DecidableEq

/-- A change of an exchange's order book: its levels are given by the texts of their
floats. -/
structure DepthUpdate extends RealtimeMarketEvent where
  symbol : String
  firstUpdateId : ℤ
  finalUpdateId : ℤ
  previousFinalUpdateId : Option ℤ
  bids : List (String × String)
  asks : List (String × String)
  deriving DecidableEq

/-- A quote of a Polymarket token. -/
structure PolymarketQuote extends RealtimeMarketEvent where
  marketId : String
  conditionId : Option String
  tokenId : String
  sideLabel : PolymarketSideLabel
  bestBid : Option ℚ
  bestBidSize : Option ℚ
  bestAsk : Option ℚ
  bestAskSize : Option ℚ
  midPrice : Option ℚ
  spread : Option ℚ
  eventTs : Option ℤ
  receivedTs : Option ℤ
  bookComplete : Bool
  bookStale : Bool
  bookHash : Option String
  validationError : Option String
  bookUpdateType : Option UpdateType
  bookHasSnapshot : Bool
  bookStructurallyComplete : Bool
  reportedBestValidationOk : Bool
  validationMode : Option ValidationMode
  validationToleranceTicks : Option ℤ
  marketMismatchRate : Option ℚ
  tokenMismatchRate : Option ℚ
  marketQuoteCompleteRate : Option ℚ
  tokenQuoteCompleteRate : Option ℚ
  deriving DecidableEq

/-- A change in the life of a market. -/
structure MarketLifecycleEvent extends RealtimeMarketEvent where
  marketId : String
  lifecycleType : MarketLifecycleType
  newTickSize : Option ℚ
  receivedTs : Option ℤ
  deriving DecidableEq

/-- An event of a feed. -/
inductive MarketEvent
  | marketTick (event : MarketTick)
  | orderBookTop (event : OrderBookTop)
  | depthUpdate (event : DepthUpdate)
  | polymarketQuote (quote : PolymarketQuote)
  | marketLifecycle (event : MarketLifecycleEvent)

/-- A moment by both clocks. -/
structure Moment where
  nowTs : ℤ
  nowMonotonicNs : ℤ

end SomethingTrade
