import Mathlib.Algebra.Order.Ring.Rat
import SomethingTrade.Json
import SomethingTrade.MarketState
import SomethingTrade.MarketWindows

/-!
# Gaps and Their Observations

The records of the gap detector. A pending gap is a candidate that could be filled when it
was detected and is being watched; an observation is what is written of a candidate, at
its detection or when its gap is closed.

## Representation

* The fields that a record copies from a `StaleDiagnostics` or a `MoveEpisode` are that
  record. Quotients of prices by the tick size are exact.
* Of an observation, the descriptive fields of its market are left out.

## Main results

* `PendingTradableGap.identity`, `TradableGapObservation.identity`: which candidate a
  record is about.
-/

namespace SomethingTrade

/-- The stage at which a candidate was rejected. -/
inductive RejectStage
  | preEntry | window | exit | lifecycle | timeout | none
  deriving DecidableEq

/-- Which feed was stale. -/
inductive StaleSource
  | binance | polymarket | both | unknown
  deriving DecidableEq

/-- How much an observation can be trusted. -/
inductive DataQualityTier
  | A | B | C | D
  deriving DecidableEq

/-- A time in milliseconds between two moments, if both are known; never negative. -/
def durationMs (startNs endNs : Option ℤ) : Option ℚ := do
  let startNs ← startNs
  let endNs ← endNs
  return max 0 ((endNs - startNs : ℚ) / 1000000)

/-- Whether a moment is further back than allowed; a missing one always is. -/
def isStaleWall (timestamp : Option ℤ) (nowTs : ℤ) (staleMs : ℚ) : Bool :=
  match timestamp with
  | none => true
  | some t => (nowTs - t : ℚ) / 1000000 > staleMs

/-- The same by the monotonic clock. -/
def isStaleMonotonic (timestamp : Option ℤ) (nowMonotonicNs : ℤ) (staleMs : ℚ) : Bool :=
  isStaleWall timestamp nowMonotonicNs staleMs

/-- A number of ticks, if the value and the tick size are known. -/
def ticks (value tickSize : Option ℚ) : Option ℚ := do return (← value) / (← tickSize)

/-- The difference of two values, if both are known. -/
def diff (after before : Option ℚ) : Option ℚ := do return (← after) - (← before)

/-- The spread of two best prices, if both are known; never negative. -/
def spreadOf (bestBid bestAsk : Option ℚ) : Option ℚ :=
  do return max 0 ((← bestAsk) - (← bestBid))

/-! ### Quotes -/

/-- The time of a quote. -/
def quoteTimestamp (quote : PolymarketQuote) : Option ℤ :=
  orValue quote.receivedTs (orValue quote.localReceivedTs
    (orValue quote.eventTs quote.exchangeEventTs))

/-- Whether a quote is too old: by the monotonic clock when the quote has its reading. -/
def isStaleQuote (quote : PolymarketQuote) (nowTs nowMonotonicNs : ℤ) (staleMs : ℚ) : Bool :=
  match quote.recvMonotonicNs with
  | some t => isStaleMonotonic (some t) nowMonotonicNs staleMs
  | none => isStaleWall (quoteTimestamp quote) nowTs staleMs

/-- Whether a quote comes from a book with a snapshot. -/
def quoteHasInitialSnapshot (quote : PolymarketQuote) : Bool :=
  quote.bookHasSnapshot || (quote.bookUpdateType = none && quote.bookComplete)

/-- The first time of some quotes. -/
def minQuoteTimestamp (quotes : List PolymarketQuote) : Option ℤ :=
  (quotes.filterMap quoteTimestamp).min?

/-! ### Moves -/

/-- The window of a move. -/
structure MoveEpisode where
  moveEpisodeId : String
  sourceMoveWindowMs : ℤ
  sourceMoveStartTsNs : ℤ
  sourceMoveEndTsNs : ℤ
  windowBucket : ℤ
  deriving DecidableEq

/-- The length of a return window. -/
def windowKeyMs (windowKey : String) : ℤ :=
  if windowKey = "1s" then 1000
  else if windowKey = "5s" then 5000
  else if windowKey = "15s" then 15000
  else if windowKey = "30s" then 30000
  else 0

/-- The episode a moment belongs to: its window on a grid of windows. -/
def moveEpisode (symbol : String) (direction : GapDirection) (windowKey : String)
    (eventTsNs : ℤ) : MoveEpisode :=
  let windowMs := windowKeyMs windowKey
  let windowNs := windowMs * 1000000
  let bucket := eventTsNs / max 1 windowNs
  let startTs := bucket * windowNs
  { moveEpisodeId := symbol ++ ":" ++ direction.text ++ ":" ++ toString windowMs ++ ":" ++
      toString bucket
    sourceMoveWindowMs := windowMs
    sourceMoveStartTsNs := startTs
    sourceMoveEndTsNs := startTs + windowNs
    windowBucket := bucket }

/-- The known returns of a symbol with their windows, shortest first. -/
def knownReturns (state : SymbolState) : List (String × ℚ) :=
  ["1s", "5s", "15s", "30s"].filterMap fun key =>
    ((state.rollingReturns.get? key).join).map fun value => (key, value)

/-- The strongest of some returns, the first of equally strong ones. -/
def strongestReturn (returns : List (String × ℚ)) : Option (String × ℚ) :=
  returns.foldl
    (fun best r =>
      match best with
      | none => some r
      | some b => if |r.2| > |b.2| then some r else some b)
    none

/-! ### Records -/

/-- How old the feeds were. -/
structure StaleDiagnostics where
  staleSource : Option StaleSource
  binanceQuoteAgeMs : Option ℚ
  polymarketQuoteAgeMs : Option ℚ
  nowMonotonicNs : Option ℤ
  lastBinanceUpdateMonotonicNs : Option ℤ
  lastPolymarketUpdateMonotonicNs : Option ℤ
  binanceLocalReceivedTsNs : Option ℤ
  polymarketEventTsNs : Option ℤ
  polymarketLocalReceivedTsNs : Option ℤ
  stateUpdatedMonotonicNs : Option ℤ
  detectorProcessedMonotonicNs : Option ℤ
  deriving DecidableEq

/-- The state of the books of a market when a candidate was detected. -/
structure BookReadinessGate where
  suppress : Bool
  warmupMs : Option ℚ
  warmupTimeout : Bool
  bookComplete : Bool
  bookHasSnapshot : Bool
  bookStructurallyComplete : Bool
  reportedBestValidationOk : Bool
  validationError : Option String
  marketClassification : String
  signalEnabled : Bool
  marketMismatchRate : Option ℚ
  tokenMismatchRate : Option ℚ
  marketQuoteCompleteRate : Option ℚ
  tokenQuoteCompleteRate : Option ℚ
  deriving DecidableEq

/-- What tells pending gaps apart. -/
structure GapKey where
  symbol : String
  marketId : String
  direction : GapDirection
  deriving DecidableEq

/-- A candidate that could be filled and is being watched. -/
structure PendingTradableGap where
  symbol : String
  market : PolymarketMarketMetadata
  direction : GapDirection
  tokenId : String
  binanceMovePct : ℚ
  firstDetectedTsNs : ℤ
  firstDetectedMonotonicNs : ℤ
  binanceEventTsNs : Option ℤ
  polyQuoteTsNs : Option ℤ
  beforeBestBid : Option ℚ
  beforeBestAsk : ℚ
  beforeBestBidSize : Option ℚ
  beforeBestAskSize : ℚ
  beforeMid : Option ℚ
  spreadBefore : Option ℚ
  tickSizeAtDetection : Option ℚ
  spreadAtDetection : Option ℚ
  entryAsk : ℚ
  entryAskSize : ℚ
  lastTradableTsNs : ℤ
  lastTradableMonotonicNs : ℤ
  firstNonTradableTsNs : Option ℤ
  firstNonTradableMonotonicNs : Option ℤ
  firstMidRepricedTsNs : Option ℤ
  firstMidRepricedMonotonicNs : Option ℤ
  firstExecutableRepricedTsNs : Option ℤ
  firstExecutableRepricedMonotonicNs : Option ℤ
  executableExitBid : Option ℚ
  currentBestBid : Option ℚ
  currentBestAsk : Option ℚ
  currentBestBidSize : Option ℚ
  currentBestAskSize : Option ℚ
  currentMid : Option ℚ
  currentSpread : Option ℚ
  currentQuoteTsNs : Option ℤ
  currentQuoteMonotonicNs : Option ℤ
  marketClassificationAtDetection : String
  signalEnabledAtDetection : Bool
  bookCompleteAtDetection : Bool
  bookHasSnapshotAtDetection : Bool
  bookStructurallyCompleteAtDetection : Bool
  reportedBestValidationOkAtDetection : Bool
  bookValidationErrorAtDetection : Option String
  bookWarmupMsAtDetection : Option ℚ
  bookWarmupTimeout : Bool
  validationMode : ValidationMode
  validationToleranceTicks : ℤ
  marketMismatchRateAtDetection : Option ℚ
  tokenMismatchRateAtDetection : Option ℚ
  marketQuoteCompleteRateAtDetection : Option ℚ
  tokenQuoteCompleteRateAtDetection : Option ℚ
  staleDiagnostics : StaleDiagnostics
  preEntryRejectReason : Option String
  windowEndReason : Option String
  exitRejectReason : Option String
  lifecycleReason : Option String
  timeoutReason : Option String
  closeReason : Option String
  rejectStage : RejectStage
  episode : MoveEpisode
  deriving DecidableEq

/-- What is written of a candidate. -/
structure TradableGapObservation where
  symbol : String
  marketId : String
  tokenId : String
  direction : GapDirection
  binanceMovePct : ℚ
  episode : MoveEpisode
  detectedTsNs : ℤ
  binanceEventTsNs : Option ℤ
  polyQuoteTsNs : Option ℤ
  beforeBestBid : Option ℚ
  beforeBestAsk : Option ℚ
  beforeBestBidSize : Option ℚ
  beforeBestAskSize : Option ℚ
  beforeMid : Option ℚ
  afterBestBid : Option ℚ
  afterBestAsk : Option ℚ
  afterMid : Option ℚ
  spreadBefore : Option ℚ
  spreadAfter : Option ℚ
  midRepricingDelayMs : Option ℚ
  executableRepricingDelayMs : Option ℚ
  firstMidRepricedTsNs : Option ℤ
  firstExecutableRepricedTsNs : Option ℤ
  executableExitBid : Option ℚ
  entryAsk : Option ℚ
  entryAskSize : Option ℚ
  exitEdgeAfterSpread : Option ℚ
  tickSizeAtDetection : Option ℚ
  spreadAtDetection : Option ℚ
  spreadTicksAtDetection : Option ℚ
  entryAskTicks : Option ℚ
  exitEdgeTicks : Option ℚ
  estimatedEdgeTicks : Option ℚ
  repriceThresholdTicks : Option ℚ
  effectiveRepriceThreshold : ℚ
  effectiveRepriceThresholdTicks : Option ℚ
  repricingDelayMs : Option ℚ
  tradableWindowMs : ℚ
  hypotheticalEntryPrice : Option ℚ
  hypotheticalExitPrice : Option ℚ
  quoteWasFillable : Bool
  estimatedEdgeRaw : Option ℚ
  estimatedEdgeAfterSpread : Option ℚ
  marketClassificationAtDetection : String
  signalEnabledAtDetection : Bool
  bookCompleteAtDetection : Bool
  bookHasSnapshotAtDetection : Bool
  bookStructurallyCompleteAtDetection : Bool
  reportedBestValidationOkAtDetection : Bool
  bookValidationErrorAtDetection : Option String
  bookWarmupMsAtDetection : Option ℚ
  bookWarmupTimeout : Bool
  staleDiagnostics : StaleDiagnostics
  validationMode : ValidationMode
  validationToleranceTicks : ℤ
  marketMismatchRateAtDetection : Option ℚ
  tokenMismatchRateAtDetection : Option ℚ
  marketQuoteCompleteRateAtDetection : Option ℚ
  tokenQuoteCompleteRateAtDetection : Option ℚ
  dataQualityTier : DataQualityTier
  dataQualityReason : String
  preEntryRejectReason : Option String
  windowEndReason : Option String
  exitRejectReason : Option String
  rejectStage : RejectStage
  rejectReason : Option String
  deriving DecidableEq

/-! ### Which candidate a record is about -/

/-- The key of a pending gap. -/
def PendingTradableGap.key (pending : PendingTradableGap) : GapKey :=
  ⟨pending.symbol, pending.market.marketId, pending.direction⟩

/-- What a pending gap has from its detection and keeps to its observation. -/
structure GapIdentity where
  key : GapKey
  tokenId : String
  binanceMovePct : ℚ
  detectedTsNs : ℤ
  binanceEventTsNs : Option ℤ
  entryAsk : Option ℚ
  entryAskSize : Option ℚ
  episode : MoveEpisode
  deriving DecidableEq

/-- The candidate of a pending gap. -/
def PendingTradableGap.identity (pending : PendingTradableGap) : GapIdentity where
  key := pending.key
  tokenId := pending.tokenId
  binanceMovePct := pending.binanceMovePct
  detectedTsNs := pending.firstDetectedTsNs
  binanceEventTsNs := pending.binanceEventTsNs
  entryAsk := some pending.entryAsk
  entryAskSize := some pending.entryAskSize
  episode := pending.episode

/-- The candidate of an observation. -/
def TradableGapObservation.identity (observation : TradableGapObservation) : GapIdentity where
  key := ⟨observation.symbol, observation.marketId, observation.direction⟩
  tokenId := observation.tokenId
  binanceMovePct := observation.binanceMovePct
  detectedTsNs := observation.detectedTsNs
  binanceEventTsNs := observation.binanceEventTsNs
  entryAsk := observation.entryAsk
  entryAskSize := observation.entryAskSize
  episode := observation.episode

/-! ### Changes of a pending gap -/

namespace PendingTradableGap

/-- Note the current quote. -/
def copyCurrentQuote (pending : PendingTradableGap) (quote : PolymarketQuote)
    (quoteTs quoteMono : ℤ) : PendingTradableGap :=
  { pending with
    currentBestBid := quote.bestBid
    currentBestAsk := quote.bestAsk
    currentBestBidSize := quote.bestBidSize
    currentBestAskSize := quote.bestAskSize
    currentMid := quote.midPrice
    currentSpread := quote.spread
    currentQuoteTsNs := some quoteTs
    currentQuoteMonotonicNs := some quoteMono }

/-- Note when the gap could not be traded any more, unless that is known. -/
def markNonTradable (pending : PendingTradableGap) (ts mono : ℤ) : PendingTradableGap :=
  { pending with
    firstNonTradableTsNs := orValue pending.firstNonTradableTsNs (some ts)
    firstNonTradableMonotonicNs := orValue pending.firstNonTradableMonotonicNs (some mono) }

/-- Note the time limit as the end. -/
def endTimeout (pending : PendingTradableGap) (reason : String) : PendingTradableGap :=
  { pending with
    timeoutReason := some reason
    closeReason := some reason
    rejectStage := .timeout }

/-- Note that the window in which the gap could be traded ended. -/
def endWindow (pending : PendingTradableGap) (reason : String) (ts mono : ℤ) :
    PendingTradableGap :=
  { pending.markNonTradable ts mono with
    windowEndReason := some reason
    closeReason := some reason
    rejectStage := .window }

/-- Note that the market of the gap ended. -/
def endLifecycle (pending : PendingTradableGap) (reason : String) (ts mono : ℤ) :
    PendingTradableGap :=
  { pending.markNonTradable ts mono with
    windowEndReason := some reason
    lifecycleReason := some reason
    closeReason := some reason
    rejectStage := .lifecycle }

/-- Note that the gap could be sold at a profit. -/
def endRepriced (pending : PendingTradableGap) (quote : PolymarketQuote) (ts mono : ℤ) :
    PendingTradableGap :=
  { pending with
    firstExecutableRepricedTsNs := some ts
    firstExecutableRepricedMonotonicNs := some mono
    executableExitBid := quote.bestBid
    rejectStage := .none }

/-- For how long the gap could be traded. -/
def tradableWindowMs (pending : PendingTradableGap) : ℚ :=
  let endMono := orValue pending.firstNonTradableMonotonicNs <|
    orValue pending.firstExecutableRepricedMonotonicNs <|
    orValue pending.currentQuoteMonotonicNs (some pending.lastTradableMonotonicNs)
  (durationMs (some pending.firstDetectedMonotonicNs) endMono).getD 0

/-- Why the gap could not be sold. -/
def exitReason (pending : PendingTradableGap) : Option String :=
  match pending.rejectStage with
  | .timeout =>
      if pending.firstMidRepricedTsNs = none then some "no_mid_repricing_before_timeout"
      else if pending.firstExecutableRepricedTsNs = none then
        some "no_executable_repricing_before_timeout"
      else none
  | .exit => pending.exitRejectReason
  | _ => none

/-- Why the gap was rejected. -/
def finalRejectReason (pending : PendingTradableGap) (exitRejectReason : Option String) :
    Option String :=
  match pending.rejectStage with
  | .none => none
  | .window => pending.windowEndReason
  | .lifecycle => pending.closeReason
  | .timeout => pending.closeReason
  | .exit => exitRejectReason
  | .preEntry => pending.closeReason

end PendingTradableGap

/-! ### Data quality -/

/-- What the quality of an observation is judged by. -/
structure QualityInput where
  quoteWasFillable : Bool
  bookHasSnapshot : Bool
  bookStructurallyComplete : Bool
  reportedBestValidationOk : Bool
  validationError : Option String
  validationMode : ValidationMode
  marketQuoteCompleteRate : Option ℚ
  bestAskSize : Option ℚ
  bestBidSize : Option ℚ
  tickSize : Option ℚ

/-- How much an observation can be trusted, and why. -/
def dataQuality (q : QualityInput) : DataQualityTier × String :=
  let reportedBest := q.validationError.any fun error => startsWith error "reported_best_"
  if q.tickSize = none then (.D, "missing_tick_size")
  else if q.validationError = some "quote_stale" ∨ q.validationError = some "book_stale" then
    (.D, "quote_stale")
  else if q.validationError = some "missing_best_ask_size" ∨
      q.validationError = some "best_ask_size_unknown" ∨
      q.validationError = some "best_bid_size_unknown" then (.D, "size_unknown")
  else if q.quoteWasFillable ∧ q.bestAskSize = none then (.D, "size_unknown")
  else if q.bookHasSnapshot = false then (.D, "missing_snapshot")
  else if q.bookStructurallyComplete = false then (.D, "structurally_incomplete")
  else if q.validationMode = .diagnostic then (.C, "diagnostic_mode_only")
  else if q.marketQuoteCompleteRate.any (· < 85 / 100) then (.C, "low_quote_complete_rate")
  else if q.validationMode = .tolerant ∧ reportedBest then (.B, "tolerated_one_tick_mismatch")
  else if q.reportedBestValidationOk ∧
      q.marketQuoteCompleteRate.all (· ≥ 95 / 100) then
    if q.bestBidSize = none ∧ (q.validationError = none ∨ q.validationError = some "") then
      (.B, "size_unknown")
    else (.A, "clean_validated")
  else if q.reportedBestValidationOk then (.B, "clean_validated")
  else (.C, orText q.validationError "weaker_validation_quality")

end SomethingTrade
