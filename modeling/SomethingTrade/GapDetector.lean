import SomethingTrade.GapObservation
import SomethingTrade.Machine

/-!
# The Gap Detector

The detector turns a move of a symbol into candidates, one for each market that follows
the symbol. A candidate that could be filled at once becomes a pending gap, watched until
a quote, the time limit, a lifecycle event or a change of the markets ends it; any other
candidate is written at its detection, or suppressed while the same rejection cools down.

## Representation

* The market state is an argument of each event, like the clock readings.
* The four loops over the pending gaps are one walk (`sweepPending`) with different
  bodies: a body says whether a gap stays pending or is closed, and with which changes.
* The keys of counters are the values their texts are joined from. Summaries that only
  read the detector are left out.

## Main results

* `gapMachine`: the calls of the detector as one machine.
* `GapDetector.detectBinanceMove_rule`: the rule for what a detection keeps.
-/

namespace SomethingTrade

/-- The settings of the detector. -/
structure GapDetectorSettings where
  minMovePct : ℚ
  repriceThreshold : ℚ
  minExitEdge : ℚ
  maxEntrySpread : ℚ
  maxEntryPriceMove : ℚ
  maxPendingGapMs : ℚ
  binanceStaleMs : ℚ
  polymarketStaleMs : ℚ
  preEntryLogCooldownMs : ℚ
  requireBookReady : Bool
  bookWarmupMaxMs : ℚ
  validationMode : ValidationMode
  validationToleranceTicks : ℤ
  closePendingOnTickSizeChange : Bool
  deriving DecidableEq

/-- The detector. -/
structure GapDetector where
  settings : GapDetectorSettings
  detectorStartedNs : ℤ
  marketsBySymbol : Dict String (List PolymarketMarketMetadata)
  marketsByToken : Dict String PolymarketMarketMetadata
  tickSizeByMarket : Dict String ℚ
  pending : Dict GapKey PendingTradableGap
  completed : List TradableGapObservation
  invalidMarkets : Dict String Unit
  lastPreEntryLogNs : Dict (GapKey × String) ℤ
  rejectCountByReason : Dict String ℕ
  rejectCountByStage : Dict RejectStage ℕ
  binanceMovesDetectedBySymbol : Dict String ℕ
  candidatesCreatedBySymbol : Dict String ℕ
  preEntryRejectsBySymbol : Dict String ℕ
  windowRejectsBySymbol : Dict String ℕ
  timeoutRejectsBySymbol : Dict String ℕ
  suppressedCandidatesBySymbol : Dict String ℕ
  nonFillableBySymbol : Dict String ℕ
  rejectReasonsBySymbol : Dict String (Dict String ℕ)
  marketUpdateObservations : List TradableGapObservation
  candidateDuplicateSuppressedCount : ℕ
  candidatesPerSymbolDirectionPerMinute : Dict (String × GapDirection × ℤ) ℕ
  candidatesPerMarketWindow : Dict (String × ℤ × ℤ) ℕ
  detectedGaps : ℕ
  fillableAtDetectionCount : ℕ
  nonFillableAtDetectionCount : ℕ
  preEntryObservationsWritten : ℕ
  preEntryObservationsSuppressed : ℕ
  warmupQuotesReceived : ℕ
  bookWarmupSuppressed : ℕ
  deriving DecidableEq

/-! ### Markets -/

/-- The symbol a market follows. -/
def symbolForMarket (market : PolymarketMarketMetadata) : Option String :=
  let text := lower (market.marketSlug ++ " " ++ market.question)
  if market.baseAsset = some "BTC" then some "BTCUSDT"
  else if market.baseAsset = some "ETH" then some "ETHUSDT"
  else if occursIn "btc" text || occursIn "bitcoin" text then some "BTCUSDT"
  else if occursIn "eth" text || occursIn "ethereum" text then some "ETHUSDT"
  else none

/-- The markets of each symbol. -/
def groupBySymbol (markets : List PolymarketMarketMetadata) :
    Dict String (List PolymarketMarketMetadata) :=
  markets.foldl
    (fun grouped market =>
      match symbolForMarket market with
      | none => grouped
      | some symbol => grouped.set symbol ((grouped.get? symbol).getD [] ++ [market]))
    .empty

/-- The market of each token. -/
def groupByToken (markets : List PolymarketMarketMetadata) :
    Dict String PolymarketMarketMetadata :=
  .ofList (markets.flatMap fun market => market.tokenIds.map fun token => (token, market))

/-- The tick sizes of the markets that have one. -/
def tickSizes (markets : List PolymarketMarketMetadata) : Dict String ℚ :=
  .ofList ((markets.filter fun market => market.tickSize > 0).map fun market =>
    (market.marketId, market.tickSize))

/-- A fresh detector. -/
def GapDetector.init (c : GapDetectorSettings) (markets : List PolymarketMarketMetadata)
    (startedNs : ℤ) : GapDetector where
  settings := c
  detectorStartedNs := startedNs
  marketsBySymbol := groupBySymbol markets
  marketsByToken := groupByToken markets
  tickSizeByMarket := tickSizes markets
  pending := .empty
  completed := []
  invalidMarkets := .empty
  lastPreEntryLogNs := .empty
  rejectCountByReason := .empty
  rejectCountByStage := .empty
  binanceMovesDetectedBySymbol := .empty
  candidatesCreatedBySymbol := .empty
  preEntryRejectsBySymbol := .empty
  windowRejectsBySymbol := .empty
  timeoutRejectsBySymbol := .empty
  suppressedCandidatesBySymbol := .empty
  nonFillableBySymbol := .empty
  rejectReasonsBySymbol := .empty
  marketUpdateObservations := []
  candidateDuplicateSuppressedCount := 0
  candidatesPerSymbolDirectionPerMinute := .empty
  candidatesPerMarketWindow := .empty
  detectedGaps := 0
  fillableAtDetectionCount := 0
  nonFillableAtDetectionCount := 0
  preEntryObservationsWritten := 0
  preEntryObservationsSuppressed := 0
  warmupQuotesReceived := 0
  bookWarmupSuppressed := 0

/-- Whether candidates of a market are wanted at a moment. -/
def marketSignalEnabled (market : PolymarketMarketMetadata) (nowTs : ℤ) : Bool :=
  isRuntimeTradableMarket market (nowTs / 1000000000) &&
    classifyMarketWindow market (nowTs / 1000000000) = .currentSignal

/-- The label of a classification in an observation. -/
def gapEventClassificationLabel : MarketWindowClassification → String
  | .runtimeTradable => "runtime_tradable"
  | .currentSignal => "current"
  | .nextWarmup => "next"
  | .futureTracked => "future"
  | .activeButNotAcceptingOrders => "not_accepting"
  | .missingOrderbook => "missing_orderbook"
  | .missingTokens => "missing_tokens"
  | .closed => "closed"
  | .expired => "expired"
  | .unknown => "unknown"

/-- The moment of an event by the monotonic clock, or what comes closest. -/
def eventMonotonic : MarketEvent → Option ℤ
  | .marketTick e => orValue e.recvMonotonicNs (orValue e.localReceivedTs (some e.tsNs))
  | .orderBookTop e => orValue e.recvMonotonicNs (orValue e.localReceivedTs (some e.tsNs))
  | .depthUpdate e => orValue e.recvMonotonicNs (orValue e.localReceivedTs (some e.tsNs))
  | .polymarketQuote q =>
      orValue q.recvMonotonicNs
        (orValue q.receivedTs (orValue q.localReceivedTs (some q.tsNs)))
  | .marketLifecycle e =>
      orValue e.recvMonotonicNs
        (orValue e.receivedTs (orValue e.localReceivedTs (some e.tsNs)))

/-- A move of a symbol, and what its candidates are detected from. -/
structure BinanceMove where
  symbol : String
  direction : GapDirection
  movePct : ℚ
  episode : MoveEpisode
  binanceEventTs : Option ℤ
  state : MarketState
  now : Moment

namespace GapDetector

/-! ### Questions -/

/-- The tick size of a market, if it is known. -/
def tickSizeForMarket (d : GapDetector) (market : PolymarketMarketMetadata) : Option ℚ :=
  let tickSize := (d.tickSizeByMarket.get? market.marketId).getD market.tickSize
  if tickSize > 0 then some tickSize else none

/-- How far a price must move to count as repriced. -/
def effectiveRepriceThreshold (d : GapDetector) (market : PolymarketMarketMetadata) : ℚ :=
  match d.tickSizeForMarket market with
  | none => d.settings.repriceThreshold
  | some tickSize => max d.settings.repriceThreshold tickSize

/-- How old the feeds of a symbol and a quote are. -/
def staleDiagnostics (d : GapDetector) (symbol : String) (quote : Option PolymarketQuote)
    (state : MarketState) (now : Moment) : StaleDiagnostics :=
  let symbolState := state.symbols.get? symbol
  let lastBinanceMono := symbolState.bind fun s => orValue s.recvMonotonicNs s.parseDoneMonotonicNs
  let lastPolyMono := quote.bind fun q => orValue q.recvMonotonicNs q.parseDoneMonotonicNs
  let hasMonotonicNow := now.nowMonotonicNs ≠ now.nowTs
  let binanceAgeMs :=
    if hasMonotonicNow then durationMs lastBinanceMono (some now.nowMonotonicNs) else none
  let polyAgeMs :=
    if hasMonotonicNow then durationMs lastPolyMono (some now.nowMonotonicNs) else none
  let hasQuoteMonotonic :=
    quote.any fun q => q.recvMonotonicNs.isSome || q.parseDoneMonotonicNs.isSome
  let bookStale := quote.any PolymarketQuote.bookStale
  let source : StaleSource :=
    if bookStale ∧ ¬ hasQuoteMonotonic ∧ lastBinanceMono = none then .unknown
    else
      match binanceAgeMs, polyAgeMs with
      | some binanceAgeMs, some polyAgeMs =>
          let binanceStale := binanceAgeMs > d.settings.binanceStaleMs
          let polyStale := polyAgeMs > d.settings.polymarketStaleMs ∨ bookStale
          if binanceStale ∧ polyStale then .both
          else if binanceStale then .binance
          else if polyStale then .polymarket
          else .unknown
      | _, _ => .unknown
  { staleSource := some source
    binanceQuoteAgeMs := binanceAgeMs
    polymarketQuoteAgeMs := polyAgeMs
    nowMonotonicNs := some now.nowMonotonicNs
    lastBinanceUpdateMonotonicNs := lastBinanceMono
    lastPolymarketUpdateMonotonicNs := lastPolyMono
    binanceLocalReceivedTsNs := symbolState.bind SymbolState.localReceiveTimestamp
    polymarketEventTsNs := quote.bind fun q => orValue q.exchangeEventTs q.eventTs
    polymarketLocalReceivedTsNs := quote.bind fun q => q.localReceivedTs
    stateUpdatedMonotonicNs := quote.bind fun q =>
      orValue q.stateUpdatedMonotonicNs (orValue q.parseDoneMonotonicNs q.recvMonotonicNs)
    detectorProcessedMonotonicNs := some now.nowMonotonicNs }

/-- The state of the books of a market. -/
def bookReadinessGate (d : GapDetector) (market : PolymarketMarketMetadata)
    (state : MarketState) (nowTs : ℤ) : BookReadinessGate :=
  let quotes := ([market.upTokenId, market.downTokenId].filterMap id).map fun token =>
    state.polymarketQuotes.get? token
  let knownQuotes := quotes.filterMap id
  let explicitReady := quotes.length ≥ 2 && quotes.all fun quote =>
    quote.any quoteHasInitialSnapshot
  let legacySyntheticReady := knownQuotes ≠ [] && knownQuotes.all fun quote =>
    quote.bookUpdateType = none && quote.bookComplete
  let bothReady := explicitReady || legacySyntheticReady
  let warmupStart := orNumber (minQuoteTimestamp knownQuotes) d.detectorStartedNs
  let warmupMs := durationMs (some warmupStart) (some nowTs)
  let warmupTimeout := !bothReady && warmupMs.any (· ≥ d.settings.bookWarmupMaxMs)
  { suppress := d.settings.requireBookReady && !bothReady && !warmupTimeout
    warmupMs := warmupMs
    warmupTimeout := warmupTimeout
    bookComplete := bothReady
    bookHasSnapshot := explicitReady
    bookStructurallyComplete := quotes.length ≥ 2 && quotes.all fun quote =>
      quote.any PolymarketQuote.bookStructurallyComplete
    reportedBestValidationOk := knownQuotes ≠ [] &&
      knownQuotes.all PolymarketQuote.reportedBestValidationOk
    validationError := knownQuotes.findSome? PolymarketQuote.validationError
    marketClassification :=
      gapEventClassificationLabel (classifyMarketWindow market (nowTs / 1000000000))
    signalEnabled := marketSignalEnabled market nowTs
    marketMismatchRate := knownQuotes.findSome? PolymarketQuote.marketMismatchRate
    tokenMismatchRate := knownQuotes.findSome? PolymarketQuote.tokenMismatchRate
    marketQuoteCompleteRate := knownQuotes.findSome? PolymarketQuote.marketQuoteCompleteRate
    tokenQuoteCompleteRate := knownQuotes.findSome? PolymarketQuote.tokenQuoteCompleteRate }

/-- Why a quote cannot be filled at its detection. -/
def fillableBeforeRepricing (d : GapDetector) (market : PolymarketMarketMetadata)
    (quote : PolymarketQuote) : Option String :=
  if quote.bookComplete = false then some "book_incomplete"
  else if quote.bookStale then some "book_stale"
  else if quote.bestAsk = none then some "missing_best_ask"
  else if quote.bestAskSize = none then some "missing_best_ask_size"
  else if quote.bestAskSize.any (· < market.minOrderSize) then
    some "insufficient_best_ask_size"
  else if quote.spread = none then some "missing_spread"
  else if quote.spread.any (· > d.settings.maxEntrySpread) then some "spread_too_wide"
  else none

/-- Why the entry of a gap is gone. -/
def entryWindowEndReason (d : GapDetector) (pending : PendingTradableGap)
    (quote : PolymarketQuote) : Option String :=
  if quote.bestAsk = none then some "missing_best_ask"
  else if quote.bestAskSize = none then some "missing_best_ask_size"
  else if quote.bestAskSize.any (· < pending.market.minOrderSize) then
    some "insufficient_best_ask_size"
  else if quote.spread = none then some "missing_spread"
  else if quote.spread.any (· > d.settings.maxEntrySpread) then some "spread_too_wide"
  else if quote.bestAsk.any (· > pending.entryAsk + d.settings.maxEntryPriceMove) then
    some "entry_price_moved"
  else none

/-- Why the book of a gap cannot be trusted any more. -/
def structuralWindowEndReason (d : GapDetector) (pending : PendingTradableGap)
    (quote : PolymarketQuote) (state : MarketState) (now : Moment) : Option String :=
  let source := (d.staleDiagnostics pending.symbol (some quote) state now).staleSource
  if quote.bookStale ∨
      isStaleQuote quote now.nowTs now.nowMonotonicNs d.settings.polymarketStaleMs ∨
      source = some .binance ∨ source = some .both then some "quote_stale"
  else if (d.invalidMarkets.get? pending.market.marketId).isSome then
    some "market_invalidated"
  else if quote.bookComplete = false then some "book_incomplete"
  else none

/-- Why the time of a gap is up. -/
def timeoutReason (d : GapDetector) (pending : PendingTradableGap) (nowMonotonicNs : ℤ) :
    Option String :=
  let elapsedMs := durationMs (some pending.firstDetectedMonotonicNs) (some nowMonotonicNs)
  if elapsedMs.any (· > d.settings.maxPendingGapMs) then
    some "max_observation_lifetime_reached"
  else none

/-- Whether a gap can be sold at a profit. -/
def hasExecutableRepriced (d : GapDetector) (pending : PendingTradableGap)
    (quote : PolymarketQuote) : Bool :=
  quote.bestBid.any (· > pending.entryAsk + d.settings.minExitEdge)

/-- Note when the middle price first followed the move. -/
def markMidRepricing (d : GapDetector) (pending : PendingTradableGap)
    (quote : PolymarketQuote) (quoteTs quoteMono : ℤ) : PendingTradableGap :=
  if pending.firstMidRepricedTsNs.isSome then pending
  else
    match pending.beforeMid, quote.midPrice with
    | some beforeMid, some midPrice =>
        if midPrice ≥ beforeMid + d.effectiveRepriceThreshold pending.market then
          { pending with
            firstMidRepricedTsNs := some quoteTs
            firstMidRepricedMonotonicNs := some quoteMono }
        else pending
    | _, _ => pending

/-! ### Observations -/

/-- The observation of a gap that ended. -/
def observationFromPending (d : GapDetector) (pending : PendingTradableGap) :
    TradableGapObservation :=
  let midDelayMs := durationMs (some pending.firstDetectedMonotonicNs)
    pending.firstMidRepricedMonotonicNs
  let executableDelayMs := durationMs (some pending.firstDetectedMonotonicNs)
    pending.firstExecutableRepricedMonotonicNs
  let exitEdge := diff pending.executableExitBid (some pending.entryAsk)
  let rawEdge := diff pending.currentMid pending.beforeMid
  let tickSize := pending.tickSizeAtDetection
  let spreadAtDetection := orValue pending.spreadAtDetection pending.spreadBefore
  let effectiveThreshold := d.effectiveRepriceThreshold pending.market
  let quality := dataQuality
    { quoteWasFillable := true
      bookHasSnapshot := pending.bookHasSnapshotAtDetection
      bookStructurallyComplete := pending.bookStructurallyCompleteAtDetection
      reportedBestValidationOk := pending.reportedBestValidationOkAtDetection
      validationError := pending.bookValidationErrorAtDetection
      validationMode := pending.validationMode
      marketQuoteCompleteRate := pending.marketQuoteCompleteRateAtDetection
      bestAskSize := some pending.beforeBestAskSize
      bestBidSize := pending.currentBestBidSize
      tickSize := tickSize }
  { symbol := pending.symbol
    marketId := pending.market.marketId
    tokenId := pending.tokenId
    direction := pending.direction
    binanceMovePct := pending.binanceMovePct
    episode := pending.episode
    detectedTsNs := pending.firstDetectedTsNs
    binanceEventTsNs := pending.binanceEventTsNs
    polyQuoteTsNs := orValue pending.currentQuoteTsNs pending.polyQuoteTsNs
    beforeBestBid := pending.beforeBestBid
    beforeBestAsk := some pending.beforeBestAsk
    beforeBestBidSize := pending.beforeBestBidSize
    beforeBestAskSize := some pending.beforeBestAskSize
    beforeMid := pending.beforeMid
    afterBestBid := pending.currentBestBid
    afterBestAsk := pending.currentBestAsk
    afterMid := pending.currentMid
    spreadBefore := pending.spreadBefore
    spreadAfter := pending.currentSpread
    midRepricingDelayMs := midDelayMs
    executableRepricingDelayMs := executableDelayMs
    firstMidRepricedTsNs := pending.firstMidRepricedTsNs
    firstExecutableRepricedTsNs := pending.firstExecutableRepricedTsNs
    executableExitBid := pending.executableExitBid
    entryAsk := some pending.entryAsk
    entryAskSize := some pending.entryAskSize
    exitEdgeAfterSpread := exitEdge
    tickSizeAtDetection := tickSize
    spreadAtDetection := spreadAtDetection
    spreadTicksAtDetection := ticks spreadAtDetection tickSize
    entryAskTicks := ticks (some pending.entryAsk) tickSize
    exitEdgeTicks := ticks exitEdge tickSize
    estimatedEdgeTicks := ticks rawEdge tickSize
    repriceThresholdTicks := ticks (some d.settings.repriceThreshold) tickSize
    effectiveRepriceThreshold := effectiveThreshold
    effectiveRepriceThresholdTicks := ticks (some effectiveThreshold) tickSize
    repricingDelayMs := executableDelayMs
    tradableWindowMs := pending.tradableWindowMs
    hypotheticalEntryPrice := some pending.entryAsk
    hypotheticalExitPrice := orValue pending.executableExitBid pending.currentBestBid
    quoteWasFillable := true
    estimatedEdgeRaw := rawEdge
    estimatedEdgeAfterSpread := if pending.rejectStage = .none then exitEdge else none
    marketClassificationAtDetection := pending.marketClassificationAtDetection
    signalEnabledAtDetection := pending.signalEnabledAtDetection
    bookCompleteAtDetection := pending.bookCompleteAtDetection
    bookHasSnapshotAtDetection := pending.bookHasSnapshotAtDetection
    bookStructurallyCompleteAtDetection := pending.bookStructurallyCompleteAtDetection
    reportedBestValidationOkAtDetection := pending.reportedBestValidationOkAtDetection
    bookValidationErrorAtDetection := pending.bookValidationErrorAtDetection
    bookWarmupMsAtDetection := pending.bookWarmupMsAtDetection
    bookWarmupTimeout := pending.bookWarmupTimeout
    staleDiagnostics := pending.staleDiagnostics
    validationMode := pending.validationMode
    validationToleranceTicks := pending.validationToleranceTicks
    marketMismatchRateAtDetection := pending.marketMismatchRateAtDetection
    tokenMismatchRateAtDetection := pending.tokenMismatchRateAtDetection
    marketQuoteCompleteRateAtDetection := pending.marketQuoteCompleteRateAtDetection
    tokenQuoteCompleteRateAtDetection := pending.tokenQuoteCompleteRateAtDetection
    dataQualityTier := quality.1
    dataQualityReason := quality.2
    preEntryRejectReason := pending.preEntryRejectReason
    windowEndReason := pending.windowEndReason
    exitRejectReason := pending.exitReason
    rejectStage := pending.rejectStage
    rejectReason := pending.finalRejectReason pending.exitReason }

/-- The observation of a candidate that is rejected at its detection. What the quote does
not say, because there is none, is taken from the books of the market. -/
def preEntryObservation (d : GapDetector) (m : BinanceMove) (market : PolymarketMarketMetadata)
    (tokenId : String) (quote : Option PolymarketQuote) (reason : String)
    (gate : BookReadinessGate) : TradableGapObservation :=
  let entryAsk := quote.bind PolymarketQuote.bestAsk
  let tickSize := d.tickSizeForMarket market
  let spreadAtDetection := quote.bind fun q => spreadOf q.bestBid q.bestAsk
  let effectiveThreshold := d.effectiveRepriceThreshold market
  let bookComplete := (quote.map PolymarketQuote.bookComplete).getD gate.bookComplete
  let validationError :=
    match quote with
    | some q => q.validationError
    | none => gate.validationError
  let bookHasSnapshot := (quote.map PolymarketQuote.bookHasSnapshot).getD gate.bookHasSnapshot
  let structurallyComplete :=
    (quote.map PolymarketQuote.bookStructurallyComplete).getD gate.bookStructurallyComplete
  let reportedBestOk :=
    (quote.map PolymarketQuote.reportedBestValidationOk).getD gate.reportedBestValidationOk
  let rate (ofQuote : PolymarketQuote → Option ℚ) (ofGate : Option ℚ) : Option ℚ :=
    (quote.bind ofQuote).orElse fun _ => ofGate
  let marketCompleteRate := rate PolymarketQuote.marketQuoteCompleteRate gate.marketQuoteCompleteRate
  let quality := dataQuality
    { quoteWasFillable := false
      bookHasSnapshot := bookHasSnapshot
      bookStructurallyComplete := structurallyComplete
      reportedBestValidationOk := reportedBestOk
      validationError := some (orText validationError reason)
      validationMode := d.settings.validationMode
      marketQuoteCompleteRate := marketCompleteRate
      bestAskSize := quote.bind PolymarketQuote.bestAskSize
      bestBidSize := quote.bind PolymarketQuote.bestBidSize
      tickSize := tickSize }
  { symbol := m.symbol
    marketId := market.marketId
    tokenId := tokenId
    direction := m.direction
    binanceMovePct := m.movePct
    episode := m.episode
    detectedTsNs := m.now.nowTs
    binanceEventTsNs := m.binanceEventTs
    polyQuoteTsNs := quote.bind quoteTimestamp
    beforeBestBid := quote.bind PolymarketQuote.bestBid
    beforeBestAsk := quote.bind PolymarketQuote.bestAsk
    beforeBestBidSize := quote.bind PolymarketQuote.bestBidSize
    beforeBestAskSize := quote.bind PolymarketQuote.bestAskSize
    beforeMid := quote.bind PolymarketQuote.midPrice
    afterBestBid := quote.bind PolymarketQuote.bestBid
    afterBestAsk := quote.bind PolymarketQuote.bestAsk
    afterMid := quote.bind PolymarketQuote.midPrice
    spreadBefore := quote.bind PolymarketQuote.spread
    spreadAfter := quote.bind PolymarketQuote.spread
    midRepricingDelayMs := none
    executableRepricingDelayMs := none
    firstMidRepricedTsNs := none
    firstExecutableRepricedTsNs := none
    executableExitBid := none
    entryAsk := entryAsk
    entryAskSize := quote.bind PolymarketQuote.bestAskSize
    exitEdgeAfterSpread := none
    tickSizeAtDetection := tickSize
    spreadAtDetection := spreadAtDetection
    spreadTicksAtDetection := ticks spreadAtDetection tickSize
    entryAskTicks := ticks entryAsk tickSize
    exitEdgeTicks := none
    estimatedEdgeTicks := none
    repriceThresholdTicks := ticks (some d.settings.repriceThreshold) tickSize
    effectiveRepriceThreshold := effectiveThreshold
    effectiveRepriceThresholdTicks := ticks (some effectiveThreshold) tickSize
    repricingDelayMs := none
    tradableWindowMs := 0
    hypotheticalEntryPrice := entryAsk
    hypotheticalExitPrice := none
    quoteWasFillable := false
    estimatedEdgeRaw := none
    estimatedEdgeAfterSpread := none
    marketClassificationAtDetection := gate.marketClassification
    signalEnabledAtDetection := gate.signalEnabled
    bookCompleteAtDetection := bookComplete
    bookHasSnapshotAtDetection := bookHasSnapshot
    bookStructurallyCompleteAtDetection := structurallyComplete
    reportedBestValidationOkAtDetection := reportedBestOk
    bookValidationErrorAtDetection := validationError
    bookWarmupMsAtDetection := gate.warmupMs
    bookWarmupTimeout := gate.warmupTimeout
    staleDiagnostics := d.staleDiagnostics m.symbol quote m.state m.now
    validationMode := d.settings.validationMode
    validationToleranceTicks := d.settings.validationToleranceTicks
    marketMismatchRateAtDetection :=
      rate PolymarketQuote.marketMismatchRate gate.marketMismatchRate
    tokenMismatchRateAtDetection :=
      rate PolymarketQuote.tokenMismatchRate gate.tokenMismatchRate
    marketQuoteCompleteRateAtDetection := marketCompleteRate
    tokenQuoteCompleteRateAtDetection :=
      rate PolymarketQuote.tokenQuoteCompleteRate gate.tokenQuoteCompleteRate
    dataQualityTier := quality.1
    dataQualityReason := quality.2
    preEntryRejectReason := some reason
    windowEndReason := none
    exitRejectReason := none
    rejectStage := .preEntry
    rejectReason := some reason }

/-! ### Counters -/

/-- Count a rejection. -/
def recordReject (d : GapDetector) (reason : String) (stage : RejectStage) : GapDetector :=
  { d with
    rejectCountByReason := d.rejectCountByReason.increment reason
    rejectCountByStage := d.rejectCountByStage.increment stage }

/-- Count an observation by its symbol. -/
def recordObservationDiagnostics (d : GapDetector) (observation : TradableGapObservation) :
    GapDetector :=
  let d :=
    match observation.rejectStage with
    | .preEntry =>
        { d with
          preEntryRejectsBySymbol := d.preEntryRejectsBySymbol.increment observation.symbol }
    | .window =>
        { d with windowRejectsBySymbol := d.windowRejectsBySymbol.increment observation.symbol }
    | .timeout =>
        { d with
          timeoutRejectsBySymbol := d.timeoutRejectsBySymbol.increment observation.symbol }
    | _ => d
  match observation.rejectReason with
  | none => d
  | some reason =>
      let reasons := (d.rejectReasonsBySymbol.get? observation.symbol).getD .empty
      { d with
        rejectReasonsBySymbol :=
          d.rejectReasonsBySymbol.set observation.symbol (reasons.increment reason) }

/-- Write an observation: count it and append it to the completed ones. -/
def complete (d : GapDetector) (observation : TradableGapObservation) (stage : RejectStage) :
    GapDetector :=
  let d :=
    match observation.rejectReason with
    | some reason => d.recordReject reason stage
    | none => d
  let d := d.recordObservationDiagnostics observation
  { d with completed := d.completed ++ [observation] }

/-- Write the observation of a rejected candidate, unless the same rejection was written
less than the cooldown ago. -/
def recordPreEntryObservation (d : GapDetector) (observation : TradableGapObservation) :
    GapDetector × Option TradableGapObservation :=
  let d := { d with
    nonFillableAtDetectionCount := d.nonFillableAtDetectionCount + 1
    nonFillableBySymbol := d.nonFillableBySymbol.increment observation.symbol }
  let cooldownKey : GapKey × String :=
    (⟨observation.symbol, observation.marketId, observation.direction⟩,
      orText observation.preEntryRejectReason (orText observation.rejectReason ""))
  let elapsedMs := durationMs (d.lastPreEntryLogNs.get? cooldownKey)
    (some observation.detectedTsNs)
  if elapsedMs.any (· < d.settings.preEntryLogCooldownMs) then
    ({ d with
        preEntryObservationsSuppressed := d.preEntryObservationsSuppressed + 1
        suppressedCandidatesBySymbol :=
          d.suppressedCandidatesBySymbol.increment observation.symbol },
      none)
  else
    let d := { d with
      lastPreEntryLogNs := d.lastPreEntryLogNs.set cooldownKey observation.detectedTsNs
      preEntryObservationsWritten := d.preEntryObservationsWritten + 1 }
    (d.complete observation .preEntry, some observation)

/-- Reject a candidate at its detection. -/
def rejectCandidate (d : GapDetector) (m : BinanceMove) (market : PolymarketMarketMetadata)
    (tokenId : String) (quote : Option PolymarketQuote) (reason : String)
    (gate : BookReadinessGate) : GapDetector × List TradableGapObservation :=
  (d.recordPreEntryObservation
    (d.preEntryObservation m market tokenId quote reason gate)).map id Option.toList

/-! ### Detection -/

/-- The pending gap of a candidate. -/
def pendingGap (d : GapDetector) (m : BinanceMove) (market : PolymarketMarketMetadata)
    (tokenId : String) (quote : PolymarketQuote) (ask askSize : ℚ)
    (gate : BookReadinessGate) : PendingTradableGap where
  symbol := m.symbol
  market := market
  direction := m.direction
  tokenId := tokenId
  binanceMovePct := m.movePct
  firstDetectedTsNs := m.now.nowTs
  firstDetectedMonotonicNs := m.now.nowMonotonicNs
  binanceEventTsNs := m.binanceEventTs
  polyQuoteTsNs := quoteTimestamp quote
  beforeBestBid := quote.bestBid
  beforeBestAsk := ask
  beforeBestBidSize := quote.bestBidSize
  beforeBestAskSize := askSize
  beforeMid := quote.midPrice
  spreadBefore := quote.spread
  tickSizeAtDetection := d.tickSizeForMarket market
  spreadAtDetection := spreadOf quote.bestBid quote.bestAsk
  entryAsk := ask
  entryAskSize := askSize
  lastTradableTsNs := m.now.nowTs
  lastTradableMonotonicNs := m.now.nowMonotonicNs
  firstNonTradableTsNs := none
  firstNonTradableMonotonicNs := none
  firstMidRepricedTsNs := none
  firstMidRepricedMonotonicNs := none
  firstExecutableRepricedTsNs := none
  firstExecutableRepricedMonotonicNs := none
  executableExitBid := none
  currentBestBid := quote.bestBid
  currentBestAsk := quote.bestAsk
  currentBestBidSize := quote.bestBidSize
  currentBestAskSize := quote.bestAskSize
  currentMid := quote.midPrice
  currentSpread := quote.spread
  currentQuoteTsNs := quoteTimestamp quote
  currentQuoteMonotonicNs := some (orNumber quote.recvMonotonicNs m.now.nowMonotonicNs)
  marketClassificationAtDetection := gate.marketClassification
  signalEnabledAtDetection := gate.signalEnabled
  bookCompleteAtDetection := quote.bookComplete
  bookHasSnapshotAtDetection := quote.bookHasSnapshot
  bookStructurallyCompleteAtDetection := quote.bookStructurallyComplete
  reportedBestValidationOkAtDetection := quote.reportedBestValidationOk
  bookValidationErrorAtDetection := quote.validationError
  bookWarmupMsAtDetection := gate.warmupMs
  bookWarmupTimeout := gate.warmupTimeout
  validationMode := d.settings.validationMode
  validationToleranceTicks := d.settings.validationToleranceTicks
  marketMismatchRateAtDetection := orValue quote.marketMismatchRate gate.marketMismatchRate
  tokenMismatchRateAtDetection := orValue quote.tokenMismatchRate gate.tokenMismatchRate
  marketQuoteCompleteRateAtDetection :=
    orValue quote.marketQuoteCompleteRate gate.marketQuoteCompleteRate
  tokenQuoteCompleteRateAtDetection :=
    orValue quote.tokenQuoteCompleteRate gate.tokenQuoteCompleteRate
  staleDiagnostics := d.staleDiagnostics m.symbol (some quote) m.state m.now
  preEntryRejectReason := none
  windowEndReason := none
  exitRejectReason := none
  lifecycleReason := none
  timeoutReason := none
  closeReason := none
  rejectStage := .none
  episode := m.episode

/-- Watch a gap. -/
def openPending (d : GapDetector) (key : GapKey) (pending : PendingTradableGap) (nowTs : ℤ) :
    GapDetector :=
  { d with
    candidatesPerSymbolDirectionPerMinute :=
      d.candidatesPerSymbolDirectionPerMinute.increment
        (key.symbol, key.direction, nowTs / 60000000000)
    pending := d.pending.set key pending
    fillableAtDetectionCount := d.fillableAtDetectionCount + 1 }

/-- Count a candidate whose gap is pending already. -/
def suppressDuplicate (d : GapDetector) (symbol : String) : GapDetector :=
  { d with
    candidateDuplicateSuppressedCount := d.candidateDuplicateSuppressedCount + 1
    suppressedCandidatesBySymbol := d.suppressedCandidatesBySymbol.increment symbol }

/-- What becomes of a candidate. -/
def settleCandidate (d : GapDetector) (m : BinanceMove) (market : PolymarketMarketMetadata)
    (gate : BookReadinessGate) : GapDetector × List TradableGapObservation :=
  let tokenId := market.tokenForDirection m.direction
  if (d.invalidMarkets.get? market.marketId).isSome || m.state.isMarketInvalid market.marketId
  then d.rejectCandidate m market (tokenId.getD "") none "market_invalidated" gate
  else
    match tokenId with
    | none => d.rejectCandidate m market "" none "direction_token_unmapped" gate
    | some tokenId =>
        let key : GapKey := ⟨m.symbol, market.marketId, m.direction⟩
        if (d.pending.get? key).isSome then (d.suppressDuplicate m.symbol, [])
        else
          match m.state.polymarketQuotes.get? tokenId with
          | none => d.rejectCandidate m market tokenId none "missing_quote" gate
          | some quote =>
              if isStaleQuote quote m.now.nowTs m.now.nowMonotonicNs
                  d.settings.polymarketStaleMs then
                d.rejectCandidate m market tokenId (some quote) "quote_stale" gate
              else
                match d.fillableBeforeRepricing market quote with
                | some reason => d.rejectCandidate m market tokenId (some quote) reason gate
                | none =>
                    -- a fillable quote has an ask with a size, as the source asserts
                    match quote.bestAsk, quote.bestAskSize with
                    | some ask, some askSize =>
                        (d.openPending key
                          (d.pendingGap m market tokenId quote ask askSize gate) m.now.nowTs, [])
                    | _, _ => (d, [])

/-- The reasons for which a candidate is rejected before its quote is read. -/
def unreadReasons : List String :=
  ["market_invalidated", "direction_token_unmapped", "missing_quote"]

/-- A quote that is read at a detection can be filled: it is fresh, and lacks nothing. -/
structure CanFill (d : GapDetector) (market : PolymarketMarketMetadata)
    (quote : PolymarketQuote) (now : Moment) : Prop where
  fresh : isStaleQuote quote now.nowTs now.nowMonotonicNs d.settings.polymarketStaleMs = false
  fillable : d.fillableBeforeRepricing market quote = none

/-- Why a candidate is rejected, and on which quote, if one is read. -/
inductive Rejects (d : GapDetector) (m : BinanceMove) (market : PolymarketMarketMetadata) :
    String → Option PolymarketQuote → String → Prop
  | unread (tokenId : String) {reason : String} (unread : reason ∈ unreadReasons) :
      Rejects d m market tokenId none reason
  | stale {tokenId : String} {quote : PolymarketQuote}
      (token : market.tokenForDirection m.direction = some tokenId)
      (read : m.state.polymarketQuotes.get? tokenId = some quote)
      (stale : isStaleQuote quote m.now.nowTs m.now.nowMonotonicNs
        d.settings.polymarketStaleMs = true) :
      Rejects d m market tokenId (some quote) "quote_stale"
  | unfillable {tokenId : String} {quote : PolymarketQuote} {reason : String}
      (token : market.tokenForDirection m.direction = some tokenId)
      (read : m.state.polymarketQuotes.get? tokenId = some quote)
      (why : d.fillableBeforeRepricing market quote = some reason) :
      Rejects d m market tokenId (some quote) reason

/-- The ways in which a candidate is settled. -/
inductive Settles (d : GapDetector) (m : BinanceMove) (market : PolymarketMarketMetadata)
    (gate : BookReadinessGate) : GapDetector × List TradableGapObservation → Prop
  | rejected {tokenId : String} {quote : Option PolymarketQuote} {reason : String}
      (rejects : d.Rejects m market tokenId quote reason) :
      Settles d m market gate (d.rejectCandidate m market tokenId quote reason gate)
  | duplicate : Settles d m market gate (d.suppressDuplicate m.symbol, [])
  | opened {tokenId : String} {quote : PolymarketQuote} {ask askSize : ℚ}
      (token : market.tokenForDirection m.direction = some tokenId)
      (free : d.pending.get? ⟨m.symbol, market.marketId, m.direction⟩ = none)
      (read : m.state.polymarketQuotes.get? tokenId = some quote)
      (fills : d.CanFill market quote m.now) :
      Settles d m market gate (d.openPending ⟨m.symbol, market.marketId, m.direction⟩
        (d.pendingGap m market tokenId quote ask askSize gate) m.now.nowTs, [])

/-- A quote that can be filled has an ask with a size. -/
theorem ask_of_fillable {d : GapDetector} {market : PolymarketMarketMetadata}
    {quote : PolymarketQuote} (h : d.fillableBeforeRepricing market quote = none) :
    ∃ ask askSize, quote.bestAsk = some ask ∧ quote.bestAskSize = some askSize := by
  rw [fillableBeforeRepricing] at h
  split_ifs at h with hcomplete hstale hask hsize
  obtain ⟨ask, hask⟩ := Option.ne_none_iff_exists'.mp hask
  obtain ⟨askSize, hsize⟩ := Option.ne_none_iff_exists'.mp hsize
  exact ⟨ask, askSize, hask, hsize⟩

/-- **A candidate is settled in one of these ways.** -/
theorem settleCandidate_settles (d : GapDetector) (m : BinanceMove)
    (market : PolymarketMarketMetadata) (gate : BookReadinessGate) :
    d.Settles m market gate (d.settleCandidate m market gate) := by
  rw [settleCandidate]
  dsimp only
  split
  · exact .rejected (.unread _ (by decide))
  split
  · exact .rejected (.unread _ (by decide))
  rename_i tokenId htoken
  split
  · exact .duplicate
  rename_i hfree
  split
  · exact .rejected (.unread _ (by decide))
  rename_i quote hread
  split
  · rename_i hstale
    exact .rejected (.stale htoken hread hstale)
  rename_i hfresh
  split
  · rename_i reason hwhy
    exact .rejected (.unfillable htoken hread hwhy)
  rename_i hfillable
  obtain ⟨ask, askSize, hask, hsize⟩ := ask_of_fillable hfillable
  rw [hask, hsize]
  exact .opened htoken (Option.not_isSome_iff_eq_none.mp hfree) hread
    ⟨Bool.not_eq_true _ ▸ hfresh, hfillable⟩

/-- Count a candidate. -/
def countCandidate (d : GapDetector) (m : BinanceMove) (market : PolymarketMarketMetadata) :
    GapDetector :=
  { d with
    detectedGaps := d.detectedGaps + 1
    candidatesCreatedBySymbol := d.candidatesCreatedBySymbol.increment m.symbol
    candidatesPerMarketWindow := d.candidatesPerMarketWindow.increment
      (market.marketId, m.episode.sourceMoveWindowMs, m.episode.windowBucket) }

/-- Hold a move against one market. -/
def detectInMarket (m : BinanceMove) (acc : GapDetector × List TradableGapObservation)
    (market : PolymarketMarketMetadata) : GapDetector × List TradableGapObservation :=
  let d := acc.1
  if marketSignalEnabled market m.now.nowTs = false then acc
  else
    let gate := d.bookReadinessGate market m.state m.now.nowTs
    if gate.suppress then ({ d with bookWarmupSuppressed := d.bookWarmupSuppressed + 1 }, acc.2)
    else ((d.countCandidate m market).settleCandidate m market gate).map id (acc.2 ++ ·)

/-- Look for a move of a symbol, and hold it against the markets of the symbol. -/
def detectBinanceMove (d : GapDetector) (symbol : String) (state : MarketState) (now : Moment)
    (binanceEventTs : Option ℤ) : GapDetector × List TradableGapObservation :=
  match state.symbols.get? symbol with
  | none => (d.recordReject "binance_stale" .preEntry, [])
  | some symbolState =>
      if isStaleWall (orValue symbolState.localReceiveTimestamp symbolState.lastEventTimestamp)
          now.nowTs d.settings.binanceStaleMs then
        (d.recordReject "binance_stale" .preEntry, [])
      else
        match strongestReturn (knownReturns symbolState) with
        | none => (d, [])
        | some (windowKey, value) =>
            let movePct := value * 100
            if |movePct| < d.settings.minMovePct then (d, [])
            else
              let d := { d with
                binanceMovesDetectedBySymbol := d.binanceMovesDetectedBySymbol.increment symbol }
              let direction := if movePct > 0 then GapDirection.up else GapDirection.down
              let m : BinanceMove :=
                { symbol := symbol
                  direction := direction
                  movePct := movePct
                  episode := moveEpisode symbol direction windowKey
                    (orNumber binanceEventTs now.nowTs)
                  binanceEventTs := binanceEventTs
                  state := state
                  now := now }
              ((d.marketsBySymbol.get? symbol).getD []).foldl (detectInMarket m) (d, [])

/-- **The rule for detections**: what holds before the markets of the symbol are looked at,
and is kept by holding a move of that state and moment against each of them, holds after. -/
theorem detectBinanceMove_rule_at {P : GapDetector × List TradableGapObservation → Prop}
    (d : GapDetector) (symbol : String) (state : MarketState) (now : Moment)
    (binanceEventTs : Option ℤ) (hstart : P (d, []))
    (hstale : P (d.recordReject "binance_stale" .preEntry, []))
    (hmove : P ({ d with
      binanceMovesDetectedBySymbol := d.binanceMovesDetectedBySymbol.increment symbol }, []))
    (hmarket : ∀ m : BinanceMove, m.symbol = symbol → m.state = state → m.now = now →
      ∀ market ∈ (d.marketsBySymbol.get? symbol).getD [],
        ∀ acc, P acc → P (detectInMarket m acc market)) :
    P (d.detectBinanceMove symbol state now binanceEventTs) := by
  rw [detectBinanceMove]
  split
  · exact hstale
  split
  · exact hstale
  split
  · exact hstart
  dsimp only
  split
  · exact hstart
  · refine List.foldlRecOn _ _ hmove fun acc hacc market hmem => ?_
    exact hmarket _ rfl rfl rfl market hmem acc hacc

/-- The rule for what depends on the moment only. -/
theorem detectBinanceMove_rule {P : GapDetector × List TradableGapObservation → Prop}
    (d : GapDetector) (symbol : String) (state : MarketState) (now : Moment)
    (binanceEventTs : Option ℤ) (hstart : P (d, []))
    (hstale : P (d.recordReject "binance_stale" .preEntry, []))
    (hmove : P ({ d with
      binanceMovesDetectedBySymbol := d.binanceMovesDetectedBySymbol.increment symbol }, []))
    (hmarket : ∀ m : BinanceMove, m.now = now → ∀ market ∈ (d.marketsBySymbol.get? symbol).getD [],
      ∀ acc, P acc → P (detectInMarket m acc market)) :
    P (d.detectBinanceMove symbol state now binanceEventTs) :=
  detectBinanceMove_rule_at d symbol state now binanceEventTs hstart hstale hmove
    fun m _ _ hnow => hmarket m hnow

/-! ### Pending gaps -/

/-- What a body of a walk decides: the gap stays pending, or it is closed. -/
inductive GapFate
  | keep (pending : PendingTradableGap)
  | close (pending : PendingTradableGap)

/-- Close a pending gap: write its observation and forget it. -/
def closePending (d : GapDetector) (key : GapKey) (pending : PendingTradableGap) :
    GapDetector × TradableGapObservation :=
  let observation := d.observationFromPending pending
  let d := d.complete observation observation.rejectStage
  ({ d with pending := d.pending.pop key }, observation)

/-- One step of a walk over the pending gaps. -/
def visitPending (body : GapDetector → PendingTradableGap → GapFate)
    (acc : GapDetector × List TradableGapObservation) (e : GapKey × PendingTradableGap) :
    GapDetector × List TradableGapObservation :=
  match body acc.1 e.2 with
  | .keep pending => ({ acc.1 with pending := acc.1.pending.set e.1 pending }, acc.2)
  | .close pending => (acc.1.closePending e.1 pending).map id fun obs => acc.2 ++ [obs]

/-- Walk over the pending gaps, and collect the observations of those that are closed. -/
def sweepPending (d : GapDetector) (body : GapDetector → PendingTradableGap → GapFate) :
    GapDetector × List TradableGapObservation :=
  d.pending.entries.foldl (visitPending body) (d, [])

/-- What a quote does to a pending gap. -/
def quoteFate (quote : PolymarketQuote) (state : MarketState) (now : Moment) (d : GapDetector)
    (pending : PendingTradableGap) : GapFate :=
  if pending.tokenId ≠ quote.tokenId then .keep pending
  else
    let quoteTs := orNumber (quoteTimestamp quote) now.nowTs
    let quoteMono := orNumber quote.recvMonotonicNs now.nowMonotonicNs
    let pending := pending.copyCurrentQuote quote quoteTs quoteMono
    let pending := { pending with
      staleDiagnostics := d.staleDiagnostics pending.symbol (some quote) state now }
    let pending := d.markMidRepricing pending quote quoteTs quoteMono
    match d.timeoutReason pending quoteMono with
    | some reason => .close (pending.endTimeout reason)
    | none =>
        match d.structuralWindowEndReason pending quote state now with
        | some reason => .close (pending.endWindow reason quoteTs quoteMono)
        | none =>
            if d.hasExecutableRepriced pending quote then
              .close (pending.endRepriced quote quoteTs quoteMono)
            else
              match d.entryWindowEndReason pending quote with
              | some reason => .close (pending.endWindow reason quoteTs quoteMono)
              | none =>
                  .keep { pending with
                    lastTradableTsNs := quoteTs
                    lastTradableMonotonicNs := quoteMono }

/-- Hold a quote against the pending gaps. -/
def handlePolymarketQuote (d : GapDetector) (quote : PolymarketQuote) (state : MarketState)
    (now : Moment) : GapDetector × List TradableGapObservation :=
  d.sweepPending (quoteFate quote state now)

/-- What the end of a market, or a change of its tick size, does to a pending gap. -/
def lifecycleFate (event : MarketLifecycleEvent) (state : MarketState) (now : Moment)
    (d : GapDetector) (pending : PendingTradableGap) : GapFate :=
  let closeTs := orNumber (orValue event.receivedTs event.localReceivedTs) now.nowTs
  let closeMono := orNumber event.recvMonotonicNs now.nowMonotonicNs
  if pending.market.marketId ≠ event.marketId then .keep pending
  else
    let pending :=
      match state.polymarketQuotes.get? pending.tokenId with
      | none => pending
      | some quote =>
          { pending.copyCurrentQuote quote (orNumber (quoteTimestamp quote) closeTs)
              (orNumber quote.recvMonotonicNs closeMono) with
            staleDiagnostics := d.staleDiagnostics pending.symbol (some quote) state now }
    .close (pending.endLifecycle event.lifecycleType.text closeTs closeMono)

/-- Handle a lifecycle event. -/
def handleLifecycle (d : GapDetector) (event : MarketLifecycleEvent) (state : MarketState)
    (now : Moment) : GapDetector × List TradableGapObservation :=
  if event.lifecycleType = .newMarket then (d, [])
  else
    match event.lifecycleType, orValue event.newTickSize none with
    | .tickSizeChange, some tickSize =>
        let d := { d with
          tickSizeByMarket := d.tickSizeByMarket.set event.marketId tickSize }
        if d.settings.closePendingOnTickSizeChange = false then (d, [])
        else d.sweepPending (lifecycleFate event state now)
    | _, _ =>
        { d with
          invalidMarkets := d.invalidMarkets.set event.marketId ()
        }.sweepPending (lifecycleFate event state now)

/-- What the time limit does to a pending gap. -/
def expiryFate (state : MarketState) (now : Moment) (d : GapDetector)
    (pending : PendingTradableGap) : GapFate :=
  match d.timeoutReason pending now.nowMonotonicNs with
  | none => .keep pending
  | some reason =>
      let quote := state.polymarketQuotes.get? pending.tokenId
      let pending :=
        match quote with
        | none => pending
        | some quote =>
            pending.copyCurrentQuote quote (orNumber (quoteTimestamp quote) now.nowTs)
              (orNumber quote.recvMonotonicNs now.nowMonotonicNs)
      .close ({ pending with
        staleDiagnostics := d.staleDiagnostics pending.symbol quote state now
      }.endTimeout reason)

/-- Close the pending gaps whose time is up. -/
def closeExpiredPending (d : GapDetector) (state : MarketState) (now : Moment) :
    GapDetector × List TradableGapObservation :=
  d.sweepPending (expiryFate state now)

/-! ### Calls -/

/-- Count a quote of a market whose window comes next. -/
def recordWarmupQuote (d : GapDetector) (quote : PolymarketQuote) (nowTs : ℤ) : GapDetector :=
  match d.marketsByToken.get? quote.tokenId with
  | none => d
  | some market =>
      if market.selectedForRuntime ∧ marketSignalEnabled market nowTs = false ∧
          classifyMarketWindow market (nowTs / 1000000000) = .nextWarmup then
        { d with warmupQuotesReceived := d.warmupQuotesReceived + 1 }
      else d

/-- What the kind of an event calls for, before the time limits are looked at. -/
def handleEvent (d : GapDetector) (event : MarketEvent) (state : MarketState) (now : Moment) :
    GapDetector × List TradableGapObservation :=
  match event with
  | .marketTick e =>
      if e.source = .binance then
        d.detectBinanceMove e.symbol state now (orValue e.exchangeEventTs e.localReceivedTs)
      else (d, [])
  | .orderBookTop e =>
      if e.source = .binance then
        d.detectBinanceMove e.symbol state now (orValue e.exchangeEventTs e.localReceivedTs)
      else (d, [])
  | .depthUpdate _ => (d, [])
  | .polymarketQuote quote =>
      (d.recordWarmupQuote quote now.nowTs).handlePolymarketQuote quote state now
  | .marketLifecycle e => d.handleLifecycle e state now

/-- The moment of an event: the time it is given, or else the clock; by the monotonic
clock, the moment of the event itself. -/
def momentOf (event : MarketEvent) (nowTs : Option ℤ) (clock : ℤ) : Moment :=
  let nowTs := orNumber nowTs clock
  ⟨nowTs, orNumber (eventMonotonic event) nowTs⟩

/-- Whether an event is a lifecycle event. -/
def isLifecycle : MarketEvent → Bool
  | .marketLifecycle _ => true
  | _ => false

/-- Handle an event. -/
def onMarketEvent (d : GapDetector) (event : MarketEvent) (state : MarketState)
    (nowTs : Option ℤ) (clock : ℤ) : GapDetector × List TradableGapObservation :=
  let now := momentOf event nowTs clock
  let handled := d.handleEvent event state now
  if isLifecycle event then handled
  else (handled.1.closeExpiredPending state now).map id (handled.2 ++ ·)

/-- What a change of the markets does to a pending gap. -/
def refreshFate (activeById : Dict String PolymarketMarketMetadata) (now : Moment)
    (_ : GapDetector) (pending : PendingTradableGap) : GapFate :=
  match activeById.get? pending.market.marketId with
  | some replacement => .keep { pending with market := replacement }
  | none =>
      .close { pending.endLifecycle "market_expired" now.nowTs now.nowMonotonicNs with
        staleDiagnostics :=
          { staleSource := some .unknown
            binanceQuoteAgeMs := none
            polymarketQuoteAgeMs := none
            nowMonotonicNs := some now.nowMonotonicNs
            lastBinanceUpdateMonotonicNs := none
            lastPolymarketUpdateMonotonicNs := none
            binanceLocalReceivedTsNs := none
            polymarketEventTsNs := none
            polymarketLocalReceivedTsNs := none
            stateUpdatedMonotonicNs := none
            detectorProcessedMonotonicNs := some now.nowMonotonicNs } }

/-- Replace the markets. The observations of the gaps of markets that are gone wait to be
drained. -/
def updateMarkets (d : GapDetector) (markets : List PolymarketMarketMetadata) (now : Moment) :
    GapDetector :=
  let activeById : Dict String PolymarketMarketMetadata :=
    .ofList (markets.map fun market => (market.marketId, market))
  let swept := d.sweepPending (refreshFate activeById now)
  { swept.1 with
    marketUpdateObservations := swept.1.marketUpdateObservations ++ swept.2
    marketsBySymbol := groupBySymbol markets
    marketsByToken := groupByToken markets
    tickSizeByMarket := tickSizes markets
    invalidMarkets := swept.1.invalidMarkets.filterKeys fun marketId =>
      (activeById.get? marketId).isSome }

/-- Take the observations that wait. -/
def drainMarketUpdateObservations (d : GapDetector) :
    GapDetector × List TradableGapObservation :=
  ({ d with marketUpdateObservations := [] }, d.marketUpdateObservations)

end GapDetector

/-- A call of the detector. -/
inductive GapCall
  | onMarketEvent (event : MarketEvent) (state : MarketState) (nowTs : Option ℤ) (clock : ℤ)
  | updateMarkets (markets : List PolymarketMarketMetadata) (now : Moment)
  | drainMarketUpdateObservations

/-- The detector as a machine; a call that returns nothing replies with no observation. -/
def gapMachine : Machine GapDetector GapCall (List TradableGapObservation) where
  step d
    | .onMarketEvent event state nowTs clock => d.onMarketEvent event state nowTs clock
    | .updateMarkets markets now => (d.updateMarkets markets now, [])
    | .drainMarketUpdateObservations => d.drainMarketUpdateObservations

end SomethingTrade
