import Mathlib.Data.Rat.Floor
import SomethingTrade.Dict
import SomethingTrade.Json
import SomethingTrade.Machine
import SomethingTrade.MarketEvents

/-!
# The Local Polymarket Order Book

The local ladder of each Polymarket token, kept up to date by three kinds of messages: a
full book, a change of one level, and a report of the best prices, which carries no
sizes. Every message yields a quote. A reported best price that disagrees with the ladder
overrides it in the quote, where its size is then unknown, and makes the book incomplete.

## Representation

* Prices and sizes are exact; a number that is not finite counts as no number.
* A message is a decoded object. An exception ends its call with the effects it had so
  far (`PolymarketReply.raised`).
* What is only written to the file of mismatch samples is left out, but not the count of
  samples and the conversions that may raise while a sample is made.
* A set is a dictionary to the unit type.

## Main results

* `PolymarketLocalOrderBook.updateTickSize_rule`,
  `PolymarketLocalOrderBook.updateTokenMetadata_rule`: what every token's change keeps, the
  change of all of them keeps.
* `polymarketMachine`: the calls of the local order book as one machine.
-/

namespace SomethingTrade

/-- A side of a book. -/
inductive BookSide
  | bid | ask
  deriving DecidableEq

/-- Why a quote does not pass validation. -/
inductive ValidationError
  | reportedBestMismatch (side : BookSide)
  | bestSizeUnknown (side : BookSide)
  | missingSnapshot
  | priceChangeBeforeSnapshot
  | bestBidAskBeforeSnapshot
  | bookStructurallyIncomplete
  | crossedBook
  | emptyBook
  | unsupportedPriceChangeSide (side : String)
  | marketInvalidated
  deriving DecidableEq

/-- The text of a side. -/
def BookSide.text : BookSide → String
  | bid => "bid"
  | ask => "ask"

/-- The text of a validation error. -/
def ValidationError.text : ValidationError → String
  | reportedBestMismatch side => "reported_best_" ++ side.text ++ "_mismatch"
  | bestSizeUnknown side => "best_" ++ side.text ++ "_size_unknown"
  | missingSnapshot => "missing_snapshot"
  | priceChangeBeforeSnapshot => "price_change_before_snapshot"
  | bestBidAskBeforeSnapshot => "best_bid_ask_before_snapshot"
  | bookStructurallyIncomplete => "book_structurally_incomplete"
  | crossedBook => "crossed_book"
  | emptyBook => "empty_book"
  | unsupportedPriceChangeSide side => "unsupported_price_change_side:" ++ side
  | marketInvalidated => "market_invalidated"

/-- Whether an error is sampled. -/
def ValidationError.isSampled : ValidationError → Bool
  | unsupportedPriceChangeSide _ | marketInvalidated => false
  | _ => true

/-- An exception of a message. -/
inductive MessageError
  /-- A field the message must have is missing. -/
  | keyError (field : String)
  /-- A value is not a number; the value as printed. -/
  | valueError (value : String)
  deriving DecidableEq

/-! ### Records -/

/-- What is known of a token from discovery. -/
structure TokenBookMetadata where
  conditionId : Option String
  marketId : String
  sideLabel : PolymarketSideLabel
  tickSize : ℚ
  deriving DecidableEq

/-- The local book of a token. -/
structure TokenBook where
  tokenId : String
  metadata : TokenBookMetadata
  bids : Dict ℚ ℚ
  asks : Dict ℚ ℚ
  lastHash : Option String
  lastEventTs : Option ℤ
  lastReceivedTs : Option ℤ
  updateCount : ℕ
  hasSnapshot : Bool
  incomplete : Bool
  invalid : Bool
  validationError : Option ValidationError
  reportedBestValidationOk : Bool
  bestBidOverride : Option ℚ
  bestAskOverride : Option ℚ
  deriving DecidableEq

/-- The readiness statistics of a token. -/
structure TokenBookReadiness where
  tokenId : String
  marketId : String
  firstWsMessageTsNs : Option ℤ
  firstBookSnapshotTsNs : Option ℤ
  firstCompleteQuoteTsNs : Option ℤ
  bookCompleteTrueCount : ℕ
  bookCompleteFalseCount : ℕ
  validationErrorCountByReason : Dict String ℕ
  validationErrorCountByUpdateType : Dict UpdateType ℕ
  quoteStaleCount : ℕ
  priceChangeBeforeSnapshotCount : ℕ
  bestBidAskBeforeSnapshotCount : ℕ
  snapshotCount : ℕ
  deltaCount : ℕ
  reconnectCount : ℕ
  lastValidationError : Option String
  deriving DecidableEq

/-- The times of a message, and its sequence value. -/
structure MessageTimes where
  tsNs : ℤ
  receivedTs : ℤ
  parseDoneTs : ℤ
  recvMonotonicNs : ℤ
  parseDoneMonotonicNs : ℤ
  eventTs : Option ℤ
  sequence : Json

/-- The local order books of all tokens. -/
structure PolymarketLocalOrderBook where
  tokenMetadata : Dict String TokenBookMetadata
  staleAfterMs : ℚ
  bestValidationMode : ValidationMode
  bestValidationToleranceTicks : ℤ
  mismatchSamplePath : Option String
  mismatchSamplePerTokenPerMin : ℤ
  sampleCounts : Dict (String × ℤ) ℕ
  books : Dict String TokenBook
  mismatchTickDiffs : List ℚ
  mismatchByUpdateType : Dict UpdateType ℕ
  readiness : Dict String TokenBookReadiness
  marketInvalid : Dict String Unit
  deriving DecidableEq

/-- The settings the order book is created with. -/
structure PolymarketSettings where
  tokenMetadata : Dict String TokenBookMetadata
  staleAfterMs : ℚ
  bestValidationMode : ValidationMode
  bestValidationToleranceTicks : ℤ
  mismatchSamplePath : Option String
  mismatchSamplePerTokenPerMin : ℤ

/-- Fresh readiness statistics. -/
def TokenBookReadiness.init (tokenId marketId : String) : TokenBookReadiness where
  tokenId := tokenId
  marketId := marketId
  firstWsMessageTsNs := none
  firstBookSnapshotTsNs := none
  firstCompleteQuoteTsNs := none
  bookCompleteTrueCount := 0
  bookCompleteFalseCount := 0
  validationErrorCountByReason := .empty
  validationErrorCountByUpdateType := .empty
  quoteStaleCount := 0
  priceChangeBeforeSnapshotCount := 0
  bestBidAskBeforeSnapshotCount := 0
  snapshotCount := 0
  deltaCount := 0
  reconnectCount := 0
  lastValidationError := none

/-- A fresh book: without a snapshot, hence incomplete. -/
def TokenBook.init (tokenId : String) (metadata : TokenBookMetadata) : TokenBook where
  tokenId := tokenId
  metadata := metadata
  bids := .empty
  asks := .empty
  lastHash := none
  lastEventTs := none
  lastReceivedTs := none
  updateCount := 0
  hasSnapshot := false
  incomplete := true
  invalid := false
  validationError := none
  reportedBestValidationOk := true
  bestBidOverride := none
  bestAskOverride := none

/-- A fresh order book. -/
def PolymarketLocalOrderBook.init (c : PolymarketSettings) : PolymarketLocalOrderBook where
  tokenMetadata := c.tokenMetadata
  staleAfterMs := c.staleAfterMs
  bestValidationMode := c.bestValidationMode
  bestValidationToleranceTicks := c.bestValidationToleranceTicks
  mismatchSamplePath := c.mismatchSamplePath
  mismatchSamplePerTokenPerMin := c.mismatchSamplePerTokenPerMin
  sampleCounts := .empty
  books := .empty
  mismatchTickDiffs := []
  mismatchByUpdateType := .empty
  readiness := .ofList (c.tokenMetadata.entries.map fun e =>
    (e.1, TokenBookReadiness.init e.1 e.2.marketId))
  marketInvalid := .empty

/-! ### Reading messages -/

/-- A number of a message. -/
def floatFrom (value : Json) : Except MessageError ℚ :=
  match value.toFloat? with
  | some (.finite q) => .ok q
  | _ => .error (.valueError value.repr)

/-- A number that may be missing: `null` and the empty text are none. -/
def optionalFloat (value : Json) : Except MessageError (Option ℚ) :=
  match value with
  | .null => .ok none
  | .str "" => .ok none
  | value => (floatFrom value).map some

/-- A field a message must have. -/
def requiredField (row : Json) (field : String) : Except MessageError Json :=
  match row.get? field with
  | some value => .ok value
  | none => .error (.keyError field)

/-- Write one row of a book message into the levels; a size that is not positive is no
level. -/
def addLevelRow (levels : Dict ℚ ℚ) (row : Json) : Except MessageError (Dict ℚ ℚ) :=
  match row with
  | .obj _ => do
      let price ← floatFrom (← requiredField row "price")
      let size ← floatFrom (← requiredField row "size")
      return if size > 0 then levels.set price size else levels
  | _ => .ok levels

/-- The levels of a side of a book message. -/
def levelsToDict (rows : Json) : Except MessageError (Dict ℚ ℚ) :=
  match rows with
  | .arr rows => rows.foldlM addLevelRow .empty
  | _ => .ok .empty

/-- Set a level, or remove it when the size is not positive. -/
def setLevel (levels : Dict ℚ ℚ) (price size : ℚ) : Dict ℚ ℚ :=
  if size ≤ 0 then levels.pop price else levels.set price size

/-- The text of a sequence value. -/
def hashText : Json → Option String
  | .null => none
  | value => some value.text

/-- The best bid of a side with its size. -/
def bestBidLevel (levels : Dict ℚ ℚ) : Option ℚ × Option ℚ :=
  match levels.keys.max? with
  | none => (none, none)
  | some price => (some price, levels.get? price)

/-- The best ask of a side with its size. -/
def bestAskLevel (levels : Dict ℚ ℚ) : Option ℚ × Option ℚ :=
  match levels.keys.min? with
  | none => (none, none)
  | some price => (some price, levels.get? price)

/-- Whether two prices are the same up to rounding. -/
def pricesEqual (left right : ℚ) : Bool := |left - right| ≤ 1 / 1000000000000

/-! ### One book -/

namespace TokenBook

/-- The best price of a side with its size. -/
def localBest (book : TokenBook) : BookSide → Option ℚ × Option ℚ
  | .bid => bestBidLevel book.bids
  | .ask => bestAskLevel book.asks

/-- The override of a side. -/
def override (book : TokenBook) : BookSide → Option ℚ
  | .bid => book.bestBidOverride
  | .ask => book.bestAskOverride

/-- Replace the override of a side. -/
def setOverride (book : TokenBook) (side : BookSide) (price : Option ℚ) : TokenBook :=
  match side with
  | .bid => { book with bestBidOverride := price }
  | .ask => { book with bestAskOverride := price }

/-- Note when a message was applied. -/
def touch (book : TokenBook) (t : MessageTimes) : TokenBook :=
  { book with
    lastEventTs := t.eventTs
    lastReceivedTs := some t.receivedTs
    lastHash := hashText t.sequence
    updateCount := book.updateCount + 1 }

/-- Drop overrides that are the best prices of the ladder again. -/
def clearResolvedOverrides (book : TokenBook) : TokenBook :=
  { book with
    bestBidOverride :=
      if book.bestBidOverride.isSome ∧ book.bestBidOverride = (book.localBest .bid).1 then none
      else book.bestBidOverride
    bestAskOverride :=
      if book.bestAskOverride.isSome ∧ book.bestAskOverride = (book.localBest .ask).1 then none
      else book.bestAskOverride }

/-- The error of the ladder on its own. -/
def structuralValidationError (book : TokenBook) : Option ValidationError :=
  let (localBid, localBidSize) := book.localBest .bid
  let (localAsk, localAskSize) := book.localBest .ask
  if book.hasSnapshot = false then none
  else if localBid = none ∧ localAsk = none then some .emptyBook
  else
    match localBid, localAsk with
    | some bid, some ask =>
        if bid ≥ ask then some .crossedBook
        else if localBidSize = none ∨ localAskSize = none then some .bookStructurallyIncomplete
        else none
    | _, _ => some .bookStructurallyIncomplete

/-- Whether the ladder has two sides with sizes that do not cross, in a valid market. -/
def structurallyComplete (book : TokenBook) : Bool :=
  let (localBid, localBidSize) := book.localBest .bid
  let (localAsk, localAskSize) := book.localBest .ask
  book.hasSnapshot && !book.invalid && localBidSize.isSome && localAskSize.isSome &&
    match localBid, localAsk with
    | some bid, some ask => decide (bid < ask)
    | _, _ => false

/-- Apply the change of one level. -/
def changeLevel (book : TokenBook) (side : String) (price size : ℚ) : TokenBook :=
  if side = "BUY" then { book with bids := setLevel book.bids price size }
  else if side = "SELL" then { book with asks := setLevel book.asks price size }
  else { book with validationError := some (.unsupportedPriceChangeSide side) }

end TokenBook

/-! ### Readiness -/

namespace TokenBookReadiness

/-- Count a validation error by its reason and by the kind of message. -/
def incrementError (r : TokenBookReadiness) (reason : String)
    (updateType : UpdateType) : TokenBookReadiness :=
  { r with
    validationErrorCountByReason := r.validationErrorCountByReason.increment reason
    validationErrorCountByUpdateType :=
      r.validationErrorCountByUpdateType.increment updateType }

/-- The number of reported best prices that disagreed. -/
def mismatchCount (r : TokenBookReadiness) : ℕ :=
  ((r.validationErrorCountByReason.entries.filter fun e =>
    startsWith e.1 "reported_best_").map Prod.snd).sum

end TokenBookReadiness

/-- The rates of disagreement and of completeness over some statistics. -/
def qualityRates (stats : List TokenBookReadiness) : Option ℚ × Option ℚ :=
  let complete := (stats.map TokenBookReadiness.bookCompleteTrueCount).sum
  let total := complete + (stats.map TokenBookReadiness.bookCompleteFalseCount).sum
  if total = 0 then (none, none)
  else
    (some ((stats.map TokenBookReadiness.mismatchCount).sum / total), some (complete / total))

/-- Count a quote in the statistics of its token. -/
def TokenBookReadiness.recordQuote (r : TokenBookReadiness) (quote : PolymarketQuote)
    (receivedTs : ℤ) (updateType : UpdateType) (beforeSnapshot : Bool) :
    TokenBookReadiness :=
  let r := { r with
    firstWsMessageTsNs := some (r.firstWsMessageTsNs.getD receivedTs) }
  let r :=
    match updateType with
    | .book =>
        { r with
          snapshotCount := r.snapshotCount + 1
          firstBookSnapshotTsNs := some (r.firstBookSnapshotTsNs.getD receivedTs) }
    | .priceChange =>
        let r := { r with deltaCount := r.deltaCount + 1 }
        if beforeSnapshot then
          { r with
            priceChangeBeforeSnapshotCount := r.priceChangeBeforeSnapshotCount + 1
          }.incrementError
            ValidationError.priceChangeBeforeSnapshot.text updateType
        else r
    | .bestBidAsk =>
        if beforeSnapshot then
          { r with
            bestBidAskBeforeSnapshotCount := r.bestBidAskBeforeSnapshotCount + 1
          }.incrementError
            ValidationError.bestBidAskBeforeSnapshot.text updateType
        else r
  let r :=
    if quote.bookComplete then
      { r with
        bookCompleteTrueCount := r.bookCompleteTrueCount + 1
        firstCompleteQuoteTsNs := some (r.firstCompleteQuoteTsNs.getD receivedTs) }
    else { r with bookCompleteFalseCount := r.bookCompleteFalseCount + 1 }
  let r := if quote.bookStale then { r with quoteStaleCount := r.quoteStaleCount + 1 } else r
  let r :=
    if quote.bestBid.isSome ∧ quote.bestBidSize = none then
      r.incrementError (ValidationError.bestSizeUnknown .bid).text updateType
    else r
  let r :=
    if quote.bestAsk.isSome ∧ quote.bestAskSize = none then
      r.incrementError (ValidationError.bestSizeUnknown .ask).text updateType
    else r
  match quote.validationError with
  | some error => { r with lastValidationError := some error }.incrementError error updateType
  | none => r

/-! ### The order book -/

namespace PolymarketLocalOrderBook

/-- The book of a token, a fresh one when there is none yet. -/
def bookFor (s : PolymarketLocalOrderBook) (tokenId : String) (payload : Json) : TokenBook :=
  (s.books.get? tokenId).getD <|
    .init tokenId <| (s.tokenMetadata.get? tokenId).getD
      { conditionId := none
        marketId := ((payload.get "market").orElse (.str "")).text
        sideLabel := .unknown
        tickSize := 1 / 100 }

/-- Store the book of a token. -/
def setBook (s : PolymarketLocalOrderBook) (book : TokenBook) : PolymarketLocalOrderBook :=
  { s with books := s.books.set book.tokenId book }

/-- Whether the market of a book is marked invalid. -/
def isMarketInvalid (s : PolymarketLocalOrderBook) (book : TokenBook) : Bool :=
  (s.marketInvalid.get? book.metadata.marketId).isSome

/-- Whether the last message of a book is too old. -/
def isStale (s : PolymarketLocalOrderBook) (book : TokenBook) (now : ℤ) : Bool :=
  match book.lastReceivedTs with
  | none => true
  | some t => (now - t : ℚ) / 1000000 > s.staleAfterMs

/-- Whether a reported price is close enough to the local one. -/
def withinBestTolerance (s : PolymarketLocalOrderBook) (localPrice reported tickSize : ℚ) :
    Bool :=
  |localPrice - reported| ≤
    max 0 (s.bestValidationToleranceTicks * tickSize) + 1 / 1000000000000

/-- The quote of a book. -/
def quote (s : PolymarketLocalOrderBook) (book : TokenBook) (t : MessageTimes)
    (updateType : UpdateType) : PolymarketQuote :=
  let (localBid, localBidSize) := book.localBest .bid
  let (localAsk, localAskSize) := book.localBest .ask
  let bestBid := book.bestBidOverride.orElse fun _ => localBid
  let bestAsk := book.bestAskOverride.orElse fun _ => localAsk
  let tokenRates := qualityRates (s.readiness.get? book.tokenId).toList
  let marketRates := qualityRates
    (s.readiness.values.filter fun r => r.marketId = book.metadata.marketId)
  { tsNs := t.tsNs
    exchangeEventTs := t.eventTs
    localReceivedTs := some t.receivedTs
    parseDoneTs := some t.parseDoneTs
    stateUpdatedTs := none
    recvMonotonicNs := some t.recvMonotonicNs
    parseDoneMonotonicNs := some t.parseDoneMonotonicNs
    stateUpdatedMonotonicNs := none
    latencyMs := some ((t.parseDoneMonotonicNs - t.recvMonotonicNs : ℚ) / 1000000)
    sequence := some book.updateCount
    marketId := book.metadata.marketId
    conditionId := book.metadata.conditionId
    tokenId := book.tokenId
    sideLabel := book.metadata.sideLabel
    bestBid := bestBid
    bestBidSize := if book.bestBidOverride.isSome then none else localBidSize
    bestAsk := bestAsk
    bestAskSize := if book.bestAskOverride.isSome then none else localAskSize
    midPrice := do return ((← bestBid) + (← bestAsk)) / 2
    spread := do return max 0 ((← bestAsk) - (← bestBid))
    eventTs := t.eventTs
    receivedTs := some t.receivedTs
    bookComplete := !(book.incomplete || book.invalid || !book.structurallyComplete)
    bookStale := s.isStale book t.receivedTs
    bookHash := book.lastHash
    validationError :=
      (book.validationError.orElse fun _ => book.structuralValidationError).map
        ValidationError.text
    bookUpdateType := some updateType
    bookHasSnapshot := book.hasSnapshot
    bookStructurallyComplete := book.structurallyComplete
    reportedBestValidationOk := book.reportedBestValidationOk
    validationMode := some s.bestValidationMode
    validationToleranceTicks := some s.bestValidationToleranceTicks
    marketMismatchRate := marketRates.1
    tokenMismatchRate := tokenRates.1
    marketQuoteCompleteRate := marketRates.2
    tokenQuoteCompleteRate := tokenRates.2 }

/-- The statistics of a token, fresh ones when there are none yet. -/
def readinessFor (s : PolymarketLocalOrderBook) (book : TokenBook) : TokenBookReadiness :=
  (s.readiness.get? book.tokenId).getD (.init book.tokenId book.metadata.marketId)

/-- The end of every message: note its times, store the book, quote it, and count the
quote. -/
def finishMessage (s : PolymarketLocalOrderBook) (book : TokenBook) (t : MessageTimes)
    (updateType : UpdateType) (beforeSnapshot : Bool) :
    PolymarketLocalOrderBook × Except MessageError PolymarketQuote :=
  let book := book.touch t
  let s := s.setBook book
  let quote := s.quote book t updateType
  let r := (s.readinessFor book).recordQuote quote t.receivedTs updateType beforeSnapshot
  ({ s with readiness := s.readiness.set book.tokenId r }, .ok quote)

/-! ### Reported best prices -/

/-- Count a validation error that is to be sampled, and make the conversions of the
sample. -/
def sampleValidationError (s : PolymarketLocalOrderBook) (book : TokenBook) (payload : Json)
    (receivedTs : ℤ) : PolymarketLocalOrderBook × Except MessageError Unit :=
  if s.mismatchSamplePath = none ∨ s.mismatchSamplePerTokenPerMin ≤ 0 then (s, .ok ())
  else
    let key := (book.tokenId, receivedTs / 60000000000)
    if (s.sampleCounts.get? key).getD 0 ≥ s.mismatchSamplePerTokenPerMin then (s, .ok ())
    else
      ({ s with sampleCounts := s.sampleCounts.increment key },
        ["best_bid", "best_ask", "best_bid_size", "best_ask_size"].forM fun field =>
          (optionalFloat (payload.get field)).map fun _ => ())

/-- Count a reported best price that disagrees with the ladder. -/
def countMismatch (s : PolymarketLocalOrderBook) (book : TokenBook) (localPrice reported : ℚ)
    (updateType : UpdateType) : PolymarketLocalOrderBook :=
  { s with
    mismatchTickDiffs :=
      if book.metadata.tickSize > 0 then
        s.mismatchTickDiffs ++ [|localPrice - reported| / book.metadata.tickSize]
      else s.mismatchTickDiffs
    mismatchByUpdateType := s.mismatchByUpdateType.increment updateType }

/-- Hold one reported best price against the ladder. -/
def applyOneReportedBest (s : PolymarketLocalOrderBook) (book : TokenBook) (side : BookSide)
    (reported : ℚ) (updateType : UpdateType) : PolymarketLocalOrderBook × TokenBook :=
  match (book.localBest side).1 with
  | none =>
      (s,
        { book.setOverride side (some reported) with
          validationError :=
            some (if book.hasSnapshot then .bestSizeUnknown side else .missingSnapshot)
          reportedBestValidationOk := false
          incomplete := true })
  | some localPrice =>
      if pricesEqual localPrice reported then (s, book.setOverride side none)
      else
        let s := s.countMismatch book localPrice reported updateType
        let book := { book with validationError := some (.reportedBestMismatch side) }
        if s.bestValidationMode = .diagnostic then
          (s, { book with reportedBestValidationOk := false })
        else if s.bestValidationMode = .tolerant ∧
            s.withinBestTolerance localPrice reported book.metadata.tickSize then
          (s, { book with reportedBestValidationOk := true })
        else
          (s,
            { book.setOverride side (some reported) with
              reportedBestValidationOk := false
              incomplete := true })

/-- Hold the price a message reports for a side, if any, against the ladder. -/
def applyReportedSide (s : PolymarketLocalOrderBook) (book : TokenBook) (side : BookSide)
    (reported : Option ℚ) (updateType : UpdateType) : PolymarketLocalOrderBook × TokenBook :=
  match reported with
  | some price => s.applyOneReportedBest book side price updateType
  | none => (s, book)

/-- Hold the reported best prices against the ladder. -/
def applyReportedBest (s : PolymarketLocalOrderBook) (book : TokenBook)
    (reportedBid reportedAsk : Option ℚ) (payload : Json) (receivedTs : ℤ)
    (updateType : UpdateType) :
    PolymarketLocalOrderBook × TokenBook × Except MessageError Unit :=
  if book.hasSnapshot = false then
    let book := { book with
      validationError := some .missingSnapshot
      reportedBestValidationOk := false
      incomplete := true
      bestBidOverride := if updateType = .bestBidAsk then reportedBid else book.bestBidOverride
      bestAskOverride := if updateType = .bestBidAsk then reportedAsk else book.bestAskOverride }
    let (s, sampled) := s.sampleValidationError book payload receivedTs
    (s, book, sampled)
  else
    let (s, book) := s.applyReportedSide book .bid reportedBid updateType
    let (s, book) := s.applyReportedSide book .ask reportedAsk updateType
    if book.validationError.any ValidationError.isSampled then
      let (s, sampled) := s.sampleValidationError book payload receivedTs
      (s, book, sampled)
    else (s, book, .ok ())

/-! ### Messages -/

/-- The book after a full ladder was loaded. -/
def loadBook (s : PolymarketLocalOrderBook) (book : TokenBook) (bids asks : Dict ℚ ℚ) :
    TokenBook :=
  { book with
    bids := bids
    asks := asks
    hasSnapshot := true
    incomplete := false
    invalid := s.isMarketInvalid book
    bestBidOverride := none
    bestAskOverride := none
    validationError := none
    reportedBestValidationOk := true }

/-- Apply a full book. -/
def applyBook (s : PolymarketLocalOrderBook) (payload : Json) (t : MessageTimes) :
    PolymarketLocalOrderBook × Except MessageError PolymarketQuote :=
  match requiredField payload "asset_id" with
  | .error e => (s, .error e)
  | .ok assetId =>
      let book := s.bookFor assetId.text payload
      match levelsToDict ((payload.get? "bids").getD (.arr [])) with
      | .error e => (s.setBook book, .error e)
      | .ok bids =>
          match levelsToDict ((payload.get? "asks").getD (.arr [])) with
          | .error e => (s.setBook { book with bids := bids }, .error e)
          | .ok asks => s.finishMessage (s.loadBook book bids asks) t .book false

/-- The book after a changed level, before the reported best prices are looked at. -/
def changeBook (s : PolymarketLocalOrderBook) (book : TokenBook) (side : String)
    (price size : ℚ) : TokenBook :=
  let book := book.changeLevel side price size
  let book := { book with
    reportedBestValidationOk := true
    incomplete := if book.hasSnapshot then book.incomplete else true
    validationError :=
      if book.hasSnapshot = false ∧ book.validationError = none then some .missingSnapshot
      else book.validationError
    invalid := s.isMarketInvalid book }
  book.clearResolvedOverrides

/-- Price and size of a changed level. -/
def changedLevel (row : Json) : Except MessageError (ℚ × ℚ) := do
  let price ← floatFrom (← requiredField row "price")
  let size ← floatFrom ((row.get? "size").getD (.float 0))
  return (price, size)

/-- The best prices a message reports. -/
def reportedBests (payload : Json) : Except MessageError (Option ℚ × Option ℚ) := do
  let bid ← optionalFloat (payload.get "best_bid")
  let ask ← optionalFloat (payload.get "best_ask")
  return (bid, ask)

/-- Apply the change of one level. -/
def applyPriceChange (s : PolymarketLocalOrderBook) (row parent : Json) (t : MessageTimes) :
    PolymarketLocalOrderBook × Except MessageError PolymarketQuote :=
  let tokenId := ((row.get "asset_id").orElse (parent.get "asset_id")).text
  let book := s.bookFor tokenId parent
  let side := upper ((row.get? "side").getD (.str "")).text
  match changedLevel row with
  | .error e => (s.setBook book, .error e)
  | .ok (price, size) =>
      let changed := s.changeBook book side price size
      match reportedBests row with
      | .error e => (s.setBook changed, .error e)
      | .ok (bid, ask) =>
          let (s, validated, sampled) :=
            s.applyReportedBest changed bid ask row t.receivedTs .priceChange
          match sampled with
          | .error e => (s.setBook validated, .error e)
          | .ok () => s.finishMessage validated t .priceChange (!book.hasSnapshot)

/-- The book before the reported best prices of a best-prices message are looked at. -/
def clearFlags (book : TokenBook) : TokenBook :=
  { book with
    incomplete := !book.hasSnapshot
    validationError := if book.hasSnapshot then none else some .missingSnapshot
    reportedBestValidationOk := true }

/-- The token of a best-prices message. -/
def bestBidAskToken (payload : Json) : String :=
  (((payload.get "asset_id").orElse (payload.get "token_id")).orElse (.str "")).text

/-- Apply a report of the best prices. -/
def applyBestBidAsk (s : PolymarketLocalOrderBook) (payload : Json) (t : MessageTimes) :
    PolymarketLocalOrderBook × Except MessageError PolymarketQuote :=
  let book := s.bookFor (bestBidAskToken payload) payload
  match reportedBests payload with
  | .error e => (s.setBook book, .error e)
  | .ok (bid, ask) =>
      let (s, validated, sampled) :=
        s.applyReportedBest (clearFlags book) bid ask payload t.receivedTs .bestBidAsk
      match sampled with
      | .error e => (s.setBook validated, .error e)
      | .ok () =>
          let validated := { validated with
            incomplete := if validated.hasSnapshot then validated.incomplete else true
            invalid := s.isMarketInvalid validated }
          s.finishMessage validated t .bestBidAsk (!book.hasSnapshot)

/-! ### The other calls -/

/-- Mark a market invalid, and the books of its tokens with it. -/
def markMarketInvalid (s : PolymarketLocalOrderBook) (marketId : String) :
    PolymarketLocalOrderBook :=
  { s with
    marketInvalid := s.marketInvalid.set marketId ()
    books := s.books.mapValues fun book =>
      if book.metadata.marketId = marketId then
        { book with
          invalid := true
          incomplete := true
          validationError := some .marketInvalidated }
      else book }

/-- Replace the metadata of the book of a token, if it has one. -/
def setBookMetadata (s : PolymarketLocalOrderBook) (tokenId : String)
    (metadata : TokenBookMetadata) : PolymarketLocalOrderBook :=
  match s.books.get? tokenId with
  | some book => { s with books := s.books.set tokenId { book with metadata := metadata } }
  | none => s

/-- Change the tick size of one token, if its metadata is known. -/
def updateTokenTickSize (tickSize : ℚ) (s : PolymarketLocalOrderBook) (tokenId : String) :
    PolymarketLocalOrderBook :=
  match s.tokenMetadata.get? tokenId with
  | none => s
  | some metadata =>
      let updated := { metadata with tickSize := tickSize }
      { s with tokenMetadata := s.tokenMetadata.set tokenId updated }.setBookMetadata tokenId
        updated

/-- Change the tick size of a token, or of all tokens of a market. -/
def updateTickSize (s : PolymarketLocalOrderBook) (marketId : String)
    (tokenId : Option String) (tickSize : ℚ) : PolymarketLocalOrderBook :=
  if tickSize ≤ 0 then s
  else
    let tokens :=
      match tokenId with
      | some token => [token]
      | none =>
          s.tokenMetadata.keys.filter fun token =>
            ((s.tokenMetadata.get? token).map TokenBookMetadata.marketId) = some marketId
    tokens.foldl (updateTokenTickSize tickSize) s

/-- What the change of every token's tick size keeps, a change of the tick size keeps. -/
theorem updateTickSize_rule {P : PolymarketLocalOrderBook → Prop} {s : PolymarketLocalOrderBook}
    (hs : P s) (marketId : String) (tokenId : Option String) {tickSize : ℚ}
    (hstep : ∀ s' token, P s' → P (updateTokenTickSize tickSize s' token)) :
    P (s.updateTickSize marketId tokenId tickSize) := by
  simp only [updateTickSize]
  split
  · exact hs
  · exact List.foldlRecOn _ _ hs fun s' hs' token _ => hstep s' token hs'

/-- Take over the metadata of one token. -/
def adoptMetadata (s : PolymarketLocalOrderBook) (e : String × TokenBookMetadata) :
    PolymarketLocalOrderBook :=
  { s with
    readiness := s.readiness.setDefault e.1 (.init e.1 e.2.marketId)
  }.setBookMetadata e.1 e.2

/-- Take over new metadata of the active tokens. -/
def updateTokenMetadata (s : PolymarketLocalOrderBook)
    (tokenMetadata : Dict String TokenBookMetadata) (activeTokenIds : List String) :
    PolymarketLocalOrderBook :=
  let kept := tokenMetadata.filterKeys fun token => token ∈ activeTokenIds
  kept.entries.foldl adoptMetadata { s with tokenMetadata := kept }

/-- What taking over the metadata of any token keeps, taking over all of it keeps. -/
theorem updateTokenMetadata_rule {P : PolymarketLocalOrderBook → Prop}
    {s : PolymarketLocalOrderBook} {metadata : Dict String TokenBookMetadata}
    {active : List String}
    (hs : P { s with tokenMetadata := metadata.filterKeys fun token => token ∈ active })
    (hadopt : ∀ s' e, P s' → P (adoptMetadata s' e)) :
    P (s.updateTokenMetadata metadata active) :=
  List.foldlRecOn _ _ hs fun s' hs' e _ => hadopt s' e hs'

/-- Count a reconnect for every token. -/
def recordReconnect (s : PolymarketLocalOrderBook) : PolymarketLocalOrderBook :=
  { s with
    readiness := s.readiness.mapValues fun r =>
      { r with reconnectCount := r.reconnectCount + 1 } }

/-- Give every token with a book its statistics, and list them by token. -/
def tokenReadinessSnapshot (s : PolymarketLocalOrderBook) :
    PolymarketLocalOrderBook × List TokenBookReadiness :=
  let readiness := s.books.entries.foldl
    (fun d e => d.setDefault e.1 (.init e.1 e.2.metadata.marketId)) s.readiness
  ({ s with readiness := readiness },
    (readiness.entries.insertionSort fun a b => a.1 ≤ b.1).map Prod.snd)

end PolymarketLocalOrderBook

/-! ### Calls -/

/-- A call of the order book. -/
inductive PolymarketCall
  | applyBook (payload : Json) (t : MessageTimes)
  | applyPriceChange (row parent : Json) (t : MessageTimes)
  | applyBestBidAsk (payload : Json) (t : MessageTimes)
  | markMarketInvalid (marketId : String)
  | updateTickSize (marketId : String) (tokenId : Option String) (tickSize : ℚ)
  | updateTokenMetadata (tokenMetadata : Dict String TokenBookMetadata)
      (activeTokenIds : List String)
  | recordReconnect
  | tokenReadinessSnapshot

/-- The reply of a call. -/
inductive PolymarketReply
  | quote (quote : PolymarketQuote)
  | raised (error : MessageError)
  | readiness (stats : List TokenBookReadiness)
  | done

/-- The reply of a message. -/
def PolymarketReply.ofExcept : Except MessageError PolymarketQuote → PolymarketReply
  | .ok q => .quote q
  | .error e => .raised e

/-- The order book as a machine. -/
def polymarketMachine : Machine PolymarketLocalOrderBook PolymarketCall PolymarketReply where
  step s
    | .applyBook payload t => (s.applyBook payload t).map id .ofExcept
    | .applyPriceChange row parent t => (s.applyPriceChange row parent t).map id .ofExcept
    | .applyBestBidAsk payload t => (s.applyBestBidAsk payload t).map id .ofExcept
    | .markMarketInvalid marketId => (s.markMarketInvalid marketId, .done)
    | .updateTickSize marketId tokenId tickSize =>
        (s.updateTickSize marketId tokenId tickSize, .done)
    | .updateTokenMetadata tokenMetadata activeTokenIds =>
        (s.updateTokenMetadata tokenMetadata activeTokenIds, .done)
    | .recordReconnect => (s.recordReconnect, .done)
    | .tokenReadinessSnapshot => s.tokenReadinessSnapshot.map id .readiness

end SomethingTrade
