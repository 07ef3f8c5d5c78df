import SomethingTrade.Batch
import SomethingTrade.MarketWindows
import SomethingTrade.PolymarketLadders

/-!
# The Polymarket Client

The client of the market channel: it decodes raw messages into payloads, applies them to the
local order books and gives the events they make. It also keeps the markets it is subscribed
to, and the metadata of their tokens.

## Representation

* A raw message enters as what the JSON decoder makes of it, nothing when it raises.
* The events of one message share one reading of the clock for their own time.
* The events carry what the detector reads (`toMarketEvent`), and the fields of the feed
  next to it.

## Main results

* `normalizeMessage_payload`: a message of one payload.
-/

namespace SomethingTrade

open PolymarketLocalOrderBook

/-! ### Events -/

/-- A trade of a token. -/
structure PolymarketTick extends MarketTick where
  size : ℚ

/-- A change in the life of a market, as the feed reports it. -/
structure PolymarketLifecycle extends MarketLifecycleEvent where
  tokenId : Option String
  oldTickSize : Option ℚ
  rawMetadata : Json
  eventTs : Option ℤ

/-- An event of the client. -/
inductive PolymarketStreamEvent
  | quote (quote : PolymarketQuote)
  | tick (tick : PolymarketTick)
  | lifecycle (event : PolymarketLifecycle)

/-- The event as the detector takes it. -/
def PolymarketStreamEvent.toMarketEvent : PolymarketStreamEvent → MarketEvent
  | .quote q => .polymarketQuote q
  | .tick trade => .marketTick trade.toMarketTick
  | .lifecycle event => .marketLifecycle event.toMarketLifecycleEvent

/-- An exception of the client. -/
inductive ClientError
  /-- The JSON decoder raises. -/
  | decode
  /-- The document is neither an object nor a list. -/
  | notObjectOrList
  /-- A timestamp is no integer. -/
  | timestamp (raw : String)
  /-- A field is missing or no number. -/
  | message (error : MessageError)
  /-- The event type is not supported; the payload as printed. -/
  | unsupported (payload : String)
  deriving DecidableEq

/-! ### Reading payloads -/

/-- The payloads of a decoded message: an object, or the objects of a list. -/
def decodePayloads : Option Json → Except ClientError (List Json)
  | none => .error .decode
  | some (.arr items) => .ok (items.filter Json.isObject)
  | some (.obj fields) => .ok [.obj fields]
  | some _ => .error .notObjectOrList

/-- A timestamp in nanoseconds: seconds, milliseconds and microseconds are told apart by the
number of digits. -/
def timestampToNs (value : Json) : Except ClientError (Option ℤ) :=
  if value.isNull then .ok none
  else if value.text.isEmpty then .ok none
  else
    match Decimal.intOfText value.text with
    | none => .error (.timestamp value.text)
    | some timestamp =>
        let digits := (value.text.toList.dropWhile (· = '-')).length
        if digits ≤ 10 then .ok (some (timestamp * 1000000000))
        else if digits ≤ 13 then .ok (some (timestamp * 1000000))
        else if digits ≤ 16 then .ok (some (timestamp * 1000))
        else .ok (some timestamp)

/-- The kinds of payloads. -/
inductive PayloadKind
  | book | priceChange | bestBidAsk | trade
  | lifecycle (lifecycleType : MarketLifecycleType)
  | unsupported
  deriving DecidableEq

/-- The type of a payload. -/
def eventType (payload : Json) : String := ((payload.get? "event_type").getD (.str "")).text

/-- The kind an event type names. -/
def payloadKind (payload : Json) : PayloadKind :=
  if eventType payload = "book" then .book
  else if eventType payload = "price_change" then .priceChange
  else if eventType payload = "best_bid_ask" then .bestBidAsk
  else if eventType payload ∈ ["last_trade_price", "trade"] then .trade
  else if eventType payload = "tick_size_change" then .lifecycle .tickSizeChange
  else if eventType payload = "new_market" then .lifecycle .newMarket
  else if eventType payload = "market_resolved" then .lifecycle .marketResolved
  else if eventType payload = "closed" then .lifecycle .closed
  else if eventType payload = "expired" then .lifecycle .expired
  else .unsupported

/-- The clock readings of a message: when it was received, if that is known, and the readings
taken while it is worked on. -/
structure MessageReadings where
  receivedTs : Option ℤ
  recvMonotonicNs : Option ℤ
  utcNow : ℤ
  monotonicNow : ℤ
  parseDoneTs : ℤ
  parseDoneMonotonicNs : ℤ
  tsNs : ℤ

/-- The times of a payload. -/
def MessageReadings.times (r : MessageReadings) (eventTs : Option ℤ) (sequence : Json) :
    MessageTimes where
  tsNs := r.tsNs
  receivedTs := orNumber r.receivedTs r.utcNow
  parseDoneTs := r.parseDoneTs
  recvMonotonicNs := orNumber r.recvMonotonicNs r.monotonicNow
  parseDoneMonotonicNs := r.parseDoneMonotonicNs
  eventTs := eventTs
  sequence := sequence

/-- The times of an event of the feed. -/
def MessageTimes.event (t : MessageTimes) : RealtimeMarketEvent where
  tsNs := t.tsNs
  exchangeEventTs := t.eventTs
  localReceivedTs := some t.receivedTs
  parseDoneTs := some t.parseDoneTs
  stateUpdatedTs := none
  recvMonotonicNs := some t.recvMonotonicNs
  parseDoneMonotonicNs := some t.parseDoneMonotonicNs
  stateUpdatedMonotonicNs := none
  latencyMs := some ((t.parseDoneMonotonicNs - t.recvMonotonicNs : ℚ) / 1000000)
  sequence := none

/-- The trade of a payload. -/
def tickFromTrade (payload : Json) (t : MessageTimes) : Except MessageError PolymarketTick := do
  let price ← floatFrom (← requiredField payload "price")
  let size ← floatFrom ((payload.get? "size").getD (.float 0))
  return { t.event with
    source := .polymarket
    symbol := ((payload.get "asset_id").orElse (payload.get "token_id")).text
    price := price
    size := size }

/-- The token a lifecycle payload names. -/
def lifecycleToken (payload : Json) : Option String :=
  if (payload.get "asset_id").isNull && (payload.get "token_id").isNull then none
  else some ((payload.get "asset_id").orElse (payload.get "token_id")).text

/-- The lifecycle event of a payload. -/
def lifecycleEvent (payload : Json) (lifecycleType : MarketLifecycleType) (t : MessageTimes) :
    Except MessageError PolymarketLifecycle := do
  let oldTickSize ← optionalFloat (payload.get "old_tick_size")
  let newTickSize ← optionalFloat
    ((payload.get "new_tick_size").orElse (payload.get "tick_size"))
  return { t.event with
    marketId := (((payload.get "market").orElse (payload.get "market_id")).orElse (.str "")).text
    lifecycleType := lifecycleType
    newTickSize := newTickSize
    receivedTs := some t.receivedTs
    tokenId := lifecycleToken payload
    oldTickSize := oldTickSize
    rawMetadata := payload
    eventTs := t.eventTs }

/-! ### Applying payloads -/

namespace PolymarketLocalOrderBook

/-- What a lifecycle event does to the order books. -/
def applyLifecycle (s : PolymarketLocalOrderBook) (event : PolymarketLifecycle) :
    PolymarketLocalOrderBook :=
  match event.lifecycleType, orValue event.newTickSize none with
  | .tickSizeChange, some tickSize => s.updateTickSize event.marketId event.tokenId tickSize
  | .tickSizeChange, none => s
  | .newMarket, _ => s
  | .marketResolved, _ | .closed, _ | .expired, _ => s.markMarketInvalid event.marketId

/-- Apply a payload. -/
def applyPayload (r : MessageReadings) (s : PolymarketLocalOrderBook) (payload : Json) :
    PolymarketLocalOrderBook × Except ClientError (List PolymarketStreamEvent) :=
  match timestampToNs (payload.get "timestamp") with
  | .error e => (s, .error e)
  | .ok eventTs =>
      let t := r.times eventTs (payload.get "hash")
      match payloadKind payload with
      | .book =>
          let (s, result) := s.applyBook payload t
          (s, (result.map fun quote => [.quote quote]).mapError .message)
      | .priceChange =>
          let (s, result) := quotesFromPriceChange s payload t
          (s, (result.map fun quotes => quotes.map .quote).mapError .message)
      | .bestBidAsk =>
          let (s, result) := s.applyBestBidAsk payload t
          (s, (result.map fun quote => [.quote quote]).mapError .message)
      | .trade => (s, ((tickFromTrade payload t).map fun tick => [.tick tick]).mapError .message)
      | .lifecycle lifecycleType =>
          match lifecycleEvent payload lifecycleType t with
          | .error e => (s, .error (.message e))
          | .ok event => (s.applyLifecycle event, .ok [.lifecycle event])
      | .unsupported => (s, .error (.unsupported payload.repr))

/-- Normalize a raw message: apply its payloads one after the other. -/
def normalizeMessage (r : MessageReadings) (s : PolymarketLocalOrderBook)
    (decoded : Option Json) :
    PolymarketLocalOrderBook × Except ClientError (List PolymarketStreamEvent) :=
  match decodePayloads decoded with
  | .error e => (s, .error e)
  | .ok payloads => Batch.run (applyPayload r) s payloads

/-- **A message of one payload** is its payload. -/
theorem normalizeMessage_payload (r : MessageReadings) (s : PolymarketLocalOrderBook)
    {payload : Json} (h : payload.isObject = true) :
    s.normalizeMessage r (some payload) = s.applyPayload r payload := by
  cases payload with
  | obj fields => exact Batch.run_singleton s (Json.obj fields)
  | _ => cases h

end PolymarketLocalOrderBook

end SomethingTrade
