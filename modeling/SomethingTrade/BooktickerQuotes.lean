import Mathlib.Data.List.Dedup
import SomethingTrade.JsonLines
import SomethingTrade.LabeledQuality
import SomethingTrade.ReferenceEvents

/-!
# bookTicker Quotes

The first validator of a file of bookTicker quotes. A quote is valid when it has all its fields,
its prices and sizes are numbers in order, and its own quality object says so. Each row that has
errors, of its fields or listed by its quality, is reported; the valid ones are collected and
their gaps and update ids summarized.

## Representation

* What Python makes of iterating over a value is its list of texts; iterating over a number
  raises. Update ids are counted in a set, so they have to be hashable.
* A reason that is one text is a list of one.
-/

namespace SomethingTrade

/-! ### Adjacent times -/

/-- Nanoseconds as milliseconds. -/
def nsToMs (ns : ℤ) : ℚ := ns / 1000000

/-- The gaps between adjacent times in milliseconds. -/
def adjacentGapsMs (timestamps : List ℤ) : List ℚ :=
  (timestamps.zip timestamps.tail).map fun e => nsToMs (e.2 - e.1)

/-- The time from the first to the last of at least two times. -/
def durationNs (timestamps : List ℤ) : ℤ :=
  match timestamps with
  | first :: second :: rest => (second :: rest).getLast (List.cons_ne_nil _ _) - first
  | _ => 0

/-- The receive times of rows that have one as an integer. -/
def receiveTimes (rows : List Json) : List ℤ :=
  rows.filterMap fun row => (row.get "local_recv_monotonic_ns").asInt?

/-! ### The fields of a quote -/

/-- The fields that every quote has. -/
def requiredReferenceFields : List String :=
  ["best_ask", "best_ask_qty", "best_bid", "best_bid_qty", "exchange_event_ts",
    "local_recv_monotonic_ns", "local_recv_wall_ts", "mid_price", "quality", "schema_version",
    "source", "spread", "spread_bps", "symbol", "update_id"]

/-- The fields of a quote that are numbers. -/
def numericReferenceFields : List String :=
  ["best_bid", "best_ask", "best_bid_qty", "best_ask_qty", "mid_price", "spread", "spread_bps"]

/-- The errors of best prices that are numbers but do not leave a spread. -/
def crossedQuoteErrors (row : Json) : List String :=
  match (row.get "best_bid").asNumber?, (row.get "best_ask").asNumber? with
  | some bid, some ask => if bid ≥ ask then ["CROSSED_QUOTE"] else []
  | _, _ => []

/-- The errors of the fields of a quote, sorted and without repetition. -/
def referenceSchemaErrors (row : Json) : List String :=
  sortedSet <|
    (requiredReferenceFields.flatMap fun field =>
      if (row.get? field).isNone || ((row.get field).isNull && field ≠ "exchange_event_ts") then
        ["MISSING_" ++ upper field]
      else []) ++
    (numericReferenceFields.flatMap fun field =>
      if (row.get field).asNumber?.isNone then ["INVALID_" ++ upper field] else []) ++
    crossedQuoteErrors row ++
    (if (row.get "local_recv_monotonic_ns").asInt?.isNone then
      ["MISSING_LOCAL_RECV_MONOTONIC_NS"] else []) ++
    (if (row.get "local_recv_wall_ts").truthy then [] else ["MISSING_LOCAL_RECV_WALL_TS"]) ++
    (if (row.get "update_id").isNull then ["MISSING_UPDATE_ID"] else [])

/-- What iterating over a value gives, as texts. -/
def iteratedTexts : Json → Except String (List String)
  | .arr items => .ok (items.map Json.text)
  | .str s => .ok (s.toList.map Char.toString)
  | .obj fields => .ok (fields.map Prod.fst)
  | _ => .error "TypeError"

/-- The reasons that the quality object of a row lists. -/
def listedReasons (row : Json) : Except String (List String) :=
  iteratedTexts ((row.get "quality").asDict.getD "errors" (.arr []))

/-- Whether the quality object of a row says that it is valid. -/
def saysValid (row : Json) : Bool := ((row.get "quality").asDict.get "valid").isTrue

/-- Whether a quote counts as valid. -/
def isValidQuote (row : Json) : Bool := (referenceSchemaErrors row).isEmpty && saysValid row

/-! ### The quality of a feed -/

/-- A value as an element of a set; equal numbers are equal. -/
def hashKey : Json → Except String (ℚ ⊕ String)
  | .bool b => .ok (.inl (if b then 1 else 0))
  | .int n => .ok (.inl n)
  | .float q => .ok (.inl q)
  | .str s => .ok (.inr s)
  | _ => .error "TypeError"

/-- What is reported of the quotes of a feed. -/
structure ReferenceFeedQuality where
  referenceQuoteCount : ℕ
  validReferenceQuoteCount : ℕ
  invalidReferenceQuoteCount : ℕ
  referenceSampleRatePerSec : ℚ
  referenceGapP50Ms : Option ℚ
  referenceGapP90Ms : Option ℚ
  referenceGapP95Ms : Option ℚ
  referenceGapP99Ms : Option ℚ
  referenceGapMaxMs : Option ℚ
  duplicateUpdateIdCount : ℕ
  nonMonotonicReferenceTimestampCount : ℕ
  invalidQuoteReasonCounts : List (String × ℕ)

/-- Summarize the quotes of a feed. -/
def analyzeReferenceFeedQuality (referenceQuotes : List Json) :
    Except String ReferenceFeedQuality := do
  let timestamps := receiveTimes referenceQuotes
  let gaps := adjacentGapsMs timestamps
  let nonNegativeGaps := gaps.filter fun gap => gap ≥ 0
  let updateIds ← ((referenceQuotes.map fun row => row.get "update_id").filter fun id =>
    !id.isNull).mapM hashKey
  let reasons ← referenceQuotes.mapM listedReasons
  let durationSec : ℚ := durationNs timestamps / 1000000000
  return {
    referenceQuoteCount := referenceQuotes.length
    validReferenceQuoteCount := referenceQuotes.countP saysValid
    invalidReferenceQuoteCount := referenceQuotes.countP fun row => !saysValid row
    referenceSampleRatePerSec :=
      if durationSec > 0 then referenceQuotes.length / durationSec else 0
    referenceGapP50Ms := percentile nonNegativeGaps (1 / 2)
    referenceGapP90Ms := percentile nonNegativeGaps (9 / 10)
    referenceGapP95Ms := percentile nonNegativeGaps (19 / 20)
    referenceGapP99Ms := percentile nonNegativeGaps (99 / 100)
    referenceGapMaxMs := nonNegativeGaps.max?
    duplicateUpdateIdCount := updateIds.length - updateIds.dedup.length
    nonMonotonicReferenceTimestampCount := gaps.countP fun gap => gap < 0
    invalidQuoteReasonCounts :=
      (reasons.flatten.foldl Dict.increment .empty).entries.insertionSort fun a b => a.1 ≤ b.1 }

/-! ### The validation of a file -/

/-- What is reported of a line that is no valid quote. -/
structure InvalidQuote where
  line : Option ℕ
  symbol : Json := .null
  updateId : Json := .null
  localRecvMonotonicNs : Json := .null
  reason : List String

/-- The result of the validation of a file of quotes. -/
structure ReferenceQuoteValidationResult where
  referenceQuoteCount : ℕ
  validReferenceQuoteCount : ℕ
  invalidReferenceQuoteCount : ℕ
  validQuotes : List Json
  invalidQuotes : List InvalidQuote
  quality : ReferenceFeedQuality

/-- The errors of a quote: of its fields, and those its quality lists unless it says valid. -/
def quoteErrors (row : Json) : Except String (List String) :=
  if saysValid row then .ok (referenceSchemaErrors row)
  else do
    let reasons ← listedReasons row
    return referenceSchemaErrors row ++ reasons

/-- The quotes of a file and what is reported of its lines. -/
structure QuoteScan where
  quotes : List Json := []
  invalidRows : List InvalidQuote := []

/-- Look at a line. A row is a quote also when it has errors. -/
def QuoteScan.step (scan : QuoteScan) (line : FileLine × ℕ) : Except String QuoteScan :=
  let report (invalid : InvalidQuote) : QuoteScan :=
    { scan with invalidRows := scan.invalidRows ++ [invalid] }
  match line.1 with
  | .blank => .ok scan
  | .undecodable exc => .ok (report { line := some line.2, reason := ["INVALID_JSON:" ++ exc] })
  | .decoded (.obj fields) => do
      let row := Json.obj fields
      let errors ← quoteErrors row
      return {
        quotes := scan.quotes ++ [row]
        invalidRows :=
          if errors = [] then scan.invalidRows
          else scan.invalidRows ++ [{
            line := some line.2
            symbol := row.get "symbol"
            updateId := row.get "update_id"
            localRecvMonotonicNs := row.get "local_recv_monotonic_ns"
            reason := sortedSet errors }] }
  | .decoded _ => .ok (report { line := some line.2, reason := ["ROW_NOT_OBJECT"] })

/-- Validate a file of quotes; there may be none. -/
def validateReferenceQuotes (file : Option (List FileLine)) :
    Except String ReferenceQuoteValidationResult :=
  match file with
  | none => do
      return {
        referenceQuoteCount := 0
        validReferenceQuoteCount := 0
        invalidReferenceQuoteCount := 1
        validQuotes := []
        invalidQuotes := [{ line := none, reason := ["REFERENCE_FEED_MISSING"] }]
        quality := ← analyzeReferenceFeedQuality [] }
  | some lines => do
      let scan ← (lines.zipIdx 1).foldlM QuoteScan.step {}
      let validQuotes := scan.quotes.filter isValidQuote
      return {
        referenceQuoteCount := scan.quotes.length
        validReferenceQuoteCount := validQuotes.length
        invalidReferenceQuoteCount := scan.invalidRows.length
        validQuotes := validQuotes
        invalidQuotes := scan.invalidRows
        quality := ← analyzeReferenceFeedQuality validQuotes }

end SomethingTrade
