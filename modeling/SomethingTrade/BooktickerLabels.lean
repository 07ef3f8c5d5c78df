import SomethingTrade.BooktickerQuotes
import SomethingTrade.LabelMetrics

/-!
# Labels by bookTicker Quotes

The labeled rows whose label for the horizon of 100 ms is given by quotes instead of later
samples, and what is reported of these labels.

## Representation

* A row keeps its labels for the other horizons in the dictionary it had; the label by quotes
  stands beside them.
* The cases that are written to a file are part of the statistics.
-/

namespace SomethingTrade

/-! ### Labels -/

/-- A label by quotes. -/
structure BooktickerLabel where
  referenceSource : String := "bookTicker"
  horizonMs : ℤ := labelHorizonMs
  targetLocalRecvMonotonicNs : ℤ
  maxFutureGapMs : ℚ := labelMaxFutureGapMs
  firstReferenceIndexAfterFeature : ℕ
  futureReferenceIndex : Option ℕ := none
  futureReferenceLocalRecvMonotonicNs : Option ℤ := none
  futureReferenceUpdateId : Json := .null
  futureBid : Json := .null
  futureAsk : Json := .null
  futureMidPrice : Json := .null
  futureGapMs : Option ℚ := none
  futureIndex : Option ℕ := none
  futureLocalRecvMonotonicNs : Option ℤ := none
  futureLastUpdateId : Json := .null
  returnBps : Option ℚ := none
  direction : Option ℤ := none
  spreadAdjustedDirection : Option ℤ := none
  valid : Bool := false
  invalidReason : Option String := none

/-- A label that is not valid. -/
def BooktickerLabel.invalid (label : BooktickerLabel) (reason : String) : BooktickerLabel :=
  { label with invalidReason := some reason }

/-- A label whose quote was found. -/
def BooktickerLabel.found (label : BooktickerLabel) (quote : Json) (index : ℕ) (quoteTs : ℤ)
    (gapMs : ℚ) : BooktickerLabel :=
  { label with
    futureReferenceIndex := some index
    futureReferenceLocalRecvMonotonicNs := some quoteTs
    futureReferenceUpdateId := quote.get "update_id"
    futureBid := quote.get "best_bid"
    futureAsk := quote.get "best_ask"
    futureMidPrice := quote.get "mid_price"
    futureGapMs := some gapMs
    futureIndex := some index
    futureLocalRecvMonotonicNs := some quoteTs
    futureLastUpdateId := quote.get "update_id" }

/-- Judge a label whose quote was found. -/
def BooktickerLabel.judge (label : BooktickerLabel) (gapMs currentMid : ℚ)
    (spreadBps : Option ℚ) : BooktickerLabel :=
  if gapMs > labelMaxFutureGapMs then label.invalid "FUTURE_REFERENCE_GAP_TOO_LARGE"
  else
    match label.futureMidPrice.asNumber?.filter fun mid => mid > 0 with
    | none => label.invalid "FUTURE_REFERENCE_MID_INVALID"
    | some futureMid =>
        match spreadBps.filter fun spread => spread ≥ 0, computeReturnBps currentMid futureMid with
        | some spreadBps, .ok returnBps =>
            { label with
              returnBps := some returnBps
              direction := some (directionLabel returnBps 0)
              spreadAdjustedDirection := some (directionLabel returnBps spreadBps)
              valid := true
              invalidReason := none }
        | _, _ => label.invalid "CURRENT_MID_INVALID"

/-- The mid price of a row whose best prices are in order. -/
def LabeledRow.currentMid (row : LabeledRow) : Option ℚ :=
  match row.bestBid, row.bestAsk with
  | some bid, some ask =>
      if bid ≤ 0 ∨ ask ≤ 0 ∨ bid ≥ ask then none else row.midPrice.filter fun mid => mid > 0
  | _, _ => none

/-- The index of the first quote at or after the horizon. -/
def selectFutureQuoteIndex (referenceQuotes : List Json) (timestampsNs : List ℤ)
    (featureTimestampNs : ℤ) : Option ℕ :=
  let target := featureTimestampNs + labelHorizonMs * nsPerMs
  let index := bisectLeft timestampsNs target 0 timestampsNs.length
  if index < referenceQuotes.length then some index else none

/-- The label of a row by quotes. -/
def booktickerLabel (row : LabeledRow) (validReferences : List Json)
    (validReferenceTimestamps : List ℤ) (firstAfterFeature : ℕ) :
    Except String BooktickerLabel := do
  let featureTs ← timestampOf row.toJson
  let targetTs := featureTs + labelHorizonMs * nsPerMs
  let base : BooktickerLabel :=
    { targetLocalRecvMonotonicNs := targetTs
      firstReferenceIndexAfterFeature := firstAfterFeature }
  match row.currentMid with
  | none => return base.invalid "CURRENT_MID_INVALID"
  | some currentMid =>
      match selectFutureQuoteIndex validReferences validReferenceTimestamps featureTs with
      | none => return base.invalid "NO_FUTURE_REFERENCE"
      | some index => do
          let quote ← elementAt validReferences index
          let quoteTs ← timestampOf quote
          let gapMs : ℚ := ((quoteTs - targetTs : ℤ) : ℚ) / nsPerMs
          return (base.found quote index quoteTs gapMs).judge gapMs currentMid row.spreadBps

/-! ### Rows -/

/-- A row whose label for the horizon of 100 ms is by quotes. -/
structure BooktickerRow extends LabeledRow where
  horizon100ms : BooktickerLabel
  booktickerReferenceUsedForFeatures : Bool := false
  labelReferenceSource : String := "bookTicker"

/-- The rows of samples, with labels by quotes. -/
def generateLabeledRowsWithBookticker (cleanSamples referenceQuotes : List Json) :
    Except String (List BooktickerRow) := do
  let validReferences := referenceQuotes.filter saysValid
  let rows ← generateLabeledRows cleanSamples 0
  let referenceTimestamps ← validReferences.mapM timestampOf
  rows.mapM fun row => do
    let featureTs ← timestampOf row.toJson
    let firstAfterFeature := bisectRight referenceTimestamps featureTs 0 referenceTimestamps.length
    let label ← booktickerLabel row validReferences referenceTimestamps firstAfterFeature
    return { row with
      labels := row.labels.pop "horizon_100ms"
      horizon100ms := label }

/-! ### Statistics -/

/-- What is written of a row whose label is not valid. -/
structure InvalidLabelCase where
  symbol : Json
  generationId : Json
  lastUpdateId : Json
  localRecvMonotonicNs : Json
  horizon : String := "horizon_100ms"
  invalidReason : String
  targetLocalRecvMonotonicNs : ℤ
  futureReferenceLocalRecvMonotonicNs : Option ℤ
  futureGapMs : Option ℚ

/-- What is reported of the labels by quotes. -/
structure Horizon100msStats where
  referenceSource : String := "bookTicker"
  maxFutureGapMs : ℚ := labelMaxFutureGapMs
  eligibleCount : ℕ
  validCount : ℕ
  invalidCount : ℕ
  tailNoFutureCount : ℕ
  validRateAllRows : ℚ
  validRateEligibleRows : ℚ
  invalidReasonCounts : List (String × ℕ)
  futureGaps : SeriesSummary
  invalidCases : List InvalidLabelCase

/-- Why a label is not valid. -/
def BooktickerLabel.reason (label : BooktickerLabel) : String :=
  orText label.invalidReason "UNKNOWN_INVALID_REASON"

/-- How many samples have their horizon up to the last time of some quotes. -/
def eligibleByQuotes (cleanSamples referenceQuotes : List Json) : Except String ℕ :=
  match (receiveTimes referenceQuotes).max? with
  | none => .ok 0
  | some last => do
      let times ← cleanSamples.mapM timestampOf
      return times.countP fun ts => ts + labelHorizonMs * nsPerMs ≤ last

/-- The statistics of the labels by quotes. -/
def horizon100msStats (cleanSamples referenceQuotes : List Json)
    (labeledRows : List BooktickerRow) : Except String Horizon100msStats := do
  let eligibleCount ← eligibleByQuotes cleanSamples referenceQuotes
  let last := (receiveTimes referenceQuotes).max?
  let labels := labeledRows.map BooktickerRow.horizon100ms
  let invalidRows := labeledRows.filter fun row => !row.horizon100ms.valid
  let validCount := labels.countP BooktickerLabel.valid
  return {
    eligibleCount := eligibleCount
    validCount := validCount
    invalidCount := invalidRows.length
    tailNoFutureCount := invalidRows.countP fun row =>
      row.horizon100ms.reason = "NO_FUTURE_REFERENCE" &&
        last.any fun last => row.horizon100ms.targetLocalRecvMonotonicNs > last
    validRateAllRows := LabelCounts.rate validCount labeledRows.length
    validRateEligibleRows := LabelCounts.rate validCount eligibleCount
    invalidReasonCounts := ((invalidRows.map fun row => row.horizon100ms.reason).foldl
      Dict.increment .empty).entries.insertionSort fun a b => a.1 ≤ b.1
    futureGaps := valueSummary (labels.filterMap BooktickerLabel.futureGapMs)
    invalidCases := invalidRows.map fun row =>
      { symbol := row.symbol
        generationId := row.generationId
        lastUpdateId := row.lastUpdateId
        localRecvMonotonicNs := row.localRecvMonotonicNs
        invalidReason := row.horizon100ms.reason
        targetLocalRecvMonotonicNs := row.horizon100ms.targetLocalRecvMonotonicNs
        futureReferenceLocalRecvMonotonicNs :=
          row.horizon100ms.futureReferenceLocalRecvMonotonicNs
        futureGapMs := row.horizon100ms.futureGapMs } }

end SomethingTrade
