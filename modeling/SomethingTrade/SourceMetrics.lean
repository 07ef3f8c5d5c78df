import SomethingTrade.ProtocolSelection

/-!
# Metrics of a Source

What the reference benchmark reports of the labels of one source: how many samples have an event
of the source at or after their horizon, how many of their labels are valid, how the events were
captured, and whether the source covers the horizon well enough.

## Representation

* The summaries of gaps are kept as the records they are taken from.
* A status is an enumeration.
* The diagnostics of a capture are a value, or there are none.
-/

namespace SomethingTrade

/-- What became of a source. -/
inductive SourceStatus
  | notCaptured
  | capturedButEmpty
  | parserFailedOrAllInvalid
  | measuredPass
  | measuredCoverageFailed
  deriving DecidableEq

/-- What a stream of a source is called after its symbol. -/
def ReferenceSource.streamSuffix : ReferenceSource → String
  | depthMid => "depth@100ms"
  | bookTickerMid => "bookTicker"
  | tradePrice => "trade"
  | aggTradePrice => "aggTrade"

/-- The stream of a source. -/
def streamNameForSource (symbol : String) (source : ReferenceSource) : String :=
  lower symbol ++ "@" ++ source.streamSuffix

/-- The texts of a list; another value has none. -/
def listOfText : Json → List String
  | .arr items => items.map Json.text
  | _ => []

/-- The counts by which a source is judged. -/
structure SourceCounts where
  fileExists : Bool
  referenceEventCount : ℕ
  validReferenceEventCount : ℕ
  passes100msGate : Bool

/-- What became of a source. A capture is asked first whether the source was in it at all. -/
def classifySourceStatus (source : ReferenceSource) (counts : SourceCounts)
    (captureDiagnostics : Option Json) (symbol : String) : SourceStatus :=
  let streamName := streamNameForSource symbol source
  let requested (capture : Json) : Bool :=
    (listOfText (capture.asDict.get "requested_streams")).contains streamName
  let messageCount (capture : Json) : ℚ :=
    (((capture.asDict.get "message_count_by_stream").asDict.get streamName).toFinite?).getD 0
  if captureDiagnostics.any fun capture => !requested capture then .notCaptured
  else if !counts.fileExists then .notCaptured
  else if captureDiagnostics.any fun capture => messageCount capture = 0 then .capturedButEmpty
  else if captureDiagnostics.isNone && counts.referenceEventCount = 0 then .capturedButEmpty
  else if counts.referenceEventCount > 0 ∧ counts.validReferenceEventCount = 0 then
    .parserFailedOrAllInvalid
  else if counts.passes100msGate then .measuredPass
  else if counts.validReferenceEventCount > 0 then .measuredCoverageFailed
  else .notCaptured

/-- The metrics of a source. -/
structure SourceMetrics where
  referenceSource : ReferenceSource
  semanticType : String
  semanticDescription : String
  fileExists : Bool
  maxFutureGapMs : ℚ := labelMaxFutureGapMs
  referenceEventCount : ℕ
  validReferenceEventCount : ℕ
  invalidReferenceEventCount : ℕ
  referenceTimestampMonotonicViolations : ℕ
  referenceGaps : ReferenceGapDistribution
  eligibleCount : ℕ
  validCount : ℕ
  invalidCount : ℕ
  validRateAllRows : ℚ
  validRateEligibleRows : ℚ
  invalidReasonCounts : List (String × ℕ)
  futureGaps : SeriesSummary
  labelLeakageViolations : ℕ
  passes100msGate : Bool
  sourceStatus : SourceStatus

/-- How many samples have a time at or after their horizon among those of some events. -/
def eligibleSampleCount (events cleanSamples : List Json) : ℕ :=
  match (receiveTimes events).max? with
  | none => 0
  | some last => cleanSamples.countP fun sample =>
      ((sample.get "local_recv_monotonic_ns").asInt?).any fun ts =>
        ts + labelHorizonMs * nsPerMs ≤ last

/-- Why a benchmark label is not valid. -/
def ReferenceLabel.reason (label : ReferenceLabel) : String :=
  orText label.invalidReason "UNKNOWN_INVALID_REASON"

/-- The metrics of a source, from its events and its labels. -/
def computeSourceMetrics (source : ReferenceSource) (validation : ReferenceValidationResult)
    (cleanSamples : List Json) (benchmarkRows : List BenchmarkRow) (labelLeakageViolations : ℕ)
    (captureDiagnostics : Option Json) (symbol : String) : SourceMetrics :=
  let labels := benchmarkRows.map fun row => row.referenceLabels source
  let validCount := labels.countP ReferenceLabel.valid
  let reasonCounts := (((labels.filter fun label => !label.valid).map
    ReferenceLabel.reason).foldl Dict.increment .empty).pop "None"
  let eligibleCount := eligibleSampleCount validation.validEvents cleanSamples
  let validRateEligibleRows := LabelCounts.rate validCount eligibleCount
  let passes100msGate :=
    validation.validReferenceEventCount > 0 && validRateEligibleRows ≥ required100msValidRate &&
      labelLeakageViolations = 0 && validation.timestampMonotonicViolations = 0
  { referenceSource := source
    semanticType := source.semanticType
    semanticDescription := source.semanticDescription
    fileExists := validation.fileExists
    referenceEventCount := validation.referenceEventCount
    validReferenceEventCount := validation.validReferenceEventCount
    invalidReferenceEventCount := validation.invalidReferenceEventCount
    referenceTimestampMonotonicViolations := validation.timestampMonotonicViolations
    referenceGaps := validation.quality
    eligibleCount := eligibleCount
    validCount := validCount
    invalidCount := labels.length - validCount
    validRateAllRows := LabelCounts.rate validCount labels.length
    validRateEligibleRows := validRateEligibleRows
    invalidReasonCounts := reasonCounts.entries.insertionSort fun a b => a.1 ≤ b.1
    futureGaps := valueSummary (labels.filterMap ReferenceLabel.futureGapMs)
    labelLeakageViolations := labelLeakageViolations
    passes100msGate := passes100msGate
    sourceStatus := classifySourceStatus source
      ⟨validation.fileExists, validation.referenceEventCount,
        validation.validReferenceEventCount, passes100msGate⟩ captureDiagnostics symbol }

end SomethingTrade
