import SomethingTrade.ReferenceEvents

/-!
# Labels of the Time Protocols

The labels of a clean sample, one for each source of reference events and each protocol: which
reference event is the first at or after a horizon of 100 ms, and whether it may be used. The
benchmark label and the receive time label search by receive times, the exchange time label by
the times of the exchange. The hybrid labels judge the exchange time label by the lag with which
the sample was received, as it is or corrected by a clock offset.

All events of a source are in a list here, sorted by the time of the protocol, and the searches
bisect the column of times.

## Representation

* Labels are records, with the entries of the dictionaries as fields; `none` and `null` stand
  for `None`.
* An exception that no function catches ends the call; it is kept by name.
* The budgets of the hybrid labels are an enumeration, a dictionary with one entry for each of
  them a function.
-/

namespace SomethingTrade

/-! ### Settings -/

/-- How far ahead labels look. -/
def labelHorizonMs : ℤ := 100

/-- How long after the horizon the event of a label may be. -/
def labelMaxFutureGapMs : ℚ := 100

/-- Nanoseconds in a millisecond. -/
def nsPerMs : ℤ := 1000000

/-- How far the clocks may disagree. -/
def allowedClockSkewMs : ℚ := 5

/-- The budgets for the lag of a sample. -/
inductive HybridBudget
  | ms25
  | ms50
  | ms100
  | ms250
  deriving DecidableEq

namespace HybridBudget

/-- A budget in milliseconds. -/
def ms : HybridBudget → ℕ
  | ms25 => 25
  | ms50 => 50
  | ms100 => 100
  | ms250 => 250

/-- All budgets, in the order in which the loops visit them. -/
def all : List HybridBudget := [ms25, ms50, ms100, ms250]

end HybridBudget

/-! ### Labels -/

/-- What the judgement of a label comes to. -/
inductive LabelVerdict
  | invalid (reason : String)
  | valid (returnBps : ℚ) (direction : ℤ)

/-- A benchmark label. -/
structure ReferenceLabel where
  referenceSource : ReferenceSource
  horizonMs : ℤ := labelHorizonMs
  targetLocalRecvMonotonicNs : Option ℤ
  maxFutureGapMs : ℚ := labelMaxFutureGapMs
  firstReferenceIndexAfterFeature : Option ℕ
  futureReferenceIndex : Option ℕ := none
  futureReferenceLocalRecvMonotonicNs : Option ℤ := none
  futureReferenceEventId : Json := .null
  futureReferencePrice : Option ℚ := none
  futureGapMs : Option ℚ := none
  returnBps : Option ℚ := none
  direction : Option ℤ := none
  valid : Bool := false
  invalidReason : Option String := none

/-- Conclude a label. -/
def ReferenceLabel.conclude (label : ReferenceLabel) : LabelVerdict → ReferenceLabel
  | .invalid reason => { label with invalidReason := some reason }
  | .valid returnBps direction =>
      { label with
        returnBps := some returnBps
        direction := some direction
        valid := true
        invalidReason := none }

/-- A receive time label. -/
structure ReceiveTimeLabel extends ReferenceLabel where
  protocol : String := "receive_time_label_protocol"
  receiveFutureGapMs : Option ℚ := none
  eligible : Bool := false

/-- Conclude a label. -/
def ReceiveTimeLabel.conclude (label : ReceiveTimeLabel) (verdict : LabelVerdict) :
    ReceiveTimeLabel :=
  { label with toReferenceLabel := label.toReferenceLabel.conclude verdict }

/-- An exchange time label. -/
structure ExchangeTimeLabel where
  protocol : String := "exchange_time_label_protocol"
  referenceSource : ReferenceSource
  horizonMs : ℤ := labelHorizonMs
  targetExchangeTsMs : Option ℚ
  featureExchangeTsMs : Option ℚ
  featureLocalRecvMonotonicNs : Json
  featureReceiveLagMs : Option ℚ
  selectionTimeBasis : String := "exchange_ts"
  maxFutureGapMs : ℚ := labelMaxFutureGapMs
  futureReferenceIndex : Option ℕ := none
  futureReferenceExchangeTsMs : Option ℚ := none
  futureReferenceLocalRecvMonotonicNs : Json := .null
  futureReferenceEventId : Json := .null
  futureReferencePrice : Option ℚ := none
  futureReceiveLagMs : Option ℚ := none
  exchangeFutureGapMs : Option ℚ := none
  returnBps : Option ℚ := none
  direction : Option ℤ := none
  eligible : Bool := false
  valid : Bool := false
  invalidReason : Option String := none

/-- Conclude a label. -/
def ExchangeTimeLabel.conclude (label : ExchangeTimeLabel) : LabelVerdict → ExchangeTimeLabel
  | .invalid reason => { label with invalidReason := some reason }
  | .valid returnBps direction =>
      { label with
        returnBps := some returnBps
        direction := some direction
        valid := true
        invalidReason := none }

/-- A hybrid label. -/
structure HybridLabel where
  protocol : String := "hybrid_low_latency_protocol"
  referenceSource : ReferenceSource
  horizonMs : ℤ := labelHorizonMs
  maxFutureGapMs : ℚ := labelMaxFutureGapMs
  featureLagBudgetMs : ℕ
  allowedClockSkewMs : ℚ
  exchangeTimeValid : Bool
  featureReceiveLagMs : Option ℚ
  futureReceiveLagMs : Option ℚ
  futureReceiveLagIsTelemetryOnly : Bool := true
  futureReceiveLagHardGateUsed : Bool := false
  noCrossStreamReceiveReorder : Option Bool := none
  clockSanityValid : Option Bool := none
  eligible : Bool
  valid : Bool := false
  invalidReason : Option String := none

/-- Reject a label. -/
def HybridLabel.invalid (label : HybridLabel) (reason : String) : HybridLabel :=
  { label with invalidReason := some reason }

/-- A hybrid label whose lags are corrected. -/
structure CorrectedHybridLabel where
  protocol : String := "corrected_hybrid_low_latency_protocol"
  referenceSource : ReferenceSource
  horizonMs : ℤ := 100
  maxFutureGapMs : ℚ := labelMaxFutureGapMs
  featureLagBudgetMs : ℕ
  allowedClockSkewMs : ℚ
  exchangeTimeValid : Bool
  rawFeatureReceiveLagMs : Option ℚ
  correctedFeatureReceiveLagMs : Option ℚ
  rawFutureReceiveLagMs : Option ℚ
  correctedFutureReceiveLagMs : Option ℚ
  futureReceiveLagIsTelemetryOnly : Bool := true
  futureReceiveLagHardGateUsed : Bool := false
  clockOffsetDriftValid : Bool
  noCrossStreamReceiveReorder : Option Bool := none
  eligible : Bool
  valid : Bool := false
  invalidReason : Option String := none

/-- Reject a label. -/
def CorrectedHybridLabel.invalid (label : CorrectedHybridLabel) (reason : String) :
    CorrectedHybridLabel :=
  { label with invalidReason := some reason }

/-! ### The benchmark label -/

/-- Judge a benchmark label whose event was found. -/
def judgeReferenceLabel (featureMid futureGapMs : ℚ) (futurePrice : Option ℚ) : LabelVerdict :=
  if futureGapMs > labelMaxFutureGapMs then .invalid "FUTURE_REFERENCE_GAP_TOO_LARGE"
  else
    match futurePrice.filter fun price => price > 0 with
    | none => .invalid "FUTURE_REFERENCE_PRICE_INVALID"
    | some price =>
        match computeReturnBps featureMid price with
        | .error _ => .invalid "CURRENT_MID_INVALID"
        | .ok returnBps => .valid returnBps (directionLabel returnBps 0)

/-- The index of the first event at or after the horizon. -/
def selectFutureReferenceIndex (referenceTimestampsNs : List ℤ) (featureTimestampNs : ℤ) :
    Option ℕ :=
  let targetTime := featureTimestampNs + labelHorizonMs * nsPerMs
  let index := bisectLeft referenceTimestampsNs targetTime 0 referenceTimestampsNs.length
  if index < referenceTimestampsNs.length then some index else none

/-- A benchmark label before its event is looked for. -/
def referenceLabelBase (source : ReferenceSource) (featureTs : Option ℤ)
    (referenceTimestampsNs : List ℤ) : ReferenceLabel :=
  { referenceSource := source
    targetLocalRecvMonotonicNs := featureTs.map fun ts => ts + labelHorizonMs * nsPerMs
    firstReferenceIndexAfterFeature := featureTs.map fun ts =>
      bisectRight referenceTimestampsNs ts 0 referenceTimestampsNs.length }

/-- The benchmark label of a sample. -/
def buildReferenceLabel (source : ReferenceSource) (featureSample : Json)
    (featureMidPrice : Option ℚ) (references : List Json) (referenceTimestampsNs : List ℤ) :
    Except String ReferenceLabel :=
  let featureTs := (featureSample.get "local_recv_monotonic_ns").asInt?
  let base := referenceLabelBase source featureTs referenceTimestampsNs
  match featureTs with
  | none => .ok (base.conclude (.invalid "FEATURE_TIMESTAMP_INVALID"))
  | some featureTs =>
      match featureMidPrice.filter fun mid => mid > 0 with
      | none => .ok (base.conclude (.invalid "CURRENT_MID_INVALID"))
      | some featureMid =>
          match selectFutureReferenceIndex referenceTimestampsNs featureTs with
          | none => .ok (base.conclude (.invalid "NO_FUTURE_REFERENCE"))
          | some futureIndex => do
              let futureReference ← elementAt references futureIndex
              let futureTs ← timestampOf futureReference
              let targetTs := featureTs + labelHorizonMs * nsPerMs
              let futureGapMs : ℚ := ((futureTs - targetTs : ℤ) : ℚ) / nsPerMs
              let futurePrice := referencePrice futureReference source
              let found :=
                { base with
                  futureReferenceIndex := some futureIndex
                  futureReferenceLocalRecvMonotonicNs := some futureTs
                  futureReferenceEventId := referenceEventId futureReference source
                  futureReferencePrice := futurePrice
                  futureGapMs := some futureGapMs }
              return found.conclude (judgeReferenceLabel featureMid futureGapMs futurePrice)

/-! ### The receive time label and the exchange time label -/

/-- Judge a label of a time protocol whose event was found. -/
def judgeProtocolLabel (featureMid futureGapMs : ℚ) (futurePrice : Option ℚ) :
    Except String LabelVerdict :=
  if futureGapMs < 0 then .ok (.invalid "LABEL_LEAKAGE_FUTURE_BEFORE_TARGET")
  else if futureGapMs > labelMaxFutureGapMs then .ok (.invalid "FUTURE_REFERENCE_GAP_TOO_LARGE")
  else
    match futurePrice.filter fun price => price > 0 with
    | none => .ok (.invalid "FUTURE_REFERENCE_PRICE_INVALID")
    | some price => do
        let returnBps ← computeReturnBps featureMid price
        return .valid returnBps (directionLabel returnBps 0)

/-- The receive time label of a sample. -/
def buildReceiveTimeLabel (source : ReferenceSource) (featureSample : Json)
    (featureMidPrice : Option ℚ) (references : List Json) (referenceTimestampsNs : List ℤ) :
    Except String ReceiveTimeLabel :=
  let featureTs := (featureSample.get "local_recv_monotonic_ns").asInt?
  let base : ReceiveTimeLabel :=
    { referenceLabelBase source featureTs referenceTimestampsNs with }
  match featureTs with
  | none => .ok (base.conclude (.invalid "FEATURE_TIMESTAMP_INVALID"))
  | some featureTs =>
      match featureMidPrice.filter fun mid => mid > 0 with
      | none => .ok (base.conclude (.invalid "CURRENT_MID_INVALID"))
      | some featureMid =>
          let targetTs := featureTs + labelHorizonMs * nsPerMs
          -- the last time bounds all times of the list
          if referenceTimestampsNs.getLast?.all fun last => targetTs > last then
            .ok (base.conclude (.invalid "NO_FUTURE_REFERENCE"))
          else
            let futureIndex :=
              bisectLeft referenceTimestampsNs targetTs 0 referenceTimestampsNs.length
            match references[futureIndex]? with
            | none => .ok (base.conclude (.invalid "NO_FUTURE_REFERENCE"))
            | some futureReference => do
                let futureTs ← timestampOf futureReference
                let futureGapMs : ℚ := ((futureTs - targetTs : ℤ) : ℚ) / nsPerMs
                let futurePrice := referencePrice futureReference source
                let found :=
                  { base with
                    futureReferenceIndex := some futureIndex
                    futureReferenceLocalRecvMonotonicNs := some futureTs
                    futureReferenceEventId := referenceEventId futureReference source
                    futureReferencePrice := futurePrice
                    futureGapMs := some futureGapMs
                    receiveFutureGapMs := some futureGapMs
                    eligible := true }
                return found.conclude (← judgeProtocolLabel featureMid futureGapMs futurePrice)

section ExchangeTime

variable (fromisoformat : String → Option ℚ)

/-- An exchange time label before its event is looked for. -/
def exchangeLabelBase (source : ReferenceSource) (featureSample : Json) : ExchangeTimeLabel :=
  { referenceSource := source
    targetExchangeTsMs := (featureExchangeTsMs featureSample).map fun ts => ts + labelHorizonMs
    featureExchangeTsMs := featureExchangeTsMs featureSample
    featureLocalRecvMonotonicNs := featureSample.get "local_recv_monotonic_ns"
    featureReceiveLagMs := receiveLagMs fromisoformat (featureSample.get "local_recv_wall_ts")
      (featureExchangeTsMs featureSample) }

/-- An exchange time label whose event was found. -/
def ExchangeTimeLabel.found (label : ExchangeTimeLabel) (futureReference : Json)
    (futureIndex : ℕ) (futureExchangeMs futureGapMs : ℚ) : ExchangeTimeLabel :=
  { label with
    futureReferenceIndex := some futureIndex
    futureReferenceExchangeTsMs := some futureExchangeMs
    futureReferenceLocalRecvMonotonicNs := futureReference.get "local_recv_monotonic_ns"
    futureReferenceEventId := referenceEventId futureReference label.referenceSource
    futureReferencePrice := referencePrice futureReference label.referenceSource
    futureReceiveLagMs := receiveLagMs fromisoformat
      (futureReference.get "local_recv_wall_ts") (some futureExchangeMs)
    exchangeFutureGapMs := some futureGapMs
    eligible := true }

/-- The exchange time label of a sample. -/
def buildExchangeTimeLabel (source : ReferenceSource) (featureSample : Json)
    (featureMidPrice : Option ℚ) (references : List Json)
    (referenceExchangeTimestampsMs : List ℚ) (exchangeTimeSupported : Bool)
    (unsupportedReason : String) (allowEventTimeFallback : Bool) :
    Except String ExchangeTimeLabel :=
  let base := exchangeLabelBase fromisoformat source featureSample
  if !exchangeTimeSupported then .ok (base.conclude (.invalid unsupportedReason))
  else
    match base.targetExchangeTsMs with
    | none => .ok (base.conclude (.invalid "FEATURE_EXCHANGE_TIMESTAMP_MISSING"))
    | some targetExchangeMs =>
        match featureMidPrice.filter fun mid => mid > 0 with
        | none => .ok (base.conclude (.invalid "CURRENT_MID_INVALID"))
        | some featureMid =>
            if referenceExchangeTimestampsMs.getLast?.all fun last => targetExchangeMs > last then
              .ok (base.conclude (.invalid "NO_FUTURE_REFERENCE"))
            else
              let futureIndex := bisectLeft referenceExchangeTimestampsMs targetExchangeMs 0
                referenceExchangeTimestampsMs.length
              match references[futureIndex]? with
              | none => .ok (base.conclude (.invalid "NO_FUTURE_REFERENCE"))
              | some futureReference =>
                  match sourceExchangeTsMs futureReference source allowEventTimeFallback with
                  | none => .ok (base.conclude (.invalid "REFERENCE_EXCHANGE_TIMESTAMP_MISSING"))
                  | some (_, futureExchangeMs) => do
                      let futureGapMs := futureExchangeMs - targetExchangeMs
                      let found := base.found fromisoformat futureReference futureIndex
                        futureExchangeMs futureGapMs
                      return found.conclude
                        (← judgeProtocolLabel featureMid futureGapMs found.futureReferencePrice)

end ExchangeTime

/-! ### The hybrid labels -/

/-- The hybrid label made of an exchange time label. -/
def buildHybridLabel (exchangeLabel : ExchangeTimeLabel) (featureLagBudgetMs : ℕ)
    (allowedClockSkewMs : ℚ) : HybridLabel :=
  let base : HybridLabel :=
    { referenceSource := exchangeLabel.referenceSource
      featureLagBudgetMs := featureLagBudgetMs
      allowedClockSkewMs := allowedClockSkewMs
      exchangeTimeValid := exchangeLabel.valid
      featureReceiveLagMs := exchangeLabel.featureReceiveLagMs
      futureReceiveLagMs := exchangeLabel.futureReceiveLagMs
      eligible := exchangeLabel.eligible }
  if !exchangeLabel.eligible then
    base.invalid (orText exchangeLabel.invalidReason "EXCHANGE_TIME_NOT_ELIGIBLE")
  else if !exchangeLabel.valid then
    base.invalid (orText exchangeLabel.invalidReason "EXCHANGE_TIME_INVALID")
  else
    match exchangeLabel.featureReceiveLagMs with
    | none => { base with clockSanityValid := some false }.invalid "CLOCK_SANITY_VIOLATION"
    | some featureLag =>
        let sane := { base with clockSanityValid := some (featureLag ≥ -allowedClockSkewMs) }
        if featureLag < -allowedClockSkewMs then sane.invalid "CLOCK_SANITY_VIOLATION"
        else if featureLag > featureLagBudgetMs then sane.invalid "FEATURE_RECEIVE_LAG_TOO_HIGH"
        else
          match exchangeLabel.featureLocalRecvMonotonicNs.asInt?,
            exchangeLabel.futureReferenceLocalRecvMonotonicNs.asInt? with
          | some featureRecvNs, some futureRecvNs =>
              let ordered :=
                { sane with noCrossStreamReceiveReorder := some (futureRecvNs > featureRecvNs) }
              if futureRecvNs > featureRecvNs then { ordered with valid := true }
              else ordered.invalid "CROSS_STREAM_RECEIVE_REORDER"
          | _, _ =>
              { sane with noCrossStreamReceiveReorder := some false }.invalid
                "CROSS_STREAM_RECEIVE_REORDER"

/-- The lag without the offset of the clocks. -/
def correctedReceiveLagMs (rawLagMs estimatedClockOffsetMs : Option ℚ) : Option ℚ :=
  rawLagMs.bind fun lag => estimatedClockOffsetMs.map fun offset => lag - offset

/-- The hybrid label made of an exchange time label and its corrected lags. -/
def buildCorrectedHybridLabel (exchangeLabel : ExchangeTimeLabel)
    (correctedFeatureReceiveLagMs correctedFutureReceiveLagMs : Option ℚ)
    (featureLagBudgetMs : ℕ) (clockOffsetDriftValid : Bool) (allowedClockSkewMs : ℚ) :
    CorrectedHybridLabel :=
  let base : CorrectedHybridLabel :=
    { referenceSource := exchangeLabel.referenceSource
      featureLagBudgetMs := featureLagBudgetMs
      allowedClockSkewMs := allowedClockSkewMs
      exchangeTimeValid := exchangeLabel.valid
      rawFeatureReceiveLagMs := exchangeLabel.featureReceiveLagMs
      correctedFeatureReceiveLagMs := correctedFeatureReceiveLagMs
      rawFutureReceiveLagMs := exchangeLabel.futureReceiveLagMs
      correctedFutureReceiveLagMs := correctedFutureReceiveLagMs
      clockOffsetDriftValid := clockOffsetDriftValid
      eligible := exchangeLabel.eligible }
  if !exchangeLabel.eligible then
    base.invalid (orText exchangeLabel.invalidReason "EXCHANGE_TIME_NOT_ELIGIBLE")
  else if !exchangeLabel.valid then
    base.invalid (orText exchangeLabel.invalidReason "EXCHANGE_TIME_INVALID")
  else if !clockOffsetDriftValid then base.invalid "CLOCK_OFFSET_DRIFT_INVALID"
  else
    match correctedFeatureReceiveLagMs with
    | none => base.invalid "CORRECTED_FEATURE_RECEIVE_LAG_MISSING"
    | some featureLag =>
        if featureLag < -allowedClockSkewMs then
          base.invalid "CORRECTED_LAG_CLOCK_SANITY_FAILURE"
        else if featureLag > featureLagBudgetMs then
          base.invalid "CORRECTED_FEATURE_RECEIVE_LAG_TOO_HIGH"
        else
          match exchangeLabel.featureLocalRecvMonotonicNs.asInt?,
            exchangeLabel.futureReferenceLocalRecvMonotonicNs.asInt? with
          | some featureRecvNs, some futureRecvNs =>
              let ordered :=
                { base with noCrossStreamReceiveReorder := some (futureRecvNs > featureRecvNs) }
              if futureRecvNs > featureRecvNs then { ordered with valid := true }
              else ordered.invalid "CROSS_STREAM_RECEIVE_REORDER"
          | _, _ =>
              { base with noCrossStreamReceiveReorder := some false }.invalid
                "CROSS_STREAM_RECEIVE_REORDER"

/-! ### Which sources have times of the exchange -/

/-- What is known of the exchange times of a source. -/
structure SourceSchema where
  source : ReferenceSource
  exchangeTimeSupported : Bool
  exchangeTimestampFieldUsed : Option String
  referenceRowsWithExchangeTs : ℕ
  validReferenceEventCount : ℕ
  unsupportedReason : Option String
  exchangeTimestampFallbackPolicy : String

/-- What is known of the exchange times of samples and events. -/
structure TimestampSchema where
  performed : Bool := true
  status : String
  featureExchangeTimeSupported : Bool
  featureRowsWithExchangeTs : ℕ
  featureRowCount : ℕ
  sources : BySource SourceSchema
  supportedSources : List ReferenceSource

/-- The field most exchange times of a source are from. -/
def preferredFieldUsed (fieldCounts : Dict String ℕ) (source : ReferenceSource) : Option String :=
  let tradeTimes := (fieldCounts.get? "T").getD 0
  let eventTimes := (fieldCounts.get? "E").getD 0
  if (source = .tradePrice ∨ source = .aggTradePrice) ∧ tradeTimes > 0 then some "T"
  else if eventTimes > 0 then some "E"
  else if tradeTimes > 0 then some "T"
  else none

/-- What is known of the exchange times of a source with a number of events. -/
def sourceSchema (source : ReferenceSource) (featureExchangeTimeSupported : Bool)
    (rowsWithExchangeTs validReferenceEventCount : ℕ) (fieldCounts : Dict String ℕ)
    (allowEventTimeFallback : Bool) : SourceSchema :=
  { source := source
    exchangeTimeSupported := featureExchangeTimeSupported && rowsWithExchangeTs > 0
    exchangeTimestampFieldUsed := preferredFieldUsed fieldCounts source
    referenceRowsWithExchangeTs := rowsWithExchangeTs
    validReferenceEventCount := validReferenceEventCount
    unsupportedReason :=
      if !featureExchangeTimeSupported then some "missing_feature_exchange_timestamp"
      else if rowsWithExchangeTs = 0 then some "missing_exchange_timestamp"
      else none
    exchangeTimestampFallbackPolicy :=
      if (source = .tradePrice ∨ source = .aggTradePrice) ∧ allowEventTimeFallback then
        "T_preferred_E_fallback_allowed"
      else "no_fallback" }

/-- The schema with what is known of each source. -/
def timestampSchema (featureRowsWithExchangeTs featureRowCount : ℕ)
    (sources : BySource SourceSchema) : TimestampSchema :=
  let supportedSources := ReferenceSource.all.filter fun source =>
    (sources source).exchangeTimeSupported
  { status := if supportedSources = [] then "fail" else "pass"
    featureExchangeTimeSupported := featureRowsWithExchangeTs > 0
    featureRowsWithExchangeTs := featureRowsWithExchangeTs
    featureRowCount := featureRowCount
    sources := sources
    supportedSources := supportedSources }

/-- How many events have an exchange time, and from which fields: one event more. -/
def countExchangeTs (counts : ℕ × Dict String ℕ) (selected : Option (String × ℚ)) :
    ℕ × Dict String ℕ :=
  match selected with
  | none => counts
  | some (field, _) => (counts.1 + 1, counts.2.increment field)

/-- The schema of samples and events held in lists. -/
def validateTimestampSchema (cleanSamples : List Json) (references : BySource (List Json))
    (allowEventTimeFallback : Bool) : TimestampSchema :=
  let featureRows := cleanSamples.countP fun sample => (featureExchangeTsMs sample).isSome
  timestampSchema featureRows cleanSamples.length fun source =>
    let counts := (references source).foldl (fun counts row =>
      countExchangeTs counts (sourceExchangeTsMs row source allowEventTimeFallback)) (0, .empty)
    sourceSchema source (featureRows > 0) counts.1 (references source).length counts.2
      allowEventTimeFallback

/-! ### Rows -/

/-- What a row of labels says of its sample. -/
structure RowHeader where
  schemaVersion : String
  symbol : Json
  source : Json
  generationId : Json
  stateVersion : Json
  snapshotVersion : Json
  lastUpdateId : Json
  localRecvMonotonicNs : Json
  localRecvWallTs : Json
  exchangeEventTs : Json
  featureBestBid : Option ℚ
  featureBestAsk : Option ℚ
  featureMidPrice : Option ℚ
  featureSpreadBps : Option ℚ
  currentIndex : ℕ

/-- What a row of labels says of a sample. -/
def rowHeader (schemaVersion : String) (sample : Json) (mid spread : Option ℚ) (index : ℕ) :
    RowHeader :=
  { schemaVersion := schemaVersion
    symbol := sample.get "symbol"
    source := sample.get "source"
    generationId := sample.get "generation_id"
    stateVersion := sample.get "state_version"
    snapshotVersion := sample.get "snapshot_version"
    lastUpdateId := sample.get "last_update_id"
    localRecvMonotonicNs := sample.get "local_recv_monotonic_ns"
    localRecvWallTs := sample.get "local_recv_wall_ts"
    exchangeEventTs := sample.get "exchange_event_ts"
    featureBestBid := (sample.get "best_bid").toFinite?
    featureBestAsk := (sample.get "best_ask").toFinite?
    featureMidPrice := mid
    featureSpreadBps := spread
    currentIndex := index }

/-- A row of benchmark labels. -/
structure BenchmarkRow extends RowHeader where
  referenceLabels : BySource ReferenceLabel

/-- The labels of the protocols for one source. -/
structure ProtocolLabels where
  receiveTime : ReceiveTimeLabel
  exchangeTime : ExchangeTimeLabel
  hybrid : HybridBudget → HybridLabel

/-- A row of labels of the protocols. -/
structure TimeProtocolRow extends RowHeader where
  featureExchangeTsMs : Option ℚ
  protocolLabels : BySource ProtocolLabels

/-- The corrected labels for one source. -/
structure CorrectedLabels where
  receiveTime : ReceiveTimeLabel
  exchangeTime : ExchangeTimeLabel
  rawFeatureReceiveLagMs : Option ℚ
  correctedFeatureReceiveLagMs : Option ℚ
  rawFutureReceiveLagMs : Option ℚ
  correctedFutureReceiveLagMs : Option ℚ
  correctedHybrid : HybridBudget → CorrectedHybridLabel

/-- A row of labels of the protocols with the corrected ones. -/
structure CorrectedRow extends TimeProtocolRow where
  correctedProtocolLabels : BySource CorrectedLabels
  clockOffsetEstimator : String := "low_rtt_trimmed_median"
  estimatedClockOffsetMs : Option ℚ
  futureReceiveLagHardGateUsed : Bool := false

/-- The hybrid labels made of an exchange time label, one for each budget. -/
def protocolLabels (receiveTime : ReceiveTimeLabel) (exchangeTime : ExchangeTimeLabel)
    (allowedClockSkewMs : ℚ) : ProtocolLabels :=
  { receiveTime := receiveTime
    exchangeTime := exchangeTime
    hybrid := fun budget => buildHybridLabel exchangeTime budget.ms allowedClockSkewMs }

/-- The corrected labels made of an exchange time label, one for each budget. -/
def correctedLabels (receiveTime : ReceiveTimeLabel) (exchangeTime : ExchangeTimeLabel)
    (estimatedClockOffsetMs : Option ℚ) (clockOffsetDriftValid : Bool)
    (allowedClockSkewMs : ℚ) : CorrectedLabels :=
  let rawFeature := exchangeTime.featureReceiveLagMs
  let rawFuture := exchangeTime.futureReceiveLagMs
  let correctedFeature := correctedReceiveLagMs rawFeature estimatedClockOffsetMs
  let correctedFuture := correctedReceiveLagMs rawFuture estimatedClockOffsetMs
  { receiveTime := receiveTime
    exchangeTime := exchangeTime
    rawFeatureReceiveLagMs := rawFeature
    correctedFeatureReceiveLagMs := correctedFeature
    rawFutureReceiveLagMs := rawFuture
    correctedFutureReceiveLagMs := correctedFuture
    correctedHybrid := fun budget =>
      buildCorrectedHybridLabel exchangeTime correctedFeature correctedFuture budget.ms
        clockOffsetDriftValid allowedClockSkewMs }

/-- The rows of benchmark labels. -/
def generateBenchmarkRows (cleanSamples : List Json) (references : BySource (List Json)) :
    Except String (List BenchmarkRow) := do
  let sortedReferences ← BySource.build fun source => sortedByReceiveTime (references source)
  let referenceTimestamps ← BySource.build fun source =>
    (sortedReferences source).mapM timestampOf
  cleanSamples.zipIdx.mapM fun (sample, index) => do
    let featureMid := ReferenceFeed.sampleMidPrice sample
    let featureSpread := ReferenceFeed.sampleSpreadBps sample
    let referenceLabels ← BySource.build fun source =>
      buildReferenceLabel source sample featureMid (sortedReferences source)
        (referenceTimestamps source)
    return {
      toRowHeader := rowHeader "orderbook_reference_benchmark_v1" sample featureMid featureSpread
        index
      referenceLabels := referenceLabels }

/-- The events of a source with an exchange time, sorted by it. -/
def sortedByExchangeTime (rows : List Json) (source : ReferenceSource)
    (allowEventTimeFallback : Bool) : List (ℚ × Json) :=
  sortBy Prod.fst <| rows.filterMap fun row =>
    (sourceExchangeTsMs row source allowEventTimeFallback).map fun selected => (selected.2, row)

/-- The rows of labels of the protocols. -/
def generateTimeProtocolRows (fromisoformat : String → Option ℚ) (cleanSamples : List Json)
    (references : BySource (List Json)) (schema : TimestampSchema)
    (allowEventTimeFallback : Bool) (allowedClockSkewMs : ℚ) :
    Except String (List TimeProtocolRow) := do
  let receiveSorted ← BySource.build fun source => sortedByReceiveTime (references source)
  let receiveTimestamps ← BySource.build fun source => (receiveSorted source).mapM timestampOf
  let exchangeSorted : BySource (List (ℚ × Json)) := fun source =>
    sortedByExchangeTime (references source) source allowEventTimeFallback
  cleanSamples.zipIdx.mapM fun (sample, index) => do
    let featureMid := TimeProtocol.sampleMidPrice sample
    let featureSpread := TimeProtocol.sampleSpreadBps sample
    let labels ← BySource.build fun source => do
      let receiveTime ← buildReceiveTimeLabel source sample featureMid (receiveSorted source)
        (receiveTimestamps source)
      let exchangeTime ← buildExchangeTimeLabel fromisoformat source sample featureMid
        ((exchangeSorted source).map Prod.snd) ((exchangeSorted source).map Prod.fst)
        (schema.sources source).exchangeTimeSupported
        (orText (schema.sources source).unsupportedReason "missing_exchange_timestamp")
        allowEventTimeFallback
      return protocolLabels receiveTime exchangeTime allowedClockSkewMs
    return {
      toRowHeader := rowHeader "orderbook_time_protocol_benchmark_v1" sample featureMid
        featureSpread index
      featureExchangeTsMs := SomethingTrade.featureExchangeTsMs sample
      protocolLabels := labels }

/-- The rows of labels of the protocols with the corrected ones. -/
def generateCorrectedTimeProtocolRows (timeProtocolRows : List TimeProtocolRow)
    (estimatedClockOffsetMs : Option ℚ) (clockOffsetDriftValid : Bool)
    (allowedClockSkewMs : ℚ) : List CorrectedRow :=
  timeProtocolRows.map fun row =>
    { row with
      schemaVersion := "phase_4_2e_corrected_time_protocol_v1"
      correctedProtocolLabels := fun source =>
        correctedLabels (row.protocolLabels source).receiveTime
          (row.protocolLabels source).exchangeTime estimatedClockOffsetMs clockOffsetDriftValid
          allowedClockSkewMs
      estimatedClockOffsetMs := estimatedClockOffsetMs }

/-! ### What generated rows are -/

/-- A row of labels of a sample, among events sorted by their receive times. -/
structure GeneratedRow (fromisoformat : String → Option ℚ) (references : BySource (List Json))
    (schema : TimestampSchema) (allowEventTimeFallback : Bool) (allowedClockSkewMs : ℚ)
    (receiveSorted : BySource (List Json)) (receiveTimestamps : BySource (List ℤ))
    (sample : Json) (index : ℕ) (row : TimeProtocolRow) : Prop where
  header : row.toRowHeader = rowHeader "orderbook_time_protocol_benchmark_v1" sample
    (TimeProtocol.sampleMidPrice sample) (TimeProtocol.sampleSpreadBps sample) index
  exchangeTs : row.featureExchangeTsMs = featureExchangeTsMs sample
  labels : ∀ source, ∃ receiveTime exchangeTime,
    buildReceiveTimeLabel source sample (TimeProtocol.sampleMidPrice sample)
      (receiveSorted source) (receiveTimestamps source) = .ok receiveTime ∧
    buildExchangeTimeLabel fromisoformat source sample (TimeProtocol.sampleMidPrice sample)
      ((sortedByExchangeTime (references source) source allowEventTimeFallback).map Prod.snd)
      ((sortedByExchangeTime (references source) source allowEventTimeFallback).map Prod.fst)
      (schema.sources source).exchangeTimeSupported
      (orText (schema.sources source).unsupportedReason "missing_exchange_timestamp")
      allowEventTimeFallback = .ok exchangeTime ∧
    row.protocolLabels source = protocolLabels receiveTime exchangeTime allowedClockSkewMs

/-- **Every row of labels is that of its sample.** -/
theorem forall₂_generatedRow {fromisoformat : String → Option ℚ} {cleanSamples : List Json}
    {references : BySource (List Json)} {schema : TimestampSchema}
    {allowEventTimeFallback : Bool} {allowedClockSkewMs : ℚ} {rows : List TimeProtocolRow}
    (h : generateTimeProtocolRows fromisoformat cleanSamples references schema
      allowEventTimeFallback allowedClockSkewMs = .ok rows) :
    ∃ receiveSorted receiveTimestamps,
      (BySource.build fun source => sortedByReceiveTime (references source)) =
        .ok receiveSorted ∧
      (BySource.build fun source => (receiveSorted source).mapM timestampOf) =
        .ok receiveTimestamps ∧
      List.Forall₂ (fun e row => GeneratedRow fromisoformat references schema
        allowEventTimeFallback allowedClockSkewMs receiveSorted receiveTimestamps e.1 e.2 row)
        cleanSamples.zipIdx rows := by
  simp only [generateTimeProtocolRows] at h
  rcases hsorted : BySource.build fun source => sortedByReceiveTime (references source) with e | s
  · simp [hsorted, bind, Except.bind] at h
  rcases htimes : BySource.build fun source => (s source).mapM timestampOf with e | t
  · simp [hsorted, htimes, bind, Except.bind] at h
  simp only [hsorted, htimes, bind, Except.bind] at h
  refine ⟨s, t, rfl, htimes, (forall₂_of_mapM h).imp ?_⟩
  rintro ⟨sample, index⟩ row hbuilt
  dsimp only at hbuilt
  split at hbuilt
  · cases hbuilt
  rename_i labels hlabels
  obtain rfl := Except.ok.inj hbuilt
  refine ⟨rfl, rfl, fun source => ?_⟩
  have hsource := BySource.eq_ok_of_build hlabels source
  split at hsource
  · cases hsource
  rename_i receiveTime hreceive
  split at hsource
  · cases hsource
  rename_i exchangeTime hexchange
  exact ⟨receiveTime, exchangeTime, hreceive, hexchange, (Except.ok.inj hsource).symm⟩

end SomethingTrade
