import Mathlib.Order.WithBot
import SomethingTrade.LabelMetrics

/-!
# The Streaming Label Builder

The streaming path builds the labels of the time protocols without holding the events in lists.
Events go to a table; a label asks the table for the first event at or after its horizon and for
the number of events before it, by receive time or by exchange time. Samples are read once to
fill the table and once to build their labels, which the accumulators observe.

## Representation

* A table is the list of its rows in the order of the inserts. A query writes the buffered
  inserts first, so they count as written. Rows of equal keys come back in this order.
* A row stored as text is the row it is read back as.
* The files are the lists of their decoded objects.
-/

namespace SomethingTrade

/-! ### The table of events -/

/-- A row of the table of events. -/
structure StoredEvent where
  source : ReferenceSource
  localTs : Option ℤ
  exchangeTs : Option ℚ
  row : Json

/-- A receive time as a sort key: a missing one comes first. -/
def localKey (localTs : Option ℤ) : WithBot ℤ := localTs.elim ⊥ fun ts => (ts : WithBot ℤ)

/-- The table of events, in the order of the inserts. -/
structure EventStore where
  events : List StoredEvent

namespace EventStore

/-- The empty table. -/
def empty : EventStore := ⟨[]⟩

/-- Insert an event. -/
def insert (store : EventStore) (source : ReferenceSource) (row : Json) (localTs : Option ℤ)
    (exchangeTs : Option ℚ) : EventStore :=
  ⟨store.events ++ [⟨source, localTs, exchangeTs, row⟩]⟩

/-- The events of a source that have a receive time. -/
def localRows (store : EventStore) (source : ReferenceSource) : List (ℤ × Json) :=
  store.events.filterMap fun event =>
    if event.source = source then event.localTs.map fun ts => (ts, event.row) else none

/-- The events of a source that have an exchange time. -/
def exchangeRows (store : EventStore) (source : ReferenceSource) :
    List (ℚ × WithBot ℤ × Json) :=
  store.events.filterMap fun event =>
    if event.source = source then
      event.exchangeTs.map fun ts => (ts, localKey event.localTs, event.row)
    else none

/-- The first event received at or after a time. -/
def firstByLocalTs (store : EventStore) (source : ReferenceSource) (targetTs : ℤ) :
    Option (Json × ℤ) :=
  (sortBy Prod.fst ((store.localRows source).filter fun e => targetTs ≤ e.1)).head?.map fun e =>
    (e.2, e.1)

/-- The first event at or after a time of the exchange. -/
def firstByExchangeTs (store : EventStore) (source : ReferenceSource) (targetTsMs : ℚ) :
    Option (Json × ℚ) :=
  (sortBy (fun e => toLex (e.1, e.2.1))
    ((store.exchangeRows source).filter fun e => targetTsMs ≤ e.1)).head?.map fun e =>
      (e.2.2, e.1)

/-- How many events were received before a time. -/
def localBisectLeft (store : EventStore) (source : ReferenceSource) (targetTs : ℤ) : ℕ :=
  (store.localRows source).countP fun e => e.1 < targetTs

/-- How many events were received up to a time. -/
def localBisectRight (store : EventStore) (source : ReferenceSource) (targetTs : ℤ) : ℕ :=
  (store.localRows source).countP fun e => e.1 ≤ targetTs

/-- How many events are before a time of the exchange. -/
def exchangeBisectLeft (store : EventStore) (source : ReferenceSource) (targetTsMs : ℚ) : ℕ :=
  (store.exchangeRows source).countP fun e => e.1 < targetTsMs

end EventStore

/-! ### Labels -/

/-- The return between two mid prices; none counts as zero. -/
def streamingReturnBps (currentMidPrice futureMidPrice : ℚ) : ℚ :=
  if currentMidPrice ≤ 0 then 0
  else (futureMidPrice - currentMidPrice) / currentMidPrice * 10000

/-- The side of zero on which a return is. -/
def streamingDirectionLabel (returnBps : ℚ) : ℤ :=
  if returnBps > 0 then 1 else if returnBps < 0 then -1 else 0

/-- Judge a label whose event was found. -/
def judgeStreamingLabel (featureMid futureGapMs : ℚ) (futurePrice : Option ℚ) : LabelVerdict :=
  if futureGapMs < 0 then .invalid "LABEL_LEAKAGE_FUTURE_BEFORE_TARGET"
  else if futureGapMs > labelMaxFutureGapMs then .invalid "FUTURE_REFERENCE_GAP_TOO_LARGE"
  else
    match futurePrice.filter fun price => price > 0 with
    | none => .invalid "FUTURE_REFERENCE_PRICE_INVALID"
    | some price =>
        let returnBps := streamingReturnBps featureMid price
        .valid returnBps (streamingDirectionLabel returnBps)

/-- The gap between the time of an event and the horizon. -/
def receiveGapMs (futureTs targetTs : ℤ) : ℚ := ((futureTs - targetTs : ℤ) : ℚ) / nsPerMs

/-- Complete a benchmark label with its event. -/
def completeReferenceLikeLabel (base : ReferenceLabel) (featureMid : ℚ) (futureReference : Json)
    (futureTs targetTs : ℤ) (futureIndex : ℕ) : ReferenceLabel :=
  let futureGapMs := receiveGapMs futureTs targetTs
  let futurePrice := referencePrice futureReference base.referenceSource
  let found :=
    { base with
      futureReferenceIndex := some futureIndex
      futureReferenceLocalRecvMonotonicNs := some futureTs
      futureReferenceEventId := referenceEventId futureReference base.referenceSource
      futureReferencePrice := futurePrice
      futureGapMs := some futureGapMs }
  found.conclude (judgeStreamingLabel featureMid futureGapMs futurePrice)

section Labels

variable (store : EventStore)

/-- The benchmark label of a sample received at a time. -/
def streamingReferenceLabel (source : ReferenceSource) (featureTs : ℤ)
    (featureMidPrice : Option ℚ) : ReferenceLabel :=
  let targetTs := featureTs + labelHorizonMs * nsPerMs
  let base : ReferenceLabel :=
    { referenceSource := source
      targetLocalRecvMonotonicNs := some targetTs
      firstReferenceIndexAfterFeature := some (store.localBisectRight source featureTs) }
  match featureMidPrice.filter fun mid => mid > 0 with
  | none => base.conclude (.invalid "CURRENT_MID_INVALID")
  | some featureMid =>
      match store.firstByLocalTs source targetTs with
      | none => base.conclude (.invalid "NO_FUTURE_REFERENCE")
      | some (futureReference, futureTs) =>
          completeReferenceLikeLabel base featureMid futureReference futureTs targetTs
            (store.localBisectLeft source targetTs)

/-- The benchmark label of a sample. -/
def buildStreamingReferenceLabel (source : ReferenceSource) (featureSample : Json)
    (featureMidPrice : Option ℚ) : Except String ReferenceLabel :=
  match (featureSample.get "local_recv_monotonic_ns").asInt? with
  | none => buildReferenceLabel source featureSample featureMidPrice [] []
  | some featureTs => .ok (streamingReferenceLabel store source featureTs featureMidPrice)

/-- The receive time label of a sample. The completion of benchmark labels also sets the gap of
the protocol and marks the label as eligible. -/
def buildStreamingReceiveTimeLabel (source : ReferenceSource) (featureSample : Json)
    (featureMidPrice : Option ℚ) : ReceiveTimeLabel :=
  let featureTs := (featureSample.get "local_recv_monotonic_ns").asInt?
  let base : ReceiveTimeLabel :=
    { referenceSource := source
      targetLocalRecvMonotonicNs := featureTs.map fun ts => ts + labelHorizonMs * nsPerMs
      firstReferenceIndexAfterFeature := featureTs.map fun ts =>
        store.localBisectRight source ts }
  match featureTs with
  | none => base.conclude (.invalid "FEATURE_TIMESTAMP_INVALID")
  | some featureTs =>
      let targetTs := featureTs + labelHorizonMs * nsPerMs
      match featureMidPrice.filter fun mid => mid > 0 with
      | none => base.conclude (.invalid "CURRENT_MID_INVALID")
      | some featureMid =>
          match store.firstByLocalTs source targetTs with
          | none => base.conclude (.invalid "NO_FUTURE_REFERENCE")
          | some (futureReference, futureTs) =>
              { base with
                toReferenceLabel := completeReferenceLikeLabel base.toReferenceLabel featureMid
                  futureReference futureTs targetTs (store.localBisectLeft source targetTs)
                receiveFutureGapMs := some (receiveGapMs futureTs targetTs)
                eligible := true }

/-- The exchange time label of a sample. -/
def buildStreamingExchangeTimeLabel (fromisoformat : String → Option ℚ)
    (source : ReferenceSource) (featureSample : Json) (featureMidPrice : Option ℚ)
    (exchangeTimeSupported : Bool) (unsupportedReason : String) : ExchangeTimeLabel :=
  let base := exchangeLabelBase fromisoformat source featureSample
  if !exchangeTimeSupported then base.conclude (.invalid unsupportedReason)
  else
    match base.targetExchangeTsMs with
    | none => base.conclude (.invalid "FEATURE_EXCHANGE_TIMESTAMP_MISSING")
    | some targetExchangeMs =>
        match featureMidPrice.filter fun mid => mid > 0 with
        | none => base.conclude (.invalid "CURRENT_MID_INVALID")
        | some featureMid =>
            match store.firstByExchangeTs source targetExchangeMs with
            | none => base.conclude (.invalid "NO_FUTURE_REFERENCE")
            | some (futureReference, futureExchangeMs) =>
                let futureGapMs := futureExchangeMs - targetExchangeMs
                let found := base.found fromisoformat futureReference
                  (store.exchangeBisectLeft source targetExchangeMs) futureExchangeMs futureGapMs
                found.conclude
                  (judgeStreamingLabel featureMid futureGapMs found.futureReferencePrice)

end Labels

/-! ### Rows -/

/-- The rows of labels of a sample. -/
structure StreamingRows where
  receiveRow : BenchmarkRow
  timeRow : TimeProtocolRow
  correctedRow : CorrectedRow

/-- Build the rows of labels of a sample. -/
def buildStreamingLabelRows (fromisoformat : String → Option ℚ) (sample : Json)
    (sampleIndex : ℕ) (store : EventStore) (schema : TimestampSchema)
    (estimatedClockOffsetMs : Option ℚ) (clockOffsetDriftValid : Bool) :
    Except String StreamingRows := do
  let featureMid := ReferenceFeed.sampleMidPrice sample
  let featureSpread := ReferenceFeed.sampleSpreadBps sample
  let receiveReferenceLabels ← BySource.build fun source =>
    buildStreamingReferenceLabel store source sample featureMid
  let labels : BySource ProtocolLabels := fun source =>
    protocolLabels (buildStreamingReceiveTimeLabel store source sample featureMid)
      (buildStreamingExchangeTimeLabel store fromisoformat source sample featureMid
        (schema.sources source).exchangeTimeSupported
        (orText (schema.sources source).unsupportedReason "missing_exchange_timestamp"))
      allowedClockSkewMs
  let timeRow : TimeProtocolRow :=
    { toRowHeader := rowHeader "orderbook_time_protocol_benchmark_v1" sample featureMid
        featureSpread sampleIndex
      featureExchangeTsMs := SomethingTrade.featureExchangeTsMs sample
      protocolLabels := labels }
  return {
    receiveRow :=
      { toRowHeader := rowHeader "orderbook_reference_benchmark_v1" sample featureMid
          featureSpread sampleIndex
        referenceLabels := receiveReferenceLabels }
    timeRow := timeRow
    correctedRow :=
      { timeRow with
        schemaVersion := "phase_4_2h_corrected_time_protocol_v1"
        correctedProtocolLabels := fun source =>
          correctedLabels (labels source).receiveTime (labels source).exchangeTime
            estimatedClockOffsetMs clockOffsetDriftValid allowedClockSkewMs
        estimatedClockOffsetMs := estimatedClockOffsetMs } }

/-! ### Filling the table -/

/-- What is counted of the events of a source. -/
structure SourceIngestStats where
  validReferenceEventCount : ℕ
  exchangeTs : ℕ × Dict String ℕ
  previousLocalTs : Option ℤ

/-- Nothing counted yet. -/
def SourceIngestStats.zero : SourceIngestStats := ⟨0, (0, .empty), none⟩

/-- The gap of an event to the one before it, unless the times are out of order. -/
def referenceGapMs (previousLocalTs localTs : Option ℤ) : Option ℚ :=
  (previousLocalTs.bind fun previous =>
    localTs.map fun ts => receiveGapMs ts previous).filter fun gap => gap ≥ 0

/-- Count an event. -/
def SourceIngestStats.record (stats : SourceIngestStats) (row : Json)
    (source : ReferenceSource) : SourceIngestStats :=
  let localTs := (row.get "local_recv_monotonic_ns").toInt?
  { validReferenceEventCount := stats.validReferenceEventCount + 1
    exchangeTs := countExchangeTs stats.exchangeTs (sourceExchangeTsMs row source true)
    previousLocalTs := localTs.or stats.previousLocalTs }

/-- The tables and what was counted of the source that is read. -/
structure SourceIngest where
  stats : SourceIngestStats
  store : EventStore
  series : SeriesStore

/-- Count an event and insert it with its times. -/
def SourceIngest.ingest (state : SourceIngest) (source : ReferenceSource) (row : Json)
    (exchangeTs : Option ℚ) : SourceIngest :=
  let localTs := (row.get "local_recv_monotonic_ns").toInt?
  { stats := state.stats.record row source
    series := state.series.add source.gapMetric
      (referenceGapMs state.stats.previousLocalTs localTs)
    store := state.store.insert source row localTs exchangeTs }

/-- Read an event of a reference file. -/
def ingestReferenceEvent (source : ReferenceSource) (state : SourceIngest) (row : Json) :
    Except String SourceIngest := do
  let errors ← validateReferenceEventSchema row source
  if errors = [] then
    return state.ingest source row
      ((sourceExchangeTsMs row source true).map fun selected => selected.2)
  else return state

/-- Read a reference file. -/
def ingestReferenceFile (source : ReferenceSource) (store : EventStore) (series : SeriesStore)
    (rows : List Json) : Except String SourceIngest :=
  rows.foldlM (ingestReferenceEvent source) ⟨.zero, store, series⟩

/-- What was counted of the clean samples, and their depth events. -/
structure CleanIngest where
  validCleanSampleCount : ℕ
  featureRowsWithExchangeTs : ℕ
  depth : SourceIngest

/-- Read a sample. -/
def ingestCleanSample (state : CleanIngest) (row : Json) : CleanIngest :=
  if cleanSampleErrors row = [] then
    let event := depthReferenceEvent row state.depth.stats.validReferenceEventCount
    { validCleanSampleCount := state.validCleanSampleCount + 1
      featureRowsWithExchangeTs :=
        if (featureExchangeTsMs row).isSome then state.featureRowsWithExchangeTs + 1
        else state.featureRowsWithExchangeTs
      depth := state.depth.ingest .depthMid event (featureExchangeTsMs event) }
  else state

/-- Read the file of the clean samples. -/
def ingestCleanSamples (rows : List Json) : CleanIngest :=
  rows.foldl ingestCleanSample ⟨0, 0, ⟨.zero, .empty, .empty⟩⟩

/-- The schema of the samples and events that were read. -/
def buildStreamingTimestampSchema (clean : CleanIngest) (stats : BySource SourceIngestStats) :
    TimestampSchema :=
  timestampSchema clean.featureRowsWithExchangeTs clean.validCleanSampleCount fun source =>
    sourceSchema source (clean.featureRowsWithExchangeTs > 0) (stats source).exchangeTs.1
      (stats source).validReferenceEventCount (stats source).exchangeTs.2 true

/-! ### The run -/

/-- The rows written and what the accumulators observed. -/
structure WrittenLabels where
  rows : List StreamingRows
  observations : LabelObservations

/-- The labels of a source in the rows of a sample. -/
def StreamingRows.labels (rows : StreamingRows) : BySource SourceLabels := fun source =>
  ⟨rows.timeRow.protocolLabels source, rows.correctedRow.correctedProtocolLabels source⟩

/-- Write the labels of a sample; the index is the number of rows written. -/
def writeStreamingLabel (build : Json → ℕ → Except String StreamingRows)
    (written : WrittenLabels) (sample : Json) : Except String WrittenLabels := do
  if cleanSampleErrors sample = [] then
    let rows ← build sample written.rows.length
    return ⟨written.rows ++ [rows], written.observations.observe rows.labels⟩
  else return written

/-- What a run of the streaming path leaves. -/
structure StreamingRun where
  timestampSchema : TimestampSchema
  written : WrittenLabels

/-- The three files of reference events. -/
structure ReferenceFiles where
  bookTicker : List Json
  trade : List Json
  aggTrade : List Json

/-- Run the streaming path on the files. -/
def runStreamingFinalization (fromisoformat : String → Option ℚ) (cleanSamples : List Json)
    (files : ReferenceFiles) (estimatedClockOffsetMs : Option ℚ) (clockOffsetDriftValid : Bool) :
    Except String StreamingRun := do
  let clean := ingestCleanSamples cleanSamples
  let bookTicker ← ingestReferenceFile .bookTickerMid clean.depth.store clean.depth.series
    files.bookTicker
  let trade ← ingestReferenceFile .tradePrice bookTicker.store bookTicker.series files.trade
  let aggTrade ← ingestReferenceFile .aggTradePrice trade.store trade.series files.aggTrade
  let schema := buildStreamingTimestampSchema clean fun
    | .depthMid => clean.depth.stats
    | .bookTickerMid => bookTicker.stats
    | .tradePrice => trade.stats
    | .aggTradePrice => aggTrade.stats
  let written ← cleanSamples.foldlM
    (writeStreamingLabel fun sample index =>
      buildStreamingLabelRows fromisoformat sample index aggTrade.store schema
        estimatedClockOffsetMs clockOffsetDriftValid)
    ⟨[], .start aggTrade.series⟩
  return ⟨schema, written⟩

end SomethingTrade
