import SomethingTrade.TimeProtocols

/-!
# Leakage of the Time Protocols

The rows of labels as they are written, and the check that reads them: no feature is of a later
sample, and no valid label is of an event before its target. Each label is checked on its own
time: receive time labels by the receive times, exchange time labels by the times of the exchange.

## Representation

* Rows are written as objects; the two checks of leakage read them as such.
* The reason of a violation is the one text that its kind has.
-/

namespace SomethingTrade

/-! ### Rows as objects -/

/-- An optional index as a value. -/
def indexToJson (index : Option ℕ) : Json := Json.ofInt? (index.map Int.ofNat)

/-- An optional flag as a value. -/
def flagToJson : Option Bool → Json
  | some b => .bool b
  | none => .null

/-- The longest gap, as it is written. -/
def maxFutureGapToJson : Json := .int 100

/-- A receive time label as an object. -/
def ReceiveTimeLabel.toJson (label : ReceiveTimeLabel) : Json :=
  .obj
    [("protocol", .str label.protocol),
      ("reference_source", .str label.referenceSource.name),
      ("horizon_ms", .int label.horizonMs),
      ("target_local_recv_monotonic_ns", Json.ofInt? label.targetLocalRecvMonotonicNs),
      ("max_future_gap_ms", maxFutureGapToJson),
      ("first_reference_index_after_feature", indexToJson label.firstReferenceIndexAfterFeature),
      ("future_reference_index", indexToJson label.futureReferenceIndex),
      ("future_reference_local_recv_monotonic_ns",
        Json.ofInt? label.futureReferenceLocalRecvMonotonicNs),
      ("future_reference_event_id", label.futureReferenceEventId),
      ("future_reference_price", Json.ofFloat? label.futureReferencePrice),
      ("future_gap_ms", Json.ofFloat? label.futureGapMs),
      ("receive_future_gap_ms", Json.ofFloat? label.receiveFutureGapMs),
      ("return_bps", Json.ofFloat? label.returnBps),
      ("direction", Json.ofInt? label.direction),
      ("eligible", .bool label.eligible),
      ("valid", .bool label.valid),
      ("invalid_reason", Json.ofText? label.invalidReason)]

/-- An exchange time label as an object. -/
def ExchangeTimeLabel.toJson (label : ExchangeTimeLabel) : Json :=
  .obj
    [("protocol", .str label.protocol),
      ("reference_source", .str label.referenceSource.name),
      ("horizon_ms", .int label.horizonMs),
      ("target_exchange_ts_ms", Json.ofFloat? label.targetExchangeTsMs),
      ("feature_exchange_ts_ms", Json.ofFloat? label.featureExchangeTsMs),
      ("feature_local_recv_monotonic_ns", label.featureLocalRecvMonotonicNs),
      ("feature_receive_lag_ms", Json.ofFloat? label.featureReceiveLagMs),
      ("selection_time_basis", .str label.selectionTimeBasis),
      ("max_future_gap_ms", maxFutureGapToJson),
      ("future_reference_index", indexToJson label.futureReferenceIndex),
      ("future_reference_exchange_ts_ms", Json.ofFloat? label.futureReferenceExchangeTsMs),
      ("future_reference_local_recv_monotonic_ns", label.futureReferenceLocalRecvMonotonicNs),
      ("future_reference_event_id", label.futureReferenceEventId),
      ("future_reference_price", Json.ofFloat? label.futureReferencePrice),
      ("future_receive_lag_ms", Json.ofFloat? label.futureReceiveLagMs),
      ("exchange_future_gap_ms", Json.ofFloat? label.exchangeFutureGapMs),
      ("return_bps", Json.ofFloat? label.returnBps),
      ("direction", Json.ofInt? label.direction),
      ("eligible", .bool label.eligible),
      ("valid", .bool label.valid),
      ("invalid_reason", Json.ofText? label.invalidReason)]

/-- A hybrid label as an object. -/
def HybridLabel.toJson (label : HybridLabel) : Json :=
  .obj
    [("protocol", .str label.protocol),
      ("reference_source", .str label.referenceSource.name),
      ("horizon_ms", .int label.horizonMs),
      ("max_future_gap_ms", maxFutureGapToJson),
      ("feature_lag_budget_ms", .int label.featureLagBudgetMs),
      ("allowed_clock_skew_ms", .float label.allowedClockSkewMs),
      ("exchange_time_valid", .bool label.exchangeTimeValid),
      ("feature_receive_lag_ms", Json.ofFloat? label.featureReceiveLagMs),
      ("future_receive_lag_ms", Json.ofFloat? label.futureReceiveLagMs),
      ("future_receive_lag_is_telemetry_only", .bool label.futureReceiveLagIsTelemetryOnly),
      ("future_receive_lag_hard_gate_used", .bool label.futureReceiveLagHardGateUsed),
      ("no_cross_stream_receive_reorder", flagToJson label.noCrossStreamReceiveReorder),
      ("clock_sanity_valid", flagToJson label.clockSanityValid),
      ("eligible", .bool label.eligible),
      ("valid", .bool label.valid),
      ("invalid_reason", Json.ofText? label.invalidReason)]

/-- The key of the hybrid label of a budget. -/
def HybridBudget.key : HybridBudget → String
  | ms25 => "hybrid_25ms"
  | ms50 => "hybrid_50ms"
  | ms100 => "hybrid_100ms"
  | ms250 => "hybrid_250ms"

/-- The labels of a source as an object. -/
def ProtocolLabels.toJson (labels : ProtocolLabels) : Json :=
  .obj <|
    [("receive_time", labels.receiveTime.toJson), ("exchange_time", labels.exchangeTime.toJson)] ++
      HybridBudget.all.map fun budget => (budget.key, (labels.hybrid budget).toJson)

/-- What is written of the quality of a row. -/
def protocolQualityToJson (currentIndex : ℕ) : Json :=
  .obj
    [("input_clean_sample_valid", .bool true),
      ("feature_source_indices", .obj []),
      ("current_index", .int currentIndex),
      ("future_label_policy", .str "first_reference_event_at_or_after_target_time"),
      ("exchange_time_selection_basis", .str "exchange_ts"),
      ("receive_time_selection_basis", .str "local_recv_monotonic_ns"),
      ("future_receive_lag_hard_gate_used", .bool false),
      ("max_future_gap_policy_ms", .obj [("horizon_100ms", maxFutureGapToJson)]),
      ("hybrid_feature_lag_budgets_ms", .arr (HybridBudget.all.map fun budget => .int budget.ms))]

/-- A row as an object. -/
def TimeProtocolRow.toJson (row : TimeProtocolRow) : Json :=
  .obj
    [("schema_version", .str row.schemaVersion),
      ("symbol", row.symbol),
      ("source", row.source),
      ("generation_id", row.generationId),
      ("state_version", row.stateVersion),
      ("snapshot_version", row.snapshotVersion),
      ("last_update_id", row.lastUpdateId),
      ("local_recv_monotonic_ns", row.localRecvMonotonicNs),
      ("local_recv_wall_ts", row.localRecvWallTs),
      ("exchange_event_ts", row.exchangeEventTs),
      ("feature_exchange_ts_ms", Json.ofFloat? row.featureExchangeTsMs),
      ("feature_best_bid", Json.ofFloat? row.featureBestBid),
      ("feature_best_ask", Json.ofFloat? row.featureBestAsk),
      ("feature_mid_price", Json.ofFloat? row.featureMidPrice),
      ("feature_spread_bps", Json.ofFloat? row.featureSpreadBps),
      ("protocol_labels", .obj (ReferenceSource.all.map fun source =>
        (source.name, (row.protocolLabels source).toJson))),
      ("quality", protocolQualityToJson row.currentIndex)]

/-! ### The check -/

/-- The protocols whose labels are checked. -/
inductive CheckedProtocol
  | receiveTime
  | exchangeTime
  deriving DecidableEq

/-- The key of the label of a protocol. -/
def CheckedProtocol.key : CheckedProtocol → String
  | receiveTime => "receive_time"
  | exchangeTime => "exchange_time"

/-- A feature of a later sample, or a label of an event before its target. -/
inductive ProtocolLeakageViolation
  | feature (sampleIndex : ℕ) (feature : String) (sourceIndex : ℤ)
  | label (source : ReferenceSource) (protocol : CheckedProtocol) (sampleIndex : ℕ)
      (reason : String)

/-- Whether it is a feature. -/
def ProtocolLeakageViolation.isFeature : ProtocolLeakageViolation → Bool
  | .feature .. => true
  | .label .. => false

/-- Whether it is a label of a source. -/
def ProtocolLeakageViolation.isLabelOf (source : ReferenceSource) :
    ProtocolLeakageViolation → Bool
  | .feature .. => false
  | .label source' .. => source' = source

/-- Why a label is one of an event before its target. -/
def labelLeakageReason (label : Json) : CheckedProtocol → Option String
  | .receiveTime =>
      match (label.get "target_local_recv_monotonic_ns").asInt?,
        (label.get "future_reference_local_recv_monotonic_ns").asInt? with
      | some target, some future =>
          if future < target then some "future_reference_timestamp_before_target" else none
      | _, _ => none
  | .exchangeTime =>
      match (label.get "target_exchange_ts_ms").toFinite?,
        (label.get "future_reference_exchange_ts_ms").toFinite? with
      | some target, some future =>
          if future < target then some "future_reference_exchange_timestamp_before_target"
          else none
      | _, _ => none

/-- The features of a row that are of later samples. -/
def protocolFeatureLeaks (sampleIndex : ℕ) (row : Json) : List ProtocolLeakageViolation :=
  match ((row.get "quality").asDict.get "feature_source_indices").asDict with
  | .obj sources => sources.filterMap fun e =>
      e.2.asInt?.bind fun source =>
        if source > (sampleIndex : ℤ) then some (.feature sampleIndex e.1 source) else none
  | _ => []

/-- The valid labels of a row that are of events before their targets. -/
def protocolLabelLeaks (sampleIndex : ℕ) (row : Json) : List ProtocolLeakageViolation :=
  ReferenceSource.all.flatMap fun source =>
    [CheckedProtocol.receiveTime, .exchangeTime].filterMap fun protocol =>
      let labels := ((row.get "protocol_labels").asDict.get source.name).asDict
      let label := (labels.get protocol.key).asDict
      if (label.get "valid").isTrue then
        (labelLeakageReason label protocol).map (.label source protocol sampleIndex)
      else none

/-- The result of the check. -/
structure ProtocolLeakageCheck where
  performed : Bool := true
  passed : Bool
  featureLeakageViolations : ℕ
  labelLeakageViolations : ℕ
  labelLeakageViolationsBySource : BySource ℕ
  checkedSamples : ℕ
  checkedSources : List ReferenceSource := ReferenceSource.all
  checkedProtocols : List CheckedProtocol := [.receiveTime, .exchangeTime]
  violations : List ProtocolLeakageViolation

/-- Check rows for leakage. -/
def runPhase42dLeakageCheck (rows : List Json) : ProtocolLeakageCheck :=
  let violations := rows.zipIdx.flatMap fun e =>
    protocolFeatureLeaks e.2 e.1 ++ protocolLabelLeaks e.2 e.1
  let featureCount := violations.countP ProtocolLeakageViolation.isFeature
  let labelCount := violations.countP fun violation => !violation.isFeature
  { passed := featureCount = 0 && labelCount = 0
    featureLeakageViolations := featureCount
    labelLeakageViolations := labelCount
    labelLeakageViolationsBySource := fun source =>
      violations.countP (ProtocolLeakageViolation.isLabelOf source)
    checkedSamples := rows.length
    violations := violations }

end SomethingTrade
