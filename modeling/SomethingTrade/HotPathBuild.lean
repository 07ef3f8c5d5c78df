import SomethingTrade.HotPathReports

/-!
# Building the Report of the Hot Path

The report of the hot path is built of what a capture left: the reports of the sources, of the
queue, the writer and the clock, and the runtime report. The readiness is computed from these and
written into the report, which is then evaluated, and the evaluation judges the readiness once more
by checks of its own.

## Representation

* The telemetry of the memory is given, as the process is not modelled.
* No report has a number that is not finite, so a capture does not last forever.

## Main results

* `buildPhase42hReport`: the report that is built.
-/

namespace SomethingTrade

/-! ### Summaries of the sources -/

/-- The values of an object. -/
def fieldValues : Json → List Json
  | .obj fields => fields.map Prod.snd
  | _ => []

/-- The entries of an object. -/
def fieldEntries : Json → List (String × Json)
  | .obj fields => fields
  | _ => []

/-- The rate of the valid labels among some rows. -/
def metricsValidRate (metrics : Json) : ℚ := (metrics.asDict.get "valid_rate_eligible_rows").num

/-- The rates of the budgets of a protocol. -/
def budgetRates (protocol : Json) : Json :=
  .obj ((fieldEntries protocol.asDict).map fun entry =>
    (entry.1, .float (metricsValidRate entry.2)))

/-- The sources that have the times of the exchange. -/
def supportedSources (sources : List (String × Json)) : List (String × Json) :=
  sources.filter fun entry => (entry.2.get "exchange_time_supported").isTrue

/-- The names of the sources that have the times of the exchange, or do not. -/
def sourceNames (supported : Bool) (sources : List (String × Json)) : Json :=
  .arr ((sortBy id ((sources.filter fun entry =>
    (entry.2.get "exchange_time_supported").isTrue = supported).map Prod.fst)).map .str)

/-- A status. -/
def statusOf (passes : Bool) : Json := .str (if passes then "pass" else "fail")

/-- Summarize the protocols of the sources. -/
def buildProtocolSummary (sources : List (String × Json)) : Json :=
  let supported := supportedSources sources
  let hybridPasses := supported.any fun entry =>
    (fieldValues (entry.2.get "hybrid").asDict).any fun metrics =>
      metricsValidRate metrics ≥ required100msValidRate
  let rates (protocol : String) (entry : String × Json) : String × Json :=
    (entry.1, .float (metricsValidRate (entry.2.get protocol)))
  .obj
    [("receive_time_coverage_status", statusOf (sources.any fun entry =>
        metricsValidRate (entry.2.get "receive_time") ≥ required100msValidRate)),
      ("exchange_time_coverage_status", statusOf (supported.any fun entry =>
        metricsValidRate (entry.2.get "exchange_time") ≥ required100msValidRate)),
      ("hybrid_low_latency_status", statusOf hybridPasses),
      ("receive_time_valid_rates", .obj (sources.map (rates "receive_time"))),
      ("exchange_time_valid_rates", .obj (supported.map (rates "exchange_time"))),
      ("hybrid_valid_rates",
        .obj (supported.map fun entry => (entry.1, budgetRates (entry.2.get "hybrid")))),
      ("supported_exchange_time_sources", sourceNames true sources),
      ("unsupported_exchange_time_sources", sourceNames false sources)]

/-- What the summary of the protocols is made of: the corrected hybrid protocol is the hybrid
one. -/
def protocolSource (entry : String × Json) : String × Json :=
  (entry.1, .obj
    [("exchange_time_supported", entry.2.get "exchange_time_supported"),
      ("receive_time", entry.2.get "receive_time"),
      ("exchange_time", entry.2.get "exchange_time"),
      ("hybrid", entry.2.get "corrected_hybrid")])

/-- Summarize the corrected hybrid protocol of the sources. -/
def buildCorrectedHybridSummary (sources : List (String × Json)) : Json :=
  .obj
    [("corrected_hybrid_valid_rates", .obj ((supportedSources sources).map fun entry =>
        (entry.1, budgetRates (entry.2.get "corrected_hybrid")))),
      ("supported_exchange_time_sources", sourceNames true sources),
      ("unsupported_exchange_time_sources", sourceNames false sources)]

/-- Compare the lags of the sources with the corrected ones. -/
def buildReceiveLagRawVsCorrected (sources : List (String × Json)) : Json :=
  .obj (sources.map fun entry => (entry.1, .obj
    [("raw_receive_lag", (entry.2.get "raw_receive_lag").asDict),
      ("corrected_receive_lag", (entry.2.get "corrected_receive_lag").asDict),
      ("clock_offset_explains_raw_lag", entry.2.get "clock_offset_explains_raw_lag")]))

/-- Whether a budget of the corrected hybrid protocol has the required rate. -/
def anyCorrectedHybridPasses (sources : List (String × Json)) : Bool :=
  sources.any fun entry =>
    (fieldValues (entry.2.get "corrected_hybrid").asDict).any fun metrics =>
      metricsValidRate metrics ≥ required100msValidRate

/-! ### The warnings -/

/-- Whether the socket was not seen. -/
def socketRecvMonotonicUnavailable (latencyProfile : Json) : Bool :=
  let stage := ((latencyProfile.get "stage_availability").asDict.get
    "socket_recv_monotonic_ns").asDict
  (latencyProfile.get "socket_recv_monotonic_ns").isText "stage_not_available" ||
    ((latencyProfile.get "unavailable_stages").asDict.get "socket_recv_monotonic_ns").isText
      "stage_not_available" ||
    (stage.truthy && (stage.get "available_count").count ≤ 0)

/-- The warnings about the lags of a source. -/
def lagWarnings (entry : String × Json) : List String :=
  textWhen ((featureLagP95Ms entry.2).any (· > strictLagP95Ms))
    (entry.1 ++ "_corrected_feature_receive_lag_p95_gt_100ms") ++
  textWhen ((featureLagP99Ms entry.2).any (· > strictLagP99Ms))
    (entry.1 ++ "_corrected_feature_receive_lag_p99_gt_200ms")

/-- The warnings about the readiness. -/
def readinessWarnings (semantics : ReadinessSemantics)
    (clockOffsetSummary latencyProfile queueReport writerReport : Json)
    (sources : List (String × Json)) : Except String (List String) := do
  let queueWarnings ← listedTruthy queueReport "warnings"
  return textWhen semantics.relaxed250msObservabilityCandidate
      "corrected_hybrid_250ms_passes_but_100ms_fails" ++
    textWhen ((clockOffsetSummary.get "server_time_rtt_p95_ms").num > serverTimeRttWarningMs)
      "server_time_rtt_p95_elevated" ++
    textWhen (socketRecvMonotonicUnavailable latencyProfile)
      "socket_recv_monotonic_ns_unavailable" ++
    queueWarnings ++
    textWhen ((writerReport.get "writer_flush_p95_ms").num > writerFlushWarningMs)
      "writer_flush_p95_gt_50ms" ++
    sources.flatMap lagWarnings ++
    textWhen (!(((Json.obj sources).get "bookTicker_mid").asDict.get
        "exchange_time_supported").isTrue)
      "bookTicker_mid_missing_exchange_timestamp"

/-! ### The readiness in the report -/

/-- The source that is selected, in the report. The summary of the clock is only there if it was
given. -/
def StrictCandidate.toJson (candidate : StrictCandidate) : Json :=
  .obj <|
    [("source", .str candidate.source),
      ("protocol", .str candidate.protocol),
      ("budget_ms", .int candidate.budgetMs),
      ("exchange_time_valid_rate", .float candidate.exchangeTimeValidRate),
      ("corrected_hybrid_valid_rate", .float candidate.correctedHybridValidRate),
      ("corrected_feature_receive_lag_p95_ms", .ofFloat? candidate.correctedFeatureReceiveLagP95Ms),
      ("corrected_feature_receive_lag_p99_ms",
        .ofFloat? candidate.correctedFeatureReceiveLagP99Ms)] ++
    candidate.clockOffsetSummary.toList.map fun summary => ("clock_offset_summary", summary)

/-- The readiness, in the report. -/
def ReadinessSemantics.fields (semantics : ReadinessSemantics) : List (String × Json) :=
  [("market_time_label_ready", .bool semantics.marketTimeLabelReady),
    ("phase41_runtime_ready", (semantics.phase41RuntimeReady.map Json.bool).getD .null),
    ("strict_100ms_observability_ready", .bool semantics.strict100msObservabilityReady),
    ("relaxed_250ms_observability_candidate", .bool semantics.relaxed250msObservabilityCandidate),
    ("low_latency_ready", .bool semantics.lowLatencyReady),
    ("phase5_ready", .bool semantics.phase5Ready),
    ("selected_protocol_candidate",
      (semantics.selectedProtocolCandidate.map StrictCandidate.toJson).getD .null),
    ("selected_operational_budget_ms",
      .ofInt? (semantics.selectedOperationalBudgetMs.map Int.ofNat)),
    ("readiness_decision_reason", .str semantics.readinessDecisionReason)]

/-! ### The report -/

/-- What the report of the hot path is built of. -/
structure HotPathInputs where
  symbol : String
  cleanSamples : List Json
  sources : List (String × Json)
  timestampSchema : Json
  leakageResult : Json
  clockOffsetSamples : List Json
  clockOffsetSummary : Json
  clockSanity : Json
  latencyProfile : Json
  queueReport : Json
  writerReport : Json
  phase41Report : Json
  capture : Json
  cleanupReport : Json
  gitignoreValidation : Json
  environment : Json
  pytestPassed : Bool
  typecheckPassed : Bool
  typecheckSummary : String
  freshCaptureRequired : Bool
  labeledSampleCount : ℤ
  cleanSampleCount : Option ℤ := none
  preflightReport : Json := .null
  phase41RuntimeReportSource : Json := .null
  memoryTelemetry : Json

/-- The times and durations of the stages of a capture. -/
def phase42hStageTimingFromMapping (payload : Json) : List (String × Json) :=
  let nested := (payload.get "stage_timing").asDict
  let combined (field : String) : Json := ((payload.get? field).or (nested.get? field)).getD .null
  phase42hStageTimes.map (fun field => (field, combined field)) ++
    phase42hStageDurations.map fun field => (field, .ofFloat? (combined field).toFinite?)

/-- The files with the datasets. -/
def hotPathDatasetPaths : Json :=
  .obj
    [("clean_samples", .str "data/dataset/orderbook_clean_samples.jsonl"),
      ("bookticker_reference_quotes", .str "data/dataset/bookticker_reference_quotes.jsonl"),
      ("trade_reference_events", .str "data/dataset/trade_reference_events.jsonl"),
      ("aggtrade_reference_events", .str "data/dataset/aggtrade_reference_events.jsonl"),
      ("receive_time_reference_labels",
        .str "data/dataset/orderbook_reference_benchmark_labels.jsonl"),
      ("time_protocol_labels", .str "data/dataset/orderbook_time_protocol_benchmark_labels.jsonl"),
      ("corrected_time_protocol_labels",
        .str "data/dataset/phase_4_2h_corrected_time_protocol_labels.jsonl"),
      ("latency_profile_samples", .str latencyProfileSamples),
      ("latency_profile_datasets_zip",
        .str "data/dataset/phase_4_2h_latency_profile_datasets.zip")]

/-- The runtime report that was given as it is. -/
def directPhase41Source : Json :=
  .obj
    [("source", .str "direct_argument"),
      ("path", .str "data/reports/phase_4_1_orderbook_quality_report.json"),
      ("fresh", .null),
      ("artifact_loaded", .bool false)]

/-- `float(value)`. -/
def floatOf (value : Json) : Except String ℚ :=
  match value.toFinite? with
  | some q => .ok q
  | none => .error "ValueError"

namespace HotPathInputs

variable (inputs : HotPathInputs)

/-- What the readiness is decided on. -/
def readinessReports : ReadinessReports where
  sources := inputs.sources
  leakageResult := inputs.leakageResult
  clockSanityReport := inputs.clockSanity
  queueReport := inputs.queueReport
  writerReport := inputs.writerReport
  phase41Report := inputs.phase41Report
  clockOffsetSummary := inputs.clockOffsetSummary

/-- How ready the labels are. -/
def semantics : ReadinessSemantics := HotPath.computeReadinessSemantics inputs.readinessReports

/-- How the report came about, where the capture does not say. -/
def evaluationMode : String :=
  ((inputs.capture.get "evaluation_mode").orElse (.str
    (if inputs.freshCaptureRequired then "fresh_capture"
    else if (inputs.capture.get "fixture_mode").truthy then "fixture"
    else "manual_existing_artifacts"))).text

/-- What the report says before the readiness. -/
def statusFields (latencyProfileValidation : Json) : List (String × Json) :=
  let protocolSummary := buildProtocolSummary (inputs.sources.map protocolSource)
  [("phase", .str "4.2H"),
    ("evaluation_mode", .str inputs.evaluationMode),
    ("status", .str "pass"),
    ("implementation_status", .str "pass"),
    ("fresh_capture_status", .str "pass"),
    ("clock_sync_status", statusOf (inputs.clockSanity.get "clock_sanity_valid").isTrue),
    ("readiness_semantics_status", .str "pass"),
    ("latency_profile_status", statusOf (latencyProfileValidation.get "valid").isTrue),
    ("hot_path_decoupling_status",
      statusOf (hotPathDecouplingComplete inputs.latencyProfile inputs.queueReport)),
    ("writer_status", statusOf inputs.readinessReports.writerOk),
    ("strict_100ms_observability_status",
      statusOf inputs.semantics.strict100msObservabilityReady),
    ("protocol_decision_status", .str "pass"),
    ("receive_time_coverage_status", protocolSummary.get "receive_time_coverage_status"),
    ("exchange_time_coverage_status", protocolSummary.get "exchange_time_coverage_status"),
    ("corrected_hybrid_status", statusOf (anyCorrectedHybridPasses inputs.sources)),
    ("primary_failure", .null),
    ("failure_classifications", .arr [])]

/-- What the report says about the capture. -/
def captureFields (durationSec : ℚ) : List (String × Json) :=
  [("symbol", .str (upper inputs.symbol)), ("duration_sec", .float durationSec)] ++
  phase42hStageTimingFromMapping inputs.capture ++
  [("fresh_capture_performed", .bool (inputs.capture.get "fresh_capture_performed").truthy),
    ("fixture_mode", .bool (inputs.capture.get "fixture_mode").truthy),
    ("skip_capture", .bool (inputs.capture.get "skip_capture").truthy),
    ("max_future_gap_ms", .int 100),
    ("horizon_ms", .int 100),
    ("websocket_time_unit", .str "MILLISECOND"),
    ("future_receive_lag_hard_gate_used", .bool false),
    ("fresh_capture_required", .bool inputs.freshCaptureRequired),
    ("capture", inputs.capture)]

/-- What the report is based on. -/
def evidenceFields (latencyProfileValidation : Json) (warnings : List String) :
    List (String × Json) :=
  [("environment", inputs.environment),
    ("cleanup_report", inputs.cleanupReport.orElse (.obj [])),
    ("gitignore_validation", inputs.gitignoreValidation),
    ("pytest_passed", .bool inputs.pytestPassed),
    ("typecheck_passed", .bool inputs.typecheckPassed),
    ("typecheck_summary", .str inputs.typecheckSummary),
    ("preflight_report", inputs.preflightReport.orElse
      (.obj [("performed", .bool false), ("passed", .bool true), ("skipped", .bool true)])),
    ("timestamp_schema", inputs.timestampSchema),
    ("clock_offset_samples", .arr inputs.clockOffsetSamples),
    ("clock_offset_summary", inputs.clockOffsetSummary),
    ("clock_sanity_report", inputs.clockSanity),
    ("leakage_check", inputs.leakageResult),
    ("protocol_summary", buildProtocolSummary (inputs.sources.map protocolSource)),
    ("corrected_hybrid_summary", buildCorrectedHybridSummary inputs.sources),
    ("receive_lag_summary", buildReceiveLagRawVsCorrected inputs.sources),
    ("latency_profile_validation", latencyProfileValidation),
    ("hot_path_latency_summary", inputs.latencyProfile),
    ("queue_backpressure_summary", inputs.queueReport),
    ("writer_batch_report", inputs.writerReport),
    ("phase41_runtime_report", inputs.phase41Report),
    ("phase41_runtime_report_source",
      inputs.phase41RuntimeReportSource.orElse directPhase41Source),
    ("phase41_runtime_report_status", .str (phase41RuntimeReportStatus inputs.phase41Report)),
    ("phase41_runtime_report_failure_reasons",
      .arr ((phase41RuntimeFailureReasons inputs.phase41Report).map .str)),
    ("phase41_runtime_report_gating", .str "hard_fail_when_current_capture_phase41_fails"),
    ("dataset_paths", hotPathDatasetPaths),
    ("clean_sample_count", .int (inputs.cleanSampleCount.getD inputs.cleanSamples.length)),
    ("labeled_sample_count", .int inputs.labeledSampleCount),
    ("sources", .obj inputs.sources),
    ("memory_telemetry", inputs.memoryTelemetry),
    ("hard_fail_reasons", .arr []),
    ("warning_reasons", .arr ((sortedSet warnings).map .str))]

/-- The report before it is evaluated. -/
def report (latencyProfileValidation : Json) (durationSec : ℚ) (warnings : List String) : Json :=
  .obj (inputs.statusFields latencyProfileValidation ++ inputs.semantics.fields ++
    inputs.captureFields durationSec ++ inputs.evidenceFields latencyProfileValidation warnings)

end HotPathInputs

/-- Build the report of the hot path. -/
def buildPhase42hReport (identical : Json → Json → Bool) (inputs : HotPathInputs) :
    Except String Json := do
  let warnings ← readinessWarnings inputs.semantics inputs.clockOffsetSummary
    inputs.latencyProfile inputs.queueReport inputs.writerReport inputs.sources
  let latencyProfileValidation ← validatePhase42hLatencyProfileSummary inputs.latencyProfile
  let durationSec ← floatOf ((inputs.capture.getD "duration_sec" (.float 0)).orElse (.float 0))
  evaluatePhase42hReport identical (inputs.report latencyProfileValidation durationSec warnings)

end SomethingTrade
