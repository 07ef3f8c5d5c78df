import SomethingTrade.ProtocolReports
import SomethingTrade.ClockOffset

/-!
# Reports of the Receive Lag

The report of the corrected receive lag and the report of the readiness for low latency. Both
judge the clock offset and the corrected hybrid protocol of each source; the second starts its
statuses from what the report says, and the first starts that of the implementation anew.

## Main results

* `evaluatePhase42eReport`, `evaluatePhase42fgReport`: the evaluations.
-/

namespace SomethingTrade

/-! ### Checks of both reports -/

/-- What is found about the artifacts of an earlier run. -/
def cleanupFindings (report : Json) : List Finding :=
  let cleanup := (report.get "cleanup_report").asDict
  findWhen ((report.get "fresh_capture_required").isTrue &&
      !(cleanup.get "cleanup_performed").isTrue)
    (implementationFailure "artifact cleanup was not performed" "ARTIFACT_CLEANUP_FAILURE") ++
  findWhen (cleanup.get "errors").truthy
    (implementationFailure "artifact cleanup failed" "ARTIFACT_CLEANUP_FAILURE")

/-- What is found about the offset of the clock. Without enough samples, it is not judged. -/
def clockOffsetFindings (clockSummary : Json) : List Finding :=
  if (clockSummary.get "clock_offset_sample_quality_valid").isTrue then
    findWhen (clockSummary.get "estimated_clock_offset_ms").isNull
      (generalFailure "clock offset was not computed" "CLOCK_SYNC_FAILURE") ++
    if (clockSummary.get "offset_drift_ms").isNull then
      [generalFailure "clock offset drift was not computed" "CLOCK_SYNC_FAILURE"]
    else
      findWhen (!(clockSummary.get "clock_offset_drift_valid").isTrue)
        (generalFailure "clock offset drift exceeded threshold" "CLOCK_OFFSET_DRIFT_FAILURE")
  else
    [generalFailure ("too few low-RTT Binance server-time samples accepted for clock offset: " ++
        (clockSummary.get "accepted_clock_sample_count").text ++ " < " ++
        (clockSummary.get "min_accepted_clock_sample_count").text)
      "CLOCK_OFFSET_SAMPLE_QUALITY_FAILURE"]

/-- The name of a budget of the corrected hybrid protocol. -/
def correctedBudgetKey (budgetMs : ℕ) : String :=
  "corrected_hybrid_" ++ toString budgetMs ++ "ms"

/-- The classifications of a capture that was not as required. -/
def freshClassifications : List String :=
  ["FRESH_CAPTURE_NOT_PERFORMED", "FRESH_CAPTURE_DURATION_FAILURE"]

/-- The classifications that fail the status of the clock. -/
def clockClassifications42e : List String :=
  ["CLOCK_SYNC_FAILURE", "CLOCK_OFFSET_SAMPLE_QUALITY_FAILURE", "CLOCK_OFFSET_DRIFT_FAILURE",
    "SERVER_TIME_RTT_FAILURE", "CORRECTED_LAG_CLOCK_SANITY_FAILURE"]

/-! ### The report of the corrected receive lag -/

/-- The schema of the report of the corrected receive lag; the required fields are sorted. -/
def phase42eSchema : ReportSchema where
  required :=
    ["clock_offset_summary", "clock_sync_status", "corrected_hybrid_status", "duration_sec",
      "exchange_time_coverage_status", "failure_classifications", "fresh_capture_status",
      "hard_fail_reasons", "implementation_status", "low_latency_ready", "max_future_gap_ms",
      "phase", "primary_failure", "protocol_decision_status", "selected_protocol_candidate",
      "sources", "status", "symbol", "warning_reasons"]
  statuses :=
    ["implementation_status", "fresh_capture_status", "clock_sync_status",
      "exchange_time_coverage_status", "corrected_hybrid_status", "protocol_decision_status"]
  others report :=
    (if isRequiredGap (report.get "max_future_gap_ms") then []
      else ["max_future_gap_ms must be 100"]) ++
    sourceErrors ["receive_time", "exchange_time", "raw_receive_lag", "corrected_receive_lag",
      "corrected_hybrid"] (report.get "sources") ++
    (if mentionsPhase5 report then ["Phase 5 readiness flag is forbidden in Phase 4.2E"] else [])

/-- Validate the report of the corrected receive lag. -/
def validatePhase42eReportSchema (report : Json) : Except String (List String) :=
  phase42eSchema.validate report

/-- What is found about the policy of the corrected receive lag. -/
def policyFindings42e (report : Json) : List Finding :=
  findWhen (!isRequiredGap (report.get "max_future_gap_ms"))
    (implementationFailure "max_future_gap_ms was relaxed" "HORIZON_100MS_POLICY_RELAXED") ++
  findWhen (!(report.get "future_receive_lag_hard_gate_used").isFalse)
    (implementationFailure "future_receive_lag_ms used as a hard gate" "CORRECTED_HYBRID_FAILURE")

/-- What is found about the clock. -/
def clockFindings42e (report : Json) : List Finding :=
  let clockSummary := (report.get "clock_offset_summary").asDict
  let clockSanity := (report.get "clock_sanity_report").asDict
  findWhen ((clockSummary.get "before_sample_count").num ≤ 0 ||
      (clockSummary.get "after_sample_count").num ≤ 0)
    (generalFailure "Binance server time before/after samples missing" "CLOCK_SYNC_FAILURE") ++
  clockOffsetFindings clockSummary ++
  findWhen (!(clockSummary.get "server_time_rtt_valid").isTrue)
    (generalFailure "server-time RTT p95 exceeded hard threshold" "SERVER_TIME_RTT_FAILURE") ++
  findWhen (!(clockSanity.get "performed").isTrue)
    (implementationFailure "clock sanity report missing" "CLOCK_SYNC_FAILURE") ++
  findWhen (!(clockSanity.get "corrected_lag_sanity_valid").isTrue)
    (generalFailure "corrected feature receive lag has too many negative values beyond skew"
      "CORRECTED_LAG_CLOCK_SANITY_FAILURE")

/-- What is found about a budget of the corrected hybrid protocol. -/
def hybridFindings42e (source : ReferenceSource) (correctedHybrid : Json) (budgetMs : ℕ) :
    Except String (List Finding) := do
  let key := correctedBudgetKey budgetMs
  let metrics := (correctedHybrid.get key).asDict
  let gap ← statedGap metrics
  return findWhen (!metrics.truthy)
      (implementationFailure (source.name ++ " " ++ key ++ " missing")
        "CORRECTED_HYBRID_MISSING") ++
    findWhen (!(metrics.get "future_receive_lag_hard_gate_used").isFalse)
      (implementationFailure
        (source.name ++ " " ++ key ++ " used future_receive_lag_ms as hard gate")
        "CORRECTED_HYBRID_FAILURE") ++
    findWhen ((gap : ℚ) ≠ labelMaxFutureGapMs)
      (implementationFailure (source.name ++ " " ++ key ++ " max_future_gap_ms != 100")
        "HORIZON_100MS_POLICY_RELAXED")

/-- What is found about a source. -/
def sourceFindings42e (sources : Json) (source : ReferenceSource) :
    Except String (List Finding) := do
  let sourceReport := (sources.get source.name).asDict
  let fakeBookticker ← fakeBooktickerTime source sourceReport
  let hybrid ← hybridBudgetsMs.mapM
    (hybridFindings42e source (sourceReport.get "corrected_hybrid").asDict)
  return findWhen (fakeExchangeTime sourceReport)
      (implementationFailure (source.name ++ " exchange-time protocol uses local receive timestamp")
        "EXCHANGE_TIME_FAKE_TIMESTAMP") ++
    findWhen fakeBookticker
      (implementationFailure "bookTicker exchange-time support lacks real E/T timestamp"
        "BOOKTICKER_FAKE_EXCHANGE_TIMESTAMP") ++
    hybrid.flatten ++
    findWhen (!(sourceReport.get "raw_receive_lag").asDict.truthy)
      (implementationFailure (source.name ++ " raw receive lag missing")
        "RECEIVE_LAG_REPORT_FAILURE") ++
    findWhen (!(sourceReport.get "corrected_receive_lag").asDict.truthy)
      (implementationFailure (source.name ++ " corrected receive lag missing")
        "RECEIVE_LAG_REPORT_FAILURE")

/-- What is found about the exchange time. No finding fails its status. -/
def exchangeFindings42e (report : Json) : List Finding :=
  findWhen (!saysPass "exchange_time_coverage_status" report)
    (generalFailure "no exchange-time source achieved valid_rate_eligible_rows >= 0.95"
      "EXCHANGE_TIME_COVERAGE_FAILURE")

/-- What is found about the corrected hybrid protocol. Its status may have failed before. -/
def correctedFindings42e (report : Json) (before : List Finding) : List Finding :=
  findWhen (!saysPass "corrected_hybrid_status" report || findsAs "CORRECTED_HYBRID_FAILURE" before)
    (generalFailure "no corrected hybrid budget achieved valid_rate_eligible_rows >= 0.95"
      "CORRECTED_HYBRID_FAILURE")

/-- What is found about the decision. -/
def decisionFindings42e (report : Json) : List Finding :=
  findWhen (!(report.get "low_latency_ready").isTrue)
    (generalFailure "no low-latency-ready corrected protocol candidate selected"
      "PROTOCOL_DECISION_FAILURE")

/-- What the checks of the report of the corrected receive lag find before the statuses. -/
def measuredFindings42e (report : Json) : Except String (List Finding) := do
  let sources := (report.get "sources").asDict
  let found ← ReferenceSource.all.mapM (sourceFindings42e sources)
  return testFindings "generated JSONL/heavy artifact .gitignore rules missing" report ++
    cleanupFindings report ++
    freshFindings (report.get "fresh_capture_required").isTrue report ++
    sampleFindings "corrected time protocol labels were not generated" report ++
    policyFindings42e report ++
    clockFindings42e report ++
    leakageFindings (report.get "leakage_check").asDict ++
    exchangeFindings42e report ++
    found.flatten

/-- What is found after the schema, in order, after what was measured. -/
def restFindings42e (report : Json) (measured : List Finding) : List Finding :=
  measured ++ correctedFindings42e report measured ++ decisionFindings42e report

/-- What the checks of the report of the corrected receive lag find. No error of the schema fails
the status of the corrected hybrid protocol. -/
def findings42e (report : Json) : Except String (List Finding) := do
  let errors ← validatePhase42eReportSchema report
  let measured ← measuredFindings42e report
  return schemaFindings errors ++ restFindings42e report measured

/-- How the status of the capture ends: it counts only if some failure of the capture is listed. -/
def settleFreshCapture (classifications : List String) (status : String) : String :=
  if occursIn "FRESH_CAPTURE" (" ".intercalate classifications) then status
  else if freshClassifications.any (· ∈ classifications) then "fail"
  else "pass"

/-- The status of the capture. -/
def freshCaptureRule : StatusRule :=
  { StatusRule.kept "fresh_capture_status" "fail" fun f =>
      f.classification ∈ freshClassifications with
    settle := settleFreshCapture }

/-- The evaluation of the report of the corrected receive lag. -/
def phase42e : Evaluator where
  statuses :=
    [.renewed "implementation_status" fun f => f.domain = .implementation,
      freshCaptureRule,
      .kept "clock_sync_status" "fail" fun f =>
        f.classification ∈ clockClassifications42e,
      .kept "corrected_hybrid_status" "fail" fun f =>
        f.classification = "CORRECTED_HYBRID_FAILURE",
      .kept "protocol_decision_status" "fail" fun f =>
        f.classification ∈ ["PROTOCOL_DECISION_FAILURE", "CORRECTED_HYBRID_FAILURE"]]
  findings := findings42e
  warnings report found :=
    (if ((report.get "clock_sanity_report").asDict.get "server_time_rtt_warning").isTrue then
      ["server_time_rtt_p95_elevated"] else []) ++
    -- the status did not pass exactly when a finding has its classification
    (if findsAs "CORRECTED_HYBRID_FAILURE" found &&
        saysPass "exchange_time_coverage_status" report then
      ["exchange_time_market_coverage_passed_but_corrected_hybrid_live_observability_failed"]
      else [])

/-- Evaluate the report of the corrected receive lag. -/
def evaluatePhase42eReport (report : Json) : Except String Json := phase42e.evaluate report

/-! ### The report of the readiness for low latency -/

/-- Whether two values are one object. The constants exist once; for other values it is up to the
interpreter. -/
def isSameObject (identical : Json → Json → Bool) : Json → Json → Bool
  | .null, y => y.isNull
  | .bool true, y => y.isTrue
  | .bool false, y => y.isFalse
  | _, .null => false
  | _, .bool _ => false
  | x, y => identical x y

/-- The longest blocking of the queue that is not worth a warning. -/
def queuePutBlockWarningMs : ℚ := 5

section Readiness

variable (identical : Json → Json → Bool)

/-- Whether the readiness is the one without tolerance. -/
def readinessIsStrict (report : Json) : Bool :=
  isSameObject identical (report.get "low_latency_ready")
    (report.get "strict_100ms_observability_ready")

/-- The schema of the report of the readiness; the required fields are sorted. -/
def phase42fgSchema : ReportSchema where
  required :=
    ["clock_offset_summary", "clock_sync_status", "duration_sec", "failure_classifications",
      "fresh_capture_status", "hard_fail_reasons", "hot_path_latency_summary",
      "implementation_status", "latency_profile_status", "low_latency_ready",
      "market_time_label_ready", "max_future_gap_ms", "phase", "phase5_ready", "primary_failure",
      "protocol_decision_status", "queue_backpressure_summary", "readiness_decision_reason",
      "readiness_semantics_status", "receive_lag_summary", "relaxed_250ms_observability_candidate",
      "selected_operational_budget_ms", "selected_protocol_candidate", "sources", "status",
      "strict_100ms_observability_ready", "strict_100ms_observability_status", "symbol",
      "warning_reasons"]
  statuses :=
    ["implementation_status", "fresh_capture_status", "clock_sync_status",
      "readiness_semantics_status", "latency_profile_status", "strict_100ms_observability_status",
      "protocol_decision_status"]
  others report :=
    (if (report.get "phase").isText "4.2F+G" then [] else ["phase must be 4.2F+G"]) ++
    (if isRequiredGap (report.get "max_future_gap_ms") then []
      else ["max_future_gap_ms must be 100"]) ++
    (if readinessIsStrict identical report then []
      else ["low_latency_ready must equal strict_100ms_observability_ready"]) ++
    (if (report.get "phase5_ready").isFalse then [] else ["phase5_ready must be false"]) ++
    sourceErrors [] (report.get "sources")

/-- Validate the report of the readiness. -/
def validatePhase42fgReportSchema (report : Json) : Except String (List String) :=
  (phase42fgSchema identical).validate report

/-- What is found about the policy of the readiness. -/
def policyFindings42fg (report : Json) : List Finding :=
  findWhen (!isRequiredGap (report.get "max_future_gap_ms"))
    (implementationFailure "max_future_gap_ms was relaxed" "HORIZON_100MS_POLICY_RELAXED") ++
  findWhen (!(report.get "future_receive_lag_hard_gate_used").isFalse)
    (implementationFailure "future_receive_lag used as hard validity gate"
      "FUTURE_RECEIVE_LAG_GATE_FAILURE")

/-- What is found about the clock. -/
def clockFindings42fg (report : Json) : List Finding :=
  let clockSummary := (report.get "clock_offset_summary").asDict
  clockOffsetFindings clockSummary ++
  findWhen ((clockSummary.get "server_time_rtt_p95_ms").num > serverTimeRttHardFailMs)
    (generalFailure "server-time RTT p95 exceeded hard threshold" "SERVER_TIME_RTT_FAILURE")

/-- What is found about the latency and the queue. -/
def latencyFindings (report : Json) : List Finding :=
  let latency := (report.get "hot_path_latency_summary").asDict
  let queue := (report.get "queue_backpressure_summary").asDict
  findWhen (!(latency.get "performed").isTrue)
    (implementationFailure "latency stage profile missing" "LATENCY_PROFILE_MISSING") ++
  findWhen (!(queue.get "performed").isTrue)
    (implementationFailure "queue backpressure report missing"
      "QUEUE_BACKPRESSURE_REPORT_MISSING") ++
  findWhen ((queue.get "queue_dropped_messages").num > 0)
    (generalFailure "queue_dropped_messages > 0" "QUEUE_DROPPED_MESSAGES_FAILURE")

/-- What is found about a budget of the corrected hybrid protocol. -/
def hybridFindings42fg (source : ReferenceSource) (correctedHybrid : Json) (budgetMs : ℕ) :
    Except String (List Finding) := do
  let key := correctedBudgetKey budgetMs
  let metrics := (correctedHybrid.get key).asDict
  let gap ← statedGap metrics
  return findWhen (!(metrics.get "future_receive_lag_hard_gate_used").isFalse)
      (implementationFailure (source.name ++ " " ++ key ++ " used future lag as gate")
        "FUTURE_RECEIVE_LAG_GATE_FAILURE") ++
    findWhen ((gap : ℚ) ≠ labelMaxFutureGapMs)
      (implementationFailure (source.name ++ " " ++ key ++ " max_future_gap_ms != 100")
        "HORIZON_100MS_POLICY_RELAXED")

/-- What is found about a source; without a report of it, nothing else is looked at. -/
def sourceFindings42fg (sources : Json) (source : ReferenceSource) :
    Except String (List Finding) := do
  let sourceReport := (sources.get source.name).asDict
  if !sourceReport.truthy then
    return [implementationFailure (source.name ++ " protocol report missing")
      "PROTOCOL_REPORT_MISSING"]
  let fakeBookticker ← fakeBooktickerTime source sourceReport
  let hybrid ← hybridBudgetsMs.mapM
    (hybridFindings42fg source (sourceReport.get "corrected_hybrid").asDict)
  return findWhen (!(sourceReport.get "receive_time").asDict.truthy)
      (implementationFailure (source.name ++ " receive-time protocol missing")
        "RECEIVE_TIME_PROTOCOL_MISSING") ++
    findWhen (sourceReport.get? "exchange_time").isNone
      (implementationFailure (source.name ++ " exchange-time protocol missing")
        "EXCHANGE_TIME_PROTOCOL_MISSING") ++
    findWhen (!(sourceReport.get "corrected_hybrid").asDict.truthy)
      (implementationFailure (source.name ++ " corrected hybrid missing")
        "CORRECTED_HYBRID_MISSING") ++
    findWhen (fakeExchangeTime sourceReport)
      (implementationFailure (source.name ++ " exchange-time protocol uses local receive timestamp")
        "EXCHANGE_TIME_FAKE_TIMESTAMP") ++
    findWhen fakeBookticker
      (implementationFailure "bookTicker exchange-time support lacks real E/T timestamp"
        "BOOKTICKER_FAKE_EXCHANGE_TIMESTAMP") ++
    hybrid.flatten

/-- What is found about the readiness. -/
def readinessFindings (report : Json) : List Finding :=
  let reason := ((report.get "readiness_decision_reason").orElse (.str "")).text
  findWhen (!readinessIsStrict identical report)
    (implementationFailure "low_latency_ready does not equal strict_100ms_observability_ready"
      "READINESS_SEMANTICS_FAILURE") ++
  findWhen (!(report.get "phase5_ready").isFalse)
    (implementationFailure "phase5_ready must be false in Phase 4.2F+G" "PHASE5_READY_FORBIDDEN") ++
  findWhen ((report.get "low_latency_ready").isTrue &&
      !(report.get "strict_100ms_observability_ready").isTrue)
    (implementationFailure "low_latency_ready=true while strict_100ms_observability_ready=false"
      "READINESS_SEMANTICS_FAILURE") ++
  findWhen (Decimal.strip reason.toList).isEmpty
    (implementationFailure "readiness_decision_reason missing" "READINESS_SEMANTICS_FAILURE")

/-- What the checks of the report of the readiness find. -/
def findings42fg (report : Json) : Except String (List Finding) := do
  let errors ← validatePhase42fgReportSchema identical report
  let sources := (report.get "sources").asDict
  let found ← ReferenceSource.all.mapM (sourceFindings42fg sources)
  return schemaFindings errors ++
    testFindings "generated artifact .gitignore rules missing" report ++
    cleanupFindings report ++
    freshFindings (report.get "fresh_capture_required").isTrue report ++
    policyFindings42fg report ++
    clockFindings42fg report ++
    latencyFindings report ++
    leakageFindings (report.get "leakage_check").asDict ++
    found.flatten ++
    readinessFindings identical report

/-- The warnings of the report of the readiness. -/
def warnings42fg (report : Json) : List String :=
  let clockSummary := (report.get "clock_offset_summary").asDict
  let queue := (report.get "queue_backpressure_summary").asDict
  (if (clockSummary.get "server_time_rtt_p95_ms").num > serverTimeRttWarningMs then
    ["server_time_rtt_p95_elevated"] else []) ++
  (if (clockSummary.get "offset_abs_drift_ms").num > 0 then ["clock_offset_measured"] else []) ++
  (if (queue.get "disk_write_on_hot_path").isTrue then ["disk_write_on_hot_path_detected"] else []) ++
  (if (queue.get "debug_logging_on_hot_path").isTrue then
    ["debug_logging_on_hot_path_detected"] else []) ++
  (if (queue.get "queue_put_block_p95_ms").num > queuePutBlockWarningMs then
    ["queue_put_block_p95_gt_5ms"] else []) ++
  (if (queue.get "queue_depth_near_capacity").isTrue then ["queue_depth_near_capacity"] else [])

/-- The evaluation of the report of the readiness. Every status starts from what the report
says, but for that of the strict readiness. -/
def phase42fg : Evaluator where
  statuses :=
    [.kept "implementation_status" "pass" fun f => f.domain = .implementation,
      .kept "fresh_capture_status" "pass" fun f => f.classification ∈ freshClassifications,
      .kept "clock_sync_status" "pass" fun f =>
        f.classification ∈ ["CLOCK_SYNC_FAILURE", "CLOCK_OFFSET_SAMPLE_QUALITY_FAILURE",
          "CLOCK_OFFSET_DRIFT_FAILURE", "SERVER_TIME_RTT_FAILURE"],
      .kept "readiness_semantics_status" "pass" fun f =>
        f.classification ∈ ["READINESS_SEMANTICS_FAILURE", "PHASE5_READY_FORBIDDEN"],
      .kept "latency_profile_status" "pass" fun f =>
        f.classification ∈ ["LATENCY_PROFILE_MISSING", "QUEUE_BACKPRESSURE_REPORT_MISSING"],
      { field := "strict_100ms_observability_status"
        start := fun report =>
          if (report.get "strict_100ms_observability_ready").isTrue then "pass" else "fail" },
      .kept "protocol_decision_status" "pass" fun f =>
        f.classification ∈ ["READINESS_SEMANTICS_FAILURE", "PHASE5_READY_FORBIDDEN"]]
  findings := findings42fg identical
  warnings report _ := warnings42fg report
  distinct := by decide

/-- Evaluate the report of the readiness. -/
def evaluatePhase42fgReport (report : Json) : Except String Json :=
  (phase42fg identical).evaluate report

end Readiness

end SomethingTrade
