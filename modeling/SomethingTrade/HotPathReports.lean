import SomethingTrade.ControlledCapture
import SomethingTrade.HotPathProfile

/-!
# The Report of the Hot Path

The report of the hot path is evaluated like the other reports: statuses start from what the report
says, and the findings of the checks fail them. Unlike the others, the evaluation also rewrites a
part of what it judges: the queue is normalized before it is looked at, and written back so.

## Representation

* The fields that only this evaluation writes, the validation of the profile and the queue, are set
  after those that every evaluation writes, so a field that was missing may come in another place.
* The limit of a capture's duration is computed exactly.

## Main results

* `evaluatePhase42hReport`: the evaluation.
* `existingArtifactFailureClassification_ne_empty`: every role of an artifact has a classification.
-/

namespace SomethingTrade

/-! ### The duration of a capture -/

/-- The longest flush of the writer that is not worth a warning. -/
def writerFlushWarningMs : ℚ := 50

/-- A number that is not negative, to three decimals. -/
def formatThousandths (q : ℚ) : String :=
  let thousandths := roundHalfEven (q * 1000)
  toString (thousandths / 1000) ++ "." ++ paddedDigits 3 (thousandths % 1000)

/-- What is found about the duration of a capture that is guarded. -/
def guardFindings (report : Json) : List Finding :=
  let capture := (report.get "capture").asDict
  let diagnostics := (capture.get "capture_diagnostics").asDict
  let requestedDuration := (report.get "duration_sec").toFinite?
  let captureDuration := (report.get "capture_duration_sec").toFinite?.or
    (capture.get "capture_duration_sec").toFinite?
  let totalChildDuration := (report.get "total_child_duration_sec").toFinite?
  match phase42hCaptureDurationGuardLimitSec requestedDuration with
  | none => []
  | some guardLimit =>
      findWhen ((capture.get "capture_duration_within_guard").isFalse ||
          (diagnostics.get "duration_guard_failure").isTrue)
        (generalFailure "capture duration guard stopped the capture loop"
          "DURATION_GUARD_FAILURE") ++
      findWhen (captureDuration.any (· > guardLimit))
        (generalFailure ("capture duration_sec " ++ formatThousandths (captureDuration.getD 0) ++
            " exceeded requested duration_sec " ++ formatThousandths (requestedDuration.getD 0) ++
            " + 120s grace")
          "CAPTURE_DURATION_EXCEEDED") ++
      findWhen (captureDuration.isNone && totalChildDuration.any (· > guardLimit))
        (generalFailure ("total_child_duration_sec exceeded the requested capture guard but " ++
            "capture_duration_sec is missing")
          "DURATION_GUARD_FAILURE")

/-- Whether a capture must have its full duration: a smoke run need not. -/
def finalDurationRequired (report : Json) : Bool :=
  (((report.get "environment").asDict.get "run_mode").orElse (.str "")).text ∉
    ["vps_smoke", "smoke"]

/-- What is found about the capture, when a new one is required. -/
def freshFindings42h (report : Json) : List Finding :=
  if (report.get "fresh_capture_required").isTrue then
    findWhen (!(report.get "fresh_capture_performed").isTrue ||
        (report.get "fixture_mode").isTrue || (report.get "skip_capture").isTrue)
      (generalFailure "fresh 30-minute capture was not performed" "FRESH_CAPTURE_NOT_PERFORMED") ++
    findWhen (finalDurationRequired report && (report.get "duration_sec").num < 1800)
      (generalFailure "fresh capture duration_sec < 1800" "FRESH_CAPTURE_DURATION_FAILURE") ++
    guardFindings report
  else []

/-! ### The tests and the runtime report -/

/-- What is found about the tests and the preflight. -/
def testFindings42h (report : Json) : List Finding :=
  let preflight := (report.get "preflight_report").asDict
  findWhen (!(report.get "pytest_passed").isTrue)
    (implementationFailure "pytest failed" "TEST_FAILURE") ++
  findWhen (!(report.get "typecheck_passed").isTrue)
    (implementationFailure "typecheck/compileall failed" "TYPECHECK_FAILURE") ++
  findWhen (preflight.truthy && !(preflight.get "passed").isTrue)
    (implementationFailure "VPS preflight failed" "PREFLIGHT_FAILURE")

/-- Why the runtime report failed. -/
def phase41RuntimeFailureReasons (report : Json) : List String :=
  match report.get "phase_4_1_failure_reasons" with
  | .arr reasons => (reasons.map Json.text).filter (· ≠ "")
  | _ => if phase41RuntimeReportStatus report = "fail" then ["phase_4_1_status=fail"] else []

/-- The status of the runtime report: what the report says, or else what the runtime report is. -/
def embeddedPhase41Status (report : Json) : String :=
  ((report.get "phase41_runtime_report_status").orElse
    (.str (phase41RuntimeReportStatus (report.get "phase41_runtime_report").asDict))).text

/-- What is found about the runtime report. -/
def phase41Findings (report : Json) : List Finding :=
  let phase41Source := (report.get "phase41_runtime_report_source").asDict
  let phase41Status := embeddedPhase41Status report
  let fresh := (report.get "fresh_capture_required").isTrue &&
    (report.get "fresh_capture_performed").isTrue
  let reasons := phase41RuntimeFailureReasons (report.get "phase41_runtime_report").asDict
  let reasonSuffix := if reasons.isEmpty then "" else ": " ++ ", ".intercalate reasons
  findWhen (fresh && !(report.get "skip_capture").isTrue &&
      !(phase41Source.get "source").isText "current_capture_summary")
    (implementationFailure
      "Phase 4.1 runtime report did not come from the current capture summary"
      "PHASE41_RUNTIME_STALE_RISK") ++
  findWhen (phase41Status = "missing" && fresh)
    (implementationFailure "Phase 4.1 runtime report missing for fresh Phase 4.2H capture"
      "PHASE41_RUNTIME_REPORT_MISSING") ++
  findWhen (phase41Status = "fail")
    (generalFailure ("embedded Phase 4.1 runtime report failed" ++ reasonSuffix)
      "PHASE41_RUNTIME_FAILURE")

/-- What is found about the generated artifacts and the rules that ignore them. -/
def artifactRuleFindings (report : Json) : List Finding :=
  findWhen (!((report.get "gitignore_validation").asDict.get "passed").isTrue)
    (implementationFailure "generated artifact .gitignore rules missing"
      "GITIGNORE_POLICY_FAILURE") ++
  cleanupFindings report

/-! ### The profile, the queue and the writer -/

/-- The classification of an artifact that is missing or invalid. -/
def existingArtifactFailureClassification (role : String) : String :=
  if role = "latency_profile_samples" then "LATENCY_PROFILE_MISSING"
  else if role = "queue_backpressure_report" then "QUEUE_BACKPRESSURE_REPORT_MISSING"
  else if role = "clock_sanity_report" then "CLOCK_SYNC_FAILURE"
  else if role = "writer_batch_report" then "WRITER_SHUTDOWN_FLUSH_FAILURE"
  else if role = "leakage_check" then "LEAKAGE_FAILURE"
  else if role = "phase42h_report" then "REPORT_MISSING"
  else "DERIVED_ARTIFACT_MISSING"

/-- The classifications of artifacts. -/
def artifactClassifications : List String :=
  ["LATENCY_PROFILE_MISSING", "QUEUE_BACKPRESSURE_REPORT_MISSING", "CLOCK_SYNC_FAILURE",
    "WRITER_SHUTDOWN_FLUSH_FAILURE", "LEAKAGE_FAILURE", "REPORT_MISSING",
    "DERIVED_ARTIFACT_MISSING"]

theorem existingArtifactFailureClassification_mem (role : String) :
    existingArtifactFailureClassification role ∈ artifactClassifications := by
  rw [existingArtifactFailureClassification]
  split_ifs <;> simp [artifactClassifications]

theorem existingArtifactFailureClassification_ne_empty (role : String) :
    existingArtifactFailureClassification role ≠ "" := by
  intro hempty
  have hmem := existingArtifactFailureClassification_mem role
  rw [hempty] at hmem
  revert hmem
  decide

/-- What is found about an artifact that exists. -/
def existingArtifactFindings (item : Json) : List Finding :=
  let role := ((item.get "role").orElse ((item.get "path").orElse (.str "artifact"))).text
  let classification := existingArtifactFailureClassification role
  if !isDict item || (item.get "valid").isTrue then []
  else if classification = "LATENCY_PROFILE_MISSING" then
    [implementationFailure "latency profile samples missing or invalid" "LATENCY_PROFILE_MISSING"]
  else
    [implementationFailure ("existing artifact missing or invalid: " ++ role) classification
      (existingArtifactFailureClassification_ne_empty role)]

/-- The validation of the profile. An artifact of it that is not valid invalidates it. -/
def latencyValidation (report : Json) : Except String Json := do
  let validation ←
    validatePhase42hLatencyProfileSummary (report.get "hot_path_latency_summary").asDict
  let artifactValidation := (report.get "latency_stage_profile_artifact").asDict
  if artifactValidation.truthy && !(artifactValidation.get "valid").isTrue then
    return (validation.setField "valid" (.bool false)).setField "artifact_errors"
      (artifactValidation.getD "errors" (.arr []))
  else return validation

/-- What is found about the profile and the artifacts that exist. -/
def profileFindings (report : Json) : Except String (List Finding) := do
  let validation ← latencyValidation report
  let files ← iterated ((report.get "existing_artifact_validation").asDict.getD "files" (.arr []))
  return files.flatMap existingArtifactFindings ++
    findWhen (!(validation.get "valid").isTrue)
      (implementationFailure "latency stage profile missing" "LATENCY_PROFILE_MISSING")

/-- Whether the fields of the queue are taken from the profile. -/
def prefersLatencyProfile (report : Json) : Bool :=
  (report.get "evaluation_mode").isText "existing_artifacts" &&
    (report.get "derived_artifact_mode").isText "reuse_existing"

/-- The queue of a report, normalized. -/
def normalizedQueue (report : Json) : Json :=
  normalizeQueue (report.get "queue_backpressure_summary").asDict
    (report.get "hot_path_latency_summary").asDict (prefersLatencyProfile report)

/-- What is found about the queue and the decoupling of the hot path. -/
def queueFindings (report : Json) : List Finding :=
  let latency := (report.get "hot_path_latency_summary").asDict
  let queue := normalizedQueue report
  findWhen (!((report.get "queue_backpressure_summary").asDict.get "performed").isTrue)
    (implementationFailure "queue backpressure report missing"
      "QUEUE_BACKPRESSURE_REPORT_MISSING") ++
  findWhen (!hotPathDecouplingComplete latency queue)
    (implementationFailure "hot-path decoupling incomplete" "HOT_PATH_DECOUPLING_INCOMPLETE") ++
  findWhen ((queue.get "queue_dropped_messages").num > 0)
    (generalFailure "queue_dropped_messages > 0" "QUEUE_DROPPED_MESSAGES_FAILURE")

/-- What is found about the writer. -/
def writerFindings (report : Json) : List Finding :=
  let writer := (report.get "writer_batch_report").asDict
  findWhen (!(writer.get "writer_shutdown_flush_completed").isTrue)
    (implementationFailure "writer shutdown flush did not complete"
      "WRITER_SHUTDOWN_FLUSH_FAILURE") ++
  findWhen ((writer.get "writer_dropped_records").num > 0)
    (generalFailure "writer_dropped_records > 0" "WRITER_DROPPED_RECORDS_FAILURE") ++
  findWhen ((writer.get "writer_error_count").num > 0)
    (generalFailure "writer_error_count > 0" "WRITER_ERROR_FAILURE")

/-! ### The evaluation -/

section Evaluation

variable (identical : Json → Json → Bool)

/-- The schema of the report of the hot path; the required fields are sorted. It has no field
whose status is checked. -/
def phase42hSchema : ReportSchema where
  required :=
    ["bundle_duration_sec", "bundle_ended_at_utc", "bundle_started_at_utc", "capture_duration_sec",
      "capture_ended_at_utc", "capture_started_at_utc", "child_ended_at_utc",
      "child_started_at_utc", "clock_offset_summary", "clock_sync_status", "duration_sec",
      "environment", "failure_classifications", "finalization_duration_sec",
      "finalization_ended_at_utc", "finalization_started_at_utc", "fresh_capture_status",
      "hard_fail_reasons", "hot_path_decoupling_status", "hot_path_latency_summary",
      "implementation_status", "latency_profile_status", "low_latency_ready",
      "market_time_label_ready", "max_future_gap_ms", "phase", "phase41_runtime_ready",
      "phase41_runtime_report_gating", "phase41_runtime_report_source",
      "phase41_runtime_report_status", "phase5_ready", "primary_failure",
      "protocol_decision_status", "queue_backpressure_summary", "readiness_decision_reason",
      "readiness_semantics_status", "receive_lag_summary", "relaxed_250ms_observability_candidate",
      "selected_operational_budget_ms", "selected_protocol_candidate", "sources", "status",
      "strict_100ms_observability_ready", "strict_100ms_observability_status", "symbol",
      "total_child_duration_sec", "warning_reasons", "writer_batch_report", "writer_status"]
  statuses := []
  others report :=
    let phase41RuntimeReady := report.get "phase41_runtime_ready"
    textWhen (!(report.get "phase").isText "4.2H") "phase must be 4.2H" ++
    textWhen (!isRequiredGap (report.get "max_future_gap_ms")) "max_future_gap_ms must be 100" ++
    textWhen (!readinessIsStrict identical report)
      "low_latency_ready must equal strict_100ms_observability_ready" ++
    textWhen (!phase41RuntimeReady.isTrue && !phase41RuntimeReady.isFalse)
      "phase41_runtime_ready must be a boolean" ++
    textWhen (!(report.get "phase5_ready").isFalse) "phase5_ready must be false" ++
    textWhen (!isDict (report.get "environment")) "environment must be an object" ++
    textWhen (!isDict (report.get "phase41_runtime_report_source"))
      "phase41_runtime_report_source must be an object" ++
    textWhen (((report.get "phase41_runtime_report_status").orElse (.str "")).text ∉
        ["pass", "fail", "missing", "unknown"])
      "phase41_runtime_report_status must be pass/fail/missing/unknown" ++
    textWhen (!(report.get "phase41_runtime_report_gating").isText
        "hard_fail_when_current_capture_phase41_fails")
      "phase41_runtime_report_gating must explain Phase 4.1 hard-fail semantics" ++
    sourceErrors [] (report.get "sources")

/-- Validate the report of the hot path. -/
def validatePhase42hReportSchema (report : Json) : List String :=
  (phase42hSchema identical).errorsOf report

/-- What is found about the readiness. -/
def readinessFindings42h (report : Json) : List Finding :=
  let lowLatencyReady := (report.get "low_latency_ready").isTrue
  let strictReady := (report.get "strict_100ms_observability_ready").isTrue
  let phase41RuntimeReady := report.get "phase41_runtime_ready"
  let sequenceOk :=
    ((report.get "phase41_runtime_report").asDict.get "sequence_gap_count").num = 0
  let expectedPhase41RuntimeReady : Bool := embeddedPhase41Status report = "pass" && sequenceOk
  let reason := ((report.get "readiness_decision_reason").orElse (.str "")).text
  findWhen (!readinessIsStrict identical report)
    (implementationFailure "low_latency_ready does not equal strict_100ms_observability_ready"
      "READINESS_SEMANTICS_FAILURE") ++
  findWhen (lowLatencyReady && !strictReady)
    (implementationFailure "low_latency_ready=true while strict_100ms_observability_ready=false"
      "READINESS_SEMANTICS_FAILURE") ++
  findWhen (!(if expectedPhase41RuntimeReady then phase41RuntimeReady.isTrue
      else phase41RuntimeReady.isFalse))
    (implementationFailure ("phase41_runtime_ready does not match embedded Phase 4.1 runtime " ++
        "report status and sequence gaps")
      "READINESS_SEMANTICS_FAILURE") ++
  findWhen (!expectedPhase41RuntimeReady && (strictReady || lowLatencyReady))
    (implementationFailure
      "strict/low-latency readiness true while embedded Phase 4.1 runtime gate failed"
      "READINESS_SEMANTICS_FAILURE") ++
  findWhen (!(report.get "phase5_ready").isFalse)
    (implementationFailure "phase5_ready must be false in Phase 4.2H" "PHASE5_READY_FORBIDDEN") ++
  findWhen (Decimal.strip reason.toList).isEmpty
    (implementationFailure "readiness_decision_reason missing" "READINESS_SEMANTICS_FAILURE")

/-- What the checks find besides the schema and the readiness. -/
def measuredFindings42h (report : Json) : Except String (List Finding) := do
  let profile ← profileFindings report
  let sources := (report.get "sources").asDict
  let found ← ReferenceSource.all.mapM (sourceFindings42fg sources)
  return testFindings42h report ++ phase41Findings report ++ artifactRuleFindings report ++
    freshFindings42h report ++ policyFindings42fg report ++ clockFindings42fg report ++
    profile ++ queueFindings report ++ writerFindings report ++
    leakageFindings (report.get "leakage_check").asDict ++ found.flatten

/-- What the checks of the report of the hot path find. -/
def findings42h (report : Json) : Except String (List Finding) := do
  let measured ← measuredFindings42h report
  return schemaFindings (validatePhase42hReportSchema identical report) ++ measured ++
    readinessFindings42h identical report

/-- The warnings of the report of the hot path. -/
def warnings42h (report : Json) : List String :=
  let clockSummary := (report.get "clock_offset_summary").asDict
  let queue := normalizedQueue report
  let writer := (report.get "writer_batch_report").asDict
  textWhen ((report.get "finalization_duration_sec").toFinite?.any (· > finalizationSlowWarningSec))
    "finalization_duration_sec_slow" ++
  textWhen ((report.get "bundle_duration_sec").toFinite?.any (· > bundleSlowWarningSec))
    "bundle_duration_sec_slow" ++
  textWhen ((clockSummary.get "server_time_rtt_p95_ms").num > serverTimeRttWarningMs)
    "server_time_rtt_p95_elevated" ++
  textWhen ((queue.get "queue_put_block_p95_ms").num > queuePutBlockWarningMs)
    "queue_put_block_p95_gt_5ms" ++
  textWhen (queue.get "queue_depth_near_capacity").isTrue "queue_depth_near_capacity" ++
  textWhen ((writer.get "writer_flush_p95_ms").num > writerFlushWarningMs)
    "writer_flush_p95_gt_50ms"

/-- The classifications of the readiness. -/
def readinessClassifications : List String :=
  ["READINESS_SEMANTICS_FAILURE", "PHASE5_READY_FORBIDDEN"]

/-- The evaluation of the report of the hot path, but for what only it writes. Every status starts
from what the report says, but for that of the strict readiness. -/
def phase42h : Evaluator where
  statuses :=
    [.kept "implementation_status" "pass" fun f => f.domain = .implementation,
      .kept "fresh_capture_status" "pass" fun f =>
        f.classification ∈ ["FRESH_CAPTURE_NOT_PERFORMED", "FRESH_CAPTURE_DURATION_FAILURE",
          "CAPTURE_DURATION_EXCEEDED", "DURATION_GUARD_FAILURE"],
      .kept "clock_sync_status" "pass" fun f =>
        f.classification ∈ ["CLOCK_SYNC_FAILURE", "CLOCK_OFFSET_SAMPLE_QUALITY_FAILURE",
          "CLOCK_OFFSET_DRIFT_FAILURE", "SERVER_TIME_RTT_FAILURE"],
      .kept "readiness_semantics_status" "pass" fun f =>
        f.classification ∈ readinessClassifications,
      .kept "latency_profile_status" "pass" fun f =>
        f.classification ∈ ["LATENCY_PROFILE_MISSING", "QUEUE_BACKPRESSURE_REPORT_MISSING"],
      .kept "hot_path_decoupling_status" "pass" fun f =>
        f.classification = "HOT_PATH_DECOUPLING_INCOMPLETE",
      .kept "writer_status" "pass" fun f =>
        f.classification ∈ ["WRITER_DROPPED_RECORDS_FAILURE", "WRITER_ERROR_FAILURE",
          "WRITER_SHUTDOWN_FLUSH_FAILURE"],
      { field := "strict_100ms_observability_status"
        start := fun report =>
          if (report.get "strict_100ms_observability_ready").isTrue then "pass" else "fail" },
      .kept "protocol_decision_status" "pass" fun f =>
        f.classification ∈ readinessClassifications]
  findings := findings42h identical
  warnings report _ := warnings42h report
  distinct := by decide

/-- How the queue was normalized. A normalization before this one is remembered by what it
overruled. -/
def queueArtifactNormalization (report : Json) : Json :=
  let normalization := (normalizeQueueHotpathFields (report.get "queue_backpressure_summary").asDict
    (report.get "hot_path_latency_summary").asDict (prefersLatencyProfile report)).2
  let previous := (report.get "queue_backpressure_artifact_normalization").asDict
  if (previous.get "performed").isTrue then
    ["stale_queue_hotpath_fields_ignored", "original_queue_hotpath_fields"].foldl
      (fun normalization field =>
        if (previous.get field).truthy then normalization.setField field (previous.get field)
        else normalization) normalization
  else normalization

/-- The fields that only the evaluation of the hot path writes. -/
def profileFields (report validation : Json) : List (String × Json) :=
  [("latency_profile_validation", validation),
    ("queue_backpressure_summary", normalizedQueue report)] ++
  if prefersLatencyProfile report then
    [("queue_backpressure_artifact_normalization", queueArtifactNormalization report)]
  else []

/-- Evaluate the report of the hot path. -/
def evaluatePhase42hReport (report : Json) : Except String Json := do
  let evaluated ← (phase42h identical).evaluate report
  let validation ← latencyValidation report
  return writeFields evaluated (profileFields report validation)

end Evaluation

end SomethingTrade
