import SomethingTrade.ProtocolReports

/-!
# Reports of the Reference Feeds

The evaluation of the report of the reference feeds. It sets the statuses anew, and two of its
checks look at the classifications listed so far: a capture that was not performed is not found
once a capture is known to be incomplete, and the lack of a source that covers the horizon is not
found when the capture explains it.

## Main results

* `classifyPhase42cFailure`: the failure that is named when no check named one.
* `evaluatePhase42cReport`: the evaluation.
-/

namespace SomethingTrade

/-! ### Constants -/

/-- The counts of the depth feed that must be zero. -/
def depthRuntimeZeroFields : List String :=
  ["sample_before_ready_count", "feed_receive_stale_count", "queue_dropped_messages",
    "sequence_gap_count", "invalid_delta_count", "crossed_book_count", "book_empty_count",
    "one_side_missing_count", "clean_sample_schema_violation_count"]

/-- The metrics that each source must have, sorted. -/
def requiredSourceMetricFields : List String :=
  ["bad_time_coverage_ratio_100ms", "eligible_count", "future_gap_max_ms", "future_gap_p50_ms",
    "future_gap_p90_ms", "future_gap_p95_ms", "future_gap_p99_ms", "gap_max_ms",
    "gap_over_100ms_count", "gap_over_100ms_total_duration_ms", "gap_p50_ms", "gap_p90_ms",
    "gap_p95_ms", "gap_p99_ms", "invalid_count", "invalid_reason_counts",
    "invalid_reference_event_count", "label_leakage_violations", "max_future_gap_ms",
    "passes_100ms_gate", "reference_event_count", "reference_sample_rate_per_sec",
    "source_status", "valid_count", "valid_rate_all_rows", "valid_rate_eligible_rows",
    "valid_reference_event_count"]

/-- The sources that are captured besides the depth feed. -/
def externalReferenceSources : List ReferenceSource := [.bookTickerMid, .tradePrice, .aggTradePrice]

/-- The streams that a capture must request. -/
def requiredStreams (symbol : String) : List String :=
  [lower symbol ++ "@depth@100ms", lower symbol ++ "@bookTicker", lower symbol ++ "@trade",
    lower symbol ++ "@aggTrade"]

/-! ### Parts of a report -/

/-- The metrics of a source. -/
def sourceOf (report : Json) (source : ReferenceSource) : Json :=
  ((report.get "reference_sources").asDict.get source.name).asDict

/-- What the report says became of a source. -/
def statedSourceStatus (report : Json) (source : ReferenceSource) : String :=
  ((sourceOf report source).getD "source_status" (.str "not_captured")).text

/-- A field of the report, else of its capture. -/
def captureField (report : Json) (field : String) (default : Json) : Json :=
  report.getD field ((report.get "capture").asDict.getD field default)

/-- Whether a new capture is required. -/
def freshRequired42c (report : Json) : Bool := (report.get "fresh_capture_required").truthy

/-- Whether a new capture was performed. -/
def freshPerformed42c (report : Json) : Bool :=
  (captureField report "fresh_capture_performed" (.bool false)).truthy

/-- Whether the report is made of fixtures. -/
def fixtureMode42c (report : Json) : Bool := (captureField report "fixture_mode" (.bool false)).truthy

/-- Whether a required capture is missing. -/
def captureMissing (report : Json) : Bool :=
  freshRequired42c report && (!freshPerformed42c report || fixtureMode42c report ||
    (captureField report "skip_capture" (.bool false)).truthy)

/-- The source that the report selects. -/
def selectedSource (report : Json) : Option ReferenceSource :=
  ReferenceSource.all.find? fun source =>
    (report.get "selected_reference_source").isText source.name

/-- Whether the report selects no source. -/
def selectsNone (report : Json) : Bool := (report.get "selected_reference_source").isNull

/-- A finding about the run. -/
def runtimeFailure (reason classification : String)
    (named : classification ≠ "" := by exact IsNamed.ne_empty _ trivial) : Finding :=
  ⟨reason, classification, .runtime, named⟩

/-- A finding about the benchmark. -/
def benchmarkFailure (reason classification : String)
    (named : classification ≠ "" := by exact IsNamed.ne_empty _ trivial) : Finding :=
  ⟨reason, classification, .benchmark, named⟩

/-! ### The schema -/

/-- The schema of the report of the reference feeds; the required fields are sorted. -/
def phase42cSchema : ReportSchema where
  required :=
    ["benchmark_status", "capture", "capture_diagnostics_path", "clean_sample_count",
      "cleanup_performed", "dataset_paths", "definition_of_done_status", "depth_runtime_quality",
      "duration_sec", "failure_classifications", "fixture_mode", "fresh_capture_performed",
      "hard_fail_reasons", "implementation_status", "label_semantics", "leakage_check", "phase",
      "primary_failure", "ranking", "reference_sources", "runtime_status",
      "selected_reference_source", "selected_reference_source_status", "semantic_warning",
      "skip_capture", "status", "symbol", "typecheck_report_path", "warning_reasons"]
  statuses :=
    ["implementation_status", "runtime_status", "benchmark_status", "definition_of_done_status"]
  others report :=
    let sources := report.get "reference_sources"
    (if isDict sources then
      ReferenceSource.all.flatMap fun source =>
        let metrics := sources.get source.name
        if isDict metrics then
          (requiredSourceMetricFields.filter fun field => (metrics.get? field).isNone).map
            fun field => "missing " ++ source.name ++ " metric: " ++ field
        else
          ["missing reference source: " ++ source.name]
    else
      ["missing required object: reference_sources"]) ++
    (match report.get "ranking" with
      | .arr _ => []
      | _ => ["ranking must be a list"]) ++
    (if selectsNone report || (selectedSource report).isSome then []
      else ["selected_reference_source must be null or one of the benchmark sources"])

/-- Validate the report of the reference feeds. -/
def validatePhase42cReportSchema (report : Json) : Except String (List String) :=
  phase42cSchema.validate report

/-! ### Checks -/

/-- What is found about the run that made the report. -/
def runFindings42c (report : Json) : List Finding :=
  findWhen (report.get "pytest_failed").isTrue
    (implementationFailure "pytest failed" "TEST_FAILURE") ++
  findWhen (report.get "typecheck_failed").isTrue
    (implementationFailure "typecheck/compileall failed" "TYPECHECK_FAILURE") ++
  findWhen (report.get "cleanup_failed").isTrue
    (implementationFailure "artifact cleanup failed" "ARTIFACT_CLEANUP_FAILURE") ++
  findWhen (report.get "multi_feed_capture_failed").isTrue
    (runtimeFailure "fresh multi-feed capture failed" "MULTI_FEED_CAPTURE_INCOMPLETE") ++
  findWhen (freshRequired42c report && !(report.get "cleanup_performed").truthy)
    (implementationFailure "artifact cleanup was not performed before final run"
      "ARTIFACT_CLEANUP_FAILURE")

/-- What is found about a required capture, if none is known to be incomplete. -/
def captureFindings42c (report : Json) (classifications : List String) : List Finding :=
  findWhen (captureMissing report && "MULTI_FEED_CAPTURE_INCOMPLETE" ∉ classifications)
    (runtimeFailure "final run did not perform a real fresh multi-feed capture"
      "FRESH_CAPTURE_NOT_PERFORMED")

/-- What is found about the streams of a new capture. -/
def streamFindings42c (report : Json) : List Finding :=
  let capture := (report.get "capture").asDict
  let diagnostics := (report.get "capture_diagnostics").asDict
  let fresh := freshRequired42c report && freshPerformed42c report
  let durationSec := (report.getD "duration_sec" (capture.get "duration_sec")).num
  let requestedStreams := listOfText
    (if diagnostics.truthy then diagnostics.get "requested_streams"
      else capture.get "requested_streams")
  let missingStreams :=
    (requiredStreams ((report.get "symbol").orElse (.str "BTCUSDT")).text).filter
      (· ∉ requestedStreams)
  findWhen (fresh && !fixtureMode42c report && durationSec < 1800)
    (runtimeFailure "fresh capture duration_sec < 1800" "MULTI_FEED_CAPTURE_INCOMPLETE") ++
  findWhen (capture.get "downsampling_enabled").isTrue
    (runtimeFailure "downsampling_enabled must be false" "DEPTH_RUNTIME_QUALITY_FAILURE") ++
  findWhen (fresh && !diagnostics.truthy)
    (runtimeFailure "multi-feed capture diagnostics missing" "MULTI_FEED_CAPTURE_INCOMPLETE") ++
  findWhen (fresh && !missingStreams.isEmpty)
    (runtimeFailure ("required streams not requested: " ++ ",".intercalate missingStreams)
      "MULTI_FEED_CAPTURE_INCOMPLETE")

/-- What is found about the depth feed. -/
def depthFindings42c (report : Json) : List Finding :=
  let runtime := (report.get "depth_runtime_quality").asDict
  (depthRuntimeZeroFields.flatMap fun field =>
    findWhen ((runtime.get field).num > 0)
      (runtimeFailure (field ++ " > 0: " ++ (runtime.get field).text)
        "DEPTH_RUNTIME_QUALITY_FAILURE")) ++
  findWhen ((runtime.get "snapshot_copy_p99_us").num > 200)
    (runtimeFailure ("snapshot_copy_p99_us > 200: " ++ (runtime.get "snapshot_copy_p99_us").text)
      "DEPTH_RUNTIME_QUALITY_FAILURE") ++
  findWhen ((report.get "clean_sample_count").num ≤ 0)
    (runtimeFailure "clean sample count = 0" "DEPTH_RUNTIME_QUALITY_FAILURE")

/-- What is found about the data of the sources. -/
def datasetFindings42c (report : Json) : List Finding :=
  let missing := externalReferenceSources.filter fun source =>
    !((sourceOf report source).get "file_exists").isTrue
  let notCaptured := ReferenceSource.all.filter fun source =>
    statedSourceStatus report source = "not_captured"
  let parserFailed := ReferenceSource.all.filter fun source =>
    statedSourceStatus report source = "parser_failed_or_all_invalid"
  findWhen ((report.get "labeled_sample_count").num ≤ 0)
    (benchmarkFailure "benchmark labeled sample count = 0" "MULTI_FEED_CAPTURE_INCOMPLETE") ++
  findWhen (!missing.isEmpty)
    (benchmarkFailure
      ("reference datasets missing: " ++ ",".intercalate (missing.map ReferenceSource.name))
      "MULTI_FEED_CAPTURE_INCOMPLETE") ++
  findWhen (freshRequired42c report && freshPerformed42c report && !notCaptured.isEmpty)
    (benchmarkFailure
      ("required sources not captured: " ++ ",".intercalate (notCaptured.map ReferenceSource.name))
      "MULTI_FEED_CAPTURE_INCOMPLETE") ++
  findWhen (!parserFailed.isEmpty)
    (benchmarkFailure
      ("reference parser emitted zero valid events: " ++
        ",".intercalate (parserFailed.map ReferenceSource.name))
      "REFERENCE_SCHEMA_FAILURE")

/-- What is found about the gap of a source. -/
def gapFindings42c (report : Json) (source : ReferenceSource) : Except String (List Finding) := do
  let gap ← statedGap (sourceOf report source)
  return findWhen ((gap : ℚ) ≠ labelMaxFutureGapMs)
    (implementationFailure (source.name ++ " horizon_100ms max_future_gap_ms != 100")
      "HORIZON_100MS_POLICY_RELAXED")

/-- What is found about the ranking, and about sources that were measured when none was
selected. -/
def rankingFindings42c (report : Json) : List Finding :=
  let measured := ReferenceSource.all.any fun source =>
    ((sourceOf report source).get "valid_reference_event_count").num > 0
  findWhen (match report.get "ranking" with
      | .arr items => items.isEmpty
      | _ => true)
    (implementationFailure "ranking missing or empty" "REPORT_SCHEMA_FAILURE") ++
  findWhen (selectsNone report && measured)
    (benchmarkFailure "measured reference sources are below valid_rate_eligible_rows 0.95"
      "LABEL_VALID_RATE_FAILURE")

/-- What is found between the check of the capture and that of the selected source. -/
def measuredFindings42c (report : Json) : Except String (List Finding) := do
  let gaps ← ReferenceSource.all.mapM (gapFindings42c report)
  return streamFindings42c report ++ depthFindings42c report ++ datasetFindings42c report ++
    gaps.flatten ++ rankingFindings42c report

/-- What is found about the lack of a source, unless the capture explains it. -/
def sourcelessFindings42c (report : Json) (classifications : List String) : List Finding :=
  findWhen (selectsNone report && "MULTI_FEED_CAPTURE_INCOMPLETE" ∉ classifications &&
      "FRESH_CAPTURE_NOT_PERFORMED" ∉ classifications)
    (benchmarkFailure
      "no reference source achieved valid_rate_eligible_rows >= 0.95 with strict 100ms gate"
      "NO_REFERENCE_SOURCE_PASSED_100MS")

/-- Whether some source was captured without an event. -/
def someSourceEmpty (report : Json) : Bool :=
  ReferenceSource.all.any fun source => statedSourceStatus report source = "captured_but_empty"

/-- What is found about the source that was selected. -/
def selectedFindings42c (report : Json) : List Finding :=
  match selectedSource report with
  | none =>
      findWhen (!selectsNone report)
        (implementationFailure "selected_reference_source invalid" "REPORT_SCHEMA_FAILURE")
  | some selected =>
      let metrics := sourceOf report selected
      findWhen ((metrics.get "valid_rate_eligible_rows").num < required100msValidRate)
        (benchmarkFailure "selected reference source valid_rate_eligible_rows below 0.95"
          "LABEL_VALID_RATE_FAILURE") ++
      findWhen ((metrics.get "label_leakage_violations").num > 0)
        (implementationFailure "selected source label_leakage_violations > 0"
          "LABEL_LEAKAGE_FAILURE") ++
      findWhen ((metrics.get "reference_timestamp_monotonic_violations").num > 0)
        (benchmarkFailure "selected source reference timestamp monotonic violations > 0"
          "REFERENCE_TIMESTAMP_MONOTONIC_FAILURE") ++
      findWhen ((selected = .tradePrice || selected = .aggTradePrice) &&
          !(report.get "semantic_warning").truthy)
        (implementationFailure "trade/aggTrade selected without semantic warning"
          "REPORT_SCHEMA_FAILURE")

/-- What is found about the selected source and about leakage. -/
def lateFindings42c (report : Json) : List Finding :=
  selectedFindings42c report ++
  findWhen (((report.get "leakage_check").asDict.get "feature_leakage_violations").num > 0)
    (implementationFailure "global feature_leakage_violations > 0" "FEATURE_LEAKAGE_FAILURE")

/-! ### The failure that is named -/

/-- The failures that a named one may be, in order. -/
def primaryOrder42c : List String :=
  ["ARTIFACT_CLEANUP_FAILURE", "TEST_FAILURE", "TYPECHECK_FAILURE", "FRESH_CAPTURE_NOT_PERFORMED",
    "MULTI_FEED_CAPTURE_INCOMPLETE", "DEPTH_RUNTIME_QUALITY_FAILURE", "REFERENCE_FEED_EMPTY",
    "REFERENCE_SCHEMA_FAILURE", "REFERENCE_TIMESTAMP_MONOTONIC_FAILURE",
    "HORIZON_100MS_POLICY_RELAXED", "NO_REFERENCE_SOURCE_PASSED_100MS", "LABEL_VALID_RATE_FAILURE",
    "FEATURE_LEAKAGE_FAILURE", "LABEL_LEAKAGE_FAILURE", "REPORT_SCHEMA_FAILURE",
    "SELF_CHECK_FAILURE", "BUNDLE_FAILURE"]

/-- The classifications that name a failure, in order. -/
def classificationOrder42c : List String :=
  ["ARTIFACT_CLEANUP_FAILURE", "TEST_FAILURE", "TYPECHECK_FAILURE", "FRESH_CAPTURE_NOT_PERFORMED",
    "MULTI_FEED_CAPTURE_INCOMPLETE", "REFERENCE_SCHEMA_FAILURE", "HORIZON_100MS_POLICY_RELAXED",
    "FEATURE_LEAKAGE_FAILURE", "LABEL_LEAKAGE_FAILURE", "REPORT_SCHEMA_FAILURE", "BUNDLE_FAILURE",
    "NO_REFERENCE_SOURCE_PASSED_100MS", "LABEL_VALID_RATE_FAILURE", "REFERENCE_FEED_EMPTY"]

/-- The texts in the reasons that name a failure, in order. -/
def reasonOrder42c : List (List String × String) :=
  [(["pytest failed"], "TEST_FAILURE"),
    (["typecheck", "compileall"], "TYPECHECK_FAILURE"),
    (["cleanup"], "ARTIFACT_CLEANUP_FAILURE"),
    (["capture"], "MULTI_FEED_CAPTURE_INCOMPLETE"),
    ("snapshot_copy_p99_us" :: depthRuntimeZeroFields, "DEPTH_RUNTIME_QUALITY_FAILURE"),
    (["missing or empty", "datasets missing", "clean sample count = 0"],
      "MULTI_FEED_CAPTURE_INCOMPLETE"),
    (["schema validation failed"], "REFERENCE_SCHEMA_FAILURE"),
    (["monotonic"], "REFERENCE_TIMESTAMP_MONOTONIC_FAILURE"),
    (["max_future_gap_ms != 100"], "HORIZON_100MS_POLICY_RELAXED"),
    (["no reference source achieved"], "NO_REFERENCE_SOURCE_PASSED_100MS"),
    (["valid_rate_eligible_rows"], "LABEL_VALID_RATE_FAILURE"),
    (["feature_leakage"], "FEATURE_LEAKAGE_FAILURE"),
    (["label_leakage"], "LABEL_LEAKAGE_FAILURE"),
    (["report schema invalid"], "REPORT_SCHEMA_FAILURE"),
    (["bundle failure"], "BUNDLE_FAILURE")]

/-- The failure of a report. -/
def classifyPhase42cFailure (report : Json) : Except String String := do
  if (report.get "definition_of_done_status").isText "pass" then
    return "UNKNOWN_PHASE42C_FAILURE"
  let primary := ((report.get "primary_failure").orElse (.str "")).text
  let classifications ← listedTexts report "failure_classifications"
  if primary = "MULTI_FEED_CAPTURE_INCOMPLETE" && "FRESH_CAPTURE_NOT_PERFORMED" ∈ classifications then
    return "FRESH_CAPTURE_NOT_PERFORMED"
  let reasons := " ".intercalate (← listedTexts report "hard_fail_reasons")
  match primaryOrder42c.find? (occursIn · primary) with
  | some classification => return classification
  | none =>
      match classificationOrder42c.find? (· ∈ classifications) with
      | some classification => return classification
      | none =>
          match reasonOrder42c.find? fun entry => entry.1.any (occursIn · reasons) with
          | some entry => return entry.2
          | none => return "UNKNOWN_PHASE42C_FAILURE"

/-! ### The evaluation -/

/-- Add findings that name the failure. -/
def ReportVerdict.addNaming (v : ReportVerdict) (found : List Finding) (primary : String) :
    ReportVerdict :=
  if found = [] then v else { v.addAll found with primary := .str primary }

section AddNaming

variable (v : ReportVerdict) (found : List Finding) (primary : String)

@[simp] theorem ReportVerdict.hard_addNaming :
    (v.addNaming found primary).hard = v.hard ++ found.map Finding.reason := by
  rw [addNaming]
  split
  · simp_all
  · exact v.hard_addAll found

@[simp] theorem ReportVerdict.mem_classifications_addNaming {c : String} :
    c ∈ (v.addNaming found primary).classifications ↔
      c ∈ v.classifications ∨ c ∈ found.map Finding.classification := by
  rw [addNaming]
  split
  · simp_all
  · exact mem_classifications_addAll

end AddNaming

/-- The verdict on what was found, and what was found with the two checks of the classifications
listed so far. The failure that a missing capture names, and the one that the lack of a source
names, take the place of the one named before. -/
def settle42c (report : Json) (listed : ReportVerdict) (early measured : List Finding) :
    ReportVerdict × List Finding :=
  let v := listed.addAll early
  let capture := captureFindings42c report v.classifications
  let v := (v.addNaming capture "MULTI_FEED_CAPTURE_INCOMPLETE").addAll measured
  let sourceless := sourcelessFindings42c report v.classifications
  let v :=
    if sourceless ≠ [] && someSourceEmpty report then
      { v with classifications := insertNew v.classifications "REFERENCE_FEED_EMPTY" }
    else v
  let v := v.addNaming sourceless "NO_REFERENCE_SOURCE_PASSED_100MS"
  let late := lateFindings42c report
  (v.addAll late, early ++ capture ++ measured ++ sourceless ++ late)

/-- What the checks find, and the verdict with it. -/
def verdict42c (report : Json) (listed : ReportVerdict) :
    Except String (ReportVerdict × List Finding) := do
  let errors ← validatePhase42cReportSchema report
  let measured ← measuredFindings42c report
  return settle42c report listed (schemaFindings errors ++ runFindings42c report) measured

/-- The status of one part of the work. -/
def domainStatus (domain : FindingDomain) (found : List Finding) : Json :=
  .str (if findsIn domain found then "fail" else "pass")

/-- The failure that is named in the end. -/
def namedFailure42c (report : Json) (v : ReportVerdict) : Except String Json :=
  if v.hard ≠ [] && v.primary.isNull then
    (classifyPhase42cFailure ((report.setField "hard_fail_reasons" (.arr (v.hard.map .str))).setField
      "failure_classifications" (.arr (v.classifications.map .str)))).map .str
  else
    .ok v.primary

/-- The status of the selected source. -/
def selectedStatus42c (report : Json) (v : ReportVerdict) : Json :=
  if v.hard = [] && !selectsNone report then .str "pass"
  else if selectsNone report then .str "fail"
  else report.getD "selected_reference_source_status" (.str "fail")

/-- Evaluate the report of the reference feeds. -/
def evaluatePhase42cReport (report : Json) : Except String Json := do
  if !isDict report then throw "AttributeError"
  let listed ← readVerdict report
  let warnings ← listedTexts report "warning_reasons"
  let (v, found) ← verdict42c report listed
  let primary ← namedFailure42c report v
  let v := { v with primary := primary }
  let doneStatus := Json.str (if v.hard = [] then "pass" else "fail")
  return writeFields report <|
    [("implementation_status", domainStatus .implementation found),
      ("runtime_status", domainStatus .runtime found),
      ("benchmark_status", domainStatus .benchmark found),
      ("definition_of_done_status", doneStatus),
      ("status", doneStatus),
      ("selected_reference_source_status", selectedStatus42c report v),
      ("warning_reasons", .arr ((sortedSet warnings).map .str))] ++
    v.fields

end SomethingTrade
