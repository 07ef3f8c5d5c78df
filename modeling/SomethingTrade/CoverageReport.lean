import SomethingTrade.LabelChoices
import SomethingTrade.Phase41Report
import SomethingTrade.ProtocolReports
import SomethingTrade.ProtocolSelection

/-!
# The Report of the Coverage

A recapture asks whether samples come often enough for labels of 100 ms. It measures the gaps
between samples and the labels of their rows, and evaluates what it measured. An evaluation starts
anew: it does not look at the reasons and statuses that a report lists already, and the report is
evaluated again when it is written.

## Representation

* A report is a value, as it is read from a file.
* A finding of a check is listed with the part of the work that fails and the name of the failure;
  the source sets them one after the other.

## Main results

* `evaluatePhase42aReport`: the evaluation, by what it finds (`coverageFindings`).
-/

namespace SomethingTrade

/-! ### Gaps -/

/-- The times of samples, of those that have one. -/
def sampleStamps (samples : List Json) : List ℤ :=
  samples.filterMap fun sample => (sample.get "local_recv_monotonic_ns").asInt?

/-- The gaps between times that follow each other, in milliseconds. -/
def gapsMs (times : List ℤ) : List ℚ :=
  List.zipWith (fun before after => ((after - before : ℤ) : ℚ) / 1000000) times times.tail

/-- The longest gap that is not called large. -/
def largeGapThresholdMs : ℚ := 200

/-- The gaps of samples. -/
def analyzeSampleGapDistribution (samples : List Json) : Json :=
  let gaps := gapsMs (sampleStamps samples)
  let nonNegativeGaps := gaps.filter fun gap => 0 ≤ gap
  let meanGap :=
    if nonNegativeGaps.isEmpty then none
    else some (nonNegativeGaps.sum / nonNegativeGaps.length)
  let p95 := Json.ofFloat? (percentile nonNegativeGaps (19 / 20))
  let p99 := Json.ofFloat? (percentile nonNegativeGaps (99 / 100))
  .obj [("gap_count", .int gaps.length), ("gap_mean_ms", .ofFloat? meanGap),
    ("gap_p50_ms", .ofFloat? (percentile nonNegativeGaps (1 / 2))),
    ("gap_p90_ms", .ofFloat? (percentile nonNegativeGaps (9 / 10))), ("gap_p95_ms", p95),
    ("sample_gap_p95_ms", p95), ("gap_p99_ms", p99), ("sample_gap_p99_ms", p99),
    ("gap_max_ms", .ofFloat? nonNegativeGaps.max?),
    ("large_gap_count", .int (nonNegativeGaps.countP fun gap => gap > largeGapThresholdMs)),
    ("large_gap_threshold_ms", .float largeGapThresholdMs),
    ("timestamp_monotonic_violations", .int (gaps.countP fun gap => gap < 0)),
    ("duplicate_timestamp_count", .int (gaps.countP fun gap => gap = 0))]

/-! ### Labels -/

/-- What the loop over the rows has counted. -/
structure CoverageScan where
  validCount : ℕ := 0
  invalidCount : ℕ := 0
  tailNoFutureCount : ℕ := 0
  invalidReasonCounts : Dict String ℕ := .empty
  futureGaps : List ℚ := []
  invalidCases : List Json := []

/-- Count a label that is not valid. -/
def CoverageScan.refuse (scan : CoverageScan) (reason : String) : CoverageScan :=
  { scan with
    invalidCount := scan.invalidCount + 1
    invalidReasonCounts := scan.invalidReasonCounts.increment reason }

/-- The label of a row for the horizon of 100 ms. -/
def rowLabel (row : Json) : Except String Json :=
  match row.getD "labels" (.obj []) with
  | .obj labels => .ok ((Json.obj labels).get "horizon_100ms")
  | _ => .error "AttributeError"

/-- What is kept of a label that is not valid. -/
def invalidCase (row label : Json) (reason : String) : Json :=
  .obj [("symbol", row.get "symbol"), ("generation_id", row.get "generation_id"),
    ("last_update_id", row.get "last_update_id"),
    ("local_recv_monotonic_ns", row.get "local_recv_monotonic_ns"),
    ("horizon", .str "horizon_100ms"), ("invalid_reason", .str reason),
    ("target_local_recv_monotonic_ns", label.get "target_local_recv_monotonic_ns"),
    ("future_local_recv_monotonic_ns", label.get "future_local_recv_monotonic_ns"),
    ("future_gap_ms", label.get "future_gap_ms")]

/-- Count the label of a row. -/
def CoverageScan.countLabel (lastTs : Option ℤ) (row : Json) (scan : CoverageScan)
    (label : Json) : CoverageScan :=
  if isDict label then
    let scan := { scan with
      futureGaps := scan.futureGaps ++ (label.get "future_gap_ms").asNumber?.toList }
    if (label.get "valid").isTrue then { scan with validCount := scan.validCount + 1 }
    else
      let reason :=
        ((label.get "invalid_reason").orElse (.str "UNKNOWN_INVALID_REASON")).text
      let target := (label.get "target_local_recv_monotonic_ns").asInt?
      let tail := reason = "NO_FUTURE_SAMPLE" ∧ target.any fun target => lastTs.any (· < target)
      { scan.refuse reason with
        tailNoFutureCount := scan.tailNoFutureCount + if tail then 1 else 0
        invalidCases := scan.invalidCases ++ [invalidCase row label reason] }
  else scan.refuse "MISSING_LABEL"

/-- Go over a row. -/
def CoverageScan.step (lastTs : Option ℤ) (scan : CoverageScan) (row : Json) :
    Except String CoverageScan := do
  return scan.countLabel lastTs row (← rowLabel row)

/-- Counts by their reasons, as a value with the reasons in order. -/
def sortedCounts (counts : Dict String ℕ) : Json :=
  .obj ((counts.entries.insertionSort fun a b => a.1 ≤ b.1).map fun e => (e.1, .int e.2))

/-- A count as a part of another, zero when there is nothing to be a part of. -/
def rateOfCounts (count total : ℕ) : ℚ := if total = 0 then 0 else count / total

/-- The labels of samples for the horizon of 100 ms, and those that are not valid. -/
def extractHorizon100msCoverage (cleanSamples labeledRows : List Json) :
    Except String (Json × List Json) := do
  let lastTs ← cleanSamples.getLast?.mapM timestampOf
  let eligible ← eligibleCount cleanSamples lastTs horizon100
  let scan ← labeledRows.foldlM (CoverageScan.step lastTs) {}
  return (.obj [("max_future_gap_ms", .int horizon100.maxFutureGapMs.num),
    ("eligible_count", .int eligible), ("valid_count", .int scan.validCount),
    ("invalid_count", .int scan.invalidCount),
    ("tail_no_future_count", .int scan.tailNoFutureCount),
    ("valid_rate_all_rows", .float (rateOfCounts scan.validCount labeledRows.length)),
    ("valid_rate_eligible_rows", .float (rateOfCounts scan.validCount eligible)),
    ("invalid_reason_counts", sortedCounts scan.invalidReasonCounts),
    ("future_gap_ms_p50", .ofFloat? (percentile scan.futureGaps (1 / 2))),
    ("future_gap_ms_p90", .ofFloat? (percentile scan.futureGaps (9 / 10))),
    ("future_gap_ms_p95", .ofFloat? (percentile scan.futureGaps (19 / 20))),
    ("future_gap_ms_p99", .ofFloat? (percentile scan.futureGaps (99 / 100))),
    ("future_gap_ms_max", .ofFloat? scan.futureGaps.max?)], scan.invalidCases)

/-! ### Evaluation -/

/-- The fields that every report has. -/
def phase42aRequiredReportFields : List String :=
  ["capture", "dataset_coverage_status", "definition_of_done_status", "hard_fail_reasons",
    "horizon_100ms", "implementation_status", "input_paths", "leakage_check", "phase",
    "primary_failure", "runtime_quality", "runtime_status", "status", "symbol",
    "timestamp_quality", "warning_reasons"]

/-- The fields that say whether a part of the work passes. -/
def phase42aStatusFields : List String :=
  ["implementation_status", "runtime_status", "dataset_coverage_status",
    "definition_of_done_status"]

/-- The fields of the labels. -/
def phase42aHorizonFields : List String :=
  ["max_future_gap_ms", "eligible_count", "valid_count", "invalid_count", "valid_rate_all_rows",
    "valid_rate_eligible_rows"]

/-- The fields of the gaps. -/
def phase42aTimestampFields : List String :=
  ["gap_p95_ms", "gap_p99_ms", "timestamp_monotonic_violations", "duplicate_timestamp_count"]

/-- The counters of the capture that must be zero. -/
def runtimeHardZeroFields : List String :=
  ["sample_before_ready_count", "feed_receive_stale_count", "queue_dropped_messages",
    "sequence_gap_count", "invalid_delta_count", "crossed_book_count", "book_empty_count",
    "one_side_missing_count", "clean_sample_schema_violation_count"]

/-- The fields of a list that are missing, as errors. -/
def missingAs (kind : String) (part : Json) (fields : List String) : List String :=
  (fields.filter fun field => (part.get? field).isNone).map (kind ++ ·)

/-- A field says `pass` or `fail`. Only what can be hashed can be looked for. -/
def statusError (report : Json) (field : String) : Except String (List String) :=
  match report.get? field with
  | none => .ok []
  | some (.str "pass") => .ok []
  | some (.str "fail") => .ok []
  | some (.arr _) => .error "TypeError"
  | some (.obj _) => .error "TypeError"
  | some _ => .ok ["invalid status field: " ++ field]

/-- What is wrong with the fields of a report. -/
def validatePhase42aReportSchema (report : Json) : Except String (List String) := do
  let statusErrors ← phase42aStatusFields.mapM (statusError report)
  let partErrors (name kind : String) (fields : List String) : List String :=
    match report.get name with
    | .obj part => missingAs ("missing " ++ kind ++ " field: ") (.obj part) fields
    | _ => ["missing required object: " ++ name]
  return missingAs "missing required field: " report phase42aRequiredReportFields ++
    statusErrors.flatten ++ partErrors "horizon_100ms" "horizon_100ms" phase42aHorizonFields ++
    partErrors "timestamp_quality" "timestamp_quality" phase42aTimestampFields

/-- The parts of the work that an evaluation judges. -/
inductive CoverageArea
  | implementation | runtime | dataset
  deriving DecidableEq

/-- What a check of a report finds: the part of the work that fails, the reason, and the name of
the failure. A failure that overrides is named whatever was named before. -/
structure CoverageFinding where
  area : CoverageArea
  reason : String
  failure : String
  overrides : Bool := false
  deriving DecidableEq

/-- A finding if its condition holds. -/
def foundWhen (condition : Bool) (finding : CoverageFinding) : List CoverageFinding :=
  if condition then [finding] else []

/-- A part of a report says that something is greater than a limit. -/
def exceedsWhen (area : CoverageArea) (part : Json) (field : String) (limit : ℚ)
    (label failure : String) : List CoverageFinding :=
  foundWhen ((part.get field).num > limit)
    ⟨area, label ++ StageGate.printed (part.get field), failure, false⟩

/-- A counter of a part of a report is not zero. -/
def positiveWhen (area : CoverageArea) (part : Json) (field failure : String) :
    List CoverageFinding :=
  exceedsWhen area part field 0 (field ++ " > 0: ") failure

/-- What the checks of the capture find. -/
def captureModeFindings (report : Json) : List CoverageFinding :=
  let capture := (report.get "capture").asDict
  foundWhen ((report.get "fresh_capture_required").isTrue &&
      !(capture.get "fresh_capture_performed").truthy)
    ⟨.implementation, "fresh capture required but not performed", "fresh_capture_not_performed",
      false⟩ ++
  foundWhen ((capture.get "fresh_capture_performed").isTrue &&
      (capture.get "duration_sec").num < 1800)
    ⟨.runtime, "fresh capture duration_sec < 1800", "fresh_capture_duration_too_short", false⟩ ++
  foundWhen (capture.get "downsampling_enabled").isTrue
    ⟨.runtime, "downsampling_enabled must be false", "downsampling_enabled", false⟩ ++
  foundWhen (!(capture.get "emits_every_accepted_delta").isTrue)
    ⟨.runtime, "emits_every_accepted_delta must be true", "not_emitting_every_accepted_delta",
      false⟩

/-- What the checks of the runtime find. -/
def runtimeQualityFindings (report : Json) : List CoverageFinding :=
  let runtimeQuality := (report.get "runtime_quality").asDict
  (runtimeHardZeroFields.flatMap fun field =>
    positiveWhen .runtime runtimeQuality field "phase_4_1_1_runtime_invariant_failed") ++
  exceedsWhen .runtime runtimeQuality "snapshot_copy_p99_us" 200 "snapshot_copy_p99_us > 200: "
    "phase_4_1_1_runtime_invariant_failed"

/-- What the checks of the dataset find. -/
def sampleGapFindings (report : Json) : List CoverageFinding :=
  let timestampQuality := (report.get "timestamp_quality").asDict
  foundWhen ((report.get "clean_sample_count").num ≤ 0)
    ⟨.dataset, "clean sample count = 0", "clean_sample_count_zero", false⟩ ++
  foundWhen ((report.get "labeled_sample_count").num ≤ 0)
    ⟨.dataset, "labeled sample count = 0", "labeled_sample_count_zero", false⟩ ++
  positiveWhen .dataset timestampQuality "timestamp_monotonic_violations"
    "timestamp_monotonic_violation" ++
  positiveWhen .dataset timestampQuality "duplicate_timestamp_count" "duplicate_timestamp" ++
  exceedsWhen .dataset timestampQuality "gap_p95_ms" 100 "sample_gap_p95_ms > 100: "
    "sample_gap_p95_above_threshold" ++
  exceedsWhen .dataset timestampQuality "gap_p99_ms" 200 "sample_gap_p99_ms > 200: "
    "sample_gap_p99_above_threshold"

/-- Whether labels were allowed another gap than the 100 ms that they may have. -/
def policyRelaxed (report : Json) : Except String Bool := do
  return (← statedGap (report.get "horizon_100ms").asDict) ≠ 100

/-- A number that is not negative, to six decimals. -/
def formatMillionths (q : ℚ) : String :=
  let millionths := roundHalfEven (q * 1000000)
  toString (millionths / 1000000) ++ "." ++ paddedDigits 6 (millionths % 1000000)

/-- What the checks of the labels find. -/
def labelRateFindings (report : Json) (relaxed : Bool) : List CoverageFinding :=
  let horizon := (report.get "horizon_100ms").asDict
  let validRate := (horizon.get "valid_rate_eligible_rows").num
  foundWhen relaxed
    ⟨.dataset, "horizon_100ms max_future_gap_ms != 100", "horizon_100ms_policy_relaxed", true⟩ ++
  foundWhen (validRate < required100msValidRate)
    ⟨.dataset, "horizon_100ms valid_rate_eligible_rows " ++ formatMillionths validRate ++
      " below threshold 0.95", "horizon_100ms_valid_rate_below_threshold", !relaxed⟩

/-- What the checks of leakage find. -/
def labelLeakageFindings (report : Json) : List CoverageFinding :=
  let leakage := (report.get "leakage_check").asDict
  positiveWhen .implementation leakage "feature_leakage_violations" "feature_leakage" ++
  positiveWhen .implementation leakage "label_leakage_violations" "label_leakage"

/-- What the evaluation of a report finds, in order. -/
def coverageFindings (report : Json) : Except String (List CoverageFinding) := do
  let schemaErrors ← validatePhase42aReportSchema report
  let relaxed ← policyRelaxed report
  return schemaErrors.map (fun error =>
      ⟨.implementation, "report schema invalid: " ++ error, "report_schema_invalid", false⟩) ++
    captureModeFindings report ++ runtimeQualityFindings report ++ sampleGapFindings report ++
    labelRateFindings report relaxed ++ labelLeakageFindings report

/-- The failure that is named: the first one, or the last that overrides. -/
def namedFailure (found : List CoverageFinding) : Option String :=
  found.foldl (fun named finding =>
    if finding.overrides then some finding.failure else named.or (some finding.failure)) none

/-- A status as text. -/
def statusText (passes : Bool) : Json := .str (if passes then "pass" else "fail")

/-- Whether a part of the work has no finding. -/
def areaPasses (found : List CoverageFinding) (area : CoverageArea) : Bool :=
  found.all fun finding => finding.area ≠ area

/-- What an evaluation writes into a report. -/
def coverageVerdict (found : List CoverageFinding) (warnings : List String) :
    List (String × Json) :=
  [("implementation_status", statusText (areaPasses found .implementation)),
    ("runtime_status", statusText (areaPasses found .runtime)),
    ("dataset_coverage_status", statusText (areaPasses found .dataset)),
    ("definition_of_done_status", statusText found.isEmpty),
    ("status", statusText found.isEmpty),
    ("primary_failure", .ofText? (namedFailure found)),
    ("hard_fail_reasons",
      .arr ((fromKeys (found.map CoverageFinding.reason)).map .str)),
    ("warning_reasons", .arr ((sortedSet warnings).map .str))]

/-- Evaluate a report. -/
def evaluatePhase42aReport (report : Json) : Except String Json := do
  let warnings ← iterated ((report.get "warning_reasons").orElse (.arr []))
  let found ← coverageFindings report
  return writeFields report (coverageVerdict found (warnings.map Json.text))

end SomethingTrade
