import SomethingTrade.CleanSampleFiles
import SomethingTrade.CoverageReport

/-!
# Recaptures

A recapture runs the tests and a capture, reads the report of the capture and its samples back,
labels the samples, and writes the report of the coverage with a verdict of its own beside it. The
process ends with an exit code. Some failures are found only after the analysis: the report of the
capture is not there or cannot be read, or the bundle cannot be made.

## Representation

* The tests, the capture and the bundle are other programs: a recapture is given their exit codes,
  what they have left in files, and the error the bundle ends with.
* The samples are those of the file at the time of the analysis; durations are finite.
* Of the files that are written, the report, the self-check and the invalid cases are kept.

## Main results

* `runPhase42aAnalysis`, `writePhase42aArtifacts`, `recapture`: the analysis, what is written, and
  the run of the script.
-/

namespace SomethingTrade

/-! ### Building a report -/

/-- What is known of a capture. -/
structure Phase42aCapture where
  freshCapturePerformed : Bool
  fixtureMode : Bool
  durationSec : ℚ
  downsamplingEnabled : Bool := false
  emitsEveryAcceptedDelta : Bool := true
  sampleSource : String := "accepted_depth_delta"

/-- How samples were taken. -/
def Phase42aCapture.policyFields (capture : Phase42aCapture) : List (String × Json) :=
  [("downsampling_enabled", .bool capture.downsamplingEnabled),
    ("emits_every_accepted_delta", .bool capture.emitsEveryAcceptedDelta),
    ("sample_source", .str capture.sampleSource)]

/-- A capture as a value. -/
def Phase42aCapture.toJson (capture : Phase42aCapture) (sampleCount : ℕ) (rate : ℚ) : Json :=
  .obj ([("fresh_capture_performed", .bool capture.freshCapturePerformed),
    ("fixture_mode", .bool capture.fixtureMode), ("duration_sec", .float capture.durationSec),
    ("sample_count", .int sampleCount), ("sample_rate_per_sec", .float rate)] ++
    capture.policyFields)

/-- How many samples there are in a second. -/
def sampleRate (samples : List Json) : Except String ℚ :=
  match samples.head?, samples.getLast? with
  | some first, some last => do
      if samples.length < 2 then return 0
      let lastTs ← timestampOf last
      let firstTs ← timestampOf first
      let durationSec : ℚ := ((lastTs - firstTs : ℤ) : ℚ) / 1000000000
      return if durationSec > 0 then samples.length / durationSec else 0
  | _, _ => .ok 0

/-- The runtime quality as numbers. What is missing, or no number, counts as zero. -/
def normalizeRuntimeQuality (quality : Json) : Json :=
  .obj (runtimeHardZeroFields.map (fun field =>
      let value : ℚ := (quality.get field).num
      (field, Json.int (value.num.tdiv value.den))) ++
    [("snapshot_copy_p99_us", .float (quality.get "snapshot_copy_p99_us").num)])

/-- A leak as a value. -/
def LeakageViolation.toJson : LeakageViolation → Json
  | .feature sampleIndex name sourceIndex reason =>
      .obj [("type", .str "feature"), ("sample_index", .int sampleIndex),
        ("feature", .str name), ("source_index", sourceIndex), ("reason", .str reason)]
  | .label sampleIndex horizon futureIndex futureTimestamp targetTimestamp reason =>
      .obj [("type", .str "label"), ("sample_index", .int sampleIndex),
        ("horizon", .str horizon), ("future_index", futureIndex),
        ("future_local_recv_monotonic_ns", futureTimestamp),
        ("target_local_recv_monotonic_ns", .int targetTimestamp), ("reason", .str reason)]

/-- The result of the check of leakage as a value. -/
def LeakageResult.toJson (leakage : LeakageResult) : Json :=
  .obj [("passed", .bool leakage.passed),
    ("feature_leakage_violations", .int leakage.featureLeakageViolations),
    ("label_leakage_violations", .int leakage.labelLeakageViolations),
    ("violations", .arr (leakage.violations.map LeakageViolation.toJson))]

/-- What stands in the way of the coverage. -/
def bottleneckAssessment (timestampQuality horizon : Json) : String :=
  let validRate := (horizon.get "valid_rate_eligible_rows").num
  let gapP95 := (timestampQuality.get "gap_p95_ms").num
  let gapP99 := (timestampQuality.get "gap_p99_ms").num
  let invalidReasons := horizon.getD "invalid_reason_counts" (.obj [])
  if validRate ≥ required100msValidRate ∧ gapP95 ≤ 100 ∧ gapP99 ≤ 200 then
    "100ms temporal coverage is sufficient under the required hard gates."
  else if isDict invalidReasons && (invalidReasons.get "FUTURE_GAP_TOO_LARGE").num > 0 then
    if gapP95 > 100 ∨ gapP99 > 200 then
      "Coverage failure appears driven by clean sample cadence/public WS jitter: " ++
      "sample gap percentiles exceed the 100ms research requirement, producing " ++
      "FUTURE_GAP_TOO_LARGE 100ms labels."
    else
      "Coverage failure appears driven by target-time future gaps despite acceptable " ++
      "overall sample percentiles; inspect capture protocol and local processing jitter."
  else "Coverage failure root cause is inconclusive from current artifacts."

/-- A path as it is shown. -/
def shownPath (path : String) : String :=
  String.ofList (path.toList.map fun c => if c = '\\' then '/' else c)

/-- What a report is built of. -/
structure Phase42aInputs where
  symbol : String
  cleanSamples : List Json
  labeledRows : List Json
  leakage : LeakageResult
  runtimeQuality : Json
  capture : Phase42aCapture
  sampleRate : ℚ
  freshCaptureRequired : Bool
  cleanPath : String
  labeledPath : String

/-- A report before it is evaluated. -/
def Phase42aInputs.fields (inputs : Phase42aInputs) (horizon : Json) : List (String × Json) :=
  let timestampQuality := analyzeSampleGapDistribution inputs.cleanSamples
  [("phase", .str "4.2A"), ("symbol", .str inputs.symbol), ("status", .str "pass"),
    ("implementation_status", .str "pass"), ("runtime_status", .str "pass"),
    ("dataset_coverage_status", .str "pass"), ("definition_of_done_status", .str "pass"),
    ("primary_failure", .null),
    ("input_paths", .obj [("clean_samples", .str (shownPath inputs.cleanPath)),
      ("labeled_samples", .str (shownPath inputs.labeledPath))]),
    ("capture", inputs.capture.toJson inputs.cleanSamples.length inputs.sampleRate),
    ("capture_policy", .obj inputs.capture.policyFields),
    ("fresh_capture_required", .bool inputs.freshCaptureRequired),
    ("runtime_quality", normalizeRuntimeQuality inputs.runtimeQuality),
    ("timestamp_quality", timestampQuality), ("horizon_100ms", horizon),
    ("leakage_check", inputs.leakage.toJson),
    ("clean_sample_count", .int inputs.cleanSamples.length),
    ("labeled_sample_count", .int inputs.labeledRows.length),
    ("hard_fail_reasons", .arr []), ("warning_reasons", .arr []),
    ("bottleneck_assessment", .str (bottleneckAssessment timestampQuality horizon))]

/-- Build a report, and list the labels that are not valid. -/
def buildPhase42aReport (inputs : Phase42aInputs) : Except String (Json × List Json) := do
  let (horizon, invalidCases) ←
    extractHorizon100msCoverage inputs.cleanSamples inputs.labeledRows
  return (← evaluatePhase42aReport (.obj (inputs.fields horizon)), invalidCases)

/-! ### The report of the capture -/

/-- A file that may hold a report. -/
inductive ReportFile
  | missing
  | invalid (exc : String)
  | loaded (value : Json)

/-- A counter of the report of a capture, wherever it is. -/
def runtimeField (report queue lifecycle : Json) (field : String) : Json :=
  match report.get? field with
  | some value => value
  | none =>
      if field = "queue_dropped_messages" then queue.get "queue_dropped_messages"
      else lifecycle.getD field (queue.get field)

/-- What the report of a capture says of the runtime, and what is wrong with its file. -/
def runtimeQualityFromPhase41Report (path : String) : ReportFile →
    Except String (Json × List String)
  | .missing => .ok (normalizeRuntimeQuality (.obj []), ["Phase 4.1.1 report missing: " ++ path])
  | .invalid exc =>
      .ok (normalizeRuntimeQuality (.obj []), ["Phase 4.1.1 report invalid JSON: " ++ exc])
  | .loaded (.obj fields) =>
      let report := Json.obj fields
      let queue := (report.get "queue").asDict
      let lifecycle := (report.get "lifecycle").asDict
      let quality := Json.obj (runtimeHardZeroFields.map (fun field =>
          (field, runtimeField report queue lifecycle field)) ++
        [("snapshot_copy_p99_us", report.get "snapshot_copy_p99_us")])
      .ok (normalizeRuntimeQuality quality, [])
  | .loaded _ => .error "AttributeError"

/-! ### The analysis -/

/-- Append reasons to those that a report lists. -/
def listReasons (report : Json) (reasons : List String) : Except String Json :=
  match report.get "hard_fail_reasons" with
  | .arr items => .ok (.arr (items ++ reasons.map .str))
  | _ => .error "AttributeError"

/-- What a late failure writes into a report. -/
def lateFailure (report : Json) (areas : List String) (primary : Json) (reasons : List String) :
    Except String Json := do
  let listed ← listReasons report reasons
  return writeFields report (areas.map (fun area => (area, Json.str "fail")) ++
    [("definition_of_done_status", .str "fail"), ("status", .str "fail"),
      ("primary_failure", primary), ("hard_fail_reasons", listed)])

/-- A failure of the file of samples, in its report. -/
def noteInputFailure (report : Json) (classification : Option String) : Except String Json :=
  let note (failure reason : String) : Except String Json :=
    lateFailure report ["dataset_coverage_status"]
      ((report.get "primary_failure").orElse (.str failure)) [reason]
  if classification = some "INPUT_FILE_MISSING" then
    note "input_file_missing" "input clean sample file missing"
  else if classification = some "INPUT_EMPTY" then
    note "input_empty" "input clean sample file empty"
  else .ok report

/-- What is wrong with the report of the capture, in the report of an analysis. -/
def noteRuntimeErrors (report : Json) (runtimeErrors : List String) : Except String Json :=
  if runtimeErrors.isEmpty then .ok report
  else lateFailure report ["runtime_status"]
    ((report.get "primary_failure").orElse (.str "phase_4_1_1_runtime_report_missing"))
    runtimeErrors

/-- What an analysis comes to. -/
structure Phase42aAnalysis where
  report : Json
  labeledRows : List Json
  invalidCases : List Json

/-- The rows of samples, as values; there are none of no samples. -/
def labelSamples (cleanSamples : List Json) : Except String (List Json) :=
  if cleanSamples.isEmpty then .ok []
  else (generateLabeledRows cleanSamples 0).map fun rows => rows.map LabeledRow.toJson

/-- Analyze a file of samples. -/
def runPhase42aAnalysis (symbol cleanPath labeledPath : String) (file : Option (List FileLine))
    (runtimeQuality : Json) (capture : Phase42aCapture) (freshCaptureRequired : Bool) :
    Except String Phase42aAnalysis := do
  let validation := validateCleanSamples cleanPath file
  let cleanSamples := if validation.valid then validation.samples else []
  let labeledRows ← labelSamples cleanSamples
  let rate ← sampleRate cleanSamples
  let (report, invalidCases) ← buildPhase42aReport
    { symbol := symbol
      cleanSamples := cleanSamples
      labeledRows := labeledRows
      leakage := runLeakageCheck labeledRows
      runtimeQuality := runtimeQuality
      capture := capture
      sampleRate := rate
      freshCaptureRequired := freshCaptureRequired
      cleanPath := cleanPath
      labeledPath := labeledPath }
  return ⟨← noteInputFailure report validation.failureClassification, labeledRows, invalidCases⟩

/-! ### What is written -/

/-- The names of the kinds of a failure, in the order in which they are looked for. -/
def classifyPhase42aFailure (report : Json) : Except String String := do
  if (report.get "definition_of_done_status").isText "pass" then
    return "UNKNOWN_PHASE42A_FAILURE"
  let listed ← iterated (report.getD "hard_fail_reasons" (.arr []))
  let reasons := String.intercalate " " (listed.map Json.text)
  let primary := (report.get "primary_failure").text
  return if occursIn "report schema invalid" reasons then "REPORT_SCHEMA_FAILURE"
    else if occursIn "horizon_100ms_policy_relaxed" primary ||
        occursIn "max_future_gap_ms != 100" reasons then "HORIZON_100MS_POLICY_RELAXED"
    else if occursIn "horizon_100ms_valid_rate_below_threshold" primary ||
        occursIn "valid_rate_eligible_rows" reasons then "LABEL_VALID_RATE_FAILURE"
    else if occursIn "timestamp_monotonic" reasons then "TIMESTAMP_MONOTONIC_FAILURE"
    else if occursIn "duplicate_timestamp" reasons then "DUPLICATE_TIMESTAMP_FAILURE"
    else if occursIn "sample_gap_p95" reasons then "SAMPLE_GAP_P95_FAILURE"
    else if occursIn "sample_gap_p99" reasons then "SAMPLE_GAP_P99_FAILURE"
    else if occursIn "feature_leakage" reasons then "FEATURE_LEAKAGE_FAILURE"
    else if occursIn "label_leakage" reasons then "LABEL_LEAKAGE_FAILURE"
    else if occursIn "fresh capture required" reasons || occursIn "capture command" reasons then
      "RUNTIME_CAPTURE_FAILURE"
    else if occursIn "runtime_invariant" primary ||
        runtimeHardZeroFields.any (fun field => occursIn field reasons) then
      "RUNTIME_QUALITY_FAILURE"
    else if occursIn "clean sample count = 0" reasons then "INPUT_EMPTY"
    else "UNKNOWN_PHASE42A_FAILURE"

/-- What is written of a recapture. -/
structure Phase42aArtifacts where
  report : Json
  passed : Bool
  failureClassification : Option String
  bundleCreated : Bool

/-- Write a report, which is evaluated once more, and its self-check. -/
def writePhase42aArtifacts (report : Json) (bundleCreated : Bool) :
    Except String Phase42aArtifacts := do
  let report ← evaluatePhase42aReport report
  let passed := (report.get "definition_of_done_status").isText "pass"
  let classification ← if passed then pure none
    else (classifyPhase42aFailure report).map some
  return ⟨report, passed, classification, bundleCreated⟩

/-! ### The script -/

/-- The report of a recapture that ends before its analysis. -/
def minimalFailureReport (symbol : String) (implementationFails runtimeFails : Bool)
    (primary reason : String) (capture : Phase42aCapture) : Json :=
  .obj [("phase", .str "4.2A"), ("symbol", .str symbol), ("status", .str "fail"),
    ("implementation_status", statusText !implementationFails),
    ("runtime_status", statusText !runtimeFails), ("dataset_coverage_status", .str "fail"),
    ("definition_of_done_status", .str "fail"), ("primary_failure", .str primary),
    ("input_paths", .obj [("clean_samples", .str "data/dataset/orderbook_clean_samples.jsonl"),
      ("labeled_samples", .str "data/dataset/orderbook_labeled_samples.jsonl")]),
    ("capture", capture.toJson 0 0), ("runtime_quality", .obj []),
    ("timestamp_quality", .obj [("timestamp_monotonic_violations", .int 0),
      ("duplicate_timestamp_count", .int 0), ("gap_p95_ms", .null), ("gap_p99_ms", .null)]),
    ("horizon_100ms", .obj [("max_future_gap_ms", .int 100), ("eligible_count", .int 0),
      ("valid_count", .int 0), ("invalid_count", .int 0), ("tail_no_future_count", .int 0),
      ("valid_rate_all_rows", .float 0), ("valid_rate_eligible_rows", .float 0),
      ("invalid_reason_counts", .obj [])]),
    ("leakage_check", .obj [("passed", .bool false), ("feature_leakage_violations", .int 0),
      ("label_leakage_violations", .int 0)]),
    ("hard_fail_reasons", .arr [.str reason]), ("warning_reasons", .arr []),
    ("bottleneck_assessment", .str "Self-check stopped before coverage analysis.")]

/-- A run of the script: its arguments, and what the other programs come to. -/
structure Recapture where
  symbol : String
  durationSec : ℚ
  skipCapture : Bool
  skipPytest : Bool
  noBundle : Bool
  cleanPath : String
  labeledPath : String
  phase41Path : String
  pytestCode : ℤ
  captureCode : ℤ
  phase41 : ReportFile
  samples : Option (List FileLine)
  bundleError : Option String

/-- What a run of the script ends with: its exit code, and what was written last. -/
structure Recaptured where
  exitCode : ℤ
  artifacts : Phase42aArtifacts

/-- A run that ends before its analysis. -/
def endEarly (exitCode : ℤ) (report : Json) : Except String Recaptured := do
  return ⟨exitCode, ← writePhase42aArtifacts report false⟩

/-- The bundle, and what is written after it. -/
def finishBundle (run : Recapture) (report : Json) : Except String Recaptured :=
  let bundled : Json × Except String Phase42aArtifacts :=
    match run.bundleError with
    | some exc => (report, .error exc)
    | none =>
        let report := report.setField "bundle_created" (.bool true)
        (report, writePhase42aArtifacts report true)
  match bundled.2 with
  | .ok artifacts => .ok ⟨0, artifacts⟩
  | .error exc => do
      let failed ← lateFailure bundled.1 [] (.str "bundle_failure") ["bundle failure: " ++ exc]
      return ⟨1, ← writePhase42aArtifacts failed false⟩

/-- What comes after the analysis. -/
def finishAnalysis (run : Recapture) (report : Json) : Except String Recaptured := do
  let artifacts ← writePhase42aArtifacts report false
  if !(report.get "definition_of_done_status").isText "pass" then
    -- the classification is printed
    let _ ← classifyPhase42aFailure report
    return ⟨1, artifacts⟩
  else if run.noBundle then return ⟨0, artifacts⟩
  else finishBundle run report

/-- The runtime quality of a run, and what is wrong with the report of its capture. -/
def Recapture.runtimeQuality (run : Recapture) : Except String (Json × List String) :=
  if run.skipCapture then
    .ok (.obj (runtimeHardZeroFields.map (fun field => (field, Json.int 0)) ++
      [("snapshot_copy_p99_us", .float 0)]), [])
  else runtimeQualityFromPhase41Report run.phase41Path run.phase41

/-- Run the script. -/
def recapture (run : Recapture) : Except String Recaptured :=
  let fixture : Phase42aCapture := ⟨false, run.skipCapture, 0, false, true, "accepted_depth_delta"⟩
  let capture : Phase42aCapture :=
    { fixture with
      freshCapturePerformed := !run.skipCapture && run.captureCode = 0
      durationSec := run.durationSec }
  if !run.skipPytest ∧ run.pytestCode ≠ 0 then
    endEarly run.pytestCode
      (minimalFailureReport run.symbol true false "pytest_failed" "pytest failed" fixture)
  else if !run.skipCapture ∧ run.captureCode ≠ 0 then
    endEarly run.captureCode (minimalFailureReport run.symbol false true "runtime_capture_failed"
      ("capture command exited " ++ toString run.captureCode) capture)
  else do
    let (runtimeQuality, runtimeErrors) ← run.runtimeQuality
    let analysis ← runPhase42aAnalysis run.symbol run.cleanPath run.labeledPath run.samples
      runtimeQuality capture !run.skipCapture
    finishAnalysis run (← noteRuntimeErrors analysis.report runtimeErrors)

end SomethingTrade
