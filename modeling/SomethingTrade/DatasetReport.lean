import SomethingTrade.EmpiricalBuckets
import SomethingTrade.StaleFeed

/-!
# The Dataset Report

The parts of the dataset report that its readiness is decided on: the counts of the input and of
the schema, the health of the rows, the times and the edges, the coverage of the runtime, the
comparison of the primary rows with all rows, and the warnings.

## Representation

* Of the input, the rows are its decoded lines; of the lines that are no objects only their number
  matters. The mismatch samples matter by whether they are there.
* Rates, medians and their differences are exact.

## Main results

* `exists_report_iff`: a report is built exactly for known tiers.
-/

namespace SomethingTrade

/-! ### Thresholds -/

/-- The fewest primary rows. -/
def minPrimaryRows : ℕ := 1000

/-- The greatest share of rows of the last tier. -/
def maxTierDRate : ℚ := 0.20

/-- The greatest share of rows rejected for an incomplete book. -/
def maxBookIncompleteRate : ℚ := 0.30

/-- The greatest middle of the delays. -/
def maxExecutableDelayP50Ms : ℚ := 1000

/-- The greatest delay but for a twentieth. -/
def maxExecutableDelayP95Ms : ℚ := 5000

/-- The least middle of the windows. -/
def minTradableWindowP50Ms : ℚ := 50

/-- The least window but for the longest twentieth. -/
def minTradableWindowP95Ms : ℚ := 100

/-- The fields a row should have. -/
def coreFields : List String :=
  ["symbol", "direction", "detected_ts_ns", "validation_mode", "data_quality_tier",
    "reject_stage"]

/-! ### The rows -/

/-- The rank of a tier, the best first. -/
def qualityRank (tier : String) : ℕ := qualityTiers.idxOf tier

/-- The tier that rows must have, if one is asked for. -/
def normalizeTierOrNone : Option String → Except String (Option String)
  | none => .ok none
  | some tier =>
      if upper tier ∈ qualityTiers then .ok (some (upper tier))
      else .error ("unknown quality tier: " ++ tier)

/-- The tier that primary rows must have. -/
def normalizePrimaryTier (tier : String) : Except String String :=
  if upper tier ∈ ["A", "B"] then .ok (upper tier)
  else .error "primary_min_tier must be A or B"

/-- The rows of a tier or a better one. -/
def filterQuality (rows : List Json) : Option String → List Json
  | none => rows
  | some tier => rows.filter fun row => qualityRank (tierKey row) ≤ qualityRank tier

/-- The primary rows: those of a tier or a better one, the diagnostic ones only when asked for. -/
def filterPrimaryRows (rows : List Json) (primaryMinTier : String) (includeDiagnostic : Bool) :
    List Json :=
  rows.filter fun row => qualityRank (tierKey row) ≤ qualityRank primaryMinTier ∧
    (includeDiagnostic ∨ validationModeKey row ≠ "diagnostic")

/-- The integers of a column. -/
def intValues (rows : List Json) (field : String) : List ℤ :=
  rows.filterMap fun row =>
    match row.get field with
    | .int n => some n
    | _ => none

/-- The count of a key. -/
def countFor (counts : List (String × ℕ)) (key : String) : ℕ := (counts.lookup key).getD 0

/-! ### The input and its health -/

/-- What is read for the log of the runtime. -/
inductive RuntimeSummary
  | skipped
  | missing
  | read (rows : List Json)

/-- What a report is built from. -/
structure Dataset where
  rows : List Json
  malformedRows : ℕ
  mismatchSamplesFound : Bool
  runtimeSummary : RuntimeSummary

/-- The options of a report. -/
structure ReportOptions where
  minQualityTier : Option String
  primaryMinTier : String
  includeDiagnostic : Bool

/-- What is counted of the input. -/
structure InputAudit where
  parsedJsonRows : ℕ
  malformedJsonLines : ℕ

/-- The counts of the input. -/
def buildInputAudit (dataset : Dataset) : InputAudit where
  parsedJsonRows := dataset.rows.length
  malformedJsonLines := dataset.malformedRows

/-- How many rows have a field. -/
def presentCount (rows : List Json) (field : String) : ℕ :=
  rows.countP fun row => !(row.get field).isNull

/-- The core fields that no row has, and those that some row lacks. -/
structure SchemaAudit where
  coreFieldsMissing : List String
  coreFieldsIncomplete : List String

/-- The core fields that rows lack. -/
def buildSchemaAudit (rows : List Json) : SchemaAudit where
  coreFieldsMissing := coreFields.filter fun field => presentCount rows field = 0
  coreFieldsIncomplete := coreFields.filter fun field =>
    rows ≠ [] ∧ presentCount rows field < rows.length

/-- What is counted of the rows. -/
structure DatasetHealth where
  totalRows : ℕ
  includedRows : ℕ
  primaryRows : ℕ
  rowsByDataQualityTier : List (String × ℕ)
  rowsByRejectReason : List (String × ℕ)
  successCount : ℕ

/-- The counts of the rows. -/
def buildDatasetHealth (rows includedRows primaryRows : List Json) : DatasetHealth where
  totalRows := rows.length
  includedRows := includedRows.length
  primaryRows := primaryRows.length
  rowsByDataQualityTier := keyCounter qualityTiers tierKey includedRows
  rowsByRejectReason :=
    fieldCounter (includedRows.filter fun row => !(row.get "reject_reason").isNull)
      "reject_reason"
  successCount := successCount includedRows

namespace DatasetHealth

/-- The share of rows of the last tier. -/
def tierDRate (health : DatasetHealth) : ℚ :=
  rateOf (countFor health.rowsByDataQualityTier "D") health.includedRows

/-- The share of rows rejected for an incomplete book. -/
def bookIncompleteRate (health : DatasetHealth) : ℚ :=
  rateOf (countFor health.rowsByRejectReason "book_incomplete") health.includedRows

end DatasetHealth

/-! ### Times and edges -/

/-- Whether a measured value is above a threshold. -/
def gt (value : Option ℚ) (threshold : ℚ) : Bool := value.any fun v => v > threshold

/-- Whether a measured value is below a threshold. -/
def lt (value : Option ℚ) (threshold : ℚ) : Bool := value.any fun v => v < threshold

/-- Whether a measured value is at or below a threshold. -/
def rateAtOrBelow (value : Option ℚ) (threshold : ℚ) : Bool := value.any fun v => v ≤ threshold

/-- What is measured of the times. -/
structure TimingAnalysis where
  executableRepricingDelayMs : MetricSummary
  tradableWindowMs : MetricSummary
  latencyReadinessFlags : List (String × Bool)

/-- The times of some rows. -/
def buildTimingAnalysis (rows : List Json) : TimingAnalysis :=
  let executable := metricSummary rows "executable_repricing_delay_ms"
  let tradable := metricSummary rows "tradable_window_ms"
  { executableRepricingDelayMs := executable
    tradableWindowMs := tradable
    latencyReadinessFlags :=
      [("executable_delay_missing", executable.count = 0),
        ("executable_delay_p50_too_high", gt executable.median maxExecutableDelayP50Ms),
        ("executable_delay_p95_too_high", gt executable.p95 maxExecutableDelayP95Ms),
        ("tradable_window_p50_too_small", lt tradable.median minTradableWindowP50Ms),
        ("tradable_window_p95_too_small", lt tradable.p95 minTradableWindowP95Ms)] }

/-- What is measured of the edges. -/
structure EdgeAnalysis where
  exitEdgeTicks : MetricSummary

/-- The edges of some rows. -/
def buildEdgeAnalysis (rows : List Json) : EdgeAnalysis where
  exitEdgeTicks := metricSummary rows "exit_edge_ticks"

/-! ### Mismatches and coverage -/

/-- Whether a row has a mismatch that was tolerated. -/
def rowHasToleratedMismatch (row : Json) : Bool :=
  let reason := lower ((row.get "data_quality_reason").orElse (.str "")).text
  (occursIn "tolerat" reason && occursIn "mismatch" reason) ||
    (occursIn "one_tick" reason || occursIn "1_tick" reason || occursIn "one-tick" reason) ||
    (validationModeKey row = "tolerant" && tierKey row = "B")

/-- The warnings of the calibration of the ticks. -/
structure TickCalibrationAnalysis where
  toleratedMismatchRowCount : ℕ
  warningFlags : List String

/-- The calibration of the ticks: it warns of mismatches without samples. -/
def buildTickCalibrationAnalysis (rows : List Json) (mismatchSamplesFound : Bool) :
    TickCalibrationAnalysis :=
  let tolerated := rows.countP rowHasToleratedMismatch
  { toleratedMismatchRowCount := tolerated
    warningFlags :=
      if mismatchSamplesFound ∨ tolerated = 0 then []
      else ["tolerated_mismatch_rows_without_mismatch_samples"] }

/-- The time from the first to the last of at least two times. -/
def spanOf (times : List ℤ) : Option ℤ :=
  let sorted := times.insertionSort (· ≤ ·)
  match sorted.head?, sorted.getLast? with
  | some first, some last => if 2 ≤ times.length then some (last - first) else none
  | _, _ => none

/-- The warnings of a row of the runtime that nothing happened. -/
def noEventWarnings (row : Json) : List String :=
  (match row.get "no_event_warnings" with
    | .arr items => items.map Json.text
    | _ => []) ++
  if (row.get "no_event_warning").truthy then [(row.get "no_event_warning").text] else []

/-- How much of the runtime the rows cover. -/
structure RuntimeCoverageAnalysis where
  gapEventTimeCoverageRatio : Option ℚ
  warningFlags : List String

/-- The coverage of the runtime by some rows. -/
def buildRuntimeCoverageAnalysis (gapRows : List Json) :
    RuntimeSummary → RuntimeCoverageAnalysis
  | .skipped => ⟨none, []⟩
  | .missing => ⟨none, ["runtime_summary_jsonl_missing"]⟩
  | .read rows =>
      let runtimeRows := rows.filter fun row =>
        (row.get "event_type").isText "runtime_summary" || !(row.get "generated_ts_ns").isNull
      let gapTimestamps := intValues gapRows "detected_ts_ns"
      let runtimeDuration := spanOf (intValues runtimeRows "generated_ts_ns")
      let gapEventDuration := (spanOf gapTimestamps).getD 0
      let coverageRatio : Option ℚ :=
        (runtimeDuration.filter (· > 0)).map fun duration => gapEventDuration / duration
      let isShorter := coverageRatio.any fun ratio => gapTimestamps = [] ∨ ratio < 0.50
      { gapEventTimeCoverageRatio := coverageRatio
        warningFlags := sortedSet
          ((if isShorter then ["gap_event_coverage_shorter_than_runtime"] else []) ++
            if runtimeRows.flatMap noEventWarnings ≠ [] then
              ["runtime_summary_contains_no_event_warnings"]
            else []) }

/-! ### The primary rows beside all rows -/

/-- What is measured of a cohort. -/
structure CohortSummary where
  rowCount : ℕ
  successRate : ℚ
  medianExecutableRepricingDelayMs : Option ℚ
  medianExitEdgeTicks : Option ℚ

/-- The summary of a cohort. -/
def cohortSummary (rows : List Json) : CohortSummary where
  rowCount := rows.length
  successRate := rateOf (successCount rows) rows.length
  medianExecutableRepricingDelayMs := (metricSummary rows "executable_repricing_delay_ms").median
  medianExitEdgeTicks := (metricSummary rows "exit_edge_ticks").median

/-- What a comparison of the primary rows with all rows finds. -/
inductive CohortConclusion
  | insufficientData
  | unstable
  | stable
  deriving DecidableEq

/-- The name of a conclusion. -/
def CohortConclusion.name : CohortConclusion → String
  | .insufficientData => "insufficient_data"
  | .unstable => "unstable"
  | .stable => "stable"

/-- The difference of two measured values. -/
def delta : Option ℚ → Option ℚ → Option ℚ
  | some left, some right => some (left - right)
  | _, _ => none

/-- The comparison of the primary rows with all rows. -/
structure CohortSensitivity where
  primaryVsAllSuccessRateDelta : ℚ
  primaryVsAllDelayDelta : Option ℚ
  primaryVsAllEdgeDelta : Option ℚ
  conclusion : CohortConclusion

/-- Compare the primary rows with all rows. -/
def buildCohortSensitivity (rows primaryRows : List Json) : CohortSensitivity :=
  let aOnly := rows.filter fun row => tierKey row = "A"
  let primary := cohortSummary primaryRows
  let all := cohortSummary rows
  let successDelta := primary.successRate - all.successRate
  let delayDelta :=
    delta primary.medianExecutableRepricingDelayMs all.medianExecutableRepricingDelayMs
  let edgeDelta := delta primary.medianExitEdgeTicks all.medianExitEdgeTicks
  { primaryVsAllSuccessRateDelta := successDelta
    primaryVsAllDelayDelta := delayDelta
    primaryVsAllEdgeDelta := edgeDelta
    conclusion :=
      if primaryRows.length < minPrimaryRows ∨ aOnly.length < minBucketRows ∨
          rows.length < minBucketRows then .insufficientData
      else if |successDelta| > 0.10 then .unstable
      else if delayDelta.any fun d => |d| > 500 then .unstable
      else if edgeDelta.any fun d => |d| > 5 then .unstable
      else .stable }

/-! ### The report -/

/-- What the readiness is decided on. -/
structure DatasetReport where
  inputAudit : InputAudit
  schemaAudit : SchemaAudit
  datasetHealth : DatasetHealth
  timingAnalysis : TimingAnalysis
  edgeAnalysis : EdgeAnalysis
  staleFeedAnalysis : StaleFeedAnalysis
  tickCalibrationAnalysis : TickCalibrationAnalysis
  runtimeCoverageAnalysis : RuntimeCoverageAnalysis
  empiricalBucketAnalysis : EmpiricalBucketAnalysis
  cohortSensitivity : CohortSensitivity

namespace DatasetReport

/-- How many buckets have too few rows. -/
def sparseBucketCount (report : DatasetReport) : ℕ :=
  report.empiricalBucketAnalysis.buckets.countP fun bucket =>
    bucket.insufficientSampleWarning ∧ bucket.rowCount > 0

/-- The warnings of a report. -/
def warnings (report : DatasetReport) : List String :=
  let warn (flag : Bool) (name : String) : List String := if flag then [name] else []
  sortedSet
    (warn (report.inputAudit.malformedJsonLines > 0) "malformed_json_lines_present" ++
      warn (report.schemaAudit.coreFieldsMissing ≠ []) "schema_missing_core_fields" ++
      warn (report.schemaAudit.coreFieldsIncomplete ≠ []) "schema_core_fields_incomplete" ++
      warn (report.datasetHealth.primaryRows < minPrimaryRows) "primary_rows_below_minimum" ++
      warn (report.datasetHealth.tierDRate > maxTierDRate) "tier_d_rate_above_threshold" ++
      warn (gt report.staleFeedAnalysis.quoteStaleRate maxQuoteStaleRate)
        "quote_stale_rate_above_threshold" ++
      warn report.staleFeedAnalysis.quoteAgeFieldsMissing "quote_age_fields_missing" ++
      report.tickCalibrationAnalysis.warningFlags ++
      report.runtimeCoverageAnalysis.warningFlags ++
      warn (report.datasetHealth.bookIncompleteRate > maxBookIncompleteRate)
        "book_incomplete_rate_above_threshold" ++
      (report.timingAnalysis.latencyReadinessFlags.filter Prod.snd).map Prod.fst ++
      warn (report.sparseBucketCount > 0) "empirical_buckets_sparse" ++
      warn (report.cohortSensitivity.conclusion = .unstable) "cohort_sensitivity_unstable")

end DatasetReport

/-- The report on some rows, of tiers that are known. -/
def reportOf (dataset : Dataset) (includedRows primaryRows : List Json)
    (primaryMinTier : String) : DatasetReport where
  inputAudit := buildInputAudit dataset
  schemaAudit := buildSchemaAudit dataset.rows
  datasetHealth := buildDatasetHealth dataset.rows includedRows primaryRows
  timingAnalysis := buildTimingAnalysis includedRows
  edgeAnalysis := buildEdgeAnalysis includedRows
  staleFeedAnalysis := buildStaleFeedAnalysis includedRows
  tickCalibrationAnalysis :=
    buildTickCalibrationAnalysis includedRows dataset.mismatchSamplesFound
  runtimeCoverageAnalysis := buildRuntimeCoverageAnalysis includedRows dataset.runtimeSummary
  empiricalBucketAnalysis := buildEmpiricalBucketAnalysis primaryRows primaryMinTier
  cohortSensitivity := buildCohortSensitivity dataset.rows primaryRows

/-- The report on a dataset. -/
def buildDatasetReport (dataset : Dataset) (options : ReportOptions) :
    Except String DatasetReport := do
  let minQualityTier ← normalizeTierOrNone options.minQualityTier
  let primaryMinTier ← normalizePrimaryTier options.primaryMinTier
  let includedRows := filterQuality dataset.rows minQualityTier
  let primaryRows := filterPrimaryRows includedRows primaryMinTier options.includeDiagnostic
  .ok (reportOf dataset includedRows primaryRows primaryMinTier)

namespace ReportOptions

/-- The tiers of the options are known. -/
def KnownTiers (options : ReportOptions) : Prop :=
  (∀ tier, options.minQualityTier = some tier → upper tier ∈ qualityTiers) ∧
    upper options.primaryMinTier ∈ ["A", "B"]

end ReportOptions

/-- A report is built exactly for known tiers. -/
theorem exists_report_iff {dataset : Dataset} {options : ReportOptions} :
    (∃ report, buildDatasetReport dataset options = .ok report) ↔ options.KnownTiers := by
  rw [buildDatasetReport, ReportOptions.KnownTiers, normalizePrimaryTier]
  cases options.minQualityTier with
  | none => by_cases hprimary : upper options.primaryMinTier ∈ ["A", "B"] <;>
      simp [normalizeTierOrNone, hprimary, bind, Except.bind]
  | some tier =>
      by_cases htier : upper tier ∈ qualityTiers <;>
        by_cases hprimary : upper options.primaryMinTier ∈ ["A", "B"] <;>
          simp [normalizeTierOrNone, htier, hprimary, bind, Except.bind]

/-- A report is one on the rows of some tiers. -/
theorem eq_reportOf {dataset : Dataset} {options : ReportOptions} {report : DatasetReport}
    (h : buildDatasetReport dataset options = .ok report) :
    ∃ includedRows primaryRows tier,
      report = reportOf dataset includedRows primaryRows tier := by
  rw [buildDatasetReport] at h
  cases hmin : normalizeTierOrNone options.minQualityTier with
  | error e =>
      rw [hmin] at h
      cases h
  | ok minQualityTier =>
      cases hprimary : normalizePrimaryTier options.primaryMinTier with
      | error e =>
          rw [hmin, hprimary] at h
          cases h
      | ok primaryMinTier =>
          rw [hmin, hprimary] at h
          exact ⟨_, _, _, (Except.ok.inj h).symm⟩

end SomethingTrade
