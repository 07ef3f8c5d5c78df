import SomethingTrade.DatasetReport

/-!
# The Readiness of a Dataset

The readiness of a dataset is decided twice: by a cascade of conditions, which classifies the
dataset, and by a list of checks, which tells what is wrong with it. A dataset that is classified
as ready has no blocking issue. A dataset that is not ready should have a check that says why; it
does, but for the tradable windows: the cascade asks for them, and the check of the times asks
only for the delays.

## Representation

* A `Gate` is a condition of the cascade; the cascade itself is translated as it is written, and
  `classify_of_causes`, `classify_of_open` say that it is the first gate that blocks.

## Main results

* `no_blockingIssues_of_open`: where no gate blocks, no issue is blocking.
* `readiness_agrees_iff`: the cascade and the checks agree exactly where not the windows alone are
  missing.
-/

namespace SomethingTrade

/-! ### Thresholds -/

/-- The fewest successes. -/
def minSuccessRowsForEmpirical : ℕ := 100

/-- The fewest primary rows of a strong dataset. -/
def strongPrimaryRowsForBaselineModelResearch : ℕ := 10000

/-- The fewest successes of a strong dataset. -/
def strongSuccessRowsForBaselineModelResearch : ℕ := 1000

/-! ### The checks -/

namespace DatasetReport

/-- How many delays, windows and edges there are. -/
def delayCount (report : DatasetReport) : ℕ :=
  report.timingAnalysis.executableRepricingDelayMs.count

@[inherit_doc delayCount]
def windowCount (report : DatasetReport) : ℕ := report.timingAnalysis.tradableWindowMs.count

@[inherit_doc delayCount]
def edgeCount (report : DatasetReport) : ℕ := report.edgeAnalysis.exitEdgeTicks.count

/-- How many buckets have enough rows. -/
def bucketSufficientCount (report : DatasetReport) : ℕ :=
  report.empiricalBucketAnalysis.buckets.countP fun bucket => bucket.rowCount ≥ minBucketRows

end DatasetReport

/-- The warning that the rows cover less than the runtime. -/
def coverageShorter : String := "gap_event_coverage_shorter_than_runtime"

/-- The checks of a report, with that of the stale quotes. -/
def checksWith (report : DatasetReport) (staleCheck : ReadinessCheck) : List ReadinessCheck :=
  let tierDRate := report.datasetHealth.tierDRate
  let bookIncompleteRate := report.datasetHealth.bookIncompleteRate
  let coverage := report.runtimeCoverageAnalysis
  [check "parsed_rows_nonzero" (report.inputAudit.parsedJsonRows > 0)
      (.int report.inputAudit.parsedJsonRows) (.str "> 0") .blocking
      "parsed rows must be nonzero",
    check "primary_rows_nonzero" (report.datasetHealth.primaryRows > 0)
      (.int report.datasetHealth.primaryRows) (.str "> 0") .blocking
      "primary rows must be nonzero",
    check "core_schema_present" (report.schemaAudit.coreFieldsMissing = [])
      (.arr (report.schemaAudit.coreFieldsMissing.map .str)) (.str "no missing core fields")
      .blocking "schema must include core fields",
    check "primary_rows_minimum" (report.datasetHealth.primaryRows ≥ minPrimaryRows)
      (.int report.datasetHealth.primaryRows) (.int minPrimaryRows) .blocking
      "primary rows should meet the Phase 4 minimum",
    check "tier_d_rate" (tierDRate ≤ maxTierDRate) (.float tierDRate) (.float maxTierDRate)
      .blocking "D-tier diagnostic row share should be below threshold",
    staleCheck,
    check "quote_age_fields_missing" (!report.staleFeedAnalysis.quoteAgeFieldsMissing)
      (.bool report.staleFeedAnalysis.quoteAgeFieldsMissing) (.bool false) .warning
      "quote_age_fields_missing",
    check "book_incomplete_rate" (bookIncompleteRate ≤ maxBookIncompleteRate)
      (.float bookIncompleteRate) (.float maxBookIncompleteRate) .blocking
      "book incomplete reject rate should be below threshold",
    check "runtime_gap_event_coverage" (coverageShorter ∉ coverage.warningFlags)
      ((coverage.gapEventTimeCoverageRatio.map Json.float).getD .null)
      (.str ">= 0.50 when runtime summary JSONL is provided") .warning coverageShorter,
    check "success_rows_for_empirical"
      (report.datasetHealth.successCount ≥ minSuccessRowsForEmpirical)
      (.int report.datasetHealth.successCount) (.int minSuccessRowsForEmpirical) .warning
      "measured executable repricing success rows should support empirical summaries",
    check "timing_fields_available" (report.delayCount > 0) (.int report.delayCount)
      (.str "> 0") .blocking "executable repricing delay should be available",
    check "edge_tick_fields_available" (report.edgeCount > 0) (.int report.edgeCount)
      (.str "> 0") .blocking "tick-normalized edge should be available",
    check "cohort_sensitivity_stable" (report.cohortSensitivity.conclusion ≠ .unstable)
      (.str report.cohortSensitivity.conclusion.name) (.str "stable or insufficient_data")
      .blocking "quality cohort sensitivity should not be unstable",
    check "empirical_bucket_samples" (report.bucketSufficientCount > 0)
      (.int report.bucketSufficientCount)
      (.str (">= 1 bucket with " ++ toString minBucketRows ++ "+ rows")) .warning
      "at least one empirical bucket should have enough rows"]

/-- The checks of a report. -/
def readinessChecks (report : DatasetReport) : Except String (List ReadinessCheck) := do
  let staleCheck ← quoteStaleCheck report.staleFeedAnalysis
  .ok (checksWith report staleCheck)

/-! ### The cascade -/

/-- How ready a dataset is. -/
inductive Classification
  | notReady
  | needsMoreData
  | needsMoreCleaning
  | readyForEmpiricalResearch
  | readyForBaselineModelResearch
  deriving DecidableEq

/-- Whether a dataset is ready for some research. -/
def Classification.isReady : Classification → Bool
  | .readyForEmpiricalResearch | .readyForBaselineModelResearch => true
  | _ => false

namespace DatasetReport

/-- Whether the times are available. -/
def timingAvailable (report : DatasetReport) : Bool :=
  report.delayCount > 0 ∧ report.windowCount > 0

/-- Whether the edges are available. -/
def edgeAvailable (report : DatasetReport) : Bool := report.edgeCount > 0

/-- Whether a report passes the stronger conditions. -/
def isStrong (report : DatasetReport) : Bool :=
  report.datasetHealth.primaryRows ≥ strongPrimaryRowsForBaselineModelResearch ∧
    report.datasetHealth.successCount ≥ strongSuccessRowsForBaselineModelResearch ∧
    report.datasetHealth.tierDRate ≤ 0.05 ∧
    rateAtOrBelow report.staleFeedAnalysis.quoteStaleRate 0.02 ∧
    report.sparseBucketCount = 0 ∧ report.warnings = []

end DatasetReport

/-- The classification of a report with enough rows, with its reason. -/
def classifyQuality (report : DatasetReport) : Classification × String :=
  if report.datasetHealth.tierDRate > maxTierDRate ∨
      gt report.staleFeedAnalysis.quoteStaleRate maxQuoteStaleRate ∨
      report.datasetHealth.bookIncompleteRate > maxBookIncompleteRate ∨
      report.cohortSensitivity.conclusion = .unstable then
    (.needsMoreCleaning,
      "quality, staleness, book completeness, or cohort stability failed checks")
  else if !report.timingAvailable ∨ !report.edgeAvailable then
    (.needsMoreCleaning,
      "timing or tick-normalized edge fields are not sufficiently available")
  else if report.isStrong then
    (.readyForBaselineModelResearch,
      "dataset passes stronger conservative baseline-model readiness checks")
  else
    (.readyForEmpiricalResearch,
      "dataset is sufficient for descriptive microstructure empirical research")

/-- The classification of a report, with its reason. -/
def classify (report : DatasetReport) : Classification × String :=
  if report.inputAudit.parsedJsonRows = 0 then (.notReady, "parsed rows are zero")
  else if report.datasetHealth.primaryRows = 0 then (.notReady, "primary rows are zero")
  else if report.schemaAudit.coreFieldsMissing ≠ [] then
    (.notReady, "schema is missing core fields")
  else if report.datasetHealth.primaryRows < minPrimaryRows then
    (.needsMoreData, "primary row count is below the Phase 4 threshold")
  else if report.datasetHealth.successCount < minSuccessRowsForEmpirical then
    (.needsMoreData, "measured executable repricing success rows are below threshold")
  else classifyQuality report

/-- What to do with a dataset. -/
def recommendedNextPhase : Classification → String
  | .notReady => "Do not proceed to model prediction yet"
  | .needsMoreData => "Collect more Phase 3 data"
  | .needsMoreCleaning => "Fix order book/data quality issues"
  | .readyForEmpiricalResearch => "Run Phase 5.0 microstructure empirical signal research"
  | .readyForBaselineModelResearch => "Run Phase 4.1 cleaning and label refinement"

/-- How ready a dataset is, and why. -/
structure ReadinessAssessment where
  classification : Classification
  reasons : List String
  blockingIssues : List String
  nonBlockingWarnings : List String
  recommendedNextPhase : String
  checks : List ReadinessCheck

/-- The messages of the failed checks that block. -/
def blockingIssuesOf (checks : List ReadinessCheck) : List String :=
  (checks.filter fun c => c.status = .fail ∧ c.severity = .blocking).map (·.message)

/-- The messages of the other checks that did not pass. -/
def nonBlockingWarningsOf (checks : List ReadinessCheck) : List String :=
  (checks.filter fun c => (c.status = .fail ∨ c.status = .warn) ∧ c.severity ≠ .blocking).map
    (·.message)

/-- The assessment of a report. -/
def buildReadinessAssessment (report : DatasetReport) : Except String ReadinessAssessment := do
  let checks ← readinessChecks report
  let (classification, reason) := classify report
  .ok
    { classification := classification
      reasons := [reason]
      blockingIssues := blockingIssuesOf checks
      nonBlockingWarnings := sortedSet (nonBlockingWarningsOf checks ++
        if classification ≠ .readyForBaselineModelResearch then
          ["Do not proceed to model prediction yet"]
        else [])
      recommendedNextPhase := recommendedNextPhase classification
      checks := checks }

/-! ### The gates -/

/-- The conditions of the cascade. -/
inductive Gate
  | parsedRows
  | primaryRows
  | coreSchema
  | primaryMinimum
  | successRows
  | tierD
  | quoteStale
  | bookIncomplete
  | cohorts
  | timing
  | edges
  deriving DecidableEq

namespace Gate

/-- A gate blocks a report. -/
def Blocks (report : DatasetReport) : Gate → Prop
  | .parsedRows => report.inputAudit.parsedJsonRows = 0
  | .primaryRows => report.datasetHealth.primaryRows = 0
  | .coreSchema => report.schemaAudit.coreFieldsMissing ≠ []
  | .primaryMinimum => report.datasetHealth.primaryRows < minPrimaryRows
  | .successRows => report.datasetHealth.successCount < minSuccessRowsForEmpirical
  | .tierD => report.datasetHealth.tierDRate > maxTierDRate
  | .quoteStale => gt report.staleFeedAnalysis.quoteStaleRate maxQuoteStaleRate
  | .bookIncomplete => report.datasetHealth.bookIncompleteRate > maxBookIncompleteRate
  | .cohorts => report.cohortSensitivity.conclusion = .unstable
  | .timing => ¬ report.timingAvailable
  | .edges => ¬ report.edgeAvailable

/-- The branch of the cascade that a gate belongs to. -/
def branch : Gate → ℕ
  | .parsedRows => 0
  | .primaryRows => 1
  | .coreSchema => 2
  | .primaryMinimum => 3
  | .successRows => 4
  | .tierD | .quoteStale | .bookIncomplete | .cohorts => 5
  | .timing | .edges => 6

/-- The classification that a gate gives. -/
def classification : Gate → Classification
  | .parsedRows | .primaryRows | .coreSchema => .notReady
  | .primaryMinimum | .successRows => .needsMoreData
  | .tierD | .quoteStale | .bookIncomplete | .cohorts | .timing | .edges => .needsMoreCleaning

/-- The check of the condition of a gate. -/
def checkName : Gate → String
  | .parsedRows => "parsed_rows_nonzero"
  | .primaryRows => "primary_rows_nonzero"
  | .coreSchema => "core_schema_present"
  | .primaryMinimum => "primary_rows_minimum"
  | .successRows => "success_rows_for_empirical"
  | .tierD => "tier_d_rate"
  | .quoteStale => "quote_stale_rate"
  | .bookIncomplete => "book_incomplete_rate"
  | .cohorts => "cohort_sensitivity_stable"
  | .timing => "timing_fields_available"
  | .edges => "edge_tick_fields_available"

/-- A gate causes the classification: it blocks, and no gate of an earlier branch does. -/
def Causes (report : DatasetReport) (gate : Gate) : Prop :=
  gate.Blocks report ∧ ∀ other : Gate, other.Blocks report → gate.branch ≤ other.branch

/-- Of the gates that block, one causes the classification. -/
theorem exists_causes {report : DatasetReport} {gate : Gate} (h : gate.Blocks report) :
    ∃ cause : Gate, cause.Causes report := by
  obtain ⟨cause, hblocks, hmin⟩ := (InvImage.wf branch Nat.lt_wfRel.wf).has_min
    {g : Gate | g.Blocks report} ⟨gate, h⟩
  exact ⟨cause, hblocks, fun other hother => not_lt.mp (hmin other hother)⟩

/-- The gates of an earlier branch than a cause are open. -/
theorem Causes.not_blocks {report : DatasetReport} {gate : Gate} (h : gate.Causes report)
    (other : Gate) (hlt : other.branch < gate.branch) : ¬ other.Blocks report :=
  fun hother => absurd (h.2 other hother) (not_le.mpr hlt)

end Gate

/-! ### The cascade is its first gate that blocks -/

/-- Where the gates on the rows are open, the cascade looks at the qualities. -/
theorem classify_of_rows {report : DatasetReport}
    (h : ∀ gate : Gate, gate.branch < 5 → ¬ gate.Blocks report) :
    classify report = classifyQuality report := by
  have hparsed := h .parsedRows (by decide)
  have hprimary := h .primaryRows (by decide)
  have hschema := h .coreSchema (by decide)
  have hminimum := h .primaryMinimum (by decide)
  have hsuccess := h .successRows (by decide)
  simp only [Gate.Blocks] at hparsed hprimary hschema hminimum hsuccess
  rw [classify, if_neg hparsed, if_neg hprimary, if_neg hschema, if_neg hminimum,
    if_neg hsuccess]

/-- A gate on the rows that causes the classification gives it. -/
theorem classify_of_causes_rows {report : DatasetReport} {gate : Gate}
    (h : gate.Causes report) (hlt : gate.branch < 5) :
    (classify report).1 = gate.classification := by
  have hblocks := h.1
  have hparsed := h.not_blocks .parsedRows
  have hprimary := h.not_blocks .primaryRows
  have hschema := h.not_blocks .coreSchema
  have hminimum := h.not_blocks .primaryMinimum
  simp only [Gate.Blocks] at hparsed hprimary hschema hminimum
  rw [classify]
  cases gate with
  | parsedRows => rw [if_pos (by exact hblocks)]; rfl
  | primaryRows => rw [if_neg (hparsed (by decide)), if_pos (by exact hblocks)]; rfl
  | coreSchema =>
      rw [if_neg (hparsed (by decide)), if_neg (hprimary (by decide)), if_pos (by exact hblocks)]
      rfl
  | primaryMinimum =>
      rw [if_neg (hparsed (by decide)), if_neg (hprimary (by decide)),
        if_neg (hschema (by decide)), if_pos (by exact hblocks)]
      rfl
  | successRows =>
      rw [if_neg (hparsed (by decide)), if_neg (hprimary (by decide)),
        if_neg (hschema (by decide)), if_neg (hminimum (by decide)), if_pos (by exact hblocks)]
      rfl
  | _ => exact absurd hlt (by decide)

/-- A gate on the qualities that blocks gives the classification. -/
theorem classifyQuality_of_blocks {report : DatasetReport} {gate : Gate}
    (h : gate.Blocks report) (hle : 5 ≤ gate.branch) :
    (classifyQuality report).1 = gate.classification := by
  rw [classifyQuality]
  split
  · cases gate with
    | tierD | quoteStale | bookIncomplete | cohorts | timing | edges => rfl
    | _ => exact absurd hle (by decide)
  · rename_i hquality
    simp only [not_or] at hquality
    obtain ⟨htier, hstale, hbook, hcohorts⟩ := hquality
    cases gate with
    | tierD => exact absurd h htier
    | quoteStale => exact absurd h hstale
    | bookIncomplete => exact absurd h hbook
    | cohorts => exact absurd h hcohorts
    | timing => rw [if_pos (.inl (by simpa [Gate.Blocks] using h))]; rfl
    | edges => rw [if_pos (.inr (by simpa [Gate.Blocks] using h))]; rfl
    | _ => exact absurd hle (by decide)

/-- A gate that causes the classification gives it. -/
theorem classify_of_causes {report : DatasetReport} {gate : Gate} (h : gate.Causes report) :
    (classify report).1 = gate.classification := by
  rcases lt_or_ge gate.branch 5 with hrows | hquality
  · exact classify_of_causes_rows h hrows
  · rw [classify_of_rows fun other hother => h.not_blocks other (hother.trans_le hquality)]
    exact classifyQuality_of_blocks h.1 hquality

/-- Where every gate is open, the dataset is ready. -/
theorem classify_of_open {report : DatasetReport} (h : ∀ gate : Gate, ¬ gate.Blocks report) :
    (classify report).1.isReady = true := by
  have htier := h .tierD
  have hstale := h .quoteStale
  have hbook := h .bookIncomplete
  have hcohorts := h .cohorts
  have htiming := h .timing
  have hedges := h .edges
  simp only [Gate.Blocks, not_not] at htier hstale hbook hcohorts htiming hedges
  rw [classify_of_rows fun gate _ => h gate, classifyQuality,
    if_neg (by simp only [not_or]; exact ⟨htier, hstale, hbook, hcohorts⟩),
    if_neg (by simp [htiming, hedges])]
  split <;> rfl

/-- The dataset is ready exactly when every gate is open. -/
theorem isReady_iff {report : DatasetReport} :
    (classify report).1.isReady = true ↔ ∀ gate : Gate, ¬ gate.Blocks report := by
  constructor
  · intro hready gate hgate
    obtain ⟨cause, hcause⟩ := Gate.exists_causes hgate
    rw [classify_of_causes hcause] at hready
    cases cause <;> cases hready
  · exact classify_of_open

/-! ### What the checks tell -/

/-- What the check of the stale quotes tells: its name, that it does not pass above the threshold,
and that it blocks only there. -/
theorem quoteStaleCheck_spec {stale : StaleFeedAnalysis} {c : ReadinessCheck}
    (h : quoteStaleCheck stale = .ok c) :
    c.checkName = "quote_stale_rate" ∧
      (gt stale.quoteStaleRate maxQuoteStaleRate = true → c.status ≠ .pass) ∧
      (c.IsBlocking → gt stale.quoteStaleRate maxQuoteStaleRate = true) := by
  rw [quoteStaleCheck] at h
  split at h
  · obtain rfl := Except.ok.inj h
    simp [ReadinessCheck.IsBlocking]
  · split at h
    · cases h
    · rename_i rate hrate
      obtain rfl := Except.ok.inj h
      rw [hrate, gt, Option.any_some, decide_eq_true_eq, ne_eq, check_status_eq_pass,
        isBlocking_check, decide_eq_true_eq, decide_eq_false_iff_not, not_le]
      exact ⟨rfl, id, And.left⟩

/-- Checks are those with the check of the stale quotes. -/
theorem eq_checksWith {report : DatasetReport} {checks : List ReadinessCheck}
    (h : readinessChecks report = .ok checks) :
    ∃ staleCheck, quoteStaleCheck report.staleFeedAnalysis = .ok staleCheck ∧
      checks = checksWith report staleCheck := by
  rw [readinessChecks] at h
  cases hstale : quoteStaleCheck report.staleFeedAnalysis with
  | error e =>
      rw [hstale] at h
      cases h
  | ok staleCheck =>
      rw [hstale] at h
      exact ⟨staleCheck, rfl, (Except.ok.inj h).symm⟩

section Checks

variable {report : DatasetReport} {staleCheck : ReadinessCheck}

/-- Where a gate blocks that is not for want of windows, the check of its condition does not
pass. -/
theorem exists_check_of_blocks
    (hstale : quoteStaleCheck report.staleFeedAnalysis = .ok staleCheck) {gate : Gate}
    (hblocks : gate.Blocks report) (hdelay : gate = .timing → report.delayCount = 0) :
    ∃ c ∈ checksWith report staleCheck, c.checkName = gate.checkName ∧ c.status ≠ .pass := by
  obtain ⟨hname, habove, -⟩ := quoteStaleCheck_spec hstale
  -- the check of a gate is found by its place, and its condition is that the gate is open
  have hat (i : ℕ) {name : String} {passed : Bool} {value threshold : Json}
      {severity : CheckSeverity} {message : String}
      (hi : (checksWith report staleCheck)[i]? =
        some (check name passed value threshold severity message))
      (hpassed : passed = false) :
      ∃ c ∈ checksWith report staleCheck, c.checkName = name ∧ c.status ≠ .pass := by
    refine ⟨_, List.mem_of_getElem? hi, rfl, ?_⟩
    rw [ne_eq, check_status_eq_pass, hpassed]
    exact Bool.false_ne_true
  cases gate with
  | parsedRows => exact hat 0 rfl (by simpa [Gate.Blocks] using hblocks)
  | primaryRows => exact hat 1 rfl (by simpa [Gate.Blocks] using hblocks)
  | coreSchema => exact hat 2 rfl (by simpa [Gate.Blocks] using hblocks)
  | primaryMinimum => exact hat 3 rfl (by simpa [Gate.Blocks] using hblocks)
  | tierD => exact hat 4 rfl (by simpa [Gate.Blocks] using hblocks)
  | quoteStale => exact ⟨_, List.mem_of_getElem? (i := 5) rfl, hname, habove hblocks⟩
  | bookIncomplete => exact hat 7 rfl (by simpa [Gate.Blocks] using hblocks)
  | successRows => exact hat 9 rfl (by simpa [Gate.Blocks] using hblocks)
  | timing => exact hat 10 rfl (by simp [hdelay rfl])
  | edges =>
      exact hat 11 rfl (by simpa [Gate.Blocks, DatasetReport.edgeAvailable] using hblocks)
  | cohorts => exact hat 12 rfl (by simpa [Gate.Blocks] using hblocks)

/-- Where there are delays, the check of the times passes. -/
theorem timing_check_passes
    (hstale : quoteStaleCheck report.staleFeedAnalysis = .ok staleCheck)
    (hdelay : 0 < report.delayCount) :
    ∀ c ∈ checksWith report staleCheck, c.checkName = Gate.timing.checkName →
      c.status = .pass := by
  obtain ⟨hname, -, -⟩ := quoteStaleCheck_spec hstale
  simp [checksWith, Gate.checkName, check_status_eq_pass, hname, hdelay]

/-- **Where every gate is open, no issue is blocking.** -/
theorem no_blockingIssues_of_open
    (hstale : quoteStaleCheck report.staleFeedAnalysis = .ok staleCheck)
    (hopen : ∀ gate : Gate, ¬ gate.Blocks report) :
    blockingIssuesOf (checksWith report staleCheck) = [] := by
  have hstaleCheck : ¬ staleCheck.IsBlocking := fun hblocking =>
    hopen .quoteStale ((quoteStaleCheck_spec hstale).2.2 hblocking)
  have hparsed := hopen .parsedRows
  have hprimary := hopen .primaryRows
  have hschema := hopen .coreSchema
  have hminimum := hopen .primaryMinimum
  have htier := hopen .tierD
  have hbook := hopen .bookIncomplete
  have hcohorts := hopen .cohorts
  have htiming := hopen .timing
  have hedges := hopen .edges
  simp only [Gate.Blocks, not_not, DatasetReport.timingAvailable, DatasetReport.edgeAvailable,
    decide_eq_true_eq] at hparsed hprimary hschema hminimum htier hbook hcohorts htiming hedges
  have hnone : ∀ c ∈ checksWith report staleCheck, ¬ c.IsBlocking := by
    simp [checksWith, isBlocking_check, hstaleCheck, Nat.pos_of_ne_zero hparsed,
      Nat.pos_of_ne_zero hprimary, hschema, hcohorts, htiming.1, hedges, not_lt.mp hminimum,
      not_lt.mp htier, not_lt.mp hbook]
  rw [blockingIssuesOf, List.map_eq_nil_iff, List.filter_eq_nil_iff]
  exact fun c hc => by simpa [ReadinessCheck.IsBlocking] using hnone c hc

end Checks

/-! ### When the cascade and the checks agree -/

/-- What an assessment is made of. -/
theorem assessment_spec {report : DatasetReport} {assessment : ReadinessAssessment}
    (h : buildReadinessAssessment report = .ok assessment) :
    ∃ staleCheck, quoteStaleCheck report.staleFeedAnalysis = .ok staleCheck ∧
      assessment.checks = checksWith report staleCheck ∧
      assessment.classification = (classify report).1 ∧
      assessment.blockingIssues = blockingIssuesOf (checksWith report staleCheck) := by
  rw [buildReadinessAssessment, readinessChecks] at h
  cases hstale : quoteStaleCheck report.staleFeedAnalysis with
  | error e =>
      rw [hstale] at h
      cases h
  | ok staleCheck =>
      rw [hstale] at h
      obtain rfl := Except.ok.inj h
      exact ⟨staleCheck, rfl, rfl, rfl, rfl⟩

/-- The cascade and the checks agree: a dataset that is ready has no issue that blocks, and one
that is not has a gate that caused it and whose check does not pass. -/
structure ReadinessAgrees (report : DatasetReport) (assessment : ReadinessAssessment) : Prop where
  ready : assessment.classification.isReady = true → assessment.blockingIssues = []
  caused : assessment.classification.isReady = false → ∃ gate : Gate, gate.Causes report ∧
    gate.classification = assessment.classification ∧
    ∃ c ∈ assessment.checks, c.checkName = gate.checkName ∧ c.status ≠ .pass

/-- Nothing is missing but the windows: no gate blocks but that of the times, and there are
delays. -/
def OnlyWindowsMissing (report : DatasetReport) : Prop :=
  (∀ gate : Gate, gate.Blocks report → gate = .timing) ∧ 0 < report.delayCount ∧
    report.windowCount = 0

/-- Where not the windows alone are missing, a cause has a check that does not pass. -/
theorem exists_cause_with_check {report : DatasetReport} {staleCheck : ReadinessCheck}
    (hstale : quoteStaleCheck report.staleFeedAnalysis = .ok staleCheck)
    (hwindows : ¬ OnlyWindowsMissing report) {cause : Gate} (hcause : cause.Causes report) :
    ∃ gate : Gate, gate.Causes report ∧ ∃ c ∈ checksWith report staleCheck,
      c.checkName = gate.checkName ∧ c.status ≠ .pass := by
  by_cases hdelay : cause = .timing → report.delayCount = 0
  · exact ⟨cause, hcause, exists_check_of_blocks hstale hcause.1 hdelay⟩
  -- only windows are missing of the times, so another gate blocks, and that is of the edges
  obtain ⟨rfl, hdelays⟩ := Classical.not_imp.mp hdelay
  have hwindow : report.windowCount = 0 := by
    have htiming := hcause.1
    simp only [Gate.Blocks, DatasetReport.timingAvailable, decide_eq_true_eq, not_and, not_lt,
      Nat.le_zero] at htiming
    exact htiming (Nat.pos_of_ne_zero hdelays)
  have hother : ∃ other : Gate, other.Blocks report ∧ other ≠ .timing := by
    by_contra hnone
    push Not at hnone
    exact hwindows ⟨hnone, Nat.pos_of_ne_zero hdelays, hwindow⟩
  obtain ⟨other, hblocks, hne⟩ := hother
  have hedges : other = .edges := by
    have hbranch := hcause.2 other hblocks
    cases other with
    | edges => rfl
    | timing => exact absurd rfl hne
    | _ => exact absurd hbranch (by decide)
  subst hedges
  refine ⟨.edges, ⟨hblocks, hcause.2⟩, exists_check_of_blocks hstale hblocks ?_⟩
  intro heq
  cases heq

/-- An assessment agrees exactly where not the windows alone are missing. -/
theorem readinessAgrees_iff {report : DatasetReport} {assessment : ReadinessAssessment}
    (h : buildReadinessAssessment report = .ok assessment) :
    ReadinessAgrees report assessment ↔ ¬ OnlyWindowsMissing report := by
  obtain ⟨staleCheck, hstale, hchecks, hclass, hissues⟩ := assessment_spec h
  constructor
  · rintro ⟨-, hcaused⟩ ⟨honly, hdelay, hwindow⟩
    have htiming : Gate.timing.Blocks report := by
      simp [Gate.Blocks, DatasetReport.timingAvailable, hwindow]
    have hready : assessment.classification.isReady = false := by
      rw [hclass]
      exact Bool.eq_false_iff.mpr fun hready => isReady_iff.mp hready _ htiming
    obtain ⟨gate, hgate, -, c, hc, hname, hstatus⟩ := hcaused hready
    rw [honly gate hgate.1] at hname
    rw [hchecks] at hc
    exact hstatus (timing_check_passes hstale hdelay c hc hname)
  · intro hwindows
    constructor
    · intro hready
      rw [hclass] at hready
      rw [hissues]
      exact no_blockingIssues_of_open hstale (isReady_iff.mp hready)
    · intro hready
      rw [hclass] at hready ⊢
      rw [hchecks]
      have hblocks : ∃ gate : Gate, gate.Blocks report := by
        by_contra hopen
        push Not at hopen
        rw [isReady_iff.mpr hopen] at hready
        cases hready
      obtain ⟨gate, hgate⟩ := hblocks
      obtain ⟨cause, hcause⟩ := Gate.exists_causes hgate
      obtain ⟨gate, hgate, hcheck⟩ := exists_cause_with_check hstale hwindows hcause
      exact ⟨gate, hgate, (classify_of_causes hgate).symm, hcheck⟩

/-- The check of the stale quotes is always made. -/
theorem exists_quoteStaleCheck (rows : List Json) :
    ∃ c, quoteStaleCheck (buildStaleFeedAnalysis rows) = .ok c := by
  rw [quoteStaleCheck]
  split
  · exact ⟨_, rfl⟩
  · rename_i hfields
    have hage : rows.any hasQuoteAge = true := by
      simpa [buildStaleFeedAnalysis] using hfields
    rw [quoteStaleRate_eq hage]
    exact ⟨_, rfl⟩

/-- A report is assessed. -/
theorem exists_assessment {dataset : Dataset} {options : ReportOptions} {report : DatasetReport}
    (h : buildDatasetReport dataset options = .ok report) :
    ∃ assessment, buildReadinessAssessment report = .ok assessment := by
  obtain ⟨includedRows, primaryRows, tier, rfl⟩ := eq_reportOf h
  obtain ⟨c, hc⟩ := exists_quoteStaleCheck includedRows
  rw [buildReadinessAssessment, readinessChecks, reportOf, hc]
  exact ⟨_, rfl⟩

/-- **When the cascade and the checks agree**: every dataset is assessed, and its classification
agrees with its checks exactly where not the windows alone are missing. -/
theorem readiness_agrees_iff (dataset : Dataset) (options : ReportOptions)
    (h : options.KnownTiers) :
    ∃ report assessment, buildDatasetReport dataset options = .ok report ∧
      buildReadinessAssessment report = .ok assessment ∧
      (ReadinessAgrees report assessment ↔ ¬ OnlyWindowsMissing report) := by
  obtain ⟨report, hreport⟩ := exists_report_iff.mpr h
  obtain ⟨assessment, hassessment⟩ := exists_assessment hreport
  exact ⟨report, assessment, hreport, hassessment, readinessAgrees_iff hassessment⟩

/-- A measured success without a tradable window. -/
def windowlessRow : Json :=
  .obj [("symbol", .str "BTCUSDT"), ("direction", .str "UP"),
    ("detected_ts_ns", .int 1700000000000000000), ("validation_mode", .str "strict"),
    ("data_quality_tier", .str "B"), ("reject_stage", .str "none"),
    ("executable_repricing_delay_ms", .int 80), ("exit_edge_ticks", .int 2),
    ("stale_source", .str "none"), ("binance_quote_age_ms", .int 12)]

/-- Rows without windows. -/
def windowlessDataset (count : ℕ) : Dataset where
  rows := List.replicate count windowlessRow
  malformedRows := 0
  mismatchSamplesFound := false
  runtimeSummary := .skipped

/-- The options of a report when none are given. -/
def defaultOptions : ReportOptions where
  minQualityTier := none
  primaryMinTier := "B"
  includeDiagnostic := false

theorem knownTiers_defaultOptions : defaultOptions.KnownTiers := by
  refine ⟨fun tier h => ?_, by decide⟩
  cases h

/-- The theorem applied to a single row. -/
theorem readiness_agrees_single :
    ∃ report assessment,
      buildDatasetReport (windowlessDataset 1) defaultOptions = .ok report ∧
      buildReadinessAssessment report = .ok assessment ∧
      (ReadinessAgrees report assessment ↔ ¬ OnlyWindowsMissing report) :=
  readiness_agrees_iff _ _ knownTiers_defaultOptions

/-- All rows without windows are primary. -/
theorem buildDatasetReport_windowless (count : ℕ) :
    buildDatasetReport (windowlessDataset count) defaultOptions =
      .ok (reportOf (windowlessDataset count) (List.replicate count windowlessRow)
        (List.replicate count windowlessRow) "B") := by
  have hprimary : filterPrimaryRows (List.replicate count windowlessRow) "B" false =
      List.replicate count windowlessRow :=
    List.filter_replicate_of_pos (by decide)
  have htier : normalizePrimaryTier "B" = .ok "B" := by decide
  rw [buildDatasetReport, defaultOptions, htier]
  exact congrArg (fun rows => Except.ok (reportOf (windowlessDataset count)
    (List.replicate count windowlessRow) rows "B")) hprimary

/-- The numbers of a column of equal rows. -/
theorem metricSummary_count_replicate (count : ℕ) (row : Json) (field : String) :
    (metricSummary (List.replicate count row) field).count =
      if (numberOf? (row.get field)).isSome then count else 0 := by
  rw [metricSummary, summaryValues, numbersOf]
  cases h : numberOf? (row.get field) <;> simp [h]

/-- Of enough rows without windows, nothing is missing but the windows. -/
theorem onlyWindowsMissing_windowless {count : ℕ} (h : minPrimaryRows ≤ count) :
    OnlyWindowsMissing (reportOf (windowlessDataset count) (List.replicate count windowlessRow)
      (List.replicate count windowlessRow) "B") := by
  have hpos : 0 < count := Nat.lt_of_lt_of_le (by decide) h
  have hdelay : numberOf? (windowlessRow.get "executable_repricing_delay_ms") = some 80 := by
    decide
  have hwindow : numberOf? (windowlessRow.get "tradable_window_ms") = none := by decide
  have hedge : numberOf? (windowlessRow.get "exit_edge_ticks") = some 2 := by decide
  refine ⟨fun gate hgate => ?_, ?_, ?_⟩
  · cases gate with
    | timing => rfl
    | parsedRows =>
        simp [Gate.Blocks, reportOf, buildInputAudit, windowlessDataset, hpos.ne'] at hgate
    | primaryRows => simp [Gate.Blocks, reportOf, buildDatasetHealth, hpos.ne'] at hgate
    | coreSchema =>
        have hpresent : ∀ field ∈ coreFields, (windowlessRow.get field).isNull = false := by
          decide
        refine absurd (List.filter_eq_nil_iff.mpr fun field hfield => ?_) hgate
        simp [windowlessDataset, presentCount, List.countP_replicate, hpresent field hfield,
          hpos.ne']
    | primaryMinimum =>
        simp [Gate.Blocks, reportOf, buildDatasetHealth, not_lt.mpr h] at hgate
    | successRows =>
        have hsuccess : (windowlessRow.get "reject_stage").isText "none" = true := by decide
        have hcount : successCount (List.replicate count windowlessRow) = count := by
          simp [successCount, List.countP_replicate, hsuccess]
        simp only [Gate.Blocks, reportOf, buildDatasetHealth, hcount] at hgate
        exact absurd (hgate.trans (by decide : minSuccessRowsForEmpirical < minPrimaryRows))
          (not_lt.mpr h)
    | tierD =>
        have htier : tierKey windowlessRow = "B" := by decide
        have hcount : countFor (keyCounter qualityTiers tierKey
            (List.replicate count windowlessRow)) "D" = 0 := by
          simp [countFor, keyCounter, qualityTiers, List.filter_replicate, htier, List.lookup_cons]
        simp only [Gate.Blocks, reportOf, buildDatasetHealth, DatasetHealth.tierDRate, hcount,
          rateOf, maxTierDRate] at hgate
        norm_num at hgate
    | quoteStale =>
        have hage : (List.replicate count windowlessRow).any hasQuoteAge = true := by
          simp [List.any_replicate, hpos.ne', show hasQuoteAge windowlessRow = true by decide]
        have hcount : (buildStaleFeedAnalysis
            (List.replicate count windowlessRow)).quoteStaleCount = 0 := by
          simp [buildStaleFeedAnalysis, List.countP_replicate,
            show isQuoteStale windowlessRow = false by decide,
            show hasStaleSource windowlessRow = false by decide]
        simp only [Gate.Blocks, reportOf, quoteStaleRate_eq hage, hcount, gt, rateOf,
          maxQuoteStaleRate] at hgate
        norm_num at hgate
    | bookIncomplete =>
        have hnull : (windowlessRow.get "reject_reason").isNull = true := by decide
        have hcounts : (reportOf (windowlessDataset count) (List.replicate count windowlessRow)
            (List.replicate count windowlessRow) "B").datasetHealth.rowsByRejectReason = [] := by
          simp only [reportOf, buildDatasetHealth, List.filter_replicate, hnull]
          rfl
        simp only [Gate.Blocks, DatasetHealth.bookIncompleteRate, hcounts, countFor,
          List.lookup_nil, Option.getD_none, rateOf, maxBookIncompleteRate] at hgate
        norm_num at hgate
    | cohorts =>
        have htier : tierKey windowlessRow = "B" := by decide
        simp [Gate.Blocks, reportOf, buildCohortSensitivity, windowlessDataset, htier,
          minBucketRows] at hgate
    | edges =>
        simp [Gate.Blocks, DatasetReport.edgeAvailable, DatasetReport.edgeCount, reportOf,
          buildEdgeAnalysis, metricSummary_count_replicate, hedge, hpos.ne'] at hgate
  · rw [DatasetReport.delayCount, reportOf, buildTimingAnalysis, metricSummary_count_replicate,
      hdelay]
    exact hpos
  · rw [DatasetReport.windowCount, reportOf, buildTimingAnalysis, metricSummary_count_replicate,
      hwindow]
    rfl

/-- A thousand measured successes without a tradable window need cleaning, and no check of theirs
says that the windows are missing. -/
theorem missing_windows_unchecked :
    ¬ ∀ (dataset : Dataset) (options : ReportOptions), options.KnownTiers →
      ∃ report assessment, buildDatasetReport dataset options = .ok report ∧
        buildReadinessAssessment report = .ok assessment ∧ ReadinessAgrees report assessment := by
  intro h
  obtain ⟨report, assessment, hreport, hassessment, hagrees⟩ :=
    h (windowlessDataset minPrimaryRows) _ knownTiers_defaultOptions
  rw [buildDatasetReport_windowless] at hreport
  obtain rfl := Except.ok.inj hreport
  exact (readinessAgrees_iff hassessment).mp hagrees (onlyWindowsMissing_windowless le_rfl)

end SomethingTrade
