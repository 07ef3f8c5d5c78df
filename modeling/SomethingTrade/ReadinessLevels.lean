import Mathlib.Data.Prod.Lex
import Mathlib.Data.String.Basic
import SomethingTrade.LagReports
import SomethingTrade.StableSort

/-!
# The Levels of Readiness

Two phases decide on the readiness of labels: the latency profile and the hot path. Labels of
market time are ready when a source has the times of the exchange and nothing leaks; labels within
a hundred milliseconds are ready when a gate each for the clock, the queue, the sequence and, in
the second phase, the writer and the runtime report is open as well and a source is fast enough.
The relaxed level, of two hundred and fifty milliseconds, asks only for a source: it can be
reached by a dataset that leaks, whose labels are not ready at all.

## Representation

* Rates and lags are read as the dynamic language reads them: a rate that is no number is zero,
  and a lag that is no number is none.

## Main results

* `selectStrict100msCandidate_spec`: the source that is selected.
* `levels_hold_iff`: the levels are ordered, monotone and agreed on exactly where no dataset that
  leaks has a source with the relaxed rate.
-/

namespace SomethingTrade

/-! ### Rates and lags of a source -/

/-- The greatest lag but for a twentieth. -/
def strictLagP95Ms : ℚ := 100

/-- The greatest lag but for a hundredth. -/
def strictLagP99Ms : ℚ := 200

/-- The rate of the exchange time labels of a source. -/
def exchangeTimeRate (report : Json) : ℚ :=
  ((report.get "exchange_time").asDict.get "valid_rate_eligible_rows").num

/-- The metrics of the corrected hybrid labels of a source. -/
def correctedHybridMetrics (report : Json) (budgetMs : ℕ) : Json :=
  ((report.get "corrected_hybrid").asDict.get (correctedBudgetKey budgetMs)).asDict

/-- The rate of the corrected hybrid labels of a source. -/
def correctedHybridRate (report : Json) (budgetMs : ℕ) : ℚ :=
  ((correctedHybridMetrics report budgetMs).get "valid_rate_eligible_rows").num

/-- The lag of a source but for a twentieth. -/
def featureLagP95Ms (report : Json) : Option ℚ :=
  ((correctedHybridMetrics report 100).get "corrected_feature_receive_lag_p95_ms").toFinite?

/-- The lag of a source but for a hundredth. -/
def featureLagP99Ms (report : Json) : Option ℚ :=
  ((correctedHybridMetrics report 100).get "corrected_feature_receive_lag_p99_ms").toFinite?

/-- Whether a source has enough labels of the exchange's times. -/
def isExchangeCandidate (report : Json) : Bool :=
  (report.get "exchange_time_supported").isTrue ∧ exchangeTimeRate report ≥ required100msValidRate

/-- Whether a source meets the limits of the rate and of the lags. -/
def meetsStrictLimits (report : Json) : Bool :=
  correctedHybridRate report 100 ≥ required100msValidRate ∧
    (featureLagP95Ms report).any (· ≤ strictLagP95Ms) ∧
    (featureLagP99Ms report).any (· ≤ strictLagP99Ms)

/-- Whether a source has the relaxed rate. -/
def meetsRelaxedRate (report : Json) : Bool :=
  correctedHybridRate report 250 ≥ required100msValidRate

/-! ### The selected source -/

/-- A source that may be selected. -/
structure StrictCandidate where
  source : String
  protocol : String
  budgetMs : ℕ
  exchangeTimeValidRate : ℚ
  correctedHybridValidRate : ℚ
  correctedFeatureReceiveLagP95Ms : Option ℚ
  correctedFeatureReceiveLagP99Ms : Option ℚ
  clockOffsetSummary : Option Json

/-- The candidate of a source. -/
def strictCandidateOf (clockOffsetSummary : Option Json) (entry : String × Json) :
    StrictCandidate where
  source := entry.1
  protocol := "corrected_hybrid_low_latency_protocol"
  budgetMs := 100
  exchangeTimeValidRate := exchangeTimeRate entry.2
  correctedHybridValidRate := correctedHybridRate entry.2 100
  correctedFeatureReceiveLagP95Ms := featureLagP95Ms entry.2
  correctedFeatureReceiveLagP99Ms := featureLagP99Ms entry.2
  clockOffsetSummary := clockOffsetSummary

/-- Candidates come by their rate, the greatest first, and then by their name. -/
def StrictCandidate.sortKey (candidate : StrictCandidate) : ℚ ×ₗ String :=
  toLex (-candidate.correctedHybridValidRate, candidate.source)

/-- Select a source, where it is allowed. -/
def selectStrict100msCandidate (allowed : Bool) (exchangeCandidates : List (String × Json))
    (clockOffsetSummary : Option Json) : Option StrictCandidate :=
  if allowed then
    (sortBy StrictCandidate.sortKey ((exchangeCandidates.filter fun entry =>
      meetsStrictLimits entry.2).map (strictCandidateOf clockOffsetSummary))).head?
  else none

/-! ### The reports and their gates -/

/-- What the readiness is decided on. -/
structure ReadinessReports where
  sources : List (String × Json)
  leakageResult : Json
  clockSanityReport : Json
  queueReport : Json
  writerReport : Json
  phase41Report : Json
  clockOffsetSummary : Json

/-- The status of a runtime report: the one it names, or else the one it flags. -/
def phase41RuntimeReportStatus (report : Json) : String :=
  let named :=
    match report.getD "phase_4_1_status" (report.get "status") with
    | .str text => lower (String.ofList (Decimal.strip text.toList))
    | _ => ""
  if !report.truthy then "missing"
  else if named ∈ ["pass", "passed"] then "pass"
  else if named ∈ ["fail", "failed"] then "fail"
  else if named ≠ "" then named
  else if (report.get "phase_4_1_pass").isTrue then "pass"
  else if (report.get "phase_4_1_pass").isFalse then "fail"
  else "unknown"

namespace ReadinessReports

/-- How many violations leak a feature. -/
def featureLeaks (reports : ReadinessReports) : ℚ :=
  (reports.leakageResult.get "feature_leakage_violations").num

/-- How many violations leak a label. -/
def labelLeaks (reports : ReadinessReports) : ℚ :=
  (reports.leakageResult.get "label_leakage_violations").num

/-- How many messages the queue dropped. -/
def queueDrops (reports : ReadinessReports) : ℚ :=
  (reports.queueReport.get "queue_dropped_messages").num

/-- How many gaps the sequence has. -/
def sequenceGaps (reports : ReadinessReports) : ℚ :=
  (reports.phase41Report.get "sequence_gap_count").num

/-- Whether nothing leaks. -/
def noLeakage (reports : ReadinessReports) : Bool :=
  reports.featureLeaks = 0 ∧ reports.labelLeaks = 0

/-- Whether the clock is sane. -/
def clockOk (reports : ReadinessReports) : Bool :=
  (reports.clockSanityReport.get "clock_sanity_valid").isTrue

/-- Whether the queue dropped nothing. -/
def queueOk (reports : ReadinessReports) : Bool := reports.queueDrops = 0

/-- Whether the sequence has no gap. -/
def sequenceOk (reports : ReadinessReports) : Bool := reports.sequenceGaps = 0

/-- Whether the writer wrote all. -/
def writerOk (reports : ReadinessReports) : Bool :=
  (reports.writerReport.get "writer_dropped_records").num = 0 ∧
    (reports.writerReport.get "writer_error_count").num = 0 ∧
    (reports.writerReport.get "writer_shutdown_flush_completed").isTrue

/-- The status of the runtime report. -/
def phase41Status (reports : ReadinessReports) : String :=
  phase41RuntimeReportStatus reports.phase41Report

/-- Whether the runtime report passed without a gap. -/
def phase41RuntimeReady (reports : ReadinessReports) : Bool :=
  reports.phase41Status = "pass" ∧ reports.sequenceOk

/-- The sources with enough labels of the exchange's times. -/
def exchangeCandidates (reports : ReadinessReports) : List (String × Json) :=
  reports.sources.filter fun entry => isExchangeCandidate entry.2

/-- Whether the labels of market time are ready. -/
def marketTimeLabelReady (reports : ReadinessReports) : Bool :=
  reports.exchangeCandidates ≠ [] ∧ reports.noLeakage

end ReadinessReports

/-! ### The two versions -/

/-- How ready the labels are. -/
structure ReadinessSemantics where
  marketTimeLabelReady : Bool
  phase41RuntimeReady : Option Bool
  strict100msObservabilityReady : Bool
  relaxed250msObservabilityCandidate : Bool
  lowLatencyReady : Bool
  phase5Ready : Bool
  selectedProtocolCandidate : Option StrictCandidate
  selectedOperationalBudgetMs : Option ℕ
  readinessDecisionReason : String

/-- Whether the relaxed level is reached. -/
def relaxed250 (strictReady : Bool) (exchangeCandidates : List (String × Json)) : Bool :=
  !strictReady && exchangeCandidates.any fun entry => meetsRelaxedRate entry.2

namespace LatencyProfile

/-- Select a source: nothing leaks, and the clock, the queue and the sequence are good. -/
def selectStrict100msCandidate (reports : ReadinessReports) : Option StrictCandidate :=
  SomethingTrade.selectStrict100msCandidate
    (reports.noLeakage && reports.clockOk && reports.queueOk && reports.sequenceOk)
    reports.exchangeCandidates (some reports.clockOffsetSummary)

/-- The readiness of the latency profile. -/
def computeReadinessSemantics (reports : ReadinessReports) : ReadinessSemantics :=
  let strictCandidate := selectStrict100msCandidate reports
  let strictReady := strictCandidate.isSome
  let relaxed := relaxed250 strictReady reports.exchangeCandidates
  { marketTimeLabelReady := reports.marketTimeLabelReady
    phase41RuntimeReady := none
    strict100msObservabilityReady := strictReady
    relaxed250msObservabilityCandidate := relaxed
    lowLatencyReady := strictReady
    phase5Ready := false
    selectedProtocolCandidate := strictCandidate
    selectedOperationalBudgetMs := if strictReady then some 100 else none
    readinessDecisionReason :=
      if strictReady then "strict_100ms_corrected_hybrid_observability_passed"
      else if relaxed then
        "corrected_hybrid_250ms_passed_but_strict_100ms_observability_failed"
      else if reports.marketTimeLabelReady then
        "market_time_label_ready_but_strict_100ms_observability_failed"
      else "market_time_label_not_ready" }

end LatencyProfile

namespace HotPath

/-- Select a source: the labels of market time are ready, and the clock, the queue, the writer and
the runtime report are good. -/
def selectStrict100msCandidate (reports : ReadinessReports) : Option StrictCandidate :=
  SomethingTrade.selectStrict100msCandidate
    (reports.marketTimeLabelReady && reports.clockOk && reports.queueOk && reports.writerOk &&
      reports.phase41RuntimeReady)
    reports.exchangeCandidates none

/-- The readiness of the hot path. -/
def computeReadinessSemantics (reports : ReadinessReports) : ReadinessSemantics :=
  let strictCandidate := selectStrict100msCandidate reports
  let strictReady := strictCandidate.isSome
  let relaxed := relaxed250 strictReady reports.exchangeCandidates
  { marketTimeLabelReady := reports.marketTimeLabelReady
    phase41RuntimeReady := some reports.phase41RuntimeReady
    strict100msObservabilityReady := strictReady
    relaxed250msObservabilityCandidate := relaxed
    lowLatencyReady := strictReady
    phase5Ready := false
    selectedProtocolCandidate := strictCandidate
    selectedOperationalBudgetMs := if strictReady then some 100 else none
    readinessDecisionReason :=
      if strictReady then "strict_100ms_corrected_hybrid_observability_passed"
      else if reports.phase41Status = "fail" then "phase41_runtime_report_failed"
      else if reports.phase41Status = "missing" then "phase41_runtime_report_missing"
      else if reports.phase41Status ≠ "pass" then "phase41_runtime_report_unknown"
      else if !reports.sequenceOk then "phase41_runtime_sequence_gap_detected"
      else if relaxed then
        "corrected_hybrid_250ms_passed_but_strict_100ms_observability_failed"
      else if reports.marketTimeLabelReady then
        "market_time_label_ready_but_strict_100ms_observability_failed"
      else "market_time_label_not_ready" }

end HotPath

/-! ### The selected source -/

/-- A candidate is of the best sources that meet the limits. -/
structure IsBestCandidate (reports : ReadinessReports) (candidate : StrictCandidate) : Prop where
  source : ∃ report, (candidate.source, report) ∈ reports.sources ∧
    isExchangeCandidate report = true ∧ meetsStrictLimits report = true ∧
    candidate.correctedHybridValidRate = correctedHybridRate report 100
  best : ∀ entry ∈ reports.sources, isExchangeCandidate entry.2 = true →
    meetsStrictLimits entry.2 = true →
    correctedHybridRate entry.2 100 ≤ candidate.correctedHybridValidRate

section Selection

variable {allowed : Bool} {reports : ReadinessReports} {clock : Option Json}

/-- **The source that is selected** is one of the best that meet the limits. -/
theorem selectStrict100msCandidate_spec {candidate : StrictCandidate}
    (h : selectStrict100msCandidate allowed reports.exchangeCandidates clock = some candidate) :
    allowed = true ∧ IsBestCandidate reports candidate := by
  rw [selectStrict100msCandidate] at h
  split at h
  · rename_i hallowed
    obtain ⟨hmem, hleast⟩ := le_of_head?_sortBy h
    obtain ⟨entry, hentry, rfl⟩ := List.mem_map.mp hmem
    obtain ⟨hcandidate, hlimits⟩ := List.mem_filter.mp hentry
    obtain ⟨hsource, hexchange⟩ := List.mem_filter.mp hcandidate
    refine ⟨hallowed, ⟨entry.2, hsource, hexchange, hlimits, rfl⟩, fun other hother hex hlim => ?_⟩
    have hle := hleast (strictCandidateOf clock other) (List.mem_map_of_mem
      (List.mem_filter.mpr ⟨List.mem_filter.mpr ⟨hother, hex⟩, hlim⟩))
    rcases Prod.Lex.toLex_le_toLex.mp hle with hlt | ⟨heq, -⟩
    · exact (neg_lt_neg_iff.mp hlt).le
    · exact (neg_inj.mp heq).ge
  · cases h

/-- A source is selected when it is allowed and a source meets the limits. -/
theorem isSome_selectStrict100msCandidate :
    (selectStrict100msCandidate allowed reports.exchangeCandidates clock).isSome = true ↔
      allowed = true ∧ ∃ entry ∈ reports.sources, isExchangeCandidate entry.2 = true ∧
        meetsStrictLimits entry.2 = true := by
  rw [selectStrict100msCandidate]
  split
  · rename_i hallowed
    rw [isSome_head?_sortBy, ne_eq, List.map_eq_nil_iff, List.filter_eq_nil_iff]
    simp [ReadinessReports.exchangeCandidates, hallowed]
  · rename_i hallowed
    simp [hallowed]

/-- The name of the source that is selected does not depend on the summary of the clock. -/
theorem map_source_selectStrict100msCandidate {exchangeCandidates : List (String × Json)} :
    (selectStrict100msCandidate allowed exchangeCandidates clock).map StrictCandidate.source =
      (selectStrict100msCandidate allowed exchangeCandidates none).map StrictCandidate.source := by
  have hmap (clock' : Option Json) :
      (selectStrict100msCandidate allowed exchangeCandidates clock').map StrictCandidate.source =
        if allowed then
          ((sortBy (fun entry => toLex (-correctedHybridRate entry.2 100, entry.1))
            (exchangeCandidates.filter fun entry => meetsStrictLimits entry.2)).head?).map Prod.fst
        else none := by
    rw [selectStrict100msCandidate]
    split
    · rw [sortBy_map, List.head?_map, Option.map_map]
      rfl
    · rfl
  rw [hmap, hmap]

end Selection

/-! ### The levels of a version -/

@[simp] theorem marketTimeLabelReady_iff {reports : ReadinessReports} :
    reports.marketTimeLabelReady = true ↔
      (∃ entry ∈ reports.sources, isExchangeCandidate entry.2 = true) ∧
        reports.noLeakage = true := by
  rw [ReadinessReports.marketTimeLabelReady, ReadinessReports.exchangeCandidates,
    decide_eq_true_eq, ne_eq, List.filter_eq_nil_iff]
  simp

/-- The strict level of the latency profile. -/
theorem LatencyProfile.strict_iff {reports : ReadinessReports} :
    (LatencyProfile.computeReadinessSemantics reports).strict100msObservabilityReady = true ↔
      (reports.noLeakage = true ∧ reports.clockOk = true ∧ reports.queueOk = true ∧
        reports.sequenceOk = true) ∧
      ∃ entry ∈ reports.sources, isExchangeCandidate entry.2 = true ∧
        meetsStrictLimits entry.2 = true := by
  simp only [computeReadinessSemantics, selectStrict100msCandidate]
  rw [isSome_selectStrict100msCandidate]
  simp only [Bool.and_eq_true, and_assoc]

/-- The strict level of the hot path. -/
theorem HotPath.strict_iff {reports : ReadinessReports} :
    (HotPath.computeReadinessSemantics reports).strict100msObservabilityReady = true ↔
      (reports.noLeakage = true ∧ reports.clockOk = true ∧ reports.queueOk = true ∧
        reports.writerOk = true ∧ reports.phase41Status = "pass" ∧ reports.sequenceOk = true) ∧
      ∃ entry ∈ reports.sources, isExchangeCandidate entry.2 = true ∧
        meetsStrictLimits entry.2 = true := by
  simp only [computeReadinessSemantics, selectStrict100msCandidate]
  rw [isSome_selectStrict100msCandidate]
  simp only [Bool.and_eq_true, marketTimeLabelReady_iff, ReadinessReports.phase41RuntimeReady,
    decide_eq_true_eq]
  constructor
  · rintro ⟨⟨⟨⟨⟨⟨-, hleak⟩, hclock⟩, hqueue⟩, hwriter⟩, hstatus, hsequence⟩, hentry⟩
    exact ⟨⟨hleak, hclock, hqueue, hwriter, hstatus, hsequence⟩, hentry⟩
  · rintro ⟨⟨hleak, hclock, hqueue, hwriter, hstatus, hsequence⟩, entry, hmem, hexchange, hlimits⟩
    exact ⟨⟨⟨⟨⟨⟨⟨entry, hmem, hexchange⟩, hleak⟩, hclock⟩, hqueue⟩, hwriter⟩, hstatus, hsequence⟩,
      entry, hmem, hexchange, hlimits⟩

/-- The relaxed level: the strict one is not reached, and a source has the relaxed rate. -/
theorem relaxed250_iff {strictReady : Bool} {reports : ReadinessReports} :
    relaxed250 strictReady reports.exchangeCandidates = true ↔
      strictReady = false ∧ ∃ entry ∈ reports.sources, isExchangeCandidate entry.2 = true ∧
        meetsRelaxedRate entry.2 = true := by
  simp [relaxed250, ReadinessReports.exchangeCandidates]

/-! ### Worse reports -/

/-- A source's report is worse than another: its rates are lower and its lags are higher. -/
structure WorseSource (before after : Json) : Prop where
  supported : (after.get "exchange_time_supported").isTrue = true →
    (before.get "exchange_time_supported").isTrue = true
  exchangeRate : exchangeTimeRate after ≤ exchangeTimeRate before
  hybridRate : ∀ budgetMs, correctedHybridRate after budgetMs ≤ correctedHybridRate before budgetMs
  lagP95 : ∀ lag', featureLagP95Ms after = some lag' →
    ∃ lag, featureLagP95Ms before = some lag ∧ lag ≤ lag'
  lagP99 : ∀ lag', featureLagP99Ms after = some lag' →
    ∃ lag, featureLagP99Ms before = some lag ∧ lag ≤ lag'

/-- Reports are worse than others: their sources are, and leaks, dropped messages and gaps are
added. -/
structure WorseReports (before after : ReadinessReports) : Prop where
  sources : ∀ entry ∈ after.sources, ∃ report, (entry.1, report) ∈ before.sources ∧
    WorseSource report entry.2
  featureLeaks : before.featureLeaks ≤ after.featureLeaks
  labelLeaks : before.labelLeaks ≤ after.labelLeaks
  queueDrops : before.queueDrops ≤ after.queueDrops
  sequenceGaps : before.sequenceGaps ≤ after.sequenceGaps
  clock : after.clockOk = true → before.clockOk = true
  writer : after.writerOk = true → before.writerOk = true
  status : after.phase41Status = "pass" → before.phase41Status = "pass"

/-- The counts of the reports are not negative. -/
structure NonnegativeCounts (reports : ReadinessReports) : Prop where
  featureLeaks : 0 ≤ reports.featureLeaks
  labelLeaks : 0 ≤ reports.labelLeaks
  queueDrops : 0 ≤ reports.queueDrops
  sequenceGaps : 0 ≤ reports.sequenceGaps

theorem isExchangeCandidate_of_worse {before after : Json} (h : WorseSource before after)
    (hafter : isExchangeCandidate after = true) : isExchangeCandidate before = true := by
  rw [isExchangeCandidate, decide_eq_true_eq] at hafter ⊢
  exact ⟨h.supported hafter.1, hafter.2.trans h.exchangeRate⟩

theorem any_le_of_worse {lag lag' : Option ℚ} {limit : ℚ}
    (h : ∀ l', lag' = some l' → ∃ l, lag = some l ∧ l ≤ l')
    (hafter : lag'.any (· ≤ limit) = true) : lag.any (· ≤ limit) = true := by
  cases hl' : lag' with
  | none =>
      rw [hl'] at hafter
      cases hafter
  | some l' =>
      rw [hl', Option.any_some, decide_eq_true_eq] at hafter
      obtain ⟨l, hl, hworse⟩ := h l' hl'
      rw [hl, Option.any_some, decide_eq_true_eq]
      exact hworse.trans hafter

theorem meetsStrictLimits_of_worse {before after : Json} (h : WorseSource before after)
    (hafter : meetsStrictLimits after = true) : meetsStrictLimits before = true := by
  rw [meetsStrictLimits, decide_eq_true_eq] at hafter ⊢
  obtain ⟨hrate, hp95, hp99⟩ := hafter
  exact ⟨hrate.trans (h.hybridRate 100), any_le_of_worse h.lagP95 hp95,
    any_le_of_worse h.lagP99 hp99⟩

namespace WorseReports

variable {before after : ReadinessReports}

/-- A count that is zero in worse reports was zero before. -/
theorem eq_zero_of_le {count count' : ℚ} (hnonneg : 0 ≤ count) (hle : count ≤ count')
    (hzero : count' = 0) : count = 0 :=
  le_antisymm (hzero ▸ hle) hnonneg

theorem noLeakage (h : WorseReports before after) (hcounts : NonnegativeCounts before)
    (hafter : after.noLeakage = true) : before.noLeakage = true := by
  rw [ReadinessReports.noLeakage, decide_eq_true_eq] at hafter ⊢
  exact ⟨eq_zero_of_le hcounts.featureLeaks h.featureLeaks hafter.1,
    eq_zero_of_le hcounts.labelLeaks h.labelLeaks hafter.2⟩

theorem queueOk (h : WorseReports before after) (hcounts : NonnegativeCounts before)
    (hafter : after.queueOk = true) : before.queueOk = true := by
  rw [ReadinessReports.queueOk, decide_eq_true_eq] at hafter ⊢
  exact eq_zero_of_le hcounts.queueDrops h.queueDrops hafter

theorem sequenceOk (h : WorseReports before after) (hcounts : NonnegativeCounts before)
    (hafter : after.sequenceOk = true) : before.sequenceOk = true := by
  rw [ReadinessReports.sequenceOk, decide_eq_true_eq] at hafter ⊢
  exact eq_zero_of_le hcounts.sequenceGaps h.sequenceGaps hafter

/-- The labels of market time were ready if they are in worse reports. -/
theorem marketTimeLabelReady (h : WorseReports before after) (hcounts : NonnegativeCounts before)
    (hafter : after.marketTimeLabelReady = true) : before.marketTimeLabelReady = true := by
  rw [marketTimeLabelReady_iff] at hafter ⊢
  obtain ⟨⟨entry, hentry, hexchange⟩, hleak⟩ := hafter
  obtain ⟨report, hreport, hworse⟩ := h.sources entry hentry
  exact ⟨⟨_, hreport, isExchangeCandidate_of_worse hworse hexchange⟩,
    h.noLeakage hcounts hleak⟩

/-- A source met the limits if one does in worse reports. -/
theorem exists_strict (h : WorseReports before after)
    (hafter : ∃ entry ∈ after.sources, isExchangeCandidate entry.2 = true ∧
      meetsStrictLimits entry.2 = true) :
    ∃ entry ∈ before.sources, isExchangeCandidate entry.2 = true ∧
      meetsStrictLimits entry.2 = true := by
  obtain ⟨entry, hentry, hexchange, hlimits⟩ := hafter
  obtain ⟨report, hreport, hworse⟩ := h.sources entry hentry
  exact ⟨_, hreport, isExchangeCandidate_of_worse hworse hexchange,
    meetsStrictLimits_of_worse hworse hlimits⟩

end WorseReports

/-! ### The order of the levels -/

/-- The levels of a version are ordered, and worse reports turn none of them on. -/
structure LevelsOrdered (compute : ReadinessReports → ReadinessSemantics)
    (reports : ReadinessReports) : Prop where
  strict_market : (compute reports).strict100msObservabilityReady = true →
    (compute reports).marketTimeLabelReady = true
  relaxed_market : (compute reports).relaxed250msObservabilityCandidate = true →
    (compute reports).marketTimeLabelReady = true
  not_both : ¬ ((compute reports).strict100msObservabilityReady = true ∧
    (compute reports).relaxed250msObservabilityCandidate = true)
  selected : ∀ candidate, (compute reports).selectedProtocolCandidate = some candidate →
    IsBestCandidate reports candidate
  market_kept : ∀ after, WorseReports reports after →
    (compute after).marketTimeLabelReady = true → (compute reports).marketTimeLabelReady = true
  strict_kept : ∀ after, WorseReports reports after →
    (compute after).strict100msObservabilityReady = true →
    (compute reports).strict100msObservabilityReady = true

/-- Two versions agree on the levels, the source and the budget. -/
structure LevelsAgree (s s' : ReadinessSemantics) : Prop where
  market : s.marketTimeLabelReady = s'.marketTimeLabelReady
  strict : s.strict100msObservabilityReady = s'.strict100msObservabilityReady
  relaxed : s.relaxed250msObservabilityCandidate = s'.relaxed250msObservabilityCandidate
  source : s.selectedProtocolCandidate.map StrictCandidate.source =
    s'.selectedProtocolCandidate.map StrictCandidate.source
  budget : s.selectedOperationalBudgetMs = s'.selectedOperationalBudgetMs

/-- The levels hold of some reports: they are ordered in both versions, and the versions agree
where the writer is clean and the runtime report passes. -/
structure LevelsHold (reports : ReadinessReports) : Prop where
  latencyProfile : LevelsOrdered LatencyProfile.computeReadinessSemantics reports
  hotPath : LevelsOrdered HotPath.computeReadinessSemantics reports
  agree : reports.writerOk = true → reports.phase41Status = "pass" →
    LevelsAgree (LatencyProfile.computeReadinessSemantics reports)
      (HotPath.computeReadinessSemantics reports)

/-! ### When the levels hold -/

/-- A dataset that leaks reaches the relaxed level: a source has the relaxed rate. -/
def LeaksRelaxed (reports : ReadinessReports) : Prop :=
  reports.noLeakage = false ∧ ∃ entry ∈ reports.sources, isExchangeCandidate entry.2 = true ∧
    meetsRelaxedRate entry.2 = true

/-- What both versions have in common makes their levels ordered where no dataset that leaks
reaches the relaxed level. -/
theorem levelsOrdered_iff {compute : ReadinessReports → ReadinessSemantics}
    {gates : ReadinessReports → Prop} {reports : ReadinessReports}
    (hcounts : NonnegativeCounts reports)
    (hmarket : ∀ r, (compute r).marketTimeLabelReady = r.marketTimeLabelReady)
    (hstrict : ∀ r, (compute r).strict100msObservabilityReady = true ↔
      gates r ∧ ∃ entry ∈ r.sources, isExchangeCandidate entry.2 = true ∧
        meetsStrictLimits entry.2 = true)
    (hrelaxed : ∀ r, (compute r).relaxed250msObservabilityCandidate =
      relaxed250 (compute r).strict100msObservabilityReady r.exchangeCandidates)
    (hselected : ∀ candidate, (compute reports).selectedProtocolCandidate = some candidate →
      IsBestCandidate reports candidate)
    (hleak : ∀ r, gates r → r.noLeakage = true)
    (hgates : ∀ after, WorseReports reports after → gates after → gates reports) :
    LevelsOrdered compute reports ↔ ¬ LeaksRelaxed reports := by
  constructor
  · rintro hordered ⟨hleaks, hsource⟩
    have hnotStrict : (compute reports).strict100msObservabilityReady = false := by
      rw [Bool.eq_false_iff, ne_eq, hstrict]
      rintro ⟨hopen, -⟩
      rw [hleak reports hopen] at hleaks
      cases hleaks
    have hready := hordered.relaxed_market (by
      rw [hrelaxed, relaxed250_iff]
      exact ⟨hnotStrict, hsource⟩)
    rw [hmarket, marketTimeLabelReady_iff, hleaks] at hready
    cases hready.2
  · intro hleaks
    constructor
    · intro hready
      obtain ⟨hopen, entry, hentry, hexchange, -⟩ := (hstrict reports).mp hready
      rw [hmarket, marketTimeLabelReady_iff]
      exact ⟨⟨entry, hentry, hexchange⟩, hleak reports hopen⟩
    · intro hready
      rw [hrelaxed, relaxed250_iff] at hready
      obtain ⟨-, entry, hentry, hexchange, hrate⟩ := hready
      rw [hmarket, marketTimeLabelReady_iff]
      refine ⟨⟨entry, hentry, hexchange⟩, ?_⟩
      by_contra hnot
      exact hleaks ⟨Bool.eq_false_iff.mpr hnot, entry, hentry, hexchange, hrate⟩
    · rintro ⟨hready, hrelax⟩
      rw [hrelaxed, relaxed250_iff, hready] at hrelax
      cases hrelax.1
    · exact hselected
    · intro after hworse hready
      rw [hmarket] at hready ⊢
      exact hworse.marketTimeLabelReady hcounts hready
    · intro after hworse hready
      rw [hstrict] at hready ⊢
      exact ⟨hgates after hworse hready.1, hworse.exists_strict hready.2⟩

/-- The latency profile's levels are ordered where no dataset that leaks reaches the relaxed
level. -/
theorem LatencyProfile.levelsOrdered_iff {reports : ReadinessReports}
    (hcounts : NonnegativeCounts reports) :
    LevelsOrdered LatencyProfile.computeReadinessSemantics reports ↔ ¬ LeaksRelaxed reports := by
  refine SomethingTrade.levelsOrdered_iff hcounts (fun _ => rfl) (fun _ => strict_iff)
    (fun _ => rfl) (fun candidate h => (selectStrict100msCandidate_spec h).2)
    (fun _ h => h.1) fun after hworse hgates => ?_
  obtain ⟨hleak, hclock, hqueue, hsequence⟩ := hgates
  exact ⟨hworse.noLeakage hcounts hleak, hworse.clock hclock, hworse.queueOk hcounts hqueue,
    hworse.sequenceOk hcounts hsequence⟩

/-- The hot path's levels are ordered where no dataset that leaks reaches the relaxed level. -/
theorem HotPath.levelsOrdered_iff {reports : ReadinessReports}
    (hcounts : NonnegativeCounts reports) :
    LevelsOrdered HotPath.computeReadinessSemantics reports ↔ ¬ LeaksRelaxed reports := by
  refine SomethingTrade.levelsOrdered_iff hcounts (fun _ => rfl) (fun _ => strict_iff)
    (fun _ => rfl) (fun candidate h => (selectStrict100msCandidate_spec h).2)
    (fun _ h => h.1) fun after hworse hgates => ?_
  obtain ⟨hleak, hclock, hqueue, hwriter, hstatus, hsequence⟩ := hgates
  exact ⟨hworse.noLeakage hcounts hleak, hworse.clock hclock, hworse.queueOk hcounts hqueue,
    hworse.writer hwriter, hworse.status hstatus, hworse.sequenceOk hcounts hsequence⟩

/-- The versions agree where the writer is clean and the runtime report passes. -/
theorem levelsAgree {reports : ReadinessReports} (hwriter : reports.writerOk = true)
    (hstatus : reports.phase41Status = "pass") :
    LevelsAgree (LatencyProfile.computeReadinessSemantics reports)
      (HotPath.computeReadinessSemantics reports) := by
  have hsource : (LatencyProfile.selectStrict100msCandidate reports).map StrictCandidate.source =
      (HotPath.selectStrict100msCandidate reports).map StrictCandidate.source := by
    rw [LatencyProfile.selectStrict100msCandidate, HotPath.selectStrict100msCandidate,
      map_source_selectStrict100msCandidate]
    by_cases hnone : reports.exchangeCandidates = []
    · rw [hnone]
      simp [selectStrict100msCandidate, sortBy]
    · have hmarket : reports.marketTimeLabelReady = reports.noLeakage := by
        simp [ReadinessReports.marketTimeLabelReady, hnone]
      have hready : reports.phase41RuntimeReady = reports.sequenceOk := by
        simp [ReadinessReports.phase41RuntimeReady, hstatus]
      rw [hmarket, hready, hwriter, Bool.and_true]
  have hstrict : (LatencyProfile.selectStrict100msCandidate reports).isSome =
      (HotPath.selectStrict100msCandidate reports).isSome := by
    rw [← Option.isSome_map, hsource, Option.isSome_map]
  exact
    { market := rfl
      strict := hstrict
      relaxed := congrArg (relaxed250 · reports.exchangeCandidates) hstrict
      source := hsource
      budget := congrArg (fun ready : Bool => if ready then some 100 else none) hstrict }

/-- **When the levels hold**: they are ordered, monotone and agreed on exactly where no dataset
that leaks reaches the relaxed level. -/
theorem levels_hold_iff (reports : ReadinessReports) (hcounts : NonnegativeCounts reports) :
    LevelsHold reports ↔ ¬ LeaksRelaxed reports := by
  constructor
  · intro h
    exact (LatencyProfile.levelsOrdered_iff hcounts).mp h.latencyProfile
  · intro h
    exact ⟨(LatencyProfile.levelsOrdered_iff hcounts).mpr h,
      (HotPath.levelsOrdered_iff hcounts).mpr h, levelsAgree⟩

/-- The report of a source with the rate of two hundred and fifty milliseconds alone. -/
def relaxedSource : Json :=
  .obj [("exchange_time_supported", .bool true),
    ("exchange_time", .obj [("valid_rate_eligible_rows", .float (99 / 100))]),
    ("corrected_hybrid",
      .obj [("corrected_hybrid_250ms", .obj [("valid_rate_eligible_rows", .float (24 / 25))])])]

/-- Clean reports of one source, but for the features that leak. -/
def relaxedReports (featureLeaks : ℕ) : ReadinessReports where
  sources := [("trade_price", relaxedSource)]
  leakageResult :=
    .obj [("feature_leakage_violations", .int featureLeaks), ("label_leakage_violations", .int 0)]
  clockSanityReport := .obj [("clock_sanity_valid", .bool true)]
  queueReport := .obj [("queue_dropped_messages", .int 0)]
  writerReport :=
    .obj [("writer_dropped_records", .int 0), ("writer_error_count", .int 0),
      ("writer_shutdown_flush_completed", .bool true)]
  phase41Report := .obj [("phase_4_1_status", .str "pass"), ("sequence_gap_count", .int 0)]
  clockOffsetSummary := .obj []

theorem nonnegativeCounts_relaxedReports (featureLeaks : ℕ) :
    NonnegativeCounts (relaxedReports featureLeaks) :=
  ⟨Nat.cast_nonneg featureLeaks, le_rfl, le_rfl, le_rfl⟩

/-- The theorem applied to reports without leaks. -/
theorem levels_hold_clean : LevelsHold (relaxedReports 0) ↔ ¬ LeaksRelaxed (relaxedReports 0) :=
  levels_hold_iff _ (nonnegativeCounts_relaxedReports 0)

theorem leaksRelaxed_relaxedReports : LeaksRelaxed (relaxedReports 1) := by
  have hexchange : exchangeTimeRate relaxedSource = 99 / 100 := rfl
  have hhybrid : correctedHybridRate relaxedSource 250 = 24 / 25 := rfl
  refine ⟨by decide, _, .head _, ?_, ?_⟩
  · rw [isExchangeCandidate, hexchange, decide_eq_true_eq]
    exact ⟨rfl, by norm_num [required100msValidRate]⟩
  · rw [meetsRelaxedRate, hhybrid, decide_eq_true_eq]
    norm_num [required100msValidRate]

/-- One feature that leaks: in neither version are the levels ordered, as the relaxed level is
reached and the labels of market time are not ready. -/
theorem leak_keeps_relaxed :
    ¬ LevelsOrdered LatencyProfile.computeReadinessSemantics (relaxedReports 1) ∧
      ¬ LevelsOrdered HotPath.computeReadinessSemantics (relaxedReports 1) ∧
      ¬ ∀ reports : ReadinessReports, NonnegativeCounts reports → LevelsHold reports := by
  have hcounts := nonnegativeCounts_relaxedReports 1
  have hprofile := mt (LatencyProfile.levelsOrdered_iff hcounts).mp
    (not_not.mpr leaksRelaxed_relaxedReports)
  have hhotPath := mt (HotPath.levelsOrdered_iff hcounts).mp
    (not_not.mpr leaksRelaxed_relaxedReports)
  exact ⟨hprofile, hhotPath, fun h => hprofile (h _ hcounts).latencyProfile⟩

end SomethingTrade
