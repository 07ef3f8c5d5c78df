import SomethingTrade.MetricSeries
import SomethingTrade.TimeProtocols

/-!
# Metrics of Labels

How many labels are eligible and valid, why the others are not, and the percentiles of their
gaps and lags. One path computes them from lists of labels. The other observes the labels one
after the other: accumulators count, and the values go to one table that the accumulators of all
sources share, under the names of their metrics.

## Main results

* `observe_countLabels`: counting one label after the other counts the list, provided that only
  eligible labels are valid.
* `nodup_metricNames`: no two values of a row go to the same metric.
-/

namespace SomethingTrade

/-! ### Counts -/

/-- What the metrics read of any label. -/
structure LabelOutcome where
  eligible : Bool
  valid : Bool
  invalidReason : Option String

/-- Why a label that is not valid is not. -/
def LabelOutcome.reason (label : LabelOutcome) : String :=
  orText label.invalidReason "UNKNOWN_INVALID_REASON"

/-- Counts of labels. -/
structure LabelCounts where
  total : ℕ
  eligible : ℕ
  valid : ℕ
  reasons : Dict String ℕ

namespace LabelCounts

/-- No label yet. -/
def zero : LabelCounts := ⟨0, 0, 0, .empty⟩

/-- One label more. -/
def observe (counts : LabelCounts) (label : LabelOutcome) : LabelCounts :=
  { total := counts.total + 1
    eligible := if label.eligible then counts.eligible + 1 else counts.eligible
    valid := if label.valid then counts.valid + 1 else counts.valid
    reasons := if label.valid then counts.reasons else counts.reasons.increment label.reason }

/-- How often each reason was given. -/
def reasonCounts (counts : LabelCounts) : Dict String ℕ := counts.reasons.pop "None"

/-- How often each reason was given, sorted by the reasons, of which none is there twice. -/
def sortedReasons (counts : LabelCounts) : List (String × ℕ) :=
  counts.reasonCounts.entries.insertionSort fun a b => a.1 ≤ b.1

/-- The part of some labels among others. -/
def rate (part whole : ℕ) : ℚ := if whole = 0 then 0 else part / whole

end LabelCounts

/-- The counts of a list of labels: only eligible labels can count as valid here. -/
def countLabels (labels : List LabelOutcome) : LabelCounts :=
  let eligible := labels.filter LabelOutcome.eligible
  let valid := eligible.filter LabelOutcome.valid
  { total := labels.length
    eligible := eligible.length
    valid := valid.length
    reasons := ((labels.filter fun label => !label.valid).map LabelOutcome.reason).foldl
      Dict.increment .empty }

/-! ### Metrics of the time protocols -/

/-- What the metrics of a time protocol read of a label. -/
structure ProtocolReading where
  outcome : LabelOutcome
  gap : Option ℚ

/-- The metrics of a time protocol. -/
structure ProtocolMetrics where
  horizonMs : ℤ := labelHorizonMs
  maxFutureGapMs : ℚ := labelMaxFutureGapMs
  selectionTimeBasis : String
  eligibleCount : ℕ
  validCount : ℕ
  invalidCount : ℤ
  validRateAllRows : ℚ
  validRateEligibleRows : ℚ
  invalidReasonCounts : List (String × ℕ)
  futureGapP50Ms : Option ℚ
  futureGapP90Ms : Option ℚ
  futureGapP95Ms : Option ℚ
  futureGapP99Ms : Option ℚ
  futureGapMaxMs : Option ℚ

/-- The metrics of labels with these counts and gaps. -/
def protocolMetricsOf (counts : LabelCounts) (gaps : SeriesSummary)
    (selectionTimeBasis : String) : ProtocolMetrics :=
  { selectionTimeBasis := selectionTimeBasis
    eligibleCount := counts.eligible
    validCount := counts.valid
    invalidCount := counts.total - counts.valid
    validRateAllRows := LabelCounts.rate counts.valid counts.total
    validRateEligibleRows := LabelCounts.rate counts.valid counts.eligible
    invalidReasonCounts := counts.sortedReasons
    futureGapP50Ms := gaps.p50
    futureGapP90Ms := gaps.p90
    futureGapP95Ms := gaps.p95
    futureGapP99Ms := gaps.p99
    futureGapMaxMs := gaps.max }

/-- The metrics of a list of labels, for the gap field that was read. -/
def protocolMetrics (labels : List ProtocolReading) (gapField : String) : ProtocolMetrics :=
  protocolMetricsOf (countLabels (labels.map ProtocolReading.outcome))
    (valueSummary (labels.filterMap ProtocolReading.gap))
    (if gapField = "exchange_future_gap_ms" then "exchange_ts" else "local_recv_monotonic_ns")

/-- Counts labels of a time protocol; their gaps go to a metric. -/
structure ProtocolMetricAccumulator where
  metricPrefix : String
  counts : LabelCounts

namespace ProtocolMetricAccumulator

/-- The metric of the gaps. -/
def gapMetric (acc : ProtocolMetricAccumulator) : String := acc.metricPrefix ++ ":gap"

/-- Count a label. -/
def observe (acc : ProtocolMetricAccumulator) (label : ProtocolReading) :
    ProtocolMetricAccumulator :=
  { acc with counts := acc.counts.observe label.outcome }

/-- What observing a label inserts. -/
def inserts (acc : ProtocolMetricAccumulator) (label : ProtocolReading) :
    List (String × Option ℚ) :=
  [(acc.gapMetric, label.gap)]

/-- The metrics of the labels observed. -/
def result (acc : ProtocolMetricAccumulator) (series : SeriesStore)
    (selectionTimeBasis : String) : ProtocolMetrics :=
  protocolMetricsOf acc.counts (series.summary acc.gapMetric) selectionTimeBasis

end ProtocolMetricAccumulator

/-! ### Metrics of hybrid labels -/

/-- What the metrics of hybrid labels read of a label. -/
structure HybridReading where
  outcome : LabelOutcome
  featureLag : Option ℚ
  futureLag : Option ℚ

/-- The metrics of hybrid labels. Those of corrected labels do not have the count of lags over
the budget. -/
structure HybridMetrics where
  horizonMs : ℤ := labelHorizonMs
  maxFutureGapMs : ℚ := labelMaxFutureGapMs
  featureLagBudgetMs : ℕ
  futureReceiveLagHardGateUsed : Bool := false
  futureReceiveLagIsTelemetryOnly : Bool := true
  eligibleCount : ℕ
  validCount : ℕ
  invalidCount : ℤ
  validRateAllRows : ℚ
  validRateEligibleRows : ℚ
  invalidReasonCounts : List (String × ℕ)
  featureReceiveLagP50Ms : Option ℚ
  featureReceiveLagP95Ms : Option ℚ
  featureReceiveLagP99Ms : Option ℚ
  futureReceiveLagP50Ms : Option ℚ
  futureReceiveLagP95Ms : Option ℚ
  futureReceiveLagP99Ms : Option ℚ
  futureReceiveLagOverBudgetCount : Option ℕ
  crossStreamReceiveReorderCount : ℕ
  clockSanityViolationCount : ℕ

/-- The reason that counts as a violation of the clocks. -/
def clockSanityReason (corrected : Bool) : String :=
  if corrected then "CORRECTED_LAG_CLOCK_SANITY_FAILURE" else "CLOCK_SANITY_VIOLATION"

/-- The metrics of labels with these counts and lags. -/
def hybridMetricsOf (counts : LabelCounts) (feature future : SeriesSummary) (budgetMs : ℕ)
    (corrected : Bool) (overBudgetCount : ℕ) : HybridMetrics :=
  { featureLagBudgetMs := budgetMs
    eligibleCount := counts.eligible
    validCount := counts.valid
    invalidCount := counts.total - counts.valid
    validRateAllRows := LabelCounts.rate counts.valid counts.total
    validRateEligibleRows := LabelCounts.rate counts.valid counts.eligible
    invalidReasonCounts := counts.sortedReasons
    featureReceiveLagP50Ms := feature.p50
    featureReceiveLagP95Ms := feature.p95
    featureReceiveLagP99Ms := feature.p99
    futureReceiveLagP50Ms := future.p50
    futureReceiveLagP95Ms := future.p95
    futureReceiveLagP99Ms := future.p99
    futureReceiveLagOverBudgetCount := if corrected then none else some overBudgetCount
    crossStreamReceiveReorderCount :=
      (counts.reasonCounts.get? "CROSS_STREAM_RECEIVE_REORDER").getD 0
    clockSanityViolationCount := (counts.reasonCounts.get? (clockSanityReason corrected)).getD 0 }

/-- The metrics of a list of hybrid labels, corrected or not. -/
def hybridMetrics (labels : List HybridReading) (budgetMs : ℕ) (corrected : Bool) :
    HybridMetrics :=
  let futureLags := labels.filterMap HybridReading.futureLag
  hybridMetricsOf (countLabels (labels.map HybridReading.outcome))
    (valueSummary (labels.filterMap HybridReading.featureLag)) (valueSummary futureLags)
    budgetMs corrected (futureLags.countP fun lag => lag > (budgetMs : ℚ))

/-- Counts hybrid labels; their lags go to two metrics. -/
structure HybridMetricAccumulator where
  metricPrefix : String
  budgetMs : ℕ
  corrected : Bool
  counts : LabelCounts
  futureOverBudgetCount : ℕ

namespace HybridMetricAccumulator

/-- The metric of the lags of samples. -/
def featureMetric (acc : HybridMetricAccumulator) : String := acc.metricPrefix ++ ":feature_lag"

/-- The metric of the lags of events. -/
def futureMetric (acc : HybridMetricAccumulator) : String := acc.metricPrefix ++ ":future_lag"

/-- Count a label. -/
def observe (acc : HybridMetricAccumulator) (label : HybridReading) : HybridMetricAccumulator :=
  { acc with
    counts := acc.counts.observe label.outcome
    futureOverBudgetCount :=
      if label.futureLag.any fun lag => lag > (acc.budgetMs : ℚ) then acc.futureOverBudgetCount + 1
      else acc.futureOverBudgetCount }

/-- What observing a label inserts. -/
def inserts (acc : HybridMetricAccumulator) (label : HybridReading) :
    List (String × Option ℚ) :=
  [(acc.featureMetric, label.featureLag), (acc.futureMetric, label.futureLag)]

/-- The metrics of the labels observed. -/
def result (acc : HybridMetricAccumulator) (series : SeriesStore) : HybridMetrics :=
  hybridMetricsOf acc.counts (series.summary acc.featureMetric)
    (series.summary acc.futureMetric) acc.budgetMs acc.corrected acc.futureOverBudgetCount

end HybridMetricAccumulator

/-! ### Lags -/

/-- What is reported of lags. -/
structure LagMetrics where
  featureCount : ℕ
  featureP50Ms : Option ℚ
  featureP95Ms : Option ℚ
  featureP99Ms : Option ℚ
  futureCount : ℕ
  futureP50Ms : Option ℚ
  futureP95Ms : Option ℚ
  futureP99Ms : Option ℚ
  featureBelowNegativeSkewCount : ℕ

/-- What is reported of lags with these counts. -/
def lagMetricsOf (featureCount futureCount : ℕ) (feature future : SeriesSummary)
    (belowNegativeSkewCount : ℕ) : LagMetrics :=
  { featureCount := featureCount
    featureP50Ms := feature.p50
    featureP95Ms := feature.p95
    featureP99Ms := feature.p99
    futureCount := futureCount
    futureP50Ms := future.p50
    futureP95Ms := future.p95
    futureP99Ms := future.p99
    featureBelowNegativeSkewCount := belowNegativeSkewCount }

/-- What is reported of lists of lags. -/
def lagSummary (featureValues futureValues : List ℚ) : LagMetrics :=
  lagMetricsOf featureValues.length futureValues.length (valueSummary featureValues)
    (valueSummary futureValues) (featureValues.countP fun lag => lag < -allowedClockSkewMs)

/-- Counts lags; they go to two metrics. -/
structure LagAccumulator where
  metricPrefix : String
  featureCount : ℕ
  futureCount : ℕ
  featureBelowNegativeSkewCount : ℕ

namespace LagAccumulator

/-- The metric of the lags of samples. -/
def featureMetric (acc : LagAccumulator) : String := acc.metricPrefix ++ ":feature"

/-- The metric of the lags of events. -/
def futureMetric (acc : LagAccumulator) : String := acc.metricPrefix ++ ":future"

/-- Count the lags of a label. -/
def observe (acc : LagAccumulator) (feature future : Option ℚ) : LagAccumulator :=
  { acc with
    featureCount := if feature.isSome then acc.featureCount + 1 else acc.featureCount
    futureCount := if future.isSome then acc.futureCount + 1 else acc.futureCount
    featureBelowNegativeSkewCount :=
      if feature.any fun lag => lag < -allowedClockSkewMs then
        acc.featureBelowNegativeSkewCount + 1
      else acc.featureBelowNegativeSkewCount }

/-- What observing the lags of a label inserts. -/
def inserts (acc : LagAccumulator) (feature future : Option ℚ) : List (String × Option ℚ) :=
  [(acc.featureMetric, feature), (acc.futureMetric, future)]

/-- What is reported of the lags observed. -/
def result (acc : LagAccumulator) (series : SeriesStore) : LagMetrics :=
  lagMetricsOf acc.featureCount acc.futureCount (series.summary acc.featureMetric)
    (series.summary acc.futureMetric) acc.featureBelowNegativeSkewCount

end LagAccumulator

/-! ### What is read of labels -/

/-- What the metrics read of a receive time label. -/
def ReceiveTimeLabel.reading (label : ReceiveTimeLabel) : ProtocolReading :=
  ⟨⟨label.eligible, label.valid, label.invalidReason⟩, label.receiveFutureGapMs⟩

/-- What the metrics read of an exchange time label. -/
def ExchangeTimeLabel.reading (label : ExchangeTimeLabel) : ProtocolReading :=
  ⟨⟨label.eligible, label.valid, label.invalidReason⟩, label.exchangeFutureGapMs⟩

/-- What the metrics read of a hybrid label. -/
def HybridLabel.reading (label : HybridLabel) : HybridReading :=
  ⟨⟨label.eligible, label.valid, label.invalidReason⟩, label.featureReceiveLagMs,
    label.futureReceiveLagMs⟩

/-- What the metrics read of a corrected hybrid label. -/
def CorrectedHybridLabel.reading (label : CorrectedHybridLabel) : HybridReading :=
  ⟨⟨label.eligible, label.valid, label.invalidReason⟩, label.correctedFeatureReceiveLagMs,
    label.correctedFutureReceiveLagMs⟩

/-! ### Accumulators of a source -/

/-- The labels of a source in one row. -/
structure SourceLabels where
  protocol : ProtocolLabels
  corrected : CorrectedLabels

/-- The accumulators of a source. -/
structure SourceLabelAccumulators where
  receive : ProtocolMetricAccumulator
  exchange : ProtocolMetricAccumulator
  hybrid : HybridBudget → HybridMetricAccumulator
  correctedHybrid : HybridBudget → HybridMetricAccumulator
  rawLag : LagAccumulator
  correctedLag : LagAccumulator

namespace SourceLabelAccumulators

/-- The accumulators of a source at the start. -/
def init (source : ReferenceSource) : SourceLabelAccumulators :=
  { receive := ⟨source.name ++ ":receive", .zero⟩
    exchange := ⟨source.name ++ ":exchange", .zero⟩
    hybrid := fun budget =>
      ⟨source.name ++ ":hybrid:" ++ toString budget.ms, budget.ms, false, .zero, 0⟩
    correctedHybrid := fun budget =>
      ⟨source.name ++ ":corrected_hybrid:" ++ toString budget.ms, budget.ms, true, .zero, 0⟩
    rawLag := ⟨source.name ++ ":raw_lag", 0, 0, 0⟩
    correctedLag := ⟨source.name ++ ":corrected_lag", 0, 0, 0⟩ }

/-- Observe the labels of a row. -/
def observe (acc : SourceLabelAccumulators) (labels : SourceLabels) : SourceLabelAccumulators :=
  { receive := acc.receive.observe labels.protocol.receiveTime.reading
    exchange := acc.exchange.observe labels.protocol.exchangeTime.reading
    hybrid := fun budget =>
      (acc.hybrid budget).observe (labels.protocol.hybrid budget).reading
    correctedHybrid := fun budget =>
      (acc.correctedHybrid budget).observe (labels.corrected.correctedHybrid budget).reading
    rawLag := acc.rawLag.observe labels.corrected.rawFeatureReceiveLagMs
      labels.corrected.rawFutureReceiveLagMs
    correctedLag := acc.correctedLag.observe labels.corrected.correctedFeatureReceiveLagMs
      labels.corrected.correctedFutureReceiveLagMs }

/-- What observing the labels of a row inserts, in this order. -/
def inserts (acc : SourceLabelAccumulators) (labels : SourceLabels) : List (String × Option ℚ) :=
  acc.receive.inserts labels.protocol.receiveTime.reading ++
  acc.exchange.inserts labels.protocol.exchangeTime.reading ++
  (HybridBudget.all.flatMap fun budget =>
    (acc.hybrid budget).inserts (labels.protocol.hybrid budget).reading ++
    (acc.correctedHybrid budget).inserts (labels.corrected.correctedHybrid budget).reading) ++
  acc.rawLag.inserts labels.corrected.rawFeatureReceiveLagMs
    labels.corrected.rawFutureReceiveLagMs ++
  acc.correctedLag.inserts labels.corrected.correctedFeatureReceiveLagMs
    labels.corrected.correctedFutureReceiveLagMs

end SourceLabelAccumulators

/-- The accumulators of all sources and the table they share. -/
structure LabelObservations where
  accumulators : BySource SourceLabelAccumulators
  series : SeriesStore

namespace LabelObservations

/-- What observing a row of labels inserts, source after source. -/
def inserts (state : LabelObservations) (labels : BySource SourceLabels) :
    List (String × Option ℚ) :=
  ReferenceSource.all.flatMap fun source =>
    (state.accumulators source).inserts (labels source)

/-- Observe a row of labels. -/
def observe (state : LabelObservations) (labels : BySource SourceLabels) : LabelObservations :=
  { accumulators := fun source => (state.accumulators source).observe (labels source)
    series := state.series.addAll (state.inserts labels) }

end LabelObservations

/-! ### Observing labels one after the other -/

/-- Only eligible labels are valid. -/
def LabelOutcome.Sound (label : LabelOutcome) : Prop := label.valid = true → label.eligible = true

/-- The counts of a list with one label more. -/
theorem countLabels_concat (labels : List LabelOutcome) {label : LabelOutcome}
    (h : label.Sound) :
    countLabels (labels ++ [label]) = (countLabels labels).observe label := by
  simp only [countLabels, LabelCounts.observe, List.filter_append, List.length_append,
    List.map_append, List.foldl_append]
  cases hvalid : label.valid with
  | true =>
      have heligible := h hvalid
      simp [hvalid, heligible]
  | false => cases heligible : label.eligible <;> simp [hvalid, heligible]

/-- **Counting one label after the other counts the list.** -/
theorem observe_countLabels {labels : List LabelOutcome} (h : ∀ label ∈ labels, label.Sound) :
    labels.foldl LabelCounts.observe .zero = countLabels labels := by
  induction labels using List.reverseRecOn with
  | nil => rfl
  | append_singleton labels label ih =>
      have hlast := h label (by simp)
      have hlabels : ∀ label ∈ labels, label.Sound := fun l hl => h l (by simp [hl])
      rw [List.foldl_append, ih hlabels, countLabels_concat labels hlast]
      rfl

/-- The accumulator of a protocol after some labels. -/
theorem ProtocolMetricAccumulator.foldl_observe (acc : ProtocolMetricAccumulator)
    (labels : List ProtocolReading) :
    labels.foldl observe acc =
      { acc with
        counts := (labels.map ProtocolReading.outcome).foldl LabelCounts.observe acc.counts } := by
  induction labels generalizing acc with
  | nil => rfl
  | cons label labels ih => rw [List.foldl_cons, ih]; rfl

/-- The accumulator of hybrid labels after some labels. -/
theorem HybridMetricAccumulator.foldl_observe (acc : HybridMetricAccumulator)
    (labels : List HybridReading) :
    labels.foldl observe acc =
      { acc with
        counts := (labels.map HybridReading.outcome).foldl LabelCounts.observe acc.counts
        futureOverBudgetCount := acc.futureOverBudgetCount +
          (labels.filterMap HybridReading.futureLag).countP fun lag =>
            lag > (acc.budgetMs : ℚ) } := by
  induction labels generalizing acc with
  | nil => rfl
  | cons label labels ih =>
      rw [List.foldl_cons, ih]
      cases hlag : label.futureLag with
      | none => simp [observe, hlag]
      | some lag =>
          by_cases hover : lag > (acc.budgetMs : ℚ)
          · simp [observe, hlag, hover]
            omega
          · simp [observe, hlag, hover]

/-! ### Metrics of the shared table -/

/-- The metric of the gaps between the events of a source. -/
def ReferenceSource.gapMetric (source : ReferenceSource) : String :=
  source.name ++ ":reference_gap_ms"

/-- The metrics of the accumulators of a source. -/
def SourceLabelAccumulators.metrics (acc : SourceLabelAccumulators) : List String :=
  [acc.receive.gapMetric, acc.exchange.gapMetric] ++
  (HybridBudget.all.flatMap fun budget =>
    [(acc.hybrid budget).featureMetric, (acc.hybrid budget).futureMetric,
      (acc.correctedHybrid budget).featureMetric, (acc.correctedHybrid budget).futureMetric]) ++
  [acc.rawLag.featureMetric, acc.rawLag.futureMetric, acc.correctedLag.featureMetric,
    acc.correctedLag.futureMetric]

/-- The metrics of the accumulators of all sources. -/
def metricNames : List String :=
  ReferenceSource.all.flatMap fun source => (SourceLabelAccumulators.init source).metrics

/-- **No two series of the table have one name.** -/
theorem nodup_metricNames :
    (metricNames ++ ReferenceSource.all.map ReferenceSource.gapMetric).Nodup := by
  decide +kernel

theorem HybridBudget.mem_all (budget : HybridBudget) : budget ∈ HybridBudget.all := by
  cases budget <;> simp [HybridBudget.all]

theorem ReferenceSource.mem_all (source : ReferenceSource) : source ∈ ReferenceSource.all := by
  cases source <;> simp [ReferenceSource.all]

/-- The metrics of the hybrid accumulators are among those of the source. -/
theorem mem_metrics_of_budget (acc : SourceLabelAccumulators) (budget : HybridBudget)
    {metric : String}
    (h : metric ∈ [(acc.hybrid budget).featureMetric, (acc.hybrid budget).futureMetric,
      (acc.correctedHybrid budget).featureMetric, (acc.correctedHybrid budget).futureMetric]) :
    metric ∈ acc.metrics :=
  List.mem_append_left _ (List.mem_append_right _
    (List.mem_flatMap.mpr ⟨budget, budget.mem_all, h⟩))

/-- What the hybrid accumulators insert is among what the source inserts. -/
theorem mem_inserts_of_budget (acc : SourceLabelAccumulators) (labels : SourceLabels)
    (budget : HybridBudget) {entry : String × Option ℚ}
    (h : entry ∈ (acc.hybrid budget).inserts (labels.protocol.hybrid budget).reading ++
      (acc.correctedHybrid budget).inserts (labels.corrected.correctedHybrid budget).reading) :
    entry ∈ acc.inserts labels :=
  List.mem_append_left _ (List.mem_append_left _ (List.mem_append_right _
    (List.mem_flatMap.mpr ⟨budget, budget.mem_all, h⟩)))

/-- Each accumulator of a source observes what it reads of the labels. -/
theorem SourceLabelAccumulators.foldl_observe (acc : SourceLabelAccumulators)
    (rows : List SourceLabels) :
    rows.foldl observe acc =
      { receive := (rows.map fun labels => labels.protocol.receiveTime.reading).foldl
          ProtocolMetricAccumulator.observe acc.receive
        exchange := (rows.map fun labels => labels.protocol.exchangeTime.reading).foldl
          ProtocolMetricAccumulator.observe acc.exchange
        hybrid := fun budget =>
          (rows.map fun labels => (labels.protocol.hybrid budget).reading).foldl
            HybridMetricAccumulator.observe (acc.hybrid budget)
        correctedHybrid := fun budget =>
          (rows.map fun labels => (labels.corrected.correctedHybrid budget).reading).foldl
            HybridMetricAccumulator.observe (acc.correctedHybrid budget)
        rawLag := rows.foldl (fun lag labels =>
          lag.observe labels.corrected.rawFeatureReceiveLagMs
            labels.corrected.rawFutureReceiveLagMs) acc.rawLag
        correctedLag := rows.foldl (fun lag labels =>
          lag.observe labels.corrected.correctedFeatureReceiveLagMs
            labels.corrected.correctedFutureReceiveLagMs) acc.correctedLag } := by
  induction rows generalizing acc with
  | nil => rfl
  | cons labels rows ih => rw [List.foldl_cons, ih]; rfl

namespace LabelObservations

variable {state : LabelObservations}

/-- The accumulators of a source observe the labels of that source. -/
theorem accumulators_foldl_observe (rows : List (BySource SourceLabels))
    (state : LabelObservations) (source : ReferenceSource) :
    (rows.foldl observe state).accumulators source =
      (rows.map fun labels => labels source).foldl SourceLabelAccumulators.observe
        (state.accumulators source) := by
  induction rows generalizing state with
  | nil => rfl
  | cons labels rows ih => rw [List.foldl_cons, ih]; rfl

/-- **The series of a metric are the values that the rows insert for it.** -/
theorem valuesOf_foldl_observe {metric : String} {value : BySource SourceLabels → Option ℚ}
    (hnodup : ∀ labels, ((state.inserts labels).map Prod.fst).Nodup)
    (hmem : ∀ labels, (metric, value labels) ∈ state.inserts labels)
    (rows : List (BySource SourceLabels)) :
    (rows.foldl observe state).series.valuesOf metric =
      state.series.valuesOf metric ++ rows.filterMap value := by
  induction rows generalizing state with
  | nil => simp
  | cons labels rows ih =>
      have hseries := SeriesStore.valuesOf_addAll state.series (hnodup labels) (hmem labels)
      have hrows := @ih (state.observe labels) hnodup hmem
      rw [List.foldl_cons, hrows, observe, hseries]
      cases hvalue : value labels <;> simp [hvalue]

end LabelObservations

/-! ### What the accumulators report -/

/-- The accumulator of a protocol reports the metrics of the labels observed. -/
theorem ProtocolMetricAccumulator.result_foldl {metricPrefix : String} {series : SeriesStore}
    {labels : List ProtocolReading} (hsound : ∀ label ∈ labels, label.outcome.Sound)
    (hseries : series.valuesOf (metricPrefix ++ ":gap") = labels.filterMap ProtocolReading.gap)
    {gapField selectionTimeBasis : String}
    (hbasis : (if gapField = "exchange_future_gap_ms" then "exchange_ts"
      else "local_recv_monotonic_ns") = selectionTimeBasis) :
    (labels.foldl observe ⟨metricPrefix, .zero⟩).result series selectionTimeBasis =
      protocolMetrics labels gapField := by
  have hcounts : (labels.map ProtocolReading.outcome).foldl LabelCounts.observe .zero =
      countLabels (labels.map ProtocolReading.outcome) :=
    observe_countLabels fun outcome houtcome => by
      obtain ⟨label, hlabel, rfl⟩ := List.mem_map.mp houtcome
      exact hsound label hlabel
  rw [foldl_observe, result, gapMetric]
  dsimp only
  rw [hcounts, SeriesStore.summary_eq, hseries, protocolMetrics, hbasis]

/-- The accumulator of hybrid labels reports the metrics of the labels observed. -/
theorem HybridMetricAccumulator.result_foldl {metricPrefix : String} {series : SeriesStore}
    {labels : List HybridReading} {budgetMs : ℕ} {corrected : Bool}
    (hsound : ∀ label ∈ labels, label.outcome.Sound)
    (hfeature : series.valuesOf (metricPrefix ++ ":feature_lag") =
      labels.filterMap HybridReading.featureLag)
    (hfuture : series.valuesOf (metricPrefix ++ ":future_lag") =
      labels.filterMap HybridReading.futureLag) :
    (labels.foldl observe ⟨metricPrefix, budgetMs, corrected, .zero, 0⟩).result series =
      hybridMetrics labels budgetMs corrected := by
  have hcounts : (labels.map HybridReading.outcome).foldl LabelCounts.observe .zero =
      countLabels (labels.map HybridReading.outcome) :=
    observe_countLabels fun outcome houtcome => by
      obtain ⟨label, hlabel, rfl⟩ := List.mem_map.mp houtcome
      exact hsound label hlabel
  rw [foldl_observe, result, featureMetric, futureMetric]
  dsimp only
  rw [hcounts, SeriesStore.summary_eq, hfeature, SeriesStore.summary_eq, hfuture, Nat.zero_add,
    hybridMetrics]

/-- What observing the lags of one label counts. -/
theorem LagAccumulator.observe_eq (acc : LagAccumulator) (feature future : Option ℚ) :
    acc.observe feature future =
      { acc with
        featureCount := acc.featureCount + feature.toList.length
        futureCount := acc.futureCount + future.toList.length
        featureBelowNegativeSkewCount := acc.featureBelowNegativeSkewCount +
          feature.toList.countP fun lag => lag < -allowedClockSkewMs } := by
  have hfuture : (if future.isSome then acc.futureCount + 1 else acc.futureCount) =
      acc.futureCount + future.toList.length := by cases future <;> rfl
  rw [observe, hfuture]
  cases feature with
  | none => rfl
  | some lag =>
      by_cases hskew : lag < -allowedClockSkewMs
      · simp [hskew]
      · simp [hskew]

/-- The accumulator of lags after some labels. -/
theorem LagAccumulator.foldl_observe {α : Type} (acc : LagAccumulator)
    (feature future : α → Option ℚ) (rows : List α) :
    rows.foldl (fun lag row => lag.observe (feature row) (future row)) acc =
      { acc with
        featureCount := acc.featureCount + (rows.filterMap feature).length
        futureCount := acc.futureCount + (rows.filterMap future).length
        featureBelowNegativeSkewCount := acc.featureBelowNegativeSkewCount +
          (rows.filterMap feature).countP fun lag => lag < -allowedClockSkewMs } := by
  induction rows generalizing acc with
  | nil => rfl
  | cons row rows ih =>
      have hcons (f : α → Option ℚ) :
          (row :: rows).filterMap f = (f row).toList ++ rows.filterMap f := by
        cases hf : f row <;> simp [hf]
      rw [List.foldl_cons, ih, observe_eq, hcons, hcons]
      simp only [List.length_append, List.countP_append, Nat.add_assoc]

/-- The accumulator of lags reports those of the labels observed. -/
theorem LagAccumulator.result_foldl {α : Type} {metricPrefix : String} {series : SeriesStore}
    {feature future : α → Option ℚ} {rows : List α}
    (hfeature : series.valuesOf (metricPrefix ++ ":feature") = rows.filterMap feature)
    (hfuture : series.valuesOf (metricPrefix ++ ":future") = rows.filterMap future) :
    (rows.foldl (fun (lag : LagAccumulator) row => lag.observe (feature row) (future row))
      ⟨metricPrefix, 0, 0, 0⟩).result series =
        lagSummary (rows.filterMap feature) (rows.filterMap future) := by
  rw [foldl_observe, result, featureMetric, futureMetric]
  dsimp only
  rw [SeriesStore.summary_eq, hfeature, SeriesStore.summary_eq, hfuture, Nat.zero_add,
    Nat.zero_add, Nat.zero_add, lagSummary]

/-- The labels of a source in one row are valid only when they are eligible. -/
structure SourceLabels.Sound (labels : SourceLabels) : Prop where
  receive : labels.protocol.receiveTime.reading.outcome.Sound
  exchange : labels.protocol.exchangeTime.reading.outcome.Sound
  hybrid : ∀ budget, (labels.protocol.hybrid budget).reading.outcome.Sound
  correctedHybrid : ∀ budget, (labels.corrected.correctedHybrid budget).reading.outcome.Sound

/-- The accumulators of a source report the metrics of the lists of labels. -/
structure ReportsMetrics (rows : List SourceLabels) (acc : SourceLabelAccumulators)
    (series : SeriesStore) : Prop where
  receive : acc.receive.result series "local_recv_monotonic_ns" =
    protocolMetrics (rows.map fun labels => labels.protocol.receiveTime.reading)
      "receive_future_gap_ms"
  exchange : acc.exchange.result series "exchange_ts" =
    protocolMetrics (rows.map fun labels => labels.protocol.exchangeTime.reading)
      "exchange_future_gap_ms"
  hybrid : ∀ budget, (acc.hybrid budget).result series =
    hybridMetrics (rows.map fun labels => (labels.protocol.hybrid budget).reading)
      budget.ms false
  correctedHybrid : ∀ budget, (acc.correctedHybrid budget).result series =
    hybridMetrics (rows.map fun labels => (labels.corrected.correctedHybrid budget).reading)
      budget.ms true
  rawLag : acc.rawLag.result series =
    lagSummary (rows.filterMap fun labels => labels.corrected.rawFeatureReceiveLagMs)
      (rows.filterMap fun labels => labels.corrected.rawFutureReceiveLagMs)
  correctedLag : acc.correctedLag.result series =
    lagSummary (rows.filterMap fun labels => labels.corrected.correctedFeatureReceiveLagMs)
      (rows.filterMap fun labels => labels.corrected.correctedFutureReceiveLagMs)

namespace LabelObservations

/-- All accumulators at the start, with a table that may hold other metrics. -/
def start (series : SeriesStore) : LabelObservations := ⟨SourceLabelAccumulators.init, series⟩

theorem nodup_inserts_start (series : SeriesStore) (labels : BySource SourceLabels) :
    (((start series).inserts labels).map Prod.fst).Nodup :=
  (List.nodup_append.mp nodup_metricNames).1

variable {series : SeriesStore}

/-- The values that a source inserts are the series of the metric. -/
theorem valuesOf_start (hempty : ∀ metric ∈ metricNames, series.valuesOf metric = [])
    {source : ReferenceSource} {metric : String} {value : SourceLabels → Option ℚ}
    (hmetric : metric ∈ (SourceLabelAccumulators.init source).metrics)
    (hmem : ∀ labels, (metric, value labels) ∈
      (SourceLabelAccumulators.init source).inserts labels)
    (rows : List (BySource SourceLabels)) :
    (rows.foldl observe (start series)).series.valuesOf metric =
      (rows.map fun labels => labels source).filterMap value := by
  have hsource := source.mem_all
  have hinserts (labels : BySource SourceLabels) :
      (metric, value (labels source)) ∈ (start series).inserts labels :=
    List.mem_flatMap.mpr ⟨source, hsource, hmem (labels source)⟩
  have hbefore : series.valuesOf metric = [] :=
    hempty metric (List.mem_flatMap.mpr ⟨source, hsource, hmetric⟩)
  rw [valuesOf_foldl_observe (nodup_inserts_start series) hinserts rows, start, hbefore,
    List.nil_append, List.filterMap_map]
  rfl

/-- **After any rows the accumulators report the metrics of the lists of labels**, provided that
the labels are valid only when they are eligible. -/
theorem reportsMetrics (hempty : ∀ metric ∈ metricNames, series.valuesOf metric = [])
    {rows : List (BySource SourceLabels)} (source : ReferenceSource)
    (hsound : ∀ labels ∈ rows, (labels source).Sound) :
    ReportsMetrics (rows.map fun labels => labels source)
      ((rows.foldl observe (start series)).accumulators source)
      (rows.foldl observe (start series)).series := by
  have hsound : ∀ labels ∈ rows.map fun labels => labels source, labels.Sound := by
    intro labels hlabels
    obtain ⟨row, hrow, rfl⟩ := List.mem_map.mp hlabels
    exact hsound row hrow
  have hvalues (metric : String) (value : SourceLabels → Option ℚ)
      (hmetric : metric ∈ (SourceLabelAccumulators.init source).metrics)
      (hmem : ∀ labels, (metric, value labels) ∈
        (SourceLabelAccumulators.init source).inserts labels) :
      (rows.foldl observe (start series)).series.valuesOf metric =
        (rows.map fun labels => labels source).filterMap value :=
    valuesOf_start hempty hmetric hmem rows
  rw [accumulators_foldl_observe, SourceLabelAccumulators.foldl_observe]
  generalize (rows.foldl observe (start series)).series = after at hvalues ⊢
  generalize rows.map (fun labels => labels source) = rows at hvalues hsound ⊢
  constructor
  · refine ProtocolMetricAccumulator.result_foldl ?_ ?_ (by decide)
    · exact List.forall_mem_map.mpr fun labels hlabels => (hsound labels hlabels).receive
    · rw [List.filterMap_map]
      refine hvalues _ _ ?_ fun labels => ?_
      · simp [SourceLabelAccumulators.metrics, SourceLabelAccumulators.init,
          ProtocolMetricAccumulator.gapMetric]
      · simp [SourceLabelAccumulators.inserts, SourceLabelAccumulators.init,
          ProtocolMetricAccumulator.inserts, ProtocolMetricAccumulator.gapMetric]
  · refine ProtocolMetricAccumulator.result_foldl ?_ ?_ (by decide)
    · exact List.forall_mem_map.mpr fun labels hlabels => (hsound labels hlabels).exchange
    · rw [List.filterMap_map]
      refine hvalues _ _ ?_ fun labels => ?_
      · simp [SourceLabelAccumulators.metrics, SourceLabelAccumulators.init,
          ProtocolMetricAccumulator.gapMetric]
      · simp [SourceLabelAccumulators.inserts, SourceLabelAccumulators.init,
          ProtocolMetricAccumulator.inserts, ProtocolMetricAccumulator.gapMetric]
  · intro budget
    refine HybridMetricAccumulator.result_foldl ?_ ?_ ?_
    · exact List.forall_mem_map.mpr fun labels hlabels => (hsound labels hlabels).hybrid budget
    · rw [List.filterMap_map]
      exact hvalues _ _ (mem_metrics_of_budget _ budget List.mem_cons_self) fun labels =>
        mem_inserts_of_budget _ labels budget List.mem_cons_self
    · rw [List.filterMap_map]
      exact hvalues _ _
        (mem_metrics_of_budget _ budget (List.mem_cons_of_mem _ List.mem_cons_self))
        fun labels => mem_inserts_of_budget _ labels budget
          (List.mem_cons_of_mem _ List.mem_cons_self)
  · intro budget
    refine HybridMetricAccumulator.result_foldl ?_ ?_ ?_
    · exact List.forall_mem_map.mpr fun labels hlabels => (hsound labels hlabels).correctedHybrid budget
    · rw [List.filterMap_map]
      refine hvalues _ _ (mem_metrics_of_budget _ budget ?_) fun labels =>
        mem_inserts_of_budget _ labels budget (List.mem_append_right _ List.mem_cons_self)
      exact List.mem_cons_of_mem _ (List.mem_cons_of_mem _ List.mem_cons_self)
    · rw [List.filterMap_map]
      refine hvalues _ _ (mem_metrics_of_budget _ budget ?_) fun labels =>
        mem_inserts_of_budget _ labels budget
          (List.mem_append_right _ (List.mem_cons_of_mem _ List.mem_cons_self))
      exact List.mem_cons_of_mem _ (List.mem_cons_of_mem _
        (List.mem_cons_of_mem _ List.mem_cons_self))
  · refine LagAccumulator.result_foldl (hvalues _ _ ?_ fun labels => ?_)
      (hvalues _ _ ?_ fun labels => ?_)
    all_goals
      simp [SourceLabelAccumulators.metrics, SourceLabelAccumulators.inserts,
        SourceLabelAccumulators.init, LagAccumulator.inserts, LagAccumulator.featureMetric,
        LagAccumulator.futureMetric]
  · refine LagAccumulator.result_foldl (hvalues _ _ ?_ fun labels => ?_)
      (hvalues _ _ ?_ fun labels => ?_)
    all_goals
      simp [SourceLabelAccumulators.metrics, SourceLabelAccumulators.inserts,
        SourceLabelAccumulators.init, LagAccumulator.inserts, LagAccumulator.featureMetric,
        LagAccumulator.futureMetric]

end LabelObservations

end SomethingTrade
