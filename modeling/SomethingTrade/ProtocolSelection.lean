import Mathlib.Data.Prod.Lex
import Mathlib.Data.String.Basic
import SomethingTrade.ClockOffset
import SomethingTrade.HybridValidity
import SomethingTrade.ProtocolLeakage
import SomethingTrade.ReferenceFiles

/-!
# The Selection of a Protocol

The reports of the sources, made of the labels of the rows, and the choice of a source and a
budget whose corrected hybrid labels cover enough of the eligible samples. The choice asks for
more than the rate of the corrected labels: the source has times of the exchange, and the exchange
time labels cover enough as well. Both follow from the rate, for rows whose hybrid labels were
built from the exchange time labels.

## Main results

* `exists_builtLabels`: where the labels of the rows come from.
* `isBest_selectCorrectedProtocolCandidate`: what is chosen.
* `hybridLabels_consistent`: the labels, the rates and the choice.
-/

namespace SomethingTrade

/-- The rate of valid labels that is enough. -/
def required100msValidRate : ℚ := 19 / 20

/-- How many corrected lags may be below the skew of the clocks. -/
def maxNegativeCorrectedLagRate : ℚ := 1 / 1000

/-! ### Reports of sources -/

/-- What the labels of a source say. -/
def ReferenceSource.semanticType : ReferenceSource → String
  | depthMid | bookTickerMid => "quote_mid"
  | tradePrice | aggTradePrice => "transaction_price"

/-- What the labels of a source are. -/
def ReferenceSource.semanticDescription : ReferenceSource → String
  | depthMid => "future orderbook mid label"
  | bookTickerMid => "future best bid/ask mid label"
  | tradePrice => "future transaction price label"
  | aggTradePrice => "future aggregate transaction price label"

/-- What the labels of a source are not. -/
def ReferenceSource.semanticWarning : ReferenceSource → Option String
  | tradePrice => some "trade_price labels are transaction-price labels, not quote-mid labels"
  | aggTradePrice =>
      some "aggTrade_price labels are aggregate transaction-price labels, not quote-mid labels"
  | _ => none

/-- The metrics of exchange time labels, with the violations of the check of leakage. -/
structure ExchangeTimeMetrics extends ProtocolMetrics where
  exchangeFutureGapP95Ms : Option ℚ
  labelLeakageViolations : ℕ

/-- The percentiles of the lags of exchange time labels. -/
structure ReceiveLagTelemetry where
  featureReceiveLagP50Ms : Option ℚ
  featureReceiveLagP95Ms : Option ℚ
  featureReceiveLagP99Ms : Option ℚ
  futureReceiveLagP50Ms : Option ℚ
  futureReceiveLagP95Ms : Option ℚ
  futureReceiveLagP99Ms : Option ℚ

/-- The telemetry of exchange time labels. -/
def receiveLagTelemetry (labels : List ExchangeTimeLabel) : ReceiveLagTelemetry :=
  let feature := valueSummary (labels.filterMap ExchangeTimeLabel.featureReceiveLagMs)
  let future := valueSummary (labels.filterMap ExchangeTimeLabel.futureReceiveLagMs)
  ⟨feature.p50, feature.p95, feature.p99, future.p50, future.p95, future.p99⟩

/-- The report of a source. -/
structure SourceProtocolReport where
  source : ReferenceSource
  semanticType : String
  semanticDescription : String
  referenceEventCount : ℕ
  validReferenceEventCount : ℕ
  exchangeTimeSupported : Bool
  exchangeTimestampFieldUsed : Option String
  unsupportedReason : Option String
  receiveTime : ProtocolMetrics
  exchangeTime : ExchangeTimeMetrics
  hybrid : HybridBudget → HybridMetrics
  receiveLagTelemetry : ReceiveLagTelemetry
  semanticWarning : Option String

/-- Report on a source. -/
def computeSourceProtocolReport (source : ReferenceSource)
    (validation : ReferenceValidationResult) (rows : List TimeProtocolRow)
    (timestampSchema : TimestampSchema) (leakage : ProtocolLeakageCheck) : SourceProtocolReport :=
  let labels := rows.map fun row => row.protocolLabels source
  let schema := timestampSchema.sources source
  let exchangeMetrics := protocolMetrics (labels.map fun label => label.exchangeTime.reading)
    "exchange_future_gap_ms"
  { source := source
    semanticType := source.semanticType
    semanticDescription := source.semanticDescription
    referenceEventCount := validation.referenceEventCount
    validReferenceEventCount := validation.validReferenceEventCount
    exchangeTimeSupported := schema.exchangeTimeSupported
    exchangeTimestampFieldUsed := schema.exchangeTimestampFieldUsed
    unsupportedReason := schema.unsupportedReason
    receiveTime := protocolMetrics (labels.map fun label => label.receiveTime.reading)
      "receive_future_gap_ms"
    exchangeTime :=
      { exchangeMetrics with
        exchangeFutureGapP95Ms := exchangeMetrics.futureGapP95Ms
        labelLeakageViolations := leakage.labelLeakageViolationsBySource source }
    hybrid := fun budget =>
      hybridMetrics (labels.map fun label => (label.hybrid budget).reading) budget.ms false
    receiveLagTelemetry := SomethingTrade.receiveLagTelemetry
      (labels.map ProtocolLabels.exchangeTime)
    semanticWarning := source.semanticWarning }

/-- Whether an offset of the clocks explains long lags. -/
def clockOffsetExplains (rawFeature correctedFeature : List ℚ) : Option Bool :=
  match percentile rawFeature (1 / 2), percentile correctedFeature (1 / 2) with
  | some raw, some corrected =>
      if raw ≤ 1000 then some false else some (decide (|corrected| ≤ 250))
  | _, _ => none

/-- The report of a source with its corrected labels. -/
structure CorrectedSourceReport where
  source : ReferenceSource
  semanticType : String
  semanticDescription : String
  exchangeTimeSupported : Bool
  exchangeTimestampFieldUsed : Option String
  unsupportedReason : Option String
  receiveTime : ProtocolMetrics
  exchangeTime : ExchangeTimeMetrics
  rawReceiveLag : LagMetrics
  correctedReceiveLag : LagMetrics
  clockOffsetExplainsRawLag : Option Bool
  correctedHybrid : HybridBudget → HybridMetrics

/-- Report on a source with its corrected labels. -/
def computePhase42eSourceReport (source : ReferenceSource)
    (validation : ReferenceValidationResult) (timeRows : List TimeProtocolRow)
    (correctedRows : List CorrectedRow) (timestampSchema : TimestampSchema)
    (leakage : ProtocolLeakageCheck) : CorrectedSourceReport :=
  let base := computeSourceProtocolReport source validation timeRows timestampSchema leakage
  let labels := correctedRows.map fun row => row.correctedProtocolLabels source
  let rawFeature := labels.filterMap CorrectedLabels.rawFeatureReceiveLagMs
  let rawFuture := labels.filterMap CorrectedLabels.rawFutureReceiveLagMs
  let correctedFeature := labels.filterMap CorrectedLabels.correctedFeatureReceiveLagMs
  let correctedFuture := labels.filterMap CorrectedLabels.correctedFutureReceiveLagMs
  { source := source
    semanticType := source.semanticType
    semanticDescription := source.semanticDescription
    exchangeTimeSupported := base.exchangeTimeSupported
    exchangeTimestampFieldUsed := base.exchangeTimestampFieldUsed
    unsupportedReason := base.unsupportedReason
    receiveTime := base.receiveTime
    exchangeTime := base.exchangeTime
    rawReceiveLag := lagSummary rawFeature rawFuture
    correctedReceiveLag := lagSummary correctedFeature correctedFuture
    clockOffsetExplainsRawLag := clockOffsetExplains rawFeature correctedFeature
    correctedHybrid := fun budget =>
      hybridMetrics (labels.map fun label => (label.correctedHybrid budget).reading) budget.ms
        true }

/-! ### The sanity of the clocks -/

/-- What is reported of the corrected lags of a source. -/
structure SourceClockSanity where
  featureCorrectedReceiveLagCount : ℕ
  negativeCorrectedLagBeyondSkewCount : ℕ
  negativeCorrectedLagBeyondSkewRate : ℚ
  correctedLagSanityValid : Bool

/-- Report on the corrected lags of a source. -/
def sourceClockSanity (lag : LagMetrics) : SourceClockSanity :=
  let negativeRate := LabelCounts.rate lag.featureBelowNegativeSkewCount lag.featureCount
  { featureCorrectedReceiveLagCount := lag.featureCount
    negativeCorrectedLagBeyondSkewCount := lag.featureBelowNegativeSkewCount
    negativeCorrectedLagBeyondSkewRate := negativeRate
    correctedLagSanityValid := negativeRate ≤ maxNegativeCorrectedLagRate }

/-- The report on the clocks. -/
structure ClockSanityReport where
  performed : Bool := true
  allowedClockSkewMs : ℚ := SomethingTrade.allowedClockSkewMs
  maxNegativeCorrectedLagRate : ℚ := SomethingTrade.maxNegativeCorrectedLagRate
  clockOffsetDriftValid : Bool
  clockOffsetSampleQualityValid : Bool
  serverTimeRttValid : Bool
  serverTimeRttWarning : Bool
  correctedLagSanityValid : Bool
  clockSanityValid : Bool
  sources : BySource SourceClockSanity

/-- Report on the clocks. -/
def buildClockSanityReport (summary : ClockOffsetSummary)
    (sources : BySource CorrectedSourceReport) : ClockSanityReport :=
  let sourceReports : BySource SourceClockSanity := fun source =>
    sourceClockSanity (sources source).correctedReceiveLag
  let lagsValid := ReferenceSource.all.all fun source =>
    (sourceReports source).correctedLagSanityValid
  let rttValid := summary.serverTimeRttP95Ms.any fun rtt => rtt ≤ serverTimeRttHardFailMs
  { clockOffsetDriftValid := summary.clockOffsetDriftValid
    clockOffsetSampleQualityValid := summary.clockOffsetSampleQualityValid
    serverTimeRttValid := rttValid
    serverTimeRttWarning :=
      summary.serverTimeRttP95Ms.any fun rtt => rtt > serverTimeRttWarningMs
    correctedLagSanityValid := lagsValid
    clockSanityValid := summary.clockOffsetSampleQualityValid && summary.clockOffsetDriftValid &&
      rttValid && lagsValid
    sources := sourceReports }

/-! ### The choice -/

/-- A source and a budget that may be chosen. -/
structure CorrectedCandidate where
  source : ReferenceSource
  protocol : String := "corrected_hybrid_low_latency_protocol"
  budget : HybridBudget
  exchangeTimeValidRate : ℚ
  correctedHybridValidRate : ℚ
  clockOffsetSummary : ClockOffsetSummary

/-- Candidates are sorted by their rates, from the highest, then by their budgets and sources. -/
def CorrectedCandidate.sortKey (candidate : CorrectedCandidate) : ℚ ×ₗ ℕ ×ₗ String :=
  toLex (-candidate.correctedHybridValidRate,
    toLex (candidate.budget.ms, candidate.source.name))

/-- The candidates of a source. -/
def correctedCandidates (report : CorrectedSourceReport) (source : ReferenceSource)
    (summary : ClockOffsetSummary) : List CorrectedCandidate :=
  let exchangeRate := report.exchangeTime.validRateEligibleRows
  if !report.exchangeTimeSupported then []
  else if exchangeRate < required100msValidRate then []
  else HybridBudget.all.filterMap fun budget =>
    let hybridRate := (report.correctedHybrid budget).validRateEligibleRows
    if hybridRate ≥ required100msValidRate then
      some { source := source
             budget := budget
             exchangeTimeValidRate := exchangeRate
             correctedHybridValidRate := hybridRate
             clockOffsetSummary := summary }
    else none

/-- The best candidate, if there is no leakage and the clocks are sane. -/
def selectCorrectedProtocolCandidate (sources : BySource CorrectedSourceReport)
    (leakage : ProtocolLeakageCheck) (clockSanity : ClockSanityReport)
    (summary : ClockOffsetSummary) : Option CorrectedCandidate :=
  if leakage.featureLeakageViolations > 0 ∨ leakage.labelLeakageViolations > 0 then none
  else if !clockSanity.clockSanityValid then none
  else
    (sortBy CorrectedCandidate.sortKey <| ReferenceSource.all.flatMap fun source =>
      correctedCandidates (sources source) source summary).head?

/-! ### Where the labels of the rows come from -/

/-- Labels of a source whose hybrid labels were built from the exchange time label. -/
structure BuiltLabels (labels : ProtocolLabels) (exchangeTimeSupported : Bool) (skew : ℚ) :
    Prop where
  hybrid : ∀ budget, labels.hybrid budget = buildHybridLabel labels.exchangeTime budget.ms skew
  supported : labels.exchangeTime.eligible = true → exchangeTimeSupported = true

/-- A source without times of the exchange has no eligible label. -/
theorem supported_of_eligible {fromisoformat : String → Option ℚ} {source : ReferenceSource}
    {sample : Json} {mid : Option ℚ} {references : List Json} {timestamps : List ℚ}
    {supported : Bool} {reason : String} {fallback : Bool} {label : ExchangeTimeLabel}
    (h : buildExchangeTimeLabel fromisoformat source sample mid references timestamps supported
      reason fallback = .ok label) (heligible : label.eligible = true) : supported = true := by
  rcases supported with _ | _
  · rw [buildExchangeTimeLabel] at h
    obtain rfl := Except.ok.inj h
    cases heligible
  · rfl

/-- **The labels of generated rows are built from their exchange time labels.** -/
theorem exists_builtLabels {fromisoformat : String → Option ℚ} {cleanSamples : List Json}
    {references : BySource (List Json)} {schema : TimestampSchema} {fallback : Bool} {skew : ℚ}
    {rows : List TimeProtocolRow}
    (h : generateTimeProtocolRows fromisoformat cleanSamples references schema fallback skew =
      .ok rows) (source : ReferenceSource) :
    ∀ row ∈ rows, BuiltLabels (row.protocolLabels source)
      (schema.sources source).exchangeTimeSupported skew := by
  intro row hrow
  obtain ⟨receiveSorted, receiveTimestamps, -, -, hrows⟩ := forall₂_generatedRow h
  obtain ⟨e, hgenerated⟩ := exists_of_forall₂ hrows hrow
  obtain ⟨receiveTime, exchangeTime, -, hexchange, hlabels⟩ := hgenerated.labels source
  rw [hlabels]
  exact ⟨fun budget => rfl, fun heligible => supported_of_eligible hexchange heligible⟩

/-! ### Runs -/

/-- A run over some samples and events: the rows it generates, the offset of the clocks and its
drift, and what the reports read besides. -/
structure ProtocolRun where
  fromisoformat : String → Option ℚ
  cleanSamples : List Json
  references : BySource (List Json)
  schema : TimestampSchema
  allowEventTimeFallback : Bool
  allowedClockSkewMs : ℚ
  rows : List TimeProtocolRow
  generated : generateTimeProtocolRows fromisoformat cleanSamples references schema
    allowEventTimeFallback allowedClockSkewMs = .ok rows
  estimatedClockOffsetMs : Option ℚ
  clockOffsetDriftValid : Bool
  correctedClockSkewMs : ℚ
  validations : BySource ReferenceValidationResult
  leakage : ProtocolLeakageCheck

namespace ProtocolRun

variable (run : ProtocolRun) (source : ReferenceSource)

/-- The rows with corrected labels. -/
def correctedRows : List CorrectedRow :=
  generateCorrectedTimeProtocolRows run.rows run.estimatedClockOffsetMs run.clockOffsetDriftValid
    run.correctedClockSkewMs

/-- The report of a source. -/
def report : SourceProtocolReport :=
  computeSourceProtocolReport source (run.validations source) run.rows run.schema run.leakage

/-- The report of a source with its corrected labels. -/
def correctedReport : CorrectedSourceReport :=
  computePhase42eSourceReport source (run.validations source) run.rows run.correctedRows
    run.schema run.leakage

/-- The rate of the exchange time labels of a source. -/
def exchangeRate : ℚ := (run.report source).exchangeTime.validRateEligibleRows

/-- The rate of the hybrid labels of a source for a budget. -/
def hybridRate (budget : HybridBudget) : ℚ :=
  ((run.report source).hybrid budget).validRateEligibleRows

/-- The rate of the corrected hybrid labels of a source for a budget. -/
def correctedRate (budget : HybridBudget) : ℚ :=
  ((run.correctedReport source).correctedHybrid budget).validRateEligibleRows

/-- The exchange time label of a row. -/
def exchangeLabel (row : TimeProtocolRow) : ExchangeTimeLabel :=
  (row.protocolLabels source).exchangeTime

/-- The corrected hybrid label of a row. -/
def correctedLabel (budget : HybridBudget) (row : TimeProtocolRow) : CorrectedHybridLabel :=
  buildCorrectedHybridLabel (exchangeLabel source row)
    (correctedReceiveLagMs (exchangeLabel source row).featureReceiveLagMs
      run.estimatedClockOffsetMs)
    (correctedReceiveLagMs (exchangeLabel source row).futureReceiveLagMs
      run.estimatedClockOffsetMs)
    budget.ms run.clockOffsetDriftValid run.correctedClockSkewMs

theorem exchangeRate_eq : run.exchangeRate source =
    validRate (run.rows.map fun row => (exchangeLabel source row).reading.outcome) := by
  rw [exchangeRate, report, computeSourceProtocolReport]
  simp only [validRateEligibleRows_protocolMetrics, List.map_map]
  rfl

theorem hybridRate_eq (budget : HybridBudget) : run.hybridRate source budget =
    validRate (run.rows.map fun row =>
      ((row.protocolLabels source).hybrid budget).reading.outcome) := by
  rw [hybridRate, report, computeSourceProtocolReport]
  simp only [validRateEligibleRows_hybridMetrics, List.map_map]
  rfl

theorem correctedRate_eq (budget : HybridBudget) : run.correctedRate source budget =
    validRate (run.rows.map fun row =>
      (run.correctedLabel source budget row).reading.outcome) := by
  rw [correctedRate, correctedReport, computePhase42eSourceReport, correctedRows,
    generateCorrectedTimeProtocolRows]
  simp only [validRateEligibleRows_hybridMetrics, List.map_map]
  rfl

/-- The hybrid label of a row was built from its exchange time label. -/
theorem hybrid_eq {row : TimeProtocolRow} (hrow : row ∈ run.rows) (budget : HybridBudget) :
    (row.protocolLabels source).hybrid budget =
      buildHybridLabel (exchangeLabel source row) budget.ms run.allowedClockSkewMs :=
  (exists_builtLabels run.generated source row hrow).hybrid budget

/-! ### The rates -/

/-- **A larger budget has no lower rate.** -/
theorem hybridRate_mono {budget budget' : HybridBudget} (hle : budget.ms ≤ budget'.ms) :
    run.hybridRate source budget ≤ run.hybridRate source budget' := by
  rw [hybridRate_eq, hybridRate_eq]
  refine validRate_le_of_imp (fun row hrow => ?_) fun row hrow hvalid => ?_
  · rw [run.hybrid_eq source hrow, run.hybrid_eq source hrow]
    exact (buildHybridLabel_eligible _ _ _).trans (buildHybridLabel_eligible _ _ _).symm
  · rw [run.hybrid_eq source hrow] at hvalid ⊢
    obtain ⟨heligible, hexchange, hlag, horder⟩ := (buildHybridLabel_valid_iff _ _ _).mp hvalid
    exact (buildHybridLabel_valid_iff _ _ _).mpr ⟨heligible, hexchange, hlag.mono hle, horder⟩

/-- **No budget has a higher rate than the exchange time labels.** -/
theorem hybridRate_le (budget : HybridBudget) :
    run.hybridRate source budget ≤ run.exchangeRate source := by
  rw [hybridRate_eq, exchangeRate_eq]
  refine validRate_le_of_imp (fun row hrow => ?_) fun row hrow hvalid => ?_
  · rw [run.hybrid_eq source hrow]
    exact buildHybridLabel_eligible _ _ _
  · rw [run.hybrid_eq source hrow] at hvalid
    exact ((buildHybridLabel_valid_iff _ _ _).mp hvalid).2.1

/-- **A larger budget has no lower rate of corrected labels.** -/
theorem correctedRate_mono {budget budget' : HybridBudget} (hle : budget.ms ≤ budget'.ms) :
    run.correctedRate source budget ≤ run.correctedRate source budget' := by
  rw [correctedRate_eq, correctedRate_eq]
  refine validRate_le_of_imp (fun row hrow => ?_) fun row hrow hvalid => ?_
  · exact (buildCorrectedHybridLabel_eligible _ _ _ _ _ _).trans
      (buildCorrectedHybridLabel_eligible _ _ _ _ _ _).symm
  · obtain ⟨heligible, hexchange, hdrift, hlag, horder⟩ :=
      (buildCorrectedHybridLabel_valid_iff _ _ _ _ _ _).mp hvalid
    exact (buildCorrectedHybridLabel_valid_iff _ _ _ _ _ _).mpr
      ⟨heligible, hexchange, hdrift, hlag.mono hle, horder⟩

/-- **No budget has a higher rate of corrected labels than the exchange time labels.** -/
theorem correctedRate_le (budget : HybridBudget) :
    run.correctedRate source budget ≤ run.exchangeRate source := by
  rw [correctedRate_eq, exchangeRate_eq]
  refine validRate_le_of_imp (fun row hrow => ?_) fun row hrow hvalid => ?_
  · exact buildCorrectedHybridLabel_eligible _ _ _ _ _ _
  · exact ((buildCorrectedHybridLabel_valid_iff _ _ _ _ _ _).mp hvalid).2.1

/-- A source with any valid corrected label has times of the exchange. -/
theorem supported_of_correctedRate {budget : HybridBudget}
    (h : 0 < run.correctedRate source budget) :
    (run.correctedReport source).exchangeTimeSupported = true := by
  rw [correctedRate_eq] at h
  obtain ⟨row, hrow, heligible, -⟩ := exists_of_validRate_pos h
  refine (exists_builtLabels run.generated source row hrow).supported ?_
  exact (buildCorrectedHybridLabel_eligible _ _ _ _ _ _).symm.trans heligible

/-! ### The candidate -/

/-- **The candidates are the budgets whose corrected labels cover enough.** -/
theorem mem_correctedCandidates (summary : ClockOffsetSummary) {candidate : CorrectedCandidate} :
    candidate ∈ correctedCandidates (run.correctedReport source) source summary ↔
      ∃ budget, required100msValidRate ≤ run.correctedRate source budget ∧
        candidate = {
          source := source
          budget := budget
          exchangeTimeValidRate := run.exchangeRate source
          correctedHybridValidRate := run.correctedRate source budget
          clockOffsetSummary := summary } := by
  have hpos : (0 : ℚ) < required100msValidRate := by norm_num [required100msValidRate]
  simp only [correctedCandidates]
  split
  · rename_i hsupported
    refine iff_of_false (List.not_mem_nil) ?_
    rintro ⟨budget, hrate, -⟩
    rw [run.supported_of_correctedRate source (hpos.trans_le hrate)] at hsupported
    cases hsupported
  split
  · rename_i hexchange
    refine iff_of_false (List.not_mem_nil) ?_
    rintro ⟨budget, hrate, -⟩
    exact absurd hexchange (hrate.trans (run.correctedRate_le source budget)).not_gt
  · constructor
    · intro hmem
      obtain ⟨budget, -, hbudget⟩ := List.mem_filterMap.mp hmem
      split at hbudget
      · rename_i hrate
        exact ⟨budget, hrate, (Option.some.inj hbudget).symm⟩
      · cases hbudget
    · rintro ⟨budget, hrate, rfl⟩
      refine List.mem_filterMap.mpr ⟨budget, budget.mem_all, ?_⟩
      exact if_pos hrate

/-- A candidate of the highest rate and, for it, the smallest budget. -/
structure IsBest (candidate : CorrectedCandidate) : Prop where
  rate : candidate.correctedHybridValidRate = run.correctedRate candidate.source candidate.budget
  enough : required100msValidRate ≤ candidate.correctedHybridValidRate
  highest : ∀ source budget,
    run.correctedRate source budget ≤ candidate.correctedHybridValidRate
  smallest : ∀ source budget,
    run.correctedRate source budget = candidate.correctedHybridValidRate →
      candidate.budget.ms ≤ budget.ms

variable {clockSanity : ClockSanityReport} {summary : ClockOffsetSummary}
  {leakage : ProtocolLeakageCheck}

/-- **What is chosen is best.** -/
theorem isBest_selectCorrectedProtocolCandidate {candidate : CorrectedCandidate}
    (h : selectCorrectedProtocolCandidate run.correctedReport leakage clockSanity summary =
      some candidate) : run.IsBest candidate := by
  rw [selectCorrectedProtocolCandidate] at h
  split at h
  · cases h
  split at h
  · cases h
  obtain ⟨hmem, hleast⟩ := le_of_head?_sortBy h
  obtain ⟨source, -, hcandidate⟩ := List.mem_flatMap.mp hmem
  obtain ⟨budget, hrate, rfl⟩ := (run.mem_correctedCandidates source summary).mp hcandidate
  have hkey (source' : ReferenceSource) (budget' : HybridBudget)
      (hrate' : required100msValidRate ≤ run.correctedRate source' budget') :=
    hleast _ (List.mem_flatMap.mpr ⟨source', source'.mem_all,
      (run.mem_correctedCandidates source' summary).mpr ⟨budget', hrate', rfl⟩⟩)
  simp only [CorrectedCandidate.sortKey, Prod.Lex.toLex_le_toLex, neg_lt_neg_iff, neg_inj] at hkey
  refine ⟨rfl, hrate, fun source' budget' => ?_, fun source' budget' hsame => ?_⟩
  · rcases le_or_gt required100msValidRate (run.correctedRate source' budget') with hge | hlt
    · rcases hkey source' budget' hge with hlower | ⟨hsame, -⟩
      · exact hlower.le
      · exact hsame.ge
    · exact hlt.le.trans hrate
  · rcases hkey source' budget' (hrate.trans hsame.ge) with hlower | ⟨-, hbudget⟩
    · exact absurd hsame hlower.ne
    · rcases hbudget with hlt | ⟨heq, -⟩
      · exact hlt.le
      · exact heq.le

/-- **A candidate is chosen exactly when some corrected labels cover enough**, there is no leakage
and the clocks are sane. -/
theorem isSome_selectCorrectedProtocolCandidate :
    (selectCorrectedProtocolCandidate run.correctedReport leakage clockSanity summary).isSome ↔
      (∃ source budget, required100msValidRate ≤ run.correctedRate source budget) ∧
        clockSanity.clockSanityValid = true ∧
        leakage.featureLeakageViolations = 0 ∧ leakage.labelLeakageViolations = 0 := by
  rw [selectCorrectedProtocolCandidate]
  split
  · rename_i hleak
    refine iff_of_false (by simp) ?_
    rintro ⟨-, -, hfeature, hlabel⟩
    omega
  split
  · rename_i hsane
    refine iff_of_false (by simp) ?_
    rintro ⟨-, hvalid, -⟩
    rw [hvalid] at hsane
    cases hsane
  rename_i hleak hsane
  rw [isSome_head?_sortBy]
  constructor
  · intro hne
    obtain ⟨candidate, hmem⟩ := List.exists_mem_of_ne_nil _ hne
    obtain ⟨source, -, hcandidate⟩ := List.mem_flatMap.mp hmem
    obtain ⟨budget, hrate, -⟩ := (run.mem_correctedCandidates source summary).mp hcandidate
    exact ⟨⟨source, budget, hrate⟩, by simpa using hsane, by omega, by omega⟩
  · rintro ⟨⟨source, budget, hrate⟩, -⟩
    exact List.ne_nil_of_mem (List.mem_flatMap.mpr ⟨source, source.mem_all,
      (run.mem_correctedCandidates source summary).mpr ⟨budget, hrate, rfl⟩⟩)

end ProtocolRun

/-- **Hybrid labels, their rates and the choice fit together.** A hybrid or corrected hybrid label
is valid only if its exchange time label is, has its eligibility for every budget, and stays valid
for larger budgets; without an offset and with a valid drift both are valid alike. So in every run
the rates of a source do not fall with the budget and are at most that of the exchange time labels,
and a candidate is chosen exactly when some corrected rate is enough, there is no leakage and the
clocks are sane: one of highest rate and, for it, smallest budget. -/
theorem hybridLabels_consistent :
    (∀ (label : ExchangeTimeLabel) (offset : Option ℚ) (driftValid : Bool) (skew : ℚ),
      let hybrid := fun budgetMs : ℕ => buildHybridLabel label budgetMs skew
      let corrected := fun budgetMs : ℕ => buildCorrectedHybridLabel label
        (correctedReceiveLagMs label.featureReceiveLagMs offset)
        (correctedReceiveLagMs label.futureReceiveLagMs offset) budgetMs driftValid skew
      (∀ budgetMs, (hybrid budgetMs).valid = true ∨ (corrected budgetMs).valid = true →
        label.valid = true) ∧
      (∀ budgetMs, (hybrid budgetMs).eligible = label.eligible ∧
        (corrected budgetMs).eligible = label.eligible) ∧
      (∀ budgetMs budgetMs', budgetMs ≤ budgetMs' →
        ((hybrid budgetMs).valid = true → (hybrid budgetMs').valid = true) ∧
        ((corrected budgetMs).valid = true → (corrected budgetMs').valid = true)) ∧
      (offset = some 0 → driftValid = true →
        ∀ budgetMs, (corrected budgetMs).valid = (hybrid budgetMs).valid)) ∧
    ∀ run : ProtocolRun,
      (∀ source budget budget', HybridBudget.ms budget ≤ HybridBudget.ms budget' →
        run.hybridRate source budget ≤ run.hybridRate source budget' ∧
        run.hybridRate source budget' ≤ run.exchangeRate source ∧
        run.correctedRate source budget ≤ run.correctedRate source budget' ∧
        run.correctedRate source budget' ≤ run.exchangeRate source) ∧
      ∀ leakage clockSanity summary,
        ((selectCorrectedProtocolCandidate run.correctedReport leakage clockSanity
            summary).isSome ↔
          (∃ source budget, required100msValidRate ≤ run.correctedRate source budget) ∧
            clockSanity.clockSanityValid = true ∧
            leakage.featureLeakageViolations = 0 ∧ leakage.labelLeakageViolations = 0) ∧
        ∀ candidate, selectCorrectedProtocolCandidate run.correctedReport leakage clockSanity
          summary = some candidate → run.IsBest candidate := by
  refine ⟨fun label offset driftValid skew => ⟨fun budgetMs hvalid => ?_, fun budgetMs => ?_,
    fun budgetMs budgetMs' hle => ?_, fun hoffset hdrift budgetMs => ?_⟩, fun run => ⟨?_, ?_⟩⟩
  · rcases hvalid with hvalid | hvalid
    · exact ((buildHybridLabel_valid_iff _ _ _).mp hvalid).2.1
    · exact ((buildCorrectedHybridLabel_valid_iff _ _ _ _ _ _).mp hvalid).2.1
  · exact ⟨buildHybridLabel_eligible _ _ _, buildCorrectedHybridLabel_eligible _ _ _ _ _ _⟩
  · constructor
    · intro hvalid
      obtain ⟨heligible, hexchange, hlag, horder⟩ := (buildHybridLabel_valid_iff _ _ _).mp hvalid
      exact (buildHybridLabel_valid_iff _ _ _).mpr ⟨heligible, hexchange, hlag.mono hle, horder⟩
    · intro hvalid
      obtain ⟨heligible, hexchange, hdrift, hlag, horder⟩ :=
        (buildCorrectedHybridLabel_valid_iff _ _ _ _ _ _).mp hvalid
      exact (buildCorrectedHybridLabel_valid_iff _ _ _ _ _ _).mpr
        ⟨heligible, hexchange, hdrift, hlag.mono hle, horder⟩
  · rw [Bool.eq_iff_iff, buildHybridLabel_valid_iff, buildCorrectedHybridLabel_valid_iff, hoffset,
      correctedReceiveLagMs_zero]
    simp only [hdrift, true_and]
  · intro source budget budget' hle
    exact ⟨run.hybridRate_mono source hle, run.hybridRate_le source budget',
      run.correctedRate_mono source hle, run.correctedRate_le source budget'⟩
  · intro leakage clockSanity summary
    exact ⟨run.isSome_selectCorrectedProtocolCandidate,
      fun candidate h => run.isBest_selectCorrectedProtocolCandidate h⟩

/-- A label that was received 30 ms after the time of the exchange. -/
def lateLabel : ExchangeTimeLabel :=
  { referenceSource := .depthMid
    targetExchangeTsMs := some 1100
    featureExchangeTsMs := some 1000
    featureLocalRecvMonotonicNs := .int 5
    featureReceiveLagMs := some 30
    futureReferenceLocalRecvMonotonicNs := .int 8
    eligible := true
    valid := true }

/-- The label is valid for a budget of 50 ms, so it is for one of 250 ms, but not for one of
25 ms. -/
theorem hybridLabels_consistent_lateLabel :
    (buildHybridLabel lateLabel 25 5).valid = false ∧
      (buildHybridLabel lateLabel 250 5).valid = true :=
  have hlabel := hybridLabels_consistent.1 lateLabel (some 0) true 5
  ⟨by decide +kernel, (hlabel.2.2.1 50 250 (by decide)).1 (by decide +kernel)⟩

end SomethingTrade
