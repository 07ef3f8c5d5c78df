import Mathlib.Algebra.BigOperators.Group.List.Basic
import Mathlib.Algebra.Order.Floor.Semiring
import Mathlib.Data.List.Sort
import Mathlib.Data.Rat.Floor
import Mathlib.Tactic.NormNum
import SomethingTrade.Dict

/-!
# Edge Robustness

The reports on whether an edge survives its cost: samples are split into a training, a
validation and a test part, and a rule that selects samples counts only when it works in both
parts that were held out. The report on filters and the one on costs ask this of one rule. The
report on top slices asks it of any two: one that works in the validation part and another that
works in the test part are enough. The decision weighs the reports and lists what blocks it.

## Representation

* A sample holds what the reports read of it: numbers as they are read, so that what is no
  number is absent. Floats are taken exactly.
* Reports hold the fields that are computed.

## Main results

* `mem_topkRows`: every row of the top slices is about one ranker, slice and split.
* `robustness_claims_backed_iff`: exactly when every claim is backed by one rule, and a decision
  is made without blockers.
-/

namespace SomethingTrade

/-! ### Samples -/

/-- The parts that samples are split into. -/
inductive Split
  | train | validation | test
  deriving DecidableEq

/-- A value for each part. -/
structure BySplit (α : Type) where
  train : α
  validation : α
  test : α

/-- Compute a value for each part. -/
def BySplit.of {α : Type} (f : Split → α) : BySplit α := ⟨f .train, f .validation, f .test⟩

/-- What the reports read of a sample. -/
structure ScoredSample where
  split : Option Split
  /-- Whether the label is marked as valid. -/
  valid100msLabel : Bool
  futureReturn100msBps : Option ℚ
  features : Dict String ℚ
  modelProbability : Option ℚ
  modelConfidence : Option ℚ
  modelBaseRate : Option ℚ

/-- An optional number or the default; zero counts as absent. -/
def orFloat (x : Option ℚ) (default : ℚ) : ℚ :=
  match x with
  | some q => if q = 0 then default else q
  | none => default

namespace ScoredSample

/-- A feature, zero when it is no number. -/
def feature (s : ScoredSample) (name : String) : ℚ := (s.features.get? name).getD 0

/-- The return, zero when it is no number. -/
def futureReturn (s : ScoredSample) : ℚ := s.futureReturn100msBps.getD 0

/-- The direction that the gap of a sample points in. -/
def gapDirection (s : ScoredSample) : ℚ :=
  if s.feature "repricing_gap_bps" > 0 then 1
  else if s.feature "repricing_gap_bps" < 0 then -1
  else 1

/-- The direction that a sample signals: that of the model, else that of the gap. -/
def signalDirection (s : ScoredSample) : ℚ :=
  match s.modelProbability with
  | none => s.gapDirection
  | some probability =>
      let base := orFloat s.modelBaseRate (1 / 100)
      if probability > base then 1 else if probability < base then -1 else s.gapDirection

/-- What following the signal returns. -/
def signedReturn (s : ScoredSample) : ℚ := s.futureReturn * s.signalDirection

end ScoredSample

/-- The samples with a valid label. -/
def validSamples (samples : List ScoredSample) : List ScoredSample :=
  samples.filter ScoredSample.valid100msLabel

/-- The samples of a part. -/
def ofSplit (split : Split) (samples : List ScoredSample) : List ScoredSample :=
  samples.filter fun s => s.split = some split

/-! ### Statistics -/

/-- The mean of some numbers, zero when there are none. -/
def meanOrZero (values : List ℚ) : ℚ :=
  if values = [] then 0 else values.sum / values.length

/-- A quantile, interpolated between the neighbours. -/
def quantile (values : List ℚ) (q : ℚ) : Option ℚ :=
  let clean := values.insertionSort (· ≤ ·)
  let position := ((clean.length : ℚ) - 1) * q
  let lower := ⌊position⌋.toNat
  let upper := ⌈position⌉.toNat
  match clean[lower]?, clean[upper]? with
  | some low, some high =>
      let weight := position - lower
      if lower = upper then some low else some (low * (1 - weight) + high * weight)
  | _, _ => none

/-- How many of some returns are positive, as a rate. -/
def hitRate (returns : List ℚ) : Option ℚ :=
  if returns = [] then none
  else some ((returns.countP fun value => value > 0 : ℕ) / (returns.length : ℚ))

/-- The lowest value of a running sum, or zero. -/
def worstDrawdown (returns : List ℚ) : ℚ :=
  (returns.foldl (fun acc value => (acc.1 + value, min acc.2 (acc.1 + value))) (0, 0)).2

/-- The base cost of a trade. -/
def baseCostBps : ℚ := 2

/-- Fewer samples than this are few. -/
def lowSampleThreshold : ℕ := 30

/-! ### Opportunity filters -/

/-- The filters on samples. -/
inductive OpportunityFilter
  | repricingGapBpsAbsMin | pmSpreadBpsMax | quoteAgeMsMax | latencyQualityScoreMin
  | referenceTradeIntensityMin | modelConfidenceMin
  deriving DecidableEq

/-- Whether a sample passes a filter. -/
def filterMatch (s : ScoredSample) (filter : OpportunityFilter) (threshold : ℚ) : Bool :=
  match filter with
  | .repricingGapBpsAbsMin => |s.feature "repricing_gap_bps"| ≥ threshold
  | .pmSpreadBpsMax => s.feature "target_spread_bps" ≤ threshold
  | .quoteAgeMsMax => s.feature "reference_bookticker_age_ms" ≤ threshold
  | .latencyQualityScoreMin => s.feature "latency_quality_score" ≥ threshold
  | .referenceTradeIntensityMin => s.feature "reference_trade_count_1s" ≥ threshold
  | .modelConfidenceMin => s.modelConfidence.getD 0 ≥ threshold

/-- The filters with their thresholds; those on the model only when there is one. -/
def opportunityThresholds (modelPasses : Bool) : List (OpportunityFilter × ℚ) :=
  [1, 2, 3, 5, 10].map (fun t => (.repricingGapBpsAbsMin, t)) ++
    [5, 10, 20, 50].map (fun t => (.pmSpreadBpsMax, t)) ++
    [50, 100, 250, 500].map (fun t => (.quoteAgeMsMax, t)) ++
    [1 / 2, 7 / 10, 9 / 10].map (fun t => (.latencyQualityScoreMin, t)) ++
    [1, 3, 5, 10].map (fun t => (.referenceTradeIntensityMin, t)) ++
    if modelPasses then
      [1 / 1000, 3 / 1000, 5 / 1000, 1 / 100].map fun t => (.modelConfidenceMin, t)
    else []

/-- What a selection comes to in a part. -/
structure SelectionStats where
  split : Split
  sampleCount : ℕ
  selectionRate : ℚ
  hitRate : Option ℚ
  avgFutureReturnBps : ℚ
  medianFutureReturnBps : Option ℚ
  p25ReturnBps : Option ℚ
  p75ReturnBps : Option ℚ
  edgeAfterCostBps : ℚ
  lowSampleWarning : Bool

/-- What a selection from some samples comes to in a part. -/
def selectionStats (selected pool : List ScoredSample) (split : Split) (costBps : ℚ) :
    SelectionStats :=
  let rows := ofSplit split selected
  let returns := rows.map ScoredSample.signedReturn
  { split := split
    sampleCount := rows.length
    selectionRate := rows.length / max 1 ((ofSplit split pool).length : ℚ)
    hitRate := SomethingTrade.hitRate returns
    avgFutureReturnBps := meanOrZero returns
    medianFutureReturnBps := quantile returns (1 / 2)
    p25ReturnBps := quantile returns (1 / 4)
    p75ReturnBps := quantile returns (3 / 4)
    edgeAfterCostBps := meanOrZero returns - costBps
    lowSampleWarning := rows.length < lowSampleThreshold }

/-- Whether a selection works in both parts that were held out. -/
def validationTestSupported (splits : BySplit SelectionStats) : Bool :=
  splits.validation.edgeAfterCostBps > 0 && splits.test.edgeAfterCostBps > 0 &&
    !splits.validation.lowSampleWarning && !splits.test.lowSampleWarning

/-- What is reported of a filter. -/
structure FilterReport where
  filter : OpportunityFilter
  threshold : ℚ
  splits : BySplit SelectionStats
  stableAcrossSplits : Bool
  lowSampleFilter : Bool
  edgeClaimAllowed : Bool

/-- Report on a filter. -/
def filterReport (valid : List ScoredSample) (filter : OpportunityFilter) (threshold : ℚ) :
    FilterReport :=
  let selected := valid.filter fun s => filterMatch s filter threshold
  let splits := BySplit.of fun split => selectionStats selected valid split baseCostBps
  let stable := validationTestSupported splits
  let low := splits.train.lowSampleWarning || splits.validation.lowSampleWarning ||
    splits.test.lowSampleWarning
  { filter := filter
    threshold := threshold
    splits := splits
    stableAcrossSplits := stable
    lowSampleFilter := low
    edgeClaimAllowed := stable && !low }

/-- The report on the filters. -/
structure OpportunityFilterReport where
  filters : List FilterReport
  stableFilterCount : ℕ

/-- Report on the filters. -/
def buildOpportunityFilterReport (samples : List ScoredSample) (modelPasses : Bool) :
    OpportunityFilterReport :=
  let filters := (opportunityThresholds modelPasses).map fun e =>
    filterReport (validSamples samples) e.1 e.2
  { filters := filters
    stableFilterCount := filters.countP FilterReport.edgeClaimAllowed }

/-! ### Costs -/

/-- The costs that are tried: what a trade pays in each. -/
def costScenarios : List (String × ℚ) :=
  [("zero_cost", 0 + 0), ("optimistic_cost", 1 / 2 + 1 / 2), ("base_cost", 1 + 1),
    ("conservative_cost", 2 + 1), ("stress_cost", 3 + 2)]

/-- What a candidate earns in each part. A candidate is a filter, or all samples. -/
structure CandidateReport where
  candidate : Option (OpportunityFilter × ℚ)
  sampleCount : ℕ
  rawEdgeBySplit : BySplit ℚ
  /-- The cost of each scenario and what is left after it. -/
  scenarios : Dict String (ℚ × BySplit ℚ)

/-- Report on the costs of a candidate. -/
def candidateReport (candidate : Option (OpportunityFilter × ℚ)) (selected : List ScoredSample) :
    CandidateReport :=
  let raw (split : Split) : ℚ :=
    meanOrZero ((ofSplit split selected).map ScoredSample.signedReturn)
  { candidate := candidate
    sampleCount := selected.length
    rawEdgeBySplit := .of raw
    scenarios := .ofList (costScenarios.map fun e =>
      (e.1, e.2, .of fun split => raw split - e.2)) }

/-- Whether a candidate earns more than the cost of a scenario in both parts held out. -/
def CandidateReport.survives (report : CandidateReport) (scenario : String) : Bool :=
  (report.scenarios.get? scenario).any fun e => e.2.validation > 0 && e.2.test > 0

/-- The report on the costs. -/
structure CostSensitivityReport where
  candidateReports : List CandidateReport
  breakEvenCostBps : ℚ
  breakEvenCostRealistic : Bool
  positiveEdgeBeforeCost : Bool
  positiveEdgeAfterBaseCost : Bool
  edgeDisappearsOnlyAfterCost : Bool

/-- The highest of some numbers, zero when there are none. -/
def maxOrZero : List ℚ → ℚ
  | [] => 0
  | value :: values => values.foldl max value

/-- Report on the costs of all samples and of each filter. -/
def buildCostSensitivityReport (samples : List ScoredSample)
    (opportunityFilter : OpportunityFilterReport) : CostSensitivityReport :=
  let valid := validSamples samples
  let reports := candidateReport none valid :: opportunityFilter.filters.map fun item =>
    candidateReport (some (item.filter, item.threshold))
      (valid.filter fun s => filterMatch s item.filter item.threshold)
  let breakEven := maxOrZero (reports.map fun report =>
    min report.rawEdgeBySplit.validation report.rawEdgeBySplit.test)
  let zeroHint := reports.any fun report => report.survives "zero_cost"
  let baseSupported := reports.any fun report => report.survives "base_cost"
  { candidateReports := reports
    breakEvenCostBps := breakEven
    breakEvenCostRealistic := breakEven ≥ baseCostBps
    positiveEdgeBeforeCost := zeroHint
    positiveEdgeAfterBaseCost := baseSupported
    edgeDisappearsOnlyAfterCost := zeroHint && !baseSupported }

/-! ### Top slices -/

/-- What samples are ranked by. -/
inductive Ranker
  | absRepricingGapBps | combinedOpportunityScore | modelConfidence
  deriving DecidableEq

/-- The rank of a sample. -/
def rankValue (s : ScoredSample) : Ranker → ℚ
  | .absRepricingGapBps => |s.feature "repricing_gap_bps"|
  | .modelConfidence => s.modelConfidence.getD 0
  | .combinedOpportunityScore =>
      |s.feature "repricing_gap_bps"| * max 0 (s.feature "latency_quality_score") *
        (1 + s.feature "reference_trade_count_1s")

/-- The rankers; the one of the model only when there is one. -/
def topkRankers (modelPasses : Bool) : List Ranker :=
  [.absRepricingGapBps, .combinedOpportunityScore] ++
    if modelPasses then [.modelConfidence] else []

/-- The slices: how many samples of a hundred are taken. -/
def topkPercents : List ℚ := [1 / 10, 1 / 2, 1, 2, 5, 10]

/-- How many of some samples a slice takes. -/
def topCount (count : ℕ) (percent : ℚ) : ℕ :=
  if count = 0 then 0 else max 1 ⌈(count : ℚ) * percent / 100⌉₊

/-- The samples of a part, highest rank first; equal ones keep their order. -/
def rankedSamples (samples : List ScoredSample) (ranker : Ranker) (split : Split) :
    List ScoredSample :=
  (ofSplit split samples).insertionSort fun a b => rankValue b ranker ≤ rankValue a ranker

/-- The top slice of a part. -/
def topSelection (samples : List ScoredSample) (ranker : Ranker) (percent : ℚ) (split : Split) :
    List ScoredSample :=
  let ranked := rankedSamples samples ranker split
  ranked.take (topCount ranked.length percent)

/-- What is reported of a top slice. -/
structure TopkRow where
  ranker : Ranker
  topKPercent : ℚ
  split : Split
  sampleCount : ℕ
  selectionRate : ℚ
  avgFutureReturnBps : ℚ
  medianFutureReturnBps : Option ℚ
  edgeAfterCostBps : ℚ
  hitRate : Option ℚ
  maxDrawdownProxyBps : ℚ
  lowSampleWarning : Bool

/-- Report on a top slice. -/
def topkRow (samples : List ScoredSample) (ranker : Ranker) (costBps : ℚ) (split : Split)
    (percent : ℚ) : TopkRow :=
  let selected := topSelection samples ranker percent split
  let returns := selected.map ScoredSample.signedReturn
  { ranker := ranker
    topKPercent := percent
    split := split
    sampleCount := selected.length
    selectionRate := selected.length / max 1 ((ofSplit split samples).length : ℚ)
    avgFutureReturnBps := meanOrZero returns
    medianFutureReturnBps := quantile returns (1 / 2)
    edgeAfterCostBps := meanOrZero returns - costBps
    hitRate := SomethingTrade.hitRate returns
    maxDrawdownProxyBps := worstDrawdown returns
    lowSampleWarning := selected.length < lowSampleThreshold }

/-- The rows of a ranker. -/
def topkMetrics (samples : List ScoredSample) (ranker : Ranker) (percents : List ℚ)
    (costBps : ℚ) : List TopkRow :=
  [Split.train, .validation, .test].flatMap fun split =>
    percents.map (topkRow samples ranker costBps split)

/-- A row is about a part, its edge is positive, and its samples are not few. -/
def TopkRow.supports (row : TopkRow) (split : Split) : Bool :=
  row.split = split && row.edgeAfterCostBps > 0 && !row.lowSampleWarning

/-- The report on the top slices. -/
structure TopkEdgeReport where
  topkSlices : List ℚ
  rankers : List Ranker
  rows : List TopkRow
  lowSampleTopkFlagged : Bool
  validationTestSupport : Bool
  robustTopkEdgeClaimAllowed : Bool

/-- Report on the top slices. -/
def buildTopkEdgeReport (samples : List ScoredSample) (modelPasses : Bool) : TopkEdgeReport :=
  let rankers := topkRankers modelPasses
  let rows := rankers.flatMap fun ranker =>
    topkMetrics (validSamples samples) ranker topkPercents baseCostBps
  let supported := (rows.any fun row => row.supports .validation) &&
    rows.any fun row => row.supports .test
  { topkSlices := topkPercents
    rankers := rankers
    rows := rows
    lowSampleTopkFlagged := rows.any TopkRow.lowSampleWarning
    validationTestSupport := supported
    robustTopkEdgeClaimAllowed := supported }

/-! ### The decision -/

/-- What the decision reads. -/
structure DecisionInputs where
  baselineStatus : Option String
  baselinePrimaryHorizonMs : Option ℚ
  baselineEdgeConclusion : Option String
  inputManifestStatus : Option String
  sufficientExpansionForEdgeClaim : Bool
  flatLabelRisk : Option String
  opportunityFilter : OpportunityFilterReport
  costSensitivity : CostSensitivityReport
  robustAcrossRegimes : Bool
  oneRegimeOnlyDependency : Bool
  topk : TopkEdgeReport

/-- What is concluded about the edge. -/
inductive EdgeConclusion
  | robustEnoughForStrategySimulation
  | weakButWorthMoreData
  | inconclusiveNeedsMoreData
  | failedStopSignalBranch
  deriving DecidableEq

/-- The decision. -/
structure DecisionGateReport where
  status : String
  edgeRobustnessConclusion : EdgeConclusion
  blockers : List String
  robustConditionsMet : Bool
  weakConditionsMet : Bool
  noRawEdgeBeforeCost : Bool
  inconclusiveConditionsMet : Bool
  phase50InconclusiveBaseline : Bool
  nextPhaseRecommendation : String

/-- What blocks a decision. -/
def decisionBlockers (inputs : DecisionInputs) : List String :=
  (if inputs.baselineStatus ≠ some "pass" then ["phase50_baseline_lock_failed"] else []) ++
    (if inputs.inputManifestStatus ≠ some "pass" then ["input_bundle_manifest_failed"] else []) ++
    if inputs.baselinePrimaryHorizonMs ≠ some 100 then ["primary_horizon_not_100ms"] else []

/-- Nothing says that there is an edge before costs. -/
def noRawEdge (inputs : DecisionInputs) : Bool :=
  !inputs.costSensitivity.positiveEdgeBeforeCost && !inputs.topk.validationTestSupport

/-- Decide. -/
def buildDecisionGateReport (inputs : DecisionInputs) : DecisionGateReport :=
  let blockers := decisionBlockers inputs
  let clear : Bool := blockers = []
  let robust := clear && inputs.costSensitivity.positiveEdgeAfterBaseCost &&
    decide (inputs.opportunityFilter.stableFilterCount > 0) &&
    inputs.topk.robustTopkEdgeClaimAllowed && inputs.robustAcrossRegimes &&
    inputs.sufficientExpansionForEdgeClaim && decide (inputs.flatLabelRisk ≠ some "high")
  let weak := clear && inputs.costSensitivity.positiveEdgeBeforeCost &&
    !inputs.costSensitivity.positiveEdgeAfterBaseCost
  let inconclusive := !inputs.sufficientExpansionForEdgeClaim ||
    decide (inputs.flatLabelRisk = some "high") || inputs.oneRegimeOnlyDependency
  let decision : EdgeConclusion × String :=
    if robust then
      (.robustEnoughForStrategySimulation, "proceed to Phase 5.2 strategy simulation")
    else if inconclusive && clear then
      (.inconclusiveNeedsMoreData, "collect more controlled VPS data sessions")
    else if weak then
      (.weakButWorthMoreData, "targeted dataset expansion and feature improvement")
    else if noRawEdge inputs then
      (.failedStopSignalBranch,
        "stop this signal branch unless new features materially change the hypothesis")
    else (.inconclusiveNeedsMoreData, "collect more controlled VPS data sessions")
  { status := if clear then "pass" else "fail"
    edgeRobustnessConclusion := decision.1
    blockers := blockers
    robustConditionsMet := robust
    weakConditionsMet := weak
    noRawEdgeBeforeCost := noRawEdge inputs
    inconclusiveConditionsMet := inconclusive
    phase50InconclusiveBaseline := inputs.baselineEdgeConclusion = some "EDGE_INCONCLUSIVE"
    nextPhaseRecommendation := decision.2 }

/-! ### Backed claims -/

/-- What a claim of an edge says of a selection in a part. -/
structure SelectionStats.Works (stats : SelectionStats) : Prop where
  edge : 0 < stats.edgeAfterCostBps
  enough : stats.lowSampleWarning = false

/-- Two rows of the top slices are of one rule, and it works in both parts held out. -/
structure OneRuleWorks (v t : TopkRow) : Prop where
  ranker : v.ranker = t.ranker
  percent : v.topKPercent = t.topKPercent
  validation : v.supports .validation = true
  test : t.supports .test = true

/-- Every claim about some samples is backed by one rule that works in both parts held out, and
the strong conclusions are drawn without blockers. -/
structure ClaimsBacked (samples : List ScoredSample) (modelPasses : Bool)
    (inputs : DecisionInputs) : Prop where
  topk : (buildTopkEdgeReport samples modelPasses).robustTopkEdgeClaimAllowed = true →
    ∃ v ∈ (buildTopkEdgeReport samples modelPasses).rows,
      ∃ t ∈ (buildTopkEdgeReport samples modelPasses).rows, OneRuleWorks v t
  filters : ∀ item ∈ (buildOpportunityFilterReport samples modelPasses).filters,
    item.edgeClaimAllowed = true → item.splits.validation.Works ∧ item.splits.test.Works
  costs : (buildCostSensitivityReport samples
      (buildOpportunityFilterReport samples modelPasses)).positiveEdgeAfterBaseCost = true →
    ∃ report ∈ (buildCostSensitivityReport samples
        (buildOpportunityFilterReport samples modelPasses)).candidateReports,
      0 < report.rawEdgeBySplit.validation - baseCostBps ∧
        0 < report.rawEdgeBySplit.test - baseCostBps
  decision : (buildDecisionGateReport inputs).edgeRobustnessConclusion ∈
      [EdgeConclusion.robustEnoughForStrategySimulation, .failedStopSignalBranch] →
    (buildDecisionGateReport inputs).blockers = []

/-- A rule takes enough samples of a part, and they earn more than the base cost. -/
structure RuleWorksIn (samples : List ScoredSample) (split : Split) (ranker : Ranker)
    (percent : ℚ) : Prop where
  enough : lowSampleThreshold ≤
    (topSelection (validSamples samples) ranker percent split).length
  edge : baseCostBps < meanOrZero
    ((topSelection (validSamples samples) ranker percent split).map ScoredSample.signedReturn)

/-- Some rule works in a part. -/
def SomeRuleWorksIn (samples : List ScoredSample) (modelPasses : Bool) (split : Split) : Prop :=
  ∃ ranker ∈ topkRankers modelPasses, ∃ percent ∈ topkPercents,
    RuleWorksIn samples split ranker percent

/-- When a rule works in each part held out, one rule works in both. -/
def RulesAgree (samples : List ScoredSample) (modelPasses : Bool) : Prop :=
  SomeRuleWorksIn samples modelPasses .validation → SomeRuleWorksIn samples modelPasses .test →
    ∃ ranker ∈ topkRankers modelPasses, ∃ percent ∈ topkPercents,
      RuleWorksIn samples .validation ranker percent ∧ RuleWorksIn samples .test ranker percent

/-- Nothing blocks the decision, or something says that there is an edge before costs. -/
def DecisionUnblocked (inputs : DecisionInputs) : Prop :=
  (inputs.baselineStatus = some "pass" ∧ inputs.inputManifestStatus = some "pass" ∧
      inputs.baselinePrimaryHorizonMs = some 100) ∨
    inputs.costSensitivity.positiveEdgeBeforeCost = true ∨
      inputs.topk.validationTestSupport = true

section

variable {samples : List ScoredSample} {modelPasses : Bool}

/-- Every row of the top slices is about one ranker, slice and part. -/
theorem mem_topkRows {row : TopkRow} :
    row ∈ (buildTopkEdgeReport samples modelPasses).rows ↔
      ∃ ranker ∈ topkRankers modelPasses, ∃ split : Split, ∃ percent ∈ topkPercents,
        topkRow (validSamples samples) ranker baseCostBps split percent = row := by
  have hsplit (split : Split) : split ∈ [Split.train, .validation, .test] := by
    cases split <;> simp
  simp only [buildTopkEdgeReport, topkMetrics, List.mem_flatMap, List.mem_map, hsplit, true_and]

/-- A row supports a part when it is about it and its rule works there. -/
theorem supports_topkRow {ranker : Ranker} {split part : Split} {percent : ℚ} :
    (topkRow (validSamples samples) ranker baseCostBps split percent).supports part = true ↔
      split = part ∧ RuleWorksIn samples split ranker percent := by
  rw [TopkRow.supports, Bool.and_eq_true, Bool.and_eq_true, decide_eq_true_iff,
    decide_eq_true_iff, Bool.not_eq_true', and_assoc]
  refine and_congr_right fun _ => ?_
  have hfew : (topkRow (validSamples samples) ranker baseCostBps split percent).lowSampleWarning =
      false ↔ lowSampleThreshold ≤
        (topSelection (validSamples samples) ranker percent split).length :=
    decide_eq_false_iff_not.trans not_lt
  rw [hfew]
  exact ⟨fun ⟨hedge, henough⟩ => ⟨henough, sub_pos.mp hedge⟩,
    fun ⟨henough, hedge⟩ => ⟨sub_pos.mpr hedge, henough⟩⟩

/-- Some row supports a part exactly when some rule works in it. -/
theorem any_supports_iff {part : Split} :
    ((buildTopkEdgeReport samples modelPasses).rows.any fun row => row.supports part) = true ↔
      SomeRuleWorksIn samples modelPasses part := by
  rw [List.any_eq_true]
  constructor
  · rintro ⟨row, hrow, hsupports⟩
    obtain ⟨ranker, hranker, split, percent, hpercent, rfl⟩ := mem_topkRows.mp hrow
    obtain ⟨rfl, hworks⟩ := supports_topkRow.mp hsupports
    exact ⟨ranker, hranker, percent, hpercent, hworks⟩
  · rintro ⟨ranker, hranker, percent, hpercent, hworks⟩
    exact ⟨_, mem_topkRows.mpr ⟨ranker, hranker, part, percent, hpercent, rfl⟩,
      supports_topkRow.mpr ⟨rfl, hworks⟩⟩

/-- The claim on top slices is allowed when rules work in both parts, be they the same or not. -/
theorem robustTopkEdgeClaimAllowed_iff :
    (buildTopkEdgeReport samples modelPasses).robustTopkEdgeClaimAllowed = true ↔
      SomeRuleWorksIn samples modelPasses .validation ∧
        SomeRuleWorksIn samples modelPasses .test := by
  rw [← any_supports_iff, ← any_supports_iff, ← Bool.and_eq_true]
  rfl

/-- The claim on top slices is backed by one rule exactly when the rules agree. -/
theorem topk_backed_iff :
    ((buildTopkEdgeReport samples modelPasses).robustTopkEdgeClaimAllowed = true →
      ∃ v ∈ (buildTopkEdgeReport samples modelPasses).rows,
        ∃ t ∈ (buildTopkEdgeReport samples modelPasses).rows, OneRuleWorks v t) ↔
      RulesAgree samples modelPasses := by
  rw [robustTopkEdgeClaimAllowed_iff, and_imp]
  refine imp_congr_right fun _ => imp_congr_right fun _ => ⟨?_, ?_⟩
  · rintro ⟨v, hv, t, ht, hranker, hpercent, hvalidation, htest⟩
    obtain ⟨ranker, hmem, split, percent, hmem', rfl⟩ := mem_topkRows.mp hv
    obtain ⟨_, -, _, _, -, rfl⟩ := mem_topkRows.mp ht
    obtain ⟨rfl, hworks⟩ := supports_topkRow.mp hvalidation
    obtain ⟨rfl, hworks'⟩ := supports_topkRow.mp htest
    obtain rfl : ranker = _ := hranker
    obtain rfl : percent = _ := hpercent
    exact ⟨ranker, hmem, percent, hmem', hworks, hworks'⟩
  · rintro ⟨ranker, hranker, percent, hpercent, hvalidation, htest⟩
    exact ⟨_, mem_topkRows.mpr ⟨ranker, hranker, .validation, percent, hpercent, rfl⟩, _,
      mem_topkRows.mpr ⟨ranker, hranker, .test, percent, hpercent, rfl⟩, rfl, rfl,
      supports_topkRow.mpr ⟨rfl, hvalidation⟩, supports_topkRow.mpr ⟨rfl, htest⟩⟩

/-- A filter that allows a claim works in both parts held out. -/
theorem filter_backed {item : FilterReport}
    (h : item ∈ (buildOpportunityFilterReport samples modelPasses).filters)
    (hallowed : item.edgeClaimAllowed = true) :
    item.splits.validation.Works ∧ item.splits.test.Works := by
  obtain ⟨⟨filter, threshold⟩, -, rfl⟩ := List.mem_map.mp h
  have hstable : validationTestSupported (filterReport (validSamples samples) filter
      threshold).splits = true := (Bool.and_eq_true_iff.mp hallowed).1
  simp only [validationTestSupported, Bool.and_eq_true, decide_eq_true_eq,
    Bool.not_eq_true'] at hstable
  obtain ⟨⟨⟨hvalidation, htest⟩, henough⟩, henough'⟩ := hstable
  exact ⟨⟨hvalidation, henough⟩, ⟨htest, henough'⟩⟩

/-- A candidate survives the base cost when it earns more in both parts held out. -/
theorem candidateReport_survives {candidate : Option (OpportunityFilter × ℚ)}
    {selected : List ScoredSample}
    (h : (candidateReport candidate selected).survives "base_cost" = true) :
    0 < (candidateReport candidate selected).rawEdgeBySplit.validation - baseCostBps ∧
      0 < (candidateReport candidate selected).rawEdgeBySplit.test - baseCostBps := by
  have hscenario : (candidateReport candidate selected).scenarios.get? "base_cost" =
      some (1 + 1, .of fun split =>
        meanOrZero ((ofSplit split selected).map ScoredSample.signedReturn) - (1 + 1)) := rfl
  have hcost : baseCostBps = 1 + 1 := by norm_num [baseCostBps]
  rw [CandidateReport.survives, hscenario, Option.any_some, Bool.and_eq_true, decide_eq_true_iff,
    decide_eq_true_iff] at h
  rw [hcost]
  exact h

/-- A claim about costs is backed by one candidate. -/
theorem costs_backed {report : OpportunityFilterReport}
    (h : (buildCostSensitivityReport samples report).positiveEdgeAfterBaseCost = true) :
    ∃ item ∈ (buildCostSensitivityReport samples report).candidateReports,
      0 < item.rawEdgeBySplit.validation - baseCostBps ∧
        0 < item.rawEdgeBySplit.test - baseCostBps := by
  obtain ⟨item, hitem, hsurvives⟩ := List.any_eq_true.mp h
  refine ⟨item, hitem, ?_⟩
  rcases List.mem_cons.mp hitem with rfl | hitem
  · exact candidateReport_survives hsurvives
  · obtain ⟨filter, -, rfl⟩ := List.mem_map.mp hitem
    exact candidateReport_survives hsurvives

/-- Nothing blocks a decision exactly when the baseline and the manifest passed, for 100 ms. -/
theorem decisionBlockers_eq_nil {inputs : DecisionInputs} :
    decisionBlockers inputs = [] ↔
      inputs.baselineStatus = some "pass" ∧ inputs.inputManifestStatus = some "pass" ∧
        inputs.baselinePrimaryHorizonMs = some 100 := by
  simp only [decisionBlockers, List.append_eq_nil_iff, ite_eq_right_iff, List.cons_ne_nil,
    imp_false, not_not, and_assoc]

/-- Once something blocks the decision, the only conclusions left are to stop, when nothing says
that there is an edge before costs, and to collect more data. -/
theorem conclusion_of_blocked {inputs : DecisionInputs} (h : decisionBlockers inputs ≠ []) :
    (buildDecisionGateReport inputs).edgeRobustnessConclusion =
      if noRawEdge inputs then .failedStopSignalBranch else .inconclusiveNeedsMoreData := by
  have hblocked : decide (decisionBlockers inputs = []) = false := decide_eq_false h
  simp only [buildDecisionGateReport, hblocked, Bool.false_and, Bool.and_false,
    Bool.false_eq_true, if_false]
  split <;> rfl

/-- The strong conclusions are drawn without blockers exactly when the decision is unblocked. -/
theorem decision_iff {inputs : DecisionInputs} :
    ((buildDecisionGateReport inputs).edgeRobustnessConclusion ∈
        [EdgeConclusion.robustEnoughForStrategySimulation, .failedStopSignalBranch] →
      (buildDecisionGateReport inputs).blockers = []) ↔ DecisionUnblocked inputs := by
  rw [DecisionUnblocked, ← decisionBlockers_eq_nil]
  change (_ → decisionBlockers inputs = []) ↔ _
  by_cases hclear : decisionBlockers inputs = []
  · exact ⟨fun _ => .inl hclear, fun _ _ => hclear⟩
  · have hedge : noRawEdge inputs = false ↔
        inputs.costSensitivity.positiveEdgeBeforeCost = true ∨
          inputs.topk.validationTestSupport = true := by
      rw [noRawEdge, Bool.and_eq_false_iff, Bool.not_eq_false', Bool.not_eq_false']
    rw [conclusion_of_blocked hclear, ← hedge]
    cases noRawEdge inputs <;> simp [hclear]

end

/-- **Every claim is backed by one rule, and the decision by its blockers**, exactly when rules
that work in the parts held out agree on one, and the decision is unblocked. -/
theorem robustness_claims_backed_iff (samples : List ScoredSample) (modelPasses : Bool)
    (inputs : DecisionInputs) :
    ClaimsBacked samples modelPasses inputs ↔
      RulesAgree samples modelPasses ∧ DecisionUnblocked inputs := by
  rw [← topk_backed_iff, ← decision_iff]
  exact ⟨fun h => ⟨h.topk, h.decision⟩,
    fun ⟨htopk, hdecision⟩ => ⟨htopk, fun _ => filter_backed, costs_backed, hdecision⟩⟩

/-! ### Rules that do not agree -/

/-- A sample of a part with a return; all of them rank the same. -/
def sampleOf (split : Split) (futureReturn : ℚ) : ScoredSample where
  split := some split
  valid100msLabel := true
  futureReturn100msBps := some futureReturn
  features := .ofList [("repricing_gap_bps", 10), ("latency_quality_score", 1),
    ("reference_trade_count_1s", 10)]
  modelProbability := none
  modelConfidence := none
  modelBaseRate := none

/-- In the validation part all samples earn; in the test part the first ones do, and the others
lose. -/
def disagreeingSamples (validation early late : ℕ) : List ScoredSample :=
  List.replicate validation (sampleOf .validation 10) ++
    (List.replicate early (sampleOf .test 10) ++ List.replicate late (sampleOf .test (-20)))

theorem ofSplit_disagreeingSamples (validation early late : ℕ) :
    ofSplit .validation (validSamples (disagreeingSamples validation early late)) =
        List.replicate validation (sampleOf .validation 10) ∧
      ofSplit .test (validSamples (disagreeingSamples validation early late)) =
        List.replicate early (sampleOf .test 10) ++
          List.replicate late (sampleOf .test (-20)) := by
  constructor <;>
    simp [ofSplit, validSamples, disagreeingSamples, List.filter_append, sampleOf]

/-- Samples that rank the same are taken in their order. -/
theorem topSelection_of_const {samples : List ScoredSample} {ranker : Ranker} {split : Split}
    (h : ∀ a ∈ ofSplit split samples, ∀ b ∈ ofSplit split samples,
      rankValue a ranker = rankValue b ranker) (percent : ℚ) :
    topSelection samples ranker percent split =
      (ofSplit split samples).take (topCount (ofSplit split samples).length percent) := by
  have hranked : rankedSamples samples ranker split = ofSplit split samples :=
    List.Pairwise.insertionSort_eq (List.pairwise_of_forall_mem_list fun a ha b hb =>
      (h b hb a ha).le)
  rw [topSelection, hranked]

theorem rankValue_sampleOf (split : Split) (futureReturn : ℚ) (ranker : Ranker) :
    rankValue (sampleOf split futureReturn) ranker =
      rankValue (sampleOf .test 10) ranker := by
  cases ranker <;> rfl

/-- The top slices of samples that rank the same. -/
theorem topSelection_disagreeingSamples (validation early late : ℕ) (ranker : Ranker)
    (percent : ℚ) :
    topSelection (validSamples (disagreeingSamples validation early late)) ranker percent
        .validation =
      List.replicate (min (topCount validation percent) validation) (sampleOf .validation 10) ∧
    topSelection (validSamples (disagreeingSamples validation early late)) ranker percent .test =
      List.replicate (min (topCount (early + late) percent) early) (sampleOf .test 10) ++
        List.replicate (min (topCount (early + late) percent - early) late)
          (sampleOf .test (-20)) := by
  obtain ⟨hvalidation, htest⟩ := ofSplit_disagreeingSamples validation early late
  have hconst (split : Split) : ∀ a ∈ ofSplit split (validSamples
      (disagreeingSamples validation early late)), rankValue a ranker =
        rankValue (sampleOf .test 10) ranker := by
    intro a ha
    have hmem := (List.mem_filter.mp (List.mem_filter.mp ha).1).1
    simp only [disagreeingSamples, List.mem_append, List.mem_replicate] at hmem
    rcases hmem with ⟨-, rfl⟩ | ⟨-, rfl⟩ | ⟨-, rfl⟩ <;> exact rankValue_sampleOf _ _ ranker
  have hequal (split : Split) := fun a ha b hb => (hconst split a ha).trans (hconst split b hb).symm
  constructor
  · rw [topSelection_of_const (hequal .validation), hvalidation, List.length_replicate,
      List.take_replicate]
  · rw [topSelection_of_const (hequal .test), htest, List.length_append, List.length_replicate,
      List.length_replicate, List.take_append, List.take_replicate, List.length_replicate,
      List.take_replicate]

theorem meanOrZero_replicate {count : ℕ} (h : 0 < count) (value : ℚ) :
    meanOrZero (List.replicate count value) = value := by
  have hne : List.replicate count value ≠ [] := by
    rw [Ne, List.replicate_eq_nil_iff]
    omega
  have hpos : (count : ℚ) ≠ 0 := Nat.cast_ne_zero.mpr h.ne'
  rw [meanOrZero, if_neg hne, List.sum_replicate, List.length_replicate, nsmul_eq_mul,
    mul_div_cancel_left₀ _ hpos]

/-- What a decision without samples reads. -/
def decisionWithoutSamples : DecisionInputs where
  baselineStatus := some "pass"
  baselinePrimaryHorizonMs := some 100
  baselineEdgeConclusion := none
  inputManifestStatus := some "pass"
  sufficientExpansionForEdgeClaim := false
  flatLabelRisk := none
  opportunityFilter := buildOpportunityFilterReport [] false
  costSensitivity := buildCostSensitivityReport [] (buildOpportunityFilterReport [] false)
  robustAcrossRegimes := false
  oneRegimeOnlyDependency := false
  topk := buildTopkEdgeReport [] false

theorem topCount_disagreeing :
    topCount 300 10 = 30 ∧ topCount 600 5 = 30 ∧ topCount 600 10 = 60 ∧
      ∀ percent ∈ topkPercents, topCount 300 percent < 30 ∨ percent = 10 := by
  decide +kernel

/-- A rule that works in the validation part and one that works in the test part are not one
rule. -/
theorem claim_without_common_rule :
    ¬ ∀ (samples : List ScoredSample) (modelPasses : Bool) (inputs : DecisionInputs),
      ClaimsBacked samples modelPasses inputs := by
  intro h
  have hagree : RulesAgree (disagreeingSamples 300 30 570) false :=
    topk_backed_iff.mp (h (disagreeingSamples 300 30 570) false decisionWithoutSamples).topk
  obtain ⟨hten, hfive, hten', honly⟩ := topCount_disagreeing
  have htop (ranker : Ranker) (percent : ℚ) :=
    topSelection_disagreeingSamples 300 30 570 ranker percent
  have hgain (split : Split) : (sampleOf split 10).signedReturn = 10 := by
    cases split <;> decide +kernel
  have hloss : (sampleOf .test (-20)).signedReturn = -20 := by decide +kernel
  have hvalidation : SomeRuleWorksIn (disagreeingSamples 300 30 570) false .validation := by
    refine ⟨.absRepricingGapBps, by decide, 10, by simp [topkPercents], ?_, ?_⟩
    · rw [(htop _ _).1, hten]
      decide
    · rw [(htop _ _).1, hten, List.map_replicate, meanOrZero_replicate (by decide), hgain]
      decide +kernel
  have htest : SomeRuleWorksIn (disagreeingSamples 300 30 570) false .test := by
    refine ⟨.absRepricingGapBps, by decide, 5, by simp [topkPercents], ?_, ?_⟩
    · rw [(htop _ _).2, hfive]
      decide
    · rw [(htop _ _).2, hfive, List.map_append, List.map_replicate, List.map_replicate,
        Nat.sub_self, Nat.zero_min, List.replicate_zero, List.append_nil,
        meanOrZero_replicate (by decide), hgain]
      decide +kernel
  -- only the widest slice takes enough of the validation part, and in the test part it loses
  obtain ⟨ranker, -, percent, hpercent, hworks, hworks'⟩ := hagree hvalidation htest
  have henough := hworks.enough
  rw [(htop _ _).1, List.length_replicate, lowSampleThreshold] at henough
  obtain rfl : percent = 10 := (honly percent hpercent).resolve_left (by omega)
  have hedge := hworks'.edge
  rw [(htop _ _).2, hten', List.map_append, List.map_replicate, List.map_replicate, hgain,
    hloss] at hedge
  exact absurd hedge (by decide +kernel)

end SomethingTrade
