import Mathlib.Tactic.NormNum
import SomethingTrade.Json
import SomethingTrade.StableSort

/-!
# Research Samples

The samples of the signal research: each row of the label file is joined with what was known
at its time. The order book is the clean row of that very time, the quote and the latency are
the last rows at or before it, and the trades are those of the second up to it. The report on
leakage then checks the timestamps that the samples recorded of their sources.

## Representation

* A file is its decoded rows, or nothing when it is missing. A row that is no object ends the
  call, as reading a field of it does.
* Floats are taken exactly.

## Main results

* `FeatureRows.lookup_eq`: what a label row is joined with depends on the rows up to its time
  only.
* `sourceTs_le`: no feature has a source after its time.
* `features_without_lookahead`: so features do not depend on later rows, and the report
  counts no source that is later than its feature.
-/

namespace SomethingTrade

/-! ### Rows -/

/-- The number that a value holds; booleans hold none. -/
def floatOf? : Json → Option ℚ
  | .bool _ => none
  | value => value.toFinite?

/-- `x or y` on numbers that may be missing. -/
def orFloat? (x y : Option ℚ) : Option ℚ :=
  match x with
  | some q => if q = 0 then y else some q
  | none => y

/-- The receive time of a row, if it has one. -/
def recvTs? (row : Json) : Option ℤ := (row.get "local_recv_monotonic_ns").toInt?

/-- The receive time of a row; a row without one counts as zero. -/
def recvTs (row : Json) : ℤ := (recvTs? row).getD 0

/-- The last row whose time is at most the given one. -/
def lastRowAtOrBefore (rows : List Json) (tsValues : List ℤ) (ts : ℤ) : Option Json :=
  match bisectRight tsValues ts 0 tsValues.length with
  | 0 => none
  | index + 1 => rows[index]?

/-- The rows of a window that ends at the given time. -/
def windowRows (rows : List Json) (tsValues : List ℤ) (endTs windowMs : ℤ) : List Json :=
  let startTs := endTs - windowMs * 1000000
  let left := bisectLeft tsValues startTs 0 tsValues.length
  let right := bisectRight tsValues endTs 0 tsValues.length
  (rows.take right).drop left

/-- The latest of some times. -/
def maxTs (times : List (Option ℤ)) : Option ℤ := (times.filterMap id).max?

/-- The latest receive time of some rows. -/
def windowMaxTs (rows : List Json) : Option ℤ := maxTs (rows.map recvTs?)

/-! ### Numbers -/

/-- The size of the first levels, if any of them has one. -/
def levelQty (levels : List Json) (depth : ℕ) : Option ℚ :=
  let quantities := (levels.take depth).filterMap fun level =>
    match level with
    | .arr (_ :: qty :: _) => floatOf? qty
    | _ => none
  if quantities = [] then none else some quantities.sum

/-- How much more size the bids have than the asks, relative to both. -/
def bookImbalance (bids asks : List Json) (depth : ℕ) : Option ℚ :=
  match levelQty bids depth, levelQty asks depth with
  | some bidQty, some askQty =>
      if bidQty + askQty ≤ 0 then none else some ((bidQty - askQty) / (bidQty + askQty))
  | _, _ => none

/-- The change between two prices in basis points. -/
def returnBps (start stop : Option ℚ) : Option ℚ :=
  match start, stop with
  | some start, some stop => if start = 0 then none else some ((stop - start) / start * 10000)
  | _, _ => none

/-- The sign of a return. -/
def direction (value : ℚ) : ℤ := if value > 0 then 1 else if value < 0 then -1 else 0

/-- The sign of a return that leaves the spread behind. -/
def spreadAdjustedDirection (value : ℚ) (spreadBps : Option ℚ) : ℤ :=
  let threshold := max 0 (spreadBps.getD 0)
  if value > threshold then 1 else if value < -threshold then -1 else 0

/-- A score that falls as the latency and the age of the quote grow. -/
def latencyQualityScore (latencyMs quoteAgeMs : Option ℚ) : Option ℚ :=
  if latencyMs = none ∧ quoteAgeMs = none then none
  else
    let latency := max 0 (latencyMs.getD 0)
    let quoteAge := max 0 (quoteAgeMs.getD 0)
    some (1 / (1 + latency + quoteAge / 100))

/-- The quantity of a trade, negative when the buyer was the maker. -/
def signedQty (trade : Json) : ℚ :=
  (if (trade.get "is_buyer_market_maker").isTrue then -1 else 1) *
    (floatOf? (trade.get "quantity")).getD 0

/-! ### Files -/

/-- The files of a dataset: their rows, or nothing when a file is missing. -/
structure DatasetFiles where
  cleanSamples : Option (List Json)
  bookticker : Option (List Json)
  trade : Option (List Json)
  aggtrade : Option (List Json)
  correctedLabels : Option (List Json)
  latencyProfile : Option (List Json)

namespace DatasetFiles

/-- The names of the files that are missing. -/
def missingRequiredDatasetKeys (files : DatasetFiles) : List String :=
  ([("clean_samples", files.cleanSamples), ("bookticker", files.bookticker),
    ("trade", files.trade), ("aggtrade", files.aggtrade),
    ("corrected_labels", files.correctedLabels),
    ("latency_profile", files.latencyProfile)].filter fun e => e.2.isNone).map Prod.fst

/-- All rows of all files. -/
def allRows (files : DatasetFiles) : List Json :=
  [files.cleanSamples, files.bookticker, files.trade, files.aggtrade, files.correctedLabels,
    files.latencyProfile].flatMap fun file => file.getD []

end DatasetFiles

/-- Whether a value is an object. -/
def isObject : Json → Bool
  | .obj _ => true
  | _ => false

/-- The rows by their receive time: of several of one time the last. -/
def cleanByTs (rows : List Json) : Dict ℤ Json :=
  .ofList (rows.filterMap fun row => (recvTs? row).map fun ts => (ts, row))

/-! ### Features -/

/-- What is known at the time of a label row. -/
structure FeatureRows where
  /-- The order book of that time; an empty row when there is none. -/
  clean : Json
  book : Option Json
  /-- The quote of a second before. -/
  bookPast : Option Json
  latency : Option Json
  trades : List Json
  aggtrades : List Json

/-- Look up what is known at a time. An empty row counts as none. -/
def FeatureRows.lookup (files : DatasetFiles) (featureTs : ℤ) : FeatureRows :=
  let bookticker := sortBy recvTs (files.bookticker.getD [])
  let trade := sortBy recvTs (files.trade.getD [])
  let aggtrade := sortBy recvTs (files.aggtrade.getD [])
  let latency := sortBy recvTs (files.latencyProfile.getD [])
  { clean := ((cleanByTs (files.cleanSamples.getD [])).get? featureTs).getD (.obj [])
    book := (lastRowAtOrBefore bookticker (bookticker.map recvTs) featureTs).filter Json.truthy
    bookPast := (lastRowAtOrBefore bookticker (bookticker.map recvTs)
      (featureTs - 1000000000)).filter Json.truthy
    latency := (lastRowAtOrBefore latency (latency.map recvTs) featureTs).filter Json.truthy
    trades := windowRows trade (trade.map recvTs) featureTs 1000
    aggtrades := windowRows aggtrade (aggtrade.map recvTs) featureTs 1000 }

namespace FeatureRows

/-- The receive time of the quote. -/
def refTs (known : FeatureRows) : Option ℤ := known.book.bind recvTs?

/-- The receive time of the latency row. -/
def latencyTs (known : FeatureRows) : Option ℤ := known.latency.bind recvTs?

/-- The mid price of the target. -/
def targetMid (known : FeatureRows) (labelRow : Json) : Option ℚ :=
  orFloat? (floatOf? (known.clean.get "mid")) (floatOf? (labelRow.get "feature_mid_price"))

/-- The spread of the target, computed when the label row has none. -/
def targetSpreadBps (known : FeatureRows) (labelRow : Json) : Option ℚ :=
  let bestBid := orFloat? (floatOf? (known.clean.get "best_bid"))
    (floatOf? (labelRow.get "feature_best_bid"))
  let bestAsk := orFloat? (floatOf? (known.clean.get "best_ask"))
    (floatOf? (labelRow.get "feature_best_ask"))
  match floatOf? (labelRow.get "feature_spread_bps") with
  | some spread => some spread
  | none =>
      match known.targetMid labelRow, bestBid, bestAsk with
      | some mid, some bid, some ask => if mid = 0 then none else some ((ask - bid) / mid * 10000)
      | _, _, _ => none

/-- The levels of a side of the order book. -/
def levels (known : FeatureRows) (side : String) : List Json :=
  match known.clean.get side with
  | .arr items => items
  | _ => []

/-- The features of a label row. -/
def features (known : FeatureRows) (labelRow : Json) (featureTs : ℤ) :
    Dict String (Option ℚ) :=
  let bids := known.levels "bids"
  let asks := known.levels "asks"
  let refMid := known.book.bind fun book => floatOf? (book.get "mid_price")
  let refPastMid := known.bookPast.bind fun book => floatOf? (book.get "mid_price")
  let quoteAgeMs := known.refTs.map fun ts => ((featureTs - ts : ℤ) : ℚ) / 1000000
  let metrics := (known.latency.map fun latency => (latency.get "metrics").asDict).getD (.obj [])
  let endToEnd := floatOf? (metrics.get "end_to_end_local_hot_path_ms")
  .ofList
    [("target_mid_price", known.targetMid labelRow),
      ("target_spread_bps", known.targetSpreadBps labelRow),
      ("target_book_age_ms", floatOf? (known.clean.get "book_age_ms")),
      ("target_top_bid_qty_1", levelQty bids 1),
      ("target_top_ask_qty_1", levelQty asks 1),
      ("target_book_imbalance_1", bookImbalance bids asks 1),
      ("target_book_imbalance_5", bookImbalance bids asks 5),
      ("target_book_imbalance_20", bookImbalance bids asks 20),
      ("reference_bookticker_mid_price", refMid),
      ("reference_bookticker_spread_bps",
        known.book.bind fun book => floatOf? (book.get "spread_bps")),
      ("reference_bookticker_age_ms", quoteAgeMs),
      ("reference_mid_return_1s_bps", returnBps refPastMid refMid),
      ("reference_trade_count_1s", some (known.trades.length + known.aggtrades.length)),
      ("reference_signed_trade_qty_1s",
        some ((known.trades.map signedQty).sum + (known.aggtrades.map signedQty).sum)),
      ("reference_signed_trade_notional_1s",
        some (known.trades.map fun trade =>
          signedQty trade * (floatOf? (trade.get "price")).getD 0).sum),
      ("repricing_gap_bps", returnBps (known.targetMid labelRow) refMid),
      ("latency_end_to_end_hot_path_ms", endToEnd),
      ("latency_queue_wait_ms", floatOf? (metrics.get "queue_wait_ms")),
      ("latency_quality_score", latencyQualityScore endToEnd quoteAgeMs)]

/-- The time of the latest source of each feature. -/
def sourceTsByFeature (known : FeatureRows) (featureTs : ℤ) : Dict String (Option ℤ) :=
  .ofList
    [("target_mid_price", some featureTs),
      ("target_spread_bps", some featureTs),
      ("target_book_age_ms", some featureTs),
      ("target_top_bid_qty_1", some featureTs),
      ("target_top_ask_qty_1", some featureTs),
      ("target_book_imbalance_1", some featureTs),
      ("target_book_imbalance_5", some featureTs),
      ("target_book_imbalance_20", some featureTs),
      ("reference_bookticker_mid_price", known.refTs),
      ("reference_bookticker_spread_bps", known.refTs),
      ("reference_bookticker_age_ms", known.refTs),
      ("reference_mid_return_1s_bps", known.refTs),
      ("reference_trade_count_1s", windowMaxTs (known.trades ++ known.aggtrades)),
      ("reference_signed_trade_qty_1s", windowMaxTs (known.trades ++ known.aggtrades)),
      ("reference_signed_trade_notional_1s", windowMaxTs known.trades),
      ("repricing_gap_bps", maxTs [some featureTs, known.refTs]),
      ("latency_end_to_end_hot_path_ms", known.latencyTs),
      ("latency_queue_wait_ms", known.latencyTs),
      ("latency_quality_score", maxTs [known.refTs, known.latencyTs])]

end FeatureRows

/-! ### Samples -/

/-- A sample of the research. -/
structure ResearchSample where
  sampleId : String
  sourceRowIndex : ℕ
  symbol : Json
  featureTsNs : ℤ
  featureTsWall : Json
  labelStartTsNs : ℤ
  labelFutureTsNs : Option ℤ
  labelHorizonMs : Option ℤ
  labelMaxFutureGapPolicyMs : Option ℚ
  labelObservedFutureGapMs : Option ℚ
  futureReturn100msBps : Option ℚ
  direction100ms : Option ℤ
  spreadAdjustedDirection100ms : Option ℤ
  valid100msLabel : Bool
  diagnosticFutureReturn250msBps : Option ℚ
  features : Dict String (Option ℚ)
  featureSourceTsNs : Dict String (Option ℤ)
  featureSourceMaxTsNs : Option ℤ

/-- A number with leading zeros up to eight digits. -/
def zeroPadded (n : ℕ) : String :=
  let digits := (Nat.repr n).toList
  String.ofList (List.replicate (8 - digits.length) '0' ++ digits)

/-- The return a quarter of a second on, from the first clean row at or after that time. -/
def diagnostic250msReturn (clean : Dict ℤ Json) (featureTs : ℤ) (startMid : Option ℚ) :
    Option ℚ :=
  let cleanTs := clean.keys.insertionSort (· ≤ ·)
  let targetTs := featureTs + 250 * 1000000
  match startMid, cleanTs[bisectLeft cleanTs targetTs 0 cleanTs.length]? with
  | some _, some futureTs =>
      if ((futureTs - targetTs : ℤ) : ℚ) / 1000000 > 250 then none
      else returnBps startMid (floatOf? (((clean.get? futureTs).getD (.obj [])).get "mid"))
  | _, _ => none

/-- The label of a label row. -/
def labelOfRow (labelRow : Json) : Json :=
  ((((labelRow.get "protocol_labels").asDict.get "depth_mid").asDict).get "exchange_time").asDict

/-- The sample of a label row at its time. -/
def sampleOfRow (files : DatasetFiles) (index : ℕ) (labelRow : Json) (featureTs : ℤ) :
    ResearchSample :=
  let known := FeatureRows.lookup files featureTs
  let sources := known.sourceTsByFeature featureTs
  let label := labelOfRow labelRow
  let horizonMs := (label.get "horizon_ms").toInt?
  let policyGapMs := floatOf? (label.get "max_future_gap_ms")
  let observedGapMs := floatOf? (label.get "exchange_future_gap_ms")
  let labelFutureTs := (label.get "future_reference_local_recv_monotonic_ns").toInt?
  let futureReturn := floatOf? (label.get "return_bps")
  let labelValid := (label.get "valid").isTrue && horizonMs = some 100 &&
    policyGapMs.any (· ≤ 100) && observedGapMs.any (· ≤ 100) &&
    labelFutureTs.any (· > featureTs) && futureReturn.isSome
  { sampleId := "phase50-" ++ zeroPadded index ++ "-" ++ toString featureTs
    sourceRowIndex := index
    symbol := (labelRow.get "symbol").orElse (known.clean.get "symbol")
    featureTsNs := featureTs
    featureTsWall :=
      (labelRow.get "local_recv_wall_ts").orElse (known.clean.get "local_recv_wall_ts")
    labelStartTsNs := featureTs
    labelFutureTsNs := labelFutureTs
    labelHorizonMs := horizonMs
    labelMaxFutureGapPolicyMs := policyGapMs
    labelObservedFutureGapMs := observedGapMs
    futureReturn100msBps := if labelValid then futureReturn else none
    direction100ms := if labelValid then futureReturn.map direction else none
    spreadAdjustedDirection100ms :=
      if labelValid then
        futureReturn.map fun value =>
          spreadAdjustedDirection value (known.targetSpreadBps labelRow)
      else none
    valid100msLabel := labelValid
    diagnosticFutureReturn250msBps :=
      diagnostic250msReturn (cleanByTs (files.cleanSamples.getD [])) featureTs
        (known.targetMid labelRow)
    features := known.features labelRow featureTs
    featureSourceTsNs := sources
    featureSourceMaxTsNs := maxTs sources.values }

/-- The sample of a label row; a row without a time has none. -/
def researchSample (files : DatasetFiles) (index : ℕ) (labelRow : Json) :
    Option ResearchSample :=
  (recvTs? labelRow).map (sampleOfRow files index labelRow)

/-- What is reported of a dataset. -/
structure DatasetSummary where
  inputCounts : Dict String ℕ
  sampleCount : ℕ
  valid100msLabelCount : ℕ
  /-- The first and the last time, when there is a sample. -/
  featureTimeRangeNs : Option (ℤ × ℤ)

/-- The first and the last of some times. -/
def timeRange (times : List ℤ) : Option (ℤ × ℤ) :=
  match times.min?, times.max? with
  | some first, some last => some (first, last)
  | _, _ => none

/-- Build the samples of a dataset. -/
def buildResearchSamples (files : DatasetFiles) :
    Except String (List ResearchSample × DatasetSummary) :=
  let missing := files.missingRequiredDatasetKeys
  if missing ≠ [] then
    .error ("MISSING_REQUIRED_DATASET_PATH: " ++ ", ".intercalate missing)
  else if !files.allRows.all isObject then .error "AttributeError"
  else
    let labelRows := files.correctedLabels.getD []
    let samples := labelRows.zipIdx.filterMap fun e => researchSample files e.2 e.1
    .ok (samples,
      { inputCounts := .ofList
          [("clean_samples", (files.cleanSamples.getD []).length),
            ("corrected_labels", labelRows.length),
            ("bookticker", (files.bookticker.getD []).length),
            ("trade", (files.trade.getD []).length),
            ("aggtrade", (files.aggtrade.getD []).length),
            ("latency_profile", (files.latencyProfile.getD []).length)]
        sampleCount := samples.length
        valid100msLabelCount := samples.countP ResearchSample.valid100msLabel
        featureTimeRangeNs := timeRange (samples.map ResearchSample.featureTsNs) })

/-! ### Leakage -/

/-- What the report on leakage reads of the report on the split. -/
structure SplitReport where
  duplicateSampleIds : List String
  overlapPairs : List (List String)

/-- The names of the features of the model. -/
def modelFeatureNames : List String :=
  ["target_mid_price", "target_spread_bps", "target_book_age_ms", "target_top_bid_qty_1",
    "target_top_ask_qty_1", "target_book_imbalance_1", "target_book_imbalance_5",
    "target_book_imbalance_20", "reference_bookticker_mid_price",
    "reference_bookticker_spread_bps", "reference_bookticker_age_ms",
    "reference_mid_return_1s_bps", "reference_trade_count_1s", "reference_signed_trade_qty_1s",
    "reference_signed_trade_notional_1s", "repricing_gap_bps", "latency_end_to_end_hot_path_ms",
    "latency_queue_wait_ms", "latency_quality_score"]

/-- The names of the fields of a label. -/
def labelFieldNames : List String :=
  ["future_return_100ms_bps", "direction_100ms", "spread_adjusted_direction_100ms",
    "valid_100ms_label"]

/-- Whether the name of a feature speaks of a price or a book of the future. -/
def looksLikeFuturePriceOrOrderbookFeature (name : String) : Bool :=
  ["future", "next_", "ahead", "lookahead"].any (occursIn · (lower name)) &&
    ["price", "mid", "bid", "ask", "book", "orderbook", "quote"].any (occursIn · (lower name))

/-- Whether the name of a feature is that of a label. -/
def looksLikeLabelDerivedFeature (name : String) : Bool :=
  name ∈ labelFieldNames ||
    ["label", "direction_100ms", "return_100ms", "valid_100ms"].any (occursIn · (lower name))

/-- The latest source of a sample: as recorded, else that of its features. -/
def sampleFeatureSourceMaxTs (sample : ResearchSample) : Option ℤ :=
  match sample.featureSourceMaxTsNs with
  | some ts => some ts
  | none => maxTs sample.featureSourceTsNs.values

/-- The report on leakage. -/
structure LeakageReport where
  status : String
  featureTsLteLabelStartTs : Bool
  featureTsAfterLabelStartCount : ℕ
  featureTsAfterLabelStartSampleIds : List String
  labelFutureTsGtFeatureTs : Bool
  labelFutureTsViolationCount : ℕ
  labelFutureTsViolationSampleIds : List String
  featureSourceTsLteFeatureTs : Bool
  featureSourceFutureViolationCount : ℕ
  featureSourceFutureSampleIds : List String
  futurePriceOrOrderbookFieldsInFeatures : List String
  labelDerivedFeatures : List String
  splitOverlapPairs : List (List String)
  duplicateSampleIdsAcrossSplits : List String
  totalViolationCount : ℕ

/-- Report on the leakage of some samples. -/
def buildLeakageReport (samples : List ResearchSample) (splitReport : SplitReport)
    (featureNames : List String) : LeakageReport :=
  let featureAfterLabelStart := (samples.filter fun sample =>
    sample.featureTsNs > sample.labelStartTsNs).map ResearchSample.sampleId
  let labelFutureNotAfterFeature := (samples.filter fun sample =>
    sample.valid100msLabel &&
      !sample.labelFutureTsNs.any (· > sample.featureTsNs)).map ResearchSample.sampleId
  let featureSourceFuture := (samples.filter fun sample =>
    (sampleFeatureSourceMaxTs sample).any (· > sample.featureTsNs)).map ResearchSample.sampleId
  let names := (if featureNames = [] then modelFeatureNames else featureNames) ++
    samples.flatMap fun sample => sample.features.keys
  let futureFields := sortedSet (names.filter looksLikeFuturePriceOrOrderbookFeature)
  let labelDerived := sortedSet (names.filter looksLikeLabelDerivedFeature)
  let violationCount := featureAfterLabelStart.length + labelFutureNotAfterFeature.length +
    featureSourceFuture.length + futureFields.length + labelDerived.length +
    splitReport.duplicateSampleIds.length + splitReport.overlapPairs.length
  { status := if violationCount = 0 then "pass" else "fail"
    featureTsLteLabelStartTs := featureAfterLabelStart.length = 0
    featureTsAfterLabelStartCount := featureAfterLabelStart.length
    featureTsAfterLabelStartSampleIds := featureAfterLabelStart.take 20
    labelFutureTsGtFeatureTs := labelFutureNotAfterFeature.length = 0
    labelFutureTsViolationCount := labelFutureNotAfterFeature.length
    labelFutureTsViolationSampleIds := labelFutureNotAfterFeature.take 20
    featureSourceTsLteFeatureTs := featureSourceFuture.length = 0
    featureSourceFutureViolationCount := featureSourceFuture.length
    featureSourceFutureSampleIds := featureSourceFuture.take 20
    futurePriceOrOrderbookFieldsInFeatures := futureFields
    labelDerivedFeatures := labelDerived
    splitOverlapPairs := splitReport.overlapPairs
    duplicateSampleIdsAcrossSplits := splitReport.duplicateSampleIds
    totalViolationCount := violationCount }

/-! ### Lookups -/

/-- The last row at or before a time is the last of those up to it. -/
theorem lastRowAtOrBefore_eq {rows : List Json} (h : SortedBy recvTs rows) (ts : ℤ) :
    lastRowAtOrBefore rows (rows.map recvTs) ts =
      (rows.filter fun row => recvTs row ≤ ts).getLast? := by
  have htake := take_bisectRight h ts
  have hcount := bisectRight_eq_countP h ts
  rw [List.countP_eq_length_filter] at hcount
  rw [lastRowAtOrBefore, List.getLast?_eq_getElem?, ← hcount, ← htake]
  cases hright : bisectRight (rows.map recvTs) ts 0 (rows.map recvTs).length with
  | zero => simp
  | succ index => simp

/-- A window holds the rows between its ends. -/
theorem windowRows_eq {rows : List Json} (h : SortedBy recvTs rows) (endTs : ℤ)
    {windowMs : ℤ} (hwindow : 0 ≤ windowMs) :
    windowRows rows (rows.map recvTs) endTs windowMs =
      (rows.filter fun row => recvTs row ≤ endTs).filter fun row =>
        endTs - windowMs * 1000000 ≤ recvTs row := by
  rw [windowRows, take_bisectRight h, ← drop_bisectLeft (h.filter _)]
  congr 1
  -- the rows before the window are the same in the list and in its part up to the end
  rw [bisectLeft_eq_countP h, bisectLeft_eq_countP (h.filter _), List.countP_filter]
  refine List.countP_congr fun row _ => ?_
  simp only [decide_eq_true_eq, Bool.and_eq_true]
  omega

/-- What a dictionary of rows has at a time is the last row of the time. -/
theorem get?_cleanByTs (rows : List Json) (ts : ℤ) :
    (cleanByTs rows).get? ts =
      ((rows.filter fun row => recvTs row = ts).filter fun row =>
        (recvTs? row).isSome).getLast? := by
  rw [cleanByTs, Dict.get?_ofList, ← List.getLast?_map, List.filter_filter]
  congr 1
  induction rows with
  | nil => rfl
  | cons row rows ih =>
      cases hrow : recvTs? row with
      | none => simpa [hrow, List.filter_cons] using ih
      | some t => by_cases ht : t = ts <;> simpa [hrow, ht, List.filter_cons, recvTs] using ih

/-- Two datasets agree up to a time: on each file, up to the order of rows of different times. -/
structure AgreeUpTo (ts : ℤ) (first second : DatasetFiles) : Prop where
  cleanSamples :
    SameUpTo recvTs ts (first.cleanSamples.getD []) (second.cleanSamples.getD [])
  bookticker : SameUpTo recvTs ts (first.bookticker.getD []) (second.bookticker.getD [])
  trade : SameUpTo recvTs ts (first.trade.getD []) (second.trade.getD [])
  aggtrade : SameUpTo recvTs ts (first.aggtrade.getD []) (second.aggtrade.getD [])
  latencyProfile :
    SameUpTo recvTs ts (first.latencyProfile.getD []) (second.latencyProfile.getD [])

theorem lastRowAtOrBefore_sortBy {xs ys : List Json} {ts : ℤ} (h : SameUpTo recvTs ts xs ys) :
    lastRowAtOrBefore (sortBy recvTs xs) ((sortBy recvTs xs).map recvTs) ts =
      lastRowAtOrBefore (sortBy recvTs ys) ((sortBy recvTs ys).map recvTs) ts := by
  rw [lastRowAtOrBefore_eq (sortedBy_sortBy _ _), lastRowAtOrBefore_eq (sortedBy_sortBy _ _),
    sortBy_upTo h]

theorem windowRows_sortBy {xs ys : List Json} {endTs windowMs : ℤ}
    (h : SameUpTo recvTs endTs xs ys) (hwindow : 0 ≤ windowMs) :
    windowRows (sortBy recvTs xs) ((sortBy recvTs xs).map recvTs) endTs windowMs =
      windowRows (sortBy recvTs ys) ((sortBy recvTs ys).map recvTs) endTs windowMs := by
  rw [windowRows_eq (sortedBy_sortBy _ _) endTs hwindow,
    windowRows_eq (sortedBy_sortBy _ _) endTs hwindow, sortBy_upTo h]

/-- **What a label row is joined with depends on the rows up to its time only.** -/
theorem FeatureRows.lookup_eq {first second : DatasetFiles} {ts : ℤ}
    (h : AgreeUpTo ts first second) :
    FeatureRows.lookup first ts = FeatureRows.lookup second ts := by
  have hclean : (cleanByTs (first.cleanSamples.getD [])).get? ts =
      (cleanByTs (second.cleanSamples.getD [])).get? ts := by
    rw [get?_cleanByTs, get?_cleanByTs, h.cleanSamples ts le_rfl]
  have hpast := h.bookticker.mono (show ts - 1000000000 ≤ ts by omega)
  simp only [FeatureRows.lookup, hclean, lastRowAtOrBefore_sortBy h.bookticker,
    lastRowAtOrBefore_sortBy hpast, lastRowAtOrBefore_sortBy h.latencyProfile,
    windowRows_sortBy h.trade (show (0 : ℤ) ≤ 1000 by omega),
    windowRows_sortBy h.aggtrade (show (0 : ℤ) ≤ 1000 by omega)]

/-! ### Sources -/

/-- A time that is there is at most the given one. -/
def NotAfter (ts : ℤ) (time : Option ℤ) : Prop := ∀ t, time = some t → t ≤ ts

theorem notAfter_maxTs {ts : ℤ} {times : List (Option ℤ)} (h : ∀ time ∈ times, NotAfter ts time) :
    NotAfter ts (maxTs times) := by
  intro t ht
  obtain ⟨time, hmem, rfl⟩ := List.mem_filterMap.mp (List.max?_mem ht)
  exact h _ hmem t rfl

/-- A row whose time counts as at most the given one has no later time. -/
theorem notAfter_recvTs? {row : Json} {ts : ℤ} (h : recvTs row ≤ ts) :
    NotAfter ts (recvTs? row) := by
  intro t ht
  simpa [recvTs, ht] using h

theorem notAfter_lastRow {rows : List Json} {ts bound : ℤ} (hts : ts ≤ bound) :
    NotAfter bound (((lastRowAtOrBefore (sortBy recvTs rows) ((sortBy recvTs rows).map recvTs)
      ts).filter Json.truthy).bind recvTs?) := by
  intro t ht
  rw [lastRowAtOrBefore_eq (sortedBy_sortBy _ _)] at ht
  obtain ⟨row, hrow, ht⟩ := Option.bind_eq_some_iff.mp ht
  obtain ⟨hlast, -⟩ := Option.filter_eq_some_iff.mp hrow
  have hmem := (List.mem_filter.mp (List.mem_of_getLast? hlast)).2
  exact (notAfter_recvTs? (of_decide_eq_true hmem) t ht).trans hts

theorem notAfter_windowRows {rows : List Json} {endTs windowMs : ℤ} (hwindow : 0 ≤ windowMs) :
    ∀ row ∈ windowRows (sortBy recvTs rows) ((sortBy recvTs rows).map recvTs) endTs windowMs,
      NotAfter endTs (recvTs? row) := by
  intro row hrow
  rw [windowRows_eq (sortedBy_sortBy _ _) endTs hwindow] at hrow
  have hmem := (List.mem_filter.mp (List.mem_filter.mp hrow).1).2
  exact notAfter_recvTs? (of_decide_eq_true hmem)

theorem notAfter_windowMaxTs {rows : List Json} {ts : ℤ}
    (h : ∀ row ∈ rows, NotAfter ts (recvTs? row)) : NotAfter ts (windowMaxTs rows) := by
  refine notAfter_maxTs fun time htime => ?_
  obtain ⟨row, hrow, rfl⟩ := List.mem_map.mp htime
  exact h row hrow

/-- **No feature has a source after its time.** -/
theorem sourceTs_le (files : DatasetFiles) (featureTs : ℤ) :
    ∀ e ∈ ((FeatureRows.lookup files featureTs).sourceTsByFeature featureTs).entries,
      NotAfter featureTs e.2 := by
  set known := FeatureRows.lookup files featureTs with hknown
  have hself : NotAfter featureTs (some featureTs) := fun t ht => (Option.some.inj ht).ge
  have href : NotAfter featureTs known.refTs := notAfter_lastRow le_rfl
  have hlatency : NotAfter featureTs known.latencyTs := notAfter_lastRow le_rfl
  have htrades : ∀ row ∈ known.trades, NotAfter featureTs (recvTs? row) :=
    notAfter_windowRows (by omega)
  have haggtrades : ∀ row ∈ known.aggtrades, NotAfter featureTs (recvTs? row) :=
    notAfter_windowRows (by omega)
  have hwindow : NotAfter featureTs (windowMaxTs known.trades) := notAfter_windowMaxTs htrades
  have hboth : NotAfter featureTs (windowMaxTs (known.trades ++ known.aggtrades)) := by
    refine notAfter_windowMaxTs fun row hrow => ?_
    rcases List.mem_append.mp hrow with hrow | hrow
    · exact htrades row hrow
    · exact haggtrades row hrow
  have hgap : NotAfter featureTs (maxTs [some featureTs, known.refTs]) :=
    notAfter_maxTs (by simpa using ⟨hself, href⟩)
  have hquality : NotAfter featureTs (maxTs [known.refTs, known.latencyTs]) :=
    notAfter_maxTs (by simpa using ⟨href, hlatency⟩)
  refine Dict.forall_entries_ofList (P := fun _ time => NotAfter featureTs time) ?_
  simp [hself, href, hlatency, hwindow, hboth, hgap, hquality]

/-! ### Samples of label rows -/

/-- The sample of the label row at an index. -/
def sampleAt (samples : List ResearchSample) (index : ℕ) : Option ResearchSample :=
  samples.find? fun sample => sample.sourceRowIndex = index

theorem sourceRowIndex_researchSample {files : DatasetFiles} {index : ℕ} {labelRow : Json}
    {sample : ResearchSample} (h : researchSample files index labelRow = some sample) :
    sample.sourceRowIndex = index := by
  obtain ⟨featureTs, -, rfl⟩ := Option.map_eq_some_iff.mp h
  rfl

/-- The samples are found under the indices of their rows. The induction is on the rows that
are left, which are counted from where the ones before them ended. -/
theorem find?_researchSamples (files : DatasetFiles) (labelRows : List Json) (index start : ℕ) :
    (((labelRows.zipIdx start).filterMap fun e => researchSample files e.2 e.1).find?
      fun sample => sample.sourceRowIndex = start + index) =
        labelRows[index]?.bind (researchSample files (start + index)) := by
  induction labelRows generalizing index start with
  | nil => rfl
  | cons labelRow labelRows ih =>
      rw [List.zipIdx_cons, List.filterMap_cons]
      cases index with
      | zero =>
          have hrest : (((labelRows.zipIdx (start + 1)).filterMap fun e =>
              researchSample files e.2 e.1).find? fun sample =>
                sample.sourceRowIndex = start) = none := by
            refine List.find?_eq_none.mpr fun sample hs => ?_
            obtain ⟨e, he, hsample⟩ := List.mem_filterMap.mp hs
            have hindex := sourceRowIndex_researchSample hsample
            have hle := (List.mem_zipIdx he).1
            simp only [decide_eq_true_eq]
            omega
          rw [Nat.add_zero]
          cases hsample : researchSample files start labelRow with
          | none => simpa [hsample] using hrest
          | some sample => simp [hsample, sourceRowIndex_researchSample hsample]
      | succ index =>
          have ih := ih index (start + 1)
          rw [show start + 1 + index = start + (index + 1) by omega] at ih
          rw [List.getElem?_cons_succ, ← ih]
          cases hsample : researchSample files start labelRow with
          | none => rfl
          | some sample =>
              have hindex := sourceRowIndex_researchSample hsample
              rw [List.find?_cons_of_neg]
              simp only [decide_eq_true_eq]
              omega

theorem samples_of_build {files : DatasetFiles} {samples : List ResearchSample}
    {summary : DatasetSummary} (h : buildResearchSamples files = .ok (samples, summary)) :
    samples = (files.correctedLabels.getD []).zipIdx.filterMap fun e =>
      researchSample files e.2 e.1 := by
  rw [buildResearchSamples] at h
  split at h
  · cases h
  · split at h
    · cases h
    · cases h
      rfl

/-- The sample at an index is that of the label row at the index. -/
theorem sampleAt_build {files : DatasetFiles} {samples : List ResearchSample}
    {summary : DatasetSummary} (h : buildResearchSamples files = .ok (samples, summary))
    {index : ℕ} {labelRow : Json} (hrow : (files.correctedLabels.getD [])[index]? = some labelRow) :
    sampleAt samples index = researchSample files index labelRow := by
  have hfind := find?_researchSamples files (files.correctedLabels.getD []) index 0
  rw [hrow, Nat.zero_add, ← samples_of_build h] at hfind
  exact hfind

/-- Every sample is that of a label row. -/
theorem mem_build {files : DatasetFiles} {samples : List ResearchSample}
    {summary : DatasetSummary} (h : buildResearchSamples files = .ok (samples, summary))
    {sample : ResearchSample} (hmem : sample ∈ samples) :
    ∃ index labelRow featureTs, sample = sampleOfRow files index labelRow featureTs := by
  rw [samples_of_build h] at hmem
  obtain ⟨e, -, hsample⟩ := List.mem_filterMap.mp hmem
  obtain ⟨featureTs, -, rfl⟩ := Option.map_eq_some_iff.mp hsample
  exact ⟨e.2, e.1, featureTs, rfl⟩

theorem featureSourceTsNs_sampleOfRow (files : DatasetFiles) (index : ℕ) (labelRow : Json)
    (featureTs : ℤ) :
    (sampleOfRow files index labelRow featureTs).featureSourceTsNs =
      (FeatureRows.lookup files featureTs).sourceTsByFeature featureTs := rfl

/-- Nothing that a sample records as a source is after its time. -/
theorem sources_of_sample (files : DatasetFiles) (index : ℕ) (labelRow : Json) (featureTs : ℤ) :
    NotAfter featureTs (sampleFeatureSourceMaxTs (sampleOfRow files index labelRow featureTs)) := by
  have hrecorded : (sampleOfRow files index labelRow featureTs).featureSourceMaxTsNs =
      maxTs (sampleOfRow files index labelRow featureTs).featureSourceTsNs.values := by
    rw [featureSourceTsNs_sampleOfRow, sampleOfRow]
  have hsources := sourceTs_le files featureTs
  rw [← featureSourceTsNs_sampleOfRow files index labelRow] at hsources
  rw [sampleFeatureSourceMaxTs, hrecorded]
  generalize (sampleOfRow files index labelRow featureTs).featureSourceTsNs = sources at hsources
  have hmax : NotAfter featureTs (maxTs sources.values) := by
    refine notAfter_maxTs fun time htime => ?_
    obtain ⟨e, he, rfl⟩ := List.mem_map.mp htime
    exact hsources e he
  split
  · rename_i ts hts
    rw [← hts]
    exact hmax
  · exact hmax

/-- A valid label lies after the time of its sample. -/
theorem label_of_sample {files : DatasetFiles} {index : ℕ} {labelRow : Json} {featureTs : ℤ}
    (hvalid : (sampleOfRow files index labelRow featureTs).valid100msLabel = true) :
    (sampleOfRow files index labelRow featureTs).labelFutureTsNs.any (· > featureTs) = true := by
  simp only [sampleOfRow, Bool.and_eq_true] at hvalid
  exact hvalid.1.2

/-- **The report on leakage finds nothing wrong with a sample that was built**: what it counts
are names of features and faults of the split. -/
theorem leakage_of_build {files : DatasetFiles} {samples : List ResearchSample}
    {summary : DatasetSummary} (h : buildResearchSamples files = .ok (samples, summary))
    (splitReport : SplitReport) (featureNames : List String) :
    (buildLeakageReport samples splitReport featureNames).featureTsAfterLabelStartCount = 0 ∧
      (buildLeakageReport samples splitReport featureNames).labelFutureTsViolationCount = 0 ∧
      (buildLeakageReport samples splitReport featureNames).featureSourceFutureViolationCount =
        0 := by
  simp only [buildLeakageReport, List.length_map, List.length_eq_zero_iff, List.filter_eq_nil_iff]
  refine ⟨fun sample hmem => ?_, fun sample hmem => ?_, fun sample hmem => ?_⟩
  · obtain ⟨index, labelRow, featureTs, rfl⟩ := mem_build h hmem
    simp [sampleOfRow]
  · obtain ⟨index, labelRow, featureTs, rfl⟩ := mem_build h hmem
    intro hbad
    obtain ⟨hvalid, hfuture⟩ := Bool.and_eq_true_iff.mp hbad
    have hlabel := label_of_sample hvalid
    simp only [Bool.not_eq_true'] at hfuture
    exact Bool.false_ne_true (hfuture.symm.trans hlabel)
  · obtain ⟨index, labelRow, featureTs, rfl⟩ := mem_build h hmem
    have hmax := sources_of_sample files index labelRow featureTs
    intro hbad
    cases hts : sampleFeatureSourceMaxTs (sampleOfRow files index labelRow featureTs) with
    | none => simp [hts] at hbad
    | some ts =>
        rw [hts, Option.any_some, decide_eq_true_eq] at hbad
        exact absurd (hmax ts hts) (not_le.mpr hbad)

/-- The features have the names that the model knows. -/
theorem keys_features (known : FeatureRows) (labelRow : Json) (featureTs : ℤ) :
    (known.features labelRow featureTs).keys = modelFeatureNames :=
  Dict.keys_ofList rfl (by decide +kernel)

/-- The names that the model knows raise no suspicion. -/
theorem unsuspicious_modelFeatureNames : ∀ name ∈ modelFeatureNames,
    looksLikeFuturePriceOrOrderbookFeature name = false ∧
      looksLikeLabelDerivedFeature name = false := by
  decide +kernel

/-- The report on the samples of a dataset passes exactly when the split is sound. -/
theorem leakageReport_status {files : DatasetFiles} {samples : List ResearchSample}
    {summary : DatasetSummary} (h : buildResearchSamples files = .ok (samples, summary))
    (splitReport : SplitReport) :
    (buildLeakageReport samples splitReport []).status = "pass" ↔
      splitReport.duplicateSampleIds = [] ∧ splitReport.overlapPairs = [] := by
  obtain ⟨hstart, hlabel, hsource⟩ := leakage_of_build h splitReport []
  have hnames : ∀ name ∈ modelFeatureNames ++ samples.flatMap fun sample => sample.features.keys,
      name ∈ modelFeatureNames := by
    intro name hname
    rcases List.mem_append.mp hname with hname | hname
    · exact hname
    · obtain ⟨sample, hmem, hname⟩ := List.mem_flatMap.mp hname
      obtain ⟨index, labelRow, featureTs, rfl⟩ := mem_build h hmem
      have hkeys := keys_features (FeatureRows.lookup files featureTs) labelRow featureTs
      exact hkeys ▸ hname
  have hfuture : (modelFeatureNames ++ samples.flatMap fun sample =>
      sample.features.keys).filter looksLikeFuturePriceOrOrderbookFeature = [] :=
    List.filter_eq_nil_iff.mpr fun name hname => by
      simp [(unsuspicious_modelFeatureNames name (hnames name hname)).1]
  have hderived : (modelFeatureNames ++ samples.flatMap fun sample =>
      sample.features.keys).filter looksLikeLabelDerivedFeature = [] :=
    List.filter_eq_nil_iff.mpr fun name hname => by
      simp [(unsuspicious_modelFeatureNames name (hnames name hname)).2]
  simp only [buildLeakageReport, if_true] at hstart hlabel hsource ⊢
  rw [hstart, hlabel, hsource, hfuture, hderived]
  simp [sortedSet]

/-- **Features do not look ahead.** The features of a label row are the same in every two
datasets that agree up to its time. In every dataset no source is later than its feature, and
the report on leakage counts none. -/
theorem features_without_lookahead :
    (∀ {first second : DatasetFiles} {samples samples' : List ResearchSample}
        {summary summary' : DatasetSummary} {index : ℕ} {labelRow : Json} {featureTs : ℤ},
      buildResearchSamples first = .ok (samples, summary) →
      buildResearchSamples second = .ok (samples', summary') →
      (first.correctedLabels.getD [])[index]? = some labelRow →
      (second.correctedLabels.getD [])[index]? = some labelRow →
      recvTs? labelRow = some featureTs → AgreeUpTo featureTs first second →
      ∃ sample sample', sampleAt samples index = some sample ∧
        sampleAt samples' index = some sample' ∧ sample.features = sample'.features) ∧
    ∀ {files : DatasetFiles} {samples : List ResearchSample} {summary : DatasetSummary},
      buildResearchSamples files = .ok (samples, summary) →
      (∀ sample ∈ samples, ∀ e ∈ sample.featureSourceTsNs.entries,
        NotAfter sample.featureTsNs e.2) ∧
      ∀ splitReport featureNames,
        (buildLeakageReport samples splitReport
          featureNames).featureSourceFutureViolationCount = 0 := by
  constructor
  · intro first second samples samples' summary summary' index labelRow featureTs
      hfirst hsecond hrow hrow' hts hagree
    have hsame : (sampleOfRow first index labelRow featureTs).features =
        (sampleOfRow second index labelRow featureTs).features :=
      congrArg (fun known => known.features labelRow featureTs) (FeatureRows.lookup_eq hagree)
    refine ⟨sampleOfRow first index labelRow featureTs,
      sampleOfRow second index labelRow featureTs, ?_, ?_, hsame⟩
    · rw [sampleAt_build hfirst hrow, researchSample, hts, Option.map_some]
    · rw [sampleAt_build hsecond hrow', researchSample, hts, Option.map_some]
  · intro files samples summary h
    refine ⟨fun sample hmem => ?_, fun splitReport featureNames =>
      (leakage_of_build h splitReport featureNames).2.2⟩
    obtain ⟨index, labelRow, featureTs, rfl⟩ := mem_build h hmem
    rw [featureSourceTsNs_sampleOfRow]
    exact sourceTs_le files featureTs

/-- A row with a time and a price. -/
def pricedRow (ts : ℤ) (price : ℚ) : Json :=
  .obj [("local_recv_monotonic_ns", .int ts), ("mid", .float price), ("mid_price", .float price)]

/-- A label row two seconds in. -/
def labelRowAtTwoSeconds : Json := .obj [("local_recv_monotonic_ns", .int 2000000000)]

/-- A dataset with one label row and some quotes. -/
def datasetWithQuotes (quotes : List Json) : DatasetFiles where
  cleanSamples := some [pricedRow 2000000000 100]
  bookticker := some quotes
  trade := some []
  aggtrade := some []
  correctedLabels := some [labelRowAtTwoSeconds]
  latencyProfile := some []

/-- A quote that comes a second later leaves the features, though it is stored first. -/
theorem features_without_lookahead_laterQuote :
    ∃ samples samples' summary summary' sample sample',
      buildResearchSamples (datasetWithQuotes [pricedRow 1500000000 101]) =
        .ok (samples, summary) ∧
      buildResearchSamples (datasetWithQuotes
        [pricedRow 3000000000 102, pricedRow 1500000000 101]) = .ok (samples', summary') ∧
      sampleAt samples 0 = some sample ∧ sampleAt samples' 0 = some sample' ∧
      sample.features = sample'.features ∧
      (buildLeakageReport samples ⟨[], []⟩ []).featureSourceFutureViolationCount = 0 := by
  obtain ⟨⟨samples, summary⟩, hfirst⟩ :
      ∃ built, buildResearchSamples (datasetWithQuotes [pricedRow 1500000000 101]) =
        .ok built := ⟨_, rfl⟩
  obtain ⟨⟨samples', summary'⟩, hsecond⟩ :
      ∃ built, buildResearchSamples (datasetWithQuotes
        [pricedRow 3000000000 102, pricedRow 1500000000 101]) = .ok built := ⟨_, rfl⟩
  have hagree : AgreeUpTo 2000000000 (datasetWithQuotes [pricedRow 1500000000 101])
      (datasetWithQuotes [pricedRow 3000000000 102, pricedRow 1500000000 101]) :=
    ⟨.refl _ _ _, (SameUpTo.refl _ _ _).cons_later (by decide), .refl _ _ _, .refl _ _ _,
      .refl _ _ _⟩
  have hrow (quotes : List Json) :
      ((datasetWithQuotes quotes).correctedLabels.getD [])[0]? = some labelRowAtTwoSeconds := rfl
  obtain ⟨sample, sample', hsample, hsample', hsame⟩ :=
    features_without_lookahead.1 hfirst hsecond (hrow _) (hrow _) rfl hagree
  exact ⟨samples, samples', summary, summary', sample, sample', hfirst, hsecond, hsample,
    hsample', hsame, (features_without_lookahead.2 hfirst).2 _ _⟩

end SomethingTrade
