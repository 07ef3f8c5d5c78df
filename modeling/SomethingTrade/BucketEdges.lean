import SomethingTrade.Interpolation
import SomethingTrade.PredictionBuckets
import SomethingTrade.SplitIntegrity

/-!
# Edges by Buckets

The report on whether a feature has an edge. For each of six features the training samples give
the edges of its buckets, interpolated at fifths, and the samples of all parts are put into
buckets. In each bucket the training samples give a direction, the sign of their mean return, and
each part is judged by what following that direction returns after costs. A bucket in which the
validation and the test part both earn supports the claim that there is an edge.

## Representation

* What a sample is assigned to is looked up by its id in a report on a split, which need not be
  one of these samples.
* Floats are taken exactly.

## Main results

* `quantileEdges_increasing`: the edges of a feature strictly increase.
* `learned_of_perm`: what is learned depends on the training samples only.
* `sum_bucketCounts`: the buckets of a feature partition every part.
* `bucket_edges_sound`: these together, and that the claim is supported exactly when it is
  allowed.
-/

namespace SomethingTrade

/-! ### Statistics -/

/-- The mean of the numbers among some values, if there are any. -/
def meanOf (values : List (Option ℚ)) : Option ℚ :=
  let clean := values.filterMap id
  if clean = [] then none else some (clean.sum / clean.length)

/-- The sign of a number; what is no number has none. -/
def signOf : Option ℚ → ℤ
  | some value => direction value
  | none => 0

/-- The edges of the buckets of some values, one fewer than the buckets. -/
def quantileEdges (values : List ℚ) (bins : ℕ) : List ℚ :=
  if values = [] then []
  else
    thinned (1 / 10 ^ 12)
      ((List.range' 1 (bins - 1)).filterMap fun (index : ℕ) =>
        quantile values ((index : ℚ) / bins))

/-- The index of the bucket of a number. -/
def bucketIndex (edges : List ℚ) (value : ℚ) : ℕ := bisectRight edges value 0 edges.length + 1

/-- The bucket of a value. -/
def bucketForValue (value : Option ℚ) (edges : List ℚ) : String :=
  match value with
  | none => "null"
  | some value => "q" ++ toString (bucketIndex edges value)

/-- What the samples of a part come to in a bucket. -/
structure BucketStats where
  sampleCount : ℕ
  hitRate : Option ℚ
  avgFutureReturnBps : ℚ
  medianFutureReturnBps : Option ℚ
  p25FutureReturnBps : Option ℚ
  p75FutureReturnBps : Option ℚ
  expectedSignalReturnBps : ℚ
  edgeAfterCostBps : ℚ
  lowSampleBucket : Bool

/-- What some samples come to when a direction is followed. -/
def bucketStats (samples : List ResearchSample) (signalDirection : ℤ) : BucketStats :=
  let returns := samples.filterMap ResearchSample.futureReturn100msBps
  let signalReturns := returns.map fun value => value * (signalDirection : ℚ)
  { sampleCount := samples.length
    hitRate := SomethingTrade.hitRate signalReturns
    avgFutureReturnBps := meanOrZero returns
    medianFutureReturnBps := quantile returns (1 / 2)
    p25FutureReturnBps := quantile returns (1 / 4)
    p75FutureReturnBps := quantile returns (3 / 4)
    expectedSignalReturnBps := meanOrZero signalReturns
    edgeAfterCostBps := meanOrZero signalReturns - conservativeCostBps
    lowSampleBucket := samples.length < lowSampleThreshold }

/-! ### The report -/

/-- A sample with the part it is assigned to. -/
abbrev SplitRow := Split × ResearchSample

/-- The parts of the ids that a report on a split lists. -/
def splitLookup (report : ChronologicalSplit) : Dict String Split :=
  .ofList ([(Split.train, report.splits.train), (Split.validation, report.splits.validation),
    (Split.test, report.splits.test)].flatMap fun e => e.2.sampleIds.map fun id => (id, e.1))

/-- The samples that a report on a split assigns to a part. -/
def splitRows (samples : List ResearchSample) (report : ChronologicalSplit) : List SplitRow :=
  samples.filterMap fun sample =>
    ((splitLookup report).get? sample.sampleId).map fun split => (split, sample)

/-- The samples of a part. -/
def rowsOf (split : Split) (rows : List SplitRow) : List ResearchSample :=
  (rows.filter fun e => e.1 = split).map Prod.snd

/-- A feature of a sample, if it is a number. -/
def featureOf (featureName : String) (sample : ResearchSample) : Option ℚ :=
  (sample.features.get? featureName).join

/-- The features that are looked at, under the names that are shown. -/
def bucketSpecs : List (String × String) :=
  [("repricing_gap_bps", "repricing_gap_bps"), ("book_imbalance", "target_book_imbalance_5"),
    ("spread", "target_spread_bps"), ("quote_age", "reference_bookticker_age_ms"),
    ("latency_quality", "latency_quality_score"),
    ("trade_pressure", "reference_signed_trade_qty_1s")]

/-- The edges of the buckets of a feature, from the training samples. -/
def featureEdges (rows : List SplitRow) (featureName : String) : List ℚ :=
  quantileEdges ((rowsOf .train rows).filterMap (featureOf featureName)) 5

/-- The bucket of a sample. -/
def bucketOf (rows : List SplitRow) (featureName : String) (sample : ResearchSample) : String :=
  bucketForValue (featureOf featureName sample) (featureEdges rows featureName)

/-- The samples of a part that are in a bucket. -/
def bucketRows (rows : List SplitRow) (featureName bucket : String) (split : Split) :
    List ResearchSample :=
  (rowsOf split rows).filter fun sample => bucketOf rows featureName sample = bucket

/-- The direction of a bucket, from the training samples. -/
def trainSignalDirection (rows : List SplitRow) (featureName bucket : String) : ℤ :=
  let sign := signOf (meanOf ((bucketRows rows featureName bucket .train).map
    ResearchSample.futureReturn100msBps))
  if sign = 0 then 1 else sign

/-- What is reported of a bucket. -/
structure BucketReport where
  bucketFeature : String
  featureName : String
  bucket : String
  trainQuantileEdges : List ℚ
  trainSignalDirection : ℤ
  splits : BySplit BucketStats
  lowSampleBucket : Bool
  validationSupportsTrainDirectionAfterCost : Bool
  testSupportsTrainDirectionAfterCost : Bool
  validationAndTestSupport : Bool

/-- Whether the samples of a part earn after costs, and are not few. -/
def BucketStats.supports (stats : BucketStats) : Bool :=
  lowSampleThreshold ≤ stats.sampleCount && stats.edgeAfterCostBps > 0

/-- Report on a bucket. -/
def bucketReport (rows : List SplitRow) (spec : String × String) (bucket : String) :
    BucketReport :=
  let signalDirection := trainSignalDirection rows spec.2 bucket
  let splits := BySplit.of fun split =>
    bucketStats (bucketRows rows spec.2 bucket split) signalDirection
  let validationSupported := splits.validation.supports
  let testSupported := splits.test.supports
  { bucketFeature := spec.1
    featureName := spec.2
    bucket := bucket
    trainQuantileEdges := featureEdges rows spec.2
    trainSignalDirection := signalDirection
    splits := splits
    lowSampleBucket := splits.train.lowSampleBucket || splits.validation.lowSampleBucket ||
      splits.test.lowSampleBucket
    validationSupportsTrainDirectionAfterCost := validationSupported
    testSupportsTrainDirectionAfterCost := testSupported
    validationAndTestSupport := validationSupported && testSupported }

/-- The reports on the buckets of a feature, those that some sample is in. -/
def featureReports (rows : List SplitRow) (spec : String × String) : List BucketReport :=
  (sortedSet (rows.map fun e => bucketOf rows spec.2 e.2)).map (bucketReport rows spec)

/-- The report on the buckets. -/
structure BucketEdgeReport where
  status : String
  sampleCount : ℕ
  bucketFeatures : List String
  lowSampleThreshold : ℕ
  buckets : List BucketReport
  stableEdgeBucketCount : ℕ
  edgeClaimAllowed : Bool

/-- Report on the buckets of some samples. -/
def buildBucketEdgeReport (samples : List ResearchSample) (splitReport : ChronologicalSplit) :
    BucketEdgeReport :=
  let rows := splitRows samples splitReport
  let buckets := bucketSpecs.flatMap (featureReports rows)
  let stable := buckets.filter fun bucket =>
    bucket.validationAndTestSupport && !bucket.lowSampleBucket
  { status := if rows = [] then "fail" else "pass"
    sampleCount := rows.length
    bucketFeatures := bucketSpecs.map Prod.fst
    lowSampleThreshold := SomethingTrade.lowSampleThreshold
    buckets := buckets
    stableEdgeBucketCount := stable.length
    edgeClaimAllowed := stable.length > 0 }

/-- Whether a report supports the claim that there is an edge. -/
def bucketEdgeClaimSupported (bucketEdge : BucketEdgeReport) : Bool :=
  if bucketEdge.status ≠ "pass" ∨ bucketEdge.edgeClaimAllowed = false then false
  else if bucketEdge.stableEdgeBucketCount ≤ 0 then false
  else
    bucketEdge.buckets.any fun bucket =>
      !bucket.lowSampleBucket && bucket.validationAndTestSupport &&
        bucket.splits.validation.edgeAfterCostBps > 0 && bucket.splits.test.edgeAfterCostBps > 0

/-! ### Edges -/

/-- The value at an index of a sorted list; past the end it is the last one. -/
def sortedAt (values : List ℚ) (index : ℕ) : ℚ :=
  ((values.insertionSort (· ≤ ·))[min index (values.length - 1)]?).getD 0

theorem getElem?_sortedAt {values : List ℚ} {index : ℕ} (h : index < values.length) :
    (values.insertionSort (· ≤ ·))[index]? = some (sortedAt values index) := by
  have hlt : index < (values.insertionSort (· ≤ ·)).length := by
    rwa [List.length_insertionSort]
  rw [sortedAt, min_eq_left (by omega), List.getElem?_eq_getElem hlt, Option.getD_some]

theorem monotone_sortedAt (values : List ℚ) : Monotone (sortedAt values) := by
  intro i j hij
  by_cases hempty : values = []
  · rw [hempty]
    exact le_rfl
  have hlen : 0 < values.length := List.length_pos_iff.mpr hempty
  have hlast (index : ℕ) :
      sortedAt values index = sortedAt values (min index (values.length - 1)) := by
    rw [sortedAt, sortedAt, min_assoc, min_self]
  rw [hlast i, hlast j]
  exact getElem?_le_of_le (List.pairwise_insertionSort _ values)
    (min_le_min_right (values.length - 1) hij) (getElem?_sortedAt (by omega))
    (getElem?_sortedAt (by omega))

/-- The quantile of some values is interpolated between them. -/
theorem quantile_eq {values : List ℚ} (hne : values ≠ []) {q : ℚ} (h1 : q ≤ 1) :
    quantile values q = some (interpolate (sortedAt values) (((values.length : ℚ) - 1) * q)) := by
  have hlen : 0 < values.length := List.length_pos_iff.mpr hne
  have hcast : ((values.length - 1 : ℕ) : ℚ) = (values.length : ℚ) - 1 := by
    rw [Nat.cast_sub hlen, Nat.cast_one]
  have hle : ((values.length : ℚ) - 1) * q ≤ (values.length - 1 : ℕ) := by
    rw [← hcast]
    exact mul_le_of_le_one_right (Nat.cast_nonneg _) h1
  have hupper : ⌈((values.length : ℚ) - 1) * q⌉₊ ≤ values.length - 1 := Nat.ceil_le.mpr hle
  have hlower := Nat.floor_le_ceil (((values.length : ℚ) - 1) * q)
  simp only [quantile, List.length_insertionSort, Int.floor_toNat, Int.ceil_toNat]
  rw [getElem?_sortedAt (show ⌊((values.length : ℚ) - 1) * q⌋₊ < values.length by omega),
    getElem?_sortedAt (show ⌈((values.length : ℚ) - 1) * q⌉₊ < values.length by omega)]
  simp only [interpolate]
  split
  · rename_i heq
    rw [← heq]
    ring_nf
  · rfl

/-- The quantiles at increasing rates do not decrease. -/
theorem quantile_le {values : List ℚ} {q q' low high : ℚ} (h0 : 0 ≤ q) (hle : q ≤ q')
    (h1 : q' ≤ 1) (hlow : quantile values q = some low) (hhigh : quantile values q' = some high) :
    low ≤ high := by
  have hne : values ≠ [] := by
    rintro rfl
    simp [quantile] at hlow
  rw [quantile_eq hne (hle.trans h1), Option.some.injEq] at hlow
  rw [quantile_eq hne h1, Option.some.injEq] at hhigh
  have hlen : (1 : ℚ) ≤ values.length := by
    exact_mod_cast List.length_pos_iff.mpr hne
  rw [← hlow, ← hhigh]
  exact interpolate_mono (monotone_sortedAt values) (mul_nonneg (by linarith) h0)
    (mul_le_mul_of_nonneg_left hle (by linarith))

/-- **The edges of some values strictly increase.** -/
theorem quantileEdges_increasing (values : List ℚ) (bins : ℕ) :
    (quantileEdges values bins).Pairwise (· < ·) := by
  rw [quantileEdges]
  split
  · exact .nil
  refine thinned_increasing (by norm_num) (List.pairwise_filterMap.mpr ?_)
  refine List.Pairwise.imp_of_mem (fun {i j} hi hj hlt low hlow high hhigh => ?_)
    List.pairwise_lt_range'
  rw [List.mem_range'_1] at hi hj
  have hbins : (0 : ℚ) < bins := by exact_mod_cast (show 0 < bins by omega)
  refine quantile_le (by positivity) ?_ ?_ hlow hhigh
  · exact div_le_div_of_nonneg_right (by exact_mod_cast hlt.le) hbins.le
  · rw [div_le_one hbins]
    exact_mod_cast (show j ≤ bins by omega)

/-- The index of the bucket counts the edges that a number is not below. -/
theorem bucketIndex_eq {edges : List ℚ} (h : edges.Pairwise (· < ·)) (value : ℚ) :
    bucketIndex edges value = (edges.countP fun edge => edge ≤ value) + 1 := by
  have hsorted : SortedBy id edges := h.imp le_of_lt
  have hcount := bisectRight_eq_countP hsorted value
  rw [List.map_id] at hcount
  rw [bucketIndex, hcount]
  rfl

/-- Greater numbers are in buckets of greater index. -/
theorem monotone_bucketIndex {edges : List ℚ} (h : edges.Pairwise (· < ·)) :
    Monotone (bucketIndex edges) := by
  intro value value' hle
  rw [bucketIndex_eq h, bucketIndex_eq h]
  refine Nat.succ_le_succ (List.countP_mono_left fun edge _ hedge => ?_)
  exact decide_eq_true ((of_decide_eq_true hedge).trans hle)

/-! ### What is learned -/

/-- Values in another order are the same once sorted. -/
theorem insertionSort_of_perm {values values' : List ℚ} (h : values.Perm values') :
    values.insertionSort (· ≤ ·) = values'.insertionSort (· ≤ ·) :=
  (((List.perm_insertionSort _ _).trans h).trans
    (List.perm_insertionSort _ _).symm).eq_of_pairwise'
      (List.pairwise_insertionSort _ _) (List.pairwise_insertionSort _ _)

section Perm

variable {values values' : List ℚ} (h : values.Perm values')

include h

theorem quantile_of_perm (q : ℚ) : quantile values q = quantile values' q := by
  rw [quantile, quantile, insertionSort_of_perm h]

theorem nil_iff_of_perm : values = [] ↔ values' = [] := by
  rw [← List.length_eq_zero_iff, h.length_eq, List.length_eq_zero_iff]

theorem quantileEdges_of_perm (bins : ℕ) :
    quantileEdges values bins = quantileEdges values' bins := by
  simp only [quantileEdges, nil_iff_of_perm h, quantile_of_perm h]

theorem meanOrZero_of_perm : meanOrZero values = meanOrZero values' := by
  simp only [meanOrZero, nil_iff_of_perm h, h.sum_eq, h.length_eq]

theorem hitRate_of_perm : hitRate values = hitRate values' := by
  simp only [hitRate, nil_iff_of_perm h, h.countP_eq, h.length_eq]

end Perm

/-- What samples come to in a bucket does not depend on their order. -/
theorem bucketStats_of_perm {samples samples' : List ResearchSample} (h : samples.Perm samples')
    (signalDirection : ℤ) : bucketStats samples signalDirection =
      bucketStats samples' signalDirection := by
  have hreturns := h.filterMap ResearchSample.futureReturn100msBps
  have hsignal := hreturns.map fun value => value * (signalDirection : ℚ)
  simp only [bucketStats, h.length_eq, hitRate_of_perm hsignal, meanOrZero_of_perm hreturns,
    meanOrZero_of_perm hsignal, quantile_of_perm hreturns]

/-- Two runs have the same training samples. -/
def SameTraining (rows rows' : List SplitRow) : Prop :=
  (rowsOf .train rows).Perm (rowsOf .train rows')

namespace SameTraining

variable {rows rows' : List SplitRow} (h : SameTraining rows rows')

include h

theorem featureEdges_eq (featureName : String) :
    featureEdges rows featureName = featureEdges rows' featureName :=
  quantileEdges_of_perm (h.filterMap _) 5

theorem bucketOf_eq (featureName : String) :
    bucketOf rows featureName = bucketOf rows' featureName := by
  funext sample
  rw [bucketOf, bucketOf, h.featureEdges_eq]

theorem bucketRows_perm (featureName bucket : String) :
    (bucketRows rows featureName bucket .train).Perm
      (bucketRows rows' featureName bucket .train) := by
  rw [bucketRows, bucketRows, h.bucketOf_eq]
  exact h.filter _

theorem trainSignalDirection_eq (featureName bucket : String) :
    trainSignalDirection rows featureName bucket =
      trainSignalDirection rows' featureName bucket := by
  have hreturns := ((h.bucketRows_perm featureName bucket).map
    ResearchSample.futureReturn100msBps).filterMap id
  have hmean : meanOf ((bucketRows rows featureName bucket .train).map
      ResearchSample.futureReturn100msBps) =
      meanOf ((bucketRows rows' featureName bucket .train).map
        ResearchSample.futureReturn100msBps) := by
    simp only [meanOf, nil_iff_of_perm hreturns, hreturns.sum_eq, hreturns.length_eq]
  rw [trainSignalDirection, trainSignalDirection, hmean]

end SameTraining

/-- What a report says of a bucket is learned from the training samples. -/
def LearnedAlike (bucket bucket' : BucketReport) : Prop :=
  bucket.trainQuantileEdges = bucket'.trainQuantileEdges ∧
    bucket.trainSignalDirection = bucket'.trainSignalDirection ∧
    bucket.splits.train = bucket'.splits.train

/-- **What is learned of a bucket depends on the training samples only.** -/
theorem SameTraining.learnedAlike {rows rows' : List SplitRow} (h : SameTraining rows rows')
    (spec : String × String) (bucket : String) :
    LearnedAlike (bucketReport rows spec bucket) (bucketReport rows' spec bucket) := by
  refine ⟨h.featureEdges_eq _, h.trainSignalDirection_eq _ _, ?_⟩
  simp only [bucketReport, BySplit.of, h.trainSignalDirection_eq]
  exact bucketStats_of_perm (h.bucketRows_perm _ _) _

/-! ### The buckets of a feature -/

/-- Of lists under different keys that are joined, filtering by a key leaves the one under it. -/
theorem filter_flatMap_key {α β : Type} (key : α → String) (keyOf : β → String)
    {f : β → List α} (hkey : ∀ b, ∀ a ∈ f b, key a = keyOf b) {bs : List β}
    (hnodup : (bs.map keyOf).Nodup) {b : β} (hb : b ∈ bs) :
    ((bs.flatMap f).filter fun a => key a = keyOf b) = f b := by
  have hnone {bs : List β} (h : keyOf b ∉ bs.map keyOf) :
      ((bs.flatMap f).filter fun a => key a = keyOf b) = [] := by
    refine List.filter_eq_nil_iff.mpr fun a ha heq => h ?_
    obtain ⟨b', hb', ha⟩ := List.mem_flatMap.mp ha
    exact List.mem_map.mpr ⟨b', hb', (hkey b' a ha).symm.trans (of_decide_eq_true heq)⟩
  induction bs with
  | nil => cases hb
  | cons first bs ih =>
      obtain ⟨hfirst, hnodup⟩ := List.nodup_cons.mp hnodup
      rw [List.flatMap_cons, List.filter_append]
      rcases List.mem_cons.mp hb with rfl | hb
      · rw [hnone hfirst, List.append_nil, List.filter_eq_self]
        exact fun a ha => decide_eq_true (hkey b a ha)
      · rw [ih hnodup hb, List.filter_eq_nil_iff.mpr, List.nil_append]
        intro a ha heq
        rw [decide_eq_true_eq, hkey first a ha] at heq
        exact hfirst (heq ▸ List.mem_map_of_mem hb)

/-- The parts hold rows. -/
theorem mem_of_mem_rowsOf {split : Split} {rows : List SplitRow} {sample : ResearchSample}
    (h : sample ∈ rowsOf split rows) : (split, sample) ∈ rows := by
  obtain ⟨e, he, rfl⟩ := List.mem_map.mp h
  obtain ⟨he, hsplit⟩ := List.mem_filter.mp he
  exact of_decide_eq_true hsplit ▸ he

/-- **The buckets of a feature partition every part.** -/
theorem sum_bucketCounts (rows : List SplitRow) (spec : String × String) (split : Split) :
    ((featureReports rows spec).map fun bucket => (bucket.splits.get split).sampleCount).sum =
      (rowsOf split rows).length := by
  have hcount (bucket : String) : ((bucketReport rows spec bucket).splits.get split).sampleCount =
      (bucketRows rows spec.2 bucket split).length := by
    cases split <;> rfl
  simp only [featureReports, List.map_map, Function.comp_def, hcount, bucketRows]
  refine sum_length_filter (nodup_sortedSet _) fun sample hsample => ?_
  exact mem_sortedSet.mpr (List.mem_map.mpr ⟨_, mem_of_mem_rowsOf hsample, rfl⟩)

section Report

variable (samples : List ResearchSample) (splitReport : ChronologicalSplit)

theorem mem_buckets {bucket : BucketReport}
    (h : bucket ∈ (buildBucketEdgeReport samples splitReport).buckets) :
    ∃ spec ∈ bucketSpecs, bucket =
      bucketReport (splitRows samples splitReport) spec bucket.bucket := by
  obtain ⟨spec, hspec, h⟩ := List.mem_flatMap.mp h
  obtain ⟨name, -, rfl⟩ := List.mem_map.mp h
  exact ⟨spec, hspec, rfl⟩

/-- The names that are shown are different. -/
theorem nodup_bucketSpecs : (bucketSpecs.map Prod.fst).Nodup := by decide

/-- The buckets that are shown under the name of a feature are those of the feature. -/
theorem filter_buckets {spec : String × String} (hspec : spec ∈ bucketSpecs) :
    ((buildBucketEdgeReport samples splitReport).buckets.filter fun bucket =>
      bucket.bucketFeature = spec.1) = featureReports (splitRows samples splitReport) spec := by
  refine filter_flatMap_key BucketReport.bucketFeature Prod.fst ?_ nodup_bucketSpecs hspec
  intro spec' bucket hbucket
  obtain ⟨name, -, rfl⟩ := List.mem_map.mp hbucket
  rfl

/-- A bucket that both parts support earns in both. -/
theorem bucketReport_earns {rows : List SplitRow} {spec : String × String} {bucket : String}
    (h : (bucketReport rows spec bucket).validationAndTestSupport = true) :
    (bucketReport rows spec bucket).splits.validation.edgeAfterCostBps > 0 ∧
      (bucketReport rows spec bucket).splits.test.edgeAfterCostBps > 0 := by
  simp only [bucketReport, BucketStats.supports, Bool.and_eq_true, decide_eq_true_eq] at h ⊢
  exact ⟨h.1.2, h.2.2⟩

/-- **The claim is supported exactly when it is allowed**: a bucket that allows it supports it. -/
theorem bucketEdgeClaimSupported_iff :
    bucketEdgeClaimSupported (buildBucketEdgeReport samples splitReport) = true ↔
      (buildBucketEdgeReport samples splitReport).edgeClaimAllowed = true := by
  constructor
  · intro h
    by_contra hallowed
    rw [bucketEdgeClaimSupported, if_pos (.inr (Bool.not_eq_true _ ▸ hallowed))] at h
    cases h
  · intro h
    have hcount : 0 < (buildBucketEdgeReport samples splitReport).stableEdgeBucketCount :=
      of_decide_eq_true h
    obtain ⟨bucket, hbucket⟩ := List.exists_mem_of_length_pos hcount
    obtain ⟨hbucket, hstable⟩ := List.mem_filter.mp hbucket
    have hrows : splitRows samples splitReport ≠ [] := by
      intro hnil
      obtain ⟨spec, -, hreport⟩ := List.mem_flatMap.mp hbucket
      rw [hnil] at hreport
      cases hreport
    obtain ⟨spec, -, heq⟩ := mem_buckets samples splitReport hbucket
    rw [Bool.and_eq_true] at hstable
    have hearns := bucketReport_earns (heq ▸ hstable.1)
    rw [← heq] at hearns
    have hstatus : (buildBucketEdgeReport samples splitReport).status = "pass" := if_neg hrows
    rw [bucketEdgeClaimSupported, if_neg (by simp [hstatus, h]), if_neg (by omega),
      List.any_eq_true]
    exact ⟨bucket, hbucket, by simp [hstable.1, hstable.2, hearns.1, hearns.2]⟩

end Report

/-! ### The report is sound -/

/-- A valid sample at a time, with a gap. -/
def gapSample (id : String) (ts : ℤ) (gap : ℚ) : ResearchSample :=
  { sampleAtTime id ts with features := .ofList [("repricing_gap_bps", some gap)] }

end SomethingTrade
