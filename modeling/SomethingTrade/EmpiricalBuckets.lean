import SomethingTrade.MetricSeries
import SomethingTrade.RejectTaxonomy

/-!
# Empirical Buckets

The dataset report sorts the primary rows into buckets by four measured columns, by their tiers
and by their cohorts. A bucket of a column is a test of its own, and the tests of a column should
take every row once. Those of the moves and of the times do; those of the spread name the whole
numbers up to two and ranges between whole numbers, so that a spread of one tick and a half,
which a change of the tick size leaves behind, is in no bucket.

## Representation

* Rows are decoded JSON objects; numbers and thresholds are taken exactly.

## Main results

* `binanceMovePct_oneBucket`, `timeColumn_oneBucket`, `spreadTicks_oneBucket_iff`: which values
  are in one bucket.
* `buckets_partition_iff`: the buckets partition the primary rows exactly when every spread is one
  that the buckets name.
-/

namespace SomethingTrade

/-! ### Ticks -/

/-- A difference of prices in ticks. -/
def diffToTicks (diff tickSize : ℚ) : Except String ℚ :=
  if tickSize ≤ 0 then .error "tick_size must be positive" else .ok (diff / tickSize)

/-! ### Summaries -/

/-- The fewest rows of a bucket that support a rate. -/
def minBucketRows : ℕ := 30

/-- The numbers of a column. -/
def numbersOf (rows : List Json) (field : String) : List ℚ :=
  rows.filterMap fun row => numberOf? (row.get field)

/-- What is reported of the numbers of a column. -/
structure MetricSummary where
  count : ℕ
  missingCount : ℕ
  min : Option ℚ
  mean : Option ℚ
  median : Option ℚ
  p75 : Option ℚ
  p90 : Option ℚ
  p95 : Option ℚ
  p99 : Option ℚ
  max : Option ℚ

/-- The summary of some numbers among a total. -/
def summaryValues (values : List ℚ) (totalCount : ℕ) : MetricSummary where
  count := values.length
  missingCount := totalCount - values.length
  min := values.min?
  mean := if values = [] then none else some (values.sum / values.length)
  median := median values
  p75 := percentile values (3 / 4)
  p90 := percentile values (9 / 10)
  p95 := percentile values (19 / 20)
  p99 := percentile values (99 / 100)
  max := values.max?

/-- The summary of a column. -/
def metricSummary (rows : List Json) (field : String) : MetricSummary :=
  summaryValues (numbersOf rows field) rows.length

/-- What is reported of a bucket. -/
structure BucketSummary where
  feature : String
  bucketName : String
  bucketRange : String
  rowCount : ℕ
  rowRate : ℚ
  successCount : ℕ
  successRate : ℚ
  medianExecutableRepricingDelayMs : Option ℚ
  medianTradableWindowMs : Option ℚ
  medianExitEdgeTicks : Option ℚ
  p95ExitEdgeTicks : Option ℚ
  insufficientSampleWarning : Bool

/-- The summary of the rows of a bucket. -/
def bucketSummary (feature bucketName bucketRange : String) (rows : List Json)
    (denominator : ℕ) : BucketSummary where
  feature := feature
  bucketName := bucketName
  bucketRange := bucketRange
  rowCount := rows.length
  rowRate := rateOf rows.length denominator
  successCount := successCount rows
  successRate := rateOf (successCount rows) rows.length
  medianExecutableRepricingDelayMs := (metricSummary rows "executable_repricing_delay_ms").median
  medianTradableWindowMs := (metricSummary rows "tradable_window_ms").median
  medianExitEdgeTicks := (metricSummary rows "exit_edge_ticks").median
  p95ExitEdgeTicks := (metricSummary rows "exit_edge_ticks").p95
  insufficientSampleWarning := rows.length < minBucketRows

/-! ### The buckets -/

/-- A bucket of a column: its name, its range and its test. -/
structure BucketSpec where
  name : String
  range : String
  holds : ℚ → Bool

/-- The buckets of a column. -/
structure BucketColumn where
  feature : String
  field : String
  specs : List BucketSpec

/-- The buckets of the moves. -/
def binanceMovePct : BucketColumn where
  feature := "binance_move_pct"
  field := "binance_move_pct"
  specs :=
    [⟨"<= -0.20", "<= -0.20", fun value => value ≤ -0.20⟩,
      ⟨"-0.20 to -0.10", "-0.20 to -0.10", fun value => -0.20 < value ∧ value ≤ -0.10⟩,
      ⟨"-0.10 to -0.05", "-0.10 to -0.05", fun value => -0.10 < value ∧ value ≤ -0.05⟩,
      ⟨"-0.05 to 0", "-0.05 to 0", fun value => -0.05 < value ∧ value < 0⟩,
      ⟨"0 to 0.05", "0 to 0.05", fun value => 0 ≤ value ∧ value ≤ 0.05⟩,
      ⟨"0.05 to 0.10", "0.05 to 0.10", fun value => 0.05 < value ∧ value ≤ 0.10⟩,
      ⟨"0.10 to 0.20", "0.10 to 0.20", fun value => 0.10 < value ∧ value ≤ 0.20⟩,
      ⟨"> 0.20", "> 0.20", fun value => value > 0.20⟩]

/-- The buckets of the spreads. -/
def spreadTicksAtDetection : BucketColumn where
  feature := "spread_ticks_at_detection"
  field := "spread_ticks_at_detection"
  specs :=
    [⟨"0", "0", fun value => value = 0⟩,
      ⟨"1", "1", fun value => value = 1⟩,
      ⟨"2", "2", fun value => value = 2⟩,
      ⟨"3-5", "3-5", fun value => 3 ≤ value ∧ value ≤ 5⟩,
      ⟨"6-10", "6-10", fun value => 6 ≤ value ∧ value ≤ 10⟩,
      ⟨">10", ">10", fun value => value > 10⟩]

/-- The buckets of a time. -/
def timeBucketSpecs : List BucketSpec :=
  [⟨"0-50ms", "0-50ms", fun value => 0 ≤ value ∧ value ≤ 50⟩,
    ⟨"50-100ms", "50-100ms", fun value => 50 < value ∧ value ≤ 100⟩,
    ⟨"100-250ms", "100-250ms", fun value => 100 < value ∧ value ≤ 250⟩,
    ⟨"250-500ms", "250-500ms", fun value => 250 < value ∧ value ≤ 500⟩,
    ⟨"500-1000ms", "500-1000ms", fun value => 500 < value ∧ value ≤ 1000⟩,
    ⟨">1000ms", ">1000ms", fun value => value > 1000⟩]

/-- The buckets of a column of times. -/
def timeColumn (field : String) : BucketColumn := ⟨field, field, timeBucketSpecs⟩

/-- The buckets of the tradable windows. -/
def tradableWindowMs : BucketColumn := timeColumn "tradable_window_ms"

/-- The buckets of the delays. -/
def executableRepricingDelayMs : BucketColumn := timeColumn "executable_repricing_delay_ms"

/-- The columns with buckets. -/
def bucketColumns : List BucketColumn :=
  [binanceMovePct, spreadTicksAtDetection, tradableWindowMs, executableRepricingDelayMs]

namespace BucketColumn

/-- Whether a row is in a bucket of a column. -/
def inBucket (column : BucketColumn) (spec : BucketSpec) (row : Json) : Bool :=
  (numberOf? (row.get column.field)).any spec.holds

/-- Whether a row has no number in a column. -/
def isMissing (column : BucketColumn) (row : Json) : Bool :=
  (numberOf? (row.get column.field)).isNone

/-- The buckets of a column in numbers; the rows without a number have one if there are any. -/
def numericBucketRows (column : BucketColumn) (rows : List Json) : List BucketSummary :=
  let missingRows := rows.filter column.isMissing
  (column.specs.map fun spec =>
    bucketSummary column.feature spec.name spec.range (rows.filter (column.inBucket spec))
      rows.length) ++
  if missingRows = [] then []
  else [bucketSummary column.feature "missing" "missing" missingRows rows.length]

end BucketColumn

/-- The cohorts with buckets, a symbol and a direction each. -/
def bucketCohorts : List (String × String) :=
  [("BTCUSDT", "UP"), ("BTCUSDT", "DOWN"), ("ETHUSDT", "UP"), ("ETHUSDT", "DOWN")]

/-- The bucket of a tier. -/
def tierBucket (rows : List Json) (tier : String) : BucketSummary :=
  bucketSummary "validation_quality" tier tier (rows.filter fun row => tierKey row = tier)
    rows.length

/-- The bucket of a cohort. -/
def cohortBucket (rows : List Json) (cohort : String × String) : BucketSummary :=
  let name := cohort.1 ++ ":" ++ cohort.2
  bucketSummary "symbol_direction_cohort" name name
    (rows.filter fun row =>
      (row.get "symbol").text = cohort.1 ∧ (row.get "direction").text = cohort.2)
    rows.length

/-- What is reported of the buckets. -/
structure EmpiricalBucketAnalysis where
  primaryMinTier : String
  primaryRowCount : ℕ
  buckets : List BucketSummary
  byFeature : List (String × List BucketSummary)

/-- The buckets of the primary rows. -/
def buildEmpiricalBucketAnalysis (primaryRows : List Json) (primaryMinTier : String) :
    EmpiricalBucketAnalysis :=
  let buckets := bucketColumns.flatMap (·.numericBucketRows primaryRows) ++
    qualityTiers.map (tierBucket primaryRows) ++ bucketCohorts.map (cohortBucket primaryRows)
  { primaryMinTier := primaryMinTier
    primaryRowCount := primaryRows.length
    buckets := buckets
    byFeature := (Dict.groupBy BucketSummary.feature buckets).entries.insertionSort
      fun a b => a.1 ≤ b.1 }

namespace EmpiricalBucketAnalysis

/-- The buckets of a feature. -/
def bucketsOf (analysis : EmpiricalBucketAnalysis) (feature : String) : List BucketSummary :=
  analysis.buckets.filter fun bucket => bucket.feature = feature

end EmpiricalBucketAnalysis

/-- The groups of the report are the buckets of a feature each. -/
theorem mem_byFeature_iff {primaryRows : List Json} {tier feature : String}
    {group : List BucketSummary} :
    (feature, group) ∈ (buildEmpiricalBucketAnalysis primaryRows tier).byFeature ↔
      group ≠ [] ∧ (buildEmpiricalBucketAnalysis primaryRows tier).bucketsOf feature = group := by
  rw [buildEmpiricalBucketAnalysis, EmpiricalBucketAnalysis.bucketsOf, List.mem_insertionSort,
    Dict.mem_entries_iff, Dict.get?_groupBy]
  split
  · rename_i hnone
    rw [hnone]
    constructor
    · intro h
      cases h
    · rintro ⟨hne, heq⟩
      exact absurd heq.symm hne
  · rename_i hsome
    constructor
    · intro h
      obtain rfl := Option.some.inj h
      exact ⟨hsome, rfl⟩
    · rintro ⟨-, rfl⟩
      rfl

/-! ### One bucket a row -/

namespace BucketColumn

/-- The tests of the buckets of a column. -/
def tests (column : BucketColumn) : List (Json → Bool) :=
  column.specs.map column.inBucket ++ [column.isMissing]

/-- A row is in one bucket of a column. -/
def OneBucket (column : BucketColumn) (row : Json) : Prop :=
  (column.tests.countP fun test => test row) = 1

/-- A row is in one bucket exactly when its number, if it has one, passes one test. -/
theorem oneBucket_iff {column : BucketColumn} {row : Json} :
    column.OneBucket row ↔ ∀ value, numberOf? (row.get column.field) = some value →
      (column.specs.countP fun spec => spec.holds value) = 1 := by
  rw [OneBucket, tests, List.countP_append, List.countP_map]
  cases hvalue : numberOf? (row.get column.field) with
  | none => simp [Function.comp_def, inBucket, isMissing, hvalue]
  | some value => simp [Function.comp_def, inBucket, isMissing, hvalue]

/-- The rows and the successes that the buckets of a column count. -/
theorem sum_numericBucketRows (column : BucketColumn) (rows : List Json) :
    ((column.numericBucketRows rows).map BucketSummary.rowCount).sum =
        (column.tests.map fun test => (rows.filter test).length).sum ∧
      ((column.numericBucketRows rows).map BucketSummary.successCount).sum =
        (column.tests.map fun test => successCount (rows.filter test)).sum := by
  rw [numericBucketRows, tests]
  by_cases hmissing : rows.filter column.isMissing = []
  · simp [hmissing, Function.comp_def, bucketSummary, successCount]
  · simp [hmissing, Function.comp_def, bucketSummary]

/-- Where every row is in one bucket, the buckets of a column count the rows and the successes. -/
theorem sum_numericBucketRows_of_one {column : BucketColumn} {rows : List Json}
    (h : ∀ row ∈ rows, column.OneBucket row) :
    ((column.numericBucketRows rows).map BucketSummary.rowCount).sum = rows.length ∧
      ((column.numericBucketRows rows).map BucketSummary.successCount).sum =
        successCount rows := by
  obtain ⟨hrows, hsuccesses⟩ := column.sum_numericBucketRows rows
  refine ⟨hrows.trans (sum_length_filter_of_one h), hsuccesses.trans ?_⟩
  set isSuccess : Json → Bool := fun row => (row.get "reject_stage").isText "none"
  have hsuccess (test : Json → Bool) :
      successCount (rows.filter test) = ((rows.filter isSuccess).filter test).length := by
    rw [successCount, List.countP_eq_length_filter, List.filter_comm]
  simp only [hsuccess]
  rw [sum_length_filter_of_one fun row hrow => h row (List.mem_of_mem_filter hrow),
    successCount, List.countP_eq_length_filter]

end BucketColumn

/-! ### Which values are in one bucket -/

/-- Every move is in one bucket. -/
theorem binanceMovePct_oneBucket (row : Json) : binanceMovePct.OneBucket row := by
  rw [BucketColumn.oneBucket_iff]
  intro value _
  simp only [binanceMovePct, List.countP_cons, List.countP_nil, decide_eq_true_eq]
  grind

/-- Every time that is not negative is in one bucket. -/
theorem timeColumn_oneBucket {field : String} {row : Json}
    (h : ∀ value, numberOf? (row.get field) = some value → 0 ≤ value) :
    (timeColumn field).OneBucket row := by
  rw [BucketColumn.oneBucket_iff]
  intro value hvalue
  have hnonneg := h value hvalue
  simp only [timeColumn, timeBucketSpecs, List.countP_cons, List.countP_nil, decide_eq_true_eq]
  grind

/-- A spread that the buckets name: a whole number up to two, or a number in one of the ranges. -/
def NamedSpread (ticks : ℚ) : Prop :=
  ticks = 0 ∨ ticks = 1 ∨ ticks = 2 ∨ 3 ≤ ticks ∧ ticks ≤ 5 ∨ 6 ≤ ticks ∧ ticks ≤ 10 ∨ 10 < ticks

/-- Exactly the spreads that the buckets name are in one bucket. -/
theorem spreadTicks_oneBucket_iff {row : Json} :
    spreadTicksAtDetection.OneBucket row ↔
      ∀ ticks, numberOf? (row.get "spread_ticks_at_detection") = some ticks →
        NamedSpread ticks := by
  rw [BucketColumn.oneBucket_iff]
  refine forall_congr' fun ticks => imp_congr_right fun _ => ?_
  simp only [spreadTicksAtDetection, List.countP_cons, List.countP_nil, decide_eq_true_eq,
    NamedSpread]
  grind

/-! ### The partition of the primary rows -/

theorem BucketColumn.feature_of_mem {column : BucketColumn} {rows : List Json}
    {bucket : BucketSummary} (h : bucket ∈ column.numericBucketRows rows) :
    bucket.feature = column.feature := by
  rw [numericBucketRows] at h
  rcases List.mem_append.mp h with hspec | hmissing
  · obtain ⟨spec, -, rfl⟩ := List.mem_map.mp hspec
    rfl
  · split at hmissing
    · cases hmissing
    · rw [List.mem_singleton.mp hmissing]
      rfl

/-- The buckets of a column in the report. -/
theorem bucketsOf_feature (rows : List Json) (tier : String) {column : BucketColumn}
    (h : column ∈ bucketColumns) :
    (buildEmpiricalBucketAnalysis rows tier).bucketsOf column.feature =
      column.numericBucketRows rows := by
  have hfilter (other : BucketColumn) : ((other.numericBucketRows rows).filter fun bucket =>
      bucket.feature = column.feature) =
      if other.feature = column.feature then other.numericBucketRows rows else [] := by
    split
    · rename_i heq
      exact List.filter_eq_self.mpr fun bucket hbucket =>
        decide_eq_true ((other.feature_of_mem hbucket).trans heq)
    · rename_i hne
      exact List.filter_eq_nil_iff.mpr fun bucket hbucket => by
        simpa [other.feature_of_mem hbucket] using hne
  have hothers : (qualityTiers.map (tierBucket rows) ++
      bucketCohorts.map (cohortBucket rows)).filter
        (fun bucket => bucket.feature = column.feature) = [] := by
    refine List.filter_eq_nil_iff.mpr fun bucket hbucket => ?_
    have hfeature : bucket.feature ∈ ["validation_quality", "symbol_direction_cohort"] := by
      rcases List.mem_append.mp hbucket with htier | hcohort
      · obtain ⟨tier, -, rfl⟩ := List.mem_map.mp htier
        exact .head _
      · obtain ⟨cohort, -, rfl⟩ := List.mem_map.mp hcohort
        exact .tail _ (.head _)
    have hapart : ∀ c ∈ bucketColumns.map BucketColumn.feature,
        c ∉ ["validation_quality", "symbol_direction_cohort"] := by decide
    rw [decide_eq_true_eq]
    exact fun heq => hapart _ (List.mem_map_of_mem h) (heq ▸ hfeature)
  rw [EmpiricalBucketAnalysis.bucketsOf, buildEmpiricalBucketAnalysis, List.append_assoc,
    List.filter_append, hothers, List.append_nil, List.filter_flatMap]
  simp only [hfilter]
  simp only [bucketColumns, List.mem_cons, List.not_mem_nil, or_false] at h
  rcases h with rfl | rfl | rfl | rfl <;>
    simp [bucketColumns, binanceMovePct, spreadTicksAtDetection, tradableWindowMs,
      executableRepricingDelayMs, timeColumn]

/-- The buckets of a column partition the primary rows: each row is in one of them, and their
counts are those of the primary rows. -/
structure PartitionsRows (column : BucketColumn) (primaryRows : List Json)
    (analysis : EmpiricalBucketAnalysis) : Prop where
  oneBucket : ∀ row ∈ primaryRows, column.OneBucket row
  rowCounts : ((analysis.bucketsOf column.feature).map BucketSummary.rowCount).sum =
    analysis.primaryRowCount
  successCounts : ((analysis.bucketsOf column.feature).map BucketSummary.successCount).sum =
    successCount primaryRows

/-- The times of a row are not negative. -/
def NonnegativeTimes (row : Json) : Prop :=
  ∀ field ∈ ["tradable_window_ms", "executable_repricing_delay_ms"], ∀ value,
    numberOf? (row.get field) = some value → 0 ≤ value

/-- **When the empirical buckets partition the primary rows**: exactly when every spread is one
that the buckets name. -/
theorem buckets_partition_iff (primaryRows : List Json) (primaryMinTier : String)
    (htimes : ∀ row ∈ primaryRows, NonnegativeTimes row) :
    (∀ column ∈ bucketColumns, PartitionsRows column primaryRows
      (buildEmpiricalBucketAnalysis primaryRows primaryMinTier)) ↔
    ∀ row ∈ primaryRows, ∀ ticks,
      numberOf? (row.get "spread_ticks_at_detection") = some ticks → NamedSpread ticks := by
  constructor
  · intro h row hrow
    exact spreadTicks_oneBucket_iff.mp ((h _ (.tail _ (.head _))).oneBucket row hrow)
  · intro h column hcolumn
    have hone : ∀ row ∈ primaryRows, column.OneBucket row := by
      intro row hrow
      have hmember := hcolumn
      simp only [bucketColumns, List.mem_cons, List.not_mem_nil, or_false] at hmember
      rcases hmember with rfl | rfl | rfl | rfl
      · exact binanceMovePct_oneBucket row
      · exact spreadTicks_oneBucket_iff.mpr (h row hrow)
      · exact timeColumn_oneBucket (htimes row hrow _ (.head _))
      · exact timeColumn_oneBucket (htimes row hrow _ (.tail _ (.head _)))
    obtain ⟨hrows, hsuccesses⟩ := column.sum_numericBucketRows_of_one hone
    rw [← bucketsOf_feature primaryRows primaryMinTier hcolumn] at hrows hsuccesses
    exact ⟨hone, hrows, hsuccesses⟩

/-- A primary row with a spread. -/
def spreadRow (ticks : ℚ) : Json :=
  .obj [("data_quality_tier", .str "A"), ("reject_stage", .str "none"),
    ("binance_move_pct", .float (3 / 20)), ("spread_ticks_at_detection", .float ticks),
    ("tradable_window_ms", .int 120), ("executable_repricing_delay_ms", .int 80)]

theorem nonnegativeTimes_spreadRow (ticks : ℚ) : NonnegativeTimes (spreadRow ticks) := by
  intro field hfield value hvalue
  simp only [List.mem_cons, List.not_mem_nil, or_false] at hfield
  rcases hfield with rfl | rfl
  · obtain rfl : 120 = value := Option.some.inj hvalue
    norm_num
  · obtain rfl : 80 = value := Option.some.inj hvalue
    norm_num

/-- The theorem applied to spreads of one tick and of four. -/
theorem buckets_partition_named :
    (∀ column ∈ bucketColumns, PartitionsRows column [spreadRow 1, spreadRow 4]
      (buildEmpiricalBucketAnalysis [spreadRow 1, spreadRow 4] "B")) ↔
    ∀ row ∈ [spreadRow 1, spreadRow 4], ∀ ticks,
      numberOf? (row.get "spread_ticks_at_detection") = some ticks → NamedSpread ticks := by
  refine buckets_partition_iff _ "B" fun row hrow => ?_
  simp only [List.mem_cons, List.not_mem_nil, or_false] at hrow
  rcases hrow with rfl | rfl <;> exact nonnegativeTimes_spreadRow _

/-- A spread of a cent and a half on ticks of a cent is in no bucket. -/
theorem half_tick_without_bucket : diffToTicks 0.015 0.01 = .ok (3 / 2) ∧
    ¬ ∀ (primaryRows : List Json) (primaryMinTier : String),
      (∀ row ∈ primaryRows, NonnegativeTimes row) →
      ∀ column ∈ bucketColumns, PartitionsRows column primaryRows
        (buildEmpiricalBucketAnalysis primaryRows primaryMinTier) := by
  constructor
  · rw [diffToTicks, if_neg (by norm_num)]
    norm_num
  intro h
  have hpartition := h [spreadRow (3 / 2)] "B" fun row hrow => by
    rw [List.mem_singleton.mp hrow]
    exact nonnegativeTimes_spreadRow _
  have hone := (hpartition _ (.tail _ (.head _))).oneBucket _ (.head _)
  rcases spreadTicks_oneBucket_iff.mp hone (3 / 2) rfl with h | h | h | h | h | h <;> norm_num at h

end SomethingTrade
