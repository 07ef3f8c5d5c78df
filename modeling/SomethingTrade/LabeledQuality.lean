import SomethingTrade.LabelSearches
import SomethingTrade.MetricSeries

/-!
# Checks and Quality of the Labeled Dataset

The two checks of labeled rows and the quality of their labels. One check asks that every row has
its fields and that every label has either all its values or a reason; the other one that no
feature is of a later sample and no label of an earlier one. Both read the rows as values, as the
quality does: it counts valid labels from the rows and eligible ones from the samples.

## Main results

* `rowReasons_toJson`, `rowLeaks_toJson`: the checks find nothing in the rows of validated
  samples.
* `checked_rows_of_valid`: so these rows pass, no more labels are valid than eligible, and the
  rows that found no sample are those that are not eligible.
-/

namespace SomethingTrade

/-! ### Rows as values -/

/-- A label as a value. The gap limits are whole numbers. -/
def FutureLabel.toJson (label : FutureLabel) : Json :=
  .obj [("horizon_ms", .int label.horizonMs),
    ("target_local_recv_monotonic_ns", .int label.targetLocalRecvMonotonicNs),
    ("max_future_gap_ms", .int label.maxFutureGapMs.num),
    ("future_index", .ofInt? (label.futureIndex.map Nat.cast)),
    ("future_local_recv_monotonic_ns", .ofInt? label.futureLocalRecvMonotonicNs),
    ("future_last_update_id", label.futureLastUpdateId),
    ("future_mid_price", .ofFloat? label.futureMidPrice),
    ("future_gap_ms", .ofFloat? label.futureGapMs),
    ("return_bps", .ofFloat? label.returnBps), ("direction", .ofInt? label.direction),
    ("spread_adjusted_direction", .ofInt? label.spreadAdjustedDirection),
    ("valid", .bool label.valid), ("invalid_reason", .ofText? label.invalidReason)]

/-- A dictionary as a value. -/
def dictToJson {α : Type} (value : α → Json) (d : Dict String α) : Json :=
  .obj (d.entries.map fun e => (e.1, value e.2))

/-- A row as a value. -/
def LabeledRow.toJson (row : LabeledRow) : Json :=
  .obj [("schema_version", .str "orderbook_labeled_v1"), ("symbol", row.symbol),
    ("source", row.source), ("generation_id", row.generationId),
    ("state_version", row.stateVersion), ("snapshot_version", row.snapshotVersion),
    ("last_update_id", row.lastUpdateId), ("local_recv_monotonic_ns", row.localRecvMonotonicNs),
    ("local_recv_wall_ts", row.localRecvWallTs), ("exchange_event_ts", row.exchangeEventTs),
    ("best_bid", .ofFloat? row.bestBid), ("best_ask", .ofFloat? row.bestAsk),
    ("mid_price", .ofFloat? row.midPrice), ("spread", .ofFloat? row.spread),
    ("spread_bps", .ofFloat? row.spreadBps), ("features", dictToJson Json.ofFloat? row.features),
    ("labels", dictToJson FutureLabel.toJson row.labels),
    ("quality", .obj [("input_clean_sample_valid", .bool true),
      ("feature_warnings", .arr (row.featureWarnings.map Json.str)),
      ("label_warnings", .arr (row.labelWarnings.map Json.str)),
      ("leakage_checked", .bool true),
      ("future_label_policy", .str "first_sample_at_or_after_target_time"),
      ("past_feature_policy", .str "latest_sample_at_or_before_target_time"),
      ("max_future_gap_policy_ms",
        .obj (horizons.map fun horizon => (horizon.name, .int horizon.maxFutureGapMs.num))),
      ("current_index", .int row.currentIndex),
      ("feature_source_indices",
        dictToJson (fun index => .ofInt? (index.map Nat.cast)) row.featureSourceIndices)])]

/-! ### The check of the fields -/

/-- The fields that every row has. -/
def requiredTopLevelFields : List String :=
  ["schema_version", "symbol", "source", "generation_id", "state_version", "snapshot_version",
    "last_update_id", "local_recv_monotonic_ns", "local_recv_wall_ts", "best_bid", "best_ask",
    "mid_price", "spread", "spread_bps", "features", "labels", "quality"]

/-- The features that every row has. -/
def requiredFeatureFields : List String :=
  ["mid_price", "spread", "spread_bps", "best_bid", "best_ask", "bid_size_l1", "ask_size_l1",
    "l1_size_imbalance", "microprice_l1", "microprice_edge_bps", "bid_slope_l5", "ask_slope_l5",
    "past_mid_return_100ms_bps", "past_mid_return_500ms_bps", "past_mid_return_1000ms_bps",
    "past_spread_change_500ms_bps"] ++
  depthLevels.flatMap fun level =>
    ["bid_depth", "ask_depth", "total_depth", "depth_imbalance", "depth_ratio"].map fun name =>
      name ++ "_l" ++ toString level

/-- The fields of a label that are not `None` when it is valid. -/
def validLabelFields : List String :=
  ["future_local_recv_monotonic_ns", "future_last_update_id", "future_mid_price",
    "future_gap_ms", "return_bps", "direction", "spread_adjusted_direction"]

/-- The fields that every label has. -/
def requiredValidLabelFields : List String := validLabelFields ++ ["valid", "invalid_reason"]

/-- The fields of a list that an object lacks, sorted. -/
def missingFields (fields : List String) (j : Json) : List String :=
  sortedSet (fields.filter fun field => (j.get? field).isNone)

/-- What is wrong with the label of a horizon. -/
def labelReasons (labels : Json) (horizon : String) : List String :=
  match labels.get horizon with
  | .obj fields =>
      let label := Json.obj fields
      (missingFields requiredValidLabelFields label).map (fun field =>
        "missing_label_field_" ++ horizon ++ "_" ++ field) ++
      if (label.get "valid").isTrue then
        (validLabelFields.filter fun field => (label.get field).isNull).map (fun field =>
          "valid_label_missing_" ++ horizon ++ "_" ++ field) ++
        if (label.get "invalid_reason").isNull then []
        else ["valid_label_has_invalid_reason_" ++ horizon]
      else if (label.get "invalid_reason").truthy then []
      else ["invalid_label_missing_reason_" ++ horizon]
  | _ => ["missing_label_" ++ horizon]

/-- Whether a value is an object. -/
def isDict : Json → Bool
  | .obj _ => true
  | _ => false

/-- What is wrong with a row. -/
def rowReasons (row : Json) : List String :=
  (missingFields requiredTopLevelFields row).map (fun field => "missing_top_level_" ++ field) ++
  (if (row.get "schema_version").isText "orderbook_labeled_v1" then []
    else ["invalid_schema_version"]) ++
  (if isDict (row.get "features") then [] else ["features_not_object"]) ++
  (missingFields requiredFeatureFields (row.get "features").asDict).map (fun field =>
    "missing_feature_" ++ field) ++
  (if isDict (row.get "labels") then [] else ["labels_not_object"]) ++
  horizons.flatMap fun horizon => labelReasons (row.get "labels").asDict horizon.name

/-- Something wrong with a row. -/
structure LabeledViolation where
  sampleIndex : ℕ
  symbol : Json
  generationId : Json
  lastUpdateId : Json
  localRecvMonotonicNs : Json
  reason : String

/-- A reason, with what tells the row. -/
def labeledViolation (index : ℕ) (row : Json) (reason : String) : LabeledViolation :=
  { sampleIndex := index
    symbol := row.get "symbol"
    generationId := row.get "generation_id"
    lastUpdateId := row.get "last_update_id"
    localRecvMonotonicNs := row.get "local_recv_monotonic_ns"
    reason := reason }

/-- The result of the check of the fields. -/
structure LabeledSchemaResult where
  valid : Bool
  labeledSchemaViolationCount : ℕ
  violations : List LabeledViolation

/-- Check the fields of rows. -/
def validateLabeledRows (rows : List Json) : LabeledSchemaResult :=
  let violations := rows.zipIdx.flatMap fun e => (rowReasons e.1).map (labeledViolation e.2 e.1)
  { valid := violations.isEmpty
    labeledSchemaViolationCount := violations.length
    violations := violations }

/-! ### The check of leakage -/

/-- A feature or a label that reads a sample it must not. -/
inductive LeakageViolation
  | feature (sampleIndex : ℕ) (feature : String) (sourceIndex : Json) (reason : String)
  | label (sampleIndex : ℕ) (horizon : String) (futureIndex futureLocalRecvMonotonicNs : Json)
      (targetLocalRecvMonotonicNs : ℤ) (reason : String)

/-- Whether it is a feature. -/
def LeakageViolation.isFeature : LeakageViolation → Bool
  | .feature .. => true
  | .label .. => false

/-- The features of a row that are of later samples. -/
def featureLeaks (index : ℕ) (quality : Json) : List LeakageViolation :=
  match quality.getD "feature_source_indices" (.obj []) with
  | .obj sources => sources.filterMap fun e =>
      e.2.asInt?.bind fun source =>
        if source > (index : ℤ) then
          some (.feature index e.1 e.2 "past_feature_uses_future_sample")
        else none
  | _ => []

/-- Why a label is of a sample it must not be of. -/
def labelLeakReason (index : ℕ) (currentTimestamp targetTimestamp : ℤ) (label : Json) :
    Option String :=
  let futureIndex := (label.get "future_index").asInt?
  let futureTimestamp := (label.get "future_local_recv_monotonic_ns").asInt?
  if futureIndex.any (fun future => decide (future ≤ (index : ℤ))) then
    some "future_index_not_greater_than_current_index"
  else if futureTimestamp.any (fun future => decide (future ≤ currentTimestamp)) then
    some "future_timestamp_not_after_current_timestamp"
  else if futureTimestamp.any (fun future => decide (future < targetTimestamp)) then
    some "future_timestamp_before_target_time"
  else if (label.get "valid").isTrue then
    if futureIndex.isNone then some "valid_label_missing_future_index"
    else if futureTimestamp.isNone then some "valid_label_missing_future_timestamp"
    else none
  else none

/-- The leak of the label of a horizon, if there is one. -/
def labelLeak (index : ℕ) (currentTimestamp : ℤ) (labels : Json) (horizon : Horizon) :
    Option LeakageViolation :=
  match labels.get horizon.name with
  | .obj fields =>
      let label := Json.obj fields
      let targetTimestamp := currentTimestamp + horizon.horizonMs * 1000000
      (labelLeakReason index currentTimestamp targetTimestamp label).map fun reason =>
        .label index horizon.name (label.get "future_index")
          (label.get "future_local_recv_monotonic_ns") targetTimestamp reason
  | _ => none

/-- The leaks of a row; a row without a time is not checked. -/
def rowLeaks (row : Json) (index : ℕ) : List LeakageViolation :=
  match (row.get "local_recv_monotonic_ns").asInt? with
  | none => []
  | some currentTimestamp =>
      featureLeaks index (row.get "quality").asDict ++
      horizons.filterMap (labelLeak index currentTimestamp (row.get "labels").asDict)

/-- The result of the check of leakage. -/
structure LeakageResult where
  passed : Bool
  featureLeakageViolations : ℕ
  labelLeakageViolations : ℕ
  checkedSamples : ℕ
  checkedHorizons : List String
  violations : List LeakageViolation

/-- Check rows for leakage. -/
def runLeakageCheck (labeledRows : List Json) : LeakageResult :=
  let violations := labeledRows.zipIdx.flatMap fun e => rowLeaks e.1 e.2
  let featureCount := violations.countP LeakageViolation.isFeature
  let labelCount := violations.countP fun violation => !violation.isFeature
  { passed := featureCount = 0 && labelCount = 0
    featureLeakageViolations := featureCount
    labelLeakageViolations := labelCount
    checkedSamples := labeledRows.length
    checkedHorizons := horizons.map Horizon.name
    violations := violations }

/-! ### The quality of the labels -/

/-- What is reported of the labels of a horizon. -/
structure HorizonQuality where
  validCount : ℕ
  invalidCount : ℕ
  eligibleCount : ℕ
  validRateAllRows : ℚ
  validRateEligibleRows : ℚ
  tailNoFutureCount : ℕ
  invalidReasonCounts : Dict String ℕ
  upCount : ℕ
  downCount : ℕ
  flatCount : ℕ
  upPct : ℚ
  downPct : ℚ
  flatPct : ℚ
  returnBpsP50 : Option ℚ
  returnBpsP95Abs : Option ℚ
  futureGapMsP50 : Option ℚ
  futureGapMsP95 : Option ℚ
  futureGapMsP99 : Option ℚ

/-- The labels of a horizon: rows whose labels are no object have none. -/
def labelsOf (rows : List Json) (horizon : String) : List Json :=
  rows.filterMap fun row =>
    if isDict (row.get "labels") then some ((row.get "labels").get horizon) else none

/-- How often each reason was given, but for the reason `None`. -/
def countReasons (labels : List Json) : Dict String ℕ :=
  ((labels.map fun label => (label.get "invalid_reason").text).foldl Dict.increment .empty).pop
    "None"

/-- How many samples have their target up to the last time. -/
def eligibleCount (inputSamples : List Json) (lastTs : Option ℤ) (horizon : Horizon) :
    Except String ℕ :=
  match lastTs with
  | none => .ok 0
  | some lastTs => do
      let times ← inputSamples.mapM timestampOf
      return times.countP fun t => decide (t + horizon.horizonMs * 1000000 ≤ lastTs)

/-- How many labels have a direction. -/
def directionCount (labels : List Json) (direction : ℚ) : ℕ :=
  labels.countP fun label => (label.get "direction").asNumber? = some direction

/-- Whether a value can be counted. -/
def isHashable : Json → Bool
  | .arr _ => false
  | .obj _ => false
  | _ => true

/-- The quality of the labels of a horizon. -/
def horizonQuality (inputSamples : List Json) (lastTs : Option ℤ) (labeledRows : List Json)
    (horizon : Horizon) : Except String HorizonQuality := do
  let labels := labelsOf labeledRows horizon.name
  let validLabels := labels.filter fun label => isDict label && (label.get "valid").isTrue
  let invalidLabels := labels.filter fun label => isDict label && !(label.get "valid").isTrue
  let eligibleCount ← eligibleCount inputSamples lastTs horizon
  let reasonCounts := countReasons invalidLabels
  if !validLabels.all fun label => isHashable (label.get "direction") then throw "TypeError"
  let returns := validLabels.filterMap fun label => (label.get "return_bps").asNumber?
  let futureGaps := validLabels.filterMap fun label => (label.get "future_gap_ms").asNumber?
  let validCount := validLabels.length
  let denominator := if validCount = 0 then 1 else validCount
  let pct (direction : ℚ) : ℚ := directionCount validLabels direction / denominator
  return {
    validCount := validCount
    invalidCount := labels.length - validCount
    eligibleCount := eligibleCount
    validRateAllRows :=
      if labeledRows.isEmpty then 0 else validCount / labeledRows.length
    validRateEligibleRows := if eligibleCount = 0 then 0 else validCount / eligibleCount
    tailNoFutureCount := (reasonCounts.get? "NO_FUTURE_SAMPLE").getD 0
    invalidReasonCounts := reasonCounts
    upCount := directionCount validLabels 1
    downCount := directionCount validLabels (-1)
    flatCount := directionCount validLabels 0
    upPct := pct 1
    downPct := pct (-1)
    flatPct := pct 0
    returnBpsP50 := percentile returns (1 / 2)
    returnBpsP95Abs := percentile (returns.map fun value => |value|) (19 / 20)
    futureGapMsP50 := percentile futureGaps (1 / 2)
    futureGapMsP95 := percentile futureGaps (19 / 20)
    futureGapMsP99 := percentile futureGaps (99 / 100) }

/-- The quality of the labels of each horizon. -/
def labelQuality (inputSamples labeledRows : List Json) :
    Except String (List (String × HorizonQuality)) := do
  let lastTs ← inputSamples.getLast?.mapM timestampOf
  horizons.mapM fun horizon => do
    let quality ← horizonQuality inputSamples lastTs labeledRows horizon
    return (horizon.name, quality)

/-! ### The checks of searched rows -/

/-- A value of a dictionary. -/
theorem get?_dictToJson {α : Type} (value : α → Json) (d : Dict String α) (k : String) :
    (dictToJson value d).get? k = (d.get? k).map value := by
  obtain ⟨entries, hnodup⟩ := d
  simp only [dictToJson, Json.get?, Dict.get?, Option.map_map]
  clear hnodup
  induction entries with
  | nil => rfl
  | cons e entries ih =>
      rw [List.map_cons, List.find?_cons]
      by_cases he : e.1 = k
      · simp [Json.lookup, he]
      · simpa [Json.lookup, he] using ih

/-- A value of an object. -/
theorem exists_get?_obj {fields : List (String × Json)} {k : String}
    (h : k ∈ fields.map Prod.fst) : ∃ value, (Json.obj fields).get? k = some value := by
  induction fields with
  | nil => cases h
  | cons e fields ih =>
      obtain ⟨k', value⟩ := e
      rw [Json.get?_obj_cons]
      split
      · exact ⟨value, rfl⟩
      · rename_i hne
        rcases List.mem_cons.mp h with rfl | h
        · exact absurd rfl hne
        · exact ih h

theorem missingFields_eq_nil {fields : List String} {j : Json}
    (h : ∀ field ∈ fields, ∃ value, j.get? field = some value) : missingFields fields j = [] := by
  rw [missingFields, sortedSet_eq_nil, List.filter_eq_nil_iff]
  intro field hfield
  obtain ⟨value, hvalue⟩ := h field hfield
  simp [hvalue]

/-- A label as a value has the fields of a label. -/
theorem missingFields_label (label : FutureLabel) :
    missingFields requiredValidLabelFields label.toJson = [] := by
  refine missingFields_eq_nil fun field hfield => exists_get?_obj ?_
  have hkeys : requiredValidLabelFields ⊆ ["horizon_ms", "target_local_recv_monotonic_ns",
      "max_future_gap_ms", "future_index", "future_local_recv_monotonic_ns",
      "future_last_update_id", "future_mid_price", "future_gap_ms", "return_bps", "direction",
      "spread_adjusted_direction", "valid", "invalid_reason"] := by decide
  exact hkeys hfield

/-- A row as a value has the fields of a row. -/
theorem missingFields_row (row : LabeledRow) :
    missingFields requiredTopLevelFields row.toJson = [] := by
  refine missingFields_eq_nil fun field hfield => exists_get?_obj ?_
  have hkeys : requiredTopLevelFields ⊆ ["schema_version", "symbol", "source", "generation_id",
      "state_version", "snapshot_version", "last_update_id", "local_recv_monotonic_ns",
      "local_recv_wall_ts", "exchange_event_ts", "best_bid", "best_ask", "mid_price", "spread",
      "spread_bps", "features", "labels", "quality"] := by decide
  exact hkeys hfield

theorem isNull_ofInt? {n : Option ℤ} (h : n.isSome) : (Json.ofInt? n).isNull = false := by
  obtain ⟨n, rfl⟩ := Option.isSome_iff_exists.mp h
  rfl

theorem isNull_ofFloat? {q : Option ℚ} (h : q.isSome) : (Json.ofFloat? q).isNull = false := by
  obtain ⟨q, rfl⟩ := Option.isSome_iff_exists.mp h
  rfl

/-- A label that has its values or a reason is complete as a value. -/
theorem labelReasons_eq_nil {row : LabeledRow} {horizon : String} {label : FutureLabel}
    (hlabel : row.labels.get? horizon = some label) (h : LabelComplete label) :
    labelReasons (dictToJson FutureLabel.toJson row.labels) horizon = [] := by
  have hget : (dictToJson FutureLabel.toJson row.labels).get horizon = label.toJson := by
    rw [Json.get, get?_dictToJson, hlabel]
    rfl
  have hvalid : (label.toJson.get "valid").isTrue = label.valid := by
    simp [FutureLabel.toJson, Json.isTrue]
  have hreason : label.toJson.get "invalid_reason" = .ofText? label.invalidReason := by
    simp [FutureLabel.toJson]
  have hobj : labelReasons (dictToJson FutureLabel.toJson row.labels) horizon =
      (missingFields requiredValidLabelFields label.toJson).map (fun field =>
        "missing_label_field_" ++ horizon ++ "_" ++ field) ++
      if (label.toJson.get "valid").isTrue then
        (validLabelFields.filter fun field => (label.toJson.get field).isNull).map (fun field =>
          "valid_label_missing_" ++ horizon ++ "_" ++ field) ++
        if (label.toJson.get "invalid_reason").isNull then []
        else ["valid_label_has_invalid_reason_" ++ horizon]
      else if (label.toJson.get "invalid_reason").truthy then []
      else ["invalid_label_missing_reason_" ++ horizon] := by
    rw [labelReasons, hget]
    rfl
  rw [hobj, missingFields_label, hvalid, hreason]
  cases hcase : label.valid with
  | false =>
      obtain ⟨reason, hsome, hne⟩ := h.reason hcase
      have htruthy : (Json.str reason).truthy = true := by simpa [Json.truthy] using hne
      simp [hsome, Json.ofText?, htruthy]
  | true =>
      obtain ⟨htime, hid, hmid, hgap, hreturn, hdirection, hspread, hnone⟩ := h.fields hcase
      have hfields : ∀ field ∈ validLabelFields, (label.toJson.get field).isNull = false := by
        simp [validLabelFields, FutureLabel.toJson, isNull_ofInt? htime, hid,
          isNull_ofFloat? hmid, isNull_ofFloat? hgap, isNull_ofFloat? hreturn,
          isNull_ofInt? hdirection, isNull_ofInt? hspread]
      have hfilter : (validLabelFields.filter fun field => (label.toJson.get field).isNull) = [] :=
        List.filter_eq_nil_iff.mpr fun field hfield => by simp [hfields field hfield]
      rw [hfilter, hnone]
      rfl

/-- **The rows of validated samples pass the check of the fields.** -/
theorem rowReasons_toJson {samples : List Json} {i : ℕ} {t : ℤ} {row : LabeledRow}
    (h : RowSearched samples i t row) : rowReasons row.toJson = [] := by
  have hfeatures : missingFields requiredFeatureFields
      (dictToJson Json.ofFloat? row.features) = [] := by
    refine missingFields_eq_nil fun field hfield => ?_
    have hnames : ∀ field ∈ requiredFeatureFields, field ∈ featureNames := by decide +kernel
    obtain ⟨value, hvalue⟩ := h.names field (hnames field hfield)
    rw [get?_dictToJson, hvalue]
    exact ⟨_, rfl⟩
  have hlabels : (horizons.flatMap fun horizon =>
      labelReasons (dictToJson FutureLabel.toJson row.labels) horizon.name) = [] := by
    refine List.flatMap_eq_nil_iff.mpr fun horizon hhorizon => ?_
    obtain ⟨label, hlabel, -, hcomplete⟩ := h.labels horizon hhorizon
    exact labelReasons_eq_nil hlabel hcomplete
  have hfeaturesAt : row.toJson.get "features" = dictToJson Json.ofFloat? row.features := by
    simp [LabeledRow.toJson]
  have hlabelsAt : row.toJson.get "labels" = dictToJson FutureLabel.toJson row.labels := by
    simp [LabeledRow.toJson]
  have hschema : (row.toJson.get "schema_version").isText "orderbook_labeled_v1" = true := by
    simp [LabeledRow.toJson, Json.isText]
  have hdict {α : Type} (value : α → Json) (d : Dict String α) :
      isDict (dictToJson value d) = true ∧ (dictToJson value d).asDict = dictToJson value d :=
    ⟨rfl, rfl⟩
  rw [rowReasons, missingFields_row, hschema, hfeaturesAt, hlabelsAt, (hdict _ _).1, (hdict _ _).1,
    (hdict _ _).2, (hdict _ _).2, hfeatures, hlabels]
  rfl

@[simp] theorem asInt?_ofInt? (n : Option ℤ) : (Json.ofInt? n).asInt? = n := by
  cases n <;> rfl

theorem horizonMs_pos {horizon : Horizon} (h : horizon ∈ horizons) : 0 < horizon.horizonMs := by
  have hall : ∀ horizon ∈ horizons, 0 < horizon.horizonMs := by decide
  exact hall horizon h

/-- A label that is of a later sample does not leak. -/
theorem labelLeakReason_eq_none {times : List ℤ} {i : ℕ} {t : ℤ} {horizon : Horizon}
    (hhorizon : horizon ∈ horizons) {label : FutureLabel} (h : LabelFound times i t horizon label) :
    labelLeakReason i t (t + horizon.horizonMs * 1000000) label.toJson = none := by
  have hpos := horizonMs_pos hhorizon
  have hindex : (label.toJson.get "future_index").asInt? = label.futureIndex.map Nat.cast := by
    simp [FutureLabel.toJson]
  have htime : (label.toJson.get "future_local_recv_monotonic_ns").asInt? =
      label.futureLocalRecvMonotonicNs := by
    simp [FutureLabel.toJson]
  have hvalid : (label.toJson.get "valid").isTrue = label.valid := by
    simp [FutureLabel.toJson, Json.isTrue]
  simp only [labelLeakReason, hindex, htime, hvalid, h.time]
  cases hfound : label.futureIndex with
  | none =>
      have hinvalid : label.valid = false := by
        rw [Bool.eq_false_iff]
        intro hvalid
        obtain ⟨j, u, hj, -⟩ := h.valid.mp hvalid
        rw [hfound] at hj
        cases hj
      simp [hinvalid]
  | some j =>
      obtain ⟨⟨hlo, u, hu, hle⟩, -⟩ := firstAtOrAfter_eq_some_iff.mp (h.scanned.symm.trans hfound)
      have hlater : ¬ (j : ℤ) ≤ i := by omega
      have hafter : ¬ u ≤ t := by omega
      simp [hu, hlater, hafter, not_lt.mpr hle]

/-- **The rows of validated samples pass the check of leakage.** -/
theorem rowLeaks_toJson {samples : List Json} {i : ℕ} {t : ℤ} {row : LabeledRow}
    (h : RowSearched samples i t row) : rowLeaks row.toJson i = [] := by
  have htime : (row.toJson.get "local_recv_monotonic_ns").asInt? = some t := by
    simp [LabeledRow.toJson, h.timeField, Json.asInt?]
  have hlabels : (row.toJson.get "labels").asDict = dictToJson FutureLabel.toJson row.labels := by
    simp [LabeledRow.toJson, dictToJson, Json.asDict]
  have hsources : (row.toJson.get "quality").asDict.getD "feature_source_indices" (.obj []) =
      dictToJson (fun index => .ofInt? (index.map Nat.cast)) row.featureSourceIndices := by
    simp [LabeledRow.toJson, Json.asDict, Json.getD]
  have hfeatureLeaks : featureLeaks i (row.toJson.get "quality").asDict = [] := by
    rw [featureLeaks, hsources]
    refine List.filterMap_eq_nil_iff.mpr fun e he => ?_
    obtain ⟨e, hmem, rfl⟩ := List.mem_map.mp he
    cases hsource : e.2 with
    | none => simp
    | some j =>
        have hle := h.sources e.1 j (Dict.mem_entries_iff.mp (hsource ▸ hmem))
        simpa using hle
  have hlabelLeaks : horizons.filterMap
      (labelLeak i t (dictToJson FutureLabel.toJson row.labels)) = [] := by
    refine List.filterMap_eq_nil_iff.mpr fun horizon hhorizon => ?_
    obtain ⟨label, hlabel, hfound, -⟩ := h.labels horizon hhorizon
    have hget : (dictToJson FutureLabel.toJson row.labels).get horizon.name = label.toJson := by
      rw [Json.get, get?_dictToJson, hlabel]
      rfl
    have hnone := labelLeakReason_eq_none hhorizon hfound
    rw [FutureLabel.toJson] at hget hnone
    simp only [labelLeak, hget, hnone, Option.map_none]
  simp only [rowLeaks, htime, hfeatureLeaks, hlabels, hlabelLeaks, List.append_nil]

/-! ### The quality of searched rows -/

/-- Related lists have as many elements that pass tests which agree on related elements. -/
theorem countP_le_of_forall₂ {α β : Type} {R : α → β → Prop} {p : α → Bool} {q : β → Bool}
    {xs : List α} {ys : List β} (h : List.Forall₂ R xs ys)
    (himp : ∀ x y, R x y → p x = true → q y = true) : xs.countP p ≤ ys.countP q := by
  induction h with
  | nil => exact le_rfl
  | @cons x y xs ys hxy _ ih =>
      rw [List.countP_cons, List.countP_cons]
      have hhead := himp x y hxy
      split
      · rename_i hp
        rw [if_pos (hhead hp)]
        omega
      · omega

theorem countP_eq_of_forall₂ {α β : Type} {R : α → β → Prop} {p : α → Bool} {q : β → Bool}
    {xs : List α} {ys : List β} (h : List.Forall₂ R xs ys) (heq : ∀ x y, R x y → p x = q y) :
    xs.countP p = ys.countP q := by
  induction h with
  | nil => rfl
  | cons hxy _ ih => rw [List.countP_cons, List.countP_cons, ih, heq _ _ hxy]

theorem forall_of_forall₂ {α β : Type} {R : α → β → Prop} {P : α → Prop} {xs : List α}
    {ys : List β} (h : List.Forall₂ R xs ys) (himp : ∀ x y, R x y → P x) : ∀ x ∈ xs, P x := by
  induction h with
  | nil => simp
  | cons hxy _ ih => exact List.forall_mem_cons.mpr ⟨himp _ _ hxy, ih⟩

/-- Whether a target is reached by the last time. -/
def targetReached (times : List ℤ) (horizon : Horizon) (t : ℤ) : Bool :=
  times.getLast?.any fun last => decide (t + horizon.horizonMs * 1000000 ≤ last)

/-- What the quality reads of the label of a sample. -/
structure LabelCounted (times : List ℤ) (horizon : Horizon) (label : Json) (t : ℤ) : Prop where
  dict : isDict label = true
  hashable : isHashable (label.get "direction") = true
  reached : (label.get "valid").isTrue = true → targetReached times horizon t = true
  tail : (!(label.get "valid").isTrue && (label.get "invalid_reason").text = "NO_FUTURE_SAMPLE") =
    !targetReached times horizon t

/-- The label of a row, as the quality reads it. -/
theorem counted_of_searched {samples : List Json} (h : ValidSamples samples) {i : ℕ} {t : ℤ}
    {row : LabeledRow} (hrow : RowSearched samples i t row) {horizon : Horizon}
    (hhorizon : horizon ∈ horizons) :
    LabelCounted (samples.filterMap sampleTime?) horizon
      ((dictToJson FutureLabel.toJson row.labels).get horizon.name) t := by
  obtain ⟨label, hlabel, hfound, hcomplete⟩ := hrow.labels horizon hhorizon
  have hget : (dictToJson FutureLabel.toJson row.labels).get horizon.name = label.toJson := by
    rw [Json.get, get?_dictToJson, hlabel]
    rfl
  have hvalid : (label.toJson.get "valid").isTrue = label.valid := by
    simp [FutureLabel.toJson, Json.isTrue]
  have hreason : label.toJson.get "invalid_reason" = .ofText? label.invalidReason := by
    simp [FutureLabel.toJson]
  have hdirection : label.toJson.get "direction" = .ofInt? label.direction := by
    simp [FutureLabel.toJson]
  have hpos := horizonMs_pos hhorizon
  have hlt := (List.getElem?_eq_some_iff.mp hrow.time).1
  obtain ⟨last, hlast⟩ : ∃ last, (samples.filterMap sampleTime?).getLast? = some last :=
    ⟨_, List.getLast?_eq_some_getLast (List.ne_nil_of_length_pos (by omega))⟩
  have hscan := firstAtOrAfter_eq_none_iff_last (h.increasing.imp le_of_lt) hrow.time
    (show t < t + horizon.horizonMs * 1000000 by omega) hlast
  have hreached : targetReached (samples.filterMap sampleTime?) horizon t = true ↔
      label.futureIndex ≠ none := by
    rw [hfound.scanned, Ne, hscan, not_lt, targetReached, hlast]
    simp
  rw [hget]
  refine ⟨rfl, ?_, ?_, ?_⟩
  · rw [hdirection]
    cases label.direction <;> rfl
  · rw [hvalid, hreached]
    intro hval
    obtain ⟨j, u, hj, -⟩ := hfound.valid.mp hval
    simp [hj]
  · rw [hvalid, hreason]
    cases hval : label.valid with
    | true =>
        obtain ⟨j, u, hj, -⟩ := hfound.valid.mp hval
        have hyes := hreached.mpr (by simp [hj])
        simp [hyes]
    | false =>
        obtain ⟨reason, hsome, -⟩ := hcomplete.reason hval
        have htail : reason = "NO_FUTURE_SAMPLE" ↔
            targetReached (samples.filterMap sampleTime?) horizon t = false := by
          rw [← Bool.not_eq_true, hreached, not_not, ← hfound.noFuture, hsome]
          simp
        have htext : (Json.ofText? (some reason)).text = reason := rfl
        rw [hsome, htext]
        by_cases hr : reason = "NO_FUTURE_SAMPLE"
        · simp [hr, htail.mp hr]
        · have hyes := Bool.eq_true_of_not_eq_false fun hno => hr (htail.mpr hno)
          simp [hr, hyes]

/-- The eligible samples are those whose targets are reached. -/
theorem eligibleCount_eq_ok {samples : List Json} {times : List ℤ}
    (htimes : samples.mapM timestampOf = .ok times) (horizon : Horizon) :
    eligibleCount samples times.getLast? horizon =
      .ok (times.countP (targetReached times horizon)) := by
  cases hlast : times.getLast? with
  | none =>
      rw [List.getLast?_eq_none_iff] at hlast
      simp [eligibleCount, hlast]
  | some last =>
      have hreach : targetReached times horizon = fun t =>
          decide (t + horizon.horizonMs * 1000000 ≤ last) := by
        funext t
        simp [targetReached, hlast]
      simp only [eligibleCount, htimes, bind, Except.bind, pure, Except.pure, hreach]

/-- The quality of the labels of samples whose times are read and whose labels can be counted. -/
theorem horizonQuality_eq_ok {samples : List Json} {times : List ℤ} {rows : List Json}
    {horizon : Horizon} (htimes : samples.mapM timestampOf = .ok times)
    (h : List.Forall₂ (LabelCounted times horizon) (labelsOf rows horizon.name) times) :
    ∃ quality, horizonQuality samples times.getLast? rows horizon = .ok quality ∧
      quality.validCount ≤ quality.eligibleCount ∧
      quality.tailNoFutureCount + quality.eligibleCount = times.length := by
  have heligible := eligibleCount_eq_ok htimes horizon
  have hhash : ((labelsOf rows horizon.name).filter fun label =>
      isDict label && (label.get "valid").isTrue).all (fun label =>
        isHashable (label.get "direction")) = true := by
    refine List.all_eq_true.mpr fun label hlabel => ?_
    exact forall_of_forall₂ h (fun _ _ ht => ht.hashable) label (List.mem_filter.mp hlabel).1
  simp only [horizonQuality, heligible, bind, Except.bind, hhash]
  refine ⟨_, rfl, ?_, ?_⟩
  · rw [← List.countP_eq_length_filter]
    refine countP_le_of_forall₂ h fun label t ht hvalid => ?_
    exact ht.reached (Bool.and_eq_true_iff.mp hvalid).2
  · have hcount : ((countReasons ((labelsOf rows horizon.name).filter fun label =>
        isDict label && !(label.get "valid").isTrue)).get? "NO_FUTURE_SAMPLE").getD 0 =
          times.countP fun t => !targetReached times horizon t := by
      rw [countReasons, Dict.get?_pop, if_neg (by decide), Dict.getD_foldl_increment,
        Dict.get?_empty, Option.getD_none, Nat.zero_add, List.count_eq_countP, List.countP_map,
        List.countP_filter]
      refine countP_eq_of_forall₂ h fun label t ht => ?_
      rw [← ht.tail, ht.dict]
      simp [Bool.and_comm, beq_eq_decide]
    have hsplit : times.length = times.countP (targetReached times horizon) +
        times.countP fun t => !targetReached times horizon t := by
      simpa using List.length_eq_countP_add_countP (targetReached times horizon) (l := times)
    rw [hcount]
    exact (Nat.add_comm _ _).trans hsplit.symm

/-- What a quality counts. -/
theorem counts_of_horizonQuality {samples : List Json} {times : List ℤ} {rows : List Json}
    {horizon : Horizon} {quality : HorizonQuality} (htimes : samples.mapM timestampOf = .ok times)
    (h : horizonQuality samples times.getLast? rows horizon = .ok quality) :
    quality.eligibleCount = times.countP (targetReached times horizon) ∧
      quality.validCount = (labelsOf rows horizon.name).countP fun label =>
        isDict label && (label.get "valid").isTrue := by
  simp only [horizonQuality, eligibleCount_eq_ok htimes, bind, Except.bind] at h
  split at h
  · cases h
  · obtain rfl := Except.ok.inj h
    exact ⟨rfl, List.countP_eq_length_filter.symm⟩

/-- The labels of rows as values. -/
theorem labelsOf_toJson (rows : List LabeledRow) (horizon : String) :
    labelsOf (rows.map LabeledRow.toJson) horizon =
      rows.map fun row => (dictToJson FutureLabel.toJson row.labels).get horizon := by
  have hlabels (row : LabeledRow) :
      row.toJson.get "labels" = dictToJson FutureLabel.toJson row.labels := by
    simp [LabeledRow.toJson]
  rw [labelsOf, List.filterMap_map, ← List.filterMap_eq_map]
  refine List.filterMap_congr fun row _ => ?_
  rw [Function.comp_apply, hlabels]
  rfl

/-- The last time of samples whose times are read. -/
theorem lastTime_eq {samples : List Json} {times : List ℤ}
    (h : samples.mapM timestampOf = .ok times) :
    samples.getLast?.mapM timestampOf = .ok times.getLast? := by
  have hmap := congrArg List.getLast? (mapM_eq_ok_iff.mp h)
  rw [List.getLast?_map, List.getLast?_map] at hmap
  cases hsample : samples.getLast? with
  | none =>
      rw [hsample, Option.map_none] at hmap
      rw [Option.map_eq_none_iff.mp hmap.symm]
      rfl
  | some sample =>
      rw [hsample, Option.map_some] at hmap
      obtain ⟨t, ht, hstamp⟩ := Option.map_eq_some_iff.mp hmap.symm
      rw [ht, Option.mapM_some, ← hstamp]
      rfl

/-- The quality of the labels, when all of them can be counted. -/
theorem labelQuality_eq_ok {samples rows : List Json} {times : List ℤ}
    (htimes : samples.mapM timestampOf = .ok times)
    (h : ∀ horizon ∈ horizons,
      List.Forall₂ (LabelCounted times horizon) (labelsOf rows horizon.name) times) :
    ∃ quality, labelQuality samples rows = .ok quality ∧
      quality.map Prod.fst = horizons.map Horizon.name ∧
      ∀ e ∈ quality, e.2.validCount ≤ e.2.eligibleCount ∧
        e.2.tailNoFutureCount + e.2.eligibleCount = times.length := by
  have hmade : ∀ horizon ∈ horizons, ∃ quality,
      (do let quality ← horizonQuality samples times.getLast? rows horizon
          return (horizon.name, quality)) = Except.ok (horizon.name, quality) ∧
        quality.validCount ≤ quality.eligibleCount ∧
        quality.tailNoFutureCount + quality.eligibleCount = times.length := by
    intro horizon hhorizon
    obtain ⟨quality, hquality, hcounts⟩ := horizonQuality_eq_ok htimes (h horizon hhorizon)
    exact ⟨quality, by rw [hquality]; rfl, hcounts⟩
  obtain ⟨quality, hquality⟩ := exists_mapM_eq_ok fun horizon hhorizon =>
    (hmade horizon hhorizon).elim fun quality hq => ⟨(horizon.name, quality), hq.1⟩
  have hmap := mapM_eq_ok_iff.mp hquality
  have hentry : ∀ e ∈ quality, ∃ horizon ∈ horizons,
      (do let quality ← horizonQuality samples times.getLast? rows horizon
          return (horizon.name, quality)) = Except.ok e := by
    intro e he
    have hok := List.mem_map_of_mem (f := (Except.ok : _ → Except String _)) he
    rw [← hmap] at hok
    exact List.mem_map.mp hok
  refine ⟨quality, ?_, ?_, fun e he => ?_⟩
  · rw [labelQuality, lastTime_eq htimes]
    exact hquality
  · refine map_fst_of_map (fun horizon e he => ?_) hmap
    cases hq : horizonQuality samples times.getLast? rows horizon with
    | error err => simp [hq, bind, Except.bind] at he
    | ok q =>
        simp only [hq, bind, Except.bind, pure, Except.pure, Except.ok.injEq] at he
        exact congrArg Prod.fst he
  · obtain ⟨horizon, hhorizon, hmadeAt⟩ := hentry e he
    obtain ⟨q, hq, hcounts⟩ := hmade horizon hhorizon
    rw [hmadeAt] at hq
    obtain rfl := Except.ok.inj hq
    exact hcounts

/-- Lists of one length are related when their elements are, index by index. -/
theorem forall₂_of_getElem? {α β : Type} {R : α → β → Prop} {xs : List α} {ys : List β}
    (hlen : xs.length = ys.length)
    (h : ∀ (i : ℕ) x, xs[i]? = some x → ∃ y, ys[i]? = some y ∧ R x y) : List.Forall₂ R xs ys := by
  refine List.forall₂_iff_get.mpr ⟨hlen, fun i hi hi' => ?_⟩
  obtain ⟨y, hy, hR⟩ := h i xs[i] (List.getElem?_eq_getElem hi)
  rw [List.getElem?_eq_getElem hi'] at hy
  obtain rfl := Option.some.inj hy
  exact hR

/-- The labels of searched rows can be counted. -/
theorem forall₂_counted {samples : List Json} (h : ValidSamples samples) {rows : List LabeledRow}
    (hlen : rows.length = samples.length)
    (hrows : ∀ (i : ℕ) row, rows[i]? = some row → ∃ t, RowSearched samples i t row) :
    ∀ horizon ∈ horizons, List.Forall₂ (LabelCounted (samples.filterMap sampleTime?) horizon)
      (labelsOf (rows.map LabeledRow.toJson) horizon.name) (samples.filterMap sampleTime?) := by
  intro horizon hhorizon
  rw [labelsOf_toJson, List.forall₂_map_left_iff]
  refine forall₂_of_getElem? (hlen.trans (length_of_mapM (timestamps_of_clean h.clean)).symm) ?_
  intro i row hrow
  obtain ⟨t, hsearched⟩ := hrows i row hrow
  exact ⟨t, hsearched.time, counted_of_searched h hsearched hhorizon⟩

/-- A label, said with a linear scan of the later times. -/
structure LabelSearched (times : List ℤ) (i : ℕ) (targetTime : ℤ) (horizon : Horizon)
    (label : FutureLabel) : Prop where
  scanned : label.futureIndex = firstAtOrAfter times targetTime (i + 1)
  first : ∀ j, label.futureIndex = some j ↔ IsLeast (indicesAtOrAfter times targetTime (i + 1)) j
  noFuture : label.invalidReason = some "NO_FUTURE_SAMPLE" ↔
    indicesAtOrAfter times targetTime (i + 1) = ∅
  valid : label.valid = true ↔ ∃ j u, label.futureIndex = some j ∧ times[j]? = some u ∧
    ((u - targetTime : ℤ) : ℚ) / 1000000 ≤ horizon.maxFutureGapMs

theorem LabelFound.searched {times : List ℤ} {i : ℕ} {t : ℤ} {horizon : Horizon}
    {label : FutureLabel} (h : LabelFound times i t horizon label) :
    LabelSearched times i (t + horizon.horizonMs * 1000000) horizon label := by
  refine ⟨h.scanned, fun j => ?_, ?_, h.valid⟩
  · rw [h.scanned, firstAtOrAfter_eq_some_iff]
  · rw [h.noFuture, h.scanned, firstAtOrAfter_eq_none_iff]

/-- **The rows of validated samples.** Each label is of the first later sample at or after its
target, and each feature that looks back of the last sample, up to the row, at or before its past
time, unless that is too old. The rows pass both checks. No more labels of a horizon are valid
than eligible, and the rows that found no sample are those that are not eligible. -/
theorem checked_rows_of_valid {samples : List Json} (h : ValidSamples samples) (flat : ℚ) :
    ∃ rows quality, generateLabeledRows samples flat = .ok rows ∧ rows.length = samples.length ∧
      (∀ i row, rows[i]? = some row → ∃ t, (samples.filterMap sampleTime?)[i]? = some t ∧
        (∀ horizon ∈ horizons, ∃ label, row.labels.get? horizon.name = some label ∧
          LabelSearched (samples.filterMap sampleTime?) i (t + horizon.horizonMs * 1000000)
            horizon label) ∧
        ∀ policy ∈ pastFeaturePolicies, PastSearched samples i
          (t - policy.lookbackMs * 1000000) policy row) ∧
      (validateLabeledRows (rows.map LabeledRow.toJson)).valid = true ∧
      (runLeakageCheck (rows.map LabeledRow.toJson)).passed = true ∧
      labelQuality samples (rows.map LabeledRow.toJson) = .ok quality ∧
      quality.map Prod.fst = horizons.map Horizon.name ∧
      ∀ e ∈ quality, e.2.validCount ≤ e.2.eligibleCount ∧
        e.2.tailNoFutureCount + e.2.eligibleCount = rows.length := by
  obtain ⟨rows, hgenerate, hlen, hrows⟩ := searched_of_valid h flat
  have htimes := timestamps_of_clean h.clean
  have hcounted := forall₂_counted h hlen hrows
  have hall : ∀ e ∈ (rows.map LabeledRow.toJson).zipIdx, ∃ row t,
      e.1 = row.toJson ∧ RowSearched samples e.2 t row := by
    intro e he
    obtain ⟨json, i⟩ := e
    rw [List.mk_mem_zipIdx_iff_getElem?, List.getElem?_map] at he
    obtain ⟨row, hrow, hjson⟩ := Option.map_eq_some_iff.mp he
    obtain ⟨t, hsearched⟩ := hrows i row hrow
    exact ⟨row, t, hjson.symm, hsearched⟩
  obtain ⟨quality, hquality, hnames, hcounts⟩ := labelQuality_eq_ok htimes hcounted
  rw [length_of_mapM htimes, ← hlen] at hcounts
  refine ⟨rows, quality, hgenerate, hlen, fun i row hrow => ?_, ?_, ?_, hquality, hnames, hcounts⟩
  · obtain ⟨t, hsearched⟩ := hrows i row hrow
    refine ⟨t, hsearched.time, fun horizon hhorizon => ?_, hsearched.past⟩
    obtain ⟨label, hlabel, hfound, -⟩ := hsearched.labels horizon hhorizon
    exact ⟨label, hlabel, hfound.searched⟩
  · have hnil : ((rows.map LabeledRow.toJson).zipIdx.flatMap fun e =>
        (rowReasons e.1).map (labeledViolation e.2 e.1)) = [] := by
      refine List.flatMap_eq_nil_iff.mpr fun e he => ?_
      obtain ⟨row, t, hjson, hsearched⟩ := hall e he
      rw [hjson, rowReasons_toJson hsearched, List.map_nil]
    simp [validateLabeledRows, hnil]
  · have hnil : ((rows.map LabeledRow.toJson).zipIdx.flatMap fun e => rowLeaks e.1 e.2) = [] := by
      refine List.flatMap_eq_nil_iff.mpr fun e he => ?_
      obtain ⟨row, t, hjson, hsearched⟩ := hall e he
      rw [hjson, rowLeaks_toJson hsearched]
    simp [runLeakageCheck, hnil]

/-- The rows of two samples, of which the second one is the future of the first one. -/
theorem checked_rows_of_valid_twoSamples :
    ∃ rows quality, generateLabeledRows [validSampleAt 0, validSampleAt 100000000] 0 = .ok rows ∧
      labelQuality [validSampleAt 0, validSampleAt 100000000] (rows.map LabeledRow.toJson) =
        .ok quality ∧
      (runLeakageCheck (rows.map LabeledRow.toJson)).passed = true ∧
      ∀ e ∈ quality, e.2.tailNoFutureCount + e.2.eligibleCount = rows.length := by
  have hclean : cleanSampleErrors (validSampleAt 0) = [] ∧
      cleanSampleErrors (validSampleAt 100000000) = [] := by
    decide +kernel
  have htime (ts : ℤ) : sampleTime? (validSampleAt ts) = some ts := rfl
  have hvalid : ValidSamples [validSampleAt 0, validSampleAt 100000000] :=
    ⟨by simp [hclean], by simp [htime]⟩
  obtain ⟨rows, quality, hrows, -, -, -, hpassed, hquality, -, hcounts⟩ :=
    checked_rows_of_valid hvalid 0
  exact ⟨rows, quality, hrows, hquality, hpassed, fun e he => (hcounts e he).2⟩

end SomethingTrade
