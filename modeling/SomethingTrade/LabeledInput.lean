import SomethingTrade.CleanSample

/-!
# The Input Check of the Labeled Dataset

The check of clean samples before labels are made of them. It is written independently
of the schema check of the samples: it reads the numbers as floats, which are taken
exactly here, and a failing conversion is an error with the text of the exception.

## Main results

* `SampleReady.cleanSampleErrors_eq_nil`: the row of a ready snapshot passes this check
  too.
-/

namespace SomethingTrade

/-- A finite float, or the text of the conversion error. -/
def asFloat (value : Json) : Except String ℚ :=
  match value.toFloat? with
  | none => .error ("not_numeric:" ++ value.repr)
  | some (.finite q) => .ok q
  | some _ => .error ("non_finite:" ++ value.repr)

/-- One level of a row: a positive price with a size that is not negative. -/
def parseInputLevel (item : Json) : Except String (ℚ × ℚ) :=
  match item with
  | .arr [priceCell, sizeCell] => do
      let price ← asFloat priceCell
      let size ← asFloat sizeCell
      if price ≤ 0 ∨ size < 0 then throw "level_negative"
      return (price, size)
  | _ => throw "level_not_pair"

/-- The levels of a row, up to the first that cannot be read. -/
def parseInputLevels : Json → Except String (List (ℚ × ℚ))
  | .arr items => items.mapM parseInputLevel
  | _ => throw "levels_not_list"

/-- Whether some adjacent pair of a list is related. -/
def anyAdjacent (r : ℚ → ℚ → Bool) : List ℚ → Bool
  | a :: b :: rest => r a b || anyAdjacent r (b :: rest)
  | _ => false

/-- The fields every input row must have. -/
def inputRequiredFields : List String :=
  ["schema_version", "symbol", "source", "generation_id", "local_recv_monotonic_ns",
    "local_recv_wall_ts", "last_update_id", "best_bid", "best_ask", "bids", "asks",
    "quality", "lifecycle"]

/-- Whether a value is an integer and not a boolean. -/
def isPlainInt : Json → Bool
  | .int _ => true
  | _ => false

/-- The errors of the best prices of a row. -/
def bestPriceErrors (row : Json) : List String :=
  let errors : Except String (List String) := do
    let bestBid ← asFloat (row.get "best_bid")
    let bestAsk ← asFloat (row.get "best_ask")
    return (if bestBid ≤ 0 ∨ bestAsk ≤ 0 then ["non_positive_best_price"] else []) ++
      if bestBid ≥ bestAsk then ["best_bid_not_less_than_best_ask"] else []
  match errors with
  | .ok errors => errors
  | .error _ => ["invalid_best_bid_or_ask"]

/-- The errors of the levels of a row. -/
def bookLevelErrors (row : Json) : List String :=
  let errors : Except String (List String) := do
    let bids ← parseInputLevels (row.get "bids")
    let asks ← parseInputLevels (row.get "asks")
    return (if bids = [] then ["bids_empty"] else []) ++
      (if asks = [] then ["asks_empty"] else []) ++
      (if anyAdjacent (fun a b => a < b) (bids.map Prod.fst) then
        ["bids_not_sorted_descending"] else []) ++
      if anyAdjacent (fun a b => a > b) (asks.map Prod.fst) then
        ["asks_not_sorted_ascending"] else []
  match errors with
  | .ok errors => errors
  | .error exc => ["invalid_book_levels:" ++ exc]

/-- The errors of the quality object of a row. -/
def qualityErrors (row : Json) : List String :=
  match row.get "quality" with
  | .obj fields =>
      (match (Json.obj fields).get "errors" with
        | .arr [] => []
        | _ => ["quality.errors_present"]) ++
      match (Json.obj fields).get "is_valid" with
      | .bool false => ["quality.is_valid_false"]
      | _ => []
  | _ => ["quality_not_object"]

/-- The errors of the lifecycle object of a row. -/
def lifecycleErrors (row : Json) : List String :=
  match row.get "lifecycle" with
  | .obj fields =>
      ["snapshot_ready", "ready_to_emit", "sequence_continuous"].flatMap fun field =>
        flagViolations (.obj fields) field ("lifecycle." ++ field ++ "_not_true")
  | _ => ["lifecycle_not_object"]

/-- The errors of an input row, sorted and without repetition. -/
def cleanSampleErrors (row : Json) : List String :=
  sortedSet <|
    (inputRequiredFields.flatMap fun field =>
      if (row.get field).isNull then ["missing_or_null_" ++ field] else []) ++
    (if isPlainInt (row.get "generation_id") then [] else ["invalid_generation_id"]) ++
    (if isPlainInt (row.get "local_recv_monotonic_ns") then []
      else ["invalid_local_recv_monotonic_ns"]) ++
    (if (row.get "local_recv_wall_ts").truthy then [] else ["invalid_local_recv_wall_ts"]) ++
    (if (row.get "last_update_id").isNull then ["invalid_last_update_id"] else []) ++
    bestPriceErrors row ++ bookLevelErrors row ++ qualityErrors row ++ lifecycleErrors row

/-! ### Times -/

/-- The time of a row, if it is an integer. -/
def sampleTime? (sample : Json) : Option ℤ :=
  match sample.get "local_recv_monotonic_ns" with
  | .int t => some t
  | _ => none

/-- A sample that passes the input check has an integer time. -/
theorem get_time_of_cleanSampleErrors {sample : Json} (h : cleanSampleErrors sample = []) :
    ∃ t, sampleTime? sample = some t ∧ sample.get "local_recv_monotonic_ns" = .int t := by
  simp only [cleanSampleErrors, sortedSet_eq_nil, List.append_eq_nil_iff] at h
  have htime := h.1.1.1.1.1.1.2
  rw [sampleTime?]
  cases hget : sample.get "local_recv_monotonic_ns" with
  | int t => exact ⟨t, rfl, rfl⟩
  | _ => simp [hget, isPlainInt] at htime

/-- So the times of such samples are their integer fields. -/
theorem map_time_eq {samples : List Json}
    (h : ∀ sample ∈ samples, cleanSampleErrors sample = []) :
    samples.map (fun sample => sample.get "local_recv_monotonic_ns") =
      (samples.filterMap sampleTime?).map Json.int := by
  induction samples with
  | nil => rfl
  | cons sample samples ih =>
      obtain ⟨t, htime, hget⟩ := get_time_of_cleanSampleErrors (h sample List.mem_cons_self)
      have ih := ih fun x hx => h x (List.mem_cons_of_mem sample hx)
      simp only [List.map_cons, List.filterMap_cons, htime, hget, ih]

/-! ### Rows of ready snapshots -/

/-- A printed decimal is read exactly. -/
theorem asFloat_formatF {q : ℚ} (h : IsDecimal q) :
    asFloat (.str (Decimal.formatF q)) = .ok q := by
  simp [asFloat, Json.toFloat?, Decimal.floatOfText_formatF h]

/-- A printed stored level is read exactly. -/
theorem parseInputLevel_levelToJson {e : ℚ × ℚ} (h : StoredLevel e.1 e.2) :
    parseInputLevel (levelToJson e) = .ok e := by
  have hbound : ¬ (e.1 ≤ 0 ∨ e.2 < 0) := by
    rintro (hp | hs)
    · exact not_le.mpr h.price_pos hp
    · exact not_lt.mpr h.size_pos.le hs
  simp only [parseInputLevel, levelToJson, asFloat_formatF h.price_decimal,
    asFloat_formatF h.size_decimal]
  simp [bind, Except.bind, hbound, pure, Except.pure]

/-- The printed levels of a side are read exactly. -/
theorem parseInputLevels_levelsToJson {levels : List (ℚ × ℚ)}
    (h : ∀ e ∈ levels, StoredLevel e.1 e.2) :
    parseInputLevels (levelsToJson levels) = .ok levels := by
  rw [levelsToJson, parseInputLevels]
  induction levels with
  | nil => rfl
  | cons e es ih =>
      have ih := ih fun e' he' => h e' (List.mem_cons_of_mem e he')
      rw [List.map_cons, List.mapM_cons, parseInputLevel_levelToJson (h e List.mem_cons_self),
        ih]
      rfl

/-- In a list ordered by `r` no adjacent pair is related by what `r` excludes. -/
theorem anyAdjacent_eq_false {r : ℚ → ℚ → Prop} {bad : ℚ → ℚ → Bool} {prices : List ℚ}
    (h : prices.Pairwise r) (hbad : ∀ a b, r a b → bad a b = false) :
    anyAdjacent bad prices = false := by
  induction prices with
  | nil => rfl
  | cons a rest ih =>
      obtain ⟨ha, hrest⟩ := List.pairwise_cons.mp h
      cases rest with
      | nil => rfl
      | cons b rest =>
          rw [anyAdjacent, hbad a b (ha b List.mem_cons_self), ih hrest]
          rfl

/-- **The row of a ready snapshot passes the input check of the labeled dataset.** -/
theorem SampleReady.cleanSampleErrors_eq_nil {snapshot : OrderbookSnapshot}
    {quality : OrderbookQualityResult} (h : SampleReady snapshot quality) (depthN : ℤ)
    (exchangeEventTs : Option ℤ) :
    cleanSampleErrors (cleanSampleFromSnapshot snapshot quality depthN exchangeEventTs) =
      [] := by
  obtain ⟨id, hid⟩ := h.lastUpdateId
  obtain ⟨bid, hbid, hbidStored⟩ := h.bids.head
  obtain ⟨ask, hask, haskStored⟩ := h.asks.head
  have hbest : snapshot.bestBid = some bid.1 := h.bestBid.trans hbid
  have hbestAsk : snapshot.bestAsk = some ask.1 := h.bestAsk.trans hask
  have hcross : ¬ ask.1 ≤ bid.1 := not_le.mpr (h.notCrossed _ hbest _ hbestAsk)
  have hbids : anyAdjacent (fun a b => a < b) (snapshot.bidsTopN.map Prod.fst) = false :=
    anyAdjacent_eq_false (List.pairwise_map.mpr h.bids.ordered)
      fun a b hab => decide_eq_false (not_lt.mpr (le_of_lt hab))
  have hasks : anyAdjacent (fun a b => a > b) (snapshot.asksTopN.map Prod.fst) = false :=
    anyAdjacent_eq_false (List.pairwise_map.mpr h.asks.ordered)
      fun a b hab => decide_eq_false (not_lt.mpr (le_of_lt hab))
  have hwall : snapshot.localRecvWallTs ≠ "" := by simpa using h.wallTs
  have hprices : bestPriceErrors
      (cleanSampleFromSnapshot snapshot quality depthN exchangeEventTs) = [] := by
    simp [bestPriceErrors, cleanSampleFromSnapshot, hbest, hbestAsk, decimalToStr,
      asFloat_formatF hbidStored.price_decimal, asFloat_formatF haskStored.price_decimal,
      bind, Except.bind, pure, Except.pure, not_le.mpr hbidStored.price_pos,
      not_le.mpr haskStored.price_pos, hcross]
  have hlevels : bookLevelErrors
      (cleanSampleFromSnapshot snapshot quality depthN exchangeEventTs) = [] := by
    simp [bookLevelErrors, cleanSampleFromSnapshot,
      parseInputLevels_levelsToJson h.bids.stored, parseInputLevels_levelsToJson h.asks.stored,
      bind, Except.bind, pure, Except.pure, h.bids.nonempty, h.asks.nonempty, hbids, hasks]
  have hquality : qualityErrors
      (cleanSampleFromSnapshot snapshot quality depthN exchangeEventTs) = [] := by
    simp [qualityErrors, cleanSampleFromSnapshot, errorsToJson, h.noErrors, h.isValid]
  have hlifecycle : lifecycleErrors
      (cleanSampleFromSnapshot snapshot quality depthN exchangeEventTs) = [] := by
    have hget : (cleanSampleFromSnapshot snapshot quality depthN exchangeEventTs).get
        "lifecycle" = quality.lifecycleFlags.toJson := by simp [cleanSampleFromSnapshot]
    have hready : quality.lifecycleFlags.toJson.get "snapshot_ready" = .bool true := by
      simp [LifecycleFlags.toJson, h.snapshotReady]
    have hemit : quality.lifecycleFlags.toJson.get "ready_to_emit" = .bool true := by
      simp [LifecycleFlags.toJson, h.readyToEmit]
    have hcont : quality.lifecycleFlags.toJson.get "sequence_continuous" = .bool true := by
      simp [LifecycleFlags.toJson, h.sequenceContinuous]
    rw [LifecycleFlags.toJson] at hget hready hemit hcont
    simp only [lifecycleErrors, hget, List.flatMap_cons, List.flatMap_nil,
      flagViolations_eq_nil hready, flagViolations_eq_nil hemit, flagViolations_eq_nil hcont,
      List.append_nil]
  rw [cleanSampleErrors, hprices, hlevels, hquality, hlifecycle]
  simp [cleanSampleFromSnapshot, inputRequiredFields, Json.isNull, isPlainInt, Json.ofInt?,
    hid, Json.truthy, hwall, hbest, hbestAsk, decimalToStr, levelsToJson,
    LifecycleFlags.toJson]

end SomethingTrade
