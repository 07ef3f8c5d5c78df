import SomethingTrade.Json
import SomethingTrade.OrderbookQuality

/-!
# Clean Samples and Their Schema

The row made of a valid snapshot, and the schema check the row must pass before it is
written. Prices and sizes are printed without exponent; a printed price is the shortest
text of its value, since trailing zeros are not kept. Wall-clock times are printed by
`utcIso`, the ISO form of a time in UTC.

## Main results

* `SampleReady.validateCleanSampleSchema_eq_nil`: the conditions under which the row of a
  snapshot passes the schema check.
* `sampleDecimal_formatF`: a printed decimal reads back as its value.
-/

namespace SomethingTrade

/-! ### Wall-clock text -/

/-- A number in `w` digits. -/
def paddedDigits (w : ℕ) (n : ℤ) : String := String.ofList (Decimal.fixedDigits w n.toNat)

/-- Microseconds nearest to a time in nanoseconds, ties to even. -/
def toMicroseconds (ns : ℤ) : ℤ :=
  let down := ns / 1000
  let rest := ns % 1000
  if rest > 500 ∨ (rest = 500 ∧ down % 2 = 1) then down + 1 else down

/-- Year, month and day of a day number counted from the epoch. -/
def civilDate (days : ℤ) : ℤ × ℤ × ℤ :=
  let z := days + 719468
  let era := z / 146097
  let dayOfEra := z % 146097
  let yearOfEra :=
    (dayOfEra - dayOfEra / 1460 + dayOfEra / 36524 - dayOfEra / 146096) / 365
  let dayOfYear := dayOfEra - (365 * yearOfEra + yearOfEra / 4 - yearOfEra / 100)
  let monthFromMarch := (5 * dayOfYear + 2) / 153
  let day := dayOfYear - (153 * monthFromMarch + 2) / 5 + 1
  let month := if monthFromMarch < 10 then monthFromMarch + 3 else monthFromMarch - 9
  let year := yearOfEra + era * 400 + if month ≤ 2 then 1 else 0
  (year, month, day)

/-- The ISO text of a time in nanoseconds since the epoch, in UTC, to the microsecond. -/
def utcIso (ns : ℤ) : String :=
  let micros := toMicroseconds ns
  let (year, month, day) := civilDate (micros / 86400000000)
  let second := micros / 1000000 % 86400
  let fraction := micros % 1000000
  paddedDigits 4 year ++ "-" ++ paddedDigits 2 month ++ "-" ++ paddedDigits 2 day ++ "T" ++
    paddedDigits 2 (second / 3600) ++ ":" ++ paddedDigits 2 (second / 60 % 60) ++ ":" ++
    paddedDigits 2 (second % 60) ++
    (if fraction = 0 then "" else "." ++ paddedDigits 6 fraction) ++ "+00:00"

/-- An ISO text is not empty. -/
theorem utcIso_isEmpty (ns : ℤ) : (utcIso ns).isEmpty = false := by
  rw [← Bool.not_eq_true, String.isEmpty_iff]
  intro h
  have hlen := congrArg String.length h
  simp only [utcIso, String.length_append] at hlen
  revert hlen
  simp

example : utcIso 951782400500000000 = "2000-02-29T00:00:00.500000+00:00" := by decide +kernel

/-! ### The row -/

/-- The schema version of the rows. -/
def phase41SchemaVersion : String := "phase_4_1_clean_orderbook_v1"

/-- A printed decimal, `null` when there is none. -/
def decimalToStr : Option ℚ → Json
  | some q => .str (Decimal.formatF q)
  | none => .null

/-- A level as a pair of printed decimals. -/
def levelToJson (e : ℚ × ℚ) : Json :=
  .arr [.str (Decimal.formatF e.1), .str (Decimal.formatF e.2)]

/-- Levels as a list of pairs. -/
def levelsToJson (levels : List (ℚ × ℚ)) : Json := .arr (levels.map levelToJson)

/-- A list of error codes as texts. -/
def errorsToJson (errors : List BookError) : Json := .arr (errors.map fun e => .str e.text)

/-- The lifecycle flags as an object. -/
def LifecycleFlags.toJson (flags : LifecycleFlags) : Json :=
  .obj [("snapshot_ready", .bool flags.snapshotReady),
    ("ready_to_emit", .bool flags.readyToEmit),
    ("after_reconnect", .bool flags.afterReconnect),
    ("sequence_continuous", .bool flags.sequenceContinuous),
    ("market_status_known", .bool flags.marketStatusKnown),
    ("market_status_mode", .str flags.marketStatusMode)]

/-- The row of a snapshot. -/
def cleanSampleFromSnapshot (snapshot : OrderbookSnapshot) (quality : OrderbookQualityResult)
    (depthN : ℤ) (exchangeEventTs : Option ℤ) : Json :=
  .obj [("schema_version", .str phase41SchemaVersion),
    ("symbol", .str snapshot.symbol),
    ("source", .str "binance_ws"),
    ("generation_id", .int snapshot.generationId),
    ("local_recv_monotonic_ns", .int snapshot.localRecvMonotonicNs),
    ("local_recv_wall_ts", .str snapshot.localRecvWallTs),
    ("exchange_event_ts", .ofInt? exchangeEventTs),
    ("state_version", .int snapshot.stateVersion),
    ("snapshot_version", .int snapshot.snapshotVersion),
    ("last_update_id", .ofInt? snapshot.lastUpdateId),
    ("depth_n", .int depthN),
    ("bids", levelsToJson snapshot.bidsTopN),
    ("asks", levelsToJson snapshot.asksTopN),
    ("best_bid", decimalToStr snapshot.bestBid),
    ("best_ask", decimalToStr snapshot.bestAsk),
    ("spread", decimalToStr snapshot.spread),
    ("mid", decimalToStr snapshot.mid),
    ("bid_count", .int snapshot.bidCount),
    ("ask_count", .int snapshot.askCount),
    ("book_age_ms", .ofFloat? quality.bookAgeMs),
    ("quality", .obj [("is_valid", .bool quality.isValid),
      ("errors", errorsToJson quality.errors),
      ("warnings", errorsToJson quality.warnings)]),
    ("lifecycle", quality.lifecycleFlags.toJson)]

/-! ### The schema check -/

/-- The violation of a decimal that cannot be read or is not finite. Level cells have
names of their own. -/
def decimalViolation (field : String) (finite : Bool) : String :=
  if finite then
    if field = "price" then "invalid_price_level"
    else if field = "size" then "invalid_size_level"
    else field ++ "_invalid"
  else
    if field = "price" then "non_finite_price"
    else if field = "size" then "non_finite_size"
    else field ++ "_non_finite"

/-- Read a decimal of a row: its value, or the violation that it has none. A `null` has
neither. -/
def sampleDecimal (value : Json) (field : String) : Option ℚ × List String :=
  match value with
  | .null => (none, [])
  | value =>
      match Decimal.ofText value.text with
      | none => (none, [decimalViolation field true])
      | some (.finite q) => (some q, [])
      | some _ => (none, [decimalViolation field false])

/-- Check one level of a row: its price when both cells were read, and its violations. -/
def validateSampleLevel (side : String) (row : Json) : Option ℚ × List String :=
  match row with
  | .arr (priceCell :: sizeCell :: _) =>
      let (price, priceViolations) := sampleDecimal priceCell "price"
      let (size, sizeViolations) := sampleDecimal sizeCell "size"
      match price, size with
      | some p, some s =>
          (some p, priceViolations ++ sizeViolations ++
            (if p ≤ 0 then ["negative_price"] else []) ++
            (if s < 0 then ["negative_size"] else []) ++
            if s = 0 then ["zero_size_level"] else [])
      | _, _ => (none, priceViolations ++ sizeViolations)
  | _ => (none, [side ++ "_level_malformed"])

/-- Check the levels of a row: the prices read, and the violations. -/
def validateSampleLevels (side : String) (levels : List Json) : List ℚ × List String :=
  (levels.filterMap fun row => (validateSampleLevel side row).1,
    levels.flatMap fun row => (validateSampleLevel side row).2)

/-- Check a side of a row, which must be a list that is not empty. -/
def validateSampleSide (side : String) (levels : Json) : List ℚ × List String :=
  match levels with
  | .arr (row :: rows) => validateSampleLevels side (row :: rows)
  | _ => ([], [side ++ "s_empty"])

/-- The fields every row must have. -/
def sampleRequiredFields : List String :=
  ["schema_version", "symbol", "source", "state_version", "snapshot_version",
    "last_update_id", "local_recv_monotonic_ns", "best_bid", "best_ask", "book_age_ms",
    "quality", "lifecycle"]

/-- The violation of a required field. -/
def requiredFieldViolations (sample : Json) (field : String) : List String :=
  match sample.get? field with
  | none => [field ++ "_missing"]
  | some .null => [field ++ "_null"]
  | some _ => []

/-- The violation of a flag that must be `true`. -/
def flagViolations (lifecycle : Json) (flag violation : String) : List String :=
  match lifecycle.get flag with
  | .bool true => []
  | _ => [violation]

theorem flagViolations_eq_nil {lifecycle : Json} {flag : String}
    (h : lifecycle.get flag = .bool true) (violation : String) :
    flagViolations lifecycle flag violation = [] := by
  rw [flagViolations, h]

/-- The violations of the schema, sorted and without repetition. -/
def validateCleanSampleSchema (sample : Json) : List String :=
  let generation :=
    match sample.get? "generation_id" with
    | none => ["generation_id_missing"]
    | some .null => ["generation_id_null"]
    | some (.int _) => []
    | some _ => ["generation_id_not_int"]
  let wallTimestamp :=
    ((sample.get "local_recv_wall_ts").orElse (sample.get "local_recv_wall_iso")).orElse
      (sample.get "local_recv_wall_ts_ns")
  let (bidPrices, bidViolations) := validateSampleSide "bid" (sample.get "bids")
  let (askPrices, askViolations) := validateSampleSide "ask" (sample.get "asks")
  let (bestBid, bestBidViolations) := sampleDecimal (sample.get "best_bid") "best_bid"
  let (bestAsk, bestAskViolations) := sampleDecimal (sample.get "best_ask") "best_ask"
  let (bookAge, bookAgeViolations) := sampleDecimal (sample.get "book_age_ms") "book_age_ms"
  sortedSet <|
    sampleRequiredFields.flatMap (requiredFieldViolations sample) ++ generation ++
      (if wallTimestamp.isNull then ["wall_timestamp_missing"] else []) ++
      bidViolations ++ askViolations ++
      (if bidPrices ≠ bidPrices.insertionSort (· ≥ ·) then ["bids_unsorted"] else []) ++
      (if askPrices ≠ askPrices.insertionSort (· ≤ ·) then ["asks_unsorted"] else []) ++
      bestBidViolations ++ bestAskViolations ++
      (match bestBid, bestAsk with
        | some b, some a => if b ≥ a then ["crossed_book"] else []
        | _, _ => []) ++
      bookAgeViolations ++
      (match bookAge with
        | some age => if age < 0 then ["book_age_ms_negative"] else []
        | none => []) ++
      (match sample.get "quality" with
        | .obj fields =>
            if ((Json.obj fields).get "errors").truthy then ["quality_errors_present"] else []
        | _ => ["quality_missing"]) ++
      match sample.get "lifecycle" with
      | .obj fields =>
          flagViolations (.obj fields) "snapshot_ready" "snapshot_not_ready" ++
            flagViolations (.obj fields) "ready_to_emit" "not_ready_to_emit" ++
            flagViolations (.obj fields) "sequence_continuous" "sequence_not_continuous"
      | _ => ["lifecycle_missing"]

/-! ### Rows that pass -/

/-- Levels in strict order by a relation on prices, each a stored level. -/
structure OrderedLevels (r : ℚ → ℚ → Prop) (levels : List (ℚ × ℚ)) : Prop where
  nonempty : levels ≠ []
  stored : ∀ e ∈ levels, StoredLevel e.1 e.2
  ordered : levels.Pairwise fun a b => r a.1 b.1

/-- What a snapshot with its quality result must satisfy for its row to pass. -/
structure SampleReady (snapshot : OrderbookSnapshot) (quality : OrderbookQualityResult) :
    Prop where
  lastUpdateId : ∃ id, snapshot.lastUpdateId = some id
  wallTs : snapshot.localRecvWallTs.isEmpty = false
  bids : OrderedLevels (· > ·) snapshot.bidsTopN
  asks : OrderedLevels (· < ·) snapshot.asksTopN
  bestBid : snapshot.bestBid = snapshot.bidsTopN.head?.map Prod.fst
  bestAsk : snapshot.bestAsk = snapshot.asksTopN.head?.map Prod.fst
  notCrossed : ∀ b ∈ snapshot.bestBid, ∀ a ∈ snapshot.bestAsk, b < a
  bookAge : ∃ age, quality.bookAgeMs = some age ∧ 0 ≤ age ∧ IsDecimal age
  noErrors : quality.errors = []
  isValid : quality.isValid = true
  snapshotReady : quality.lifecycleFlags.snapshotReady = true
  readyToEmit : quality.lifecycleFlags.readyToEmit = true
  sequenceContinuous : quality.lifecycleFlags.sequenceContinuous = true

/-- A printed decimal reads back as its value. -/
theorem sampleDecimal_formatF {q : ℚ} (h : IsDecimal q) (field : String) :
    sampleDecimal (.str (Decimal.formatF q)) field = (some q, []) := by
  simp [sampleDecimal, Json.text, Decimal.ofText_formatF h]

/-- So does a float that is a decimal fraction. -/
theorem sampleDecimal_float {q : ℚ} (h : IsDecimal q) (field : String) :
    sampleDecimal (.float q) field = (some q, []) := by
  simp [sampleDecimal, Json.text, Json.repr, Decimal.ofText_formatF h]

/-- A printed stored level reads back as its price, without violations. -/
theorem validateSampleLevel_levelToJson {e : ℚ × ℚ} (h : StoredLevel e.1 e.2)
    (side : String) : validateSampleLevel side (levelToJson e) = (some e.1, []) := by
  simp [validateSampleLevel, levelToJson, sampleDecimal_formatF h.price_decimal,
    sampleDecimal_formatF h.size_decimal, not_le.mpr h.price_pos, not_lt.mpr h.size_pos.le,
    h.size_pos.ne']

/-- The printed levels of a side read back as its prices, without violations. -/
theorem validateSampleSide_levelsToJson {r : ℚ → ℚ → Prop} {levels : List (ℚ × ℚ)}
    (h : OrderedLevels r levels) (side : String) :
    validateSampleSide side (levelsToJson levels) = (levels.map Prod.fst, []) := by
  have key : ∀ es : List (ℚ × ℚ), (∀ e ∈ es, StoredLevel e.1 e.2) →
      validateSampleLevels side (es.map levelToJson) = (es.map Prod.fst, []) := by
    intro es hes
    induction es with
    | nil => rfl
    | cons e es ih =>
        have hlevel := validateSampleLevel_levelToJson (hes e List.mem_cons_self) side
        have ih := ih fun e' he' => hes e' (List.mem_cons_of_mem e he')
        simp only [validateSampleLevels, Prod.mk.injEq] at ih
        simp only [validateSampleLevels, List.map_cons, List.filterMap_cons,
          List.flatMap_cons, hlevel, ih.1, ih.2, List.append_nil]
  obtain ⟨e, es, rfl⟩ := List.exists_cons_of_ne_nil h.nonempty
  exact key (e :: es) h.stored

/-- Prices in strict order are what sorting by the weak order makes of them. -/
theorem eq_insertionSort_of_pairwise {r : ℚ → ℚ → Prop} [DecidableRel r] [Std.Antisymm r]
    [Std.Total r] [IsTrans ℚ r] {prices : List ℚ} (h : prices.Pairwise r) :
    prices = prices.insertionSort r :=
  ((List.perm_insertionSort r prices).eq_of_pairwise' (List.pairwise_insertionSort r prices)
    h).symm

/-- The best price of ordered levels is a decimal fraction. -/
theorem OrderedLevels.head {r : ℚ → ℚ → Prop} {levels : List (ℚ × ℚ)}
    (h : OrderedLevels r levels) :
    ∃ e : ℚ × ℚ, levels.head?.map Prod.fst = some e.1 ∧ StoredLevel e.1 e.2 := by
  obtain ⟨e, es, rfl⟩ := List.exists_cons_of_ne_nil h.nonempty
  exact ⟨e, rfl, h.stored e List.mem_cons_self⟩

/-- **The row of a ready snapshot passes the schema check.** -/
theorem SampleReady.validateCleanSampleSchema_eq_nil {snapshot : OrderbookSnapshot}
    {quality : OrderbookQualityResult} (h : SampleReady snapshot quality) (depthN : ℤ)
    (exchangeEventTs : Option ℤ) :
    validateCleanSampleSchema (cleanSampleFromSnapshot snapshot quality depthN
      exchangeEventTs) = [] := by
  obtain ⟨id, hid⟩ := h.lastUpdateId
  obtain ⟨age, hage, hagePos, hageDec⟩ := h.bookAge
  obtain ⟨bid, hbid, hbidStored⟩ := h.bids.head
  obtain ⟨ask, hask, haskStored⟩ := h.asks.head
  have hbest : snapshot.bestBid = some bid.1 := h.bestBid.trans hbid
  have hbestAsk : snapshot.bestAsk = some ask.1 := h.bestAsk.trans hask
  have hcross : ¬ bid.1 ≥ ask.1 := not_le.mpr (h.notCrossed _ hbest _ hbestAsk)
  have hbids : snapshot.bidsTopN.map Prod.fst =
      (snapshot.bidsTopN.map Prod.fst).insertionSort (· ≥ ·) :=
    eq_insertionSort_of_pairwise
      (List.pairwise_map.mpr (h.bids.ordered.imp fun hlt => le_of_lt hlt))
  have hasks : snapshot.asksTopN.map Prod.fst =
      (snapshot.asksTopN.map Prod.fst).insertionSort (· ≤ ·) :=
    eq_insertionSort_of_pairwise
      (List.pairwise_map.mpr (h.asks.ordered.imp fun hlt => le_of_lt hlt))
  have hwall : snapshot.localRecvWallTs ≠ "" := by simpa using h.wallTs
  simp [validateCleanSampleSchema, cleanSampleFromSnapshot, sampleRequiredFields,
    requiredFieldViolations, hid, hage, hbest, hbestAsk, Json.ofInt?, Json.ofFloat?,
    decimalToStr, sampleDecimal_formatF hbidStored.price_decimal,
    sampleDecimal_formatF haskStored.price_decimal, sampleDecimal_float hageDec,
    validateSampleSide_levelsToJson h.bids, validateSampleSide_levelsToJson h.asks,
    hcross, not_lt.mpr hagePos, ← hbids, ← hasks, errorsToJson, h.noErrors, Json.truthy,
    Json.orElse, Json.isNull, hwall, LifecycleFlags.toJson, flagViolations, h.snapshotReady,
    h.readyToEmit, h.sequenceContinuous]

end SomethingTrade
