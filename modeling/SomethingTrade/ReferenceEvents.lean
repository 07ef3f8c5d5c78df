import SomethingTrade.LabeledRows

/-!
# Reference Events

The events that tell where the price went after a sample: the quotes and trades of three feeds,
and the clean samples themselves, each made a depth event. An event has the time it was received
and, for most feeds, the time the exchange gave it.

## Representation

* A dictionary with one entry for each source is a function of the source.
* The parser of ISO times is a parameter: what it makes of a text is the Unix time in seconds,
  in UTC when the text names no zone.

## Main results

* `validate_depthReferenceEvent`: the depth event of a clean sample passes the schema check.
* `TimedRows.sortedByReceiveTime`: sorting rows by their receive times leaves rows in order as
  they are.
-/

namespace SomethingTrade

/-! ### Sources -/

/-- The sources of reference events. -/
inductive ReferenceSource
  | depthMid
  | bookTickerMid
  | tradePrice
  | aggTradePrice
  deriving DecidableEq

namespace ReferenceSource

/-- The name of a source. -/
def name : ReferenceSource → String
  | depthMid => "depth_mid"
  | bookTickerMid => "bookTicker_mid"
  | tradePrice => "trade_price"
  | aggTradePrice => "aggTrade_price"

/-- The field with the number of an event. -/
def eventIdField : ReferenceSource → String
  | depthMid => "last_update_id"
  | bookTickerMid => "update_id"
  | tradePrice => "trade_id"
  | aggTradePrice => "aggregate_trade_id"

/-- The field with the price of an event. -/
def priceField : ReferenceSource → String
  | depthMid | bookTickerMid => "mid_price"
  | tradePrice | aggTradePrice => "price"

/-- All sources, in the order in which the loops visit them. -/
def all : List ReferenceSource := [depthMid, bookTickerMid, tradePrice, aggTradePrice]

end ReferenceSource

/-- A dictionary with one entry for each source. -/
abbrev BySource (α : Type) := ReferenceSource → α

/-- The loop over the sources that fills such a dictionary. -/
def BySource.build {α : Type} (entry : ReferenceSource → Except String α) :
    Except String (BySource α) := do
  let depthMid ← entry .depthMid
  let bookTickerMid ← entry .bookTickerMid
  let tradePrice ← entry .tradePrice
  let aggTradePrice ← entry .aggTradePrice
  return fun
    | .depthMid => depthMid
    | .bookTickerMid => bookTickerMid
    | .tradePrice => tradePrice
    | .aggTradePrice => aggTradePrice

theorem BySource.build_eq_ok {α : Type} {entry : ReferenceSource → Except String α}
    {entries : BySource α} (h : ∀ source, entry source = .ok (entries source)) :
    BySource.build entry = .ok entries := by
  rw [BySource.build, h, h, h, h]
  refine congrArg Except.ok (funext fun source => ?_)
  cases source <;> rfl

/-- The entries of a dictionary are those that the loop made. -/
theorem BySource.eq_ok_of_build {α : Type} {entry : ReferenceSource → Except String α}
    {entries : BySource α} (h : BySource.build entry = .ok entries) (source : ReferenceSource) :
    entry source = .ok (entries source) := by
  rw [BySource.build] at h
  rcases hdepth : entry .depthMid with e | depth
  · simp [hdepth, bind, Except.bind] at h
  rcases hbook : entry .bookTickerMid with e | book
  · simp [hdepth, hbook, bind, Except.bind] at h
  rcases htrade : entry .tradePrice with e | trade
  · simp [hdepth, hbook, htrade, bind, Except.bind] at h
  rcases hagg : entry .aggTradePrice with e | agg
  · simp [hdepth, hbook, htrade, hagg, bind, Except.bind] at h
  simp only [hdepth, hbook, htrade, hagg, bind, Except.bind, pure, Except.pure,
    Except.ok.injEq] at h
  subst h
  cases source <;> assumption

/-! ### Times -/

/-- A time in milliseconds, from milliseconds or, by its size, from seconds or nanoseconds. -/
def epochMs (value : Json) : Option ℚ :=
  value.toFinite?.map fun number =>
    if |number| ≥ 10 ^ 15 then number / 10 ^ 6
    else if |number| ≥ 10 ^ 12 then number
    else if |number| ≥ 10 ^ 9 then number * 1000
    else number

/-- The time the exchange gave a sample. -/
def featureExchangeTsMs (sample : Json) : Option ℚ :=
  epochMs (sample.getD "exchange_ts" (sample.get "exchange_event_ts"))

/-- The time the exchange gave an event, and the kind of field it is from. -/
def sourceExchangeTsMs (row : Json) (source : ReferenceSource) (allowEventTimeFallback : Bool) :
    Option (String × ℚ) :=
  let eventTime := (featureExchangeTsMs row).map fun timestamp => ("E", timestamp)
  let tradeTime := (epochMs (row.get "trade_time")).map fun timestamp => ("T", timestamp)
  match source with
  | .depthMid => eventTime
  | .tradePrice | .aggTradePrice =>
      tradeTime.or (if allowEventTimeFallback then eventTime else none)
  | .bookTickerMid => tradeTime.or eventTime

section WallTimes

variable (fromisoformat : String → Option ℚ)

/-- A wall time in milliseconds. -/
def wallTsMs : Json → Option ℚ
  | .int n => epochMs (.int n)
  | .float q => epochMs (.float q)
  | .str s =>
      let text := Decimal.strip s.toList
      if text = [] then none
      else
        let zoned := if text.getLast? = some 'Z' then text.dropLast ++ "+00:00".toList else text
        (fromisoformat (String.ofList zoned)).map fun seconds => seconds * 1000
  | _ => none

/-- How long after the time of the exchange something was received. -/
def receiveLagMs (localRecvWallTs : Json) (exchangeTsMs : Option ℚ) : Option ℚ :=
  (wallTsMs fromisoformat localRecvWallTs).bind fun wallMs =>
    exchangeTsMs.map fun timestamp => wallMs - timestamp

end WallTimes

/-! ### Prices -/

/-- The price of an event. -/
def referencePrice (row : Json) (source : ReferenceSource) : Option ℚ :=
  (row.get source.priceField).toFinite?

/-- The number of an event. -/
def referenceEventId (row : Json) : ReferenceSource → Json
  | .depthMid => row.getD "event_id" (row.get "last_update_id")
  | source => row.get source.eventIdField

/-- The mid of the best prices of a sample, when they are in order. -/
def bestMidPrice (sample : Json) : Option ℚ :=
  match (sample.get "best_bid").toFinite?, (sample.get "best_ask").toFinite? with
  | some bid, some ask =>
      if bid ≤ 0 ∨ ask ≤ 0 ∨ bid ≥ ask then none else some ((bid + ask) / 2)
  | _, _ => none

/-- The spread between the best prices of a sample, for its mid price. -/
def bestSpreadBps (sample : Json) (mid : Option ℚ) : Option ℚ :=
  match (sample.get "best_bid").toFinite?, (sample.get "best_ask").toFinite?, mid with
  | some bid, some ask, some mid => if mid ≤ 0 then none else some ((ask - bid) / mid * 10000)
  | _, _, _ => none

/-- Whether a value is a number or a text. -/
def isNumberOrText : Json → Bool
  | .bool _ | .int _ | .float _ | .str _ => true
  | _ => false

namespace ReferenceFeed

/-- The mid price of a sample, as the reference benchmark reads it. -/
def sampleMidPrice (sample : Json) : Option ℚ :=
  let value := if isNumberOrText (sample.get "mid_price") then
    (sample.get "mid_price").toFinite? else none
  (value.filter fun value => value > 0).or (bestMidPrice sample)

/-- The spread of a sample, as the reference benchmark reads it. -/
def sampleSpreadBps (sample : Json) : Option ℚ :=
  let value := if isNumberOrText (sample.get "spread_bps") then
    (sample.get "spread_bps").toFinite? else none
  (value.filter fun value => value ≥ 0).or (bestSpreadBps sample (sampleMidPrice sample))

end ReferenceFeed

namespace TimeProtocol

/-- The mid price of a sample, as the time protocols read it. -/
def sampleMidPrice (sample : Json) : Option ℚ :=
  ((sample.get "mid_price").toFinite?.filter fun value => value > 0).or (bestMidPrice sample)

/-- The spread of a sample, as the time protocols read it. -/
def sampleSpreadBps (sample : Json) : Option ℚ :=
  ((sample.get "spread_bps").toFinite?.filter fun value => value ≥ 0).or
    (bestSpreadBps sample (sampleMidPrice sample))

end TimeProtocol

/-- A value that is neither a number nor a text has no float. -/
theorem toFinite?_of_isNumberOrText (value : Json) :
    (if isNumberOrText value then value.toFinite? else none) = value.toFinite? := by
  cases value <;> rfl

/-- Both readings of the mid price agree. -/
theorem sampleMidPrice_eq (sample : Json) :
    ReferenceFeed.sampleMidPrice sample = TimeProtocol.sampleMidPrice sample := by
  rw [ReferenceFeed.sampleMidPrice, toFinite?_of_isNumberOrText, TimeProtocol.sampleMidPrice]

/-- Both readings of the spread agree. -/
theorem sampleSpreadBps_eq (sample : Json) :
    ReferenceFeed.sampleSpreadBps sample = TimeProtocol.sampleSpreadBps sample := by
  rw [ReferenceFeed.sampleSpreadBps, toFinite?_of_isNumberOrText, TimeProtocol.sampleSpreadBps,
    sampleMidPrice_eq]

/-! ### The schema of events -/

/-- The errors of the price of an event. -/
def referencePriceErrors (row : Json) (source : ReferenceSource) : List String :=
  match referencePrice row source with
  | none => ["INVALID_REFERENCE_PRICE"]
  | some price => if price ≤ 0 then ["NON_POSITIVE_REFERENCE_PRICE"] else []

/-- The errors of the best prices of a quote. -/
def bookTickerErrors (row : Json) : List String :=
  match (row.get "best_bid").asNumber?, (row.get "best_ask").asNumber? with
  | some bid, some ask =>
      if bid ≤ 0 ∨ ask ≤ 0 ∨ bid ≥ ask then ["INVALID_BOOKTICKER_BID_ASK"] else []
  | _, _ => ["INVALID_BOOKTICKER_BID_ASK"]

/-- The errors the quality object of an event lists. -/
def referenceQualityErrors (row : Json) : Except String (List String) :=
  let quality := (row.get "quality").asDict
  if quality.truthy && !(quality.get "valid").isTrue then
    match quality.getD "errors" (.arr []) with
    | .arr reasons => .ok (reasons.map Json.text)
    | .str reasons => .ok (reasons.toList.map Char.toString)
    | .obj reasons => .ok (reasons.map Prod.fst)
    | _ => .error "TypeError"
  else .ok (if (row.get? "quality").isNone then ["MISSING_QUALITY"] else [])

/-- The errors of a reference event, sorted and without repetition. -/
def validateReferenceEventSchema (row : Json) (source : ReferenceSource) :
    Except String (List String) := do
  let qualityErrors ← referenceQualityErrors row
  return sortedSet <|
    (["schema_version", "symbol", "source", "local_recv_monotonic_ns",
      "local_recv_wall_ts"].flatMap fun field =>
        if (row.get field).isNull then ["MISSING_" ++ upper field] else []) ++
    (if isPlainInt (row.get "local_recv_monotonic_ns") then []
      else ["MISSING_LOCAL_RECV_MONOTONIC_NS"]) ++
    (if (row.get "local_recv_wall_ts").truthy then [] else ["MISSING_LOCAL_RECV_WALL_TS"]) ++
    (if (row.get source.eventIdField).isNull && (row.get "event_id").isNull then
      ["MISSING_" ++ upper source.eventIdField] else []) ++
    referencePriceErrors row source ++
    (if source = .bookTickerMid then bookTickerErrors row else []) ++
    qualityErrors

/-! ### Depth events -/

/-- The errors a depth event lists about its sample. -/
def depthEventErrors (sample : Json) (mid : Option ℚ) : List String :=
  (if mid.all fun mid => mid ≤ 0 then ["INVALID_REFERENCE_PRICE"] else []) ++
  (if (sample.get "local_recv_monotonic_ns").asInt?.isNone then
    ["MISSING_LOCAL_RECV_MONOTONIC_NS"] else []) ++
  if (sample.get "local_recv_wall_ts").truthy then [] else ["MISSING_LOCAL_RECV_WALL_TS"]

/-- The depth event of a clean sample. -/
def depthReferenceEvent (sample : Json) (referenceIndex : ℕ) : Json :=
  let mid := ReferenceFeed.sampleMidPrice sample
  let errors := depthEventErrors sample mid
  .obj [("schema_version", .str "depth_reference_v1"),
    ("symbol", sample.get "symbol"),
    ("source", .str "orderbook_clean_samples"),
    ("reference_index", .int referenceIndex),
    ("event_id", sample.get "last_update_id"),
    ("last_update_id", sample.get "last_update_id"),
    ("local_recv_monotonic_ns", sample.get "local_recv_monotonic_ns"),
    ("local_recv_wall_ts", sample.get "local_recv_wall_ts"),
    ("exchange_event_ts", sample.get "exchange_event_ts"),
    ("price", .ofFloat? mid),
    ("mid_price", .ofFloat? mid),
    ("spread_bps", .ofFloat? (ReferenceFeed.sampleSpreadBps sample)),
    ("quality", .obj [("valid", .bool errors.isEmpty),
      ("errors", .arr ((sortedSet errors).map .str))])]

/-- The depth events of clean samples that pass the schema check. -/
def validateDepthReferenceEvents (cleanSamples : List Json) : Except String (List Json) := do
  let checked ← cleanSamples.zipIdx.mapM fun (sample, index) => do
    let event := depthReferenceEvent sample index
    return (event, ← validateReferenceEventSchema event .depthMid)
  return (checked.filter fun e => e.2 = []).map Prod.fst

/-! ### Clean samples as events -/

theorem asFloat_eq_ok {value : Json} {q : ℚ} (h : asFloat value = .ok q) :
    value.toFinite? = some q := by
  rw [asFloat] at h
  rw [Json.toFinite?]
  cases hv : value.toFloat? with
  | none => simp [hv] at h
  | some number =>
      cases number with
      | finite n => simpa [hv] using h
      | _ => simp [hv] at h

/-- A clean sample has best prices in order, so it has a mid price. -/
theorem exists_sampleMidPrice {sample : Json} (h : cleanSampleErrors sample = []) :
    ∃ mid, ReferenceFeed.sampleMidPrice sample = some mid ∧ 0 < mid := by
  have hbest : ∃ mid, bestMidPrice sample = some mid ∧ 0 < mid := by
    simp only [cleanSampleErrors, sortedSet_eq_nil, List.append_eq_nil_iff] at h
    obtain ⟨⟨⟨⟨-, hprices⟩, -⟩, -⟩, -⟩ := h
    rw [bestPriceErrors] at hprices
    cases hbid : asFloat (sample.get "best_bid") with
    | error e => simp [hbid, bind, Except.bind] at hprices
    | ok bid =>
        cases hask : asFloat (sample.get "best_ask") with
        | error e => simp [hbid, hask, bind, Except.bind] at hprices
        | ok ask =>
            simp only [hbid, hask, bind, Except.bind, pure, Except.pure, List.append_eq_nil_iff,
              ite_eq_right_iff, imp_false, List.cons_ne_nil] at hprices
            obtain ⟨hpos, hcross⟩ := hprices
            have hbad : ¬ (bid ≤ 0 ∨ ask ≤ 0 ∨ bid ≥ ask) := by
              rintro (hb | ha | hc)
              · exact hpos (.inl hb)
              · exact hpos (.inr ha)
              · exact hcross hc
            simp only [not_or, not_le] at hpos
            refine ⟨(bid + ask) / 2, ?_, by linarith⟩
            rw [bestMidPrice, asFloat_eq_ok hbid, asFloat_eq_ok hask]
            exact if_neg hbad
  obtain ⟨mid, hmid, hpos⟩ := hbest
  rw [sampleMidPrice_eq, TimeProtocol.sampleMidPrice]
  cases hvalue : (sample.get "mid_price").toFinite?.filter fun value => value > 0 with
  | none => exact ⟨mid, hmid, hpos⟩
  | some value =>
      obtain ⟨-, hvalue⟩ := Option.filter_eq_some_iff.mp hvalue
      exact ⟨value, rfl, of_decide_eq_true hvalue⟩

/-- What the schema check asks of a depth event. -/
theorem validate_depthEvent {row : Json} {mid : ℚ} (hpos : 0 < mid)
    (hrequired : ∀ field ∈ ["schema_version", "symbol", "source", "local_recv_monotonic_ns",
      "local_recv_wall_ts"], (row.get field).isNull = false)
    (htime : isPlainInt (row.get "local_recv_monotonic_ns") = true)
    (hwall : (row.get "local_recv_wall_ts").truthy = true)
    (hid : (row.get "last_update_id").isNull = false)
    (hprice : row.get "mid_price" = .float mid)
    (hquality : row.get? "quality" = some (.obj [("valid", .bool true), ("errors", .arr [])])) :
    validateReferenceEventSchema row .depthMid = .ok [] := by
  have hqualityErrors : referenceQualityErrors row = .ok [] := by
    simp [referenceQualityErrors, Json.get, hquality, Json.asDict, Json.truthy, Json.isTrue]
  have hpriceErrors : referencePriceErrors row .depthMid = [] := by
    simp [referencePriceErrors, referencePrice, ReferenceSource.priceField, hprice,
      Json.toFinite?, Json.toFloat?, hpos]
  have hrequired : (["schema_version", "symbol", "source", "local_recv_monotonic_ns",
      "local_recv_wall_ts"].flatMap fun field =>
        if (row.get field).isNull then ["MISSING_" ++ upper field] else []) = [] :=
    List.flatMap_eq_nil_iff.mpr fun field hfield => by rw [hrequired field hfield]; rfl
  rw [validateReferenceEventSchema, hqualityErrors, hrequired, hpriceErrors, htime, hwall,
    ReferenceSource.eventIdField, hid]
  rfl

/-- **The depth event of a clean sample passes the schema check.** -/
theorem validate_depthReferenceEvent {sample : Json} (h : cleanSampleErrors sample = [])
    (index : ℕ) :
    validateReferenceEventSchema (depthReferenceEvent sample index) .depthMid = .ok [] := by
  obtain ⟨mid, hmid, hpos⟩ := exists_sampleMidPrice h
  obtain ⟨t, -, htime⟩ := get_time_of_cleanSampleErrors h
  simp only [cleanSampleErrors, sortedSet_eq_nil, List.append_eq_nil_iff] at h
  obtain ⟨⟨⟨⟨⟨⟨⟨⟨hrequired, -⟩, -⟩, hwall⟩, hid⟩, -⟩, -⟩, -⟩, -⟩ := h
  have hsymbol : (sample.get "symbol").isNull = false := by
    have hfield := List.flatMap_eq_nil_iff.mp hrequired "symbol" (by simp [inputRequiredFields])
    cases hnull : (sample.get "symbol").isNull with
    | false => rfl
    | true =>
        rw [hnull] at hfield
        exact absurd hfield (List.cons_ne_nil _ _)
  have hwall : (sample.get "local_recv_wall_ts").truthy = true := by simpa using hwall
  have hid : (sample.get "last_update_id").isNull = false := by simpa using hid
  have hnull : (sample.get "local_recv_wall_ts").isNull = false := by
    cases hv : sample.get "local_recv_wall_ts" with
    | null => simp [hv, Json.truthy] at hwall
    | _ => rfl
  have herrors : depthEventErrors sample (some mid) = [] := by
    simp [depthEventErrors, htime, hwall, Json.asInt?, hpos]
  refine validate_depthEvent hpos ?_ ?_ ?_ ?_ ?_ ?_
  · have hint : (Json.int t).isNull = false := rfl
    have hstr (text : String) : (Json.str text).isNull = false := rfl
    simp [depthReferenceEvent, hsymbol, htime, hnull, hint, hstr]
  · simp [depthReferenceEvent, isPlainInt, htime]
  · simp [depthReferenceEvent, hwall]
  · simp [depthReferenceEvent, hid]
  · simp [depthReferenceEvent, hmid, Json.ofFloat?]
  · simp [depthReferenceEvent, hmid, herrors, sortedSet_eq_nil.mpr]

/-! ### Rows in the order of their receive times -/

/-- The receive time of a row that has one. -/
def localTs (row : Json) : ℤ := (sampleTime? row).getD 0

/-- Rows sorted by the integers their receive times are read as. -/
def sortedByReceiveTime (rows : List Json) : Except String (List Json) := do
  let keyed ← rows.mapM fun row => do return (← timestampOf row, row)
  return (sortBy Prod.fst keyed).map Prod.snd

/-- Rows with integer receive times that do not decrease. -/
structure TimedRows (rows : List Json) : Prop where
  timed : ∀ row ∈ rows, sampleTime? row = some (localTs row)
  ordered : SortedBy localTs rows

theorem get_of_sampleTime? {row : Json} {t : ℤ} (h : sampleTime? row = some t) :
    row.get "local_recv_monotonic_ns" = .int t := by
  rw [sampleTime?] at h
  cases hget : row.get "local_recv_monotonic_ns" with
  | int n => simpa [hget] using h
  | _ => simp [hget] at h

theorem timestampOf_of_sampleTime? {row : Json} {t : ℤ} (h : sampleTime? row = some t) :
    timestampOf row = .ok t := by
  have hget := get_of_sampleTime? h
  rw [Json.get] at hget
  rw [timestampOf]
  cases hfield : row.get? "local_recv_monotonic_ns" with
  | none => simp [hfield] at hget
  | some value =>
      rw [hfield, Option.getD_some] at hget
      rw [hget]
      rfl

/-- The times a list has are those of its rows. -/
theorem filterMap_sampleTime? {rows : List Json}
    (h : ∀ row ∈ rows, sampleTime? row = some (localTs row)) :
    rows.filterMap sampleTime? = rows.map localTs := by
  rw [List.filterMap_congr h, ← List.filterMap_eq_map]
  rfl

/-- Rows with times in order are timed rows. -/
theorem TimedRows.intro {rows : List Json} (htimed : ∀ row ∈ rows, (sampleTime? row).isSome)
    (hordered : (rows.filterMap sampleTime?).Pairwise (· ≤ ·)) : TimedRows rows := by
  have htimed : ∀ row ∈ rows, sampleTime? row = some (localTs row) := by
    intro row hrow
    obtain ⟨t, ht⟩ := Option.isSome_iff_exists.mp (htimed row hrow)
    rw [localTs, ht, Option.getD_some]
  rw [filterMap_sampleTime? htimed] at hordered
  exact ⟨htimed, List.pairwise_map.mp hordered⟩

/-- An event that passes the schema check has an integer receive time. -/
theorem isSome_sampleTime?_of_valid {row : Json} {source : ReferenceSource}
    (h : validateReferenceEventSchema row source = .ok []) : (sampleTime? row).isSome := by
  rw [validateReferenceEventSchema] at h
  cases hquality : referenceQualityErrors row with
  | error e => simp [hquality, bind, Except.bind] at h
  | ok errors =>
      simp only [hquality, bind, Except.bind, pure, Except.pure, Except.ok.injEq,
        sortedSet_eq_nil, List.append_eq_nil_iff] at h
      have htime := h.1.1.1.1.1.2
      rw [sampleTime?]
      cases hget : row.get "local_recv_monotonic_ns" with
      | int n => rfl
      | _ => simp [hget, isPlainInt] at htime

variable {rows : List Json}

/-- Rows with integer receive times are sorted by them. -/
theorem sortedByReceiveTime_of_timed (h : ∀ row ∈ rows, sampleTime? row = some (localTs row)) :
    sortedByReceiveTime rows = .ok (sortBy localTs rows) := by
  have hkeyed : (rows.mapM fun row => do return (← timestampOf row, row)) =
      (.ok (rows.map fun row => (localTs row, row)) : Except String (List (ℤ × Json))) := by
    rw [mapM_eq_ok_iff, List.map_map]
    refine List.map_congr_left fun row hrow => ?_
    rw [timestampOf_of_sampleTime? (h row hrow)]
    rfl
  rw [sortedByReceiveTime, hkeyed]
  simp only [bind, Except.bind, pure, Except.pure, sortBy_map, List.map_map]
  exact congrArg Except.ok (List.map_id' _)

/-- **Rows in the order of their receive times stay as they are when they are sorted.** -/
theorem TimedRows.sortedByReceiveTime (h : TimedRows rows) :
    sortedByReceiveTime rows = .ok rows := by
  rw [sortedByReceiveTime_of_timed h.timed, sortBy_eq_self h.ordered]

theorem timestamps_of_timed (h : ∀ row ∈ rows, sampleTime? row = some (localTs row)) :
    rows.mapM timestampOf = .ok (rows.map localTs) := by
  rw [mapM_eq_ok_iff, List.map_map]
  exact List.map_congr_left fun row hrow => timestampOf_of_sampleTime? (h row hrow)

theorem TimedRows.timestamps (h : TimedRows rows) :
    rows.mapM timestampOf = .ok (rows.map localTs) :=
  timestamps_of_timed h.timed

/-! ### Depth events of clean samples -/

/-- The depth event of each sample, in their order. -/
def depthEvents (cleanSamples : List Json) : List Json :=
  cleanSamples.zipIdx.map fun e => depthReferenceEvent e.1 e.2

theorem validateDepthReferenceEvents_of_clean {cleanSamples : List Json}
    (h : ∀ sample ∈ cleanSamples, cleanSampleErrors sample = []) :
    validateDepthReferenceEvents cleanSamples = .ok (depthEvents cleanSamples) := by
  have hchecked : (cleanSamples.zipIdx.mapM fun e => do
      let event := depthReferenceEvent e.1 e.2
      return (event, ← validateReferenceEventSchema event .depthMid)) =
        Except.ok (ε := String)
          (cleanSamples.zipIdx.map fun e => (depthReferenceEvent e.1 e.2, [])) := by
    rw [mapM_eq_ok_iff, List.map_map]
    refine List.map_congr_left fun e he => ?_
    dsimp only
    rw [validate_depthReferenceEvent (h e.1 (List.fst_mem_of_mem_zipIdx he))]
    rfl
  have hvalid : ((cleanSamples.zipIdx.map fun e =>
      (depthReferenceEvent e.1 e.2, ([] : List String))).filter fun e => e.2 = []) =
        cleanSamples.zipIdx.map fun e => (depthReferenceEvent e.1 e.2, []) := by
    refine List.filter_eq_self.mpr fun e he => ?_
    obtain ⟨e, -, rfl⟩ := List.mem_map.mp he
    rfl
  rw [validateDepthReferenceEvents, hchecked]
  simp only [bind, Except.bind, pure, Except.pure, hvalid, List.map_map]
  rfl

theorem sampleTime?_depthReferenceEvent (sample : Json) (index : ℕ) :
    sampleTime? (depthReferenceEvent sample index) = sampleTime? sample := by
  have hget : (depthReferenceEvent sample index).get "local_recv_monotonic_ns" =
      sample.get "local_recv_monotonic_ns" := by
    simp [depthReferenceEvent]
  rw [sampleTime?, hget, sampleTime?]

/-- Depth events have the times of their samples. -/
theorem filterMap_sampleTime?_depthEvents (cleanSamples : List Json) :
    (depthEvents cleanSamples).filterMap sampleTime? = cleanSamples.filterMap sampleTime? := by
  have hfst : (fun e : Json × ℕ => sampleTime? (depthReferenceEvent e.1 e.2)) =
      fun e => sampleTime? e.1 :=
    funext fun e => sampleTime?_depthReferenceEvent e.1 e.2
  rw [depthEvents, List.filterMap_map, Function.comp_def, hfst,
    ← Function.comp_def sampleTime? Prod.fst, ← List.filterMap_map, List.zipIdx_map_fst]

/-- The depth events of clean samples in the order of their times are so too. -/
theorem timedRows_depthEvents {cleanSamples : List Json}
    (hclean : ∀ sample ∈ cleanSamples, cleanSampleErrors sample = [])
    (hordered : (cleanSamples.filterMap sampleTime?).Pairwise (· ≤ ·)) :
    TimedRows (depthEvents cleanSamples) := by
  refine .intro ?_ ?_
  · intro row hrow
    obtain ⟨e, he, rfl⟩ := List.mem_map.mp hrow
    obtain ⟨t, htime, -⟩ :=
      get_time_of_cleanSampleErrors (hclean e.1 (List.fst_mem_of_mem_zipIdx he))
    rw [sampleTime?_depthReferenceEvent, htime]
    rfl
  · rw [filterMap_sampleTime?_depthEvents]
    exact hordered

end SomethingTrade
