import SomethingTrade.ProtocolLeakage
import SomethingTrade.TimestampAudit

/-!
# Two Checks of Leakage

The rows of the time protocols are checked twice. One check compares each label with its target
on its own time basis. The audit of the files looks at all labels of a row and compares receive
times and times of the exchange of each with those of the row. So the audit also compares the
receive time of an event that was chosen by the time of the exchange, and the message of such an
event may have arrived before that of the sample. The audit guesses units too: the target of a
label without an event may lie past the bound for milliseconds.

## Main results

* `mem_find100msLabelDicts_toJson`: which labels the audit finds in a row.
* `HasTimes.receiveTime_iff`, `HasTimes.exchangeTime_iff`: when it calls one of them no leak.
-/

namespace SomethingTrade

/-! ### Labels inside values -/

/-- An object is a label itself, or there are labels in its fields. -/
theorem mem_walkLabels_obj {label : Json} {key : String} {fields : List (String × Json)} :
    label ∈ walkLabels key (.obj fields) ↔
      is100msLabel key (.obj fields) = true ∧ label = .obj fields ∨ label ∈ walkFields fields := by
  rw [walkLabels, List.mem_append]
  by_cases his : is100msLabel key (.obj fields) = true <;> simp [his]

section Scalars

variable (key : String)

@[simp] theorem walkLabels_null : walkLabels key .null = [] := by simp [walkLabels]

@[simp] theorem walkLabels_bool (b : Bool) : walkLabels key (.bool b) = [] := by simp [walkLabels]

@[simp] theorem walkLabels_int (n : ℤ) : walkLabels key (.int n) = [] := by simp [walkLabels]

@[simp] theorem walkLabels_float (q : ℚ) : walkLabels key (.float q) = [] := by simp [walkLabels]

@[simp] theorem walkLabels_str (s : String) : walkLabels key (.str s) = [] := by simp [walkLabels]

@[simp] theorem walkLabels_ofInt? (n : Option ℤ) : walkLabels key (Json.ofInt? n) = [] := by
  cases n <;> simp [Json.ofInt?]

@[simp] theorem walkLabels_ofFloat? (q : Option ℚ) : walkLabels key (Json.ofFloat? q) = [] := by
  cases q <;> simp [Json.ofFloat?]

@[simp] theorem walkLabels_ofText? (s : Option String) : walkLabels key (Json.ofText? s) = [] := by
  cases s <;> simp [Json.ofText?]

@[simp] theorem walkLabels_indexToJson (n : Option ℕ) : walkLabels key (indexToJson n) = [] := by
  simp [indexToJson]

@[simp] theorem walkLabels_flagToJson (b : Option Bool) : walkLabels key (flagToJson b) = [] := by
  cases b <;> simp [flagToJson]

@[simp] theorem walkLabels_maxFutureGapToJson : walkLabels key maxFutureGapToJson = [] := by
  simp [maxFutureGapToJson]

end Scalars

/-! ### The labels of a row -/

/-- The values of a receive time label that may be objects. -/
def ReceiveTimeLabel.copied (label : ReceiveTimeLabel) : List (String × Json) :=
  [("future_reference_event_id", label.futureReferenceEventId)]

/-- The values of an exchange time label that may be objects. -/
def ExchangeTimeLabel.copied (label : ExchangeTimeLabel) : List (String × Json) :=
  [("feature_local_recv_monotonic_ns", label.featureLocalRecvMonotonicNs),
    ("future_reference_local_recv_monotonic_ns", label.futureReferenceLocalRecvMonotonicNs),
    ("future_reference_event_id", label.futureReferenceEventId)]

/-- The values of a row that were copied from its sample or from an event. -/
def TimeProtocolRow.copied (row : TimeProtocolRow) : List (String × Json) :=
  [("symbol", row.symbol), ("source", row.source), ("generation_id", row.generationId),
      ("state_version", row.stateVersion), ("snapshot_version", row.snapshotVersion),
      ("last_update_id", row.lastUpdateId),
      ("local_recv_monotonic_ns", row.localRecvMonotonicNs),
      ("local_recv_wall_ts", row.localRecvWallTs), ("exchange_event_ts", row.exchangeEventTs)] ++
    ReferenceSource.all.flatMap fun source =>
      (row.protocolLabels source).receiveTime.copied ++
        (row.protocolLabels source).exchangeTime.copied

/-- An object with the gap of 100 ms and a validity is a label under any key. -/
theorem is100msLabel_of_get {item : Json} (hgap : item.get "max_future_gap_ms" = .int 100)
    (hvalid : (item.get? "valid").isSome = true) (key : String) : is100msLabel key item = true := by
  have hint : intOrNone (.int 100) = some 100 := by decide
  have hkeys : labelKeys.any (fun key => (item.get? key).isSome) = true :=
    List.any_eq_true.mpr ⟨"valid", by simp [labelKeys], hvalid⟩
  rw [is100msLabel, hgap, hint, hkeys]
  simp

theorem mem_walkLabels_receiveTime {label : Json} (receiveTime : ReceiveTimeLabel) (key : String) :
    label ∈ walkLabels key receiveTime.toJson ↔
      label = receiveTime.toJson ∨ label ∈ walkFields receiveTime.copied := by
  rw [ReceiveTimeLabel.toJson, mem_walkLabels_obj]
  refine or_congr (and_iff_right (is100msLabel_of_get ?_ ?_ key)) ?_
  · simp [maxFutureGapToJson]
  · simp
  · simp [walkFields, ReceiveTimeLabel.copied]

theorem mem_walkLabels_exchangeTime {label : Json} (exchangeTime : ExchangeTimeLabel)
    (key : String) :
    label ∈ walkLabels key exchangeTime.toJson ↔
      label = exchangeTime.toJson ∨ label ∈ walkFields exchangeTime.copied := by
  rw [ExchangeTimeLabel.toJson, mem_walkLabels_obj]
  refine or_congr (and_iff_right (is100msLabel_of_get ?_ ?_ key)) ?_
  · simp [maxFutureGapToJson]
  · simp
  · simp [walkFields, ExchangeTimeLabel.copied]

theorem mem_walkLabels_hybrid {label : Json} (hybrid : HybridLabel) (key : String) :
    label ∈ walkLabels key hybrid.toJson ↔ label = hybrid.toJson := by
  rw [HybridLabel.toJson, mem_walkLabels_obj]
  refine (or_iff_left ?_).trans (and_iff_right (is100msLabel_of_get ?_ ?_ key))
  · simp [walkFields]
  · simp [maxFutureGapToJson]
  · simp

/-- An object without a horizon and a gap, under a key that names none, is no label. -/
theorem is100msLabel_eq_false {item : Json} {key : String} (hhorizon : item.get "horizon_ms" = .null)
    (hgap : item.get "max_future_gap_ms" = .null) (hkey : occursIn "100ms" key = false) :
    is100msLabel key item = false := by
  have hnull : intOrNone .null = none := rfl
  simp [is100msLabel, hhorizon, hgap, hnull, hkey]

theorem walkFields_append (xs ys : List (String × Json)) :
    walkFields (xs ++ ys) = walkFields xs ++ walkFields ys := by
  induction xs with
  | nil => rfl
  | cons e xs ih => simp [walkFields, ih]

/-- A label of one of the protocols of a source. -/
def ProtocolLabels.IsLabel (labels : ProtocolLabels) (label : Json) : Prop :=
  label = labels.receiveTime.toJson ∨ label = labels.exchangeTime.toJson ∨
    ∃ budget, label = (labels.hybrid budget).toJson

/-- The labels in the labels of a source are these, and those in copied values. -/
theorem mem_walkLabels_protocolLabels {label : Json} (labels : ProtocolLabels)
    (source : ReferenceSource) :
    label ∈ walkLabels source.name labels.toJson ↔
      labels.IsLabel label ∨
        label ∈ walkFields (labels.receiveTime.copied ++ labels.exchangeTime.copied) := by
  have hnot : is100msLabel source.name labels.toJson = false := by
    refine is100msLabel_eq_false ?_ ?_ (by cases source <;> decide)
    · simp [ProtocolLabels.toJson, HybridBudget.all, HybridBudget.key, Json.get]
    · simp [ProtocolLabels.toJson, HybridBudget.all, HybridBudget.key, Json.get]
  have hbudgets : (∃ budget, label = (labels.hybrid budget).toJson) ↔
      label = (labels.hybrid .ms25).toJson ∨ label = (labels.hybrid .ms50).toJson ∨
        label = (labels.hybrid .ms100).toJson ∨ label = (labels.hybrid .ms250).toJson := by
    constructor
    · rintro ⟨budget, rfl⟩
      cases budget <;> simp
    · rintro (h | h | h | h) <;> exact ⟨_, h⟩
  rw [ProtocolLabels.toJson] at hnot ⊢
  rw [mem_walkLabels_obj, hnot, ProtocolLabels.IsLabel, hbudgets]
  simp only [List.cons_append, List.nil_append, HybridBudget.all, List.map_cons, List.map_nil,
    walkFields, walkFields_append, List.mem_append, List.not_mem_nil, mem_walkLabels_receiveTime,
    mem_walkLabels_exchangeTime, mem_walkLabels_hybrid, Bool.false_eq_true, false_and, false_or,
    or_false]
  simp only [or_assoc, or_left_comm, or_comm]

/-- The labels in the labels of all sources. -/
theorem mem_walkLabels_sources {label : Json} (labels : BySource ProtocolLabels) :
    label ∈ walkLabels "protocol_labels"
        (.obj (ReferenceSource.all.map fun source => (source.name, (labels source).toJson))) ↔
      (∃ source, (labels source).IsLabel label) ∨
        label ∈ walkFields (ReferenceSource.all.flatMap fun source =>
          (labels source).receiveTime.copied ++ (labels source).exchangeTime.copied) := by
  have hnot : is100msLabel "protocol_labels"
      (.obj (ReferenceSource.all.map fun source => (source.name, (labels source).toJson))) =
        false :=
    is100msLabel_eq_false rfl rfl (by decide)
  have hsources : (∃ source, (labels source).IsLabel label) ↔
      (labels .depthMid).IsLabel label ∨ (labels .bookTickerMid).IsLabel label ∨
        (labels .tradePrice).IsLabel label ∨ (labels .aggTradePrice).IsLabel label := by
    constructor
    · rintro ⟨source, h⟩
      cases source <;> simp [h]
    · rintro (h | h | h | h) <;> exact ⟨_, h⟩
  rw [mem_walkLabels_obj, hnot, hsources]
  simp only [ReferenceSource.all, List.map_cons, List.map_nil, List.flatMap_cons,
    List.flatMap_nil, walkFields, walkFields_append, List.mem_append, List.not_mem_nil,
    mem_walkLabels_protocolLabels, Bool.false_eq_true, false_and, false_or, or_false]
  simp only [or_assoc, or_left_comm]

/-- There is no label in what is written of the quality. -/
theorem walkLabels_quality (currentIndex : ℕ) :
    walkLabels "quality" (protocolQualityToJson currentIndex) = [] := by
  have hquality : is100msLabel "quality" (protocolQualityToJson currentIndex) = false :=
    is100msLabel_eq_false rfl rfl (by decide)
  have hindices : is100msLabel "feature_source_indices" (.obj []) = false :=
    is100msLabel_eq_false rfl rfl (by decide)
  have hpolicy : is100msLabel "max_future_gap_policy_ms"
      (.obj [("horizon_100ms", maxFutureGapToJson)]) = false :=
    is100msLabel_eq_false rfl rfl (by decide)
  have hbudgets : walkItems "hybrid_feature_lag_budgets_ms"
      (HybridBudget.all.map fun budget => .int budget.ms) = [] := by
    simp [HybridBudget.all, walkItems]
  rw [protocolQualityToJson] at hquality ⊢
  simp [walkLabels, walkFields, hbudgets, hquality, hindices, hpolicy]

/-- **The labels in a row** are those of its sources, and those in copied values. -/
theorem mem_find100msLabelDicts_toJson {label : Json} (row : TimeProtocolRow) :
    label ∈ find100msLabelDicts row.toJson ↔
      (∃ source, (row.protocolLabels source).IsLabel label) ∨ label ∈ walkFields row.copied := by
  have hrow : is100msLabel "" row.toJson = false := is100msLabel_eq_false rfl rfl (by decide)
  rw [TimeProtocolRow.toJson] at hrow
  rw [find100msLabelDicts, TimeProtocolRow.toJson, mem_walkLabels_obj, hrow,
    TimeProtocolRow.copied, walkFields_append]
  simp only [walkFields, List.mem_append, mem_walkLabels_sources, walkLabels_quality,
    walkLabels_str, walkLabels_ofFloat?, Bool.false_eq_true, false_and, false_or,
    List.nil_append, List.append_nil]
  simp only [or_assoc, or_left_comm]

/-! ### Times below the bounds -/

/-- A counter that is taken for milliseconds. -/
def IsCounter (n : ℤ) : Prop := 0 ≤ n ∧ n < 10 ^ 14

/-- A time in milliseconds that is taken for one, as is the target of a label at it. -/
def IsEpochMs (t : ℚ) : Prop := 0 < t ∧ t + 100 ≤ 10 ^ 14

theorem numericTimestampToMs_of_le {t : ℚ} (hpos : 0 ≤ t) (hle : t ≤ 10 ^ 14) :
    numericTimestampToMs t = t := by
  have habs : |t| = t := abs_of_nonneg hpos
  have hmicro : ¬ t > 10 ^ 14 := not_lt.mpr hle
  have hnano : ¬ t > 10 ^ 17 := not_lt.mpr (hle.trans (by norm_num))
  rw [numericTimestampToMs, habs, if_neg hnano, if_neg hmicro]

theorem counterMs_of_le {n : ℤ} (hpos : 0 ≤ n) (hle : n ≤ 10 ^ 14) : counterMs n = n :=
  numericTimestampToMs_of_le (by exact_mod_cast hpos) (by exact_mod_cast hle)

theorem counterMs_nonneg {n : ℤ} (h : 0 ≤ n) : 0 ≤ counterMs n := by
  have hunits := (unitsPerMs_pos n).le
  rw [counterMs, numericTimestampToMs_intCast]
  exact div_nonneg (by exact_mod_cast h) (by exact_mod_cast hunits)

/-- A target past the bound looks like an early time. -/
theorem counterMs_target_lt_iff {n : ℤ} (h : IsCounter n) :
    counterMs (n + 10 ^ 8) < counterMs n ↔ 10 ^ 14 < n + 10 ^ 8 := by
  obtain ⟨hpos, hlt⟩ := h
  rw [counterMs_of_le hpos hlt.le]
  constructor
  · intro hfalls
    by_contra hle
    rw [counterMs_of_le (by omega) (not_lt.mp hle)] at hfalls
    have : n + 10 ^ 8 < n := by exact_mod_cast hfalls
    omega
  · intro hpast
    have habs : |n + 10 ^ 8| = n + 10 ^ 8 := abs_of_nonneg (by omega)
    have hunits : unitsPerMs (n + 10 ^ 8) = 1000 := by
      rw [unitsPerMs, habs, if_neg (by omega), if_pos (by omega)]
    have hbound : n + 10 ^ 8 < n * 1000 := by omega
    rw [counterMs, numericTimestampToMs_intCast, hunits, div_lt_iff₀ (by norm_num)]
    exact_mod_cast hbound

/-! ### What the audit finds -/

section Findings

variable (fromisoformat : String → Option ℚ)

@[simp] theorem timestampMs_float (t : ℚ) :
    timestampMs fromisoformat (.float t) = some (numericTimestampToMs t) := rfl

/-- The findings of a row are none when those of its labels are. -/
theorem labelTimestampFindings_eq_zero_iff (row : Json) :
    (labelTimestampFindings fromisoformat row).1 = 0 ↔
      ∀ label ∈ find100msLabelDicts row,
        (singleLabelTimestampFindings fromisoformat row label).1 = 0 := by
  have hsum (labels : List Json) (findings : ℕ × Bool) :
      (labels.foldl (fun findings label =>
        (findings.1 + (singleLabelTimestampFindings fromisoformat row label).1,
          findings.2 || (singleLabelTimestampFindings fromisoformat row label).2))
        findings).1 = 0 ↔
        findings.1 = 0 ∧ ∀ label ∈ labels,
          (singleLabelTimestampFindings fromisoformat row label).1 = 0 := by
    induction labels generalizing findings with
    | nil => simp
    | cons label labels ih => simp [ih, and_assoc]
  rw [labelTimestampFindings, hsum]
  simp

theorem singleLabelTimestampFindings_eq_zero_iff (row label : Json) :
    (singleLabelTimestampFindings fromisoformat row label).1 = 0 ↔
      looksBack (timestampMs fromisoformat ((row.get "local_recv_monotonic_ns").orElse
          (label.get "feature_local_recv_monotonic_ns")))
        (timestampMs fromisoformat
          ((label.get "future_reference_local_recv_monotonic_ns").orElse
            (label.get "target_local_recv_monotonic_ns"))) = false ∧
      looksBack (timestampMs fromisoformat
          (((row.get "feature_exchange_ts_ms").orElse (row.get "exchange_event_ts")).orElse
            (label.get "feature_exchange_ts_ms")))
        (timestampMs fromisoformat ((label.get "future_reference_exchange_ts_ms").orElse
          (label.get "target_exchange_ts_ms"))) = false := by
  simp [singleLabelTimestampFindings]

/-- A row with a receive time and a time of the exchange. -/
structure HasTimes (row : Json) (f : ℤ) (t : ℚ) : Prop where
  receive : row.get "local_recv_monotonic_ns" = .int f
  exchange : row.get "feature_exchange_ts_ms" = .float t
  isCounter : IsCounter f
  isEpochMs : IsEpochMs t

variable {row : Json} {f : ℤ} {t : ℚ}

/-- The findings of a label depend on these times of its row only. -/
theorem HasTimes.findings_eq {row' : Json} (h : HasTimes row f t) (h' : HasTimes row' f t)
    (label : Json) :
    singleLabelTimestampFindings fromisoformat row label =
      singleLabelTimestampFindings fromisoformat row' label := by
  have htruthy : (Json.float t).truthy = true := decide_eq_true h.isEpochMs.1.ne'
  simp [singleLabelTimestampFindings, h.receive, h.exchange, h'.receive, h'.exchange,
    Json.orElse, htruthy]

/-- How the receive time of a row compares with a later one. The counter 0 of a row counts as
none, which is no leak either way. -/
theorem looksBack_receive {own : Json} (hown : own = .null ∨ own = .int f) {u : ℤ} (hu : 0 ≤ u) :
    looksBack (timestampMs fromisoformat ((Json.int f).orElse own)) (some (counterMs u)) = false ↔
      ¬ counterMs u < counterMs f := by
  by_cases hzero : f = 0
  · have hfirst : counterMs f = 0 := by rw [hzero]; exact counterMs_of_le le_rfl (by norm_num)
    have hskip : (Json.int f).orElse own = own := by simp [hzero, Json.orElse, Json.truthy]
    rw [hskip, hfirst]
    rcases hown with rfl | rfl
    · simpa [looksBack] using counterMs_nonneg hu
    · simp [looksBack, hfirst]
  · have hfeature : (Json.int f).orElse own = .int f := by simp [hzero, Json.orElse, Json.truthy]
    simp [hfeature, looksBack]

/-- A receive time label is no leak, unless it has no event and its target is past the bound. -/
theorem HasTimes.receiveTime_iff (h : HasTimes row f t) {label : ReceiveTimeLabel}
    (htarget : label.targetLocalRecvMonotonicNs = some (f + 10 ^ 8))
    (hfuture : ∀ u, label.futureReferenceLocalRecvMonotonicNs = some u →
      f + 10 ^ 8 ≤ u ∧ u < 10 ^ 14) :
    (singleLabelTimestampFindings fromisoformat row label.toJson).1 = 0 ↔
      (label.futureReferenceLocalRecvMonotonicNs = none → f + 10 ^ 8 ≤ 10 ^ 14) := by
  obtain ⟨hpos, hlt⟩ := h.isCounter
  have hexchange : (label.toJson.get "future_reference_exchange_ts_ms").orElse
      (label.toJson.get "target_exchange_ts_ms") = .null := rfl
  have hown : label.toJson.get "feature_local_recv_monotonic_ns" = .null := rfl
  have hreceive : label.toJson.get "future_reference_local_recv_monotonic_ns" =
      Json.ofInt? label.futureReferenceLocalRecvMonotonicNs := rfl
  have haim : label.toJson.get "target_local_recv_monotonic_ns" = .int (f + 10 ^ 8) := by
    change Json.ofInt? label.targetLocalRecvMonotonicNs = _
    rw [htarget]
    rfl
  rw [singleLabelTimestampFindings_eq_zero_iff, h.receive, hexchange, hown, hreceive, haim]
  simp only [timestampMs_null, looksBack_none, and_true]
  rcases hfound : label.futureReferenceLocalRecvMonotonicNs with _ | u
  · have hnone : (Json.ofInt? none).orElse (.int (f + 10 ^ 8)) = .int (f + 10 ^ 8) := rfl
    rw [hnone, timestampMs_int, looksBack_receive fromisoformat (.inl rfl) (by omega),
      counterMs_target_lt_iff h.isCounter, not_lt]
    exact ⟨fun hle _ => hle, fun hle => hle rfl⟩
  · obtain ⟨hle, hu⟩ := hfuture u hfound
    have hne : u ≠ 0 := by omega
    have hsome : (Json.ofInt? (some u)).orElse (.int (f + 10 ^ 8)) = .int u := by
      simp [Json.ofInt?, Json.orElse, Json.truthy, hne]
    have hnot : ¬ counterMs u < counterMs f := by
      rw [counterMs_of_le (by omega) hu.le, counterMs_of_le hpos hlt.le, not_lt]
      exact_mod_cast (show f ≤ u by omega)
    rw [hsome, timestampMs_int, looksBack_receive fromisoformat (.inl rfl) (by omega)]
    exact iff_of_true hnot fun hnone => absurd hnone (Option.some_ne_none u)

/-- An exchange time label is no leak, unless its event was received before the sample. -/
theorem HasTimes.exchangeTime_iff (h : HasTimes row f t) {label : ExchangeTimeLabel}
    (hown : label.featureLocalRecvMonotonicNs = .int f)
    (htarget : label.targetExchangeTsMs = some (t + 100))
    (hfuture : ∀ u, label.futureReferenceExchangeTsMs = some u → t + 100 ≤ u ∧ u ≤ 10 ^ 14)
    (hreceived : label.futureReferenceLocalRecvMonotonicNs = .null ∨
      ∃ n, label.futureReferenceLocalRecvMonotonicNs = .int n ∧ IsCounter n) :
    (singleLabelTimestampFindings fromisoformat row label.toJson).1 = 0 ↔
      ∀ n, label.futureReferenceLocalRecvMonotonicNs = .int n → n ≠ 0 → f ≤ n := by
  obtain ⟨hpos, hlt⟩ := h.isCounter
  obtain ⟨htpos, htle⟩ := h.isEpochMs
  have hownGet : label.toJson.get "feature_local_recv_monotonic_ns" = .int f := hown
  have hreceive : label.toJson.get "future_reference_local_recv_monotonic_ns" =
      label.futureReferenceLocalRecvMonotonicNs := rfl
  have haim : label.toJson.get "target_local_recv_monotonic_ns" = .null := rfl
  have hexchange : label.toJson.get "future_reference_exchange_ts_ms" =
      Json.ofFloat? label.futureReferenceExchangeTsMs := rfl
  have haimExchange : label.toJson.get "target_exchange_ts_ms" = .float (t + 100) := by
    change Json.ofFloat? label.targetExchangeTsMs = _
    rw [htarget]
    rfl
  have hfeature (later last : Json) : ((Json.float t).orElse later).orElse last = .float t := by
    have htruthy : (Json.float t).truthy = true := decide_eq_true htpos.ne'
    simp [Json.orElse, htruthy]
  -- by the times of the exchange the event is never before the sample
  have hahead (u : ℚ) (hle : t + 100 ≤ u) (hu : u ≤ 10 ^ 14) :
      looksBack (timestampMs fromisoformat (.float t)) (timestampMs fromisoformat (.float u)) =
        false := by
    rw [timestampMs_float, timestampMs_float, numericTimestampToMs_of_le htpos.le (by linarith),
      numericTimestampToMs_of_le (by linarith) hu]
    simp only [looksBack, decide_eq_false_iff_not, not_lt]
    linarith
  have hright : looksBack (timestampMs fromisoformat (.float t))
      (timestampMs fromisoformat ((Json.ofFloat? label.futureReferenceExchangeTsMs).orElse
        (.float (t + 100)))) = false := by
    rcases hfound : label.futureReferenceExchangeTsMs with _ | u
    · exact hahead _ le_rfl htle
    · obtain ⟨hle, hu⟩ := hfuture u hfound
      have hsome : (Json.ofFloat? (some u)).orElse (.float (t + 100)) = .float u :=
        if_pos (decide_eq_true (show u ≠ 0 by linarith))
      rw [hsome]
      exact hahead u hle hu
  rw [singleLabelTimestampFindings_eq_zero_iff, h.receive, h.exchange, hownGet, hreceive, haim,
    hexchange, haimExchange, hfeature, hright, eq_self_iff_true, and_true]
  rcases hreceived with hnull | ⟨n, hn, hnpos, hnlt⟩
  · have hskip : (Json.null).orElse .null = .null := rfl
    simp [hnull, hskip]
  · by_cases hzero : n = 0
    · have hskip : (Json.int n).orElse .null = .null := by simp [hzero, Json.orElse, Json.truthy]
      simp only [hn, hskip, timestampMs_null, looksBack_none, true_iff]
      rintro m hm hne
      obtain rfl := Json.int.inj hm
      exact absurd hzero hne
    · have hcounter : (Json.int n).orElse .null = .int n := by
        simp [hzero, Json.orElse, Json.truthy]
      rw [hn, hcounter, timestampMs_int, looksBack_receive fromisoformat (.inr rfl) hnpos,
        counterMs_of_le hnpos hnlt.le, counterMs_of_le hpos hlt.le, Int.cast_lt, not_lt]
      constructor
      · rintro hle m hm -
        obtain rfl := Json.int.inj hm
        exact hle
      · exact fun hle => hle n rfl hzero

/-- A hybrid label is no leak: it has no times. -/
theorem hybrid_findings (row : Json) (label : HybridLabel) :
    (singleLabelTimestampFindings fromisoformat row label.toJson).1 = 0 := by
  have hreceive : (label.toJson.get "future_reference_local_recv_monotonic_ns").orElse
      (label.toJson.get "target_local_recv_monotonic_ns") = .null := rfl
  have hexchange : (label.toJson.get "future_reference_exchange_ts_ms").orElse
      (label.toJson.get "target_exchange_ts_ms") = .null := rfl
  rw [singleLabelTimestampFindings_eq_zero_iff, hreceive, hexchange]
  simp

end Findings

end SomethingTrade
