import SomethingTrade.LabeledInput
import SomethingTrade.Loops
import SomethingTrade.StableSort

/-!
# Labeled Rows

The rows of the labeled dataset: features of each clean sample, and for six horizons the label
that the first sample at or after the horizon gives it. Features are of the sample itself or
compare it with the last sample at or before a past time. Both searches bisect the whole list
of times: the one for the past up to the sample, the one for the future from the sample on.

## Representation

* Floats are taken exactly. Python numbers that are missing are `none`.
* An exception that no function of the module catches ends the call; it is kept by name.

## Main results

* `rowFeatures_take`: the features of a row read no sample after it.
* `buildLabel_append`: a label that found its sample is the same when later samples are added.
* `labeled_rows_without_lookahead`: so the rows of valid samples do not look ahead.
-/

namespace SomethingTrade

/-! ### Reading lists -/

/-- `xs[i]` of a list. -/
def elementAt {α : Type} (xs : List α) (i : ℕ) : Except String α :=
  match xs[i]? with
  | some x => .ok x
  | none => .error "IndexError"

/-- `int(sample["local_recv_monotonic_ns"])`. -/
def timestampOf (sample : Json) : Except String ℤ :=
  match sample.get? "local_recv_monotonic_ns" with
  | none => .error "KeyError"
  | some (.bool b) => .ok (if b then 1 else 0)
  | some (.str s) =>
      match Decimal.intOfText s with
      | some n => .ok n
      | none => .error "ValueError"
  | some value =>
      match value.toInt? with
      | some n => .ok n
      | none => .error "TypeError"

/-! ### Features of a sample -/

/-- The features of a row, what is to be warned of, and which sample each feature is from. -/
structure RowFeatures where
  features : Dict String (Option ℚ)
  warnings : List String
  sourceIndices : Dict String (Option ℕ)

/-- A feature; a missing one counts as `None`. -/
def RowFeatures.get (row : RowFeatures) (name : String) : Option ℚ :=
  (row.features.get? name).getD none

/-- How many levels the depth features add up. -/
def depthLevels : List ℕ := [1, 3, 5, 10, 20]

/-- A feature that compares a sample with an earlier one: how far back to look, and how far
before that the earlier sample may be. -/
structure PastFeaturePolicy where
  name : String
  lookbackMs : ℤ
  maxGapMs : ℚ

/-- The features that compare a sample with an earlier one. -/
def pastFeaturePolicies : List PastFeaturePolicy :=
  [⟨"past_mid_return_100ms_bps", 100, 100⟩, ⟨"past_mid_return_500ms_bps", 500, 500⟩,
    ⟨"past_mid_return_1000ms_bps", 1000, 1000⟩, ⟨"past_spread_change_500ms_bps", 500, 500⟩]

/-- The sizes of the first levels of a side. -/
def depthOf (levels : List (ℚ × ℚ)) (level : ℕ) : ℚ := ((levels.take level).map Prod.snd).sum

/-- The depth features of the first levels. -/
def depthFeatures (bids asks : List (ℚ × ℚ)) (level : ℕ) : List (String × Option ℚ) :=
  let bidDepth := depthOf bids level
  let askDepth := depthOf asks level
  let totalDepth := bidDepth + askDepth
  [("bid_depth_l" ++ toString level, some bidDepth),
    ("ask_depth_l" ++ toString level, some askDepth),
    ("total_depth_l" ++ toString level, some totalDepth),
    ("depth_imbalance_l" ++ toString level,
      if totalDepth = 0 then none else some ((bidDepth - askDepth) / totalDepth)),
    ("depth_ratio_l" ++ toString level,
      if askDepth = 0 then none else some (bidDepth / askDepth))]

/-- What is to be warned of in the depth features. -/
def depthWarnings (bids asks : List (ℚ × ℚ)) (level : ℕ) : List String :=
  (if depthOf bids level + depthOf asks level = 0 then
    ["depth_imbalance_l" ++ toString level ++ "_denominator_zero"] else []) ++
  if depthOf asks level = 0 then
    ["depth_ratio_l" ++ toString level ++ "_denominator_zero"] else []

/-- How far the price moves over five levels, for the size they hold. -/
def slopeL5 (levels : List (ℚ × ℚ)) (best : ℚ) : Option ℚ :=
  levels[4]?.map fun level => |best - level.1| / max (depthOf levels 5) (1 / 10 ^ 12)

/-- The sizes at the top, unless one is missing or there is nothing to divide by. -/
def topSizes (bids asks : List (ℚ × ℚ)) : Option (ℚ × ℚ) :=
  (bids.head?.bind fun bid => asks.head?.map fun ask => (bid.2, ask.2)).filter fun e =>
    e.1 + e.2 ≠ 0

/-- The price at the top, weighed with the sizes of the other side. -/
def micropriceL1 (bids asks : List (ℚ × ℚ)) (bestBid bestAsk : ℚ) : Option ℚ :=
  (topSizes bids asks).map fun e => (bestAsk * e.1 + bestBid * e.2) / (e.1 + e.2)

/-- The features of a book. -/
def bookFeatures (bids asks : List (ℚ × ℚ)) (bestBid bestAsk : ℚ) : List (String × Option ℚ) :=
  let mid := (bestBid + bestAsk) / 2
  let spread := bestAsk - bestBid
  [("best_bid", some bestBid), ("best_ask", some bestAsk), ("mid_price", some mid),
    ("spread", some spread), ("spread_bps", if mid > 0 then some (spread / mid * 10000) else none),
    ("bid_size_l1", bids.head?.map Prod.snd), ("ask_size_l1", asks.head?.map Prod.snd),
    ("l1_size_imbalance", (topSizes bids asks).map fun e => (e.1 - e.2) / (e.1 + e.2))] ++
  depthLevels.flatMap (depthFeatures bids asks) ++
  [("microprice_l1", micropriceL1 bids asks bestBid bestAsk),
    ("microprice_edge_bps",
      (micropriceL1 bids asks bestBid bestAsk).map fun price => (price - mid) / mid * 10000),
    ("bid_slope_l5", slopeL5 bids bestBid), ("ask_slope_l5", slopeL5 asks bestAsk)] ++
  pastFeaturePolicies.map fun policy => (policy.name, none)

/-- What is to be warned of in the features of a book. -/
def bookWarnings (bids asks : List (ℚ × ℚ)) : List String :=
  (if topSizes bids asks = none then ["l1_size_imbalance_denominator_zero"] else []) ++
  depthLevels.flatMap (depthWarnings bids asks) ++
  (if topSizes bids asks = none then ["microprice_l1_denominator_zero"] else []) ++
  (if bids.length < 5 then ["bid_slope_l5_insufficient_levels"] else []) ++
  if asks.length < 5 then ["ask_slope_l5_insufficient_levels"] else []

/-- The features of a sample itself. -/
def extractCurrentFeatures (sample : Json) (sampleIndex : ℕ) : Except String RowFeatures := do
  let bids ← parseInputLevels (sample.get "bids")
  let asks ← parseInputLevels (sample.get "asks")
  let bestBid ← asFloat (sample.get "best_bid")
  let bestAsk ← asFloat (sample.get "best_ask")
  if topSizes bids asks ≠ none ∧ bestBid + bestAsk = 0 then throw "ZeroDivisionError"
  let features := bookFeatures bids asks bestBid bestAsk
  return {
    features := .ofList features
    warnings := sortedSet (bookWarnings bids asks)
    sourceIndices := .ofList (features.map fun e => (e.1, some sampleIndex)) }

/-- The return between two mid prices. -/
def computeReturnBps (currentMidPrice futureMidPrice : ℚ) : Except String ℚ :=
  if currentMidPrice ≤ 0 then
    .error "current and future mid prices must be finite and current mid > 0"
  else .ok ((futureMidPrice - currentMidPrice) / currentMidPrice * 10000)

/-! ### Features that look back -/

/-- What became of a feature that looks back. -/
structure PastFeature where
  value : Option ℚ
  warning : Option String
  sourceIndex : Option ℕ

/-- A feature that could not be had. -/
def PastFeature.missing (policy : PastFeaturePolicy) (reason : String) : PastFeature :=
  ⟨none, some (policy.name ++ reason), none⟩

/-- A number where Python would call `float` on it. -/
def numberOf (value : Option ℚ) : Except String ℚ :=
  match value with
  | some q => .ok q
  | none => .error "TypeError"

/-- Compare the features of a sample with those of an earlier one. -/
def compareWithPast (policy : PastFeaturePolicy) (current past : RowFeatures)
    (pastIndex : ℕ) : Except String PastFeature :=
  if "past_mid_return".toList <+: policy.name.toList then
    match past.get "mid_price" with
    | none => .ok (.missing policy "_past_mid_invalid")
    | some pastMid =>
        if pastMid ≤ 0 then .ok (.missing policy "_past_mid_invalid")
        else do
          let currentMid ← numberOf (current.get "mid_price")
          let value ← computeReturnBps pastMid currentMid
          return ⟨some value, none, some pastIndex⟩
  else
    match past.get "spread_bps" with
    | none => .ok (.missing policy "_past_spread_invalid")
    | some pastSpread => do
        let currentSpread ← numberOf (current.get "spread_bps")
        return ⟨some (currentSpread - pastSpread), none, some pastIndex⟩

/-- A feature that looks back: from the last sample at or before a past time. -/
def pastFeature (timestamps : List ℤ) (allFeatures : List RowFeatures) (currentIndex : ℕ)
    (current : RowFeatures) (policy : PastFeaturePolicy) : Except String PastFeature := do
  let now ← elementAt timestamps currentIndex
  let targetTime := now - policy.lookbackMs * 1000000
  match bisectRight timestamps targetTime 0 (currentIndex + 1) with
  | 0 => return .missing policy "_no_past_sample"
  | pastIndex + 1 => do
      let pastTime ← elementAt timestamps pastIndex
      let gapMs : ℚ := (targetTime - pastTime : ℤ) / 1000000
      if gapMs > policy.maxGapMs then return .missing policy "_gap_too_large"
      let past ← elementAt allFeatures pastIndex
      compareWithPast policy current past pastIndex

/-- Take a feature that looks back over into a row. -/
def RowFeatures.setPast (row : RowFeatures) (policy : PastFeaturePolicy) (past : PastFeature) :
    RowFeatures where
  features := row.features.set policy.name past.value
  warnings := row.warnings ++ past.warning.toList
  sourceIndices := row.sourceIndices.set policy.name past.sourceIndex

/-- The features of a row: those of its sample, and those that look back. -/
def rowFeatures (timestamps : List ℤ) (allFeatures : List RowFeatures) (currentIndex : ℕ) :
    Except String RowFeatures := do
  let current ← elementAt allFeatures currentIndex
  pastFeaturePolicies.foldlM (fun row policy => do
    let past ← pastFeature timestamps allFeatures currentIndex current policy
    return row.setPast policy past) current

/-! ### Labels -/

/-- A horizon of a label: how far ahead, and how far after that the sample may be. -/
structure Horizon where
  name : String
  horizonMs : ℤ
  maxFutureGapMs : ℚ

/-- The horizons of the labels. -/
def horizons : List Horizon :=
  [⟨"horizon_100ms", 100, 100⟩, ⟨"horizon_250ms", 250, 150⟩, ⟨"horizon_500ms", 500, 250⟩,
    ⟨"horizon_1000ms", 1000, 500⟩, ⟨"horizon_2000ms", 2000, 1000⟩,
    ⟨"horizon_5000ms", 5000, 2000⟩]

/-- A label. -/
structure FutureLabel where
  horizonMs : ℤ
  targetLocalRecvMonotonicNs : ℤ
  maxFutureGapMs : ℚ
  futureIndex : Option ℕ
  futureLocalRecvMonotonicNs : Option ℤ
  futureLastUpdateId : Json
  futureMidPrice : Option ℚ
  futureGapMs : Option ℚ
  returnBps : Option ℚ
  direction : Option ℤ
  spreadAdjustedDirection : Option ℤ
  valid : Bool
  invalidReason : Option String

/-- A label that is not valid. -/
def FutureLabel.invalid (label : FutureLabel) (reason : String) : FutureLabel :=
  { label with invalidReason := some reason }

/-- The index of the first later sample at or after the horizon. -/
def selectFutureIndex (timestampsNs : List ℤ) (currentIndex : ℕ) (horizonMs : ℤ) :
    Except String (Option ℕ) := do
  let now ← elementAt timestampsNs currentIndex
  let targetTime := now + horizonMs * 1000000
  let index := bisectLeft timestampsNs targetTime (currentIndex + 1) timestampsNs.length
  return if index < timestampsNs.length then some index else none

/-- The side on which a number is of a threshold around zero. -/
def directionLabel (returnBps threshold : ℚ) : ℤ :=
  if returnBps > threshold then 1 else if returnBps < -threshold then -1 else 0

/-- The mid price of a sample. -/
def sampleMidPrice (sample : Json) : Option ℚ :=
  match asFloat (sample.get "best_bid"), asFloat (sample.get "best_ask") with
  | .ok bestBid, .ok bestAsk => some ((bestBid + bestAsk) / 2)
  | _, _ => none

/-- Judge a label whose sample was found. -/
def judgeLabel (label : FutureLabel) (futureGapMs currentMid : ℚ)
    (futureMid currentSpreadBps : Option ℚ) (flatThresholdBps : ℚ) : FutureLabel :=
  if futureGapMs > label.maxFutureGapMs then label.invalid "FUTURE_GAP_TOO_LARGE"
  else
    match futureMid with
    | none => label.invalid "FUTURE_MID_INVALID"
    | some futureMid =>
        if futureMid ≤ 0 then label.invalid "FUTURE_MID_INVALID"
        else
          match currentSpreadBps, computeReturnBps currentMid futureMid with
          | some spreadBps, .ok returnBps =>
              if spreadBps < 0 then label.invalid "CURRENT_MID_INVALID"
              else
                { label with
                  returnBps := some returnBps
                  direction := some (directionLabel returnBps flatThresholdBps)
                  spreadAdjustedDirection := some (directionLabel returnBps spreadBps)
                  valid := true }
          | _, _ => label.invalid "CURRENT_MID_INVALID"

/-- The label of a sample for a horizon. -/
def buildLabel (samples : List Json) (timestamps : List ℤ) (currentIndex : ℕ)
    (current : RowFeatures) (flatThresholdBps : ℚ) (horizon : Horizon) :
    Except String FutureLabel := do
  let now ← elementAt timestamps currentIndex
  let targetTime := now + horizon.horizonMs * 1000000
  let base : FutureLabel :=
    { horizonMs := horizon.horizonMs
      targetLocalRecvMonotonicNs := targetTime
      maxFutureGapMs := horizon.maxFutureGapMs
      futureIndex := none
      futureLocalRecvMonotonicNs := none
      futureLastUpdateId := .null
      futureMidPrice := none
      futureGapMs := none
      returnBps := none
      direction := none
      spreadAdjustedDirection := none
      valid := false
      invalidReason := none }
  match (current.get "mid_price").filter (· > 0) with
  | none => return base.invalid "CURRENT_MID_INVALID"
  | some currentMid => do
      match ← selectFutureIndex timestamps currentIndex horizon.horizonMs with
      | none => return base.invalid "NO_FUTURE_SAMPLE"
      | some futureIndex => do
          let futureSample ← elementAt samples futureIndex
          let futureTs ← timestampOf futureSample
          let futureGapMs : ℚ := (futureTs - targetTime : ℤ) / 1000000
          let futureMid := sampleMidPrice futureSample
          let found := { base with
            futureIndex := some futureIndex
            futureLocalRecvMonotonicNs := some futureTs
            futureLastUpdateId := futureSample.get "last_update_id"
            futureMidPrice := futureMid
            futureGapMs := some futureGapMs }
          return judgeLabel found futureGapMs currentMid futureMid (current.get "spread_bps")
            flatThresholdBps

/-! ### Rows -/

/-- A row of the labeled dataset. -/
structure LabeledRow where
  symbol : Json
  source : Json
  generationId : Json
  stateVersion : Json
  snapshotVersion : Json
  lastUpdateId : Json
  localRecvMonotonicNs : Json
  localRecvWallTs : Json
  exchangeEventTs : Json
  bestBid : Option ℚ
  bestAsk : Option ℚ
  midPrice : Option ℚ
  spread : Option ℚ
  spreadBps : Option ℚ
  features : Dict String (Option ℚ)
  labels : Dict String FutureLabel
  featureWarnings : List String
  labelWarnings : List String
  currentIndex : ℕ
  featureSourceIndices : Dict String (Option ℕ)

/-- What is to be warned of in some labels. -/
def labelWarnings (labels : List (String × FutureLabel)) : List String :=
  sortedSet (labels.filterMap fun e =>
    if e.2.valid then none
    else (e.2.invalidReason.filter fun reason => !reason.isEmpty).map fun reason =>
      e.1 ++ ":" ++ reason)

/-- The row of a sample. -/
def labeledRow (samples : List Json) (timestamps : List ℤ) (allFeatures : List RowFeatures)
    (flatThresholdBps : ℚ) (sample : Json) (index : ℕ) : Except String LabeledRow := do
  let row ← rowFeatures timestamps allFeatures index
  let labels ← horizons.mapM fun horizon => do
    let label ← buildLabel samples timestamps index row flatThresholdBps horizon
    return (horizon.name, label)
  return {
    symbol := sample.get "symbol"
    source := sample.get "source"
    generationId := sample.get "generation_id"
    stateVersion := sample.get "state_version"
    snapshotVersion := sample.get "snapshot_version"
    lastUpdateId := sample.get "last_update_id"
    localRecvMonotonicNs := sample.get "local_recv_monotonic_ns"
    localRecvWallTs := sample.get "local_recv_wall_ts"
    exchangeEventTs := sample.get "exchange_event_ts"
    bestBid := row.get "best_bid"
    bestAsk := row.get "best_ask"
    midPrice := row.get "mid_price"
    spread := row.get "spread"
    spreadBps := row.get "spread_bps"
    features := row.features
    labels := .ofList labels
    featureWarnings := sortedSet row.warnings
    labelWarnings := labelWarnings labels
    currentIndex := index
    featureSourceIndices := row.sourceIndices }

/-- The rows of some samples. -/
def generateLabeledRows (samples : List Json) (flatThresholdBps : ℚ) :
    Except String (List LabeledRow) := do
  let timestamps ← samples.mapM timestampOf
  let allFeatures ← samples.zipIdx.mapM fun e => extractCurrentFeatures e.1 e.2
  samples.zipIdx.mapM fun e =>
    labeledRow samples timestamps allFeatures flatThresholdBps e.1 e.2

/-! ### What a row reads -/

theorem elementAt_take {α : Type} {xs : List α} {i n : ℕ} (h : i < n) :
    elementAt (xs.take n) i = elementAt xs i := by
  rw [elementAt, elementAt, List.getElem?_take_of_lt h]

theorem elementAt_append {α : Type} {xs ys : List α} {i : ℕ} (h : i < xs.length) :
    elementAt (xs ++ ys) i = elementAt xs i := by
  rw [elementAt, elementAt, List.getElem?_append_left h]

theorem elementAt_of_lt {α : Type} {xs : List α} {i : ℕ} (h : i < xs.length) :
    elementAt xs i = .ok xs[i] := by
  rw [elementAt, List.getElem?_eq_getElem h]

/-- A feature that looks back reads nothing after its sample: the search ends there. -/
theorem pastFeature_take (timestamps : List ℤ) (allFeatures : List RowFeatures) (i : ℕ)
    (current : RowFeatures) (policy : PastFeaturePolicy) :
    pastFeature (timestamps.take (i + 1)) (allFeatures.take (i + 1)) i current policy =
      pastFeature timestamps allFeatures i current policy := by
  simp only [pastFeature, elementAt_take (Nat.lt_succ_self i), bisectRight,
    bisectLoop_take (le_refl (i + 1))]
  refine congrArg _ (funext fun now => ?_)
  have hle : bisectRight timestamps (now - policy.lookbackMs * 1000000) 0 (i + 1) ≤ i + 1 :=
    bisectRight_le _ _ (Nat.zero_le _)
  rw [bisectRight] at hle
  split
  · rfl
  · rename_i pastIndex hindex
    have hlt : pastIndex < i + 1 := by omega
    rw [elementAt_take hlt, elementAt_take hlt]

/-- **The features of a row read no sample after it.** -/
theorem rowFeatures_take (timestamps : List ℤ) (allFeatures : List RowFeatures) (i : ℕ) :
    rowFeatures (timestamps.take (i + 1)) (allFeatures.take (i + 1)) i =
      rowFeatures timestamps allFeatures i := by
  simp only [rowFeatures, elementAt_take (Nat.lt_succ_self i), pastFeature_take]

/-- A search for the future that succeeds finds the same when later times are added. -/
theorem selectFutureIndex_append {times later : List ℤ} {i j : ℕ} {horizonMs : ℤ}
    (hsorted : (times ++ later).Pairwise (· ≤ ·)) (hi : i < times.length)
    (h : selectFutureIndex times i horizonMs = .ok (some j)) :
    j < times.length ∧ selectFutureIndex (times ++ later) i horizonMs = .ok (some j) := by
  rw [selectFutureIndex, elementAt_of_lt hi] at h
  rw [selectFutureIndex, elementAt_append hi, elementAt_of_lt hi]
  simp only [bind, Except.bind, pure, Except.pure, Except.ok.injEq] at h ⊢
  split at h
  · rename_i hlt
    obtain rfl := Option.some.inj h
    refine ⟨hlt, ?_⟩
    have hle : i + 1 ≤ times.length := hi
    have hlen : times.length ≤ (times ++ later).length := by simp
    rw [bisectLeft_append hsorted hle hlt, if_pos (hlt.trans_le hlen)]
  · cases h

/-- **A label that found its sample is the same when later samples are added.** -/
theorem buildLabel_append {samples later : List Json} {times laterTimes : List ℤ} {i : ℕ}
    {current : RowFeatures} {flat : ℚ} {horizon : Horizon} {label : FutureLabel}
    (hsorted : (times ++ laterTimes).Pairwise (· ≤ ·)) (hlen : times.length = samples.length)
    (hi : i < times.length)
    (h : buildLabel samples times i current flat horizon = .ok label)
    (hfound : label.invalidReason ≠ some "NO_FUTURE_SAMPLE") :
    buildLabel (samples ++ later) (times ++ laterTimes) i current flat horizon = .ok label := by
  rw [buildLabel, elementAt_of_lt hi] at h
  rw [buildLabel, elementAt_append hi, elementAt_of_lt hi]
  simp only [bind, Except.bind, pure, Except.pure] at h ⊢
  cases hmid : (current.get "mid_price").filter fun mid => decide (mid > 0) with
  | none =>
      rw [hmid] at h
      exact h
  | some mid =>
      rw [hmid] at h
      cases hindex : selectFutureIndex times i horizon.horizonMs with
      | error e => simp [hindex] at h
      | ok found =>
          cases found with
          | none =>
              simp only [hindex, Except.ok.injEq] at h
              exact absurd (h ▸ rfl) hfound
          | some j =>
              obtain ⟨hj, hlong⟩ := selectFutureIndex_append hsorted hi hindex
              simp only [hindex] at h
              simp only [hlong, elementAt_append (hlen ▸ hj : j < samples.length)]
              exact h

/-! ### Valid samples -/

/-- Samples that were validated, in the order of their times. -/
structure ValidSamples (samples : List Json) : Prop where
  clean : ∀ sample ∈ samples, cleanSampleErrors sample = []
  increasing : (samples.filterMap sampleTime?).Pairwise (· < ·)

/-- The times of validated samples. -/
theorem timestamps_of_clean {samples : List Json}
    (h : ∀ sample ∈ samples, cleanSampleErrors sample = []) :
    samples.mapM timestampOf = .ok (samples.filterMap sampleTime?) := by
  rw [mapM_eq_ok_iff]
  induction samples with
  | nil => rfl
  | cons sample samples ih =>
      obtain ⟨t, htime, hget⟩ := get_time_of_cleanSampleErrors (h sample List.mem_cons_self)
      have hstamp : timestampOf sample = .ok t := by
        rw [Json.get] at hget
        rw [timestampOf]
        cases hfield : sample.get? "local_recv_monotonic_ns" with
        | none => simp [hfield] at hget
        | some value =>
            rw [hfield, Option.getD_some] at hget
            rw [hget]
            rfl
      rw [List.map_cons, List.filterMap_cons, htime, hstamp, List.map_cons,
        ih fun x hx => h x (List.mem_cons_of_mem sample hx)]

/-- A validated sample has levels, and prices that do not cross. -/
theorem book_of_clean {sample : Json} (h : cleanSampleErrors sample = []) :
    ∃ bids asks bestBid bestAsk, parseInputLevels (sample.get "bids") = .ok bids ∧
      parseInputLevels (sample.get "asks") = .ok asks ∧
      asFloat (sample.get "best_bid") = .ok bestBid ∧
      asFloat (sample.get "best_ask") = .ok bestAsk ∧ 0 < bestBid ∧ bestBid < bestAsk := by
  simp only [cleanSampleErrors, sortedSet_eq_nil, List.append_eq_nil_iff] at h
  obtain ⟨⟨⟨⟨-, hprices⟩, hlevels⟩, -⟩, -⟩ := h
  rw [bestPriceErrors] at hprices
  rw [bookLevelErrors] at hlevels
  cases hbid : asFloat (sample.get "best_bid") with
  | error e => simp [hbid, bind, Except.bind] at hprices
  | ok bestBid =>
      cases hask : asFloat (sample.get "best_ask") with
      | error e => simp [hbid, hask, bind, Except.bind] at hprices
      | ok bestAsk =>
          cases hbids : parseInputLevels (sample.get "bids") with
          | error e => simp [hbids, bind, Except.bind] at hlevels
          | ok bids =>
              cases hasks : parseInputLevels (sample.get "asks") with
              | error e => simp [hbids, hasks, bind, Except.bind] at hlevels
              | ok asks =>
                  simp [hbid, hask, bind, Except.bind, pure, Except.pure] at hprices
                  exact ⟨bids, asks, bestBid, bestAsk, rfl, rfl, rfl, rfl, hprices.1.1, hprices.2⟩

/-- The names of the features of a sample. -/
def featureNames : List String :=
  ["best_bid", "best_ask", "mid_price", "spread", "spread_bps", "bid_size_l1", "ask_size_l1",
    "l1_size_imbalance"] ++
  depthLevels.flatMap (fun level =>
    ["bid_depth_l", "ask_depth_l", "total_depth_l", "depth_imbalance_l", "depth_ratio_l"].map
      fun name => name ++ toString level) ++
  ["microprice_l1", "microprice_edge_bps", "bid_slope_l5", "ask_slope_l5"] ++
  pastFeaturePolicies.map PastFeaturePolicy.name

theorem map_fst_bookFeatures (bids asks : List (ℚ × ℚ)) (bestBid bestAsk : ℚ) :
    (bookFeatures bids asks bestBid bestAsk).map Prod.fst = featureNames := rfl

theorem nodup_featureNames : featureNames.Nodup := by decide +kernel

/-- Features that later samples can be compared with: a positive price and a spread. -/
def Comparable (row : RowFeatures) : Prop :=
  (∃ mid, row.get "mid_price" = some mid ∧ 0 < mid) ∧
    ∃ spread, row.get "spread_bps" = some spread

/-- The features of a validated sample are those of its book. -/
theorem features_of_clean {sample : Json} (h : cleanSampleErrors sample = []) (i : ℕ) :
    ∃ bids asks bestBid bestAsk, sampleMidPrice sample = some ((bestBid + bestAsk) / 2) ∧
      0 < bestBid ∧ bestBid < bestAsk ∧
      extractCurrentFeatures sample i = .ok
        { features := .ofList (bookFeatures bids asks bestBid bestAsk)
          warnings := sortedSet (bookWarnings bids asks)
          sourceIndices := .ofList ((bookFeatures bids asks bestBid bestAsk).map fun e =>
            (e.1, some i)) } := by
  obtain ⟨bids, asks, bestBid, bestAsk, hbids, hasks, hbid, hask, hpos, hlt⟩ := book_of_clean h
  have hsum : 0 < bestBid + bestAsk := by linarith
  refine ⟨bids, asks, bestBid, bestAsk, ?_, hpos, hlt, ?_⟩
  · rw [sampleMidPrice, hbid, hask]
  · simp only [extractCurrentFeatures, hbids, hasks, hbid, hask, bind, Except.bind]
    rw [if_neg fun hzero => hsum.ne' hzero.2]
    rfl

/-- A feature of a book is read under its name. -/
theorem get?_bookFeatures {bids asks : List (ℚ × ℚ)} {bestBid bestAsk : ℚ} {name : String}
    {value : Option ℚ} (h : (name, value) ∈ bookFeatures bids asks bestBid bestAsk) :
    (Dict.ofList (bookFeatures bids asks bestBid bestAsk)).get? name = some value := by
  have hnodup : ((bookFeatures bids asks bestBid bestAsk).map Prod.fst).Nodup := by
    rw [map_fst_bookFeatures]
    exact nodup_featureNames
  exact Dict.get?_ofList_of_mem hnodup h

/-- A validated sample has its features. -/
theorem extract_of_clean {sample : Json} (h : cleanSampleErrors sample = []) (i : ℕ) :
    ∃ row, extractCurrentFeatures sample i = .ok row ∧ Comparable row := by
  obtain ⟨bids, asks, bestBid, bestAsk, -, hpos, hlt, hextract⟩ := features_of_clean h i
  have hmid : 0 < (bestBid + bestAsk) / 2 := by linarith
  have hmidAt : (Dict.ofList (bookFeatures bids asks bestBid bestAsk)).get? "mid_price" =
      some (some ((bestBid + bestAsk) / 2)) :=
    get?_bookFeatures (by simp [bookFeatures])
  have hspreadAt : (Dict.ofList (bookFeatures bids asks bestBid bestAsk)).get? "spread_bps" =
      some (some ((bestAsk - bestBid) / ((bestBid + bestAsk) / 2) * 10000)) :=
    get?_bookFeatures (by simp [bookFeatures, hmid])
  refine ⟨_, hextract, ⟨(bestBid + bestAsk) / 2, ?_, hmid⟩,
    (bestAsk - bestBid) / ((bestBid + bestAsk) / 2) * 10000, ?_⟩
  · rw [RowFeatures.get, hmidAt]
    rfl
  · rw [RowFeatures.get, hspreadAt]
    rfl

/-- Comparing with comparable features gives a value. -/
theorem exists_compareWithPast {current past : RowFeatures} (hcurrent : Comparable current)
    (hpast : Comparable past) (policy : PastFeaturePolicy) (pastIndex : ℕ) :
    ∃ value, compareWithPast policy current past pastIndex =
      .ok ⟨some value, none, some pastIndex⟩ := by
  obtain ⟨⟨mid, hmid, -⟩, spread, hspread⟩ := hcurrent
  obtain ⟨⟨pastMid, hpastMid, hpos⟩, pastSpread, hpastSpread⟩ := hpast
  rw [compareWithPast]
  split
  · have hvalue : computeReturnBps pastMid mid = .ok ((mid - pastMid) / pastMid * 10000) := by
      rw [computeReturnBps, if_neg (not_le.mpr hpos)]
    rw [hpastMid, hmid]
    dsimp only
    rw [if_neg (not_le.mpr hpos)]
    simp only [numberOf, bind, Except.bind, hvalue]
    exact ⟨_, rfl⟩
  · rw [hpastSpread, hspread]
    exact ⟨_, rfl⟩

/-- With comparable features everywhere every row has its features. -/
theorem exists_rowFeatures {timestamps : List ℤ} {allFeatures : List RowFeatures}
    (hlen : timestamps.length = allFeatures.length) (hall : ∀ row ∈ allFeatures, Comparable row)
    {i : ℕ} (hi : i < allFeatures.length) :
    ∃ row, rowFeatures timestamps allFeatures i = .ok row := by
  have hfeature (policy : PastFeaturePolicy) :
      ∃ feature, pastFeature timestamps allFeatures i allFeatures[i] policy = .ok feature := by
    have htime : i < timestamps.length := by omega
    rw [pastFeature, elementAt_of_lt htime]
    simp only [bind, Except.bind]
    have hle := bisectRight_le timestamps (timestamps[i] - policy.lookbackMs * 1000000)
      (Nat.zero_le (i + 1))
    split
    · exact ⟨_, rfl⟩
    · rename_i pastIndex hindex
      have hpast : pastIndex < allFeatures.length := by omega
      have hpastTime : pastIndex < timestamps.length := by omega
      rw [elementAt_of_lt hpastTime, elementAt_of_lt hpast]
      dsimp only
      split
      · exact ⟨_, rfl⟩
      · obtain ⟨value, hvalue⟩ := exists_compareWithPast (hall _ (List.getElem_mem hi))
          (hall _ (List.getElem_mem hpast)) policy pastIndex
        exact ⟨_, hvalue⟩
  rw [rowFeatures, elementAt_of_lt hi]
  refine exists_foldlM_eq_ok fun row policy _ => ?_
  obtain ⟨feature, hfeature⟩ := hfeature policy
  exact ⟨row.setPast policy feature, by rw [hfeature]; rfl⟩

/-- Every label of samples with times is made. -/
theorem exists_buildLabel {samples : List Json} {timestamps : List ℤ}
    (htimes : samples.mapM timestampOf = .ok timestamps) {i : ℕ} (hi : i < samples.length)
    (current : RowFeatures) (flat : ℚ) (horizon : Horizon) :
    ∃ label, buildLabel samples timestamps i current flat horizon = .ok label := by
  have hlen := length_of_mapM htimes
  have htime : i < timestamps.length := by omega
  rw [buildLabel, elementAt_of_lt htime]
  simp only [bind, Except.bind]
  split
  · exact ⟨_, rfl⟩
  · rw [selectFutureIndex, elementAt_of_lt htime]
    simp only [bind, Except.bind, pure, Except.pure]
    split
    · exact ⟨_, rfl⟩
    · rename_i j hj
      have hlt : j < samples.length := by
        split at hj
        · rename_i hlt
          obtain rfl := Option.some.inj hj
          omega
        · cases hj
      have hstamp := congrArg (fun l => l[j]?) (mapM_eq_ok_iff.mp htimes)
      rw [List.getElem?_map, List.getElem?_map, List.getElem?_eq_getElem hlt,
        List.getElem?_eq_getElem (show j < timestamps.length by omega), Option.map_some,
        Option.map_some, Option.some.injEq] at hstamp
      rw [elementAt_of_lt hlt]
      dsimp only
      rw [hstamp]
      exact ⟨_, rfl⟩

/-! ### Rows of valid samples -/

/-- Results that are named after what they were made of have those names. -/
theorem map_fst_of_map {α β : Type} {g : α → Except String (String × β)} {name : α → String}
    (hname : ∀ x e, g x = .ok e → name x = e.1) {xs : List α} {es : List (String × β)}
    (h : xs.map g = es.map .ok) : es.map Prod.fst = xs.map name := by
  induction xs generalizing es with
  | nil =>
      cases es with
      | nil => rfl
      | cons e es => cases h
  | cons x xs ih =>
      cases es with
      | nil => cases h
      | cons e es =>
          obtain ⟨hx, hxs⟩ := List.cons.inj h
          rw [List.map_cons, List.map_cons, ih hxs, hname x e hx]

/-- The labels of a row, horizon by horizon. -/
theorem mem_labels {samples : List Json} {timestamps : List ℤ} {i : ℕ} {current : RowFeatures}
    {flat : ℚ} {labels : List (String × FutureLabel)}
    (h : (horizons.mapM fun horizon => do
      let label ← buildLabel samples timestamps i current flat horizon
      return (horizon.name, label)) = .ok labels) {e : String × FutureLabel} :
    e ∈ (Dict.ofList labels).entries ↔ ∃ horizon ∈ horizons,
      buildLabel samples timestamps i current flat horizon = .ok e.2 ∧ horizon.name = e.1 := by
  have hmap := mapM_eq_ok_iff.mp h
  have hbuilt {e : String × FutureLabel} {horizon : Horizon} :
      (do let label ← buildLabel samples timestamps i current flat horizon
          return (horizon.name, label)) = Except.ok e ↔
        buildLabel samples timestamps i current flat horizon = .ok e.2 ∧ horizon.name = e.1 := by
    cases hlabel : buildLabel samples timestamps i current flat horizon with
    | error err => simp [bind, Except.bind]
    | ok label =>
        obtain ⟨name, found⟩ := e
        simp [bind, Except.bind, pure, Except.pure, and_comm]
  have hmem {e : String × FutureLabel} : e ∈ labels ↔ ∃ horizon ∈ horizons,
      buildLabel samples timestamps i current flat horizon = .ok e.2 ∧ horizon.name = e.1 := by
    have hok : e ∈ labels ↔ Except.ok e ∈ labels.map (Except.ok : _ → Except String _) := by simp
    rw [hok, ← hmap, List.mem_map]
    exact exists_congr fun horizon => and_congr_right fun _ => hbuilt
  have hnames : labels.map Prod.fst = horizons.map Horizon.name :=
    map_fst_of_map (fun _ _ he => (hbuilt.mp he).2) hmap
  rw [Dict.entries_ofList (hnames ▸ by decide), hmem]

theorem labeledRow_eq_ok {samples : List Json} {timestamps : List ℤ}
    {allFeatures : List RowFeatures} {flat : ℚ} {sample : Json} {i : ℕ} {row : LabeledRow}
    (h : labeledRow samples timestamps allFeatures flat sample i = .ok row) :
    ∃ current labels, rowFeatures timestamps allFeatures i = .ok current ∧
      (horizons.mapM fun horizon => do
        let label ← buildLabel samples timestamps i current flat horizon
        return (horizon.name, label)) = .ok labels ∧
      row.features = current.features ∧ row.featureSourceIndices = current.sourceIndices ∧
      row.labels = .ofList labels ∧
      row.localRecvMonotonicNs = sample.get "local_recv_monotonic_ns" := by
  rw [labeledRow] at h
  cases hcurrent : rowFeatures timestamps allFeatures i with
  | error e => simp [hcurrent, bind, Except.bind] at h
  | ok current =>
      rw [hcurrent] at h
      simp only [bind, Except.bind, pure, Except.pure] at h ⊢
      split at h
      · cases h
      · rename_i labels hlabels
        cases h
        exact ⟨current, labels, rfl, hlabels, rfl, rfl, rfl, rfl⟩

/-- The features of validated samples can be compared. -/
theorem comparable_of_mapM {samples : List Json}
    (h : ∀ sample ∈ samples, cleanSampleErrors sample = []) {allFeatures : List RowFeatures}
    (hall : (samples.zipIdx.mapM fun e => extractCurrentFeatures e.1 e.2) = .ok allFeatures) :
    ∀ row ∈ allFeatures, Comparable row := by
  intro row hrow
  obtain ⟨i, hi⟩ := List.getElem?_of_mem hrow
  have hat := getElem?_of_mapM (f := extractCurrentFeatures) hall i
  rw [hi, Option.map_some] at hat
  obtain ⟨sample, hsample, hmade⟩ := Option.map_eq_some_iff.mp hat
  obtain ⟨row', hrow', hcomparable⟩ := extract_of_clean (h sample (List.mem_of_getElem? hsample)) i
  exact Except.ok.inj (hrow'.symm.trans hmade) ▸ hcomparable

/-- The rows of valid samples. -/
theorem generate_of_valid {samples : List Json} (h : ValidSamples samples) (flat : ℚ) :
    ∃ allFeatures rows,
      (samples.zipIdx.mapM fun e => extractCurrentFeatures e.1 e.2) = .ok allFeatures ∧
      (samples.zipIdx.mapM fun e => labeledRow samples (samples.filterMap sampleTime?)
        allFeatures flat e.1 e.2) = .ok rows ∧
      generateLabeledRows samples flat = .ok rows := by
  have htimes := timestamps_of_clean h.clean
  obtain ⟨allFeatures, hall⟩ : ∃ allFeatures,
      (samples.zipIdx.mapM fun e => extractCurrentFeatures e.1 e.2) = .ok allFeatures := by
    refine exists_mapM_eq_ok fun e he => ?_
    have hmem : e.1 ∈ samples := List.fst_mem_of_mem_zipIdx he
    obtain ⟨row, hrow, -⟩ := extract_of_clean (h.clean e.1 hmem) e.2
    exact ⟨row, hrow⟩
  have hlen : allFeatures.length = samples.length := by simpa using length_of_mapM hall
  have hcomparable := comparable_of_mapM h.clean hall
  obtain ⟨rows, hrows⟩ : ∃ rows, (samples.zipIdx.mapM fun e =>
      labeledRow samples (samples.filterMap sampleTime?) allFeatures flat e.1 e.2) =
        .ok rows := by
    refine exists_mapM_eq_ok fun e he => ?_
    have hi : e.2 < samples.length := List.snd_lt_of_mem_zipIdx he
    have hlengths := (length_of_mapM htimes).trans hlen.symm
    obtain ⟨current, hcurrent⟩ := exists_rowFeatures hlengths hcomparable (hlen ▸ hi)
    obtain ⟨labels, hlabels⟩ : ∃ labels, (horizons.mapM fun horizon => do
        let label ← buildLabel samples (samples.filterMap sampleTime?) e.2 current flat horizon
        return (horizon.name, label)) = .ok labels := by
      refine exists_mapM_eq_ok fun horizon _ => ?_
      obtain ⟨label, hlabel⟩ := exists_buildLabel htimes hi current flat horizon
      exact ⟨(horizon.name, label), by rw [hlabel]; rfl⟩
    rw [labeledRow, hcurrent]
    simp only [bind, Except.bind, pure, Except.pure] at hlabels ⊢
    rw [hlabels]
    exact ⟨_, rfl⟩
  refine ⟨allFeatures, rows, hall, hrows, ?_⟩
  rw [generateLabeledRows, htimes]
  simp only [bind, Except.bind, hall]
  exact hrows

theorem take_times {samples : List Json}
    (h : ∀ sample ∈ samples, cleanSampleErrors sample = []) (n : ℕ) :
    (samples.filterMap sampleTime?).take n = (samples.take n).filterMap sampleTime? := by
  have hall := mapM_eq_ok_iff.mp (timestamps_of_clean h)
  have htake := mapM_eq_ok_iff.mp
    (timestamps_of_clean fun sample hs => h sample (List.mem_of_mem_take hs) :
      (samples.take n).mapM timestampOf = _)
  refine List.map_injective_iff.mpr (fun a b hab => Except.ok.inj hab :
    Function.Injective (Except.ok : ℤ → Except String ℤ)) ?_
  rw [← htake, List.map_take, List.map_take, hall]

/-- What a row was made of. -/
theorem made_of_getElem? {samples : List Json} {timestamps : List ℤ}
    {allFeatures : List RowFeatures} {flat : ℚ} {rows : List LabeledRow} {i : ℕ}
    {row : LabeledRow}
    (h : (samples.zipIdx.mapM fun e => labeledRow samples timestamps allFeatures flat e.1 e.2) =
      .ok rows) (hrow : rows[i]? = some row) :
    ∃ sample, samples[i]? = some sample ∧
      labeledRow samples timestamps allFeatures flat sample i = .ok row := by
  have hat := getElem?_of_mapM (f := labeledRow samples timestamps allFeatures flat) h i
  rw [hrow, Option.map_some] at hat
  exact Option.map_eq_some_iff.mp hat

/-- The features of a row of a list of samples are those of every list with the same samples up
to the row. -/
theorem rowFeatures_congr {first second : List Json} {allFeatures allFeatures' : List RowFeatures}
    (hall : (first.zipIdx.mapM fun e => extractCurrentFeatures e.1 e.2) = .ok allFeatures)
    (hall' : (second.zipIdx.mapM fun e => extractCurrentFeatures e.1 e.2) = .ok allFeatures')
    (hfirst : ValidSamples first) (hsecond : ValidSamples second) {i : ℕ}
    (h : first.take (i + 1) = second.take (i + 1)) :
    rowFeatures (first.filterMap sampleTime?) allFeatures i =
      rowFeatures (second.filterMap sampleTime?) allFeatures' i := by
  have hfeatures : allFeatures.take (i + 1) = allFeatures'.take (i + 1) :=
    take_of_mapM (f := extractCurrentFeatures) hall hall' h
  rw [← rowFeatures_take, take_times hfirst.clean, h, hfeatures, ← take_times hsecond.clean,
    rowFeatures_take]

/-- **The rows of valid samples do not look ahead.** The features of a row, with the samples they
are from, are the same in every two lists that agree up to the row. When later samples are added,
every label that found its sample stays. -/
theorem labeled_rows_without_lookahead {first second : List Json} (flat : ℚ)
    (hfirst : ValidSamples first) (hsecond : ValidSamples second) :
    ∃ rows rows', generateLabeledRows first flat = .ok rows ∧
      generateLabeledRows second flat = .ok rows' ∧
      rows.length = first.length ∧ rows'.length = second.length ∧
      (∀ (i : ℕ) (row row' : LabeledRow), first.take (i + 1) = second.take (i + 1) → rows[i]? = some row →
        rows'[i]? = some row' →
        row.features = row'.features ∧ row.featureSourceIndices = row'.featureSourceIndices) ∧
      (first <+: second → ∀ (i : ℕ) (row row' : LabeledRow), rows[i]? = some row → rows'[i]? = some row' →
        ∀ e ∈ row.labels.entries, e.2.invalidReason ≠ some "NO_FUTURE_SAMPLE" →
          e ∈ row'.labels.entries) := by
  obtain ⟨allFeatures, rows, hall, hrows, hgenerate⟩ := generate_of_valid hfirst flat
  obtain ⟨allFeatures', rows', hall', hrows', hgenerate'⟩ := generate_of_valid hsecond flat
  have hlen : rows.length = first.length := by simpa using length_of_mapM hrows
  have hlen' : rows'.length = second.length := by simpa using length_of_mapM hrows'
  refine ⟨rows, rows', hgenerate, hgenerate', hlen, hlen', ?_, ?_⟩
  · intro i row row' htake hrow hrow'
    obtain ⟨sample, -, hmade⟩ := made_of_getElem? hrows hrow
    obtain ⟨sample', -, hmade'⟩ := made_of_getElem? hrows' hrow'
    obtain ⟨current, labels, hcurrent, -, hfeatures, hsources, -, -⟩ := labeledRow_eq_ok hmade
    obtain ⟨current', labels', hcurrent', -, hfeatures', hsources', -, -⟩ :=
      labeledRow_eq_ok hmade'
    rw [rowFeatures_congr hall hall' hfirst hsecond htake, hcurrent'] at hcurrent
    obtain rfl := Except.ok.inj hcurrent
    exact ⟨hfeatures.trans hfeatures'.symm, hsources.trans hsources'.symm⟩
  · rintro ⟨later, rfl⟩ i row row' hrow hrow' e he hfound
    obtain ⟨sample, -, hmade⟩ := made_of_getElem? hrows hrow
    obtain ⟨sample', -, hmade'⟩ := made_of_getElem? hrows' hrow'
    obtain ⟨current, labels, hcurrent, hlabels, -, -, heq, -⟩ := labeledRow_eq_ok hmade
    obtain ⟨current', labels', hcurrent', hlabels', -, -, heq', -⟩ := labeledRow_eq_ok hmade'
    have hi : i < first.length := hlen ▸ (List.getElem?_eq_some_iff.mp hrow).1
    have htake : first.take (i + 1) = (first ++ later).take (i + 1) := by
      rw [List.take_append_of_le_length hi]
    rw [rowFeatures_congr hall hall' hfirst hsecond htake, hcurrent'] at hcurrent
    obtain rfl := Except.ok.inj hcurrent
    rw [heq, mem_labels hlabels] at he
    rw [heq', mem_labels hlabels']
    obtain ⟨horizon, hhorizon, hlabel, hname⟩ := he
    have htimes := length_of_mapM (timestamps_of_clean hfirst.clean)
    have hsorted := hsecond.increasing.imp le_of_lt
    rw [List.filterMap_append] at hsorted ⊢
    exact ⟨horizon, hhorizon, buildLabel_append hsorted htimes (htimes ▸ hi) hlabel hfound, hname⟩

/-- A valid sample at a time. -/
def validSampleAt (ts : ℤ) : Json :=
  .obj [("schema_version", .str "orderbook_clean_v1"), ("symbol", .str "BTCUSDT"),
    ("source", .str "binance"), ("generation_id", .int 1), ("local_recv_monotonic_ns", .int ts),
    ("local_recv_wall_ts", .str "2026-01-01T00:00:00Z"), ("last_update_id", .int 7),
    ("best_bid", .float 100), ("best_ask", .float 101),
    ("bids", .arr [.arr [.float 100, .float 1]]), ("asks", .arr [.arr [.float 101, .float 1]]),
    ("quality", .obj [("errors", .arr []), ("is_valid", .bool true)]),
    ("lifecycle", .obj [("snapshot_ready", .bool true), ("ready_to_emit", .bool true),
      ("sequence_continuous", .bool true)])]

/-- A third sample leaves the features and the labels that the first two have. -/
theorem labeled_rows_without_lookahead_thirdSample :
    ∃ rows rows',
      generateLabeledRows [validSampleAt 0, validSampleAt 100000000] 0 = .ok rows ∧
      generateLabeledRows [validSampleAt 0, validSampleAt 100000000, validSampleAt 200000000] 0 =
        .ok rows' ∧
      ∀ row row', rows[0]? = some row → rows'[0]? = some row' →
        row.features = row'.features ∧
        ∀ e ∈ row.labels.entries, e.2.invalidReason ≠ some "NO_FUTURE_SAMPLE" →
          e ∈ row'.labels.entries := by
  have hclean : cleanSampleErrors (validSampleAt 0) = [] ∧
      cleanSampleErrors (validSampleAt 100000000) = [] ∧
      cleanSampleErrors (validSampleAt 200000000) = [] := by
    decide +kernel
  have htime (ts : ℤ) : sampleTime? (validSampleAt ts) = some ts := rfl
  have htwo : ValidSamples [validSampleAt 0, validSampleAt 100000000] :=
    ⟨by simp [hclean], by simp [htime]⟩
  have hthree : ValidSamples [validSampleAt 0, validSampleAt 100000000, validSampleAt 200000000] :=
    ⟨by simp [hclean], by simp [htime]⟩
  obtain ⟨rows, rows', hrows, hrows', -, -, hfeatures, hlabels⟩ :=
    labeled_rows_without_lookahead 0 htwo hthree
  exact ⟨rows, rows', hrows, hrows', fun row row' hrow hrow' =>
    ⟨(hfeatures 0 row row' rfl hrow hrow').1,
      hlabels ⟨[validSampleAt 200000000], rfl⟩ 0 row row' hrow hrow'⟩⟩

end SomethingTrade
