import SomethingTrade.BooktickerLabels
import SomethingTrade.SourceMetrics

/-!
# Choices of Labels

Four functions label a sample for the horizon of 100 ms. Each looks for the first event at or
after the horizon, in its own way: from the next sample on or from the start of the list, with a
look at the last time before the search or a look at the index after it. They also count in four
ways which samples have such an event. A label chooses an event, with its gap to the horizon and
a verdict, and all four choose what one definition says.

## Main results

* `chosenAt`: the choice at a time among events in order.
* `buildReferenceLabel_choice`, `buildReceiveTimeLabel_choice`, `buildLabel_choice`,
  `booktickerLabel_choice`: what each function chooses.
* `labelChoices_agree`: the labels of all samples agree, and so do the counts.
-/

namespace SomethingTrade

/-! ### Choices -/

/-- What a label chooses: an event, its gap to the horizon, and whether the label is valid. -/
structure LabelChoice where
  index : Option ℕ
  gapMs : Option ℚ
  valid : Bool
  deriving DecidableEq

/-- The horizon of a sample at a time. -/
def labelTarget (t : ℤ) : ℤ := t + labelHorizonMs * nsPerMs

/-- How long after a target an event is. -/
def futureGap (u target : ℤ) : ℚ := ((u - target : ℤ) : ℚ) / nsPerMs

/-- The choice at a time: the first event at or after the horizon, which counts if it is not too
late and has a price. -/
def chosenAt (times : List ℤ) (priced : ℕ → Bool) (t : ℤ) : LabelChoice :=
  let index := firstAtOrAfter times (labelTarget t) 0
  let gapMs := index.bind fun j => times[j]?.map fun u => futureGap u (labelTarget t)
  { index := index
    gapMs := gapMs
    valid := gapMs.any (fun gap => gap ≤ labelMaxFutureGapMs) && index.any priced }

section Choice

variable {times : List ℤ} {priced : ℕ → Bool} {t u : ℤ} {j : ℕ}

theorem chosenAt_of_none (h : firstAtOrAfter times (labelTarget t) 0 = none) :
    chosenAt times priced t = ⟨none, none, false⟩ := by
  simp [chosenAt, h]

theorem chosenAt_of_some (h : firstAtOrAfter times (labelTarget t) 0 = some j)
    (hu : times[j]? = some u) :
    chosenAt times priced t = ⟨some j, some (futureGap u (labelTarget t)),
      decide (futureGap u (labelTarget t) ≤ labelMaxFutureGapMs) && priced j⟩ := by
  simp [chosenAt, h, hu]

/-- Only the prices of events that are there matter. -/
theorem chosenAt_congr {priced' : ℕ → Bool}
    (h : ∀ j, j < times.length → priced j = priced' j) :
    chosenAt times priced t = chosenAt times priced' t := by
  rcases hfirst : firstAtOrAfter times (labelTarget t) 0 with _ | j
  · rw [chosenAt_of_none hfirst, chosenAt_of_none hfirst]
  · obtain ⟨⟨-, u, hu, -⟩, -⟩ := firstAtOrAfter_eq_some_iff.mp hfirst
    rw [chosenAt_of_some hfirst hu, chosenAt_of_some hfirst hu,
      h j (List.getElem?_eq_some_iff.mp hu).1]

/-! ### Samples with an event -/

/-- Whether some event is at or after the horizon. -/
def reached (times : List ℤ) (t : ℤ) : Bool := times.any fun u => labelTarget t ≤ u

/-- An event is chosen exactly when one is there. -/
theorem isSome_index_chosenAt (times : List ℤ) (priced : ℕ → Bool) (t : ℤ) :
    (chosenAt times priced t).index.isSome = reached times t := by
  rw [Bool.eq_iff_iff, Option.isSome_iff_ne_none, reached, List.any_eq_true]
  have hnone : (chosenAt times priced t).index = none ↔
      indicesAtOrAfter times (labelTarget t) 0 = ∅ :=
    firstAtOrAfter_eq_none_iff
  rw [Ne, hnone, ← Ne, ← Set.nonempty_iff_ne_empty]
  constructor
  · rintro ⟨j, -, u, hu, hle⟩
    exact ⟨u, List.mem_of_getElem? hu, decide_eq_true hle⟩
  · rintro ⟨u, hu, hle⟩
    obtain ⟨j, hj⟩ := List.mem_iff_getElem?.mp hu
    exact ⟨j, Nat.zero_le j, u, hj, of_decide_eq_true hle⟩

/-- Only a choice of an event is valid. -/
theorem reached_of_valid (h : (chosenAt times priced t).valid = true) : reached times t = true := by
  rw [← isSome_index_chosenAt times priced]
  rcases hfirst : firstAtOrAfter times (labelTarget t) 0 with _ | j
  · rw [chosenAt_of_none hfirst] at h
    cases h
  · simp [chosenAt, hfirst]

/-- The greatest time decides whether an event is there. -/
theorem any_max?_eq_reached :
    times.max?.any (fun last => labelTarget t ≤ last) = reached times t := by
  rcases hmax : times.max? with _ | last
  · rw [List.max?_eq_none_iff.mp hmax]
    rfl
  · obtain ⟨hmem, hle⟩ := List.max?_eq_some_iff.mp hmax
    rw [Bool.eq_iff_iff, reached, List.any_eq_true]
    constructor
    · exact fun h => ⟨last, hmem, h⟩
    · rintro ⟨u, hu, htarget⟩
      exact decide_eq_true ((of_decide_eq_true htarget).trans (hle u hu))

/-- Among times in order the last one decides it. -/
theorem any_getLast?_eq_reached (hs : times.Pairwise (· ≤ ·)) :
    times.getLast?.any (fun last => labelTarget t ≤ last) = reached times t := by
  rcases hlast : times.getLast? with _ | last
  · rw [List.getLast?_eq_none_iff.mp hlast]
    rfl
  · rw [Bool.eq_iff_iff, reached, List.any_eq_true]
    constructor
    · exact fun h => ⟨last, List.mem_of_getLast? hlast, h⟩
    · rintro ⟨u, hu, htarget⟩
      obtain ⟨j, hj⟩ := List.mem_iff_getElem?.mp hu
      have hlt := (List.getElem?_eq_some_iff.mp hj).1
      rw [List.getLast?_eq_getElem?] at hlast
      have hle := getElem?_le_of_le hs (Nat.le_sub_one_of_lt hlt) hj hlast
      exact decide_eq_true ((of_decide_eq_true htarget).trans hle)

end Choice

/-! ### Events in order -/

/-- Events whose times are read, in order. -/
structure EventColumn (events : List Json) (times : List ℤ) : Prop where
  read : events.mapM timestampOf = .ok times
  ordered : times.Pairwise (· ≤ ·)

/-- Whether an event has a price. -/
def pricedEvent (source : ReferenceSource) (events : List Json) (j : ℕ) : Bool :=
  (events[j]?.bind fun event => referencePrice event source).any fun price => price > 0

namespace EventColumn

variable {events : List Json} {times : List ℤ}

theorem length_eq (h : EventColumn events times) : times.length = events.length :=
  length_of_mapM h.read

/-- The event at an index has the time there. -/
theorem event (h : EventColumn events times) {j : ℕ} {u : ℤ} (hu : times[j]? = some u) :
    ∃ event, events[j]? = some event ∧ timestampOf event = .ok u := by
  have hmap := congrArg (fun l => l[j]?) (mapM_eq_ok_iff.mp h.read)
  rw [List.getElem?_map, List.getElem?_map, hu, Option.map_some] at hmap
  exact Option.map_eq_some_iff.mp hmap

/-- A bisection of the times finds what the scan does. -/
theorem firstAtOrAfter_eq (h : EventColumn events times) (target : ℤ) :
    firstAtOrAfter times target 0 =
      if bisectLeft times target 0 times.length < times.length then
        some (bisectLeft times target 0 times.length) else none :=
  SomethingTrade.firstAtOrAfter_eq h.ordered target (Nat.zero_le _)

end EventColumn

/-! ### Verdicts -/

/-- Whether a verdict is that a label is valid. -/
def LabelVerdict.isValid : LabelVerdict → Bool
  | .invalid _ => false
  | .valid .. => true

/-- What a benchmark label chooses. -/
def ReferenceLabel.choice (label : ReferenceLabel) : LabelChoice :=
  ⟨label.futureReferenceIndex, label.futureGapMs, label.valid⟩

/-- Concluding a label leaves its event. -/
theorem ReferenceLabel.choice_conclude (label : ReferenceLabel) (verdict : LabelVerdict)
    (h : label.valid = false) :
    (label.conclude verdict).choice =
      ⟨label.futureReferenceIndex, label.futureGapMs, verdict.isValid⟩ := by
  cases verdict with
  | invalid reason => simp [choice, conclude, LabelVerdict.isValid, h]
  | valid returnBps direction => rfl

section Verdicts

variable {mid gapMs : ℚ} {price : Option ℚ}

/-- With a price to start from, a label is valid if its event is not too late and has a price. -/
theorem isValid_judgeReferenceLabel (hmid : 0 < mid) :
    (judgeReferenceLabel mid gapMs price).isValid =
      (decide (gapMs ≤ labelMaxFutureGapMs) && price.any fun price => price > 0) := by
  rw [judgeReferenceLabel]
  by_cases hfar : gapMs > labelMaxFutureGapMs
  · rw [if_pos hfar, decide_eq_false (not_le.mpr hfar)]
    rfl
  · rw [if_neg hfar, decide_eq_true (not_lt.mp hfar), Bool.true_and]
    rcases price with _ | price
    · rfl
    · by_cases hpos : price > 0
      · have hfilter : (some price).filter (fun price => price > 0) = some price := by simp [hpos]
        simp only [hfilter, computeReturnBps, if_neg (not_le.mpr hmid), Option.any_some, hpos]
        rfl
      · have hfilter : (some price).filter (fun price => price > 0) = none := by
          simpa using not_lt.mp hpos
        simp only [hfilter, Option.any_some, hpos]
        rfl

/-- The time protocols judge an event that is not too early in the same way. -/
theorem judgeProtocolLabel_returns (hmid : 0 < mid) (hgap : 0 ≤ gapMs) :
    judgeProtocolLabel mid gapMs price = .ok (judgeReferenceLabel mid gapMs price) := by
  rw [judgeProtocolLabel, judgeReferenceLabel, if_neg (not_lt.mpr hgap)]
  by_cases hfar : gapMs > labelMaxFutureGapMs
  · rw [if_pos hfar, if_pos hfar]
  · rw [if_neg hfar, if_neg hfar]
    cases price.filter fun price => price > 0 with
    | none => rfl
    | some price =>
        simp only [computeReturnBps, if_neg (not_le.mpr hmid)]
        rfl

end Verdicts

/-! ### The builders of the benchmarks -/

section Builders

variable {source : ReferenceSource} {sample : Json} {mid : ℚ} {events : List Json}
  {times : List ℤ} {t : ℤ}

/-- **What a benchmark label chooses.** -/
theorem buildReferenceLabel_choice (h : EventColumn events times)
    (ht : (sample.get "local_recv_monotonic_ns").asInt? = some t) (hmid : 0 < mid) :
    ∃ label, buildReferenceLabel source sample (some mid) events times = .ok label ∧
      label.choice = chosenAt times (pricedEvent source events) t := by
  have hpositive : (some mid).filter (fun mid => mid > 0) = some mid := by simp [hmid]
  have htarget : t + labelHorizonMs * nsPerMs = labelTarget t := rfl
  have hselect : selectFutureReferenceIndex times t = firstAtOrAfter times (labelTarget t) 0 :=
    (h.firstAtOrAfter_eq (labelTarget t)).symm
  simp only [buildReferenceLabel, ht, hpositive, hselect, htarget]
  rcases hfirst : firstAtOrAfter times (labelTarget t) 0 with _ | j
  · exact ⟨_, rfl, (chosenAt_of_none hfirst).symm⟩
  · obtain ⟨⟨-, u, hu, -⟩, -⟩ := firstAtOrAfter_eq_some_iff.mp hfirst
    obtain ⟨event, hevent, hread⟩ := h.event hu
    simp only [elementAt_of_getElem? hevent, hread, bind, Except.bind, pure, Except.pure]
    refine ⟨_, rfl, ?_⟩
    rw [ReferenceLabel.choice_conclude _ _ rfl, isValid_judgeReferenceLabel hmid,
      chosenAt_of_some hfirst hu, pricedEvent, hevent]
    rfl

/-- **What a receive time label chooses**; it is eligible when it chooses an event. -/
theorem buildReceiveTimeLabel_choice (h : EventColumn events times)
    (ht : (sample.get "local_recv_monotonic_ns").asInt? = some t) (hmid : 0 < mid) :
    ∃ label, buildReceiveTimeLabel source sample (some mid) events times = .ok label ∧
      label.choice = chosenAt times (pricedEvent source events) t ∧
      label.receiveFutureGapMs = label.futureGapMs ∧ label.eligible = reached times t := by
  have hpositive : (some mid).filter (fun mid => mid > 0) = some mid := by simp [hmid]
  have htarget : t + labelHorizonMs * nsPerMs = labelTarget t := rfl
  have hafter : times.getLast?.all (fun last => labelTarget t > last) = !reached times t := by
    rw [← any_getLast?_eq_reached h.ordered]
    cases times.getLast? with
    | none => rfl
    | some last => simp only [Option.all_some, Option.any_some, ← decide_not, not_le]
  have hscan := h.firstAtOrAfter_eq (labelTarget t)
  simp only [buildReceiveTimeLabel, ht, hpositive, htarget, hafter]
  rw [← isSome_index_chosenAt times (pricedEvent source events)]
  rcases hfirst : firstAtOrAfter times (labelTarget t) 0 with _ | j
  · rw [chosenAt_of_none hfirst]
    exact ⟨_, rfl, rfl, rfl, rfl⟩
  · obtain ⟨⟨-, u, hu, hle⟩, -⟩ := firstAtOrAfter_eq_some_iff.mp hfirst
    obtain ⟨event, hevent, hread⟩ := h.event hu
    have hindex : bisectLeft times (labelTarget t) 0 times.length = j := by
      rw [hfirst] at hscan
      split at hscan
      · exact (Option.some.inj hscan).symm
      · cases hscan
    have hgap : 0 ≤ futureGap u (labelTarget t) := by
      have hsub : (0 : ℚ) ≤ ((u - labelTarget t : ℤ) : ℚ) := by exact_mod_cast sub_nonneg.mpr hle
      have hns : (0 : ℚ) ≤ ((nsPerMs : ℤ) : ℚ) := by norm_num [nsPerMs]
      exact div_nonneg hsub hns
    rw [chosenAt_of_some hfirst hu, hindex]
    simp only [Option.isSome_some, Bool.not_true, Bool.false_eq_true, if_false, hevent, hread,
      bind, Except.bind, pure, Except.pure]
    rw [← futureGap, judgeProtocolLabel_returns hmid hgap]
    refine ⟨_, rfl, ?_, ?_, ?_⟩
    · rw [ReceiveTimeLabel.conclude, ReferenceLabel.choice_conclude _ _ rfl,
        isValid_judgeReferenceLabel hmid, pricedEvent, hevent]
      rfl
    · cases judgeReferenceLabel mid (futureGap u (labelTarget t)) (referencePrice event source) <;>
        rfl
    · rfl

end Builders

/-! ### The labels of later samples -/

/-- The horizon of 100 ms. -/
def horizon100 : Horizon := ⟨"horizon_100ms", 100, 100⟩

theorem horizon100_mem : horizon100 ∈ horizons := List.mem_cons_self

/-- What a label of a later sample chooses. -/
def FutureLabel.choice (label : FutureLabel) : LabelChoice :=
  ⟨label.futureIndex, label.futureGapMs, label.valid⟩

/-- The gap of a label is that of its time. -/
structure FutureLabel.HasGap (label : FutureLabel) : Prop where
  gap_eq : label.futureGapMs = label.futureLocalRecvMonotonicNs.map fun u =>
    futureGap u label.targetLocalRecvMonotonicNs

theorem FutureLabel.HasGap.invalid {label : FutureLabel} (h : label.HasGap) (reason : String) :
    (label.invalid reason).HasGap :=
  ⟨h.gap_eq⟩

/-- Judging a label leaves its gap. -/
theorem FutureLabel.HasGap.judgeLabel {label : FutureLabel} (h : label.HasGap)
    (gapMs currentMid : ℚ) (futureMid spreadBps : Option ℚ) (flat : ℚ) :
    (judgeLabel label gapMs currentMid futureMid spreadBps flat).HasGap := by
  rw [SomethingTrade.judgeLabel.eq_def]
  split_ifs
  · exact h.invalid _
  · split
    · exact h.invalid _
    · split_ifs
      · exact h.invalid _
      · split
        · split_ifs
          · exact h.invalid _
          · exact ⟨h.gap_eq⟩
        · exact h.invalid _

theorem hasGap_of_buildLabel {samples : List Json} {times : List ℤ} {i : ℕ}
    {current : RowFeatures} {flat : ℚ} {horizon : Horizon} {label : FutureLabel}
    (h : buildLabel samples times i current flat horizon = .ok label) : label.HasGap := by
  simp only [buildLabel, bind, Except.bind, pure, Except.pure] at h
  split at h
  · cases h
  split at h
  · obtain rfl := Except.ok.inj h
    exact ⟨rfl⟩
  split at h
  · cases h
  split at h
  · obtain rfl := Except.ok.inj h
    exact ⟨rfl⟩
  split at h
  · cases h
  split at h
  · cases h
  obtain rfl := Except.ok.inj h
  exact FutureLabel.HasGap.judgeLabel ⟨rfl⟩ _ _ _ _ _

/-- A scan may start after an element that is too small. -/
theorem firstAtOrAfter_succ {times : List ℤ} (hs : times.Pairwise (· ≤ ·)) {i : ℕ} {t target : ℤ}
    (ht : times[i]? = some t) (hlt : t < target) :
    firstAtOrAfter times target (i + 1) = firstAtOrAfter times target 0 := by
  have hsame : indicesAtOrAfter times target (i + 1) = indicesAtOrAfter times target 0 := by
    ext j
    constructor
    · rintro ⟨-, h⟩
      exact ⟨Nat.zero_le j, h⟩
    · rintro ⟨-, u, hu, hle⟩
      refine ⟨?_, u, hu, hle⟩
      by_contra hij
      have hut := getElem?_le_of_le hs (by omega : j ≤ i) hu ht
      omega
  refine Option.ext fun j => ?_
  rw [firstAtOrAfter_eq_some_iff, firstAtOrAfter_eq_some_iff, hsame]

/-- **What a label of a later sample chooses**: all samples have a price. -/
theorem LabelFound.choice_eq {times : List ℤ} (hs : times.Pairwise (· ≤ ·)) {i : ℕ} {t : ℤ}
    (ht : times[i]? = some t) {label : FutureLabel} (h : LabelFound times i t horizon100 label)
    (hgap : label.HasGap) : label.choice = chosenAt times (fun _ => true) t := by
  have htarget : t + horizon100.horizonMs * 1000000 = labelTarget t := rfl
  have hindex : label.futureIndex = firstAtOrAfter times (labelTarget t) 0 := by
    have hlt : t < labelTarget t := by
      have hpos : (0 : ℤ) < labelHorizonMs * nsPerMs := by decide
      rw [labelTarget]
      omega
    rw [h.scanned, htarget, firstAtOrAfter_succ hs ht hlt]
  have htime := h.time
  have hvalid := h.valid
  rw [hindex] at htime hvalid
  rw [FutureLabel.choice, hindex, hgap.gap_eq, htime, h.target, htarget]
  rcases hfirst : firstAtOrAfter times (labelTarget t) 0 with _ | j
  · rw [hfirst] at hvalid
    rw [chosenAt_of_none hfirst]
    have hno : label.valid = false := by
      rw [Bool.eq_false_iff, Ne, hvalid]
      simp
    rw [hno]
    rfl
  · obtain ⟨⟨-, u, hu, -⟩, -⟩ := firstAtOrAfter_eq_some_iff.mp hfirst
    rw [hfirst] at hvalid
    rw [chosenAt_of_some hfirst hu, Option.bind_some, hu, Option.map_some, Bool.and_true]
    have hok : label.valid = decide (futureGap u (labelTarget t) ≤ labelMaxFutureGapMs) := by
      rw [Bool.eq_iff_iff, hvalid, decide_eq_true_eq]
      constructor
      · rintro ⟨j', u', hj', hu', hle⟩
        obtain rfl := Option.some.inj hj'
        obtain rfl := Option.some.inj (hu.symm.trans hu')
        exact hle
      · exact fun hle => ⟨j, u, rfl, hu, hle⟩
    rw [hok]

/-! ### Rows of samples -/

/-- A row with prices in order and a spread. -/
structure PricedRow (row : LabeledRow) : Prop where
  mid : ∃ mid, row.currentMid = some mid ∧ 0 < mid
  spread : ∃ spread, row.spreadBps = some spread ∧ 0 ≤ spread

/-- The prices of a row are those of its features, and its labels were built. -/
theorem labeledRow_fields {samples : List Json} {timestamps : List ℤ}
    {allFeatures : List RowFeatures} {flat : ℚ} {sample : Json} {i : ℕ} {row : LabeledRow}
    (h : labeledRow samples timestamps allFeatures flat sample i = .ok row) :
    ∃ current, rowFeatures timestamps allFeatures i = .ok current ∧
      row.bestBid = current.get "best_bid" ∧ row.bestAsk = current.get "best_ask" ∧
      row.midPrice = current.get "mid_price" ∧ row.spreadBps = current.get "spread_bps" ∧
      ∀ name label, row.labels.get? name = some label → label.HasGap := by
  rw [labeledRow] at h
  rcases hcurrent : rowFeatures timestamps allFeatures i with e | current
  · simp [hcurrent, bind, Except.bind] at h
  rw [hcurrent] at h
  simp only [bind, Except.bind, pure, Except.pure] at h
  split at h
  · cases h
  rename_i labels hlabels
  obtain rfl := Except.ok.inj h
  refine ⟨current, rfl, rfl, rfl, rfl, rfl, fun name label hlabel => ?_⟩
  have hmem : Except.ok (name, label) ∈ labels.map (Except.ok : _ → Except String _) :=
    List.mem_map_of_mem (Dict.mem_of_get?_ofList hlabel)
  rw [← mapM_eq_ok_iff.mp hlabels] at hmem
  obtain ⟨horizon, -, hbuilt⟩ := List.mem_map.mp hmem
  rcases hbuild : buildLabel samples timestamps i current flat horizon with e | built
  · simp [hbuild] at hbuilt
  · rw [hbuild] at hbuilt
    obtain ⟨-, rfl⟩ := Prod.mk.inj (Except.ok.inj hbuilt)
    exact hasGap_of_buildLabel hbuild

/-- Features that look back leave the prices of a sample. -/
theorem pricedRow_of_features {sample : Json} (hclean : cleanSampleErrors sample = []) {i : ℕ}
    {times : List ℤ} {allFeatures : List RowFeatures} {base current : RowFeatures}
    {row : LabeledRow} (hbase : extractCurrentFeatures sample i = .ok base)
    (hat : allFeatures[i]? = some base) (hcurrent : rowFeatures times allFeatures i = .ok current)
    (hbid : row.bestBid = current.get "best_bid") (hask : row.bestAsk = current.get "best_ask")
    (hmid : row.midPrice = current.get "mid_price")
    (hspread : row.spreadBps = current.get "spread_bps") : PricedRow row := by
  obtain ⟨bids, asks, bestBid, bestAsk, -, hpos, hlt, hextract⟩ := features_of_clean hclean i
  obtain rfl := Except.ok.inj (hbase.symm.trans hextract)
  rw [rowFeatures, elementAt_of_getElem? hat] at hcurrent
  obtain ⟨-, hkept⟩ := foldlM_setPast (by decide) hcurrent
  have hget (name : String) (value : Option ℚ)
      (hname : name ∉ pastFeaturePolicies.map PastFeaturePolicy.name)
      (hvalue : (name, value) ∈ bookFeatures bids asks bestBid bestAsk) :
      current.get name = value := by
    rw [RowFeatures.get, (hkept name hname).1, get?_bookFeatures hvalue]
    rfl
  have hsum : 0 < (bestBid + bestAsk) / 2 := by linarith
  rw [hget _ (some bestBid) (by decide) (by simp [bookFeatures])] at hbid
  rw [hget _ (some bestAsk) (by decide) (by simp [bookFeatures])] at hask
  rw [hget _ (some ((bestBid + bestAsk) / 2)) (by decide) (by simp [bookFeatures])] at hmid
  rw [hget _ (some ((bestAsk - bestBid) / ((bestBid + bestAsk) / 2) * 10000)) (by decide)
    (by simp [bookFeatures, hsum])] at hspread
  refine ⟨⟨(bestBid + bestAsk) / 2, ?_, hsum⟩, _, hspread, ?_⟩
  · have hbad : ¬ (bestBid ≤ 0 ∨ bestAsk ≤ 0 ∨ bestBid ≥ bestAsk) := by
      rintro (hb | ha | hc) <;> linarith
    simp only [LabeledRow.currentMid, hbid, hask, hmid, if_neg hbad]
    simp [hsum]
  · have hdiff : 0 ≤ bestAsk - bestBid := by linarith
    positivity

/-- What the row of a sample at a time has: its labels choose a later sample, and it has
prices. -/
structure RowChosen (times : List ℤ) (row : LabeledRow) (t : ℤ) : Prop where
  time : row.localRecvMonotonicNs = .int t
  label : ∃ label, row.labels.get? "horizon_100ms" = some label ∧
    label.choice = chosenAt times (fun _ => true) t
  priced : PricedRow row

/-- **The rows of validated samples** choose later samples. -/
theorem rowsChosen_of_valid {samples : List Json} (h : ValidSamples samples) (flat : ℚ) :
    ∃ rows, generateLabeledRows samples flat = .ok rows ∧
      List.Forall₂ (RowChosen (samples.filterMap sampleTime?)) rows
        (samples.filterMap sampleTime?) ∧
      ∀ horizon ∈ horizons, List.Forall₂
        (LabelCounted (samples.filterMap sampleTime?) horizon)
          (labelsOf (rows.map LabeledRow.toJson) horizon.name) (samples.filterMap sampleTime?) := by
  obtain ⟨rows, hgenerate, hlen, hsearched⟩ := searched_of_valid h flat
  obtain ⟨allFeatures, rows', hall, hmade, hgenerate'⟩ := generate_of_valid h flat
  obtain rfl := Except.ok.inj (hgenerate.symm.trans hgenerate')
  have htimesLen := length_of_mapM (timestamps_of_clean h.clean)
  refine ⟨rows, hgenerate, forall₂_of_getElem? (hlen.trans htimesLen.symm) fun i row hrow => ?_,
    forall₂_counted h hlen hsearched⟩
  obtain ⟨t, hrowSearched⟩ := hsearched i row hrow
  obtain ⟨sample, hsample, hbuilt⟩ := made_of_getElem? hmade hrow
  have hclean := h.clean sample (List.mem_of_getElem? hsample)
  obtain ⟨current, hcurrent, hbid, hask, hmid, hspread, hgaps⟩ := labeledRow_fields hbuilt
  have hbaseAt := getElem?_of_mapM (f := extractCurrentFeatures) hall i
  rw [hsample, Option.map_some] at hbaseAt
  obtain ⟨base, hat, hbase⟩ := Option.map_eq_some_iff.mp hbaseAt.symm
  refine ⟨t, hrowSearched.time, hrowSearched.timeField, ?_,
    pricedRow_of_features hclean hbase.symm hat hcurrent hbid hask hmid hspread⟩
  obtain ⟨label, hlabel, hfound, -⟩ := hrowSearched.labels horizon100 horizon100_mem
  exact ⟨label, hlabel, hfound.choice_eq (h.increasing.imp le_of_lt) hrowSearched.time
    (hgaps _ _ hlabel)⟩

/-! ### Quotes -/

/-- A number is read as itself. -/
theorem toFinite?_of_asNumber? {value : Json} {q : ℚ} (h : value.asNumber? = some q) :
    value.toFinite? = some q := by
  cases value with
  | bool b => simpa [Json.asNumber?, Json.toFinite?, Json.toFloat?] using h
  | int n => simpa [Json.asNumber?, Json.toFinite?, Json.toFloat?] using h
  | float x => simpa [Json.asNumber?, Json.toFinite?, Json.toFloat?] using h
  | _ => cases h

/-- A receive time that is an integer is read as it. -/
theorem timestampOf_of_asInt? {row : Json} {t : ℤ}
    (h : (row.get "local_recv_monotonic_ns").asInt? = some t) : timestampOf row = .ok t := by
  rw [Json.get] at h
  rw [timestampOf]
  rcases hfield : row.get? "local_recv_monotonic_ns" with _ | value
  · simp [hfield, Json.asInt?] at h
  · rw [hfield, Option.getD_some] at h
    cases value with
    | bool b => simpa [Json.asInt?] using h
    | int n => simpa [Json.asInt?, Json.toInt?] using h
    | _ => cases h

/-- The time of a row. -/
theorem timestampOf_toJson {row : LabeledRow} {t : ℤ} (h : row.localRecvMonotonicNs = .int t) :
    timestampOf row.toJson = .ok t := by
  refine timestampOf_of_asInt? ?_
  have hget : row.toJson.get "local_recv_monotonic_ns" = row.localRecvMonotonicNs := rfl
  rw [hget, h]
  rfl

/-- A valid quote has a mid price and a receive time. -/
theorem fields_of_isValidQuote {quote : Json} (h : isValidQuote quote = true) :
    (∃ mid, (quote.get "mid_price").asNumber? = some mid) ∧
      ∃ t, (quote.get "local_recv_monotonic_ns").asInt? = some t := by
  have herrors := ((isValidQuote_iff quote).mp h).1
  simp only [referenceSchemaErrors, sortedSet_eq_nil, List.append_eq_nil_iff] at herrors
  obtain ⟨⟨⟨⟨⟨-, hnumbers⟩, -⟩, htime⟩, -⟩, -⟩ := herrors
  have hmid := List.flatMap_eq_nil_iff.mp hnumbers "mid_price" (by simp [numericReferenceFields])
  constructor
  · rcases hvalue : (quote.get "mid_price").asNumber? with _ | mid
    · simp [hvalue] at hmid
    · exact ⟨mid, rfl⟩
  · rcases hvalue : (quote.get "local_recv_monotonic_ns").asInt? with _ | t
    · simp [hvalue] at htime
    · exact ⟨t, rfl⟩

/-- Rows with integer receive times in order. -/
theorem eventColumn_of_asInt? {events : List Json}
    (htimed : ∀ event ∈ events, ∃ t, (event.get "local_recv_monotonic_ns").asInt? = some t)
    (hordered : (receiveTimes events).Pairwise (· ≤ ·)) :
    EventColumn events (receiveTimes events) := by
  refine ⟨?_, hordered⟩
  clear hordered
  rw [mapM_eq_ok_iff]
  induction events with
  | nil => rfl
  | cons event events ih =>
      obtain ⟨t, ht⟩ := htimed event List.mem_cons_self
      have ih := ih fun later hlater => htimed later (List.mem_cons_of_mem _ hlater)
      simp only [receiveTimes, List.filterMap_cons, ht, List.map_cons,
        timestampOf_of_asInt? ht] at ih ⊢
      rw [ih]

/-- What a label by quotes chooses. -/
def BooktickerLabel.choice (label : BooktickerLabel) : LabelChoice :=
  ⟨label.futureReferenceIndex, label.futureGapMs, label.valid⟩

/-- With prices and a spread to start from, a label by quotes is judged like the others. -/
theorem BooktickerLabel.choice_judge {label : BooktickerLabel} (hinvalid : label.valid = false)
    {gapMs mid spread : ℚ} (hmid : 0 < mid) (hspread : 0 ≤ spread) :
    (label.judge gapMs mid (some spread)).choice =
      ⟨label.futureReferenceIndex, label.futureGapMs,
        decide (gapMs ≤ labelMaxFutureGapMs) &&
          label.futureMidPrice.asNumber?.any fun price => price > 0⟩ := by
  have hkeep (reason : String) : (label.invalid reason).choice =
      ⟨label.futureReferenceIndex, label.futureGapMs, false⟩ := by
    simp [choice, invalid, hinvalid]
  have hspread : (some spread).filter (fun spread => spread ≥ 0) = some spread := by
    simp [hspread]
  rw [judge.eq_def]
  by_cases hfar : gapMs > labelMaxFutureGapMs
  · rw [if_pos hfar, decide_eq_false (not_le.mpr hfar), hkeep]
    rfl
  · rw [if_neg hfar, decide_eq_true (not_lt.mp hfar), Bool.true_and, hspread]
    cases label.futureMidPrice.asNumber? with
    | none => exact hkeep _
    | some price =>
        by_cases hpos : price > 0
        · have hfilter : (some price).filter (fun mid => mid > 0) = some price := by simp [hpos]
          simp only [hfilter, computeReturnBps, if_neg (not_le.mpr hmid), Option.any_some, hpos,
            decide_true]
          rfl
        · have hfilter : (some price).filter (fun mid => mid > 0) = none := by
            simpa using not_lt.mp hpos
          simp only [hfilter, Option.any_some, hpos, decide_false]
          exact hkeep _

/-- **What a label by quotes chooses.** -/
theorem booktickerLabel_choice {quotes : List Json} {times : List ℤ} (h : EventColumn quotes times)
    (hvalid : ∀ quote ∈ quotes, isValidQuote quote = true) {row : LabeledRow} {t : ℤ}
    (hrow : PricedRow row) (htime : row.localRecvMonotonicNs = .int t) (first : ℕ) :
    ∃ label, booktickerLabel row quotes times first = .ok label ∧
      label.choice = chosenAt times (pricedEvent .bookTickerMid quotes) t := by
  obtain ⟨⟨mid, hmid, hpos⟩, spread, hspread, hnonneg⟩ := hrow
  have hread := timestampOf_toJson htime
  have htarget : t + labelHorizonMs * nsPerMs = labelTarget t := rfl
  have hselect : selectFutureQuoteIndex quotes times t =
      firstAtOrAfter times (labelTarget t) 0 := by
    rw [h.firstAtOrAfter_eq, selectFutureQuoteIndex, ← h.length_eq]
    rfl
  simp only [booktickerLabel, hread, bind, Except.bind, pure, Except.pure, hmid, hselect, hspread,
    htarget]
  rcases hfirst : firstAtOrAfter times (labelTarget t) 0 with _ | j
  · exact ⟨_, rfl, (chosenAt_of_none hfirst).symm⟩
  · obtain ⟨⟨-, u, hu, -⟩, -⟩ := firstAtOrAfter_eq_some_iff.mp hfirst
    obtain ⟨quote, hquote, hquoteRead⟩ := h.event hu
    obtain ⟨⟨price, hprice⟩, -⟩ :=
      fields_of_isValidQuote (hvalid quote (List.mem_of_getElem? hquote))
    simp only [elementAt_of_getElem? hquote, hquoteRead]
    have hpriced : ((quote.get "mid_price").asNumber?.any fun price => price > 0) =
        pricedEvent .bookTickerMid quotes j := by
      rw [pricedEvent, hquote, hprice]
      exact congrArg _ (toFinite?_of_asNumber? hprice).symm
    refine ⟨_, rfl, ?_⟩
    rw [BooktickerLabel.choice_judge rfl hpos hnonneg, chosenAt_of_some hfirst hu, ← hpriced]
    rfl

/-! ### All samples -/

/-- A clean sample at a time. -/
structure CleanAt (sample : Json) (t : ℤ) : Prop where
  clean : cleanSampleErrors sample = []
  time : sample.get "local_recv_monotonic_ns" = .int t

theorem forall₂_cleanAt {samples : List Json}
    (h : ∀ sample ∈ samples, cleanSampleErrors sample = []) :
    List.Forall₂ CleanAt samples (samples.filterMap sampleTime?) := by
  induction samples with
  | nil => exact .nil
  | cons sample samples ih =>
      have hclean := h sample List.mem_cons_self
      obtain ⟨t, ht, hget⟩ := get_time_of_cleanSampleErrors hclean
      rw [List.filterMap_cons, ht]
      exact .cons ⟨hclean, hget⟩ (ih fun later hlater => h later (List.mem_cons_of_mem _ hlater))

/-- The samples with an event are those at which one is reached. -/
theorem eligibleSampleCount_eq {samples events : List Json} {times : List ℤ}
    (h : List.Forall₂ CleanAt samples times) :
    eligibleSampleCount events samples = times.countP (reached (receiveTimes events)) := by
  rw [eligibleSampleCount]
  cases hmax : (receiveTimes events).max? with
  | none =>
      have hno : reached (receiveTimes events) = fun _ => false := by
        funext t
        rw [← any_max?_eq_reached, hmax]
        rfl
      simp [hno]
  | some last =>
      refine countP_eq_of_forall₂ h fun sample t hat => ?_
      rw [← any_max?_eq_reached, hmax, hat.time]
      rfl

/-- The builders of the two benchmarks make these choices for samples among the events of a
source, and the metrics of both count as many samples with an event and as many valid labels. -/
structure BuildersChoose (samples : List Json) (source : ReferenceSource) (events : List Json)
    (choices : List LabelChoice) (eligible valid : ℕ) : Prop where
  benchmark : ∃ times labels, events.mapM timestampOf = .ok times ∧
    (samples.mapM fun sample => buildReferenceLabel source sample
      (ReferenceFeed.sampleMidPrice sample) events times) = .ok labels ∧
    labels.map ReferenceLabel.choice = choices ∧
    ∀ validation rows violations capture symbol, validation.validEvents = events →
      (rows.map fun row : BenchmarkRow => row.referenceLabels source) = labels →
      let metrics :=
        computeSourceMetrics source validation samples rows violations capture symbol
      metrics.eligibleCount = eligible ∧ metrics.validCount = valid
  receiveTime : ∃ times labels, events.mapM timestampOf = .ok times ∧
    (samples.mapM fun sample => buildReceiveTimeLabel source sample
      (TimeProtocol.sampleMidPrice sample) events times) = .ok labels ∧
    labels.map (fun label => label.choice) = choices ∧
    labels.map ReceiveTimeLabel.receiveFutureGapMs = choices.map LabelChoice.gapMs ∧
    let metrics :=
      protocolMetrics (labels.map ReceiveTimeLabel.reading) "receive_future_gap_ms"
    metrics.eligibleCount = eligible ∧ metrics.validCount = valid

/-- **The builders of the benchmarks choose alike**, and their metrics count alike. -/
theorem buildersChoose {samples events : List Json} {source : ReferenceSource}
    (hclean : ∀ sample ∈ samples, cleanSampleErrors sample = [])
    (h : EventColumn events (receiveTimes events)) :
    BuildersChoose samples source events
      ((samples.filterMap sampleTime?).map
        (chosenAt (receiveTimes events) (pricedEvent source events)))
      ((samples.filterMap sampleTime?).countP (reached (receiveTimes events)))
      ((samples.filterMap sampleTime?).countP fun t =>
        (chosenAt (receiveTimes events) (pricedEvent source events) t).valid) := by
  have hsamples := forall₂_cleanAt hclean
  have hint {sample : Json} {t : ℤ} (hat : CleanAt sample t) :
      (sample.get "local_recv_monotonic_ns").asInt? = some t := by
    rw [hat.time]
    rfl
  constructor
  · obtain ⟨labels, hlabels, hchoices⟩ := exists_mapM_of_forall₂
      (f := fun sample => buildReferenceLabel source sample
        (ReferenceFeed.sampleMidPrice sample) events (receiveTimes events))
      (P := fun label t => label.choice =
        chosenAt (receiveTimes events) (pricedEvent source events) t) hsamples
      (by
        intro sample t hat
        obtain ⟨mid, hmid, hpos⟩ := exists_sampleMidPrice hat.clean
        rw [hmid]
        exact buildReferenceLabel_choice h (hint hat) hpos)
    refine ⟨receiveTimes events, labels, h.read, hlabels,
      map_eq_of_forall₂ hchoices fun _ _ heq => heq, ?_⟩
    rintro validation rows violations capture symbol rfl rfl
    refine ⟨eligibleSampleCount_eq hsamples, ?_⟩
    exact countP_eq_of_forall₂ hchoices fun label t heq => congrArg LabelChoice.valid heq
  · obtain ⟨labels, hlabels, hchoices⟩ := exists_mapM_of_forall₂
      (f := fun sample => buildReceiveTimeLabel source sample
        (TimeProtocol.sampleMidPrice sample) events (receiveTimes events))
      (P := fun label t => label.choice =
          chosenAt (receiveTimes events) (pricedEvent source events) t ∧
        label.receiveFutureGapMs = label.futureGapMs ∧
        label.eligible = reached (receiveTimes events) t) hsamples
      (by
        intro sample t hat
        obtain ⟨mid, hmid, hpos⟩ := exists_sampleMidPrice hat.clean
        rw [← sampleMidPrice_eq, hmid]
        exact buildReceiveTimeLabel_choice h (hint hat) hpos)
    refine ⟨receiveTimes events, labels, h.read, hlabels,
      map_eq_of_forall₂ hchoices fun _ _ heq => heq.1, ?_, ?_, ?_⟩
    · rw [List.map_map]
      exact map_eq_of_forall₂ hchoices fun label t ⟨hchoice, hgap, _⟩ =>
        hgap.trans (congrArg LabelChoice.gapMs hchoice)
    · have hcount : (protocolMetrics (labels.map ReceiveTimeLabel.reading)
          "receive_future_gap_ms").eligibleCount = labels.countP (·.eligible) := by
        simp [protocolMetrics, protocolMetricsOf, countLabels, ← List.countP_eq_length_filter,
          List.countP_map, Function.comp_def, ReceiveTimeLabel.reading]
      rw [hcount]
      exact countP_eq_of_forall₂ hchoices fun label t ⟨_, _, heligible⟩ => heligible
    · have hcount : (protocolMetrics (labels.map ReceiveTimeLabel.reading)
          "receive_future_gap_ms").validCount =
            labels.countP fun label => label.eligible && label.valid := by
        simp [protocolMetrics, protocolMetricsOf, countLabels, ← List.countP_eq_length_filter,
          List.countP_map, Function.comp_def, ReceiveTimeLabel.reading, Bool.and_comm]
      rw [hcount]
      refine countP_eq_of_forall₂ hchoices fun label t ⟨hchoice, _, heligible⟩ => ?_
      have hvalid : label.valid =
          (chosenAt (receiveTimes events) (pricedEvent source events) t).valid :=
        congrArg LabelChoice.valid hchoice
      rw [heligible, hvalid, Bool.eq_iff_iff, Bool.and_eq_true]
      exact ⟨fun h => h.2, fun h => ⟨reached_of_valid h, h⟩⟩

/-- The depth events of validated samples are in order and have the times of the samples. -/
theorem eventColumn_depthEvents {samples : List Json} (h : ValidSamples samples) :
    EventColumn (depthEvents samples) (receiveTimes (depthEvents samples)) ∧
      receiveTimes (depthEvents samples) = samples.filterMap sampleTime? := by
  have htimed := timedRows_depthEvents h.clean (h.increasing.imp le_of_lt)
  have hint : ∀ event ∈ depthEvents samples,
      (event.get "local_recv_monotonic_ns").asInt? = sampleTime? event := by
    intro event hevent
    rw [get_of_sampleTime? (htimed.timed event hevent), htimed.timed event hevent]
    rfl
  have htimes : receiveTimes (depthEvents samples) = samples.filterMap sampleTime? := by
    rw [receiveTimes, List.filterMap_congr hint, filterMap_sampleTime?_depthEvents]
  refine ⟨eventColumn_of_asInt? ?_ (htimes ▸ h.increasing.imp le_of_lt), htimes⟩
  exact fun event hevent => ⟨_, (hint event hevent).trans (htimed.timed event hevent)⟩

/-- The depth event of each clean sample has a price. -/
theorem pricedEvent_depthEvents {samples : List Json}
    (h : ∀ sample ∈ samples, cleanSampleErrors sample = []) {j : ℕ} (hj : j < samples.length) :
    pricedEvent .depthMid (depthEvents samples) j = true := by
  obtain ⟨mid, hmid, hpos⟩ := exists_sampleMidPrice (h _ (List.getElem_mem hj))
  have hprice : referencePrice (depthReferenceEvent samples[j] j) .depthMid = some mid := by
    simp [referencePrice, ReferenceSource.priceField, depthReferenceEvent, hmid, Json.ofFloat?,
      Json.toFinite?, Json.toFloat?]
  have hevent : (depthEvents samples)[j]? = some (depthReferenceEvent samples[j] j) := by
    simp [depthEvents, hj]
  rw [pricedEvent, hevent, Option.bind_some, hprice]
  exact decide_eq_true hpos

/-- The statistics of labels by quotes. -/
theorem horizon100msStats_eq_ok {samples quotes : List Json} (rows : List BooktickerRow)
    (hclean : ∀ sample ∈ samples, cleanSampleErrors sample = []) :
    ∃ stats, horizon100msStats samples quotes rows = .ok stats ∧
      stats.eligibleCount =
        (samples.filterMap sampleTime?).countP (reached (receiveTimes quotes)) ∧
      stats.validCount = rows.countP fun row => row.horizon100ms.valid := by
  have heligible : eligibleByQuotes samples quotes =
      .ok ((samples.filterMap sampleTime?).countP (reached (receiveTimes quotes))) := by
    have hreached : reached (receiveTimes quotes) = fun t =>
        (receiveTimes quotes).max?.any fun last => labelTarget t ≤ last :=
      funext fun t => any_max?_eq_reached.symm
    rw [eligibleByQuotes, hreached]
    cases (receiveTimes quotes).max? with
    | none => simp
    | some last =>
        simp only [timestamps_of_clean hclean, bind, Except.bind, pure, Except.pure,
          Option.any_some]
        rfl
  rw [horizon100msStats, heligible]
  exact ⟨_, rfl, rfl, List.countP_map⟩

/-- The rows with labels by quotes. -/
theorem booktickerRows_of_valid {samples quotes : List Json} (h : ValidSamples samples)
    (hquotes : ∀ quote ∈ quotes, isValidQuote quote = true)
    (hcolumn : EventColumn quotes (receiveTimes quotes)) :
    ∃ rows, generateLabeledRowsWithBookticker samples quotes = .ok rows ∧
      List.Forall₂ (fun row t => row.horizon100ms.choice =
        chosenAt (receiveTimes quotes) (pricedEvent .bookTickerMid quotes) t) rows
        (samples.filterMap sampleTime?) := by
  obtain ⟨labeled, hlabeled, hchosen, -⟩ := rowsChosen_of_valid h 0
  have hstated : quotes.filter saysValid = quotes :=
    List.filter_eq_self.mpr fun quote hquote =>
      ((isValidQuote_iff quote).mp (hquotes quote hquote)).2
  rw [generateLabeledRowsWithBookticker, hstated, hlabeled, hcolumn.read]
  refine exists_mapM_of_forall₂ (P := fun (row : BooktickerRow) t => row.horizon100ms.choice =
    chosenAt (receiveTimes quotes) (pricedEvent .bookTickerMid quotes) t) hchosen ?_
  intro row t hrow
  obtain ⟨label, hlabel, hchoice⟩ := booktickerLabel_choice hcolumn hquotes hrow.priced hrow.time
    (bisectRight (receiveTimes quotes) t 0 (receiveTimes quotes).length)
  exact ⟨_, by simp only [timestampOf_toJson hrow.time, hlabel, bind, Except.bind]; rfl, hchoice⟩

/-- **What the quality counts** of the labels of validated samples: the samples with a later one
at the horizon, and the labels that are valid. -/
theorem labelQuality_horizon100 {samples : List Json} (h : ValidSamples samples)
    {rows : List LabeledRow} {labels : List FutureLabel}
    (hlabels : List.Forall₂ (fun row label => row.labels.get? "horizon_100ms" = some label)
      rows labels)
    (hcounted : ∀ horizon ∈ horizons, List.Forall₂
      (LabelCounted (samples.filterMap sampleTime?) horizon)
        (labelsOf (rows.map LabeledRow.toJson) horizon.name) (samples.filterMap sampleTime?)) :
    ∃ quality horizonQuality, labelQuality samples (rows.map LabeledRow.toJson) = .ok quality ∧
      ("horizon_100ms", horizonQuality) ∈ quality ∧
      horizonQuality.eligibleCount =
        (samples.filterMap sampleTime?).countP (reached (samples.filterMap sampleTime?)) ∧
      horizonQuality.validCount = labels.countP FutureLabel.valid := by
  have htimes := timestamps_of_clean h.clean
  obtain ⟨quality, hquality, -⟩ := labelQuality_eq_ok htimes hcounted
  obtain ⟨hq, hmade, -⟩ := horizonQuality_eq_ok htimes (hcounted horizon100 horizon100_mem)
  obtain ⟨heligible, hvalid⟩ := counts_of_horizonQuality htimes hmade
  refine ⟨quality, hq, hquality, ?_, heligible.trans ?_, hvalid.trans ?_⟩
  · have hmap := hquality
    rw [labelQuality, lastTime_eq htimes] at hmap
    have hmem := List.mem_map_of_mem (f := fun horizon : Horizon => do
      let quality ← horizonQuality samples (samples.filterMap sampleTime?).getLast?
        (rows.map LabeledRow.toJson) horizon
      return (horizon.name, quality)) horizon100_mem
    rw [mapM_eq_ok_iff.mp hmap] at hmem
    simp only [hmade, bind, Except.bind, pure, Except.pure] at hmem
    obtain ⟨entry, hentry, heq⟩ := List.mem_map.mp hmem
    exact Except.ok.inj heq ▸ hentry
  · refine congrArg (List.countP · _) (funext fun t => ?_)
    exact any_getLast?_eq_reached (h.increasing.imp le_of_lt)
  · rw [labelsOf_toJson, List.countP_map]
    refine countP_eq_of_forall₂ hlabels fun row label hlabel => ?_
    have hget : (dictToJson FutureLabel.toJson row.labels).get "horizon_100ms" = label.toJson := by
      rw [Json.get, get?_dictToJson, hlabel]
      rfl
    rw [Function.comp_apply, horizon100, hget]
    simp [FutureLabel.toJson, isDict, Json.isTrue]

/-- **The labels for the horizon of 100 ms agree.** -/
theorem labelChoices_agree {samples quotes : List Json} (h : ValidSamples samples)
    (hquotes : ∀ quote ∈ quotes, isValidQuote quote = true)
    (hordered : (receiveTimes quotes).Pairwise (· ≤ ·)) (flat : ℚ) :
    (∃ rows, ∃ labels : List FutureLabel, ∃ quality horizonQuality,
      validateDepthReferenceEvents samples = .ok (depthEvents samples) ∧
      generateLabeledRows samples flat = .ok rows ∧
      (rows.map fun row => row.labels.get? "horizon_100ms") = labels.map some ∧
      labelQuality samples (rows.map LabeledRow.toJson) = .ok quality ∧
      ("horizon_100ms", horizonQuality) ∈ quality ∧
      BuildersChoose samples .depthMid (depthEvents samples) (labels.map FutureLabel.choice)
        horizonQuality.eligibleCount horizonQuality.validCount ∧
      horizonQuality.validCount ≤ horizonQuality.eligibleCount) ∧
    ∃ rows stats, generateLabeledRowsWithBookticker samples quotes = .ok rows ∧
      horizon100msStats samples quotes rows = .ok stats ∧
      BuildersChoose samples .bookTickerMid quotes (rows.map fun row => row.horizon100ms.choice)
        stats.eligibleCount stats.validCount ∧
      stats.validCount ≤ stats.eligibleCount := by
  have hcounts (times : List ℤ) (priced : ℕ → Bool) :
      ((samples.filterMap sampleTime?).countP fun t => (chosenAt times priced t).valid) ≤
        (samples.filterMap sampleTime?).countP (reached times) :=
    List.countP_mono_left fun _ _ => reached_of_valid
  constructor
  · obtain ⟨rows, hgenerate, hchosen, hcounted⟩ := rowsChosen_of_valid h flat
    obtain ⟨labels, hlabels, hchoices⟩ := exists_forall₂_of_forall₂ hchosen
      fun row t hrow => hrow.label
    obtain ⟨quality, hq, hquality, hmem, heligible, hvalid⟩ :=
      labelQuality_horizon100 h hlabels hcounted
    obtain ⟨hcolumn, htimes⟩ := eventColumn_depthEvents h
    have hchoice (label : FutureLabel) (t : ℤ)
        (hlabel : label.choice = chosenAt (samples.filterMap sampleTime?) (fun _ => true) t) :
        label.choice = chosenAt (receiveTimes (depthEvents samples))
          (pricedEvent .depthMid (depthEvents samples)) t := by
      rw [hlabel, htimes]
      refine chosenAt_congr fun j hj => (pricedEvent_depthEvents h.clean ?_).symm
      rwa [← length_of_mapM (timestamps_of_clean h.clean)]
    have heligible' : hq.eligibleCount =
        (samples.filterMap sampleTime?).countP (reached (receiveTimes (depthEvents samples))) := by
      rw [htimes]
      exact heligible
    have hvalid' : hq.validCount = (samples.filterMap sampleTime?).countP fun t =>
        (chosenAt (receiveTimes (depthEvents samples))
          (pricedEvent .depthMid (depthEvents samples)) t).valid :=
      hvalid.trans (countP_eq_of_forall₂ hchoices fun label t hlabel =>
        congrArg LabelChoice.valid (hchoice label t hlabel))
    refine ⟨rows, labels, quality, hq, validateDepthReferenceEvents_of_clean h.clean, hgenerate,
      map_eq_of_forall₂ hlabels fun _ _ heq => heq, hquality, hmem, ?_, ?_⟩
    · rw [map_eq_of_forall₂ hchoices hchoice, heligible', hvalid']
      exact buildersChoose h.clean hcolumn
    · rw [heligible', hvalid']
      exact hcounts _ _
  · have hcolumn : EventColumn quotes (receiveTimes quotes) :=
      eventColumn_of_asInt? (fun quote hquote => (fields_of_isValidQuote (hquotes quote hquote)).2)
        hordered
    obtain ⟨rows, hrows, hchoices⟩ := booktickerRows_of_valid h hquotes hcolumn
    obtain ⟨stats, hstats, heligible, hvalid⟩ := horizon100msStats_eq_ok rows h.clean
    have hvalid' : stats.validCount = (samples.filterMap sampleTime?).countP fun t =>
        (chosenAt (receiveTimes quotes) (pricedEvent .bookTickerMid quotes) t).valid :=
      hvalid.trans (countP_eq_of_forall₂ hchoices fun row t hrow =>
        congrArg LabelChoice.valid hrow)
    refine ⟨rows, stats, hrows, hstats, ?_, ?_⟩
    · rw [map_eq_of_forall₂ hchoices fun _ _ heq => heq, heligible, hvalid']
      exact buildersChoose h.clean hcolumn
    · rw [heligible, hvalid']
      exact hcounts _ _

/-- A valid quote at a time. -/
def validQuoteAt (ts : ℤ) : Json :=
  .obj [("schema_version", .str "bookticker_reference_v1"),
    ("source", .str "binance_ws_bookTicker"), ("symbol", .str "BTCUSDT"), ("update_id", .int 1),
    ("exchange_event_ts", .null),
    ("local_recv_wall_ts", .float 1), ("local_recv_monotonic_ns", .int ts),
    ("best_bid", .int 100), ("best_ask", .int 102), ("best_bid_qty", .int 1),
    ("best_ask_qty", .int 1), ("mid_price", .int 101), ("spread", .int 2),
    ("spread_bps", .int 198), ("quality", .obj [("valid", .bool true), ("reasons", .arr [])])]

/-- Two samples with a horizon between them, and a quote after it. -/
theorem labelChoices_agree_twoSamples :
    (∃ rows, ∃ labels : List FutureLabel,
      generateLabeledRows [validSampleAt 0, validSampleAt 100000000] 0 = .ok rows ∧
      (rows.map fun row => row.labels.get? "horizon_100ms") = labels.map some ∧
      ∃ eligible valid, BuildersChoose [validSampleAt 0, validSampleAt 100000000] .depthMid
        (depthEvents [validSampleAt 0, validSampleAt 100000000]) (labels.map FutureLabel.choice)
        eligible valid) ∧
    ∃ rows stats, generateLabeledRowsWithBookticker [validSampleAt 0, validSampleAt 100000000]
        [validQuoteAt 110000000] = .ok rows ∧
      horizon100msStats [validSampleAt 0, validSampleAt 100000000] [validQuoteAt 110000000] rows =
        .ok stats ∧ stats.validCount ≤ stats.eligibleCount := by
  have hclean : cleanSampleErrors (validSampleAt 0) = [] ∧
      cleanSampleErrors (validSampleAt 100000000) = [] := by
    decide +kernel
  have hquotes : ∀ quote ∈ [validQuoteAt 110000000], isValidQuote quote = true :=
    List.forall_mem_singleton.mpr (by decide +kernel)
  have htime (ts : ℤ) : sampleTime? (validSampleAt ts) = some ts := rfl
  have hvalid : ValidSamples [validSampleAt 0, validSampleAt 100000000] :=
    ⟨by simp [hclean], by simp [htime]⟩
  obtain ⟨⟨rows, labels, _, _, -, hrows, hlabels, -, -, hchoose, -⟩,
      rows', stats, hrows', hstats, -, hle⟩ :=
    labelChoices_agree hvalid hquotes (by decide) 0
  exact ⟨⟨rows, labels, hrows, hlabels, _, _, hchoose⟩, rows', stats, hrows', hstats, hle⟩

end SomethingTrade
