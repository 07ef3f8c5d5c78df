import SomethingTrade.LabeledRows

/-!
# Searches of the Labeled Dataset

What the two bisections of the labeled dataset find, said with linear scans. A label is given by
the first sample after the row that is at or after the target, and is valid when that sample is
not too late. A feature that looks back is of the last sample, up to the row, that is at or
before the past time, unless that sample is too old.

## Main results

* `buildLabel_of_clean`: the labels of validated samples.
* `pastFeature_of_comparable`: the features of validated samples that look back.
* `searched_of_valid`: both, for the rows of validated samples.
-/

namespace SomethingTrade

/-! ### The searches -/

theorem elementAt_of_getElem? {α : Type} {xs : List α} {i : ℕ} {x : α} (h : xs[i]? = some x) :
    elementAt xs i = .ok x := by
  rw [elementAt, h]

/-- The search for the future is a linear scan of the later times. -/
theorem selectFutureIndex_eq {times : List ℤ} (hs : times.Pairwise (· ≤ ·)) {i : ℕ} {t : ℤ}
    (ht : times[i]? = some t) (horizonMs : ℤ) :
    selectFutureIndex times i horizonMs =
      .ok (firstAtOrAfter times (t + horizonMs * 1000000) (i + 1)) := by
  have hlo : i + 1 ≤ times.length := (List.getElem?_eq_some_iff.mp ht).1
  rw [selectFutureIndex, elementAt_of_getElem? ht, firstAtOrAfter_eq hs _ hlo]
  rfl

/-- The age a feature that looks back allows, of the sample at an index. -/
def recentEnough (times : List ℤ) (targetTime : ℤ) (policy : PastFeaturePolicy) (j : ℕ) : Bool :=
  times[j]?.any fun u => decide (((targetTime - u : ℤ) : ℚ) / 1000000 ≤ policy.maxGapMs)

/-- The sample a feature that looks back is from: found by a linear scan, unless it is too old. -/
def scannedPast (times : List ℤ) (i : ℕ) (t : ℤ) (policy : PastFeaturePolicy) : Option ℕ :=
  let targetTime := t - policy.lookbackMs * 1000000
  (lastAtOrBefore times targetTime (i + 1)).filter (recentEnough times targetTime policy)

/-! ### Samples -/

/-- Features that labels can be made of: a positive price and a spread that is not negative. -/
def Labelable (row : RowFeatures) : Prop :=
  (∃ mid, row.get "mid_price" = some mid ∧ 0 < mid) ∧
    ∃ spread, row.get "spread_bps" = some spread ∧ 0 ≤ spread

/-- What the later rows read of a validated sample. -/
structure SampleReadable (sample : Json) (u : ℤ) : Prop where
  time : timestampOf sample = .ok u
  mid : ∃ mid, sampleMidPrice sample = some mid ∧ 0 < mid
  updateId : (sample.get "last_update_id").isNull = false

/-- Validated samples can be read. -/
theorem readable_of_clean {samples : List Json}
    (h : ∀ sample ∈ samples, cleanSampleErrors sample = []) {j : ℕ} {u : ℤ}
    (hu : (samples.filterMap sampleTime?)[j]? = some u) :
    ∃ sample, samples[j]? = some sample ∧ SampleReadable sample u := by
  have hstamps := congrArg (fun l => l[j]?) (mapM_eq_ok_iff.mp (timestamps_of_clean h))
  rw [List.getElem?_map, List.getElem?_map, hu, Option.map_some] at hstamps
  obtain ⟨sample, hsample, hstamp⟩ := Option.map_eq_some_iff.mp hstamps
  have hclean := h sample (List.mem_of_getElem? hsample)
  obtain ⟨bids, asks, bestBid, bestAsk, hmid, hpos, hlt, -⟩ := features_of_clean hclean j
  refine ⟨sample, hsample, hstamp, ⟨_, hmid, by linarith⟩, ?_⟩
  simp only [cleanSampleErrors, sortedSet_eq_nil, List.append_eq_nil_iff] at hclean
  have hupdate := hclean.1.1.1.1.2
  simpa using hupdate

/-! ### Labels -/

/-- What a label says of the sample it is given by. -/
structure LabelFound (times : List ℤ) (i : ℕ) (t : ℤ) (horizon : Horizon)
    (label : FutureLabel) : Prop where
  target : label.targetLocalRecvMonotonicNs = t + horizon.horizonMs * 1000000
  scanned : label.futureIndex = firstAtOrAfter times (t + horizon.horizonMs * 1000000) (i + 1)
  time : label.futureLocalRecvMonotonicNs = label.futureIndex.bind fun j => times[j]?
  noFuture : label.invalidReason = some "NO_FUTURE_SAMPLE" ↔ label.futureIndex = none
  valid : label.valid = true ↔ ∃ j u, label.futureIndex = some j ∧ times[j]? = some u ∧
    ((u - (t + horizon.horizonMs * 1000000) : ℤ) : ℚ) / 1000000 ≤ horizon.maxFutureGapMs

/-- A valid label has all its fields and no reason, another one has a reason. -/
structure LabelComplete (label : FutureLabel) : Prop where
  fields : label.valid = true → label.futureLocalRecvMonotonicNs.isSome ∧
    label.futureLastUpdateId.isNull = false ∧ label.futureMidPrice.isSome ∧
    label.futureGapMs.isSome ∧ label.returnBps.isSome ∧ label.direction.isSome ∧
    label.spreadAdjustedDirection.isSome ∧ label.invalidReason = none
  reason : label.valid = false → ∃ reason, label.invalidReason = some reason ∧ reason ≠ ""

/-- With prices on both sides only the gap decides. -/
theorem judgeLabel_of_prices (label : FutureLabel) {gapMs currentMid futureMid spreadBps : ℚ}
    (hcurrent : 0 < currentMid) (hfuture : 0 < futureMid) (hspread : 0 ≤ spreadBps) (flat : ℚ) :
    judgeLabel label gapMs currentMid (some futureMid) (some spreadBps) flat =
      if gapMs > label.maxFutureGapMs then label.invalid "FUTURE_GAP_TOO_LARGE"
      else
        { label with
          returnBps := some ((futureMid - currentMid) / currentMid * 10000)
          direction :=
            some (directionLabel ((futureMid - currentMid) / currentMid * 10000) flat)
          spreadAdjustedDirection :=
            some (directionLabel ((futureMid - currentMid) / currentMid * 10000) spreadBps)
          valid := true } := by
  have hreturn : computeReturnBps currentMid futureMid =
      .ok ((futureMid - currentMid) / currentMid * 10000) := by
    rw [computeReturnBps, if_neg (not_le.mpr hcurrent)]
  simp only [judgeLabel, hreturn, if_neg (not_le.mpr hfuture), if_neg (not_lt.mpr hspread)]

/-- **The labels of validated samples** are given by the first later sample at or after the
target, and are valid when it is not too late. -/
theorem buildLabel_of_clean {samples : List Json} (h : ValidSamples samples) {i : ℕ} {t : ℤ}
    (ht : (samples.filterMap sampleTime?)[i]? = some t) {current : RowFeatures}
    (hcurrent : Labelable current) (flat : ℚ) (horizon : Horizon) :
    ∃ label, buildLabel samples (samples.filterMap sampleTime?) i current flat horizon =
        .ok label ∧
      LabelFound (samples.filterMap sampleTime?) i t horizon label ∧ LabelComplete label := by
  obtain ⟨⟨mid, hmid, hpos⟩, spread, hspread, hnonneg⟩ := hcurrent
  have hfilter : (some mid).filter (fun mid => decide (mid > 0)) = some mid := by simp [hpos]
  rw [buildLabel, elementAt_of_getElem? ht]
  simp only [bind, Except.bind, pure, Except.pure, hmid, hfilter,
    selectFutureIndex_eq (h.increasing.imp le_of_lt) ht]
  cases hscan : firstAtOrAfter (samples.filterMap sampleTime?)
      (t + horizon.horizonMs * 1000000) (i + 1) with
  | none =>
      refine ⟨_, rfl, ⟨rfl, hscan.symm, rfl, by simp [FutureLabel.invalid], ?_⟩, ?_, ?_⟩
      · simp [FutureLabel.invalid]
      · simp [FutureLabel.invalid]
      · exact fun _ => ⟨_, rfl, by decide⟩
  | some j =>
      obtain ⟨⟨-, u, hu, -⟩, -⟩ := firstAtOrAfter_eq_some_iff.mp hscan
      obtain ⟨sample, hsample, hread⟩ := readable_of_clean h.clean hu
      obtain ⟨futureMid, hfutureMid, hfuturePos⟩ := hread.mid
      simp only [elementAt_of_getElem? hsample, hread.time, hfutureMid, hspread,
        judgeLabel_of_prices _ hpos hfuturePos hnonneg]
      by_cases hgap : ((u - (t + horizon.horizonMs * 1000000) : ℤ) : ℚ) / 1000000 >
          horizon.maxFutureGapMs
      · rw [if_pos hgap]
        refine ⟨_, rfl, ⟨rfl, hscan.symm, hu.symm, by simp [FutureLabel.invalid], ?_⟩, ?_, ?_⟩
        · push_cast at hgap
          simpa [FutureLabel.invalid, hu] using hgap
        · simp [FutureLabel.invalid]
        · exact fun _ => ⟨_, rfl, by decide⟩
      · rw [if_neg hgap]
        refine ⟨_, rfl, ⟨rfl, hscan.symm, hu.symm, by simp, ?_⟩, ?_, ?_⟩
        · push_cast at hgap
          simpa [hu] using hgap
        · exact fun _ => ⟨rfl, hread.updateId, rfl, rfl, rfl, rfl, rfl, rfl⟩
        · simp

/-! ### Features that look back -/

/-- What a feature that looks back takes over of the sample it is from. -/
structure PastTaken (times : List ℤ) (allFeatures : List RowFeatures) (i : ℕ) (t : ℤ)
    (policy : PastFeaturePolicy) (current : RowFeatures) (past : PastFeature) : Prop where
  source : past.sourceIndex = scannedPast times i t policy
  missing : scannedPast times i t policy = none → past.value = none
  compared : ∀ j, scannedPast times i t policy = some j → ∃ earlier,
    allFeatures[j]? = some earlier ∧ compareWithPast policy current earlier j = .ok past

/-- **A feature that looks back** is of the last sample at or before the past time, if that is
not too old. -/
theorem pastFeature_of_comparable {times : List ℤ} {allFeatures : List RowFeatures}
    (hs : times.Pairwise (· ≤ ·)) (hlen : times.length = allFeatures.length)
    (hall : ∀ row ∈ allFeatures, Comparable row) {i : ℕ} {t : ℤ} (ht : times[i]? = some t)
    {current : RowFeatures} (hcurrent : Comparable current) (policy : PastFeaturePolicy) :
    ∃ past, pastFeature times allFeatures i current policy = .ok past ∧
      PastTaken times allFeatures i t policy current past := by
  have hlt : i < times.length := (List.getElem?_eq_some_iff.mp ht).1
  have hscan := lastAtOrBefore_eq hs (t - policy.lookbackMs * 1000000) (Nat.succ_le_of_lt hlt)
  have hle := bisectRight_le times (t - policy.lookbackMs * 1000000) (Nat.zero_le (i + 1))
  simp only [pastFeature, elementAt_of_getElem? ht, bind, Except.bind, pure, Except.pure]
  cases hindex : bisectRight times (t - policy.lookbackMs * 1000000) 0 (i + 1) with
  | zero =>
      rw [hindex] at hscan
      have hnone : scannedPast times i t policy = none := by simp [scannedPast, hscan]
      exact ⟨_, rfl, hnone.symm, fun _ => rfl, fun j hj => absurd (hnone.symm.trans hj) (by simp)⟩
  | succ j =>
      rw [hindex] at hscan hle
      have hj : j < times.length := by omega
      have hu := List.getElem?_eq_getElem hj
      have hearlier := List.getElem?_eq_getElem (hlen ▸ hj : j < allFeatures.length)
      simp only [elementAt_of_getElem? hu, elementAt_of_getElem? hearlier]
      by_cases hgap : ((t - policy.lookbackMs * 1000000 - times[j] : ℤ) : ℚ) / 1000000 >
          policy.maxGapMs
      · rw [if_pos hgap]
        have hnone : scannedPast times i t policy = none := by
          push_cast at hgap
          simpa [scannedPast, hscan, recentEnough, hu] using hgap
        exact ⟨_, rfl, hnone.symm, fun _ => rfl,
          fun k hk => absurd (hnone.symm.trans hk) (by simp)⟩
      · rw [if_neg hgap]
        have hsome : scannedPast times i t policy = some j := by
          push_cast at hgap
          simpa [scannedPast, hscan, recentEnough, hu] using hgap
        obtain ⟨value, hvalue⟩ := exists_compareWithPast hcurrent
          (hall _ (List.mem_of_getElem? hearlier)) policy j
        refine ⟨_, hvalue, hsome.symm, fun hnone => absurd (hsome.symm.trans hnone) (by simp),
          fun k hk => ?_⟩
        obtain rfl := Option.some.inj (hsome.symm.trans hk)
        exact ⟨_, hearlier, hvalue⟩

/-- Taking features that look back over sets these and leaves the others. -/
theorem foldlM_setPast {taken : PastFeaturePolicy → Except String PastFeature}
    {policies : List PastFeaturePolicy} {row row' : RowFeatures}
    (hnodup : (policies.map PastFeaturePolicy.name).Nodup)
    (h : (policies.foldlM (fun row policy => do
      let past ← taken policy
      return row.setPast policy past) row) = .ok row') :
    (∀ policy ∈ policies, ∃ past, taken policy = .ok past ∧
      row'.features.get? policy.name = some past.value ∧
      row'.sourceIndices.get? policy.name = some past.sourceIndex) ∧
    ∀ name ∉ policies.map PastFeaturePolicy.name,
      row'.features.get? name = row.features.get? name ∧
      row'.sourceIndices.get? name = row.sourceIndices.get? name := by
  induction policies generalizing row with
  | nil =>
      obtain rfl := Except.ok.inj h
      simp
  | cons policy policies ih =>
      rw [List.foldlM_cons] at h
      rw [List.map_cons, List.nodup_cons] at hnodup
      cases htaken : taken policy with
      | error e => simp [htaken, bind, Except.bind] at h
      | ok past =>
          simp only [htaken, bind, Except.bind, pure, Except.pure] at h ih
          obtain ⟨hset, hkept⟩ := ih hnodup.2 h
          constructor
          · intro p hp
            rcases List.mem_cons.mp hp with rfl | hp
            · obtain ⟨hvalue, hsource⟩ := hkept p.name hnodup.1
              exact ⟨past, htaken, hvalue.trans (Dict.get?_set_self _ _ _),
                hsource.trans (Dict.get?_set_self _ _ _)⟩
            · exact hset p hp
          · intro name hname
            rw [List.map_cons, List.mem_cons, not_or] at hname
            obtain ⟨hvalue, hsource⟩ := hkept name hname.2
            exact ⟨hvalue.trans (Dict.get?_set_of_ne _ _ (Ne.symm hname.1)),
              hsource.trans (Dict.get?_set_of_ne _ _ (Ne.symm hname.1))⟩

/-- A feature that looks back is of the sample at or before it. -/
theorem scannedPast_le {times : List ℤ} {i j : ℕ} {t : ℤ} {policy : PastFeaturePolicy}
    (h : scannedPast times i t policy = some j) : j ≤ i := by
  obtain ⟨⟨hlt, -⟩, -⟩ := lastAtOrBefore_eq_some_iff.mp (Option.filter_eq_some_iff.mp h).1
  exact Nat.le_of_lt_succ hlt

/-! ### Rows -/

/-- What the features of a sample itself have. -/
structure BaseFeatures (i : ℕ) (row : RowFeatures) : Prop where
  labelable : Labelable row
  names : ∀ name ∈ featureNames, ∃ value, row.features.get? name = some value
  sources : ∀ name j, row.sourceIndices.get? name = some (some j) → j = i

theorem BaseFeatures.comparable {i : ℕ} {row : RowFeatures} (h : BaseFeatures i row) :
    Comparable row :=
  ⟨h.labelable.1, h.labelable.2.imp fun _ hspread => hspread.1⟩

/-- The features of a validated sample itself. -/
theorem base_of_clean {sample : Json} (h : cleanSampleErrors sample = []) (i : ℕ) :
    ∃ row, extractCurrentFeatures sample i = .ok row ∧ BaseFeatures i row := by
  obtain ⟨bids, asks, bestBid, bestAsk, -, hpos, hlt, hextract⟩ := features_of_clean h i
  have hmid : 0 < (bestBid + bestAsk) / 2 := by linarith
  have hspread : 0 ≤ (bestAsk - bestBid) / ((bestBid + bestAsk) / 2) * 10000 := by
    have hdiff : 0 ≤ bestAsk - bestBid := by linarith
    positivity
  have hmidAt : (Dict.ofList (bookFeatures bids asks bestBid bestAsk)).get? "mid_price" =
      some (some ((bestBid + bestAsk) / 2)) :=
    get?_bookFeatures (by simp [bookFeatures])
  have hspreadAt : (Dict.ofList (bookFeatures bids asks bestBid bestAsk)).get? "spread_bps" =
      some (some ((bestAsk - bestBid) / ((bestBid + bestAsk) / 2) * 10000)) :=
    get?_bookFeatures (by simp [bookFeatures, hmid])
  refine ⟨_, hextract, ⟨⟨_, ?_, hmid⟩, _, ?_, hspread⟩, ?_, ?_⟩
  · rw [RowFeatures.get, hmidAt]
    rfl
  · rw [RowFeatures.get, hspreadAt]
    rfl
  · intro name hname
    rw [← map_fst_bookFeatures bids asks bestBid bestAsk] at hname
    obtain ⟨e, he, rfl⟩ := List.mem_map.mp hname
    exact ⟨e.2, get?_bookFeatures he⟩
  · intro name j hj
    have hmem := Dict.mem_of_get?_ofList hj
    obtain ⟨e, -, he⟩ := List.mem_map.mp hmem
    exact (Option.some.inj (congrArg Prod.snd he)).symm

/-- What the features of a row have. -/
structure FeaturesSearched (times : List ℤ) (allFeatures : List RowFeatures) (i : ℕ) (t : ℤ)
    (current row : RowFeatures) : Prop where
  labelable : Labelable row
  names : ∀ name ∈ featureNames, ∃ value, row.features.get? name = some value
  sources : ∀ name j, row.sourceIndices.get? name = some (some j) → j ≤ i
  past : ∀ policy ∈ pastFeaturePolicies, ∃ past,
    PastTaken times allFeatures i t policy current past ∧
    row.features.get? policy.name = some past.value ∧
    row.sourceIndices.get? policy.name = some past.sourceIndex

/-- The features of a row, when all samples have theirs. -/
theorem searched_of_rowFeatures {times : List ℤ} {allFeatures : List RowFeatures}
    (hs : times.Pairwise (· ≤ ·)) (hlen : times.length = allFeatures.length)
    (hall : ∀ row ∈ allFeatures, Comparable row) {i : ℕ} {t : ℤ} (ht : times[i]? = some t)
    {current row : RowFeatures} (hat : allFeatures[i]? = some current)
    (hbase : BaseFeatures i current) (h : rowFeatures times allFeatures i = .ok row) :
    FeaturesSearched times allFeatures i t current row := by
  rw [rowFeatures, elementAt_of_getElem? hat] at h
  obtain ⟨hset, hkept⟩ := foldlM_setPast (by decide) h
  have hpast : ∀ policy ∈ pastFeaturePolicies, ∃ past,
      PastTaken times allFeatures i t policy current past ∧
      row.features.get? policy.name = some past.value ∧
      row.sourceIndices.get? policy.name = some past.sourceIndex := by
    intro policy hpolicy
    obtain ⟨past, hmade, hvalue, hsource⟩ := hset policy hpolicy
    obtain ⟨past', hmade', htaken⟩ :=
      pastFeature_of_comparable hs hlen hall ht hbase.comparable policy
    obtain rfl := Except.ok.inj (hmade.symm.trans hmade')
    exact ⟨past, htaken, hvalue, hsource⟩
  have hget (name : String) (hname : name ∉ pastFeaturePolicies.map PastFeaturePolicy.name) :
      row.get name = current.get name := by
    rw [RowFeatures.get, RowFeatures.get, (hkept name hname).1]
  refine ⟨?_, ?_, ?_, hpast⟩
  · rw [Labelable, hget "mid_price" (by decide), hget "spread_bps" (by decide)]
    exact hbase.labelable
  · intro name hname
    by_cases hpolicy : name ∈ pastFeaturePolicies.map PastFeaturePolicy.name
    · obtain ⟨policy, hmem, rfl⟩ := List.mem_map.mp hpolicy
      obtain ⟨past, -, hvalue, -⟩ := hpast policy hmem
      exact ⟨past.value, hvalue⟩
    · rw [(hkept name hpolicy).1]
      exact hbase.names name hname
  · intro name j hj
    by_cases hpolicy : name ∈ pastFeaturePolicies.map PastFeaturePolicy.name
    · obtain ⟨policy, hmem, rfl⟩ := List.mem_map.mp hpolicy
      obtain ⟨past, htaken, -, hsource⟩ := hpast policy hmem
      rw [hsource, htaken.source] at hj
      exact scannedPast_le (Option.some.inj hj)
    · rw [(hkept name hpolicy).2] at hj
      exact (hbase.sources name j hj).le

/-- A feature that looks back, said with a linear scan of the times up to the row. -/
structure PastSearched (samples : List Json) (i : ℕ) (targetTime : ℤ) (policy : PastFeaturePolicy)
    (row : LabeledRow) : Prop where
  scanned : row.featureSourceIndices.get? policy.name =
    some ((lastAtOrBefore (samples.filterMap sampleTime?) targetTime (i + 1)).filter
      (recentEnough (samples.filterMap sampleTime?) targetTime policy))
  last : ∀ j, row.featureSourceIndices.get? policy.name = some (some j) ↔
    IsGreatest (indicesAtOrBefore (samples.filterMap sampleTime?) targetTime (i + 1)) j ∧
      recentEnough (samples.filterMap sampleTime?) targetTime policy j = true
  missing : row.featureSourceIndices.get? policy.name = some none →
    row.features.get? policy.name = some none
  compared : ∀ j, row.featureSourceIndices.get? policy.name = some (some j) →
    ∃ sample earlier current past value, samples[i]? = some sample ∧ samples[j]? = some earlier ∧
      extractCurrentFeatures sample i = .ok current ∧
      extractCurrentFeatures earlier j = .ok past ∧
      compareWithPast policy current past j = .ok ⟨some value, none, some j⟩ ∧
      row.features.get? policy.name = some (some value)

/-- What a row has: its labels and features are of the samples that the scans find. -/
structure RowSearched (samples : List Json) (i : ℕ) (t : ℤ) (row : LabeledRow) : Prop where
  time : (samples.filterMap sampleTime?)[i]? = some t
  timeField : row.localRecvMonotonicNs = .int t
  labels : ∀ horizon ∈ horizons, ∃ label, row.labels.get? horizon.name = some label ∧
    LabelFound (samples.filterMap sampleTime?) i t horizon label ∧ LabelComplete label
  names : ∀ name ∈ featureNames, ∃ value, row.features.get? name = some value
  sources : ∀ name j, row.featureSourceIndices.get? name = some (some j) → j ≤ i
  past : ∀ policy ∈ pastFeaturePolicies,
    PastSearched samples i (t - policy.lookbackMs * 1000000) policy row

/-- **The rows of validated samples** have the labels and features that linear scans find. -/
theorem searched_of_valid {samples : List Json} (h : ValidSamples samples) (flat : ℚ) :
    ∃ rows, generateLabeledRows samples flat = .ok rows ∧ rows.length = samples.length ∧
      ∀ i row, rows[i]? = some row → ∃ t, RowSearched samples i t row := by
  obtain ⟨allFeatures, rows, hall, hrows, hgenerate⟩ := generate_of_valid h flat
  have hrowsLen : rows.length = samples.length := by simpa using length_of_mapM hrows
  have hallLen : allFeatures.length = samples.length := by simpa using length_of_mapM hall
  have htimesLen := length_of_mapM (timestamps_of_clean h.clean)
  refine ⟨rows, hgenerate, hrowsLen, fun i row hrow => ?_⟩
  obtain ⟨sample, hsample, hmade⟩ := made_of_getElem? hrows hrow
  obtain ⟨current, labels, hcurrent, hlabels, hfeatures, hsources, hlabelsEq, htimeEq⟩ :=
    labeledRow_eq_ok hmade
  have htimes := congrArg (fun l => l[i]?) (map_time_eq h.clean)
  rw [List.getElem?_map, List.getElem?_map, hsample, Option.map_some] at htimes
  obtain ⟨t, ht, hfield⟩ := Option.map_eq_some_iff.mp htimes.symm
  have hat {j : ℕ} {earlier : Json} (hearlier : samples[j]? = some earlier) :
      ∃ base, allFeatures[j]? = some base ∧ extractCurrentFeatures earlier j = .ok base ∧
        BaseFeatures j base := by
    obtain ⟨base, hbase, hhas⟩ :=
      base_of_clean (h.clean earlier (List.mem_of_getElem? hearlier)) j
    have hmap := getElem?_of_mapM (f := extractCurrentFeatures) hall j
    rw [hearlier, Option.map_some, hbase] at hmap
    obtain ⟨base', hget, heq⟩ := Option.map_eq_some_iff.mp hmap.symm
    exact ⟨base, hget.trans (congrArg some (Except.ok.inj heq)), hbase, hhas⟩
  obtain ⟨base, hbaseAt, hbaseMade, hbase⟩ := hat hsample
  have hsearched := searched_of_rowFeatures (h.increasing.imp le_of_lt)
    (htimesLen.trans hallLen.symm) (comparable_of_mapM h.clean hall) ht hbaseAt hbase hcurrent
  refine ⟨t, ht, htimeEq.trans hfield.symm, ?_, hfeatures ▸ hsearched.names,
    hsources ▸ hsearched.sources, ?_⟩
  · intro horizon hhorizon
    obtain ⟨label, hlabel, hfound, hcomplete⟩ :=
      buildLabel_of_clean h ht hsearched.labelable flat horizon
    refine ⟨label, ?_, hfound, hcomplete⟩
    rw [hlabelsEq, ← Dict.mem_entries_iff, mem_labels hlabels]
    exact ⟨horizon, hhorizon, hlabel, rfl⟩
  · intro policy hpolicy
    obtain ⟨past, htaken, hvalue, hsource⟩ := hsearched.past policy hpolicy
    rw [← hfeatures] at hvalue
    rw [← hsources] at hsource
    rw [htaken.source] at hsource
    refine ⟨hsource, fun j => ?_, fun hnone => ?_, fun j hj => ?_⟩
    · rw [hsource, Option.some.injEq, scannedPast, Option.filter_eq_some_iff,
        lastAtOrBefore_eq_some_iff]
    · rw [hvalue, htaken.missing (Option.some.inj (hsource.symm.trans hnone))]
    · rw [hsource, Option.some.injEq] at hj
      obtain ⟨earlier, hearlier, hcompare⟩ := htaken.compared j hj
      have hlt := (List.getElem?_eq_some_iff.mp hearlier).1
      have hsampleAt := List.getElem?_eq_getElem (hallLen ▸ hlt : j < samples.length)
      obtain ⟨base', hat', hmade', hbase'⟩ := hat hsampleAt
      obtain rfl := Option.some.inj (hearlier.symm.trans hat')
      obtain ⟨value, hcompared⟩ :=
        exists_compareWithPast hbase.comparable hbase'.comparable policy j
      obtain rfl := Except.ok.inj (hcompare.symm.trans hcompared)
      exact ⟨sample, samples[j], base, earlier, value, hsample, hsampleAt, hbaseMade, hmade',
        hcompared, hvalue⟩

end SomethingTrade
