import SomethingTrade.StreamingLabels

/-!
# The Streaming Labels Agree

The labels that ask the table of events are those that bisect the sorted lists. An event that a
query by receive time finds is the one the bisection of the receive times finds; by exchange time
the table sorts by the receive times second, which in a file in order is the stable sort of the
list. So each row of labels is the same, and so are the metrics of the labels.

## Main results

* `StoresRows.buildReferenceLabel`, `StoresRows.buildReceiveTimeLabel`,
  `StoresRows.buildExchangeTimeLabel`: the labels of the two paths.
* `ingest_files`: what the table holds once the files are read.
* `streaming_labels_agree`: the streaming path agrees with the path that holds lists.
-/

namespace SomethingTrade

/-! ### Queries and bisections -/

/-- The table holds the events of a source, in their order. -/
structure StoresRows (store : EventStore) (source : ReferenceSource) (rows : List Json) :
    Prop where
  timed : TimedRows rows
  localRows : store.localRows source = rows.map fun row => (localTs row, row)
  exchangeRows : store.exchangeRows source = rows.filterMap fun row =>
    (sourceExchangeTsMs row source true).map fun selected =>
      (selected.2, (localTs row : WithBot ℤ), row)

namespace StoresRows

variable {store : EventStore} {source : ReferenceSource} {rows : List Json}

theorem localBisectRight (h : StoresRows store source rows) (ts : ℤ) :
    store.localBisectRight source ts =
      bisectRight (rows.map localTs) ts 0 (rows.map localTs).length := by
  rw [EventStore.localBisectRight, h.localRows, bisectRight_eq_countP h.timed.ordered,
    List.countP_map]
  rfl

theorem localBisectLeft (h : StoresRows store source rows) (ts : ℤ) :
    store.localBisectLeft source ts =
      bisectLeft (rows.map localTs) ts 0 (rows.map localTs).length := by
  rw [EventStore.localBisectLeft, h.localRows, bisectLeft_eq_countP h.timed.ordered,
    List.countP_map]
  rfl

/-- The first event that a query by receive time finds is the one a bisection finds. -/
theorem firstByLocalTs (h : StoresRows store source rows) (ts : ℤ) :
    store.firstByLocalTs source ts =
      rows[bisectLeft (rows.map localTs) ts 0 (rows.map localTs).length]?.map fun row =>
        (row, localTs row) := by
  have hsorted : SortedBy Prod.fst (rows.map fun row => (localTs row, row)) :=
    List.pairwise_map.mpr h.timed.ordered
  rw [EventStore.firstByLocalTs, h.localRows, sortBy_eq_self (hsorted.filter _),
    getElem?_bisectLeft h.timed.ordered, List.filter_map, List.head?_map, Option.map_map]
  rfl

/-- The events with an exchange time, as the table gives them in the order of the inserts. -/
theorem sortedByExchangeTime_eq (h : StoresRows store source rows) :
    sortedByExchangeTime rows source true =
      (sortBy (fun e => toLex (e.1, e.2.1)) (store.exchangeRows source)).map fun e =>
        (e.1, e.2.2) := by
  have hsecond : SortedBy (fun e => e.2.1) (store.exchangeRows source) := by
    rw [h.exchangeRows]
    refine List.pairwise_filterMap.mpr (h.timed.ordered.imp fun {a b} hab => ?_)
    intro x hx y hy
    obtain ⟨_, -, rfl⟩ := Option.map_eq_some_iff.mp hx
    obtain ⟨_, -, rfl⟩ := Option.map_eq_some_iff.mp hy
    exact WithBot.coe_le_coe.mpr hab
  rw [sortBy_toLex hsecond, sortedByExchangeTime, h.exchangeRows]
  have hrows : (rows.filterMap fun row =>
      (sourceExchangeTsMs row source true).map fun selected => (selected.2, row)) =
        (rows.filterMap fun row => (sourceExchangeTsMs row source true).map fun selected =>
          (selected.2, (localTs row : WithBot ℤ), row)).map fun e => (e.1, e.2.2) := by
    rw [List.map_filterMap]
    refine List.filterMap_congr fun row _ => ?_
    rw [Option.map_map]
    rfl
  rw [hrows, sortBy_map]

/-- The events of the table with an exchange time are those that are sorted in the list. -/
theorem perm_exchangeRows (h : StoresRows store source rows) :
    (sortedByExchangeTime rows source true).Perm
      ((store.exchangeRows source).map fun e => (e.1, e.2.2)) := by
  rw [h.sortedByExchangeTime_eq]
  exact (perm_sortBy _ _).map _

theorem exchangeBisectLeft (h : StoresRows store source rows) (ts : ℚ) :
    store.exchangeBisectLeft source ts =
      bisectLeft ((sortedByExchangeTime rows source true).map Prod.fst) ts 0
        ((sortedByExchangeTime rows source true).map Prod.fst).length := by
  have hsorted : SortedBy Prod.fst (sortedByExchangeTime rows source true) :=
    sortedBy_sortBy Prod.fst _
  rw [bisectLeft_eq_countP hsorted, h.perm_exchangeRows.countP_eq, List.countP_map]
  rfl

/-- The first event that a query by exchange time finds is the one a bisection finds. -/
theorem firstByExchangeTs (h : StoresRows store source rows) (ts : ℚ) :
    store.firstByExchangeTs source ts =
      (sortedByExchangeTime rows source true)[bisectLeft
        ((sortedByExchangeTime rows source true).map Prod.fst) ts 0
        ((sortedByExchangeTime rows source true).map Prod.fst).length]?.map fun e =>
          (e.2, e.1) := by
  have hsorted : SortedBy Prod.fst (sortedByExchangeTime rows source true) :=
    sortedBy_sortBy Prod.fst _
  rw [getElem?_bisectLeft hsorted, EventStore.firstByExchangeTs, sortBy_filter,
    h.sortedByExchangeTime_eq, List.filter_map, List.head?_map, Option.map_map]
  rfl

end StoresRows

/-! ### Labels -/

/-- Both paths judge a label alike when the mid price is positive. -/
theorem judgeProtocolLabel_eq {featureMid : ℚ} (hmid : 0 < featureMid) (futureGapMs : ℚ)
    (futurePrice : Option ℚ) :
    judgeProtocolLabel featureMid futureGapMs futurePrice =
      .ok (judgeStreamingLabel featureMid futureGapMs futurePrice) := by
  rw [judgeProtocolLabel, judgeStreamingLabel]
  by_cases hneg : futureGapMs < 0
  · rw [if_pos hneg, if_pos hneg]
  · rw [if_neg hneg, if_neg hneg]
    by_cases hfar : futureGapMs > labelMaxFutureGapMs
    · rw [if_pos hfar, if_pos hfar]
    · rw [if_neg hfar, if_neg hfar]
      cases futurePrice.filter fun price => price > 0 with
      | none => rfl
      | some price =>
          simp only [computeReturnBps, if_neg (not_le.mpr hmid), streamingReturnBps,
            directionLabel, streamingDirectionLabel, neg_zero]
          rfl

/-- The benchmark judges a label of an event that is not too early like the others. -/
theorem judgeReferenceLabel_eq {featureMid futureGapMs : ℚ} (hmid : 0 < featureMid)
    (hgap : 0 ≤ futureGapMs) (futurePrice : Option ℚ) :
    judgeReferenceLabel featureMid futureGapMs futurePrice =
      judgeStreamingLabel featureMid futureGapMs futurePrice := by
  rw [judgeReferenceLabel, judgeStreamingLabel, if_neg (not_lt.mpr hgap)]
  by_cases hfar : futureGapMs > labelMaxFutureGapMs
  · rw [if_pos hfar, if_pos hfar]
  · rw [if_neg hfar, if_neg hfar]
    cases futurePrice.filter fun price => price > 0 with
    | none => rfl
    | some price =>
        simp only [computeReturnBps, if_neg (not_le.mpr hmid), streamingReturnBps,
          directionLabel, streamingDirectionLabel, neg_zero]

namespace StoresRows

variable {store : EventStore} {source : ReferenceSource} {rows : List Json}

/-- **The benchmark labels of the two paths are the same.** -/
theorem buildReferenceLabel (h : StoresRows store source rows) (sample : Json)
    (featureMidPrice : Option ℚ) {ts : ℤ}
    (hts : (sample.get "local_recv_monotonic_ns").asInt? = some ts) :
    SomethingTrade.buildReferenceLabel source sample featureMidPrice rows (rows.map localTs) =
      .ok (streamingReferenceLabel store source ts featureMidPrice) := by
  simp only [SomethingTrade.buildReferenceLabel, streamingReferenceLabel, hts,
    h.localBisectRight, h.localBisectLeft, h.firstByLocalTs]
  cases hmid : featureMidPrice.filter fun mid => mid > 0 with
  | none => rfl
  | some featureMid =>
      have hpos : 0 < featureMid := by
        obtain ⟨-, hpos⟩ := Option.filter_eq_some_iff.mp hmid
        exact of_decide_eq_true hpos
      rw [selectFutureReferenceIndex]
      dsimp only
      generalize hindex : bisectLeft (rows.map localTs) (ts + labelHorizonMs * nsPerMs) 0
        (rows.map localTs).length = index
      cases hrow : rows[index]? with
      | none =>
          have hlen := List.getElem?_eq_none_iff.mp hrow
          rw [if_neg (by rw [List.length_map]; omega)]
          rfl
      | some row =>
          obtain ⟨hlt, -⟩ := List.getElem?_eq_some_iff.mp hrow
          have hmem := List.mem_of_getElem? hrow
          have htarget : ts + labelHorizonMs * nsPerMs ≤ localTs row := by
            have hhead := getElem?_bisectLeft h.timed.ordered (ts + labelHorizonMs * nsPerMs)
            rw [hindex, hrow] at hhead
            have hfilter := List.mem_of_mem_head? hhead.symm
            exact of_decide_eq_true (List.mem_filter.mp hfilter).2
          have hgap : 0 ≤ receiveGapMs (localTs row) (ts + labelHorizonMs * nsPerMs) := by
            have hsub : (0 : ℚ) ≤ ((localTs row - (ts + labelHorizonMs * nsPerMs) : ℤ) : ℚ) := by
              exact_mod_cast sub_nonneg.mpr htarget
            exact div_nonneg hsub (by norm_num [nsPerMs])
          rw [if_pos (by rw [List.length_map]; exact hlt)]
          simp only [elementAt, hrow, timestampOf_of_sampleTime? (h.timed.timed row hmem), bind,
            Except.bind, pure, Except.pure, Option.map_some, completeReferenceLikeLabel]
          rw [← judgeReferenceLabel_eq hpos hgap]
          rfl

/-- **The receive time labels of the two paths are the same.** -/
theorem buildReceiveTimeLabel (h : StoresRows store source rows) (sample : Json)
    (featureMidPrice : Option ℚ) :
    SomethingTrade.buildReceiveTimeLabel source sample featureMidPrice rows
        (rows.map localTs) =
      .ok (buildStreamingReceiveTimeLabel store source sample featureMidPrice) := by
  simp only [SomethingTrade.buildReceiveTimeLabel, buildStreamingReceiveTimeLabel,
    h.localBisectRight, h.localBisectLeft, h.firstByLocalTs]
  cases hts : (sample.get "local_recv_monotonic_ns").asInt? with
  | none => rfl
  | some ts =>
      cases hmid : featureMidPrice.filter fun mid => mid > 0 with
      | none => rfl
      | some featureMid =>
          have hpos : 0 < featureMid := by
            obtain ⟨-, hpos⟩ := Option.filter_eq_some_iff.mp hmid
            exact of_decide_eq_true hpos
          dsimp only
          have hlast := getElem?_bisectLeft_of_getLast? h.timed.ordered
            (x := ts + labelHorizonMs * nsPerMs)
          generalize hindex : bisectLeft (rows.map localTs) (ts + labelHorizonMs * nsPerMs) 0
            (rows.map localTs).length = index at hlast
          split
          · rename_i hafter
            rw [hlast hafter]
            rfl
          · cases hrow : rows[index]? with
            | none => rfl
            | some row =>
                have hmem := List.mem_of_getElem? hrow
                simp only [timestampOf_of_sampleTime? (h.timed.timed row hmem), bind,
                  Except.bind, pure, Except.pure, Option.map_some, completeReferenceLikeLabel,
                  judgeProtocolLabel_eq hpos]
                rfl

/-- **The exchange time labels of the two paths are the same.** -/
theorem buildExchangeTimeLabel (h : StoresRows store source rows)
    (fromisoformat : String → Option ℚ) (sample : Json) (featureMidPrice : Option ℚ)
    (exchangeTimeSupported : Bool) (unsupportedReason : String) :
    SomethingTrade.buildExchangeTimeLabel fromisoformat source sample featureMidPrice
        ((sortedByExchangeTime rows source true).map Prod.snd)
        ((sortedByExchangeTime rows source true).map Prod.fst) exchangeTimeSupported
        unsupportedReason true =
      .ok (buildStreamingExchangeTimeLabel store fromisoformat source sample featureMidPrice
        exchangeTimeSupported unsupportedReason) := by
  have hsorted : SortedBy Prod.fst (sortedByExchangeTime rows source true) :=
    sortedBy_sortBy Prod.fst _
  have htimes : ∀ e ∈ sortedByExchangeTime rows source true,
      ∃ field, sourceExchangeTsMs e.2 source true = some (field, e.1) := by
    intro e he
    obtain ⟨row, -, hrow⟩ := List.mem_filterMap.mp ((perm_sortBy Prod.fst _).mem_iff.mp he)
    obtain ⟨selected, hselected, rfl⟩ := Option.map_eq_some_iff.mp hrow
    exact ⟨selected.1, hselected⟩
  simp only [SomethingTrade.buildExchangeTimeLabel, buildStreamingExchangeTimeLabel,
    h.exchangeBisectLeft, h.firstByExchangeTs]
  generalize sortedByExchangeTime rows source true = sorted at hsorted htimes
  cases exchangeTimeSupported with
  | false => rfl
  | true =>
      rw [Bool.not_true, if_neg Bool.false_ne_true, if_neg Bool.false_ne_true]
      cases htarget : (exchangeLabelBase fromisoformat source sample).targetExchangeTsMs with
      | none => rfl
      | some target =>
          cases hmid : featureMidPrice.filter fun mid => mid > 0 with
          | none => rfl
          | some featureMid =>
              have hpos : 0 < featureMid := by
                obtain ⟨-, hpos⟩ := Option.filter_eq_some_iff.mp hmid
                exact of_decide_eq_true hpos
              dsimp only
              have hlast := getElem?_bisectLeft_of_getLast? hsorted (x := target)
              generalize hindex : bisectLeft (sorted.map Prod.fst) target 0
                (sorted.map Prod.fst).length = index at hlast
              split
              · rename_i hafter
                rw [hlast hafter]
                rfl
              · rw [List.getElem?_map]
                cases hrow : sorted[index]? with
                | none => rfl
                | some e =>
                    obtain ⟨field, htime⟩ := htimes e (List.mem_of_getElem? hrow)
                    simp only [Option.map_some, htime, bind, Except.bind, pure, Except.pure,
                      judgeProtocolLabel_eq hpos]

end StoresRows

/-! ### Only eligible labels are valid -/

theorem receive_sound (store : EventStore) (source : ReferenceSource) (sample : Json)
    (featureMidPrice : Option ℚ) :
    (buildStreamingReceiveTimeLabel store source sample featureMidPrice).reading.outcome.Sound := by
  intro hvalid
  rw [buildStreamingReceiveTimeLabel] at hvalid ⊢
  cases hts : (sample.get "local_recv_monotonic_ns").asInt? with
  | none => simp [hts, ReceiveTimeLabel.reading, ReceiveTimeLabel.conclude,
      ReferenceLabel.conclude] at hvalid
  | some ts =>
      simp only [hts] at hvalid ⊢
      cases hmid : featureMidPrice.filter fun mid => mid > 0 with
      | none => simp [hmid, ReceiveTimeLabel.reading, ReceiveTimeLabel.conclude,
          ReferenceLabel.conclude] at hvalid
      | some mid =>
          simp only [hmid] at hvalid ⊢
          cases hfirst : store.firstByLocalTs source (ts + labelHorizonMs * nsPerMs) with
          | none => simp [hfirst, ReceiveTimeLabel.reading, ReceiveTimeLabel.conclude,
              ReferenceLabel.conclude] at hvalid
          | some e => rfl

/-- The conclusion of a label leaves whether it is eligible. -/
theorem ExchangeTimeLabel.eligible_conclude (label : ExchangeTimeLabel) (verdict : LabelVerdict) :
    (label.conclude verdict).eligible = label.eligible := by
  cases verdict <;> rfl

theorem exchange_sound (store : EventStore) (fromisoformat : String → Option ℚ)
    (source : ReferenceSource) (sample : Json) (featureMidPrice : Option ℚ)
    (exchangeTimeSupported : Bool) (unsupportedReason : String) :
    (buildStreamingExchangeTimeLabel store fromisoformat source sample featureMidPrice
      exchangeTimeSupported unsupportedReason).reading.outcome.Sound := by
  intro hvalid
  have hinvalid (reason : String) : ¬ ((exchangeLabelBase fromisoformat source sample).conclude
      (.invalid reason)).reading.outcome.valid = true := nofun
  rw [buildStreamingExchangeTimeLabel] at hvalid ⊢
  cases exchangeTimeSupported with
  | false => exact absurd hvalid (hinvalid _)
  | true =>
      rw [Bool.not_true, if_neg Bool.false_ne_true] at hvalid ⊢
      cases htarget : (exchangeLabelBase fromisoformat source sample).targetExchangeTsMs with
      | none =>
          rw [htarget] at hvalid
          exact absurd hvalid (hinvalid _)
      | some target =>
          simp only [htarget] at hvalid ⊢
          cases hmid : featureMidPrice.filter fun mid => mid > 0 with
          | none =>
              simp only [hmid] at hvalid
              exact absurd hvalid (hinvalid _)
          | some mid =>
              simp only [hmid] at hvalid ⊢
              cases hfirst : store.firstByExchangeTs source target with
              | none =>
                  simp only [hfirst] at hvalid
                  exact absurd hvalid (hinvalid _)
              | some e => exact ExchangeTimeLabel.eligible_conclude _ _

theorem hybrid_sound (exchangeLabel : ExchangeTimeLabel) (budgetMs : ℕ) (skew : ℚ) :
    (buildHybridLabel exchangeLabel budgetMs skew).reading.outcome.Sound := by
  intro hvalid
  cases heligible : exchangeLabel.eligible with
  | false => simp [buildHybridLabel, heligible, HybridLabel.reading, HybridLabel.invalid] at hvalid
  | true =>
      simp only [buildHybridLabel, heligible, Bool.not_true, if_neg Bool.false_ne_true]
      repeat' split
      all_goals rfl

theorem correctedHybrid_sound (exchangeLabel : ExchangeTimeLabel)
    (correctedFeature correctedFuture : Option ℚ) (budgetMs : ℕ) (driftValid : Bool) (skew : ℚ) :
    (buildCorrectedHybridLabel exchangeLabel correctedFeature correctedFuture budgetMs driftValid
      skew).reading.outcome.Sound := by
  intro hvalid
  cases heligible : exchangeLabel.eligible with
  | false => simp [buildCorrectedHybridLabel, heligible, CorrectedHybridLabel.reading,
      CorrectedHybridLabel.invalid] at hvalid
  | true =>
      simp only [buildCorrectedHybridLabel, heligible, Bool.not_true, if_neg Bool.false_ne_true]
      repeat' split
      all_goals rfl

/-! ### What the table holds -/

/-- The row of the table that an event becomes. -/
def storedEvent (source : ReferenceSource) (row : Json) : StoredEvent :=
  { source := source
    localTs := (row.get "local_recv_monotonic_ns").toInt?
    exchangeTs := (sourceExchangeTsMs row source true).map fun selected => selected.2
    row := row }

/-- Read events one after the other. -/
def SourceIngest.ingestAll (state : SourceIngest) (source : ReferenceSource)
    (rows : List Json) : SourceIngest :=
  rows.foldl (fun state row => state.ingest source row
    ((sourceExchangeTsMs row source true).map fun selected => selected.2)) state

theorem SourceIngest.events_ingestAll (state : SourceIngest) (source : ReferenceSource)
    (rows : List Json) :
    (state.ingestAll source rows).store.events =
      state.store.events ++ rows.map (storedEvent source) := by
  induction rows generalizing state with
  | nil => simp [ingestAll]
  | cons row rows ih =>
      rw [ingestAll, List.foldl_cons, ← ingestAll, ih]
      simp [ingest, EventStore.insert, storedEvent]

theorem SourceIngest.stats_ingestAll (state : SourceIngest) (source : ReferenceSource)
    (rows : List Json) :
    (state.ingestAll source rows).stats.validReferenceEventCount =
        state.stats.validReferenceEventCount + rows.length ∧
      (state.ingestAll source rows).stats.exchangeTs =
        rows.foldl (fun counts row =>
          countExchangeTs counts (sourceExchangeTsMs row source true)) state.stats.exchangeTs := by
  induction rows generalizing state with
  | nil => exact ⟨rfl, rfl⟩
  | cons row rows ih =>
      rw [ingestAll, List.foldl_cons, ← ingestAll]
      obtain ⟨hcount, hexchange⟩ := ih (state.ingest source row
        ((sourceExchangeTsMs row source true).map fun selected => selected.2))
      refine ⟨?_, hexchange⟩
      rw [hcount, List.length_cons]
      simp only [ingest, SourceIngestStats.record]
      omega

/-- Reading events leaves the series of all other metrics. -/
theorem SourceIngest.series_ingestAll (state : SourceIngest) (source : ReferenceSource)
    (rows : List Json) {metric : String} (hne : source.gapMetric ≠ metric) :
    (state.ingestAll source rows).series.valuesOf metric = state.series.valuesOf metric := by
  induction rows generalizing state with
  | nil => rfl
  | cons row rows ih =>
      rw [ingestAll, List.foldl_cons, ← ingestAll, ih]
      simp only [ingest, SeriesStore.valuesOf_add, if_neg hne, List.append_nil]

/-- A file of events that pass the schema check is read as a whole. -/
theorem ingestReferenceFile_of_valid {source : ReferenceSource} {rows : List Json}
    (h : ∀ row ∈ rows, validateReferenceEventSchema row source = .ok []) (store : EventStore)
    (series : SeriesStore) :
    ingestReferenceFile source store series rows =
      .ok (SourceIngest.ingestAll ⟨.zero, store, series⟩ source rows) := by
  rw [ingestReferenceFile]
  generalize (⟨.zero, store, series⟩ : SourceIngest) = state
  induction rows generalizing state with
  | nil => rfl
  | cons row rows ih =>
      have hrow := h row List.mem_cons_self
      have hstep : ingestReferenceEvent source state row = .ok (state.ingest source row
          ((sourceExchangeTsMs row source true).map fun selected => selected.2)) := by
        rw [ingestReferenceEvent, hrow]
        rfl
      rw [List.foldlM_cons, hstep]
      exact ih (fun later hlater => h later (List.mem_cons_of_mem row hlater)) _

/-- **What reading the clean samples leaves**: their counts, and the events in the table. -/
theorem ingestCleanSamples_of_clean {cleanSamples : List Json}
    (h : ∀ sample ∈ cleanSamples, cleanSampleErrors sample = []) :
    ingestCleanSamples cleanSamples =
      { validCleanSampleCount := cleanSamples.length
        featureRowsWithExchangeTs :=
          cleanSamples.countP fun sample => (featureExchangeTsMs sample).isSome
        depth := SourceIngest.ingestAll ⟨.zero, .empty, .empty⟩ .depthMid
          (depthEvents cleanSamples) } := by
  have hfold (state : CleanIngest) : cleanSamples.foldl ingestCleanSample state =
      { validCleanSampleCount := state.validCleanSampleCount + cleanSamples.length
        featureRowsWithExchangeTs := state.featureRowsWithExchangeTs +
          cleanSamples.countP fun sample => (featureExchangeTsMs sample).isSome
        depth := state.depth.ingestAll .depthMid
          ((cleanSamples.zipIdx state.depth.stats.validReferenceEventCount).map fun e =>
            depthReferenceEvent e.1 e.2) } := by
    induction cleanSamples generalizing state with
    | nil => rfl
    | cons sample samples ih =>
        have hexchange (row : Json) : featureExchangeTsMs row =
            (sourceExchangeTsMs row .depthMid true).map fun selected => selected.2 := by
          rw [sourceExchangeTsMs, Option.map_map]
          exact Option.map_id'.symm
        rw [List.foldl_cons, ih fun later hlater => h later (List.mem_cons_of_mem sample hlater),
          ingestCleanSample, if_pos (h sample List.mem_cons_self)]
        dsimp only
        congr 1
        · rw [List.length_cons]
          omega
        · rw [List.countP_cons]
          by_cases hsome : (featureExchangeTsMs sample).isSome = true
          · rw [if_pos hsome, if_pos hsome]
            omega
          · rw [if_neg hsome, if_neg hsome]
            omega
        · rw [hexchange (depthReferenceEvent sample _)]
          rfl
  rw [ingestCleanSamples, hfold, Nat.zero_add, Nat.zero_add]
  rfl

/-- The rows that a query finds among the events of all sources are those of its source. -/
theorem filterMap_storedEvents {α : Type} {refs : BySource (List Json)}
    {source : ReferenceSource} (query : StoredEvent → Option α) :
    (ReferenceSource.all.flatMap fun s => (refs s).map (storedEvent s)).filterMap
        (fun event => if event.source = source then query event else none) =
      (refs source).filterMap fun row => query (storedEvent source row) := by
  have hpart (s : ReferenceSource) : ((refs s).map (storedEvent s)).filterMap
      (fun event => if event.source = source then query event else none) =
        if s = source then (refs s).filterMap fun row => query (storedEvent s row) else [] := by
    rw [List.filterMap_map]
    by_cases hs : s = source
    · rw [if_pos hs]
      exact List.filterMap_congr fun row _ => if_pos hs
    · rw [if_neg hs]
      exact List.filterMap_eq_nil_iff.mpr fun row _ => if_neg hs
  simp only [ReferenceSource.all, List.flatMap_cons, List.flatMap_nil, List.filterMap_append,
    List.filterMap_nil, hpart]
  cases source <;> simp

/-- **The table holds the events of each source** when it holds those of all. -/
theorem storesRows_of_events {store : EventStore} {refs : BySource (List Json)}
    (hevents : store.events = ReferenceSource.all.flatMap fun s => (refs s).map (storedEvent s))
    (htimed : ∀ source, TimedRows (refs source)) (source : ReferenceSource) :
    StoresRows store source (refs source) := by
  have hts : ∀ row ∈ refs source, (row.get "local_recv_monotonic_ns").toInt? =
      some (localTs row) := by
    intro row hrow
    rw [get_of_sampleTime? ((htimed source).timed row hrow)]
    rfl
  refine ⟨htimed source, ?_, ?_⟩
  · rw [EventStore.localRows, hevents, filterMap_storedEvents, ← List.filterMap_eq_map]
    refine List.filterMap_congr fun row hrow => ?_
    rw [storedEvent]
    dsimp only
    rw [hts row hrow]
    rfl
  · rw [EventStore.exchangeRows, hevents, filterMap_storedEvents]
    refine List.filterMap_congr fun row hrow => ?_
    rw [storedEvent]
    dsimp only
    rw [hts row hrow, Option.map_map]
    rfl

/-! ### The two paths -/

/-- The events of each source, as the path that reads the files into lists has them. -/
def referencesBySource (depth : List Json) (files : ReferenceFiles) : BySource (List Json)
  | .depthMid => depth
  | .bookTickerMid => files.bookTicker
  | .tradePrice => files.trade
  | .aggTradePrice => files.aggTrade

/-- Samples and events that pass the schema checks, each file in the order of the receive
times. -/
structure ValidFiles (cleanSamples : List Json) (files : ReferenceFiles) : Prop where
  clean : ∀ sample ∈ cleanSamples, cleanSampleErrors sample = []
  cleanOrdered : (cleanSamples.filterMap sampleTime?).Pairwise (· ≤ ·)
  bookTicker : ∀ row ∈ files.bookTicker,
    validateReferenceEventSchema row .bookTickerMid = .ok []
  bookTickerOrdered : (files.bookTicker.filterMap sampleTime?).Pairwise (· ≤ ·)
  trade : ∀ row ∈ files.trade, validateReferenceEventSchema row .tradePrice = .ok []
  tradeOrdered : (files.trade.filterMap sampleTime?).Pairwise (· ≤ ·)
  aggTrade : ∀ row ∈ files.aggTrade, validateReferenceEventSchema row .aggTradePrice = .ok []
  aggTradeOrdered : (files.aggTrade.filterMap sampleTime?).Pairwise (· ≤ ·)

variable {cleanSamples : List Json} {files : ReferenceFiles}

theorem ValidFiles.timedRows (h : ValidFiles cleanSamples files) (source : ReferenceSource) :
    TimedRows (referencesBySource (depthEvents cleanSamples) files source) := by
  cases source with
  | depthMid => exact timedRows_depthEvents h.clean h.cleanOrdered
  | bookTickerMid =>
      exact .intro (fun row hrow => isSome_sampleTime?_of_valid (h.bookTicker row hrow))
        h.bookTickerOrdered
  | tradePrice =>
      exact .intro (fun row hrow => isSome_sampleTime?_of_valid (h.trade row hrow))
        h.tradeOrdered
  | aggTradePrice =>
      exact .intro (fun row hrow => isSome_sampleTime?_of_valid (h.aggTrade row hrow))
        h.aggTradeOrdered

/-- **What the table holds once the files are read**: the events of each source, and no value of a
metric of labels. The schema is that of the lists. -/
theorem ingest_files (h : ValidFiles cleanSamples files) (fromisoformat : String → Option ℚ)
    (estimatedClockOffsetMs : Option ℚ) (clockOffsetDriftValid : Bool) :
    ∃ store series,
      (∀ source, StoresRows store source
        (referencesBySource (depthEvents cleanSamples) files source)) ∧
      (∀ metric ∈ metricNames, series.valuesOf metric = []) ∧
      runStreamingFinalization fromisoformat cleanSamples files estimatedClockOffsetMs
          clockOffsetDriftValid = do
        let schema := validateTimestampSchema cleanSamples
          (referencesBySource (depthEvents cleanSamples) files) true
        let written ← cleanSamples.foldlM
          (writeStreamingLabel fun sample index =>
            buildStreamingLabelRows fromisoformat sample index store schema
              estimatedClockOffsetMs clockOffsetDriftValid)
          ⟨[], .start series⟩
        return ⟨schema, written⟩ := by
  let depth := SourceIngest.ingestAll ⟨.zero, .empty, .empty⟩ .depthMid
    (depthEvents cleanSamples)
  let bookTicker := SourceIngest.ingestAll ⟨.zero, depth.store, depth.series⟩ .bookTickerMid
    files.bookTicker
  let trade := SourceIngest.ingestAll ⟨.zero, bookTicker.store, bookTicker.series⟩ .tradePrice
    files.trade
  let aggTrade := SourceIngest.ingestAll ⟨.zero, trade.store, trade.series⟩ .aggTradePrice
    files.aggTrade
  refine ⟨aggTrade.store, aggTrade.series, ?_, ?_, ?_⟩
  · refine storesRows_of_events ?_ h.timedRows
    simp only [aggTrade, trade, bookTicker, depth, SourceIngest.events_ingestAll,
      EventStore.empty, ReferenceSource.all, List.flatMap_cons, List.flatMap_nil,
      referencesBySource, List.nil_append, List.append_nil, List.append_assoc]
  · intro metric hmetric
    have hne (source : ReferenceSource) : source.gapMetric ≠ metric := by
      rintro rfl
      exact (List.nodup_append.mp nodup_metricNames).2.2 _ hmetric _
        (List.mem_map_of_mem source.mem_all) rfl
    simp only [aggTrade, trade, bookTicker, depth, SourceIngest.series_ingestAll _ _ _ (hne _)]
    rfl
  · have hschema : buildStreamingTimestampSchema (ingestCleanSamples cleanSamples) (fun
        | .depthMid => depth.stats
        | .bookTickerMid => bookTicker.stats
        | .tradePrice => trade.stats
        | .aggTradePrice => aggTrade.stats) =
          validateTimestampSchema cleanSamples
            (referencesBySource (depthEvents cleanSamples) files) true := by
      rw [ingestCleanSamples_of_clean h.clean, buildStreamingTimestampSchema,
        validateTimestampSchema]
      refine congrArg _ (funext fun source => ?_)
      cases source
      all_goals
        simp only [aggTrade, trade, bookTicker, depth, (SourceIngest.stats_ingestAll _ _ _).1,
          (SourceIngest.stats_ingestAll _ _ _).2, SourceIngestStats.zero, Nat.zero_add]
        rfl
    rw [runStreamingFinalization, ← hschema, ingestCleanSamples_of_clean h.clean]
    dsimp only
    rw [ingestReferenceFile_of_valid h.bookTicker]
    dsimp only [bind, Except.bind]
    rw [ingestReferenceFile_of_valid h.trade]
    dsimp only
    rewrite [ingestReferenceFile_of_valid h.aggTrade]
    rfl

/-! ### Rows -/

variable {refs : BySource (List Json)}

/-- The rows of labels of a sample are those that the lists of events give. -/
structure AgreesWith (fromisoformat : String → Option ℚ) (schema : TimestampSchema)
    (refs : BySource (List Json)) (estimatedClockOffsetMs : Option ℚ)
    (clockOffsetDriftValid : Bool) (sample : Json) (index : ℕ) (rows : StreamingRows) :
    Prop where
  receive : (do
    let referenceLabels ← BySource.build fun source =>
      buildReferenceLabel source sample (ReferenceFeed.sampleMidPrice sample) (refs source)
        ((refs source).map localTs)
    return {
      toRowHeader := rowHeader "orderbook_reference_benchmark_v1" sample
        (ReferenceFeed.sampleMidPrice sample) (ReferenceFeed.sampleSpreadBps sample) index
      referenceLabels := referenceLabels }) = Except.ok rows.receiveRow
  time : (do
    let labels ← BySource.build fun source => do
      let receiveTime ← buildReceiveTimeLabel source sample (TimeProtocol.sampleMidPrice sample)
        (refs source) ((refs source).map localTs)
      let exchangeTime ← buildExchangeTimeLabel fromisoformat source sample
        (TimeProtocol.sampleMidPrice sample)
        ((sortedByExchangeTime (refs source) source true).map Prod.snd)
        ((sortedByExchangeTime (refs source) source true).map Prod.fst)
        (schema.sources source).exchangeTimeSupported
        (orText (schema.sources source).unsupportedReason "missing_exchange_timestamp") true
      return protocolLabels receiveTime exchangeTime allowedClockSkewMs
    return {
      toRowHeader := rowHeader "orderbook_time_protocol_benchmark_v1" sample
        (TimeProtocol.sampleMidPrice sample) (TimeProtocol.sampleSpreadBps sample) index
      featureExchangeTsMs := SomethingTrade.featureExchangeTsMs sample
      protocolLabels := labels }) = Except.ok rows.timeRow
  corrected : generateCorrectedTimeProtocolRows [rows.timeRow] estimatedClockOffsetMs
    clockOffsetDriftValid allowedClockSkewMs =
      [{ rows.correctedRow with schemaVersion := "phase_4_2e_corrected_time_protocol_v1" }]
  sound : ∀ source, (rows.labels source).Sound

/-- **The rows of a sample with a receive time agree.** -/
theorem exists_streamingLabelRows {store : EventStore}
    (hstore : ∀ source, StoresRows store source (refs source))
    (fromisoformat : String → Option ℚ) (schema : TimestampSchema)
    (estimatedClockOffsetMs : Option ℚ) (clockOffsetDriftValid : Bool) {sample : Json} {ts : ℤ}
    (hts : (sample.get "local_recv_monotonic_ns").asInt? = some ts) (index : ℕ) :
    ∃ rows, buildStreamingLabelRows fromisoformat sample index store schema
        estimatedClockOffsetMs clockOffsetDriftValid = .ok rows ∧
      AgreesWith fromisoformat schema refs estimatedClockOffsetMs clockOffsetDriftValid sample
        index rows := by
  have hreference (mid : Option ℚ) : (BySource.build fun source =>
      buildStreamingReferenceLabel store source sample mid) =
        .ok fun source => streamingReferenceLabel store source ts mid :=
    BySource.build_eq_ok fun source => by simp only [buildStreamingReferenceLabel, hts]
  refine ⟨_, by rw [buildStreamingLabelRows, hreference]; rfl, ?_, ?_, ?_, ?_⟩
  · rw [BySource.build_eq_ok fun source =>
      (hstore source).buildReferenceLabel sample (ReferenceFeed.sampleMidPrice sample) hts]
    rfl
  · rw [BySource.build_eq_ok fun source => by
      rw [(hstore source).buildReceiveTimeLabel, (hstore source).buildExchangeTimeLabel]
      rfl]
    rw [← sampleMidPrice_eq, ← sampleSpreadBps_eq]
    rfl
  · rfl
  · intro source
    exact ⟨receive_sound _ _ _ _, exchange_sound _ _ _ _ _ _ _,
      fun budget => hybrid_sound _ _ _, fun budget => correctedHybrid_sound _ _ _ _ _ _⟩

/-- **Writing the labels of samples** writes the rows of each and observes them, in order. -/
theorem exists_written {build : Json → ℕ → Except String StreamingRows}
    {agrees : Json → ℕ → StreamingRows → Prop} {samples : List Json}
    (hclean : ∀ sample ∈ samples, cleanSampleErrors sample = [])
    (hbuild : ∀ sample ∈ samples, ∀ index,
      ∃ rows, build sample index = .ok rows ∧ agrees sample index rows)
    (written : WrittenLabels) :
    ∃ rows, samples.foldlM (writeStreamingLabel build) written =
        .ok ⟨written.rows ++ rows,
          (rows.map StreamingRows.labels).foldl LabelObservations.observe
            written.observations⟩ ∧
      List.Forall₂ (fun e rows => agrees e.1 e.2 rows) (samples.zipIdx written.rows.length)
        rows := by
  induction samples generalizing written with
  | nil => exact ⟨[], by rw [List.append_nil]; rfl, .nil⟩
  | cons sample samples ih =>
      obtain ⟨row, hrow, hagrees⟩ := hbuild sample List.mem_cons_self written.rows.length
      have hstep : writeStreamingLabel build written sample =
          .ok ⟨written.rows ++ [row], written.observations.observe row.labels⟩ := by
        rw [writeStreamingLabel, if_pos (hclean sample List.mem_cons_self), hrow]
        rfl
      obtain ⟨rows, hrows, hforall⟩ := ih
        (fun later hlater => hclean later (List.mem_cons_of_mem sample hlater))
        (fun later hlater => hbuild later (List.mem_cons_of_mem sample hlater))
        ⟨written.rows ++ [row], written.observations.observe row.labels⟩
      refine ⟨row :: rows, ?_, ?_⟩
      · rw [List.foldlM_cons, hstep]
        exact hrows.trans (by rw [List.append_assoc]; rfl)
      · rw [List.zipIdx_cons]
        refine .cons hagrees ?_
        rw [List.length_append] at hforall
        exact hforall

/-- **The streaming label builder agrees with the one that holds lists**, for samples and events
that pass the schema checks and come in the order of their receive times: its rows have the same
labels, and its accumulators report the metrics of the lists of labels. -/
theorem streaming_labels_agree (h : ValidFiles cleanSamples files)
    (fromisoformat : String → Option ℚ) (estimatedClockOffsetMs : Option ℚ)
    (clockOffsetDriftValid : Bool) :
    ∃ depth run,
      validateDepthReferenceEvents cleanSamples = .ok depth ∧
      runStreamingFinalization fromisoformat cleanSamples files estimatedClockOffsetMs
        clockOffsetDriftValid = .ok run ∧
      run.timestampSchema =
        validateTimestampSchema cleanSamples (referencesBySource depth files) true ∧
      generateBenchmarkRows cleanSamples (referencesBySource depth files) =
        .ok (run.written.rows.map StreamingRows.receiveRow) ∧
      generateTimeProtocolRows fromisoformat cleanSamples (referencesBySource depth files)
        run.timestampSchema true allowedClockSkewMs =
          .ok (run.written.rows.map StreamingRows.timeRow) ∧
      generateCorrectedTimeProtocolRows (run.written.rows.map StreamingRows.timeRow)
        estimatedClockOffsetMs clockOffsetDriftValid allowedClockSkewMs =
          run.written.rows.map (fun rows =>
            { rows.correctedRow with
              schemaVersion := "phase_4_2e_corrected_time_protocol_v1" }) ∧
      ∀ source, ReportsMetrics (run.written.rows.map fun rows => rows.labels source)
        (run.written.observations.accumulators source) run.written.observations.series := by
  obtain ⟨store, series, hstore, hseries, hrun⟩ :=
    ingest_files h fromisoformat estimatedClockOffsetMs clockOffsetDriftValid
  generalize hrefs : referencesBySource (depthEvents cleanSamples) files = refs at hstore hrun
  have htimed (source : ReferenceSource) : TimedRows (refs source) := (hstore source).timed
  generalize hschema : validateTimestampSchema cleanSamples refs true = schema at hrun
  have hbuild : ∀ sample ∈ cleanSamples, ∀ index,
      ∃ rows, buildStreamingLabelRows fromisoformat sample index store schema
          estimatedClockOffsetMs clockOffsetDriftValid = .ok rows ∧
        AgreesWith fromisoformat schema refs estimatedClockOffsetMs clockOffsetDriftValid sample
          index rows := by
    intro sample hsample index
    obtain ⟨ts, -, hts⟩ := get_time_of_cleanSampleErrors (h.clean sample hsample)
    exact exists_streamingLabelRows hstore fromisoformat schema estimatedClockOffsetMs
      clockOffsetDriftValid (by rw [hts]; rfl) index
  obtain ⟨rows, hwritten, hagrees⟩ := exists_written h.clean hbuild ⟨[], .start series⟩
  have hsorted : (BySource.build fun source => sortedByReceiveTime (refs source)) = .ok refs :=
    BySource.build_eq_ok fun source => (htimed source).sortedByReceiveTime
  have htimes : (BySource.build fun source => (refs source).mapM timestampOf) =
      .ok fun source => (refs source).map localTs :=
    BySource.build_eq_ok fun source => (htimed source).timestamps
  refine ⟨depthEvents cleanSamples, ⟨schema, ⟨rows, (rows.map StreamingRows.labels).foldl
    LabelObservations.observe (.start series)⟩⟩,
    validateDepthReferenceEvents_of_clean h.clean, ?_, ?_, ?_, ?_, ?_, ?_⟩
  · rw [hrun]
    dsimp only
    rw [hwritten]
    rfl
  · rw [hrefs, hschema]
  · rw [hrefs, generateBenchmarkRows, hsorted]
    dsimp only [bind, Except.bind]
    rw [htimes]
    exact mapM_of_forall₂ (hagrees.imp fun e rows hrows => hrows.receive)
  · rw [hrefs, generateTimeProtocolRows, hsorted]
    dsimp only [bind, Except.bind]
    rw [htimes]
    exact mapM_of_forall₂ (hagrees.imp fun e rows hrows => hrows.time)
  · rw [generateCorrectedTimeProtocolRows, List.map_map]
    refine List.map_congr_left fun row hrow => ?_
    obtain ⟨e, hrow⟩ := exists_of_forall₂ hagrees hrow
    exact List.head_eq_of_cons_eq hrow.corrected
  · intro source
    have hsound : ∀ labels ∈ rows.map StreamingRows.labels, (labels source).Sound := by
      intro labels hlabels
      obtain ⟨row, hrow, rfl⟩ := List.mem_map.mp hlabels
      obtain ⟨e, hrow⟩ := exists_of_forall₂ hagrees hrow
      exact hrow.sound source
    have hreports := LabelObservations.reportsMetrics hseries source hsound
    rw [List.map_map] at hreports
    exact hreports

/-- A quote received at a time. -/
def quoteAt (ts : ℤ) : Json :=
  .obj [("schema_version", .str "bookticker_reference_v1"), ("symbol", .str "BTCUSDT"),
    ("source", .str "binance_ws_bookTicker"), ("local_recv_monotonic_ns", .int ts),
    ("local_recv_wall_ts", .str "2026-01-01T00:00:00Z"), ("update_id", .int 9),
    ("best_bid", .float 102), ("best_ask", .float 104), ("mid_price", .float 103),
    ("quality", .obj [("valid", .bool true), ("errors", .arr [])])]

/-- The labels of a sample and two quotes of one time agree. -/
theorem streaming_labels_agree_quotes :
    let files : ReferenceFiles := ⟨[quoteAt 110000000, quoteAt 110000000], [], []⟩
    ∃ depth run,
      validateDepthReferenceEvents [validSampleAt 0] = .ok depth ∧
      runStreamingFinalization (fun _ => none) [validSampleAt 0] files none true = .ok run ∧
      generateBenchmarkRows [validSampleAt 0] (referencesBySource depth files) =
        .ok (run.written.rows.map StreamingRows.receiveRow) ∧
      ∀ source, ReportsMetrics (run.written.rows.map fun rows => rows.labels source)
        (run.written.observations.accumulators source) run.written.observations.series := by
  intro files
  have hsample : cleanSampleErrors (validSampleAt 0) = [] := by decide +kernel
  have hquote : validateReferenceEventSchema (quoteAt 110000000) .bookTickerMid = .ok [] := by
    decide +kernel
  have htime (ts : ℤ) : sampleTime? (quoteAt ts) = some ts := rfl
  have hfiles : ValidFiles [validSampleAt 0] files :=
    { clean := by simp [hsample]
      cleanOrdered := List.pairwise_singleton _ _
      bookTicker := by simp [files, hquote]
      bookTickerOrdered := by simp [files, htime]
      trade := by simp [files]
      tradeOrdered := .nil
      aggTrade := by simp [files]
      aggTradeOrdered := .nil }
  obtain ⟨depth, run, hdepth, hrun, -, hrows, -, -, hmetrics⟩ :=
    streaming_labels_agree hfiles (fun _ => none) none true
  exact ⟨depth, run, hdepth, hrun, hrows, hmetrics⟩

end SomethingTrade
