import SomethingTrade.LeakFindings

/-!
# When the Two Checks Agree

Which events the labels of generated rows find, and when the audit calls a row of labels a leak
that the check of the time protocols passes.

## Main results

* `runPhase42dLeakageCheck_generated`: the check of the time protocols passes every generated row.
* `leakChecksAgree_iff`: the audit passes a generated row exactly when the event chosen by the
  time of the exchange was not received before the sample, a target without an event is below the
  bound for milliseconds, and no copied value holds a label that looks back.
-/

namespace SomethingTrade

/-! ### The events of labels -/

/-- The first event received at or after a time. -/
def firstReceived (events : List Json) (time : ℤ) : Option Json :=
  ((sortBy localTs events).filter fun event => time ≤ localTs event).head?

/-- The first event at or after a time of the exchange, with its time. -/
def firstByExchange (events : List Json) (source : ReferenceSource)
    (allowEventTimeFallback supported : Bool) (time : ℚ) : Option (ℚ × Json) :=
  if supported then
    ((sortedByExchangeTime events source allowEventTimeFallback).filter fun e => time ≤ e.1).head?
  else none

theorem mem_of_firstReceived {events : List Json} {time : ℤ} {event : Json}
    (h : firstReceived events time = some event) : event ∈ events ∧ time ≤ localTs event := by
  obtain ⟨hmem, htime⟩ := List.mem_filter.mp (List.mem_of_head? h)
  exact ⟨(perm_sortBy localTs events).mem_iff.mp hmem, of_decide_eq_true htime⟩

/-- An event in the order of the times of the exchange has its time. -/
theorem mem_sortedByExchangeTime {events : List Json} {source : ReferenceSource}
    {allowEventTimeFallback : Bool} {e : ℚ × Json}
    (h : e ∈ sortedByExchangeTime events source allowEventTimeFallback) :
    e.2 ∈ events ∧
      ∃ field, sourceExchangeTsMs e.2 source allowEventTimeFallback = some (field, e.1) := by
  obtain ⟨row, hrow, htimed⟩ := List.mem_filterMap.mp ((perm_sortBy Prod.fst _).mem_iff.mp h)
  obtain ⟨selected, hselected, rfl⟩ := Option.map_eq_some_iff.mp htimed
  exact ⟨hrow, selected.1, hselected⟩

theorem mem_of_firstByExchange {events : List Json} {source : ReferenceSource}
    {allowEventTimeFallback supported : Bool} {time : ℚ} {e : ℚ × Json}
    (h : firstByExchange events source allowEventTimeFallback supported time = some e) :
    e.2 ∈ events ∧ time ≤ e.1 ∧
      ∃ field, sourceExchangeTsMs e.2 source allowEventTimeFallback = some (field, e.1) := by
  rw [firstByExchange] at h
  split at h
  · obtain ⟨hmem, htime⟩ := List.mem_filter.mp (List.mem_of_head? h)
    obtain ⟨hevent, hfield⟩ := mem_sortedByExchangeTime hmem
    exact ⟨hevent, of_decide_eq_true htime, hfield⟩
  · cases h

/-! ### What labels find -/

/-- What a receive time label says of its event. -/
structure ReceiveTimeLabel.Finds (label : ReceiveTimeLabel) (source : ReferenceSource)
    (target : ℤ) (event : Option Json) : Prop where
  target_eq : label.targetLocalRecvMonotonicNs = some target
  time_eq : label.futureReferenceLocalRecvMonotonicNs = event.map localTs
  eventId_eq : label.futureReferenceEventId =
    (event.map fun event => referenceEventId event source).getD .null

/-- What an exchange time label says of its event. -/
structure ExchangeTimeLabel.Finds (label : ExchangeTimeLabel) (source : ReferenceSource)
    (target : ℚ) (event : Option (ℚ × Json)) : Prop where
  target_eq : label.targetExchangeTsMs = some target
  time_eq : label.futureReferenceExchangeTsMs = event.map Prod.fst
  received_eq : label.futureReferenceLocalRecvMonotonicNs =
    (event.map fun e => e.2.get "local_recv_monotonic_ns").getD .null
  eventId_eq : label.futureReferenceEventId =
    (event.map fun e => referenceEventId e.2 source).getD .null

/-- Judging a label leaves what it found. -/
theorem ReceiveTimeLabel.Finds.conclude {label : ReceiveTimeLabel} {source : ReferenceSource}
    {target : ℤ} {event : Option Json} (h : label.Finds source target event)
    (verdict : LabelVerdict) : (label.conclude verdict).Finds source target event := by
  cases verdict <;> exact ⟨h.target_eq, h.time_eq, h.eventId_eq⟩

theorem ExchangeTimeLabel.Finds.conclude {label : ExchangeTimeLabel} {source : ReferenceSource}
    {target : ℚ} {event : Option (ℚ × Json)} (h : label.Finds source target event)
    (verdict : LabelVerdict) : (label.conclude verdict).Finds source target event := by
  cases verdict <;> exact ⟨h.target_eq, h.time_eq, h.received_eq, h.eventId_eq⟩

/-- **A receive time label finds** the first event received at or after its target. -/
theorem finds_of_buildReceiveTimeLabel {source : ReferenceSource} {sample : Json} {mid : ℚ}
    {events : List Json} {label : ReceiveTimeLabel} {f : ℤ}
    (hevents : ∀ event ∈ events, sampleTime? event = some (localTs event))
    (hf : sampleTime? sample = some f) (hmid : 0 < mid)
    (h : buildReceiveTimeLabel source sample (some mid) (sortBy localTs events)
      ((sortBy localTs events).map localTs) = .ok label) :
    label.Finds source (f + 10 ^ 8) (firstReceived events (f + 10 ^ 8)) := by
  have htime : (sample.get "local_recv_monotonic_ns").asInt? = some f := by
    rw [get_of_sampleTime? hf]
    rfl
  have hpositive : (some mid).filter (fun mid => mid > 0) = some mid := by simp [hmid]
  have htarget : f + labelHorizonMs * nsPerMs = f + 10 ^ 8 := rfl
  have hfirst := getElem?_bisectLeft (sortedBy_sortBy localTs events) (f + 10 ^ 8)
  have hlast := getElem?_bisectLeft_of_getLast? (sortedBy_sortBy localTs events)
    (x := f + 10 ^ 8)
  rw [hfirst, ← firstReceived] at hlast
  rw [← firstReceived] at hfirst
  simp only [buildReceiveTimeLabel, htime, hpositive, htarget] at h
  split at h
  · rename_i hafter
    obtain rfl := Except.ok.inj h
    rw [hlast (by simpa using hafter)]
    exact ReceiveTimeLabel.Finds.conclude ⟨rfl, rfl, rfl⟩ _
  · rw [hfirst] at h
    rcases hevent : firstReceived events (f + 10 ^ 8) with _ | event
    · simp only [hevent] at h
      obtain rfl := Except.ok.inj h
      exact ReceiveTimeLabel.Finds.conclude ⟨rfl, rfl, rfl⟩ _
    · have hmem := (mem_of_firstReceived hevent).1
      simp only [hevent, timestampOf_of_sampleTime? (hevents event hmem), bind, Except.bind] at h
      split at h
      · cases h
      · obtain rfl := Except.ok.inj h
        exact ReceiveTimeLabel.Finds.conclude ⟨rfl, rfl, rfl⟩ _

/-- **An exchange time label finds** the first event at or after its target, if its source has
times of the exchange. -/
theorem finds_of_buildExchangeTimeLabel {fromisoformat : String → Option ℚ}
    {source : ReferenceSource} {sample : Json} {mid t : ℚ} {events : List Json}
    {supported fallback : Bool} {reason : String} {label : ExchangeTimeLabel}
    (ht : featureExchangeTsMs sample = some t) (hmid : 0 < mid)
    (h : buildExchangeTimeLabel fromisoformat source sample (some mid)
      ((sortedByExchangeTime events source fallback).map Prod.snd)
      ((sortedByExchangeTime events source fallback).map Prod.fst) supported reason fallback =
        .ok label) :
    label.Finds source (t + 100) (firstByExchange events source fallback supported (t + 100)) ∧
      label.featureLocalRecvMonotonicNs = sample.get "local_recv_monotonic_ns" := by
  have hbase : (exchangeLabelBase fromisoformat source sample).targetExchangeTsMs =
      some (t + 100) := by
    simp [exchangeLabelBase, ht, labelHorizonMs]
  have hpositive : (some mid).filter (fun mid => mid > 0) = some mid := by simp [hmid]
  have hown (label : ExchangeTimeLabel) (verdict : LabelVerdict) :
      (label.conclude verdict).featureLocalRecvMonotonicNs = label.featureLocalRecvMonotonicNs := by
    cases verdict <;> rfl
  have hsorted : SortedBy Prod.fst (sortedByExchangeTime events source fallback) :=
    sortedBy_sortBy Prod.fst _
  have hfirst := getElem?_bisectLeft hsorted (t + 100)
  have hlast := getElem?_bisectLeft_of_getLast? hsorted (x := t + 100)
  have hfold : ((sortedByExchangeTime events source fallback).filter fun e =>
      t + 100 ≤ e.1).head? = firstByExchange events source fallback true (t + 100) := rfl
  rw [hfirst, hfold] at hlast
  rw [hfold] at hfirst
  rcases supported with _ | _
  · obtain rfl := Except.ok.inj h
    exact ⟨ExchangeTimeLabel.Finds.conclude ⟨hbase, rfl, rfl, rfl⟩ _, hown _ _⟩
  · simp only [buildExchangeTimeLabel, hbase, hpositive, Bool.not_true, Bool.false_eq_true,
      if_false] at h
    split at h
    · rename_i hafter
      obtain rfl := Except.ok.inj h
      rw [hlast (by simpa using hafter)]
      exact ⟨ExchangeTimeLabel.Finds.conclude ⟨hbase, rfl, rfl, rfl⟩ _, hown _ _⟩
    · rw [List.getElem?_map, hfirst] at h
      rcases hevent : firstByExchange events source fallback true (t + 100) with _ | e
      · simp only [hevent, Option.map_none] at h
        obtain rfl := Except.ok.inj h
        exact ⟨ExchangeTimeLabel.Finds.conclude ⟨hbase, rfl, rfl, rfl⟩ _, hown _ _⟩
      · obtain ⟨-, -, field, hfield⟩ := mem_of_firstByExchange hevent
        simp only [hevent, Option.map_some, hfield, bind, Except.bind] at h
        split at h
        · cases h
        · obtain rfl := Except.ok.inj h
          refine ⟨ExchangeTimeLabel.Finds.conclude ?_ _, hown _ _⟩
          exact ⟨hbase, rfl, rfl, rfl⟩

/-! ### Inputs -/

/-- Clean samples and events with counters below the bound and times of the exchange in
milliseconds. -/
structure EpochInputs (cleanSamples : List Json) (references : BySource (List Json))
    (allowEventTimeFallback : Bool) : Prop where
  clean : ∀ sample ∈ cleanSamples, cleanSampleErrors sample = []
  counters : ∀ sample ∈ cleanSamples, IsCounter (localTs sample)
  exchangeTimes : ∀ sample ∈ cleanSamples, ∃ t, featureExchangeTsMs sample = some t ∧ IsEpochMs t
  eventTimed : ∀ source, ∀ event ∈ references source, sampleTime? event = some (localTs event)
  eventCounters : ∀ source, ∀ event ∈ references source, IsCounter (localTs event)
  eventExchangeTimes : ∀ source, ∀ event ∈ references source, ∀ field t,
    sourceExchangeTsMs event source allowEventTimeFallback = some (field, t) → IsEpochMs t

/-- The time of the exchange of a sample. -/
def exchangeTs (sample : Json) : ℚ := (featureExchangeTsMs sample).getD 0

section Rows

variable (fromisoformat : String → Option ℚ) (references : BySource (List Json))
  (schema : TimestampSchema) (allowEventTimeFallback : Bool)

/-- The event that the receive time label of a sample finds. -/
def receivedEvent (sample : Json) (source : ReferenceSource) : Option Json :=
  firstReceived (references source) (localTs sample + 10 ^ 8)

/-- The event that the exchange time label of a sample finds. -/
def exchangeEvent (sample : Json) (source : ReferenceSource) : Option (ℚ × Json) :=
  firstByExchange (references source) source allowEventTimeFallback
    (schema.sources source).exchangeTimeSupported (exchangeTs sample + 100)

/-- The fields of a sample that its row of labels copies. -/
def copiedFields : List String :=
  ["symbol", "source", "generation_id", "state_version", "snapshot_version", "last_update_id",
    "local_recv_wall_ts", "exchange_event_ts"]

/-- The values that the row of labels of a sample copies, of the sample and of events. -/
def copiedValues (sample : Json) : List (String × Json) :=
  (copiedFields.map fun field => (field, sample.get field)) ++
    ReferenceSource.all.flatMap fun source =>
      [("future_reference_event_id", ((receivedEvent references sample source).map fun event =>
          referenceEventId event source).getD .null),
        ("future_reference_event_id",
          ((exchangeEvent references schema allowEventTimeFallback sample source).map fun e =>
            referenceEventId e.2 source).getD .null)]

/-- The times of a sample, as its row of labels has them. -/
def labelRowTimes (sample : Json) : Json :=
  .obj [("local_recv_monotonic_ns", .int (localTs sample)),
    ("feature_exchange_ts_ms", .float (exchangeTs sample))]

/-- Nothing a sample is labelled with seems to look back: no event that was chosen by its time of
the exchange was received before the sample, the target of a label without an event is below the
bound for milliseconds, and no copied value holds a label that looks back. -/
structure NothingLooksBack (sample : Json) : Prop where
  order : ∀ source e,
    exchangeEvent references schema allowEventTimeFallback sample source = some e →
      localTs e.2 ≠ 0 → localTs sample ≤ localTs e.2
  tail : ∀ source, receivedEvent references sample source = none →
    localTs sample + 10 ^ 8 ≤ 10 ^ 14
  copied : ∀ label ∈ walkFields (copiedValues references schema allowEventTimeFallback sample),
    (singleLabelTimestampFindings fromisoformat (labelRowTimes sample) label).1 = 0

/-- The labels of a generated row, and what they find. -/
structure FoundRow (sample : Json) (row : TimeProtocolRow) : Prop where
  receive : row.localRecvMonotonicNs = .int (localTs sample)
  exchange : row.featureExchangeTsMs = some (exchangeTs sample)
  copied : walkFields row.copied =
    walkFields (copiedValues references schema allowEventTimeFallback sample)
  receiveTime : ∀ source, (row.protocolLabels source).receiveTime.Finds source
    (localTs sample + 10 ^ 8) (receivedEvent references sample source)
  exchangeTime : ∀ source, (row.protocolLabels source).exchangeTime.Finds source
    (exchangeTs sample + 100)
    (exchangeEvent references schema allowEventTimeFallback sample source)
  own : ∀ source, (row.protocolLabels source).exchangeTime.featureLocalRecvMonotonicNs =
    .int (localTs sample)

variable {fromisoformat references schema allowEventTimeFallback}

/-- Of what labels copy, only the numbers of events may hold labels. -/
theorem walkFields_copied {labels : ProtocolLabels} {source : ReferenceSource} {target f : ℤ}
    {targetExchange : ℚ} {received : Option Json} {byExchange : Option (ℚ × Json)}
    (hreceive : labels.receiveTime.Finds source target received)
    (hexchange : labels.exchangeTime.Finds source targetExchange byExchange)
    (hown : labels.exchangeTime.featureLocalRecvMonotonicNs = .int f)
    (htimed : ∀ e, byExchange = some e → ∃ n, e.2.get "local_recv_monotonic_ns" = .int n) :
    walkFields (labels.receiveTime.copied ++ labels.exchangeTime.copied) =
      walkFields [("future_reference_event_id",
          (received.map fun event => referenceEventId event source).getD .null),
        ("future_reference_event_id",
          (byExchange.map fun e => referenceEventId e.2 source).getD .null)] := by
  have hreceived (key : String) : walkLabels key
      ((byExchange.map fun e => e.2.get "local_recv_monotonic_ns").getD .null) = [] := by
    rcases hevent : byExchange with _ | e
    · simp
    · obtain ⟨n, hn⟩ := htimed e hevent
      simp [hn]
  rw [ReceiveTimeLabel.copied, ExchangeTimeLabel.copied, hreceive.eventId_eq,
    hexchange.eventId_eq, hexchange.received_eq, hown]
  simp [walkFields, hreceived]

/-- The labels of a generated row find their events. -/
theorem foundRow_of_generatedRow {cleanSamples : List Json} {skew : ℚ}
    {receiveSorted : BySource (List Json)} {receiveTimestamps : BySource (List ℤ)}
    (hinputs : EpochInputs cleanSamples references allowEventTimeFallback)
    (hsorted : ∀ source, receiveSorted source = sortBy localTs (references source))
    (htimes : ∀ source,
      receiveTimestamps source = (sortBy localTs (references source)).map localTs)
    {sample : Json} (hsample : sample ∈ cleanSamples) {index : ℕ} {row : TimeProtocolRow}
    (h : GeneratedRow fromisoformat references schema allowEventTimeFallback skew receiveSorted
      receiveTimestamps sample index row) :
    FoundRow references schema allowEventTimeFallback sample row := by
  have hclean := hinputs.clean sample hsample
  obtain ⟨f, hf, hget⟩ := get_time_of_cleanSampleErrors hclean
  obtain ⟨t, ht, -⟩ := hinputs.exchangeTimes sample hsample
  obtain ⟨mid, hmid, hpos⟩ := exists_sampleMidPrice hclean
  rw [sampleMidPrice_eq] at hmid
  have hlocal : localTs sample = f := by rw [localTs, hf, Option.getD_some]
  have hexchange : exchangeTs sample = t := by rw [exchangeTs, ht, Option.getD_some]
  have hfinds (source : ReferenceSource) :
      (row.protocolLabels source).receiveTime.Finds source (f + 10 ^ 8)
          (receivedEvent references sample source) ∧
        (row.protocolLabels source).exchangeTime.Finds source (t + 100)
          (exchangeEvent references schema allowEventTimeFallback sample source) ∧
        (row.protocolLabels source).exchangeTime.featureLocalRecvMonotonicNs = .int f := by
    obtain ⟨receiveTime, exchangeTime, hreceive, hlabel, hlabels⟩ := h.labels source
    rw [hsorted, htimes, hmid] at hreceive
    rw [hmid] at hlabel
    rw [hlabels, receivedEvent, exchangeEvent, hlocal, hexchange]
    obtain ⟨hfound, hown⟩ := finds_of_buildExchangeTimeLabel ht hpos hlabel
    exact ⟨finds_of_buildReceiveTimeLabel (hinputs.eventTimed source) hf hpos hreceive, hfound,
      hown.trans hget⟩
  obtain ⟨header, ts, labels⟩ := row
  obtain rfl : header = _ := h.header
  obtain rfl : ts = _ := h.exchangeTs
  refine ⟨?_, ?_, ?_, ?_, ?_, ?_⟩
  · rw [hlocal]
    exact hget
  · rw [hexchange]
    exact ht
  · have hfields : (rowHeader "orderbook_time_protocol_benchmark_v1" sample
        (TimeProtocol.sampleMidPrice sample) (TimeProtocol.sampleSpreadBps sample)
          index).localRecvMonotonicNs = .int f := hget
    have hsource (source : ReferenceSource) :=
      walkFields_copied (hfinds source).1 (hfinds source).2.1 (hfinds source).2.2 fun e he =>
        ⟨_, get_of_sampleTime? (hinputs.eventTimed source e.2 (mem_of_firstByExchange he).1)⟩
    simp only [TimeProtocolRow.copied, copiedValues, walkFields_append, ReferenceSource.all,
      List.flatMap_cons, List.flatMap_nil, hfields, List.append_assoc] at hsource ⊢
    simp only [← List.append_assoc, hsource]
    simp [walkFields, copiedFields, rowHeader]
  · exact fun source => hlocal ▸ (hfinds source).1
  · exact fun source => hexchange ▸ (hfinds source).2.1
  · exact fun source => hlocal ▸ (hfinds source).2.2

/-- **Every generated row finds these events.** -/
theorem forall₂_foundRow {cleanSamples : List Json} {skew : ℚ} {rows : List TimeProtocolRow}
    (hinputs : EpochInputs cleanSamples references allowEventTimeFallback)
    (h : generateTimeProtocolRows fromisoformat cleanSamples references schema
      allowEventTimeFallback skew = .ok rows) :
    List.Forall₂ (FoundRow references schema allowEventTimeFallback) cleanSamples rows := by
  obtain ⟨receiveSorted, receiveTimestamps, hsorted, htimes, hrows⟩ := forall₂_generatedRow h
  have hsorted (source : ReferenceSource) :
      receiveSorted source = sortBy localTs (references source) := by
    have hsource := BySource.eq_ok_of_build hsorted source
    rw [sortedByReceiveTime_of_timed (hinputs.eventTimed source)] at hsource
    exact (Except.ok.inj hsource).symm
  have htimes (source : ReferenceSource) :
      receiveTimestamps source = (sortBy localTs (references source)).map localTs := by
    have hsource := BySource.eq_ok_of_build htimes source
    rw [hsorted, timestamps_of_timed] at hsource
    · exact (Except.ok.inj hsource).symm
    · exact fun event hevent =>
        hinputs.eventTimed source event ((perm_sortBy localTs _).mem_iff.mp hevent)
  have hmem : ∀ e ∈ cleanSamples.zipIdx, e.1 ∈ cleanSamples :=
    fun e he => List.fst_mem_of_mem_zipIdx he
  have hzip : List.Forall₂ (fun e row => FoundRow references schema allowEventTimeFallback e.1 row)
      cleanSamples.zipIdx rows := by
    refine List.Forall₂.imp ?_ ((List.forall₂_and_left _ _).mpr ⟨hmem, hrows⟩)
    rintro ⟨sample, index⟩ row ⟨hsample, hgenerated⟩
    exact foundRow_of_generatedRow hinputs hsorted htimes hsample hgenerated
  rw [← List.zipIdx_map_fst 0 cleanSamples]
  exact List.forall₂_map_left_iff.mpr hzip

/-! ### The two checks -/

/-- The times of a row of a sample. -/
theorem FoundRow.hasTimes {cleanSamples : List Json} {sample : Json} {row : TimeProtocolRow}
    (h : FoundRow references schema allowEventTimeFallback sample row)
    (hinputs : EpochInputs cleanSamples references allowEventTimeFallback)
    (hsample : sample ∈ cleanSamples) :
    HasTimes row.toJson (localTs sample) (exchangeTs sample) := by
  obtain ⟨t, ht, hepoch⟩ := hinputs.exchangeTimes sample hsample
  have hexchange : row.toJson.get "feature_exchange_ts_ms" =
      Json.ofFloat? row.featureExchangeTsMs := rfl
  have hreceive : row.toJson.get "local_recv_monotonic_ns" = row.localRecvMonotonicNs := rfl
  refine ⟨hreceive.trans h.receive, ?_, hinputs.counters sample hsample, ?_⟩
  · rw [hexchange, h.exchange]
    rfl
  · rwa [exchangeTs, ht, Option.getD_some]

/-- **The audit calls no label of a row a leak** exactly when nothing seems to look back. -/
theorem FoundRow.leakCount_eq_zero_iff {cleanSamples : List Json} {sample : Json}
    {row : TimeProtocolRow} (h : FoundRow references schema allowEventTimeFallback sample row)
    (hinputs : EpochInputs cleanSamples references allowEventTimeFallback)
    (hsample : sample ∈ cleanSamples) :
    (labelTimestampFindings fromisoformat row.toJson).1 = 0 ↔
      NothingLooksBack fromisoformat references schema allowEventTimeFallback sample := by
  have htimes := h.hasTimes hinputs hsample
  have hlabelTimes : HasTimes (labelRowTimes sample) (localTs sample) (exchangeTs sample) :=
    ⟨rfl, rfl, htimes.isCounter, htimes.isEpochMs⟩
  have hreceive (source : ReferenceSource) :
      (singleLabelTimestampFindings fromisoformat row.toJson
          (row.protocolLabels source).receiveTime.toJson).1 = 0 ↔
        (receivedEvent references sample source = none → localTs sample + 10 ^ 8 ≤ 10 ^ 14) := by
    have hfinds := h.receiveTime source
    rw [htimes.receiveTime_iff fromisoformat hfinds.target_eq, hfinds.time_eq,
      Option.map_eq_none_iff]
    intro u hu
    rw [hfinds.time_eq] at hu
    obtain ⟨event, hevent, rfl⟩ := Option.map_eq_some_iff.mp hu
    obtain ⟨hmem, htime⟩ := mem_of_firstReceived hevent
    exact ⟨htime, (hinputs.eventCounters source event hmem).2⟩
  have hexchange (source : ReferenceSource) :
      (singleLabelTimestampFindings fromisoformat row.toJson
          (row.protocolLabels source).exchangeTime.toJson).1 = 0 ↔
        ∀ e, exchangeEvent references schema allowEventTimeFallback sample source = some e →
          localTs e.2 ≠ 0 → localTs sample ≤ localTs e.2 := by
    have hfinds := h.exchangeTime source
    have hgets (e : ℚ × Json)
        (he : exchangeEvent references schema allowEventTimeFallback sample source = some e) :
        e.2.get "local_recv_monotonic_ns" = .int (localTs e.2) ∧ IsCounter (localTs e.2) := by
      have hmem := (mem_of_firstByExchange he).1
      exact ⟨get_of_sampleTime? (hinputs.eventTimed source e.2 hmem),
        hinputs.eventCounters source e.2 hmem⟩
    rw [htimes.exchangeTime_iff fromisoformat (h.own source) hfinds.target_eq, hfinds.received_eq]
    · rcases hevent : exchangeEvent references schema allowEventTimeFallback sample source
        with _ | e
      · simp
      · simp [(hgets e hevent).1]
    · intro u hu
      rw [hfinds.time_eq] at hu
      obtain ⟨e, he, rfl⟩ := Option.map_eq_some_iff.mp hu
      obtain ⟨hmem, htime, field, hfield⟩ := mem_of_firstByExchange he
      have hepoch := hinputs.eventExchangeTimes source e.2 hmem field e.1 hfield
      exact ⟨htime, by linarith [hepoch.2]⟩
    · rw [hfinds.received_eq]
      rcases hevent : exchangeEvent references schema allowEventTimeFallback sample source
        with _ | e
      · exact .inl rfl
      · exact .inr ⟨localTs e.2, (hgets e hevent).1, (hgets e hevent).2⟩
  rw [labelTimestampFindings_eq_zero_iff]
  simp only [mem_find100msLabelDicts_toJson, h.copied]
  constructor
  · intro hall
    refine ⟨fun source => (hexchange source).mp ?_, fun source => (hreceive source).mp ?_, ?_⟩
    · exact hall _ (.inl ⟨source, .inr (.inl rfl)⟩)
    · exact hall _ (.inl ⟨source, .inl rfl⟩)
    · intro label hlabel
      rw [← htimes.findings_eq fromisoformat hlabelTimes]
      exact hall label (.inr hlabel)
  · rintro ⟨horder, htail, hcopied⟩ label (⟨source, rfl | rfl | ⟨budget, rfl⟩⟩ | hlabel)
    · exact (hreceive source).mpr (htail source)
    · exact (hexchange source).mpr (horder source)
    · exact hybrid_findings fromisoformat _ _
    · rw [htimes.findings_eq fromisoformat hlabelTimes]
      exact hcopied label hlabel

/-- No label of a generated row is of an event before its target. -/
theorem FoundRow.protocolLabelLeaks_eq_nil {sample : Json} {row : TimeProtocolRow}
    (h : FoundRow references schema allowEventTimeFallback sample row) (index : ℕ) :
    protocolLabelLeaks index row.toJson = [] := by
  have hreceive (source : ReferenceSource) :
      labelLeakageReason (row.protocolLabels source).receiveTime.toJson .receiveTime = none := by
    have hfinds := h.receiveTime source
    have htarget : ((row.protocolLabels source).receiveTime.toJson.get
        "target_local_recv_monotonic_ns") =
          Json.ofInt? (row.protocolLabels source).receiveTime.targetLocalRecvMonotonicNs := rfl
    have hfuture : ((row.protocolLabels source).receiveTime.toJson.get
        "future_reference_local_recv_monotonic_ns") = Json.ofInt?
          (row.protocolLabels source).receiveTime.futureReferenceLocalRecvMonotonicNs := rfl
    rw [labelLeakageReason, htarget, hfuture, hfinds.target_eq, hfinds.time_eq]
    rcases hevent : receivedEvent references sample source with _ | event
    · rfl
    · have hle := (mem_of_firstReceived hevent).2
      simpa [Json.ofInt?, Json.asInt?] using hle
  have hexchange (source : ReferenceSource) :
      labelLeakageReason (row.protocolLabels source).exchangeTime.toJson .exchangeTime = none := by
    have hfinds := h.exchangeTime source
    have htarget : ((row.protocolLabels source).exchangeTime.toJson.get
        "target_exchange_ts_ms") =
          Json.ofFloat? (row.protocolLabels source).exchangeTime.targetExchangeTsMs := rfl
    have hfuture : ((row.protocolLabels source).exchangeTime.toJson.get
        "future_reference_exchange_ts_ms") = Json.ofFloat?
          (row.protocolLabels source).exchangeTime.futureReferenceExchangeTsMs := rfl
    rw [labelLeakageReason, htarget, hfuture, hfinds.target_eq, hfinds.time_eq]
    rcases hevent : exchangeEvent references schema allowEventTimeFallback sample source
      with _ | e
    · rfl
    · have hle := (mem_of_firstByExchange hevent).2.1
      simp [Json.ofFloat?, Json.toFinite?, Json.toFloat?, hle]
  refine List.flatMap_eq_nil_iff.mpr fun source _ => List.filterMap_eq_nil_iff.mpr ?_
  have hlabels : ((row.toJson.get "protocol_labels").asDict.get source.name).asDict =
      (row.protocolLabels source).toJson := by
    cases source <;> rfl
  intro protocol _
  dsimp only
  rw [hlabels]
  cases protocol with
  | receiveTime =>
      have hlabel : ((row.protocolLabels source).toJson.get CheckedProtocol.receiveTime.key).asDict =
          (row.protocolLabels source).receiveTime.toJson := rfl
      rw [hlabel, hreceive]
      simp
  | exchangeTime =>
      have hlabel :
          ((row.protocolLabels source).toJson.get CheckedProtocol.exchangeTime.key).asDict =
            (row.protocolLabels source).exchangeTime.toJson := rfl
      rw [hlabel, hexchange]
      simp

/-- **The check of the time protocols passes generated rows.** -/
theorem runPhase42dLeakageCheck_generated {cleanSamples : List Json} {skew : ℚ}
    {rows : List TimeProtocolRow}
    (hinputs : EpochInputs cleanSamples references allowEventTimeFallback)
    (h : generateTimeProtocolRows fromisoformat cleanSamples references schema
      allowEventTimeFallback skew = .ok rows) {checked : List TimeProtocolRow}
    (hchecked : ∀ row ∈ checked, row ∈ rows) :
    (runPhase42dLeakageCheck (checked.map TimeProtocolRow.toJson)).passed = true := by
  have hviolations : ((checked.map TimeProtocolRow.toJson).zipIdx.flatMap fun e =>
      protocolFeatureLeaks e.2 e.1 ++ protocolLabelLeaks e.2 e.1) = [] := by
    refine List.flatMap_eq_nil_iff.mpr fun e he => ?_
    obtain ⟨row, hrow, hrowEq⟩ := List.mem_map.mp (List.fst_mem_of_mem_zipIdx he)
    obtain ⟨sample, hfound⟩ :=
      exists_of_forall₂ (forall₂_foundRow hinputs h) (hchecked row hrow)
    rw [← hrowEq, hfound.protocolLabelLeaks_eq_nil, List.append_nil]
    rfl
  rw [runPhase42dLeakageCheck, hviolations]
  rfl

end Rows

/-- **When the two checks agree.** Of clean samples and events with times of the exchange in
milliseconds and counters below the bound, a row that the check of the time protocols passes is
no leak in the audit exactly when nothing its sample is labelled with seems to look back. -/
theorem leakChecksAgree_iff {fromisoformat : String → Option ℚ} {cleanSamples : List Json}
    {references : BySource (List Json)} {schema : TimestampSchema}
    {allowEventTimeFallback : Bool} {skew : ℚ} {rows : List TimeProtocolRow}
    (hinputs : EpochInputs cleanSamples references allowEventTimeFallback)
    (h : generateTimeProtocolRows fromisoformat cleanSamples references schema
      allowEventTimeFallback skew = .ok rows) :
    (runPhase42dLeakageCheck (rows.map TimeProtocolRow.toJson)).passed = true ∧
      List.Forall₂ (fun sample row =>
        ((runPhase42dLeakageCheck [row.toJson]).passed = true →
            (labelTimestampFindings fromisoformat row.toJson).1 = 0) ↔
          NothingLooksBack fromisoformat references schema allowEventTimeFallback sample)
        cleanSamples rows := by
  obtain ⟨hlength, hzip⟩ := List.forall₂_iff_zip.mp (forall₂_foundRow hinputs h)
  refine ⟨runPhase42dLeakageCheck_generated hinputs h fun row hrow => hrow,
    List.forall₂_iff_zip.mpr ⟨hlength, fun {sample row} hmem => ?_⟩⟩
  obtain ⟨hsample, hrow⟩ := List.of_mem_zip hmem
  have hone : ∀ checked ∈ [row], checked ∈ rows := by simpa using hrow
  have hpassed : (runPhase42dLeakageCheck [row.toJson]).passed = true :=
    runPhase42dLeakageCheck_generated hinputs h hone
  rw [forall_prop_of_true hpassed]
  exact (hzip hmem).leakCount_eq_zero_iff hinputs hsample

/-! ### Events that arrive before the sample -/

/-- A clean sample received at a time, with a time of the exchange. -/
def stampedSample (ts exchangeMs : ℤ) : Json :=
  (validSampleAt ts).setField "exchange_event_ts" (.int exchangeMs)

/-- A trade received at a time, with a time of the exchange. -/
def stampedTrade (ts exchangeMs : ℤ) : Json :=
  .obj [("schema_version", .str "trade_reference_v1"), ("symbol", .str "BTCUSDT"),
    ("source", .str "binance_ws_trade"), ("local_recv_monotonic_ns", .int ts),
    ("local_recv_wall_ts", .str "2026-01-01T00:00:00Z"), ("trade_id", .int 9),
    ("trade_time", .int exchangeMs), ("price", .float 101),
    ("quality", .obj [("valid", .bool true), ("errors", .arr [])])]

/-- The depth events of a sample, and a trade 100 ms after it that is received at a time. -/
def referencesWithTrade (ts : ℤ) : BySource (List Json)
  | .depthMid => depthEvents [stampedSample 2000000000 1767225600000]
  | .tradePrice => [stampedTrade ts 1767225600100]
  | _ => []

/-- The rows of this sample. -/
def rowsWithTrade (ts : ℤ) : Except String (List TimeProtocolRow) :=
  let samples := [stampedSample 2000000000 1767225600000]
  generateTimeProtocolRows (fun _ => none) samples (referencesWithTrade ts)
    (validateTimestampSchema samples (referencesWithTrade ts) true) true 5

/-- The events of this sample have times. -/
theorem mem_referencesWithTrade {ts : ℤ} {source : ReferenceSource} {event : Json}
    (h : event ∈ referencesWithTrade ts source) :
    (sampleTime? event = some 2000000000 ∧
        sourceExchangeTsMs event source true = some ("E", 1767225600000)) ∨
      (sampleTime? event = some ts ∧
        sourceExchangeTsMs event source true = some ("T", 1767225600100)) := by
  cases source with
  | depthMid =>
      obtain rfl := List.mem_singleton.mp h
      exact .inl ⟨by decide, by decide⟩
  | tradePrice =>
      obtain rfl := List.mem_singleton.mp h
      have hget : (stampedTrade ts 1767225600100).get "trade_time" = .int 1767225600100 := rfl
      have htime : epochMs (.int 1767225600100) = some 1767225600100 := by decide
      exact .inr ⟨rfl, by simp [sourceExchangeTsMs, hget, htime]⟩
  | _ => exact absurd h List.not_mem_nil

theorem epochInputs_withTrade {ts : ℤ} (hts : IsCounter ts) :
    EpochInputs [stampedSample 2000000000 1767225600000] (referencesWithTrade ts) true where
  clean := by decide
  counters := by
    have htime : localTs (stampedSample 2000000000 1767225600000) = 2000000000 := by
      decide
    simp [IsCounter, htime]
  exchangeTimes := by
    have htime : featureExchangeTsMs (stampedSample 2000000000 1767225600000) =
        some 1767225600000 := by
      decide
    simp [IsEpochMs, htime]
    norm_num
  eventTimed := by
    intro source event hevent
    rcases mem_referencesWithTrade hevent with ⟨htime, -⟩ | ⟨htime, -⟩ <;>
      rw [localTs, htime, Option.getD_some]
  eventCounters := by
    intro source event hevent
    rcases mem_referencesWithTrade hevent with ⟨htime, -⟩ | ⟨htime, -⟩
    · simp [localTs, htime, IsCounter]
    · rwa [localTs, htime, Option.getD_some]
  eventExchangeTimes := by
    intro source event hevent field t ht
    rcases mem_referencesWithTrade hevent with ⟨-, htime⟩ | ⟨-, htime⟩ <;>
    · rw [htime] at ht
      obtain ⟨rfl, rfl⟩ := Prod.mk.inj (Option.some.inj ht)
      norm_num [IsEpochMs]

/-- What the two checks make of the row of this sample. -/
def checkedWithTrade (ts : ℤ) : Option (List (Bool × ℕ)) :=
  (rowsWithTrade ts).toOption.map fun rows => rows.map fun row =>
    ((runPhase42dLeakageCheck [row.toJson]).passed,
      (labelTimestampFindings (fun _ => none) row.toJson).1)

theorem exists_rowWithTrade {ts : ℤ} {passed : Bool} {leaks : ℕ}
    (h : checkedWithTrade ts = some [(passed, leaks)]) :
    ∃ row, rowsWithTrade ts = .ok [row] ∧
      (runPhase42dLeakageCheck [row.toJson]).passed = passed ∧
      (labelTimestampFindings (fun _ => none) row.toJson).1 = leaks := by
  rw [checkedWithTrade] at h
  rcases hrows : rowsWithTrade ts with e | rows
  · rw [hrows] at h
    cases h
  · rw [hrows] at h
    obtain ⟨row, rest, rfl, hrow, hrest⟩ := List.map_eq_cons_iff.mp (Option.some.inj h)
    obtain rfl := List.map_eq_nil_iff.mp hrest
    obtain ⟨hpassed, hleaks⟩ := Prod.mk.inj hrow
    exact ⟨row, rfl, hpassed, hleaks⟩

/-- A trade that is received after the sample is no leak. -/
theorem leakChecksAgree_iff_later_trade :
    NothingLooksBack (fun _ => none) (referencesWithTrade 2110000000)
      (validateTimestampSchema [stampedSample 2000000000 1767225600000]
        (referencesWithTrade 2110000000) true) true
      (stampedSample 2000000000 1767225600000) := by
  have hchecked : checkedWithTrade 2110000000 = some [(true, 0)] := by decide +kernel
  obtain ⟨row, hrows, -, hleaks⟩ := exists_rowWithTrade hchecked
  have hagree := (leakChecksAgree_iff (epochInputs_withTrade (by norm_num [IsCounter])) hrows).2
  exact (List.forall₂_cons.mp hagree).1.mp fun _ => hleaks

/-- A trade that is received before the sample is called a leak, though it is later by the times
of the exchange. -/
theorem leakChecksAgree_false_early_trade :
    ¬ ∀ cleanSamples references schema allowEventTimeFallback skew rows,
      EpochInputs cleanSamples references allowEventTimeFallback →
      generateTimeProtocolRows (fun _ => none) cleanSamples references schema
        allowEventTimeFallback skew = .ok rows →
      ∀ row ∈ rows, (runPhase42dLeakageCheck [row.toJson]).passed = true →
        (labelTimestampFindings (fun _ => none) row.toJson).1 = 0 := by
  intro hclaim
  have hchecked : checkedWithTrade 1999000000 = some [(true, 1)] := by decide +kernel
  obtain ⟨row, hrows, hpassed, hleaks⟩ := exists_rowWithTrade hchecked
  have hnone := hclaim _ _ _ _ _ _ (epochInputs_withTrade (by norm_num [IsCounter])) hrows row
    List.mem_cons_self hpassed
  rw [hleaks] at hnone
  cases hnone

end SomethingTrade
