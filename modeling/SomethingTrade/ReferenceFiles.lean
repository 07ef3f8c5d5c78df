import SomethingTrade.BooktickerQuotes
import SomethingTrade.StreamingLabels

/-!
# Files of Reference Events

Two more validators of files of reference events: one that holds the valid events, and the
streaming one, which counts them and inserts them into the table. Both check a row against the
schema of events, and both are used for bookTicker quotes too, beside the validator of quotes.

For a file of quotes the three are to count each line that is not blank once, as valid or as
invalid, and never to count a row as valid whose quality says that it is not. But a quality that
says so without listing a reason is no error to the schema check, and no error of the quotes
either: the first two count its row as valid, the third one does not count it at all.

## Main results

* `quotesSound_iff`, `eventsSound_iff`, `streamSound_iff`: for each validator, the files that it
  counts as it should.
* `validatorsSound_iff`: the files that all of them count so.
* `ingest_of_ingestReferenceLines`: the streaming validator fills the tables like the reader of
  decoded rows.
-/

namespace SomethingTrade

/-! ### The validator of events -/

/-- What is reported of the gaps between events. -/
structure ReferenceGapDistribution where
  referenceSampleRatePerSec : ℚ
  gapP50Ms : Option ℚ
  gapP90Ms : Option ℚ
  gapP95Ms : Option ℚ
  gapP99Ms : Option ℚ
  gapMaxMs : Option ℚ
  gapOver100msCount : ℕ
  gapOver100msTotalDurationMs : ℚ
  badTimeCoverageRatio100ms : ℚ
  timestampMonotonicViolations : ℕ

/-- Summarize the gaps between events. -/
def analyzeReferenceGapDistribution (referenceEvents : List Json) : ReferenceGapDistribution :=
  let timestamps := receiveTimes referenceEvents
  let gaps := adjacentGapsMs timestamps
  let nonNegativeGaps := gaps.filter fun gap => gap ≥ 0
  let totalDurationMs := nsToMs (durationNs timestamps)
  let badTotalMs := (nonNegativeGaps.map fun gap => max 0 (gap - labelMaxFutureGapMs)).sum
  let durationSec := totalDurationMs / 1000
  { referenceSampleRatePerSec := if durationSec > 0 then timestamps.length / durationSec else 0
    gapP50Ms := percentile nonNegativeGaps (1 / 2)
    gapP90Ms := percentile nonNegativeGaps (9 / 10)
    gapP95Ms := percentile nonNegativeGaps (19 / 20)
    gapP99Ms := percentile nonNegativeGaps (99 / 100)
    gapMaxMs := nonNegativeGaps.max?
    gapOver100msCount := nonNegativeGaps.countP fun gap => gap > labelMaxFutureGapMs
    gapOver100msTotalDurationMs := badTotalMs
    badTimeCoverageRatio100ms := if totalDurationMs > 0 then badTotalMs / totalDurationMs else 0
    timestampMonotonicViolations := gaps.countP fun gap => gap < 0 }

/-- How often the receive times of events decrease. -/
def referenceTimestampMonotonicViolations (events : List Json) : ℕ :=
  let timestamps := receiveTimes events
  (timestamps.zip timestamps.tail).countP fun e => e.2 < e.1

/-- What is reported of a line that is no valid event. -/
structure InvalidEvent where
  line : Option ℕ
  referenceSource : Option ReferenceSource := none
  localRecvMonotonicNs : Json := .null
  eventId : Json := .null
  reason : List String

/-- The result of the validation of a file of events. -/
structure ReferenceValidationResult where
  referenceSource : ReferenceSource
  fileExists : Bool
  referenceEventCount : ℕ
  validReferenceEventCount : ℕ
  invalidReferenceEventCount : ℕ
  validEvents : List Json
  invalidEvents : List InvalidEvent
  timestampMonotonicViolations : ℕ
  quality : ReferenceGapDistribution

/-- The result for a number of events, those that are valid and what is reported of the others. -/
def referenceValidation (source : ReferenceSource) (fileExists : Bool) (eventCount : ℕ)
    (validEvents : List Json) (invalidEvents : List InvalidEvent) : ReferenceValidationResult :=
  { referenceSource := source
    fileExists := fileExists
    referenceEventCount := eventCount
    validReferenceEventCount := validEvents.length
    invalidReferenceEventCount := invalidEvents.length
    validEvents := validEvents
    invalidEvents := invalidEvents
    timestampMonotonicViolations := referenceTimestampMonotonicViolations validEvents
    quality := analyzeReferenceGapDistribution validEvents }

/-- The events of a file and what is reported of its lines. -/
structure EventScan where
  eventCount : ℕ := 0
  validEvents : List Json := []
  invalidEvents : List InvalidEvent := []

/-- Count a line and report it. -/
def EventScan.report (scan : EventScan) (invalid : InvalidEvent) : EventScan :=
  { scan with
    eventCount := scan.eventCount + 1
    invalidEvents := scan.invalidEvents ++ [invalid] }

/-- Look at a line. -/
def EventScan.step (source : ReferenceSource) (scan : EventScan) (line : FileLine × ℕ) :
    Except String EventScan :=
  match line.1 with
  | .blank => .ok scan
  | .undecodable exc =>
      .ok (scan.report { line := some line.2, reason := ["INVALID_JSON:" ++ exc] })
  | .decoded (.obj fields) => do
      let row := Json.obj fields
      let errors ← validateReferenceEventSchema row source
      if errors = [] then
        return { scan with
          eventCount := scan.eventCount + 1
          validEvents := scan.validEvents ++ [row] }
      else
        return scan.report {
          line := some line.2
          referenceSource := some source
          localRecvMonotonicNs := row.get "local_recv_monotonic_ns"
          eventId := referenceEventId row source
          reason := errors }
  | .decoded _ => .ok (scan.report { line := some line.2, reason := ["ROW_NOT_OBJECT"] })

/-- Validate a file of events; there may be none. -/
def validateReferenceEvents (file : Option (List FileLine)) (source : ReferenceSource) :
    Except String ReferenceValidationResult :=
  match file with
  | none => .ok (referenceValidation source false 0 [] [])
  | some lines => do
      let scan ← (lines.zipIdx 1).foldlM (EventScan.step source) {}
      return referenceValidation source true scan.eventCount scan.validEvents scan.invalidEvents

/-! ### The streaming validator -/

/-- What is counted of a file of events, and the tables it fills. -/
structure SourceFileStats where
  fileExists : Bool
  referenceEventCount : ℕ := 0
  invalidReferenceEventCount : ℕ := 0
  invalidSamples : BoundedSamples InvalidEvent := {}
  ingest : SourceIngest

/-- How many events are valid. -/
def SourceFileStats.validReferenceEventCount (stats : SourceFileStats) : ℕ :=
  stats.ingest.stats.validReferenceEventCount

/-- Read a row. -/
def SourceFileStats.step (source : ReferenceSource) (stats : SourceFileStats)
    (record : ℕ × Json) : Except String SourceFileStats := do
  let row := record.2
  let stats := { stats with referenceEventCount := stats.referenceEventCount + 1 }
  let errors ← validateReferenceEventSchema row source
  if errors = [] then
    return { stats with
      ingest := stats.ingest.ingest source row
        ((sourceExchangeTsMs row source true).map fun selected => selected.2) }
  else
    return { stats with
      invalidReferenceEventCount := stats.invalidReferenceEventCount + 1
      invalidSamples := stats.invalidSamples.add {
        line := some record.1
        referenceSource := some source
        localRecvMonotonicNs := row.get "local_recv_monotonic_ns"
        eventId := referenceEventId row source
        reason := errors } }

/-- Read a file of events into the tables; there may be none. -/
def ingestReferenceLines (source : ReferenceSource) (store : EventStore) (series : SeriesStore)
    (file : Option (List FileLine)) : Except String (SourceFileStats × JsonlStreamReport) :=
  let ingest : SourceIngest := ⟨.zero, store, series⟩
  match file with
  | none => .ok ({ fileExists := false, ingest := ingest }, {})
  | some lines => do
      let (report, records) := streamJsonlRecords lines
      let stats ← records.foldlM (SourceFileStats.step source)
        { fileExists := true, ingest := ingest }
      return ({ stats with
        referenceEventCount := stats.referenceEventCount + report.malformedLineCount
        invalidReferenceEventCount :=
          stats.invalidReferenceEventCount + report.malformedLineCount
        invalidSamples := report.malformedSamples.foldl (fun bounded sample =>
          bounded.add { line := some sample.line, referenceSource := some source,
                        reason := [sample.reason] }) stats.invalidSamples }, report)

/-! ### What the quality of a row says -/

/-- Whether the quality object of a row says that it is not valid. -/
def saysInvalid (row : Json) : Bool := ((row.get "quality").asDict.get "valid").isFalse

/-- The reasons a row lists can be iterated over. -/
def ListsReasons (row : Json) : Prop := ∃ reasons, listedReasons row = .ok reasons

theorem saysValid_of_saysInvalid {row : Json} (h : saysInvalid row = true) :
    saysValid row = false := by
  rw [saysInvalid] at h
  rw [saysValid]
  rcases hv : (row.get "quality").asDict.get "valid" with _ | b | _ | _ | _ | _ | _ <;>
    simp_all [Json.isFalse, Json.isTrue]

/-- The quality errors of an event are the listed reasons, when there is a quality object that
does not say valid. -/
theorem referenceQualityErrors_eq (row : Json) :
    referenceQualityErrors row =
      if (row.get "quality").asDict.truthy && !saysValid row then listedReasons row
      else .ok (if (row.get? "quality").isNone then ["MISSING_QUALITY"] else []) := by
  rw [referenceQualityErrors, saysValid, listedReasons]
  split
  · cases (row.get "quality").asDict.getD "errors" (.arr []) <;> rfl
  · rfl

/-- Without a quality object nothing is listed. -/
theorem listedReasons_of_not_truthy {row : Json}
    (h : (row.get "quality").asDict.truthy = false) : listedReasons row = .ok [] := by
  have hempty : (row.get "quality").asDict = .obj [] := by
    rcases hq : row.get "quality" with _ | _ | _ | _ | _ | _ | (_ | _) <;>
      simp_all [Json.asDict, Json.truthy]
  rw [listedReasons, hempty]
  rfl

/-- A quality that says invalid is there. -/
theorem truthy_of_saysInvalid {row : Json} (h : saysInvalid row = true) :
    (row.get "quality").asDict.truthy = true := by
  by_contra hno
  have hempty : (row.get "quality").asDict = .obj [] := by
    rcases hq : row.get "quality" with _ | _ | _ | _ | _ | _ | (_ | _) <;>
      simp_all [Json.asDict, Json.truthy]
  rw [saysInvalid, hempty] at h
  cases h

/-- The checks of an event raise exactly when the reasons it has to list cannot be iterated. -/
theorem exists_referenceQualityErrors_iff (row : Json) :
    (∃ errors, referenceQualityErrors row = .ok errors) ↔
      (saysValid row = false → ListsReasons row) := by
  rw [referenceQualityErrors_eq]
  rcases htruthy : (row.get "quality").asDict.truthy with _ | _
  · simp [ListsReasons, listedReasons_of_not_truthy htruthy]
  · rcases hstated : saysValid row with _ | _
    · simp [ListsReasons]
    · simp

/-- So do the checks of a quote. -/
theorem exists_quoteErrors_iff (row : Json) :
    (∃ errors, quoteErrors row = .ok errors) ↔ (saysValid row = false → ListsReasons row) := by
  rw [quoteErrors, ListsReasons]
  rcases saysValid row with _ | _
  · rcases listedReasons row with e | reasons <;> simp [bind, Except.bind, pure, Except.pure]
  · simp

/-! ### Rows that pass -/

/-- The errors of the fields of an event. -/
def referenceFieldErrors (row : Json) (source : ReferenceSource) : List String :=
  (["schema_version", "symbol", "source", "local_recv_monotonic_ns",
    "local_recv_wall_ts"].flatMap fun field =>
      if (row.get field).isNull then ["MISSING_" ++ upper field] else []) ++
  (if isPlainInt (row.get "local_recv_monotonic_ns") then []
    else ["MISSING_LOCAL_RECV_MONOTONIC_NS"]) ++
  (if (row.get "local_recv_wall_ts").truthy then [] else ["MISSING_LOCAL_RECV_WALL_TS"]) ++
  (if (row.get source.eventIdField).isNull && (row.get "event_id").isNull then
    ["MISSING_" ++ upper source.eventIdField] else []) ++
  referencePriceErrors row source ++
  (if source = .bookTickerMid then bookTickerErrors row else [])

/-- The schema check of an event: its fields and its quality. -/
theorem validateReferenceEventSchema_eq (row : Json) (source : ReferenceSource) :
    validateReferenceEventSchema row source = (referenceQualityErrors row).map fun reasons =>
      sortedSet (referenceFieldErrors row source ++ reasons) := by
  rw [validateReferenceEventSchema]
  rcases referenceQualityErrors row with e | reasons <;> rfl

/-- Whether a row passes the schema check. -/
def passesSchema (source : ReferenceSource) (row : Json) : Bool :=
  validateReferenceEventSchema row source = .ok []

/-- A row that says it is not valid passes when nothing else is wrong and it lists no reason. -/
theorem passesSchema_of_saysInvalid {row : Json} (source : ReferenceSource)
    (h : saysInvalid row = true) :
    passesSchema source row = true ↔
      referenceFieldErrors row source = [] ∧ listedReasons row = .ok [] := by
  have hlisted : referenceQualityErrors row = listedReasons row := by
    rw [referenceQualityErrors_eq, truthy_of_saysInvalid h, saysValid_of_saysInvalid h]
    rfl
  rw [passesSchema, decide_eq_true_eq, validateReferenceEventSchema_eq, hlisted]
  rcases listedReasons row with e | reasons
  · simp [Except.map]
  · simp [Except.map]

/-- The schema check of an event raises when its quality does. -/
theorem exists_validateReferenceEventSchema_iff (row : Json) (source : ReferenceSource) :
    (∃ errors, validateReferenceEventSchema row source = .ok errors) ↔
      (saysValid row = false → ListsReasons row) := by
  rw [← exists_referenceQualityErrors_iff, validateReferenceEventSchema_eq]
  rcases referenceQualityErrors row with e | reasons <;> simp [Except.map]

/-- No row that passes says that it is not valid, when none that says so passes. -/
theorem forall_passing_iff {source : ReferenceSource} {rows : List Json} :
    (∀ row ∈ rows.filter (passesSchema source), saysInvalid row = false) ↔
      ∀ row ∈ rows, saysInvalid row = true → passesSchema source row = false := by
  constructor
  · intro h row hrow hinvalid
    by_contra hpasses
    have hmem := List.mem_filter.mpr ⟨hrow, eq_true_of_ne_false hpasses⟩
    rw [h row hmem] at hinvalid
    cases hinvalid
  · intro h row hmem
    obtain ⟨hrow, hpasses⟩ := List.mem_filter.mp hmem
    by_contra hinvalid
    rw [h row hrow (eq_true_of_ne_false hinvalid)] at hpasses
    cases hpasses

/-! ### Sound counts -/

/-- The counts of a file are sound: no row counts as valid that says it is not, each line that
is not blank counts once, and all of them are in the total. -/
structure SoundCounts (lines : List FileLine) (validRows : List Json)
    (validCount invalidCount totalCount : ℕ) : Prop where
  valid : ∀ row ∈ validRows, saysInvalid row = false
  once : validCount + invalidCount = nonblankCount lines
  total : totalCount = nonblankCount lines

/-- The rows of a file whose reasons can be iterated over wherever they are read. -/
def Iterable (lines : List FileLine) : Prop :=
  ∀ row ∈ fileRows lines, saysValid row = false → ListsReasons row

theorem forall_row_iff {P : Json → Prop} {lines : List FileLine} (n : ℕ) :
    (∀ e ∈ lines.zipIdx n, ∀ row ∈ e.1.row?, P row) ↔ ∀ row ∈ fileRows lines, P row := by
  constructor
  · intro h row hrow
    obtain ⟨line, hline, hat⟩ := List.mem_filterMap.mp hrow
    rw [← List.zipIdx_map_fst n lines] at hline
    obtain ⟨e, he, rfl⟩ := List.mem_map.mp hline
    exact h e he row hat
  · rintro h e he row hrow
    exact h row (List.mem_filterMap.mpr ⟨e.1, List.fst_mem_of_mem_zipIdx he, hrow⟩)

/-! ### The counts of events -/

section Events

variable (source : ReferenceSource)

/-- A line makes the scan of events raise when its row does. -/
theorem EventScan.exists_step_iff (scan : EventScan) (line : FileLine × ℕ) :
    (∃ scan', scan.step source line = .ok scan') ↔
      ∀ row ∈ line.1.row?, saysValid row = false → ListsReasons row := by
  obtain ⟨line, n⟩ := line
  cases line with
  | blank => exact iff_of_true ⟨_, rfl⟩ (by simp [FileLine.row?])
  | undecodable exc => exact iff_of_true ⟨_, rfl⟩ (by simp [FileLine.row?])
  | decoded value =>
      cases value with
      | obj fields =>
          simp only [FileLine.row?, Option.mem_def, Option.some.injEq, forall_eq']
          rw [← exists_validateReferenceEventSchema_iff _ source, step]
          rcases herrors : validateReferenceEventSchema (.obj fields) source with e | errors
          · simp [herrors, bind, Except.bind]
          · by_cases hnone : errors = [] <;>
              simp [herrors, bind, Except.bind, pure, Except.pure, hnone]
      | _ => exact iff_of_true ⟨_, rfl⟩ (by simp [FileLine.row?])

/-- What the scan of events has found. -/
structure EventsScanned (lines : List FileLine) (scan : EventScan) : Prop where
  total : scan.eventCount = nonblankCount lines
  once : scan.validEvents.length + scan.invalidEvents.length = nonblankCount lines
  valid : scan.validEvents = (fileRows lines).filter (passesSchema source)

theorem EventsScanned.step {source : ReferenceSource} {lines : List FileLine}
    {scan scan' : EventScan} (h : EventsScanned source lines scan) {line : FileLine} {n : ℕ}
    (hstep : scan.step source (line, n) = .ok scan') :
    EventsScanned source (lines ++ [line]) scan' := by
  obtain ⟨htotal, honce, hvalid⟩ := h
  have hmalformed (invalid : InvalidEvent) (hblank : line.isBlank = false)
      (hrow : line.row? = none) : EventsScanned source (lines ++ [line]) (scan.report invalid) := by
    refine ⟨?_, ?_, ?_⟩
    · simp [EventScan.report, nonblankCount, hblank, htotal]
    · simp [EventScan.report, nonblankCount, hblank] at honce ⊢
      omega
    · simp [EventScan.report, fileRows, hrow, hvalid]
  cases line with
  | blank =>
      obtain rfl := Except.ok.inj hstep
      refine ⟨?_, ?_, ?_⟩
      · simp [nonblankCount, FileLine.isBlank, htotal]
      · simpa [nonblankCount, FileLine.isBlank] using honce
      · simp [fileRows, FileLine.row?, hvalid]
  | undecodable exc =>
      obtain rfl := Except.ok.inj hstep
      exact hmalformed _ rfl rfl
  | decoded value =>
      cases value with
      | obj fields =>
          rw [EventScan.step] at hstep
          rcases herrors : validateReferenceEventSchema (.obj fields) source with e | errors
          · simp [herrors, bind, Except.bind] at hstep
          · have hpasses : passesSchema source (.obj fields) = decide (errors = []) := by
              simp [passesSchema, herrors]
            simp only [herrors, bind, Except.bind, pure, Except.pure] at hstep
            split at hstep
            · rename_i hnone
              obtain rfl := Except.ok.inj hstep
              refine ⟨?_, ?_, ?_⟩
              · simp [nonblankCount, FileLine.isBlank, htotal]
              · simp [nonblankCount, FileLine.isBlank] at honce ⊢
                omega
              · simp [fileRows, FileLine.row?, hpasses, hnone, hvalid]
            · rename_i hsome
              obtain rfl := Except.ok.inj hstep
              refine ⟨?_, ?_, ?_⟩
              · simp [EventScan.report, nonblankCount, FileLine.isBlank, htotal]
              · simp [EventScan.report, nonblankCount, FileLine.isBlank] at honce ⊢
                omega
              · simp [EventScan.report, fileRows, FileLine.row?, hpasses, hsome, hvalid]
      | _ =>
          obtain rfl := Except.ok.inj hstep
          exact hmalformed _ rfl rfl

/-- What the scan of a file has found, when it does not raise. -/
theorem eventsScanned {lines : List FileLine} {scan : EventScan}
    (h : (lines.zipIdx 1).foldlM (EventScan.step source) {} = .ok scan) :
    EventsScanned source lines scan := by
  have hscanned : EventsScanned source ((lines.zipIdx 1).map Prod.fst) scan := by
    refine foldlM_invariant (I := fun es scan => EventsScanned source (es.map Prod.fst) scan)
      ⟨rfl, rfl, rfl⟩ ?_ h
    intro es e scan scan' hscan hstep
    rw [List.map_append]
    exact hscan.step hstep
  rwa [List.zipIdx_map_fst] at hscanned

/-- The validator of events counts a file as it should. -/
def EventsSound (lines : List FileLine) : Prop :=
  ∃ result, validateReferenceEvents (some lines) source = .ok result ∧
    SoundCounts lines result.validEvents result.validReferenceEventCount
      result.invalidReferenceEventCount result.referenceEventCount

/-- **The files that the validator of events counts as it should.** -/
theorem eventsSound_iff (lines : List FileLine) :
    EventsSound source lines ↔ Iterable lines ∧
      ∀ row ∈ fileRows lines, saysInvalid row = true → passesSchema source row = false := by
  have hreturns : (∃ scan, (lines.zipIdx 1).foldlM (EventScan.step source) {} = .ok scan) ↔
      Iterable lines :=
    (foldlM_returns_iff (EventScan.exists_step_iff source)).trans (forall_row_iff 1)
  rw [← hreturns, EventsSound, validateReferenceEvents]
  rcases hscan : (lines.zipIdx 1).foldlM (EventScan.step source) {} with e | scan
  · simp [bind, Except.bind]
  · obtain ⟨htotal, honce, hvalid⟩ := eventsScanned source hscan
    simp only [bind, Except.bind, pure, Except.pure, Except.ok.injEq, exists_eq_left',
      exists_eq', true_and, referenceValidation, ← forall_passing_iff, ← hvalid]
    exact ⟨fun hsound => hsound.valid, fun hstated => ⟨hstated, honce, htotal⟩⟩

end Events

/-! ### The counts of the streaming validator -/

section Stream

variable (source : ReferenceSource)

/-- A row makes the streaming validator raise when its quality does. -/
theorem SourceFileStats.exists_step_iff (stats : SourceFileStats) (record : ℕ × Json) :
    (∃ stats', stats.step source record = .ok stats') ↔
      (saysValid record.2 = false → ListsReasons record.2) := by
  rw [← exists_validateReferenceEventSchema_iff _ source, step]
  rcases validateReferenceEventSchema record.2 source with e | errors
  · simp [bind, Except.bind]
  · by_cases hnone : errors = [] <;> simp [bind, Except.bind, pure, Except.pure, hnone]

/-- What a row does to the tables is what the reader of decoded rows does. -/
theorem SourceFileStats.ingest_step {source : ReferenceSource} {stats stats' : SourceFileStats}
    {record : ℕ × Json} (h : stats.step source record = .ok stats') :
    ingestReferenceEvent source stats.ingest record.2 = .ok stats'.ingest := by
  rw [SourceFileStats.step] at h
  rw [ingestReferenceEvent]
  rcases herrors : validateReferenceEventSchema record.2 source with e | errors
  · simp [herrors, bind, Except.bind] at h
  · simp only [herrors, bind, Except.bind, pure, Except.pure] at h ⊢
    split at h
    · rename_i hnone
      obtain rfl := Except.ok.inj h
      rw [if_pos hnone]
    · rename_i hsome
      obtain rfl := Except.ok.inj h
      rw [if_neg hsome]

/-- **Reading a file fills the tables with its rows.** -/
theorem ingest_of_ingestReferenceLines {source : ReferenceSource} {store : EventStore}
    {series : SeriesStore} {lines : List FileLine} {stats : SourceFileStats}
    {report : JsonlStreamReport}
    (h : ingestReferenceLines source store series (some lines) = .ok (stats, report)) :
    ingestReferenceFile source store series (fileRows lines) = .ok stats.ingest := by
  rw [← (reported_streamJsonlRecords lines).rows, ingestReferenceFile]
  rw [ingestReferenceLines] at h
  rcases hscan : (streamJsonlRecords lines).2.foldlM (SourceFileStats.step source)
    { fileExists := true, ingest := ⟨.zero, store, series⟩ } with e | stats'
  · simp [hscan, bind, Except.bind] at h
  · simp only [hscan, bind, Except.bind, pure, Except.pure, Except.ok.injEq,
      Prod.mk.injEq] at h
    obtain ⟨rfl, -⟩ := h
    refine foldlM_invariant (I := fun es stats => (es.map Prod.snd).foldlM
      (ingestReferenceEvent source) ⟨.zero, store, series⟩ = .ok stats.ingest) rfl ?_ hscan
    intro es record stats stats' hstats hstep
    rw [List.map_append, List.foldlM_append, hstats]
    simp [bind, Except.bind, pure, Except.pure, SourceFileStats.ingest_step hstep]

/-- What the streaming validator has counted and stored. -/
structure StreamScanned (store : EventStore) (rows : List Json) (stats : SourceFileStats) :
    Prop where
  total : stats.referenceEventCount = rows.length
  once : stats.validReferenceEventCount + stats.invalidReferenceEventCount = rows.length
  stored : stats.ingest.store.events.map StoredEvent.row =
    store.events.map StoredEvent.row ++ rows.filter (passesSchema source)

theorem StreamScanned.step {source : ReferenceSource} {store : EventStore} {rows : List Json}
    {stats stats' : SourceFileStats} (h : StreamScanned source store rows stats)
    {record : ℕ × Json} (hstep : stats.step source record = .ok stats') :
    StreamScanned source store (rows ++ [record.2]) stats' := by
  obtain ⟨htotal, honce, hstored⟩ := h
  rw [SourceFileStats.step] at hstep
  rcases herrors : validateReferenceEventSchema record.2 source with e | errors
  · simp [herrors, bind, Except.bind] at hstep
  · have hpasses : passesSchema source record.2 = decide (errors = []) := by
      simp [passesSchema, herrors]
    simp only [herrors, bind, Except.bind, pure, Except.pure] at hstep
    split at hstep
    · rename_i hnone
      obtain rfl := Except.ok.inj hstep
      refine ⟨?_, ?_, ?_⟩
      · simp [htotal]
      · simp [SourceFileStats.validReferenceEventCount, SourceIngest.ingest,
          SourceIngestStats.record] at honce ⊢
        omega
      · simp [SourceIngest.ingest, EventStore.insert, hstored, hpasses, hnone]
    · rename_i hsome
      obtain rfl := Except.ok.inj hstep
      refine ⟨?_, ?_, ?_⟩
      · simp [htotal]
      · simp [SourceFileStats.validReferenceEventCount] at honce ⊢
        omega
      · simp [hstored, hpasses, hsome]

/-- The streaming validator counts a file as it should; its valid rows are those it stores. -/
def StreamSound (store : EventStore) (series : SeriesStore) (lines : List FileLine) : Prop :=
  ∃ result, ingestReferenceLines source store series (some lines) = .ok result ∧
    SoundCounts lines
      ((result.1.ingest.store.events.drop store.events.length).map StoredEvent.row)
      result.1.validReferenceEventCount result.1.invalidReferenceEventCount
      result.1.referenceEventCount

/-- **The files that the streaming validator counts as it should.** -/
theorem streamSound_iff (store : EventStore) (series : SeriesStore) (lines : List FileLine) :
    StreamSound source store series lines ↔ Iterable lines ∧
      ∀ row ∈ fileRows lines, saysInvalid row = true → passesSchema source row = false := by
  obtain ⟨-, -, hmalformed, hrows⟩ := reported_streamJsonlRecords lines
  have hreturns : (∃ stats, (streamJsonlRecords lines).2.foldlM (SourceFileStats.step source)
      { fileExists := true, ingest := ⟨.zero, store, series⟩ } = .ok stats) ↔
        Iterable lines := by
    rw [foldlM_returns_iff (SourceFileStats.exists_step_iff source), Iterable, ← hrows,
      List.forall_mem_map]
  rw [← hreturns, StreamSound, ingestReferenceLines]
  rcases hscan : (streamJsonlRecords lines).2.foldlM (SourceFileStats.step source)
    { fileExists := true, ingest := ⟨.zero, store, series⟩ } with e | stats
  · simp [hscan, bind, Except.bind]
  · have hscanned : StreamScanned source store ((streamJsonlRecords lines).2.map Prod.snd)
        stats := by
      refine foldlM_invariant (I := fun es stats => StreamScanned source store (es.map Prod.snd)
        stats) ⟨rfl, rfl, by simp⟩ ?_ hscan
      intro es record stats stats' hstats hstep
      rw [List.map_append]
      exact hstats.step hstep
    rw [hrows] at hscanned
    obtain ⟨htotal, honce, hstored⟩ := hscanned
    have hnew : (stats.ingest.store.events.drop store.events.length).map StoredEvent.row =
        (fileRows lines).filter (passesSchema source) := by
      rw [List.map_drop, hstored, List.drop_left' (List.length_map _)]
    have hcount := nonblankCount_eq lines
    simp only [hscan, bind, Except.bind, pure, Except.pure, Except.ok.injEq, exists_eq_left',
      exists_eq', true_and, SourceFileStats.validReferenceEventCount, hmalformed,
      ← forall_passing_iff, ← hnew] at honce ⊢
    exact ⟨fun hsound => hsound.valid, fun hstated => ⟨hstated, by omega, by omega⟩⟩

end Stream

/-! ### The counts of quotes -/

/-- Two tests that exclude each other cover a list when their counts add up to its length. -/
theorem countP_add_countP_eq_length_iff {α : Type} {p q : α → Bool} {xs : List α}
    (h : ∀ x, p x = true → q x = false) :
    xs.countP p + xs.countP q = xs.length ↔ ∀ x ∈ xs, (p x || q x) = true := by
  have hor : xs.countP p + xs.countP q = xs.countP fun x => p x || q x := by
    induction xs with
    | nil => rfl
    | cons x xs ih =>
        rw [List.countP_cons, List.countP_cons, List.countP_cons, ← ih]
        have hx := h x
        rcases hp : p x with _ | _
        · rcases hq : q x with _ | _ <;> simp
          omega
        · simp [hx hp]
          omega
  rw [hor, List.countP_eq_length]

/-- Whether a value can be a number of a quote in a set of numbers. -/
theorem exists_hashKey_iff {value : Json} (h : value.isNull = false) :
    (∃ key, hashKey value = .ok key) ↔ isHashable value = true := by
  cases value <;> simp_all [hashKey, isHashable, Json.isNull]

theorem isValidQuote_iff (row : Json) :
    isValidQuote row = true ↔ referenceSchemaErrors row = [] ∧ saysValid row = true := by
  rw [isValidQuote, Bool.and_eq_true, List.isEmpty_iff]

/-- A quote has no errors when its fields have none and nothing has to be listed. -/
theorem quoteErrors_eq_nil_iff (row : Json) :
    quoteErrors row = .ok [] ↔ referenceSchemaErrors row = [] ∧
      (saysValid row = true ∨ listedReasons row = .ok []) := by
  rw [quoteErrors]
  rcases saysValid row with _ | _
  · rcases listedReasons row with e | reasons <;> simp [bind, Except.bind, pure, Except.pure]
  · simp

/-- A valid quote has an update id. -/
theorem updateId_of_isValidQuote {row : Json} (h : isValidQuote row = true) :
    (row.get "update_id").isNull = false := by
  have herrors := ((isValidQuote_iff row).mp h).1
  rw [referenceSchemaErrors, sortedSet_eq_nil, List.append_eq_nil_iff] at herrors
  simpa using herrors.2

/-- Summarizing valid quotes raises exactly when one of them has reasons that cannot be iterated
over or an update id that cannot be in a set. -/
theorem exists_analyzeReferenceFeedQuality_iff {quotes : List Json}
    (h : ∀ row ∈ quotes, isValidQuote row = true) :
    (∃ quality, analyzeReferenceFeedQuality quotes = .ok quality) ↔
      ∀ row ∈ quotes, ListsReasons row ∧ isHashable (row.get "update_id") = true := by
  have hids : (∃ ids, ((quotes.map fun row => row.get "update_id").filter fun id =>
      !id.isNull).mapM hashKey = .ok ids) ↔
        ∀ row ∈ quotes, isHashable (row.get "update_id") = true := by
    have hall : ((quotes.map fun row => row.get "update_id").filter fun id => !id.isNull) =
        quotes.map fun row => row.get "update_id" := by
      refine List.filter_eq_self.mpr fun id hid => ?_
      obtain ⟨row, hrow, rfl⟩ := List.mem_map.mp hid
      simp [updateId_of_isValidQuote (h row hrow)]
    rw [hall, mapM_returns_iff, List.forall_mem_map]
    exact forall₂_congr fun row hrow =>
      exists_hashKey_iff (updateId_of_isValidQuote (h row hrow))
  have hreasons : (∃ reasons, quotes.mapM listedReasons = .ok reasons) ↔
      ∀ row ∈ quotes, ListsReasons row := mapM_returns_iff
  rw [forall₂_and, ← hids, ← hreasons, analyzeReferenceFeedQuality]
  rcases hkeys : ((quotes.map fun row => row.get "update_id").filter fun id =>
    !id.isNull).mapM hashKey with e | ids
  · simp [hkeys, bind, Except.bind]
  · rcases quotes.mapM listedReasons with e | reasons
    · simp [hkeys, bind, Except.bind]
    · simp [hkeys, bind, Except.bind, pure, Except.pure]

/-- A line makes the scan of quotes raise when its row does. -/
theorem QuoteScan.exists_step_iff (scan : QuoteScan) (line : FileLine × ℕ) :
    (∃ scan', scan.step line = .ok scan') ↔
      ∀ row ∈ line.1.row?, saysValid row = false → ListsReasons row := by
  obtain ⟨line, n⟩ := line
  cases line with
  | blank => exact iff_of_true ⟨_, rfl⟩ (by simp [FileLine.row?])
  | undecodable exc => exact iff_of_true ⟨_, rfl⟩ (by simp [FileLine.row?])
  | decoded value =>
      cases value with
      | obj fields =>
          simp only [FileLine.row?, Option.mem_def, Option.some.injEq, forall_eq']
          rw [← exists_quoteErrors_iff, step]
          rcases herrors : quoteErrors (.obj fields) with e | errors
          · simp [herrors, bind, Except.bind]
          · simp [herrors, bind, Except.bind, pure, Except.pure]
      | _ => exact iff_of_true ⟨_, rfl⟩ (by simp [FileLine.row?])

/-- Whether the validator of quotes reports a row. -/
def isReportedQuote (row : Json) : Bool := quoteErrors row ≠ .ok []

/-- What the scan of quotes has found. -/
structure QuotesScanned (lines : List FileLine) (scan : QuoteScan) : Prop where
  quotes : scan.quotes = fileRows lines
  invalid : scan.invalidRows.length =
    lines.countP FileLine.isMalformed + (fileRows lines).countP isReportedQuote

theorem QuotesScanned.step {lines : List FileLine} {scan scan' : QuoteScan}
    (h : QuotesScanned lines scan) {line : FileLine} {n : ℕ}
    (hstep : scan.step (line, n) = .ok scan') : QuotesScanned (lines ++ [line]) scan' := by
  obtain ⟨hquotes, hinvalid⟩ := h
  rw [fileRows] at hquotes hinvalid
  have hmalformed (invalid : InvalidQuote) (hline : line.isMalformed = true)
      (hrow : line.row? = none) : QuotesScanned (lines ++ [line])
        { scan with invalidRows := scan.invalidRows ++ [invalid] } := by
    constructor
    · simp [fileRows, hrow, hquotes]
    · simp [fileRows, hrow, hline, hinvalid]
      omega
  cases line with
  | blank =>
      obtain rfl := Except.ok.inj hstep
      constructor
      · simp [fileRows, FileLine.row?, hquotes]
      · simp [fileRows, FileLine.row?, FileLine.isMalformed, FileLine.isBlank, hinvalid]
  | undecodable exc =>
      obtain rfl := Except.ok.inj hstep
      exact hmalformed _ rfl rfl
  | decoded value =>
      cases value with
      | obj fields =>
          rw [QuoteScan.step] at hstep
          rcases herrors : quoteErrors (.obj fields) with e | errors
          · simp [herrors, bind, Except.bind] at hstep
          · have hreported : isReportedQuote (.obj fields) = decide (errors ≠ []) := by
              simp [isReportedQuote, herrors]
            simp only [herrors, bind, Except.bind, pure, Except.pure] at hstep
            obtain rfl := Except.ok.inj hstep
            constructor
            · simp [fileRows, FileLine.row?, hquotes]
            · by_cases hnone : errors = []
              · simp [fileRows, FileLine.row?, FileLine.isMalformed, hreported, hnone, hinvalid]
              · simp [fileRows, FileLine.row?, FileLine.isMalformed, hreported, hnone, hinvalid]
                omega
      | _ =>
          obtain rfl := Except.ok.inj hstep
          exact hmalformed _ rfl rfl

/-- The validator of quotes counts a file as it should. -/
def QuotesSound (lines : List FileLine) : Prop :=
  ∃ result, validateReferenceQuotes (some lines) = .ok result ∧
    SoundCounts lines result.validQuotes result.validReferenceQuoteCount
      result.invalidReferenceQuoteCount result.referenceQuoteCount

/-- A quote is neither valid nor reported when nothing but its missing verdict is wrong. -/
theorem valid_or_reported_iff (row : Json) :
    (isValidQuote row || isReportedQuote row) = true ↔
      (saysValid row = false → referenceSchemaErrors row ≠ [] ∨ listedReasons row ≠ .ok []) := by
  rw [Bool.or_eq_true, isValidQuote_iff, isReportedQuote, decide_eq_true_eq, ne_eq,
    quoteErrors_eq_nil_iff]
  rcases saysValid row with _ | _
  · simp [imp_iff_not_or]
  · simp [em]

/-- **The files that the validator of quotes counts as it should.** -/
theorem quotesSound_iff (lines : List FileLine) :
    QuotesSound lines ↔ Iterable lines ∧ (∀ line ∈ lines, line.isMalformed = false) ∧
      (∀ row ∈ fileRows lines, isValidQuote row = true →
        ListsReasons row ∧ isHashable (row.get "update_id") = true) ∧
      ∀ row ∈ fileRows lines, saysValid row = false →
        referenceSchemaErrors row ≠ [] ∨ listedReasons row ≠ .ok [] := by
  have hreturns : (∃ scan, (lines.zipIdx 1).foldlM QuoteScan.step {} = .ok scan) ↔
      Iterable lines :=
    (foldlM_returns_iff QuoteScan.exists_step_iff).trans (forall_row_iff 1)
  rw [← hreturns, QuotesSound, validateReferenceQuotes]
  rcases hscan : (lines.zipIdx 1).foldlM QuoteScan.step {} with e | scan
  · simp [bind, Except.bind]
  · have hscanned : QuotesScanned ((lines.zipIdx 1).map Prod.fst) scan := by
      refine foldlM_invariant (I := fun es scan => QuotesScanned (es.map Prod.fst) scan)
        ⟨rfl, rfl⟩ ?_ hscan
      intro es e scan scan' hscan hstep
      rw [List.map_append]
      exact hscan.step hstep
    rw [List.zipIdx_map_fst] at hscanned
    obtain ⟨hquotes, hinvalid⟩ := hscanned
    have hvalid : ∀ row ∈ (fileRows lines).filter isValidQuote, isValidQuote row = true :=
      fun row hrow => (List.mem_filter.mp hrow).2
    have hsummary := exists_analyzeReferenceFeedQuality_iff hvalid
    have hcount := nonblankCount_eq lines
    have hmalformed : lines.countP FileLine.isMalformed = 0 ↔
        ∀ line ∈ lines, line.isMalformed = false := by
      simp [List.countP_eq_zero]
    have hcover : (fileRows lines).countP isValidQuote + (fileRows lines).countP isReportedQuote =
        (fileRows lines).length ↔ ∀ row ∈ fileRows lines, saysValid row = false →
          referenceSchemaErrors row ≠ [] ∨ listedReasons row ≠ .ok [] := by
      rw [countP_add_countP_eq_length_iff]
      · exact forall₂_congr fun row _ => valid_or_reported_iff row
      · intro row hrow
        obtain ⟨herrors, hstated⟩ := (isValidQuote_iff row).mp hrow
        simp [isReportedQuote, quoteErrors_eq_nil_iff, herrors, hstated]
    simp only [List.mem_filter, and_imp] at hsummary
    rw [← hmalformed, ← hcover, ← hsummary]
    simp only [hquotes, bind, Except.bind]
    rcases hquality : analyzeReferenceFeedQuality ((fileRows lines).filter isValidQuote) with
      e | quality
    · simp
    · simp only [pure, Except.pure, Except.ok.injEq, exists_eq_left', exists_eq', true_and,
        hinvalid, ← List.countP_eq_length_filter]
      constructor
      · rintro ⟨-, honce, htotal⟩
        constructor <;> omega
      · rintro ⟨hnone, hall⟩
        refine ⟨fun row hrow => ?_, by omega, by omega⟩
        have hstated := ((isValidQuote_iff row).mp (hvalid row hrow)).2
        by_contra hinvalidRow
        rw [saysValid_of_saysInvalid (eq_true_of_ne_false hinvalidRow)] at hstated
        cases hstated

/-! ### The three validators -/

/-- The files of quotes that all validators count as they should: every line that is not blank
holds a row, no row makes them raise, and each row that does not say that it is valid lists a
reason or has wrong fields, for the schema of events too when it says that it is not valid. -/
structure CountableQuotes (lines : List FileLine) : Prop where
  rowsOnly : ∀ line ∈ lines, line.isMalformed = false
  iterable : ∀ row ∈ fileRows lines, saysValid row = false → ListsReasons row
  summarizable : ∀ row ∈ fileRows lines, isValidQuote row = true →
    ListsReasons row ∧ isHashable (row.get "update_id") = true
  reported : ∀ row ∈ fileRows lines, saysValid row = false → listedReasons row = .ok [] →
    referenceSchemaErrors row ≠ []
  refused : ∀ row ∈ fileRows lines, saysInvalid row = true → listedReasons row = .ok [] →
    referenceFieldErrors row .bookTickerMid ≠ []

/-- All three validators count a file of quotes as they should. -/
def ValidatorsSound (store : EventStore) (series : SeriesStore) (lines : List FileLine) : Prop :=
  QuotesSound lines ∧ EventsSound .bookTickerMid lines ∧
    StreamSound .bookTickerMid store series lines

/-- **The files of quotes that all validators count as they should.** -/
theorem validatorsSound_iff (store : EventStore) (series : SeriesStore) (lines : List FileLine) :
    ValidatorsSound store series lines ↔ CountableQuotes lines := by
  have hpasses (row : Json) (h : saysInvalid row = true) :
      passesSchema .bookTickerMid row = false ↔
        (listedReasons row = .ok [] → referenceFieldErrors row .bookTickerMid ≠ []) := by
    rw [← Bool.not_eq_true, passesSchema_of_saysInvalid _ h, and_comm, not_and]
  have hreported (row : Json) : (referenceSchemaErrors row ≠ [] ∨ listedReasons row ≠ .ok []) ↔
      (listedReasons row = .ok [] → referenceSchemaErrors row ≠ []) := by
    rw [imp_iff_not_or, or_comm]
  rw [ValidatorsSound, quotesSound_iff, eventsSound_iff, streamSound_iff]
  constructor
  · rintro ⟨⟨hiterable, hrows, hsummary, hnamed⟩, ⟨-, hrefused⟩, -⟩
    exact ⟨hrows, hiterable, hsummary,
      fun row hrow hstated => (hreported row).mp (hnamed row hrow hstated),
      fun row hrow hstated => (hpasses row hstated).mp (hrefused row hrow hstated)⟩
  · rintro ⟨hrows, hiterable, hsummary, hnamed, hrefused⟩
    have hevents : ∀ row ∈ fileRows lines, saysInvalid row = true →
        passesSchema .bookTickerMid row = false :=
      fun row hrow hstated => (hpasses row hstated).mpr (hrefused row hrow hstated)
    exact ⟨⟨hiterable, hrows, hsummary,
      fun row hrow hstated => (hreported row).mpr (hnamed row hrow hstated)⟩,
      ⟨hiterable, hevents⟩, hiterable, hevents⟩

/-- A quote with all its fields whose quality says that it is not valid but not why. -/
def unexplainedQuote : Json :=
  .obj [("schema_version", .str "bookticker_reference_v1"), ("symbol", .str "BTCUSDT"),
    ("source", .str "binance_ws_bookTicker"), ("local_recv_monotonic_ns", .int 5),
    ("local_recv_wall_ts", .str "2026-01-01T00:00:00Z"), ("exchange_event_ts", .null),
    ("update_id", .int 7), ("best_bid", .float 100), ("best_bid_qty", .float 1),
    ("best_ask", .float 101), ("best_ask_qty", .float 1), ("mid_price", .float (201 / 2)),
    ("spread", .float 1), ("spread_bps", .float 99),
    ("quality", .obj [("valid", .bool false), ("errors", .arr [])])]

/-- The validator of events counts such a quote as valid. -/
theorem validatorsSound_false_of_unexplained :
    ¬ ValidatorsSound .empty .empty [.decoded unexplainedQuote] := by
  rintro ⟨-, hevents, -⟩
  have hpasses : passesSchema .bookTickerMid unexplainedQuote = true := by decide +kernel
  have hrefused := ((eventsSound_iff _ _).mp hevents).2 unexplainedQuote
    (List.mem_singleton_self _) rfl
  rw [hpasses] at hrefused
  cases hrefused

end SomethingTrade
