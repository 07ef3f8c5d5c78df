import SomethingTrade.CoverageRecapture

/-!
# The Runtime of a Recapture

A recapture judges the runtime of its capture by the report of the capture: it looks for nine
counters in the three parts of the report, turns them into numbers, and wants them to be zero. The
report has a verdict of its own, which looks at more counters.

## Main results

* `summary_passes_iff_runtime`: the verdict of a capture's report passes exactly when a recapture
  finds nothing wrong with the runtime and three counters that it does not read are zero.
-/

namespace SomethingTrade

open OrderbookPhase41Processor

/-- The counters that a recapture reads are zero, and copies of the book are fast. -/
structure RuntimeClean (p : OrderbookPhase41Processor) (load : QueueLoad) (copies : CopySamples) :
    Prop where
  beforeSnapshot : p.lifecycle.counters.deltaBeforeSnapshotCount = 0
  feedStale : p.counters.feedReceiveStaleCount = 0
  dropped : load.queueDroppedMessages = 0
  sequenceGaps : p.lifecycle.counters.sequenceGapCount = 0
  invalidDeltas : p.counters.invalidDeltaCount = 0
  crossedBooks : p.counters.crossedBookCount = 0
  emptyBooks : blockedBy p .bookEmpty = 0
  oneSided : blockedBy p .oneSideMissing = 0
  schemaViolations : p.counters.cleanSampleSchemaViolationCount = 0
  copyP99 : (percentile copies.us (99 / 100)).getD 0 ≤ snapshotCopyBudgetUs

/-- What the verdict of a capture's report sees, and what a recapture does not read of it. -/
theorem spotless_iff_runtimeClean {p : OrderbookPhase41Processor} {load : QueueLoad}
    {copies : CopySamples} :
    (Spotless p load ∧ (percentile copies.us (99 / 100)).getD 0 ≤ snapshotCopyBudgetUs) ↔
      RuntimeClean p load copies ∧ p.counters.previousFinalUpdateIdMismatchCount = 0 ∧
        p.counters.bridgeMissingAfterSnapshotCount = 0 ∧
        p.counters.firstDeltaBridgeFailedCount = 0 := by
  constructor
  · rintro ⟨h, hcopy⟩
    exact ⟨⟨h.beforeSnapshot, h.feedStale, h.dropped, h.sequenceGaps, h.invalidDeltas,
      h.crossedBooks, h.emptyBooks, h.oneSided, h.schemaViolations, hcopy⟩,
      h.previousIdMismatches, h.bridgesMissing, h.bridgesFailed⟩
  · rintro ⟨h, hprevious, hmissing, hfailed⟩
    exact ⟨⟨h.sequenceGaps, h.crossedBooks, h.emptyBooks, h.oneSided, h.beforeSnapshot,
      h.invalidDeltas, hprevious, h.schemaViolations, h.feedStale, hmissing, hfailed, h.dropped⟩,
      h.copyP99⟩

/-! ### Counters that are read back -/

/-- The value that a recapture finds for a field of a report. -/
def foundField (report : Json) (field : String) : Json :=
  runtimeField report (report.get "queue").asDict (report.get "lifecycle").asDict field

theorem foundField_of_get? {report value : Json} {field : String}
    (h : report.get? field = some value) : foundField report field = value := by
  rw [foundField, runtimeField, h]

/-- What a recapture makes of a report of a capture. -/
theorem runtimeQualityFromPhase41Report_loaded (path : String) {report : Json}
    (h : report.IsObj) :
    runtimeQualityFromPhase41Report path (.loaded report) =
      .ok (normalizeRuntimeQuality (.obj (runtimeHardZeroFields.map (fun field =>
        (field, foundField report field)) ++
          [("snapshot_copy_p99_us", report.get "snapshot_copy_p99_us")])), []) := by
  obtain ⟨fields, rfl⟩ := h
  rfl

theorem Json.num_int (n : ℤ) : (Json.int n).num = n := by
  simp [Json.num, Json.toFinite?, Json.toFloat?]

theorem Json.num_float (q : ℚ) : (Json.float q).num = q := by
  simp [Json.num, Json.toFinite?, Json.toFloat?]

/-- A report normalizes again what it is built of, which changes nothing. -/
theorem normalizeRuntimeQuality_idem (quality : Json) :
    normalizeRuntimeQuality (normalizeRuntimeQuality quality) =
      normalizeRuntimeQuality quality := by
  have hcounter {field : String} (hfield : field ∈ runtimeHardZeroFields) :
      (normalizeRuntimeQuality quality).get field =
        .int ((quality.get field).num.num.tdiv (quality.get field).num.den) := by
    simp only [runtimeHardZeroFields, List.mem_cons, List.not_mem_nil, or_false] at hfield
    rcases hfield with rfl | rfl | rfl | rfl | rfl | rfl | rfl | rfl | rfl <;> rfl
  have hcopy : (normalizeRuntimeQuality quality).get "snapshot_copy_p99_us" =
      .float (quality.get "snapshot_copy_p99_us").num := rfl
  rw [normalizeRuntimeQuality, hcopy, Json.num_float, List.map_congr_left fun field hfield => ?_]
  · rfl
  · rw [hcounter hfield, Json.num_int]
    simp

/-- A normalized field is the number of the value that was found. -/
theorem get_normalizeRuntimeQuality {values : String → Json} {copyP99 : Json} {field : String}
    (hfield : field ∈ runtimeHardZeroFields) {n : ℕ} (hn : values field = .int n) :
    (normalizeRuntimeQuality (.obj (runtimeHardZeroFields.map (fun field =>
      (field, values field)) ++ [("snapshot_copy_p99_us", copyP99)]))).get field = .int n := by
  simp only [runtimeHardZeroFields, List.mem_cons, List.not_mem_nil, or_false] at hfield
  rcases hfield with rfl | rfl | rfl | rfl | rfl | rfl | rfl | rfl | rfl
  all_goals
    simp [normalizeRuntimeQuality, runtimeHardZeroFields, hn, Json.num_int]

/-- A counter is found when it is not zero. -/
theorem positiveWhen_eq_nil {area : CoverageArea} {part : Json} {field failure : String} {n : ℕ}
    (h : part.get field = .int n) : positiveWhen area part field failure = [] ↔ n = 0 := by
  rw [positiveWhen, exceedsWhen, foundWhen, h, Json.num_int]
  simp

/-- The time that copies take is read as it is. -/
theorem get_copyP99 (values : String → Json) {copyP99 : Json} {q : ℚ} (h : copyP99 = .float q) :
    (normalizeRuntimeQuality (.obj (runtimeHardZeroFields.map (fun field =>
      (field, values field)) ++ [("snapshot_copy_p99_us", copyP99)]))).get
        "snapshot_copy_p99_us" = .float q := by
  subst h
  simp [normalizeRuntimeQuality, runtimeHardZeroFields, Json.num_float]

/-- A time is found when it is over its limit. -/
theorem exceedsWhen_eq_nil {area : CoverageArea} {part : Json} {field label failure : String}
    {limit q : ℚ} (h : part.get field = .float q) :
    exceedsWhen area part field limit label failure = [] ↔ q ≤ limit := by
  rw [exceedsWhen, foundWhen, h, Json.num_float]
  simp

/-- **The runtime that is read back** from the report of a capture. -/
theorem Reports.runtimeFindings_eq_nil {p : OrderbookPhase41Processor} {load : QueueLoad}
    {copies : CopySamples} {report : Json} (h : Reports p load copies report)
    (hobj : report.IsObj) (path : String) :
    ∃ quality, runtimeQualityFromPhase41Report path (.loaded report) = .ok (quality, []) ∧
      ∀ measured : Json, measured.get "runtime_quality" = normalizeRuntimeQuality quality →
        (runtimeQualityFindings measured = [] ↔ RuntimeClean p load copies) := by
  refine ⟨_, runtimeQualityFromPhase41Report_loaded path hobj, fun measured hmeasured => ?_⟩
  rw [normalizeRuntimeQuality_idem] at hmeasured
  generalize hnormal : normalizeRuntimeQuality _ = quality at hmeasured
  have hdict : quality.asDict = quality := hnormal ▸ rfl
  have hcounter {field : String} (hfield : field ∈ runtimeHardZeroFields) {n : ℕ}
      (hn : foundField report field = .int n) :
      positiveWhen .runtime quality field "phase_4_1_1_runtime_invariant_failed" = [] ↔ n = 0 :=
    positiveWhen_eq_nil (hnormal ▸ get_normalizeRuntimeQuality hfield hn)
  have hcopy := @exceedsWhen_eq_nil .runtime quality "snapshot_copy_p99_us"
    "snapshot_copy_p99_us > 200: " "phase_4_1_1_runtime_invariant_failed" 200
    ((percentile copies.us (99 / 100)).getD 0)
    (hnormal ▸ get_copyP99 _ (Json.get_of_get? h.copyP99))
  -- the queue alone says how many messages were dropped
  have hdropped : foundField report "queue_dropped_messages" = .int load.queueDroppedMessages := by
    simp [foundField, runtimeField, h.dropped, Json.get_of_get? h.queue, Json.asDict,
      QueueBackpressureMonitor.report]
  rw [runtimeQualityFindings, hmeasured, hdict, List.append_eq_nil_iff, List.flatMap_eq_nil_iff,
    hcopy]
  constructor
  · rintro ⟨hzero, hbudget⟩
    have hfield {field : String} (hmem : field ∈ runtimeHardZeroFields) {n : ℕ}
        (hn : foundField report field = .int n) : n = 0 :=
      (hcounter hmem hn).mp (hzero field hmem)
    exact
      { beforeSnapshot := hfield (by decide) (foundField_of_get? h.sampleBeforeReady)
        feedStale := hfield (by decide) (foundField_of_get? h.feedReceiveStale)
        dropped := hfield (by decide) hdropped
        sequenceGaps := hfield (by decide) (foundField_of_get? h.sequenceGap)
        invalidDeltas := hfield (by decide) (foundField_of_get? h.invalidDelta)
        crossedBooks := hfield (by decide) (foundField_of_get? h.crossedBook)
        emptyBooks := hfield (by decide) (foundField_of_get? h.bookEmpty)
        oneSided := hfield (by decide) (foundField_of_get? h.oneSideMissing)
        schemaViolations := hfield (by decide) (foundField_of_get? h.schemaViolation)
        copyP99 := hbudget }
  · intro hclean
    refine ⟨?_, hclean.copyP99⟩
    simp only [runtimeHardZeroFields, List.forall_mem_cons, List.not_mem_nil, false_imp_iff,
      implies_true, and_true]
    exact ⟨(hcounter (by decide) (foundField_of_get? h.sampleBeforeReady)).mpr
        hclean.beforeSnapshot,
      (hcounter (by decide) (foundField_of_get? h.feedReceiveStale)).mpr hclean.feedStale,
      (hcounter (by decide) hdropped).mpr hclean.dropped,
      (hcounter (by decide) (foundField_of_get? h.sequenceGap)).mpr hclean.sequenceGaps,
      (hcounter (by decide) (foundField_of_get? h.invalidDelta)).mpr hclean.invalidDeltas,
      (hcounter (by decide) (foundField_of_get? h.crossedBook)).mpr hclean.crossedBooks,
      (hcounter (by decide) (foundField_of_get? h.bookEmpty)).mpr hclean.emptyBooks,
      (hcounter (by decide) (foundField_of_get? h.oneSideMissing)).mpr hclean.oneSided,
      (hcounter (by decide) (foundField_of_get? h.schemaViolation)).mpr
        hclean.schemaViolations⟩

/-- **Two verdicts on one capture.** Whatever the counters of a processor and its queue, the report
that they leave can be read back, and a recapture's report is built of it (`Phase42aInputs.fields`).
It passes exactly when a recapture finds nothing wrong with the runtime that it reads back, and
three more counters are zero: the update ids that did not follow each other, and the bridges that
were missing or failed. -/
theorem summary_passes_iff_runtime (p : OrderbookPhase41Processor) (load : QueueLoad)
    (copies : CopySamples) (durationSec : Option ℚ) (clock : ℤ) (path : String) :
    let out := p.summary load copies durationSec clock
    ∃ quality, runtimeQualityFromPhase41Report path (.loaded out.2) = .ok (quality, []) ∧
      ∀ measured : Json, measured.get "runtime_quality" = normalizeRuntimeQuality quality →
        (runtimeQualityFindings measured = [] ↔ RuntimeClean out.1 load copies) ∧
        (out.2.get "phase_4_1_pass" = .bool true ↔ runtimeQualityFindings measured = [] ∧
          out.1.counters.previousFinalUpdateIdMismatchCount = 0 ∧
          out.1.counters.bridgeMissingAfterSnapshotCount = 0 ∧
          out.1.counters.firstDeltaBridgeFailedCount = 0) := by
  intro out
  have hpasses : out.2.get "phase_4_1_pass" = .bool true ↔ _ :=
    (summary_passes_iff p load copies durationSec clock).trans spotless_iff_runtimeClean
  have hreports : Reports out.1 load copies out.2 := by
    have hrest := (get?_verdictFields (.obj (out.1.summaryFields load copies durationSec))).2.2
    exact reports_summaryFields out.1 load copies durationSec _ hrest
  obtain ⟨quality, hquality, hfindings⟩ :=
    hreports.runtimeFindings_eq_nil ⟨_, rfl⟩ path
  refine ⟨quality, hquality, fun measured hmeasured => ⟨hfindings measured hmeasured, ?_⟩⟩
  rw [hpasses, hfindings measured hmeasured]

end SomethingTrade
