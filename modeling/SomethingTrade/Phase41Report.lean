import SomethingTrade.OrderbookCapture

/-!
# The Report of a Capture

A capture ends with a report of what its counters say. The report holds a verdict of its own; a
gate script reads it again, checks that its fields are there, and judges it by the limits of a
stage.

## Representation

* A report has the fields that the verdict, the gate and the check of its fields read; the lists
  of warnings and the statistics of the writer, which none of them reads, are left out.
* The times that copies take are measured outside the model: they are given with the sizes of
  the copies (`CopySamples`).
* The two parts of the queue monitor are given as they are stored.

## Main results

* `summary_agrees_with_gate`: a report has all fields, and the verdict of the gate is the verdict
  of the report with the limits of the stage.
-/

namespace SomethingTrade

/-! ### The parts of a report -/

/-- The lifecycle part of a report. -/
def WSLifecycleTracker.report (t : WSLifecycleTracker) : List (String × Json) :=
  let c := t.counters
  [("connect_count", .int c.connectCount),
    ("disconnect_count", .int c.disconnectCount),
    ("reconnect_count", .int c.reconnectCount),
    ("resubscribe_count", .int c.resubscribeCount),
    ("snapshot_loaded_count", .int c.snapshotLoadedCount),
    ("snapshot_refresh_count", .int c.snapshotRefreshCount),
    ("snapshot_failed_count", .int c.snapshotFailedCount),
    ("delta_before_snapshot_count", .int c.deltaBeforeSnapshotCount),
    ("messages_before_ready_count", .int c.messagesBeforeReadyCount),
    ("state_reset_count", .int c.stateResetCount),
    ("sequence_gap_count", .int c.sequenceGapCount),
    ("duplicate_messages_detected", .int c.duplicateMessagesDetected),
    ("duplicate_messages_skipped", .int c.duplicateMessagesSkipped),
    ("queue_backpressure_events", .int c.queueBackpressureEvents),
    ("queue_dropped_messages", .int c.queueDroppedMessages),
    ("sample_blocked_by_ready_guard", .int c.sampleBlockedByReadyGuard),
    ("ready_to_emit_false_warning_count", .int c.readyToEmitFalseWarningCount),
    ("ready_to_emit_false_duration_ms_max", .float t.readyToEmitFalseDurationMsMax),
    ("market_status_known", .bool false),
    ("market_status_mode", .str "not_applicable_for_binance_spot_orderbook"),
    ("market_paused_count", .int 0),
    ("market_unpaused_count", .int 0),
    ("market_resolved_count", .int 0)]

/-- A percentile of samples, zero when there are none. -/
def samplePercentile (samples : List ℚ) (p : ℚ) : Json := .float ((percentile samples p).getD 0)

/-- The queue part of a report. -/
def QueueBackpressureMonitor.report (m : QueueBackpressureMonitor) : List (String × Json) :=
  let depths : List ℚ := m.load.queueDepthSamples.map fun (depth : ℤ) => (depth : ℚ)
  [("queue_current_size", .int m.load.queueCurrentSize),
    ("queue_max_size", .int m.load.queueMaxSize),
    ("queue_capacity", .int capacity),
    ("queue_dropped_messages", .int m.load.queueDroppedMessages),
    ("queue_backpressure_events",
      .int m.events.refreshBackpressureTotal.queueBackpressureEvents),
    ("queue_size_backpressure_events", .int m.events.queueSizeBackpressureEvents),
    ("queue_lag_backpressure_events", .int m.events.queueLagBackpressureEvents),
    ("processing_lag_backpressure_events", .int m.events.processingLagBackpressureEvents),
    ("snapshot_blocking_lag_events", .int m.events.snapshotBlockingLagEvents),
    ("queue_depth_p50", samplePercentile depths (1 / 2)),
    ("queue_depth_p95", samplePercentile depths (19 / 20)),
    ("queue_depth_p99", samplePercentile depths (99 / 100)),
    ("queue_put_block_count", .int m.load.queuePutBlockCount),
    ("queue_put_block_p50_ms", samplePercentile m.load.queuePutBlockSamples (1 / 2)),
    ("queue_put_block_p95_ms", samplePercentile m.load.queuePutBlockSamples (19 / 20)),
    ("queue_put_block_p99_ms", samplePercentile m.load.queuePutBlockSamples (99 / 100)),
    ("enqueue_to_dequeue_lag_ms_max", .float m.load.enqueueToDequeueLagMsMax),
    ("enqueue_to_dequeue_lag_ms_p50", samplePercentile m.load.lagSamples (1 / 2)),
    ("enqueue_to_dequeue_lag_ms_p95", samplePercentile m.load.lagSamples (19 / 20)),
    ("enqueue_to_dequeue_lag_ms_p99", samplePercentile m.load.lagSamples (99 / 100)),
    ("enqueue_to_dequeue_lag_p50_ms", samplePercentile m.load.lagSamples (1 / 2)),
    ("enqueue_to_dequeue_lag_p95_ms", samplePercentile m.load.lagSamples (19 / 20)),
    ("enqueue_to_dequeue_lag_p99_ms", samplePercentile m.load.lagSamples (99 / 100)),
    ("max_processing_lag_ms", .float m.load.maxProcessingLagMs),
    ("processing_lag_p50_ms", samplePercentile m.load.processingLagSamples (1 / 2)),
    ("processing_lag_p95_ms", samplePercentile m.load.processingLagSamples (19 / 20)),
    ("processing_lag_p99_ms", samplePercentile m.load.processingLagSamples (99 / 100)),
    ("snapshot_request_duration_p50_ms",
      samplePercentile m.load.snapshotRequestDurationSamples (1 / 2)),
    ("snapshot_request_duration_p95_ms",
      samplePercentile m.load.snapshotRequestDurationSamples (19 / 20)),
    ("snapshot_request_duration_p99_ms",
      samplePercentile m.load.snapshotRequestDurationSamples (99 / 100)),
    ("snapshot_apply_duration_p50_ms",
      samplePercentile m.load.snapshotApplyDurationSamples (1 / 2)),
    ("snapshot_apply_duration_p95_ms",
      samplePercentile m.load.snapshotApplyDurationSamples (19 / 20)),
    ("snapshot_apply_duration_p99_ms",
      samplePercentile m.load.snapshotApplyDurationSamples (99 / 100))]

/-- What was measured of the copies of the book: times in microseconds, and the sizes of the two
sides. -/
structure CopySamples where
  us : List ℚ
  bidLevelCounts : List ℕ
  askLevelCounts : List ℕ

/-- The time a copy may take, in microseconds. -/
def snapshotCopyBudgetUs : ℚ := 200

/-- The greatest of some counts, zero when there are none. -/
def greatestCount (counts : List ℕ) : ℕ := counts.foldl max 0

/-- The number of samples that a quality error blocked. -/
def blockedBy (p : OrderbookPhase41Processor) (error : BookError) : ℕ :=
  (p.blockedByQualityError.get? error).getD 0

/-! ### The verdict of a report -/

/-- The number a value stands for in a comparison, zero when it is none. -/
def numericValue (value : Json) : Decimal := value.toFloat?.getD (.finite 0)

/-- A number is greater than a limit. -/
def Decimal.exceeds (limit : ℚ) : Decimal → Bool
  | .finite q => limit < q
  | .infinity negative => !negative
  | .nan => false

/-- A field of a report counts something. -/
def isPositive (value : Json) : Bool := (numericValue value).exceeds 0

/-- The counters that must be zero, but for those of the sequence, the feed and the bridges. -/
def blockerFields : List String :=
  ["crossed_book_count", "book_empty_count", "one_side_missing_count",
    "sample_before_ready_count", "invalid_delta_count",
    "previous_final_update_id_mismatch_count", "ready_to_emit_violation_count",
    "clean_sample_schema_violation_count"]

/-- The counters of missing and failed bridges. -/
def bridgeFields : List String :=
  ["bridge_missing_after_snapshot_count", "first_delta_bridge_failed_count"]

/-- The reason of a counter that is not zero. -/
def positiveReason (field : String) : String := field ++ " > 0"

/-- The counters of a list that are not zero, as reasons. -/
def positiveReasons (report : Json) (fields : List String) : List String :=
  (fields.filter fun field => isPositive (report.get field)).map positiveReason

/-- The counter that says whether the feed was stale: the first one that is there. -/
def staleField (report : Json) : String :=
  if !(report.get "feed_receive_stale_count").isNull then "feed_receive_stale_count"
  else if (report.get "active_feed_stale_count").isNull then "stale_book_count"
  else "active_feed_stale_count"

/-- The reasons why a report fails, in order. -/
def phase41FailureReasons (report : Json) : List String :=
  (if isPositive (report.get "sequence_gap_count") then [positiveReason "sequence_gap_count"]
    else positiveReasons report ["sequence_gap_or_reset_count"]) ++
  positiveReasons report blockerFields ++
  positiveReasons report [staleField report] ++
  positiveReasons report bridgeFields ++
  positiveReasons (report.get "queue").asDict ["queue_dropped_messages"] ++
  if (report.getD "snapshot_copy_budget_met" (.bool true)).truthy then []
  else ["snapshot_copy_p99_us > snapshot_copy_budget_us"]

/-- The verdict of a report. -/
def evaluatePhase41Pass (report : Json) : Bool × List String :=
  ((phase41FailureReasons report).isEmpty, phase41FailureReasons report)

/-- The warnings of a report. -/
def phase411WarningReasons (report : Json) : List String :=
  positiveReasons report ["post_capture_age_warning_count"] ++
  (if (report.get "market_status_mode").text = "not_applicable_for_binance_spot_orderbook" then
    ["market_status_not_applicable_for_binance_spot_orderbook"] else []) ++
  positiveReasons report ["processor_apply_stale_count"]

/-! ### Writing a report -/

namespace OrderbookPhase41Processor

/-- The fields of a report before its verdict. -/
def summaryFields (p : OrderbookPhase41Processor) (load : QueueLoad) (copies : CopySamples)
    (durationSec : Option ℚ) : List (String × Json) :=
  let queueReport := QueueBackpressureMonitor.report ⟨p.queueMonitor, load⟩
  let lifecycleReport := p.lifecycle.report ++
    [("feed_receive_stale_count", .int p.counters.feedReceiveStaleCount),
      ("processor_apply_stale_count", .int p.counters.processorApplyStaleCount),
      ("post_capture_age_warning_count", .int p.postCaptureWarningSymbols.size),
      ("stale_reset_count", .int p.counters.staleResetCount)]
  let copyP99 := (percentile copies.us (99 / 100)).getD 0
  [("phase", .str "4.1.1"),
    ("duration_sec", .ofFloat? durationSec),
    ("symbol", .str (String.intercalate "," (p.states.keys.insertionSort (· ≤ ·)))),
    ("messages_received", .int p.counters.messagesReceived),
    ("messages_parsed", .int p.counters.messagesParsed),
    ("deltas_accepted", .int p.counters.deltasAccepted),
    ("deltas_rejected", .int p.counters.deltasRejected),
    ("sequence_gap_count", .int p.lifecycle.counters.sequenceGapCount),
    ("sequence_gap_or_reset_count", .int p.lifecycle.counters.sequenceGapCount),
    ("first_delta_bridge_failed_count", .int p.counters.firstDeltaBridgeFailedCount),
    ("bridge_missing_after_snapshot_count", .int p.counters.bridgeMissingAfterSnapshotCount),
    ("duplicates_skipped", .int p.lifecycle.counters.duplicateMessagesSkipped),
    ("samples_emitted", .int p.counters.samplesEmitted),
    ("samples_blocked", .int p.counters.samplesBlocked),
    ("sample_before_ready_count", .int p.lifecycle.counters.deltaBeforeSnapshotCount),
    ("invalid_delta_count", .int p.counters.invalidDeltaCount),
    ("previous_final_update_id_mismatch_count",
      .int p.counters.previousFinalUpdateIdMismatchCount),
    ("ready_to_emit_disabled_count", .int p.counters.readyToEmitDisabledCount),
    -- nothing in the source counts this
    ("ready_to_emit_violation_count", .int 0),
    ("clean_sample_schema_violation_count", .int p.counters.cleanSampleSchemaViolationCount),
    ("strict_mismatch_count", .int p.counters.strictMismatchCount),
    ("tolerant_mismatch_count", .int p.counters.tolerantMismatchCount),
    ("crossed_book_count", .int p.counters.crossedBookCount),
    ("book_empty_count", .int (blockedBy p .bookEmpty)),
    ("one_side_missing_count", .int (blockedBy p .oneSideMissing)),
    ("stale_book_count", .int p.counters.staleBookCount),
    ("active_feed_stale_count", .int p.counters.activeFeedStaleCount),
    ("feed_receive_stale_count", .int p.counters.feedReceiveStaleCount),
    ("processor_apply_stale_count", .int p.counters.processorApplyStaleCount),
    ("stale_reset_count", .int p.counters.staleResetCount),
    ("post_capture_age_warning_count", .int p.postCaptureWarningSymbols.size),
    ("max_book_age_ms", .float p.maxBookAgeMs),
    ("last_book_update_age_ms_at_report", .ofFloat? p.lastBookUpdateAgeMsAtReport),
    ("stale_threshold_ms", .float p.staleThresholdMs),
    ("feed_receive_stale_threshold_ms", .float p.feedReceiveStaleThresholdMs),
    ("max_queue_lag_ms", .float load.enqueueToDequeueLagMsMax),
    ("queue_lag_p50_ms", samplePercentile load.lagSamples (1 / 2)),
    ("queue_lag_p95_ms", samplePercentile load.lagSamples (19 / 20)),
    ("queue_lag_p99_ms", samplePercentile load.lagSamples (99 / 100)),
    ("processing_lag_p50_ms", samplePercentile load.processingLagSamples (1 / 2)),
    ("processing_lag_p95_ms", samplePercentile load.processingLagSamples (19 / 20)),
    ("processing_lag_p99_ms", samplePercentile load.processingLagSamples (99 / 100)),
    ("snapshot_copy_p50_us", samplePercentile copies.us (1 / 2)),
    ("snapshot_copy_p95_us", samplePercentile copies.us (19 / 20)),
    ("snapshot_copy_p99_us", .float copyP99),
    ("snapshot_copy_max_us", .float (copies.us.max?.getD 0)),
    ("snapshot_copy_sample_count", .int copies.us.length),
    ("snapshot_copy_budget_us", .float snapshotCopyBudgetUs),
    ("snapshot_copy_budget_met", .bool (copyP99 ≤ snapshotCopyBudgetUs)),
    ("copied_bid_level_count", .int (greatestCount copies.bidLevelCounts)),
    ("copied_ask_level_count", .int (greatestCount copies.askLevelCounts)),
    ("snapshot_copy_strategy", .str "top_n_index_slice_immutable_tuples_no_full_book_copy"),
    ("queue", .obj queueReport),
    ("lifecycle", .obj lifecycleReport),
    ("market_status_known", .bool false),
    ("market_status_mode", .str "not_applicable_for_binance_spot_orderbook")]

/-- The verdict of a report, as its fields. -/
def verdictFields (report : Json) : List (String × Json) :=
  let (passed, reasons) := evaluatePhase41Pass report
  [("phase_4_1_pass", .bool passed),
    ("phase_4_1_status", .str (if passed then "pass" else "fail")),
    ("phase_4_1_failure_reasons", .arr (reasons.map .str)),
    ("status", .str (if passed then "pass" else "fail")),
    ("hard_fail_reasons", .arr (reasons.map .str)),
    ("warning_reasons", .arr ((phase411WarningReasons report).map .str))]

/-- The report of a processor and its queue, after a last check for staleness. -/
def summary (p : OrderbookPhase41Processor) (load : QueueLoad) (copies : CopySamples)
    (durationSec : Option ℚ) (clock : ℤ) : OrderbookPhase41Processor × Json :=
  let (p, _) := p.checkStalePeriods (some clock) [] (some p.captureActive) 0 clock
  let fields := p.summaryFields load copies durationSec
  (p, .obj (fields ++ verdictFields (.obj fields)))

end OrderbookPhase41Processor

/-! ### The gate -/

/-- The stages a capture is judged for, by their duration. -/
inductive StageGate
  | twoMinutes
  | tenMinutes
  | thirtyMinutes

/-- The limits of a stage. -/
def StageGate.thresholds : StageGate → List (String × ℚ)
  | twoMinutes =>
      [("queue_lag_p99_ms", 250), ("snapshot_loaded_count", 2), ("snapshot_refresh_count", 2)]
  | tenMinutes =>
      [("queue_lag_p95_ms", 100), ("queue_lag_p99_ms", 250), ("processing_lag_p99_ms", 50),
        ("snapshot_loaded_count", 2), ("snapshot_refresh_count", 2)]
  | thirtyMinutes =>
      [("queue_lag_p95_ms", 150), ("queue_lag_p99_ms", 500), ("processing_lag_p99_ms", 75),
        ("snapshot_loaded_count", 3), ("snapshot_refresh_count", 3)]

namespace StageGate

/-- The counters that must be zero. -/
def hardZeroFields : List String :=
  ["sequence_gap_count", "invalid_delta_count", "previous_final_update_id_mismatch_count",
    "crossed_book_count", "book_empty_count", "one_side_missing_count",
    "clean_sample_schema_violation_count", "sample_before_ready_count",
    "feed_receive_stale_count", "queue_dropped_messages",
    "bridge_missing_after_snapshot_count", "first_delta_bridge_failed_count"]

/-- Where a field is found when the report itself does not have it. -/
def alias? : String → Option (String × String)
  | "queue_dropped_messages" => some ("queue", "queue_dropped_messages")
  | "queue_lag_p95_ms" => some ("queue", "enqueue_to_dequeue_lag_p95_ms")
  | "queue_lag_p99_ms" => some ("queue", "enqueue_to_dequeue_lag_p99_ms")
  | "processing_lag_p99_ms" => some ("queue", "processing_lag_p99_ms")
  | "snapshot_loaded_count" => some ("lifecycle", "snapshot_loaded_count")
  | "snapshot_refresh_count" => some ("lifecycle", "snapshot_refresh_count")
  | _ => none

/-- A part of a report that is an object, else the empty one. -/
def nestedDict (report : Json) (key : String) : Json := (report.get key).asDict

/-- A field of a report, wherever it is. -/
def field (report : Json) (name : String) : Json :=
  match report.get? name with
  | some value => value
  | none =>
      match alias? name with
      | some (part, key) => (nestedDict report part).get key
      | none =>
          (nestedDict report "lifecycle").getD name ((nestedDict report "queue").get name)

/-- A number as it prints: a float shows that it is one. -/
def printed : Json → String
  | .float q => Decimal.formatF q ++ if q.den = 1 then ".0" else ""
  | value => value.text

/-- The metrics that exceed the limits of a stage. -/
def limitReasons (gate : StageGate) (report : Json) (printLimit : ℚ → String)
    (metrics : List String) : List String :=
  metrics.filterMap fun metric =>
    match gate.thresholds.lookup metric with
    | none => none
    | some limit =>
        if (numericValue (field report metric)).exceeds limit then
          some (metric ++ " exceeded: " ++ printed (field report metric) ++ " > " ++
            printLimit limit)
        else none

/-- The limits on the lags that are exceeded. -/
def lagReasons (gate : StageGate) (report : Json) : List String :=
  gate.limitReasons report (fun limit => printed (.float limit))
    ["queue_lag_p95_ms", "queue_lag_p99_ms", "processing_lag_p99_ms"]

/-- The limits on the snapshots that are exceeded. -/
def snapshotReasons (gate : StageGate) (report : Json) : List String :=
  gate.limitReasons report Decimal.formatF ["snapshot_loaded_count", "snapshot_refresh_count"]

/-- The reasons why a report does not pass the gate, in order. -/
def hardFailReasons (gate : StageGate) (report : Json) : List String :=
  ((hardZeroFields.filter fun name => isPositive (field report name)).map fun name =>
    name ++ " > 0: " ++ printed (field report name)) ++
  (if (numericValue (report.get "snapshot_copy_p99_us")).exceeds 200 then
    ["snapshot_copy_p99_us exceeded: " ++ printed (report.get "snapshot_copy_p99_us") ++ " > 200"]
  else []) ++
  gate.lagReasons report ++ gate.snapshotReasons report

/-- The warnings of a field that counts something. -/
def countWarning (report : Json) (name : String) : List String :=
  if isPositive (report.get name) then [name ++ " > 0: " ++ printed (report.get name)] else []

/-- What a report is warned about. -/
def warningReasons (report : Json) : List String :=
  countWarning report "post_capture_age_warning_count" ++
  (if (report.get "market_status_mode").text = "not_applicable_for_binance_spot_orderbook" then
    ["market_status_not_applicable_for_binance_spot_orderbook"] else []) ++
  countWarning report "processor_apply_stale_count" ++
  countWarning report "duplicates_skipped"

/-- What to do next. -/
def nextAction (reasons : List String) : String :=
  let joined := String.intercalate " " reasons
  if reasons = [] then "continue_to_next_gate"
  else if occursIn "sequence_gap" joined || occursIn "bridge" joined then
    "investigate_snapshot_bridge"
  else if occursIn "queue_lag" joined || occursIn "processing_lag" joined then
    "investigate_queue_lag"
  else if occursIn "feed_receive_stale" joined then "investigate_feed_stale"
  else if occursIn "sample_before_ready" joined then "investigate_ready_guard"
  else "investigate_runtime_failure"

end StageGate

/-- The verdict of the gate. -/
structure GateResult where
  passed : Bool
  hardFailReasons : List String
  warningReasons : List String
  nextAction : String

/-- Judge a report for a stage. -/
def evaluateReport (report : Json) (gate : StageGate) : GateResult where
  passed := (gate.hardFailReasons report).isEmpty
  hardFailReasons := gate.hardFailReasons report
  warningReasons := StageGate.warningReasons report
  nextAction := StageGate.nextAction (gate.hardFailReasons report)

namespace StageGate

/-- The fields that a report must have. -/
def requiredTopLevelFields : List String :=
  ["phase", "symbol", "duration_sec", "sample_before_ready_count", "feed_receive_stale_count",
    "sequence_gap_count", "invalid_delta_count", "crossed_book_count", "book_empty_count",
    "one_side_missing_count", "clean_sample_schema_violation_count", "snapshot_copy_p50_us",
    "snapshot_copy_p95_us", "snapshot_copy_p99_us", "snapshot_copy_max_us",
    "snapshot_copy_sample_count", "snapshot_copy_budget_us", "snapshot_copy_budget_met",
    "copied_bid_level_count", "copied_ask_level_count", "snapshot_copy_strategy", "queue",
    "lifecycle"]

/-- The fields that the queue part must have. -/
def requiredQueueFields : List String :=
  ["queue_dropped_messages", "queue_size_backpressure_events", "queue_lag_backpressure_events",
    "processing_lag_backpressure_events", "snapshot_blocking_lag_events"]

/-- The fields that the lifecycle part must have. -/
def requiredLifecycleFields : List String :=
  ["snapshot_loaded_count", "snapshot_refresh_count", "feed_receive_stale_count",
    "processor_apply_stale_count", "post_capture_age_warning_count", "stale_reset_count"]

/-- The fields of a list that are missing, as errors. -/
def missingFields (part : Json) (kind : String) (fields : List String) : List String :=
  (fields.filter fun name => (part.get? name).isNone).map fun name =>
    "missing required " ++ kind ++ ": " ++ name

/-- The errors of the fields of a report. -/
def validateReportSchema (report : Json) : List String :=
  let queue := nestedDict report "queue"
  let lifecycle := nestedDict report "lifecycle"
  missingFields report "field" requiredTopLevelFields ++
  (if (report.get? "phase_4_1_status").isNone && (report.get? "status").isNone then
    ["missing required field: phase_4_1_status or status"] else []) ++
  (if queue.truthy then
    missingFields queue "queue field" requiredQueueFields ++
      if (queue.get? "queue_lag_p99_ms").isNone &&
          (queue.get? "enqueue_to_dequeue_lag_p99_ms").isNone then
        ["missing required queue field: queue_lag_p99_ms or enqueue_to_dequeue_lag_p99_ms"]
      else []
  else ["missing required object: queue"]) ++
  if lifecycle.truthy then missingFields lifecycle "lifecycle field" requiredLifecycleFields
  else ["missing required object: lifecycle"]

end StageGate

open OrderbookPhase41Processor

/-! ### What the verdicts read -/

/-- A count is positive when it is not zero. -/
theorem isPositive_count (n : ℕ) : isPositive (.int n) = false ↔ n = 0 := by
  simp [isPositive, numericValue, Json.toFloat?, Decimal.exceeds]

theorem positiveReasons_eq_nil {report : Json} {fields : List String} :
    positiveReasons report fields = [] ↔
      ∀ field ∈ fields, isPositive (report.get field) = false := by
  simp [positiveReasons]

/-- A field that is there is the one that is read. -/
theorem Json.get_of_get? {j v : Json} {k : String} (h : j.get? k = some v) : j.get k = v := by
  rw [Json.get, h, Option.getD_some]

theorem StageGate.field_of_get? {report v : Json} {name : String} (h : report.get? name = some v) :
    StageGate.field report name = v := by
  rw [StageGate.field, h]

/-- What a report of a processor and its queue says in the fields that the verdicts read. -/
structure Reports (p : OrderbookPhase41Processor) (load : QueueLoad) (copies : CopySamples)
    (report : Json) : Prop where
  sequenceGap : report.get? "sequence_gap_count" = some (.int p.lifecycle.counters.sequenceGapCount)
  sequenceGapOrReset : report.get? "sequence_gap_or_reset_count" =
    some (.int p.lifecycle.counters.sequenceGapCount)
  crossedBook : report.get? "crossed_book_count" = some (.int p.counters.crossedBookCount)
  bookEmpty : report.get? "book_empty_count" = some (.int (blockedBy p .bookEmpty))
  oneSideMissing : report.get? "one_side_missing_count" =
    some (.int (blockedBy p .oneSideMissing))
  sampleBeforeReady : report.get? "sample_before_ready_count" =
    some (.int p.lifecycle.counters.deltaBeforeSnapshotCount)
  invalidDelta : report.get? "invalid_delta_count" = some (.int p.counters.invalidDeltaCount)
  previousIdMismatch : report.get? "previous_final_update_id_mismatch_count" =
    some (.int p.counters.previousFinalUpdateIdMismatchCount)
  readyToEmitViolation : report.get? "ready_to_emit_violation_count" = some (.int (0 : ℕ))
  schemaViolation : report.get? "clean_sample_schema_violation_count" =
    some (.int p.counters.cleanSampleSchemaViolationCount)
  feedReceiveStale : report.get? "feed_receive_stale_count" =
    some (.int p.counters.feedReceiveStaleCount)
  bridgeMissing : report.get? "bridge_missing_after_snapshot_count" =
    some (.int p.counters.bridgeMissingAfterSnapshotCount)
  bridgeFailed : report.get? "first_delta_bridge_failed_count" =
    some (.int p.counters.firstDeltaBridgeFailedCount)
  queueLagP95 : report.get? "queue_lag_p95_ms" = some (samplePercentile load.lagSamples (19 / 20))
  queueLagP99 : report.get? "queue_lag_p99_ms" = some (samplePercentile load.lagSamples (99 / 100))
  processingLagP99 : report.get? "processing_lag_p99_ms" =
    some (samplePercentile load.processingLagSamples (99 / 100))
  copyP99 : report.get? "snapshot_copy_p99_us" = some (samplePercentile copies.us (99 / 100))
  copyBudgetMet : report.get? "snapshot_copy_budget_met" =
    some (.bool ((percentile copies.us (99 / 100)).getD 0 ≤ snapshotCopyBudgetUs))
  queue : report.get? "queue" =
    some (.obj (QueueBackpressureMonitor.report ⟨p.queueMonitor, load⟩))
  lifecycle : ∃ rest, report.get? "lifecycle" = some (.obj (p.lifecycle.report ++ rest))
  dropped : report.get? "queue_dropped_messages" = none
  snapshotsLoaded : report.get? "snapshot_loaded_count" = none
  snapshotsRefreshed : report.get? "snapshot_refresh_count" = none

theorem reports_summaryFields (p : OrderbookPhase41Processor) (load : QueueLoad)
    (copies : CopySamples) (durationSec : Option ℚ) (rest : List (String × Json))
    (hrest : ∀ name ∈ ["queue_dropped_messages", "snapshot_loaded_count",
      "snapshot_refresh_count"], (Json.obj rest).get? name = none) :
    Reports p load copies (.obj (p.summaryFields load copies durationSec ++ rest)) := by
  simp only [List.forall_mem_cons, List.not_mem_nil, false_imp_iff, implies_true, and_true] at hrest
  constructor <;> simp [summaryFields, samplePercentile, hrest]

/-- The counters that a passing report shows to be zero. -/
structure Spotless (p : OrderbookPhase41Processor) (load : QueueLoad) : Prop where
  sequenceGaps : p.lifecycle.counters.sequenceGapCount = 0
  crossedBooks : p.counters.crossedBookCount = 0
  emptyBooks : blockedBy p .bookEmpty = 0
  oneSided : blockedBy p .oneSideMissing = 0
  beforeSnapshot : p.lifecycle.counters.deltaBeforeSnapshotCount = 0
  invalidDeltas : p.counters.invalidDeltaCount = 0
  previousIdMismatches : p.counters.previousFinalUpdateIdMismatchCount = 0
  schemaViolations : p.counters.cleanSampleSchemaViolationCount = 0
  feedStale : p.counters.feedReceiveStaleCount = 0
  bridgesMissing : p.counters.bridgeMissingAfterSnapshotCount = 0
  bridgesFailed : p.counters.firstDeltaBridgeFailedCount = 0
  dropped : load.queueDroppedMessages = 0

/-- A metric is within the limit of a stage, if there is one. -/
def StageGate.Allows (gate : StageGate) (metric : String) (value : ℚ) : Prop :=
  ∀ limit, gate.thresholds.lookup metric = some limit → value ≤ limit

/-- The lags and snapshots of a capture are within the limits of a stage. -/
structure StageGate.Within (gate : StageGate) (p : OrderbookPhase41Processor) (load : QueueLoad) :
    Prop where
  queueLagP95 : gate.Allows "queue_lag_p95_ms" ((percentile load.lagSamples (19 / 20)).getD 0)
  queueLagP99 : gate.Allows "queue_lag_p99_ms" ((percentile load.lagSamples (99 / 100)).getD 0)
  processingLagP99 : gate.Allows "processing_lag_p99_ms"
    ((percentile load.processingLagSamples (99 / 100)).getD 0)
  snapshotsLoaded : gate.Allows "snapshot_loaded_count"
    (p.lifecycle.counters.snapshotLoadedCount : ℚ)
  snapshotsRefreshed : gate.Allows "snapshot_refresh_count"
    (p.lifecycle.counters.snapshotRefreshCount : ℚ)

/-- A percentile is compared as its value. -/
theorem exceeds_samplePercentile (samples : List ℚ) (p limit : ℚ) :
    (numericValue (samplePercentile samples p)).exceeds limit = false ↔
      (percentile samples p).getD 0 ≤ limit := by
  simp [numericValue, samplePercentile, Json.toFloat?, Decimal.exceeds]

/-- A count is compared as its value. -/
theorem exceeds_count (n : ℕ) (limit : ℚ) :
    (numericValue (.int n)).exceeds limit = false ↔ (n : ℚ) ≤ limit := by
  simp [numericValue, Json.toFloat?, Decimal.exceeds]

/-- No limit of a stage is exceeded. -/
theorem StageGate.limitReasons_eq_nil {gate : StageGate} {report : Json} {printLimit : ℚ → String}
    {metrics : List String} :
    gate.limitReasons report printLimit metrics = [] ↔
    ∀ metric ∈ metrics, ∀ limit, gate.thresholds.lookup metric = some limit →
      (numericValue (StageGate.field report metric)).exceeds limit = false := by
  rw [StageGate.limitReasons, List.filterMap_eq_nil_iff]
  refine forall₂_congr fun metric _ => ?_
  cases gate.thresholds.lookup metric with
  | none => simp
  | some limit => simp

namespace Reports

variable {p : OrderbookPhase41Processor} {load : QueueLoad} {copies : CopySamples}
  {report : Json}

/-- The verdict of a report. -/
theorem failureReasons_eq_nil (h : Reports p load copies report) :
    phase41FailureReasons report = [] ↔
      Spotless p load ∧ (percentile copies.us (99 / 100)).getD 0 ≤ snapshotCopyBudgetUs := by
  have hstale : staleField report = "feed_receive_stale_count" := by
    simp [staleField, Json.get_of_get? h.feedReceiveStale, Json.isNull]
  have hdropped : (Json.obj (QueueBackpressureMonitor.report ⟨p.queueMonitor, load⟩)).get
      "queue_dropped_messages" = .int load.queueDroppedMessages := by
    simp [QueueBackpressureMonitor.report]
  have hbudget : (report.getD "snapshot_copy_budget_met" (.bool true)).truthy =
      decide ((percentile copies.us (99 / 100)).getD 0 ≤ snapshotCopyBudgetUs) := by
    rw [Json.getD, h.copyBudgetMet, Option.getD_some, Json.truthy]
  have hgap : (if isPositive (report.get "sequence_gap_count") then
      [positiveReason "sequence_gap_count"]
      else positiveReasons report ["sequence_gap_or_reset_count"]) = [] ↔
        p.lifecycle.counters.sequenceGapCount = 0 := by
    rw [← isPositive_count, Json.get_of_get? h.sequenceGap]
    split
    · simp_all
    · simp_all [positiveReasons_eq_nil, Json.get_of_get? h.sequenceGapOrReset]
  simp only [phase41FailureReasons, List.append_eq_nil_iff, hgap, hstale, hbudget,
    positiveReasons_eq_nil, blockerFields, bridgeFields, List.forall_mem_cons, List.not_mem_nil,
    false_imp_iff, implies_true, and_true, Json.get_of_get? h.queue, Json.asDict, hdropped,
    Json.get_of_get? h.crossedBook, Json.get_of_get? h.bookEmpty,
    Json.get_of_get? h.oneSideMissing, Json.get_of_get? h.sampleBeforeReady,
    Json.get_of_get? h.invalidDelta, Json.get_of_get? h.previousIdMismatch,
    Json.get_of_get? h.readyToEmitViolation, Json.get_of_get? h.schemaViolation,
    Json.get_of_get? h.feedReceiveStale, Json.get_of_get? h.bridgeMissing,
    Json.get_of_get? h.bridgeFailed, isPositive_count, decide_eq_true_iff, ite_eq_left_iff,
    List.cons_ne_nil, imp_false, not_not, true_and]
  constructor
  · rintro ⟨⟨⟨⟨⟨hgaps, hcrossed, hempty, hside, hbefore, hinvalid, hprevious, hschema⟩, hfeed⟩,
      hmissing, hfailed⟩, hqueue⟩, hcopies⟩
    exact ⟨⟨hgaps, hcrossed, hempty, hside, hbefore, hinvalid, hprevious, hschema, hfeed,
      hmissing, hfailed, hqueue⟩, hcopies⟩
  · rintro ⟨hs, hcopies⟩
    exact ⟨⟨⟨⟨⟨hs.sequenceGaps, hs.crossedBooks, hs.emptyBooks, hs.oneSided, hs.beforeSnapshot,
      hs.invalidDeltas, hs.previousIdMismatches, hs.schemaViolations⟩, hs.feedStale⟩,
      hs.bridgesMissing, hs.bridgesFailed⟩, hs.dropped⟩, hcopies⟩

/-- The verdict of the gate. -/
theorem hardFailReasons_eq_nil (h : Reports p load copies report) (gate : StageGate) :
    gate.hardFailReasons report = [] ↔
      (Spotless p load ∧ (percentile copies.us (99 / 100)).getD 0 ≤ snapshotCopyBudgetUs) ∧
        gate.Within p load := by
  obtain ⟨rest, hlifecycle⟩ := h.lifecycle
  have hdropped : StageGate.field report "queue_dropped_messages" =
      .int load.queueDroppedMessages := by
    simp [StageGate.field, h.dropped, StageGate.alias?, StageGate.nestedDict,
      Json.get_of_get? h.queue, Json.asDict, QueueBackpressureMonitor.report]
  have hloaded : StageGate.field report "snapshot_loaded_count" =
      .int p.lifecycle.counters.snapshotLoadedCount := by
    simp [StageGate.field, h.snapshotsLoaded, StageGate.alias?, StageGate.nestedDict,
      Json.get_of_get? hlifecycle, Json.asDict, WSLifecycleTracker.report]
  have hrefreshed : StageGate.field report "snapshot_refresh_count" =
      .int p.lifecycle.counters.snapshotRefreshCount := by
    simp [StageGate.field, h.snapshotsRefreshed, StageGate.alias?, StageGate.nestedDict,
      Json.get_of_get? hlifecycle, Json.asDict, WSLifecycleTracker.report]
  simp only [StageGate.hardFailReasons, StageGate.lagReasons, StageGate.snapshotReasons,
    List.append_eq_nil_iff, StageGate.limitReasons_eq_nil, List.map_eq_nil_iff,
    List.filter_eq_nil_iff, StageGate.hardZeroFields, List.forall_mem_cons,
    List.not_mem_nil, false_imp_iff, implies_true, and_true, Bool.not_eq_true, hdropped, hloaded,
    hrefreshed,
    StageGate.field_of_get? h.sequenceGap, StageGate.field_of_get? h.invalidDelta,
    StageGate.field_of_get? h.previousIdMismatch, StageGate.field_of_get? h.crossedBook,
    StageGate.field_of_get? h.bookEmpty, StageGate.field_of_get? h.oneSideMissing,
    StageGate.field_of_get? h.schemaViolation, StageGate.field_of_get? h.sampleBeforeReady,
    StageGate.field_of_get? h.feedReceiveStale, StageGate.field_of_get? h.bridgeMissing,
    StageGate.field_of_get? h.bridgeFailed, StageGate.field_of_get? h.queueLagP95,
    StageGate.field_of_get? h.queueLagP99, StageGate.field_of_get? h.processingLagP99,
    isPositive_count, exceeds_samplePercentile, exceeds_count, Json.get_of_get? h.copyP99,
    ite_eq_right_iff, List.cons_ne_nil, imp_false]
  constructor
  · rintro ⟨⟨⟨⟨hgaps, hinvalid, hprevious, hcrossed, hempty, hside, hschema, hbefore, hfeed,
      hqueue, hmissing, hfailed⟩, hcopies⟩, hlag95, hlag99, hprocessing⟩, hload, hrefresh⟩
    exact ⟨⟨⟨hgaps, hcrossed, hempty, hside, hbefore, hinvalid, hprevious, hschema, hfeed,
      hmissing, hfailed, hqueue⟩, hcopies⟩, hlag95, hlag99, hprocessing, hload, hrefresh⟩
  · rintro ⟨⟨hs, hcopies⟩, hw⟩
    exact ⟨⟨⟨⟨hs.sequenceGaps, hs.invalidDeltas, hs.previousIdMismatches, hs.crossedBooks,
      hs.emptyBooks, hs.oneSided, hs.schemaViolations, hs.beforeSnapshot, hs.feedStale,
      hs.dropped, hs.bridgesMissing, hs.bridgesFailed⟩, hcopies⟩, hw.queueLagP95, hw.queueLagP99,
      hw.processingLagP99⟩, hw.snapshotsLoaded, hw.snapshotsRefreshed⟩

end Reports

/-! ### Agreement -/

/-- The verdict in a report, and the fields beside it that the gate looks for. -/
theorem get?_verdictFields (report : Json) :
    (Json.obj (verdictFields report)).get? "phase_4_1_pass" =
      some (.bool (evaluatePhase41Pass report).1) ∧
    (Json.obj (verdictFields report)).get? "phase_4_1_status" =
      some (.str (if (evaluatePhase41Pass report).1 then "pass" else "fail")) ∧
    ∀ name ∈ ["queue_dropped_messages", "snapshot_loaded_count", "snapshot_refresh_count"],
      (Json.obj (verdictFields report)).get? name = none := by
  simp only [List.forall_mem_cons, List.not_mem_nil, false_imp_iff, implies_true, and_true]
  simp [verdictFields]

/-- The fields after those of the counters. -/
theorem get?_summaryFields_append (p : OrderbookPhase41Processor) (load : QueueLoad)
    (copies : CopySamples) (durationSec : Option ℚ) (rest : List (String × Json)) {name : String}
    (h : name ∈ ["phase_4_1_pass", "phase_4_1_status"]) :
    (Json.obj (p.summaryFields load copies durationSec ++ rest)).get? name =
      (Json.obj rest).get? name := by
  rcases List.mem_pair.mp h with rfl | rfl <;> simp [summaryFields]

theorem StageGate.missingFields_eq_nil {part : Json} {kind : String} {fields : List String} :
    StageGate.missingFields part kind fields = [] ↔ ∀ name ∈ fields, (part.get? name).isSome := by
  simp [StageGate.missingFields, Option.isSome_iff_ne_none]

/-- The fields of the counters are those that the gate requires. -/
theorem requiredFields_summaryFields (p : OrderbookPhase41Processor) (load : QueueLoad)
    (copies : CopySamples) (durationSec : Option ℚ) (rest : List (String × Json)) :
    let report := Json.obj (p.summaryFields load copies durationSec ++ rest)
    (∀ name ∈ StageGate.requiredTopLevelFields, (report.get? name).isSome) ∧
    (∀ name ∈ StageGate.requiredQueueFields,
      ((StageGate.nestedDict report "queue").get? name).isSome) ∧
    ((StageGate.nestedDict report "queue").get? "enqueue_to_dequeue_lag_p99_ms").isSome ∧
    ∀ name ∈ StageGate.requiredLifecycleFields,
      ((StageGate.nestedDict report "lifecycle").get? name).isSome := by
  dsimp only
  have hqueue : StageGate.nestedDict (.obj (p.summaryFields load copies durationSec ++ rest))
      "queue" = .obj (QueueBackpressureMonitor.report ⟨p.queueMonitor, load⟩) := by
    simp [StageGate.nestedDict, summaryFields, Json.asDict]
  have hlifecycle : StageGate.nestedDict (.obj (p.summaryFields load copies durationSec ++ rest))
      "lifecycle" = .obj (p.lifecycle.report ++
        [("feed_receive_stale_count", .int p.counters.feedReceiveStaleCount),
          ("processor_apply_stale_count", .int p.counters.processorApplyStaleCount),
          ("post_capture_age_warning_count", .int p.postCaptureWarningSymbols.size),
          ("stale_reset_count", .int p.counters.staleResetCount)]) := by
    simp [StageGate.nestedDict, summaryFields, Json.asDict]
  rw [hqueue, hlifecycle]
  simp only [StageGate.requiredTopLevelFields, StageGate.requiredQueueFields,
    StageGate.requiredLifecycleFields, List.forall_mem_cons, List.not_mem_nil, false_imp_iff,
    implies_true, and_true]
  refine ⟨?_, ?_, ?_, ?_⟩
  · simp [summaryFields]
  · simp [QueueBackpressureMonitor.report]
  · simp [QueueBackpressureMonitor.report]
  · simp [WSLifecycleTracker.report]

/-- An object with a field counts as true. -/
theorem truthy_of_get? {j : Json} {name : String} (h : (j.get? name).isSome) : j.truthy = true := by
  cases j with
  | obj fields =>
      cases fields with
      | nil => simp at h
      | cons field fields => rfl
  | _ => simp [Json.get?] at h

theorem validateReportSchema_summaryFields (p : OrderbookPhase41Processor) (load : QueueLoad)
    (copies : CopySamples) (durationSec : Option ℚ) (report : Json) :
    StageGate.validateReportSchema
      (.obj (p.summaryFields load copies durationSec ++ verdictFields report)) = [] := by
  obtain ⟨htop, hqueue, hlag, hlifecycle⟩ :=
    requiredFields_summaryFields p load copies durationSec (verdictFields report)
  have hstatus := (get?_summaryFields_append p load copies durationSec (verdictFields report)
    (List.mem_pair.mpr (.inr rfl))).trans (get?_verdictFields report).2.1
  generalize Json.obj (p.summaryFields load copies durationSec ++ verdictFields report) = written
    at htop hqueue hlag hlifecycle hstatus ⊢
  have hqueueThere := truthy_of_get? hlag
  have hlifecycleThere := truthy_of_get? (hlifecycle "snapshot_loaded_count" (by decide))
  simp [StageGate.validateReportSchema, StageGate.missingFields_eq_nil.mpr htop,
    StageGate.missingFields_eq_nil.mpr hqueue,
    StageGate.missingFields_eq_nil.mpr hlifecycle, hqueueThere, hlifecycleThere, hstatus,
    Option.isSome_iff_ne_none.mp hlag]

/-- The verdict of a report. -/
theorem summary_passes_iff (p : OrderbookPhase41Processor) (load : QueueLoad)
    (copies : CopySamples) (durationSec : Option ℚ) (clock : ℤ) :
    (p.summary load copies durationSec clock).2.get "phase_4_1_pass" = .bool true ↔
      Spotless (p.summary load copies durationSec clock).1 load ∧
        (percentile copies.us (99 / 100)).getD 0 ≤ snapshotCopyBudgetUs := by
  rw [summary]
  generalize p.checkStalePeriods (some clock) [] (some p.captureActive) 0 clock = checked
  obtain ⟨q, -⟩ := checked
  dsimp only
  have hreports := reports_summaryFields q load copies durationSec [] (by simp)
  rw [List.append_nil] at hreports
  generalize hfields : Json.obj (q.summaryFields load copies durationSec) = counters at hreports ⊢
  have hpass := (get?_summaryFields_append q load copies durationSec (verdictFields counters)
    (List.mem_pair.mpr (.inl rfl))).trans (get?_verdictFields counters).1
  rw [Json.get_of_get? hpass, Json.bool.injEq, evaluatePhase41Pass, List.isEmpty_iff,
    hreports.failureReasons_eq_nil]

/-- **The two verdicts on a report agree.** Every report that a processor writes has the fields
that the gate requires; and the gate lets it pass exactly when the verdict written in it does and
the lags and snapshots are within the limits of the stage. -/
theorem summary_agrees_with_gate (p : OrderbookPhase41Processor) (load : QueueLoad)
    (copies : CopySamples) (durationSec : Option ℚ) (clock : ℤ) (gate : StageGate) :
    let out := p.summary load copies durationSec clock
    StageGate.validateReportSchema out.2 = [] ∧
    ((evaluateReport out.2 gate).passed = true ↔
      out.2.get "phase_4_1_pass" = .bool true ∧ gate.Within out.1 load) := by
  dsimp only
  rw [summary_passes_iff, summary]
  generalize p.checkStalePeriods (some clock) [] (some p.captureActive) 0 clock = checked
  obtain ⟨q, -⟩ := checked
  dsimp only
  generalize Json.obj (q.summaryFields load copies durationSec) = counters
  have hreports := reports_summaryFields q load copies durationSec (verdictFields counters)
    (get?_verdictFields counters).2.2
  refine ⟨validateReportSchema_summaryFields q load copies durationSec counters, ?_⟩
  rw [evaluateReport, List.isEmpty_iff, hreports.hardFailReasons_eq_nil]

end SomethingTrade
