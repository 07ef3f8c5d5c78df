import SomethingTrade.CleanSample
import SomethingTrade.MetricSeries
import SomethingTrade.ReadinessLevels

/-!
# The Profile and the Queue of the Hot Path

The latency profile of the hot path is validated each time a report about it is evaluated, and the
report of the queue is normalized: its fields about the hot path are filled in from the profile,
or taken from it altogether when the report is made of artifacts that exist already. A normalized
queue is left by a second normalization, which is what a second evaluation of the report needs.

## Representation

* A profile is validated as both callers do it, without a path of its samples and without
  insisting on a version of its schema.

## Main results

* `normalizeQueue_again`: a normalized queue is normalized.
* `get?_normalizeQueue`: the other fields of the queue are left.
-/

namespace SomethingTrade

/-- `int(_num(value))`. -/
def Json.count (value : Json) : ℤ := value.num.num.tdiv value.num.den

/-- A text if its condition holds. -/
def textWhen (condition : Bool) (text : String) : List String := if condition then [text] else []

/-! ### The latency profile -/

/-- The version of the schema of a profile. -/
def latencyStageProfileSchemaVersion : String := "phase_4_2h_latency_stage_profile_v1"

/-- The file with the samples of a profile. -/
def latencyProfileSamples : String := "data/dataset/phase_4_2h_latency_profile_samples.jsonl"

/-- The stages that a profile must have, in the order in which a message passes them. -/
def requiredStageNames : List String :=
  ["socket_recv_monotonic_ns", "raw_ws_callback_monotonic_ns", "ws_message_received_monotonic_ns",
    "message_dispatch_start_monotonic_ns", "parse_start_monotonic_ns", "parse_end_monotonic_ns",
    "book_apply_start_monotonic_ns", "book_apply_end_monotonic_ns",
    "sample_build_start_monotonic_ns", "sample_emit_monotonic_ns",
    "input_queue_put_start_monotonic_ns", "input_queue_put_end_monotonic_ns",
    "writer_enqueue_monotonic_ns", "file_write_start_monotonic_ns", "file_write_end_monotonic_ns"]

/-- The stages at which a profile may start. -/
def receiveStageNames : List String :=
  ["socket_recv_monotonic_ns", "raw_ws_callback_monotonic_ns", "ws_message_received_monotonic_ns",
    "message_dispatch_start_monotonic_ns"]

/-- The metrics that a profile must have. -/
def latencyMetricNames : List String :=
  ["callback_to_dispatch_ms", "dispatch_to_parse_start_ms", "parse_duration_ms",
    "parse_to_apply_start_ms", "book_apply_duration_ms", "apply_to_sample_build_ms",
    "sample_build_duration_ms", "input_queue_put_to_sample_emit_ms",
    "input_queue_put_duration_ms", "queue_wait_ms", "writer_wait_ms", "file_write_duration_ms",
    "end_to_end_local_hot_path_ms"]

/-- What is wrong with the version of a profile's schema. -/
def schemaVersionErrors (payload : Json) : List String :=
  let schemaVersion := payload.get "schema_version"
  textWhen (!schemaVersion.isNull && !schemaVersion.isText latencyStageProfileSchemaVersion)
    "latency stage profile schema_version is not phase_4_2h_latency_stage_profile_v1"

/-- What is wrong with the metrics of a profile. -/
def metricErrors (payload : Json) : Except String (List String) := do
  let metrics := (payload.get "metrics").asDict
  if !metrics.truthy then return ["latency stage profile metrics missing"]
  let missingMetrics := latencyMetricNames.filter fun metric => (metrics.get? metric).isNone
  let explicitMissing ← listedTruthy payload "missing_metrics"
  return textWhen (!missingMetrics.isEmpty)
      ("latency stage profile missing metrics: " ++ ", ".intercalate missingMetrics) ++
    textWhen (!explicitMissing.isEmpty)
      ("latency stage profile metrics have no samples: " ++ ", ".intercalate explicitMissing) ++
    latencyMetricNames.flatMap fun metric =>
      textWhen (((metrics.get metric).asDict.get "count").count ≤ 0)
        ("latency stage profile metric " ++ metric ++ " count must be > 0")

/-- What is wrong with a stage of a profile. The socket need not have been seen. -/
def stageErrors (stageAvailability : Json) (stage : String) : List String :=
  match stageAvailability.get? stage with
  | none => ["latency stage profile missing stage availability for " ++ stage]
  | some stats =>
      textWhen (stage ≠ "socket_recv_monotonic_ns" &&
          (stats.asDict.get "available_count").count ≤ 0)
        ("latency stage profile stage " ++ stage ++ " has no available samples")

/-- What is wrong with the stages of a profile. -/
def stageAvailabilityErrors (payload : Json) : List String :=
  let stageAvailability := (payload.get "stage_availability").asDict
  if !stageAvailability.truthy then ["latency stage profile stage_availability missing"]
  else requiredStageNames.flatMap (stageErrors stageAvailability)

/-- What is wrong with the stage at which a profile starts. -/
def earliestStageErrors (payload : Json) : List String :=
  let earliest := ((payload.get "earliest_available_receive_stage").orElse (.str "")).text
  if earliest ∈ ["", "stage_not_available"] then
    ["latency stage profile earliest_available_receive_stage missing"]
  else textWhen (earliest ∉ receiveStageNames)
    "latency stage profile earliest_available_receive_stage is invalid"

/-- What is wrong with a profile. -/
def latencyProfileValidationErrors (profile : Json) : Except String (List String) := do
  let payload := profile.asDict
  if !payload.truthy then return ["latency stage profile must be a non-empty object"]
  let metricErrors ← metricErrors payload
  return schemaVersionErrors payload ++
    textWhen (!(payload.get "performed").isTrue) "latency stage profile performed must be true" ++
    textWhen ((payload.get "sample_count").count ≤ 0)
      "latency stage profile sample_count must be > 0" ++
    metricErrors ++ stageAvailabilityErrors payload ++ earliestStageErrors payload ++
    textWhen (!(payload.get "disk_write_on_hot_path").isFalse)
      "latency stage profile disk_write_on_hot_path must be false" ++
    textWhen (!(payload.get "debug_logging_on_hot_path").isFalse)
      "latency stage profile debug_logging_on_hot_path must be false" ++
    textWhen (!(payload.get "batch_writer_enabled").isTrue)
      "latency stage profile batch_writer_enabled must be true"

/-- Validate a profile. -/
def validatePhase42hLatencyProfileSummary (profile : Json) : Except String Json := do
  let errors ← latencyProfileValidationErrors profile
  return .obj
    [("schema_version", .str latencyStageProfileSchemaVersion),
      ("valid", .bool errors.isEmpty),
      ("errors", .arr (errors.map .str)),
      ("sample_count", .int (profile.asDict.get "sample_count").count),
      ("performed", .bool (profile.asDict.get "performed").isTrue),
      ("required_latency_profile_samples_path", .str latencyProfileSamples)]

/-! ### The queue -/

/-- The fields of the queue about the hot path. -/
def hotpathQueueFieldNames : List String :=
  ["disk_write_on_hot_path", "debug_logging_on_hot_path", "batch_writer_enabled",
    "queue_backpressure_detected"]

section Queue

variable (queueReport latencyProfile : Json) (preferLatencyProfile : Bool)

/-- What the latency profile says about a field. The backpressure is the queue's own if the
profile does not have it. -/
def latencyProfileHotpathField (field : String) : Bool :=
  if field = "queue_backpressure_detected" ∧ (latencyProfile.get? field).isNone then
    (queueReport.get field).isTrue
  else (latencyProfile.get field).isTrue

/-- What a field should be. -/
def normalizedHotpathField (field : String) : Json :=
  if preferLatencyProfile then .bool (latencyProfileHotpathField queueReport latencyProfile field)
  else queueReport.get field

/-- Normalize a field of the queue. One that is there as `null` stays. -/
def normalizeHotpathField (queue : Json) (field : String) : Json :=
  let normalized := normalizedHotpathField queueReport latencyProfile preferLatencyProfile field
  if normalized.isNull then
    queue.setDefault field (.bool (latencyProfileHotpathField queueReport latencyProfile field))
  else queue.setField field normalized

/-- The queue with its fields normalized. -/
def normalizeQueue : Json :=
  hotpathQueueFieldNames.foldl
    (normalizeHotpathField queueReport latencyProfile preferLatencyProfile) queueReport

/-- The fields of the queue that the profile overrules. -/
def ignoredHotpathFields : List String :=
  hotpathQueueFieldNames.filter fun field =>
    preferLatencyProfile && !(queueReport.get field).isNull &&
      (queueReport.get field).asNumber? ≠
        (normalizedHotpathField queueReport latencyProfile preferLatencyProfile field).asNumber?

/-- Normalize the fields of the queue about the hot path, and say how. -/
def normalizeQueueHotpathFields : Json × Json :=
  let queue := normalizeQueue queueReport latencyProfile preferLatencyProfile
  (queue, .obj
    [("performed", .bool preferLatencyProfile),
      ("source", .str (if preferLatencyProfile then "validated_latency_stage_profile"
        else "queue_backpressure_summary")),
      ("stale_queue_hotpath_fields_ignored",
        .arr ((ignoredHotpathFields queueReport latencyProfile preferLatencyProfile).map .str)),
      ("original_queue_hotpath_fields",
        .obj (hotpathQueueFieldNames.map fun field => (field, queueReport.get field))),
      ("normalized_queue_hotpath_fields",
        .obj (hotpathQueueFieldNames.map fun field => (field, queue.get field)))])

end Queue

/-- Why the hot path is not decoupled. -/
def hotPathDecouplingFailureReasons (latencyProfile queueReport : Json) : List String :=
  let either (field : String) : Bool :=
    (latencyProfile.get field).isTrue || (queueReport.get field).isTrue
  textWhen (either "disk_write_on_hot_path") "disk_write_on_hot_path" ++
  textWhen (either "debug_logging_on_hot_path") "debug_logging_on_hot_path" ++
  -- the queue need not say that the writer batches, but it must not deny it
  textWhen (!(latencyProfile.get "batch_writer_enabled").isTrue ||
    (queueReport.get "batch_writer_enabled").isFalse) "batch_writer_enabled" ++
  textWhen (either "queue_backpressure_detected") "queue_backpressure_detected"

/-- Whether the hot path is decoupled. -/
def hotPathDecouplingComplete (latencyProfile queueReport : Json) : Bool :=
  (hotPathDecouplingFailureReasons latencyProfile queueReport).isEmpty

/-! ### A normalized queue -/

theorem Dict.setEntries_of_lookup {k : String} {v : Json} {fields : List (String × Json)}
    (h : Json.lookup k fields = some v) : Dict.setEntries k v fields = fields := by
  induction fields with
  | nil => cases h
  | cons e fields ih =>
      rw [Json.lookup] at h
      rw [Dict.setEntries]
      split
      · rename_i hk
        rw [if_pos hk] at h
        obtain rfl := Option.some.inj h
        rw [← hk]
      · rename_i hk
        rw [if_neg hk] at h
        rw [ih h]

/-- Setting a field to what it is changes nothing. -/
theorem Json.setField_of_get? {j : Json} {k : String} {v : Json} (h : j.get? k = some v) :
    j.setField k v = j := by
  cases j with
  | obj fields => exact congrArg Json.obj (Dict.setEntries_of_lookup h)
  | _ => rfl

section Normalized

variable {queueReport latencyProfile : Json} {preferLatencyProfile : Bool}

/-- Normalizing a field leaves the others. -/
theorem get?_normalizeHotpathField_of_ne (queue : Json) {field k : String} (h : field ≠ k) :
    (normalizeHotpathField queueReport latencyProfile preferLatencyProfile queue field).get? k =
      queue.get? k := by
  simp only [normalizeHotpathField]
  split
  · exact Json.get?_setDefault_of_ne queue _ h
  · exact Json.get?_setField_of_ne queue _ h

theorem isObj_normalizeHotpathField {queue : Json} (h : queue.IsObj) (field : String) :
    (normalizeHotpathField queueReport latencyProfile preferLatencyProfile queue field).IsObj := by
  simp only [normalizeHotpathField, Json.setDefault]
  split
  · split
    · exact h
    · exact h.setField field _
  · exact h.setField field _

/-- The fields that a normalization leaves. -/
theorem get?_foldl_normalize_of_notMem (queue : Json) {fields : List String} {k : String}
    (h : k ∉ fields) :
    (fields.foldl (normalizeHotpathField queueReport latencyProfile preferLatencyProfile)
      queue).get? k = queue.get? k := by
  induction fields generalizing queue with
  | nil => rfl
  | cons field fields ih =>
      rw [List.mem_cons, not_or] at h
      rw [List.foldl_cons, ih _ h.2, get?_normalizeHotpathField_of_ne queue (Ne.symm h.1)]

/-- **The other fields of the queue** are left. -/
theorem get?_normalizeQueue {k : String} (h : k ∉ hotpathQueueFieldNames) :
    (normalizeQueue queueReport latencyProfile preferLatencyProfile).get? k =
      queueReport.get? k :=
  get?_foldl_normalize_of_notMem queueReport h

/-- What a field is once it is normalized. -/
theorem get?_normalizeHotpathField_self {queue : Json} (h : queue.IsObj) (field : String) :
    (normalizeHotpathField queueReport latencyProfile preferLatencyProfile queue field).get? field =
      some (if (normalizedHotpathField queueReport latencyProfile preferLatencyProfile field).isNull
        then queue.getD field (.bool (latencyProfileHotpathField queueReport latencyProfile field))
        else normalizedHotpathField queueReport latencyProfile preferLatencyProfile field) := by
  simp only [normalizeHotpathField, Json.setDefault, Json.getD]
  split
  · cases hfield : queue.get? field with
    | none => exact h.get?_setField_self field _
    | some value => simp [hfield]
  · exact h.get?_setField_self field _

theorem get?_foldl_normalize_of_mem {queue : Json} (hobj : queue.IsObj) {fields : List String}
    (hnodup : fields.Nodup) {field : String} (h : field ∈ fields) :
    (fields.foldl (normalizeHotpathField queueReport latencyProfile preferLatencyProfile)
      queue).get? field =
      (normalizeHotpathField queueReport latencyProfile preferLatencyProfile queue field).get?
        field := by
  induction fields generalizing queue with
  | nil => cases h
  | cons other fields ih =>
      rw [List.nodup_cons] at hnodup
      rw [List.foldl_cons]
      rcases List.mem_cons.mp h with rfl | hmem
      · exact get?_foldl_normalize_of_notMem _ hnodup.1
      · have hne : other ≠ field := fun heq => hnodup.1 (heq ▸ hmem)
        have hother := @isObj_normalizeHotpathField queueReport latencyProfile
          preferLatencyProfile _ hobj other
        rw [ih hother hnodup.2 hmem, get?_normalizeHotpathField_self hother,
          get?_normalizeHotpathField_self hobj, Json.getD, Json.getD,
          get?_normalizeHotpathField_of_ne queue hne]

/-- A field that is as it should be is left. -/
theorem normalizeHotpathField_of_get? {queue : Json} {field : String}
    (h : queue.get? field =
      some (normalizedHotpathField queueReport latencyProfile preferLatencyProfile field)) :
    normalizeHotpathField queueReport latencyProfile preferLatencyProfile queue field = queue := by
  simp only [normalizeHotpathField, Json.setDefault]
  split
  · rw [h]
    rfl
  · exact Json.setField_of_get? h

theorem isObj_normalizeQueue (h : queueReport.IsObj) :
    (normalizeQueue queueReport latencyProfile preferLatencyProfile).IsObj := by
  have hfold (fields : List String) {queue : Json} (hobj : queue.IsObj) :
      (fields.foldl (normalizeHotpathField queueReport latencyProfile preferLatencyProfile)
        queue).IsObj := by
    induction fields generalizing queue with
    | nil => exact hobj
    | cons field fields ih => exact ih (isObj_normalizeHotpathField hobj field)
  exact hfold _ h

theorem get?_normalizeQueue_eq (hobj : queueReport.IsObj) {field : String}
    (h : field ∈ hotpathQueueFieldNames) :
    (normalizeQueue queueReport latencyProfile preferLatencyProfile).get? field =
      some (if (normalizedHotpathField queueReport latencyProfile preferLatencyProfile field).isNull
        then queueReport.getD field
          (.bool (latencyProfileHotpathField queueReport latencyProfile field))
        else normalizedHotpathField queueReport latencyProfile preferLatencyProfile field) :=
  (get?_foldl_normalize_of_mem hobj (by decide) h).trans
    (get?_normalizeHotpathField_self hobj field)

/-- The fields of a normalized queue are as they should be. -/
theorem get?_normalizeQueue_of_mem (hobj : queueReport.IsObj) {field : String}
    (h : field ∈ hotpathQueueFieldNames) :
    (normalizeQueue queueReport latencyProfile preferLatencyProfile).get? field =
      some (normalizedHotpathField (normalizeQueue queueReport latencyProfile preferLatencyProfile)
        latencyProfile preferLatencyProfile field) := by
  cases preferLatencyProfile with
  | false =>
      -- the queue is kept, and the field is there
      rw [normalizedHotpathField, if_neg Bool.false_ne_true, Json.get,
        get?_normalizeQueue_eq hobj h]
      rfl
  | true =>
      have hprofile {field : String} (h : field ∈ hotpathQueueFieldNames) :
          (normalizeQueue queueReport latencyProfile true).get? field =
            some (.bool (latencyProfileHotpathField queueReport latencyProfile field)) :=
        get?_normalizeQueue_eq hobj h
      have hsame : latencyProfileHotpathField (normalizeQueue queueReport latencyProfile true)
          latencyProfile field = latencyProfileHotpathField queueReport latencyProfile field := by
        rw [latencyProfileHotpathField]
        split
        · rename_i hqueue
          rw [Json.get, hprofile h]
          rfl
        · rename_i hqueue
          rw [latencyProfileHotpathField, if_neg hqueue]
      rw [normalizedHotpathField, if_pos rfl, hsame, hprofile h]

/-- **A normalized queue is normalized.** -/
theorem normalizeQueue_again (hobj : queueReport.IsObj) :
    normalizeQueue (normalizeQueue queueReport latencyProfile preferLatencyProfile) latencyProfile
      preferLatencyProfile = normalizeQueue queueReport latencyProfile preferLatencyProfile := by
  generalize hqueue : normalizeQueue queueReport latencyProfile preferLatencyProfile = queue
  have hfields : ∀ field ∈ hotpathQueueFieldNames, normalizeHotpathField queue latencyProfile
      preferLatencyProfile queue field = queue := by
    intro field hfield
    refine normalizeHotpathField_of_get? ?_
    rw [← hqueue]
    exact get?_normalizeQueue_of_mem hobj hfield
  rw [normalizeQueue]
  generalize hotpathQueueFieldNames = fields at hfields
  induction fields with
  | nil => rfl
  | cons field fields ih =>
      rw [List.foldl_cons, hfields field (.head _)]
      exact ih fun other hother => hfields other (.tail _ hother)

end Normalized

end SomethingTrade
