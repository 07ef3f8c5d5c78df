import Mathlib.Tactic.Linarith
import SomethingTrade.LabelMetrics

/-!
# The Clock Offset

How far the local clock is ahead of the clock of the exchange. A sample asks the exchange for its
time and takes the middle between request and response for the local time of the answer. Samples
with long round trips are discarded; the offset is the median of the others, without the extreme
ones when there are many.

The answer was given at some time between request and response, so a sample is wrong by half its
round trip at most. Round trips of accepted samples are bounded, and the median is one of their
offsets.

## Representation

* The summary reads four fields of a sample, of which two as numbers; they are its reading.
* The call marks the samples; it returns them.

## Main results

* `ServerTimeSample.abs_sub_le`: a sample is wrong by half its round trip at most.
* `summarizeClockReadings_perm`: what does not depend on the order of the samples.
* `clockOffset_sound`: the bounds of the estimate, and what it depends on.
-/

namespace SomethingTrade

/-! ### Settings -/

/-- How far the offsets of accepted samples may be apart. -/
def maxClockOffsetDriftMs : ℚ := 50

/-- A round trip from which on there is a warning. -/
def serverTimeRttWarningMs : ℚ := 250

/-- A round trip that is too long for most samples. -/
def serverTimeRttHardFailMs : ℚ := 1000

/-- How long the round trip of an accepted sample may be at most. -/
def lowRttClockSampleMaxMs : ℚ := 150

/-- How many samples have to be accepted. -/
def lowRttClockSampleMinCount : ℕ := 2

/-- How much longer than the median a round trip may always be. -/
def lowRttDynamicMarginMs : ℚ := 25

/-- By how many median deviations a round trip may be longer than the median. -/
def lowRttDynamicMadMultiplier : ℚ := 3

/-! ### Samples -/

/-- A sample of the time of the exchange. -/
def buildServerTimeSample (sampleId : ℤ) (phase : String)
    (localWallBeforeRequestMs localWallAfterResponseMs binanceServerTimeMs : ℚ) : Json :=
  let midpoint := (localWallBeforeRequestMs + localWallAfterResponseMs) / 2
  let rttMs := localWallAfterResponseMs - localWallBeforeRequestMs
  .obj
    [("sample_id", .int sampleId),
      ("phase", .str phase),
      ("local_wall_before_request_ms", .float localWallBeforeRequestMs),
      ("local_wall_after_response_ms", .float localWallAfterResponseMs),
      ("local_wall_midpoint_ms", .float midpoint),
      ("binance_server_time_ms", .float binanceServerTimeMs),
      ("round_trip_ms", .float rttMs),
      ("server_time_rtt_ms", .float rttMs),
      ("estimated_clock_offset_ms", .float (midpoint - binanceServerTimeMs)),
      ("accepted_for_clock_offset", .null),
      ("rejection_reason", .null)]

/-- The round trip of a sample. -/
def sampleServerTimeRttMs (sample : Json) : Option ℚ :=
  (sample.getD "server_time_rtt_ms" (sample.get "round_trip_ms")).toFinite?

/-- The offset of a sample. -/
def sampleClockOffsetMs (sample : Json) : Option ℚ :=
  (sample.get "estimated_clock_offset_ms").toFinite?

/-- What the summary reads of a sample. -/
structure ClockReading where
  sampleId : Json
  phase : Json
  rtt : Option ℚ
  offset : Option ℚ

/-- Read a sample. -/
def clockReading (sample : Json) : ClockReading :=
  ⟨sample.get "sample_id", sample.get "phase", sampleServerTimeRttMs sample,
    sampleClockOffsetMs sample⟩

/-! ### The summary -/

/-- How long round trips may be, from all of them. -/
def lowRttAcceptanceThreshold (rtts : List ℚ) : Option ℚ :=
  (percentile rtts (1 / 2)).map fun median =>
    let mad := (percentile (rtts.map fun value => |value - median|) (1 / 2)).getD 0
    min lowRttClockSampleMaxMs
      (median + max lowRttDynamicMarginMs (lowRttDynamicMadMultiplier * mad))

/-- Sorted offsets, without the first and the last when there are at least five. -/
def trimOffsetsForMedian (offsets : List ℚ) : List ℚ :=
  let clean := sortBy id offsets
  if clean.length < 5 then clean else clean.tail.dropLast

/-- The difference of the largest and the smallest of some values. -/
def valueSpread (values : List ℚ) : Option ℚ :=
  values.max?.bind fun largest => values.min?.map fun smallest => largest - smallest

/-- Why a sample is rejected. -/
def clockRejection (threshold : Option ℚ) (reading : ClockReading) : Option String :=
  match reading.rtt, reading.offset, threshold with
  | none, _, _ => some "missing_server_time_rtt"
  | some _, none, _ => some "missing_estimated_clock_offset"
  | some _, some _, none => some "clock_sample_threshold_unavailable"
  | some rtt, some _, some threshold => if rtt > threshold then some "high_rtt_outlier" else none

/-- Mark a sample. -/
def annotateClockSample (threshold : Option ℚ) (sample : Json) : Json :=
  let timed :=
    match sampleServerTimeRttMs sample with
    | none => sample
    | some rtt => sample.setField "server_time_rtt_ms" (.float rtt)
  let rejection := clockRejection threshold (clockReading sample)
  (timed.setField "accepted_for_clock_offset" (.bool rejection.isNone)).setField
    "rejection_reason" (Json.ofText? rejection)

/-- What is reported of a sample that was discarded. -/
structure DiscardedClockSample where
  reading : ClockReading
  reason : String

/-- The summary of the samples. -/
structure ClockOffsetSummary where
  sampleCount : ℕ
  beforeSampleCount : ℕ
  afterSampleCount : ℕ
  offsetBeforeMs : Option ℚ
  offsetAfterMs : Option ℚ
  offsetMedianMs : Option ℚ
  offsetMinMs : Option ℚ
  offsetMaxMs : Option ℚ
  offsetDriftMs : Option ℚ
  offsetAbsDriftMs : Option ℚ
  serverTimeRttP50Ms : Option ℚ
  serverTimeRttP95Ms : Option ℚ
  estimatedClockOffsetMs : Option ℚ
  estimator : String := "low_rtt_trimmed_median"
  clockOffsetEstimatorStrategy : String := "low_rtt_trimmed_median"
  rawClockOffsetDriftMs : Option ℚ
  rawBeforeAfterOffsetDriftMs : Option ℚ
  rawEstimatedClockOffsetMsValues : List ℚ
  rawServerTimeRttMsValues : List ℚ
  robustEstimatedClockOffsetMs : Option ℚ
  robustOffsetDriftMs : Option ℚ
  robustClockOffsetDriftValid : Bool
  acceptedClockSampleCount : ℕ
  discardedClockSampleCount : ℕ
  discardedClockSampleReasons : List DiscardedClockSample
  discardedClockSampleReasonCounts : List (String × ℕ)
  lowRttAcceptanceThresholdMs : Option ℚ
  clockOffsetSampleQualityValid : Bool
  minAcceptedClockSampleCount : ℕ := lowRttClockSampleMinCount
  maxClockOffsetDriftMs : ℚ := SomethingTrade.maxClockOffsetDriftMs
  serverTimeRttWarningMs : ℚ := SomethingTrade.serverTimeRttWarningMs
  serverTimeRttHardFailMs : ℚ := SomethingTrade.serverTimeRttHardFailMs
  beforeAfterSamplesPresent : Bool
  clockOffsetDriftValid : Bool
  serverTimeRttValid : Bool

/-- The offsets of the readings that are accepted. -/
def acceptedClockOffsets (threshold : Option ℚ) (readings : List ClockReading) : List ℚ :=
  (readings.filter fun reading => (clockRejection threshold reading).isNone).filterMap
    ClockReading.offset

/-- The readings that are not accepted. -/
def discardedClockSamples (threshold : Option ℚ) (readings : List ClockReading) :
    List DiscardedClockSample :=
  readings.filterMap fun reading =>
    (clockRejection threshold reading).map fun reason => ⟨reading, reason⟩

/-- The summary of some readings. -/
def summarizeClockReadings (readings : List ClockReading) : ClockOffsetSummary :=
  let before := readings.filter fun reading => reading.phase.isText "before_capture"
  let after := readings.filter fun reading => reading.phase.isText "after_capture"
  let offsets := readings.filterMap ClockReading.offset
  let rtts := readings.filterMap ClockReading.rtt
  let offsetBefore := before.head?.bind ClockReading.offset
  let offsetAfter := after.getLast?.bind ClockReading.offset
  let threshold := lowRttAcceptanceThreshold rtts
  let discarded := discardedClockSamples threshold readings
  let discardedReasonCounts := (discarded.map DiscardedClockSample.reason).foldl
    Dict.increment .empty
  let acceptedOffsets := acceptedClockOffsets threshold readings
  let robustOffset := percentile (trimOffsetsForMedian acceptedOffsets) (1 / 2)
  let sampleQualityValid : Bool := acceptedOffsets.length ≥ lowRttClockSampleMinCount
  let robustDrift := if sampleQualityValid then valueSpread acceptedOffsets else none
  let robustDriftValid :=
    sampleQualityValid && robustDrift.any fun drift => drift ≤ maxClockOffsetDriftMs
  let rttP95 := percentile rtts (19 / 20)
  { sampleCount := readings.length
    beforeSampleCount := before.length
    afterSampleCount := after.length
    offsetBeforeMs := offsetBefore
    offsetAfterMs := offsetAfter
    offsetMedianMs := robustOffset
    offsetMinMs := offsets.min?
    offsetMaxMs := offsets.max?
    offsetDriftMs := robustDrift
    offsetAbsDriftMs := robustDrift
    serverTimeRttP50Ms := percentile rtts (1 / 2)
    serverTimeRttP95Ms := rttP95
    estimatedClockOffsetMs := robustOffset
    rawClockOffsetDriftMs := valueSpread offsets
    rawBeforeAfterOffsetDriftMs := offsetAfter.bind fun last =>
      offsetBefore.map fun first => last - first
    rawEstimatedClockOffsetMsValues := offsets
    rawServerTimeRttMsValues := rtts
    robustEstimatedClockOffsetMs := robustOffset
    robustOffsetDriftMs := robustDrift
    robustClockOffsetDriftValid := robustDriftValid
    acceptedClockSampleCount := acceptedOffsets.length
    discardedClockSampleCount := discarded.length
    discardedClockSampleReasons := discarded
    discardedClockSampleReasonCounts :=
      discardedReasonCounts.entries.insertionSort fun a b => a.1 ≤ b.1
    lowRttAcceptanceThresholdMs := threshold
    clockOffsetSampleQualityValid := sampleQualityValid
    beforeAfterSamplesPresent := !before.isEmpty && !after.isEmpty
    clockOffsetDriftValid := robustDriftValid
    serverTimeRttValid := rttP95.any fun rtt => rtt ≤ serverTimeRttHardFailMs }

/-- Mark the samples, and summarize them. -/
def computeClockOffsetSummary (samples : List Json) : List Json × ClockOffsetSummary :=
  let readings := samples.map clockReading
  let threshold := lowRttAcceptanceThreshold (readings.filterMap ClockReading.rtt)
  (samples.map (annotateClockSample threshold), summarizeClockReadings readings)

/-! ### The error of a sample -/

/-- A sample of an exchange whose clock is `theta` behind: it stamped its time between request
and response. -/
structure ServerTimeSample (theta : ℚ) (sample : Json) : Prop where
  stamped : ∃ before after server : ℚ, before ≤ server + theta ∧ server + theta ≤ after ∧
    sampleServerTimeRttMs sample = some (after - before) ∧
    sampleClockOffsetMs sample = some ((before + after) / 2 - server)

/-- What is built from such times is such a sample. -/
theorem serverTimeSample_build {theta before after server : ℚ} (hbefore : before ≤ server + theta)
    (hafter : server + theta ≤ after) (sampleId : ℤ) (phase : String) :
    ServerTimeSample theta (buildServerTimeSample sampleId phase before after server) :=
  ⟨before, after, server, hbefore, hafter, rfl, rfl⟩

/-- **A sample is wrong by half its round trip at most.** -/
theorem ServerTimeSample.abs_sub_le {theta : ℚ} {sample : Json}
    (h : ServerTimeSample theta sample) :
    ∃ rtt offset, (clockReading sample).rtt = some rtt ∧
      (clockReading sample).offset = some offset ∧ |offset - theta| ≤ rtt / 2 := by
  obtain ⟨before, after, server, hbefore, hafter, hrtt, hoffset⟩ := h.stamped
  refine ⟨_, _, hrtt, hoffset, abs_le.mpr ⟨?_, ?_⟩⟩
  · linarith
  · linarith

/-! ### The threshold and the median -/

/-- No threshold is above the bound for round trips. -/
theorem lowRttAcceptanceThreshold_le {rtts : List ℚ} {threshold : ℚ}
    (h : lowRttAcceptanceThreshold rtts = some threshold) :
    threshold ≤ lowRttClockSampleMaxMs := by
  obtain ⟨median, -, rfl⟩ := Option.map_eq_some_iff.mp h
  exact min_le_left _ _

/-- There is a threshold when there is a round trip. -/
theorem exists_lowRttAcceptanceThreshold {rtts : List ℚ} (h : rtts ≠ []) :
    ∃ threshold, lowRttAcceptanceThreshold rtts = some threshold := by
  obtain ⟨median, hmedian⟩ := exists_percentile h (1 / 2)
  exact ⟨_, by rw [lowRttAcceptanceThreshold, hmedian]; rfl⟩

theorem mem_of_mem_trimOffsetsForMedian {offsets : List ℚ} {offset : ℚ}
    (h : offset ∈ trimOffsetsForMedian offsets) : offset ∈ offsets := by
  refine (perm_sortBy id offsets).mem_iff.mp ?_
  simp only [trimOffsetsForMedian] at h
  split at h
  · exact h
  · exact (List.tail_sublist _).subset ((List.dropLast_sublist _).subset h)

theorem trimOffsetsForMedian_ne_nil {offsets : List ℚ} (h : offsets ≠ []) :
    trimOffsetsForMedian offsets ≠ [] := by
  have hlength := (perm_sortBy id offsets).length_eq
  have hpos := List.length_pos_iff.mpr h
  rw [← List.length_pos_iff]
  simp only [trimOffsetsForMedian]
  split
  · omega
  · rw [List.length_dropLast, List.length_tail]
    omega

/-- The median of some offsets is one of them. -/
theorem exists_median {offsets : List ℚ} (h : offsets ≠ []) :
    ∃ estimate ∈ offsets, percentile (trimOffsetsForMedian offsets) (1 / 2) = some estimate := by
  obtain ⟨estimate, hestimate⟩ := exists_percentile (trimOffsetsForMedian_ne_nil h) (1 / 2)
  exact ⟨estimate, mem_of_mem_trimOffsetsForMedian (mem_of_percentile hestimate), hestimate⟩

/-- An element of a list lies between its smallest and its largest. -/
theorem exists_min?_le_max? {values : List ℚ} {value : ℚ} (h : value ∈ values) :
    ∃ smallest largest, values.min? = some smallest ∧ values.max? = some largest ∧
      smallest ≤ value ∧ value ≤ largest := by
  rcases hmin : values.min? with _ | smallest
  · rw [List.min?_eq_none_iff.mp hmin] at h
    cases h
  rcases hmax : values.max? with _ | largest
  · rw [List.max?_eq_none_iff.mp hmax] at h
    cases h
  exact ⟨smallest, largest, rfl, rfl, (List.min?_eq_some_iff.mp hmin).2 _ h,
    (List.max?_eq_some_iff.mp hmax).2 _ h⟩

/-! ### Which samples are accepted -/

/-- The offset of an accepted reading comes with a short round trip. -/
theorem mem_acceptedClockOffsets {threshold : Option ℚ} {readings : List ClockReading}
    {offset : ℚ} (h : offset ∈ acceptedClockOffsets threshold readings) :
    ∃ reading ∈ readings, reading.offset = some offset ∧
      ∃ rtt bound, reading.rtt = some rtt ∧ threshold = some bound ∧ rtt ≤ bound := by
  obtain ⟨reading, hreading, hoffset⟩ := List.mem_filterMap.mp h
  obtain ⟨hmem, haccepted⟩ := List.mem_filter.mp hreading
  refine ⟨reading, hmem, hoffset, ?_⟩
  rw [clockRejection.eq_def, hoffset] at haccepted
  rcases hrtt : reading.rtt with _ | rtt
  · simp [hrtt] at haccepted
  rcases threshold with _ | bound
  · simp [hrtt] at haccepted
  simp only [hrtt] at haccepted
  refine ⟨rtt, bound, rfl, rfl, not_lt.mp fun hlt => ?_⟩
  simp [hlt] at haccepted

/-- Each reading is accepted or discarded. -/
theorem length_accepted_add_discarded (threshold : Option ℚ) (readings : List ClockReading) :
    (acceptedClockOffsets threshold readings).length +
      (discardedClockSamples threshold readings).length = readings.length := by
  induction readings with
  | nil => rfl
  | cons reading readings ih =>
      rw [acceptedClockOffsets, discardedClockSamples] at ih ⊢
      rcases hrejection : clockRejection threshold reading with _ | reason
      · obtain ⟨offset, hoffset⟩ : ∃ offset, reading.offset = some offset := by
          rcases hoffset : reading.offset with _ | offset
          · rcases hrtt : reading.rtt with _ | rtt <;>
              simp [clockRejection, hoffset, hrtt] at hrejection
          · exact ⟨offset, rfl⟩
        simp only [List.filter_cons, hrejection, Option.isNone_none, if_true,
          List.filterMap_cons, hoffset, Option.map_none, List.length_cons]
        omega
      · simp only [List.filter_cons, hrejection, Option.isNone_some, Bool.false_eq_true,
          if_false, List.filterMap_cons, Option.map_some, List.length_cons]
        omega

/-- A reading with both numbers is rejected for its round trip only. -/
theorem clockRejection_isNone {threshold rtt : ℚ} {reading : ClockReading}
    (hrtt : reading.rtt = some rtt) (hoffset : ∃ offset, reading.offset = some offset) :
    (clockRejection (some threshold) reading).isNone = decide (rtt ≤ threshold) := by
  obtain ⟨offset, hoffset⟩ := hoffset
  rw [clockRejection.eq_def, hrtt, hoffset]
  by_cases hle : rtt ≤ threshold
  · simp [hle, not_lt.mpr hle]
  · simp [hle, not_le.mp hle]

/-! ### Marked samples -/

/-- A sample with a round trip is an object. -/
theorem isObj_of_rtt {sample : Json} {rtt : ℚ} (h : sampleServerTimeRttMs sample = some rtt) :
    sample.IsObj := by
  cases sample with
  | obj fields => exact ⟨fields, rfl⟩
  | _ => cases h

/-- Marking a sample sets three of its fields only. -/
theorem get?_annotateClockSample (threshold : Option ℚ) (sample : Json) {field : String}
    (h : field ∉ ["server_time_rtt_ms", "accepted_for_clock_offset", "rejection_reason"]) :
    (annotateClockSample threshold sample).get? field = sample.get? field := by
  simp only [List.mem_cons, List.not_mem_nil, or_false, not_or] at h
  obtain ⟨hrtt, haccepted, hreason⟩ := h
  simp only [annotateClockSample]
  rw [Json.get?_setField_of_ne _ _ (Ne.symm hreason),
    Json.get?_setField_of_ne _ _ (Ne.symm haccepted)]
  split
  · rfl
  · exact Json.get?_setField_of_ne _ _ (Ne.symm hrtt)

/-- The round trip of a marked sample is that of the sample. -/
theorem sampleServerTimeRttMs_annotate (threshold : Option ℚ) (sample : Json) :
    sampleServerTimeRttMs (annotateClockSample threshold sample) =
      sampleServerTimeRttMs sample := by
  have hround : (annotateClockSample threshold sample).get? "round_trip_ms" =
      sample.get? "round_trip_ms" := get?_annotateClockSample threshold sample (by decide)
  rcases hrtt : sampleServerTimeRttMs sample with _ | rtt
  · have hserver : (annotateClockSample threshold sample).get? "server_time_rtt_ms" =
        sample.get? "server_time_rtt_ms" := by
      simp only [annotateClockSample, hrtt]
      rw [Json.get?_setField_of_ne _ _ (by decide), Json.get?_setField_of_ne _ _ (by decide)]
    rw [← hrtt]
    simp only [sampleServerTimeRttMs, Json.getD, Json.get, hserver, hround]
  · have hserver : (annotateClockSample threshold sample).get? "server_time_rtt_ms" =
        some (.float rtt) := by
      simp only [annotateClockSample, hrtt]
      rw [Json.get?_setField_of_ne _ _ (by decide), Json.get?_setField_of_ne _ _ (by decide),
        (isObj_of_rtt hrtt).get?_setField_self]
    simp [sampleServerTimeRttMs, Json.getD, hserver, Json.toFinite?, Json.toFloat?]

/-- What is read of a marked sample is what was read of the sample. -/
theorem clockReading_annotate (threshold : Option ℚ) (sample : Json) :
    clockReading (annotateClockSample threshold sample) = clockReading sample := by
  have hkeep {field : String} (h : field ∉ ["server_time_rtt_ms", "accepted_for_clock_offset",
      "rejection_reason"]) :
      (annotateClockSample threshold sample).get field = sample.get field := by
    rw [Json.get, Json.get, get?_annotateClockSample threshold sample h]
  simp only [clockReading, sampleServerTimeRttMs_annotate, sampleClockOffsetMs]
  rw [hkeep (by decide), hkeep (by decide), hkeep (by decide)]

/-- A marked sample says whether it is accepted. -/
theorem get_accepted_annotate {threshold : Option ℚ} {sample : Json} (h : sample.IsObj) :
    (annotateClockSample threshold sample).get "accepted_for_clock_offset" =
      .bool (clockRejection threshold (clockReading sample)).isNone := by
  have htimed : (match sampleServerTimeRttMs sample with
      | none => sample
      | some rtt => sample.setField "server_time_rtt_ms" (.float rtt)).IsObj := by
    split
    · exact h
    · exact h.setField _ _
  rw [Json.get, annotateClockSample, Json.get?_setField_of_ne _ _ (by decide),
    htimed.get?_setField_self]
  rfl

/-! ### The order of the samples -/

section Order

variable {xs ys : List ℚ} {readings readings' : List ClockReading}

theorem max?_perm (h : xs.Perm ys) : xs.max? = ys.max? := by
  rcases hys : ys.max? with _ | largest
  · rw [List.max?_eq_none_iff] at hys ⊢
    exact (hys ▸ h).eq_nil
  · rw [List.max?_eq_some_iff] at hys ⊢
    exact ⟨h.mem_iff.mpr hys.1, fun value hvalue => hys.2 value (h.mem_iff.mp hvalue)⟩

theorem min?_perm (h : xs.Perm ys) : xs.min? = ys.min? := by
  rcases hys : ys.min? with _ | smallest
  · rw [List.min?_eq_none_iff] at hys ⊢
    exact (hys ▸ h).eq_nil
  · rw [List.min?_eq_some_iff] at hys ⊢
    exact ⟨h.mem_iff.mpr hys.1, fun value hvalue => hys.2 value (h.mem_iff.mp hvalue)⟩

theorem valueSpread_perm (h : xs.Perm ys) : valueSpread xs = valueSpread ys := by
  rw [valueSpread, valueSpread, max?_perm h, min?_perm h]

theorem lowRttAcceptanceThreshold_perm (h : xs.Perm ys) :
    lowRttAcceptanceThreshold xs = lowRttAcceptanceThreshold ys := by
  rw [lowRttAcceptanceThreshold, lowRttAcceptanceThreshold, percentile_perm h]
  congr 1
  funext median
  rw [percentile_perm (h.map _)]

theorem trimOffsetsForMedian_perm (h : xs.Perm ys) :
    trimOffsetsForMedian xs = trimOffsetsForMedian ys := by
  rw [trimOffsetsForMedian, trimOffsetsForMedian, sortBy_id_perm h]

/-- **The estimate and the drifts do not depend on the order of the readings.** -/
theorem summarizeClockReadings_perm (h : readings.Perm readings') :
    (summarizeClockReadings readings).robustEstimatedClockOffsetMs =
        (summarizeClockReadings readings').robustEstimatedClockOffsetMs ∧
      (summarizeClockReadings readings).robustOffsetDriftMs =
        (summarizeClockReadings readings').robustOffsetDriftMs ∧
      (summarizeClockReadings readings).rawClockOffsetDriftMs =
        (summarizeClockReadings readings').rawClockOffsetDriftMs := by
  have hthreshold := lowRttAcceptanceThreshold_perm (h.filterMap ClockReading.rtt)
  have haccepted (threshold : Option ℚ) : (acceptedClockOffsets threshold readings).Perm
      (acceptedClockOffsets threshold readings') := (h.filter _).filterMap _
  simp only [summarizeClockReadings, hthreshold, (haccepted _).length_eq,
    trimOffsetsForMedian_perm (haccepted _), valueSpread_perm (haccepted _),
    valueSpread_perm (h.filterMap ClockReading.offset), and_self]

end Order

/-! ### The estimate -/

/-- Whether a marked sample is accepted. -/
def isAccepted (sample : Json) : Bool := (sample.get "accepted_for_clock_offset").isTrue

/-- The offsets of the samples that are marked as accepted. -/
def markedOffsets (samples : List Json) : List ℚ :=
  (samples.filter isAccepted).filterMap sampleClockOffsetMs

/-- The threshold of some samples. -/
def clockThreshold (samples : List Json) : Option ℚ :=
  lowRttAcceptanceThreshold (samples.filterMap sampleServerTimeRttMs)

theorem clockThreshold_eq (samples : List Json) :
    lowRttAcceptanceThreshold ((samples.map clockReading).filterMap ClockReading.rtt) =
      clockThreshold samples := by
  rw [List.filterMap_map]
  rfl

section Sound

variable {theta : ℚ} {samples : List Json}

theorem ServerTimeSample.isObj {sample : Json} (h : ServerTimeSample theta sample) :
    sample.IsObj := by
  obtain ⟨before, after, server, -, -, hrtt, -⟩ := h.stamped
  exact isObj_of_rtt hrtt

/-- The offsets of the accepted samples are those the estimate is made of. -/
theorem markedOffsets_eq (h : ∀ sample ∈ samples, ServerTimeSample theta sample) :
    markedOffsets (computeClockOffsetSummary samples).1 =
      acceptedClockOffsets (clockThreshold samples) (samples.map clockReading) := by
  simp only [computeClockOffsetSummary, clockThreshold_eq, markedOffsets, acceptedClockOffsets]
  generalize clockThreshold samples = threshold
  induction samples with
  | nil => rfl
  | cons sample samples ih =>
      obtain ⟨hsample, hrest⟩ := List.forall_mem_cons.mp h
      have hoffset : sampleClockOffsetMs (annotateClockSample threshold sample) =
          (clockReading sample).offset :=
        congrArg ClockReading.offset (clockReading_annotate threshold sample)
      have haccepted : isAccepted (annotateClockSample threshold sample) =
          (clockRejection threshold (clockReading sample)).isNone := by
        rw [isAccepted, get_accepted_annotate hsample.isObj]
        rfl
      simp only [List.map_cons, List.filter_cons, haccepted]
      split
      · simp only [List.filterMap_cons, hoffset, ih hrest]
      · exact ih hrest

/-- An accepted offset is wrong by half the bound for round trips at most. -/
theorem abs_sub_le_of_mem_accepted (h : ∀ sample ∈ samples, ServerTimeSample theta sample)
    {offset : ℚ}
    (hoffset : offset ∈ acceptedClockOffsets (clockThreshold samples)
      (samples.map clockReading)) :
    |offset - theta| ≤ 75 := by
  obtain ⟨reading, hreading, hread, rtt, bound, hrtt, hbound, hle⟩ :=
    mem_acceptedClockOffsets hoffset
  obtain ⟨sample, hsample, rfl⟩ := List.mem_map.mp hreading
  obtain ⟨rtt', offset', hrtt', hoffset', hwrong⟩ := (h sample hsample).abs_sub_le
  obtain rfl : rtt' = rtt := Option.some.inj (hrtt'.symm.trans hrtt)
  obtain rfl : offset' = offset := Option.some.inj (hoffset'.symm.trans hread)
  calc |offset' - theta| ≤ rtt' / 2 := hwrong
    _ ≤ lowRttClockSampleMaxMs / 2 := by
        linarith [hle.trans (lowRttAcceptanceThreshold_le hbound)]
    _ = 75 := by norm_num [lowRttClockSampleMaxMs]

/-- Which samples are accepted is decided by the round trips. -/
theorem map_isAccepted (h : ∀ sample ∈ samples, ServerTimeSample theta sample) :
    (computeClockOffsetSummary samples).1.map isAccepted =
      (samples.map sampleServerTimeRttMs).map fun rtt =>
        rtt.any fun rtt => (clockThreshold samples).any fun threshold => rtt ≤ threshold := by
  simp only [computeClockOffsetSummary, clockThreshold_eq, List.map_map]
  refine List.map_congr_left fun sample hsample => ?_
  obtain ⟨rtt, offset, hrtt, hoffset, -⟩ := (h sample hsample).abs_sub_le
  have hmem : rtt ∈ samples.filterMap sampleServerTimeRttMs :=
    List.mem_filterMap.mpr ⟨sample, hsample, hrtt⟩
  obtain ⟨threshold, hthreshold⟩ :=
    exists_lowRttAcceptanceThreshold (List.ne_nil_of_mem hmem)
  have hread : sampleServerTimeRttMs sample = some rtt := hrtt
  simp only [Function.comp_apply, isAccepted, get_accepted_annotate (h sample hsample).isObj,
    clockThreshold, hthreshold, clockRejection_isNone hrtt ⟨offset, hoffset⟩, hread,
    Option.any_some]
  rfl

/-- **The clock offset estimate is sound.** For samples that the exchange stamped between request
and response: if any sample is accepted, the estimate is wrong by 75 ms at most and lies between
the smallest and the largest accepted offset; every sample is accepted or discarded; which are
accepted depends on the round trips only; the marked samples have the same summary; and the
estimate and the drifts do not depend on the order. -/
theorem clockOffset_sound (h : ∀ sample ∈ samples, ServerTimeSample theta sample) :
    ((computeClockOffsetSummary samples).2.acceptedClockSampleCount > 0 →
      ∃ estimate smallest largest,
        (computeClockOffsetSummary samples).2.robustEstimatedClockOffsetMs = some estimate ∧
        |estimate - theta| ≤ 75 ∧
        (markedOffsets (computeClockOffsetSummary samples).1).min? = some smallest ∧
        (markedOffsets (computeClockOffsetSummary samples).1).max? = some largest ∧
        smallest ≤ estimate ∧ estimate ≤ largest) ∧
    (computeClockOffsetSummary samples).2.acceptedClockSampleCount +
      (computeClockOffsetSummary samples).2.discardedClockSampleCount = samples.length ∧
    (∀ theta' samples', (∀ sample ∈ samples', ServerTimeSample theta' sample) →
      samples'.map sampleServerTimeRttMs = samples.map sampleServerTimeRttMs →
      (computeClockOffsetSummary samples').1.map isAccepted =
        (computeClockOffsetSummary samples).1.map isAccepted) ∧
    (computeClockOffsetSummary (computeClockOffsetSummary samples).1).2 =
      (computeClockOffsetSummary samples).2 ∧
    ∀ samples', samples'.Perm samples →
      (computeClockOffsetSummary samples').2.robustEstimatedClockOffsetMs =
          (computeClockOffsetSummary samples).2.robustEstimatedClockOffsetMs ∧
        (computeClockOffsetSummary samples').2.robustOffsetDriftMs =
          (computeClockOffsetSummary samples).2.robustOffsetDriftMs ∧
        (computeClockOffsetSummary samples').2.rawClockOffsetDriftMs =
          (computeClockOffsetSummary samples).2.rawClockOffsetDriftMs := by
  have hthreshold := clockThreshold_eq samples
  refine ⟨fun hpos => ?_, ?_, ?_, ?_, ?_⟩
  · simp only [computeClockOffsetSummary, summarizeClockReadings, hthreshold] at hpos
    obtain ⟨estimate, hmem, hestimate⟩ := exists_median (List.length_pos_iff.mp hpos)
    obtain ⟨smallest, largest, hmin, hmax, hle, hge⟩ := exists_min?_le_max? hmem
    rw [markedOffsets_eq h]
    refine ⟨estimate, smallest, largest, ?_, abs_sub_le_of_mem_accepted h hmem, hmin, hmax, hle,
      hge⟩
    simpa only [computeClockOffsetSummary, summarizeClockReadings, hthreshold] using hestimate
  · simpa only [computeClockOffsetSummary, summarizeClockReadings, List.length_map] using
      length_accepted_add_discarded (lowRttAcceptanceThreshold
        ((samples.map clockReading).filterMap ClockReading.rtt)) (samples.map clockReading)
  · intro theta' samples' h' hrtts
    have hsame : clockThreshold samples' = clockThreshold samples := by
      have hflat (xs : List Json) : xs.filterMap sampleServerTimeRttMs =
          (xs.map sampleServerTimeRttMs).filterMap id := by
        rw [List.filterMap_map]
        rfl
      rw [clockThreshold, clockThreshold, hflat, hflat, hrtts]
    rw [map_isAccepted h', map_isAccepted h, hrtts, hsame]
  · simp only [computeClockOffsetSummary, List.map_map]
    refine congrArg summarizeClockReadings (List.map_congr_left fun sample _ => ?_)
    exact clockReading_annotate _ sample
  · intro samples' hperm
    exact summarizeClockReadings_perm (hperm.map clockReading)

/-- Two samples of an exchange that is 5 ms behind; the one with the long round trip is
discarded. -/
def twoServerTimeSamples : List Json :=
  [buildServerTimeSample 1 "before_capture" 0 20 0,
    buildServerTimeSample 2 "after_capture" 0 400 100]

theorem clockOffset_sound_two :
    ∃ estimate,
      (computeClockOffsetSummary twoServerTimeSamples).2.robustEstimatedClockOffsetMs =
        some estimate ∧ |estimate - 5| ≤ 75 := by
  have hsamples : ∀ sample ∈ twoServerTimeSamples, ServerTimeSample 5 sample := by
    intro sample hsample
    rcases List.mem_pair.mp hsample with rfl | rfl
    · exact serverTimeSample_build (by norm_num) (by norm_num) 1 _
    · exact serverTimeSample_build (by norm_num) (by norm_num) 2 _
  have hpos : (computeClockOffsetSummary twoServerTimeSamples).2.acceptedClockSampleCount > 0 := by
    decide +kernel
  obtain ⟨estimate, -, -, hestimate, hwrong, -⟩ := (clockOffset_sound hsamples).1 hpos
  exact ⟨estimate, hestimate, hwrong⟩

end Sound

end SomethingTrade
