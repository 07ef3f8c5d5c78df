import SomethingTrade.JsonLines

/-!
# The Timestamp Audit

The audit of the files of a session: how often the receive times of a file decrease, how often
the exchange is ahead of the wall clock, and how often a label looks ahead of its row. All times
are brought to milliseconds first, by their size: a number above `10 ^ 14` is taken for
microseconds, one above `10 ^ 17` for nanoseconds. Receive times are counters of a machine, so
the counters of one file may lie on both sides of a bound; two counters on different sides are
compared as if they had different units.

## Representation

* The files of a session are the names the audit knows. A file is absent, or it is its lines and
  the error that ended reading it.
* All names have the extension the audit asks for.
* The decoder of dates is a parameter; it gives seconds.

## Main results

* `seemsToFall_iff`: how two counters compare after the conversion.
* `auditSession_monotonicViolationCount`: the audit counts the adjacent counters that decrease
  after the conversion.
* `clocksJudged_iff`: when this is the number of counters that decrease, and when a label is
  called a leak exactly when it looks back.
-/

namespace SomethingTrade

/-! ### Times in milliseconds -/

/-- A number in milliseconds, from milliseconds or, by its size, from microseconds or
nanoseconds. -/
def numericTimestampToMs (value : ℚ) : ℚ :=
  if |value| > 10 ^ 17 then value / 1000000
  else if |value| > 10 ^ 14 then value / 1000
  else value

/-- The number a value is read as; booleans are none. -/
def numOrNone : Json → Option ℚ
  | .bool _ => none
  | value => value.toFinite?

/-- The integer a value is read as: a fraction is cut off. -/
def intOrNone (value : Json) : Option ℤ := (numOrNone value).map fun q => q.num.tdiv q.den

section Dates

variable (fromisoformat : String → Option ℚ)

/-- A time in milliseconds: a text may be a date, other values are numbers. -/
def timestampMs : Json → Option ℚ
  | .null => none
  | .str s =>
      let text := Decimal.strip s.toList
      if text = [] then none
      else
        let zoned := if text.getLast? = some 'Z' then text.dropLast ++ "+00:00".toList else text
        match fromisoformat (String.ofList zoned) with
        | some seconds => some (seconds * 1000)
        | none => (numOrNone (.str s)).map numericTimestampToMs
  | value => (numOrNone value).map numericTimestampToMs

/-! ### The labels of a row -/

/-- The fields of which a label has one. -/
def labelKeys : List String :=
  ["valid", "invalid_reason", "future_reference_local_recv_monotonic_ns",
    "future_reference_exchange_ts_ms", "target_exchange_ts_ms", "reference_source"]

/-- Whether an object under a key is a label for the horizon of 100 ms. -/
def is100msLabel (keyHint : String) (item : Json) : Bool :=
  (intOrNone (item.get "horizon_ms") = some 100 || occursIn "100ms" keyHint ||
      intOrNone (item.get "max_future_gap_ms") = some 100) &&
    labelKeys.any fun key => (item.get? key).isSome

mutual

/-- The labels in a value under a key, each before those inside it. -/
def walkLabels (keyHint : String) : Json → List Json
  | .obj fields =>
      (if is100msLabel keyHint (.obj fields) then [.obj fields] else []) ++ walkFields fields
  | .arr items => walkItems keyHint items
  | _ => []

/-- The labels in the fields of an object. -/
def walkFields : List (String × Json) → List Json
  | [] => []
  | (key, child) :: fields => walkLabels key child ++ walkFields fields

/-- The labels in the items of a list. -/
def walkItems (keyHint : String) : List Json → List Json
  | [] => []
  | child :: items => walkLabels keyHint child ++ walkItems keyHint items

end

/-- The labels in a value. -/
def find100msLabelDicts (value : Json) : List Json := walkLabels "" value

/-- Whether a later time is there and lies before an earlier one. -/
def looksBack (feature future : Option ℚ) : Bool :=
  match feature, future with
  | some feature, some future => future < feature
  | _, _ => false

@[simp] theorem looksBack_none (feature : Option ℚ) : looksBack feature none = false := by
  cases feature <;> rfl

/-- How many times of a label lie before those of its row, and whether it has any. -/
def singleLabelTimestampFindings (row label : Json) : ℕ × Bool :=
  let featureReceive := timestampMs fromisoformat
    ((row.get "local_recv_monotonic_ns").orElse (label.get "feature_local_recv_monotonic_ns"))
  let futureReceive := timestampMs fromisoformat
    ((label.get "future_reference_local_recv_monotonic_ns").orElse
      (label.get "target_local_recv_monotonic_ns"))
  let featureExchange := timestampMs fromisoformat
    (((row.get "feature_exchange_ts_ms").orElse (row.get "exchange_event_ts")).orElse
      (label.get "feature_exchange_ts_ms"))
  let futureExchange := timestampMs fromisoformat
    ((label.get "future_reference_exchange_ts_ms").orElse (label.get "target_exchange_ts_ms"))
  ((looksBack featureReceive futureReceive).toNat +
      (looksBack featureExchange futureExchange).toNat,
    futureReceive.isSome || futureExchange.isSome)

/-- The findings of all labels of a row. -/
def labelTimestampFindings (row : Json) : ℕ × Bool :=
  (find100msLabelDicts row).foldl (fun findings label =>
    let finding := singleLabelTimestampFindings fromisoformat row label
    (findings.1 + finding.1, findings.2 || finding.2)) (0, false)

/-! ### The audit of a session -/

/-- The files the audit knows. -/
inductive DatasetFile
  | orderbookCleanSamples
  | booktickerReferenceQuotes
  | tradeReferenceEvents
  | aggtradeReferenceEvents
  | orderbookReferenceBenchmarkLabels
  | orderbookTimeProtocolBenchmarkLabels
  | phase42hCorrectedTimeProtocolLabels
  | phase42hLatencyProfileSamples
  | phase42fgLatencyProfileSamples
  deriving DecidableEq

namespace DatasetFile

/-- The name of a file. -/
def fileName : DatasetFile → String
  | orderbookCleanSamples => "orderbook_clean_samples.jsonl"
  | booktickerReferenceQuotes => "bookticker_reference_quotes.jsonl"
  | tradeReferenceEvents => "trade_reference_events.jsonl"
  | aggtradeReferenceEvents => "aggtrade_reference_events.jsonl"
  | orderbookReferenceBenchmarkLabels => "orderbook_reference_benchmark_labels.jsonl"
  | orderbookTimeProtocolBenchmarkLabels => "orderbook_time_protocol_benchmark_labels.jsonl"
  | phase42hCorrectedTimeProtocolLabels => "phase_4_2h_corrected_time_protocol_labels.jsonl"
  | phase42hLatencyProfileSamples => "phase_4_2h_latency_profile_samples.jsonl"
  | phase42fgLatencyProfileSamples => "phase_4_2fg_latency_profile_samples.jsonl"

/-- The files that are read, in this order. -/
def required : List DatasetFile :=
  [orderbookCleanSamples, booktickerReferenceQuotes, tradeReferenceEvents,
    aggtradeReferenceEvents, orderbookReferenceBenchmarkLabels,
    orderbookTimeProtocolBenchmarkLabels, phase42hCorrectedTimeProtocolLabels,
    phase42hLatencyProfileSamples, phase42fgLatencyProfileSamples]

/-- The files of labels; the first that is there is read, the others are not. -/
def labels : List DatasetFile :=
  [phase42hCorrectedTimeProtocolLabels, orderbookTimeProtocolBenchmarkLabels,
    orderbookReferenceBenchmarkLabels]

end DatasetFile

/-- The fields in which a row may have a receive time. -/
def monotonicReceiveAliases : List String :=
  ["monotonic_receive_time", "local_recv_monotonic_ns", "local_receive_ts",
    "raw_ws_callback_monotonic_ns", "ws_message_received_monotonic_ns"]

/-- The fields in which a row may have the time of the exchange. -/
def exchangeEventAliases : List String :=
  ["exchange_event_time", "exchange_event_ts", "exchange_ts", "event_ts",
    "feature_exchange_ts_ms"]

/-- The fields in which a row may have the time of the wall clock. -/
def localReceiveAliases : List String :=
  ["local_receive_time", "local_recv_wall_ts", "receive_ts", "received_at"]

/-- The first of some fields that is there and not `null`. -/
def firstPresent (row : Json) (aliases : List String) : Json :=
  ((aliases.map row.get).find? fun value => !value.isNull).getD .null

/-- A file: its lines, and the error that ended reading it. -/
structure DatasetContent where
  lines : List FileLine
  readError : Option String := none

/-- A sample of what is wrong. -/
structure SampleViolation where
  fileName : String
  line : Option ℕ
  reason : String
  deriving DecidableEq

/-- How many samples of violations are kept. -/
def maxSampleErrorsPerFile : ℕ := 20

/-- What the audit has found. -/
structure TimestampFindings where
  sampleViolations : List SampleViolation := []
  monotonicViolationCount : ℕ := 0
  negativeLatencyCount : ℕ := 0
  futureTimestampLeakCount : ℕ := 0
  horizonVerifiable : Bool := false

/-- Keep a sample of a violation. -/
def TimestampFindings.appendViolation (findings : TimestampFindings)
    (violation : SampleViolation) : TimestampFindings :=
  if findings.sampleViolations.length < maxSampleErrorsPerFile then
    { findings with sampleViolations := findings.sampleViolations ++ [violation] }
  else findings

/-- Compare the receive time of a row with the one before it, which it replaces. -/
def auditReceive (fileName : String) (lineNumber : ℕ) (row : Json)
    (state : TimestampFindings × Option ℚ) : TimestampFindings × Option ℚ :=
  match timestampMs fromisoformat (firstPresent row monotonicReceiveAliases) with
  | none => state
  | some receive =>
      if looksBack state.2 (some receive) then
        ({ state.1 with monotonicViolationCount := state.1.monotonicViolationCount + 1
          }.appendViolation ⟨fileName, some lineNumber, "monotonic_receive_time_decreased"⟩,
          some receive)
      else (state.1, some receive)

/-- Compare the time of the exchange of a row with the wall clock. -/
def auditLatency (fileName : String) (lineNumber : ℕ) (row : Json)
    (findings : TimestampFindings) : TimestampFindings :=
  match timestampMs fromisoformat (firstPresent row exchangeEventAliases),
    timestampMs fromisoformat (firstPresent row localReceiveAliases) with
  | some exchangeMs, some localWallMs =>
      if localWallMs + 10 < exchangeMs then
        { findings with negativeLatencyCount := findings.negativeLatencyCount + 1
          }.appendViolation ⟨fileName, some lineNumber, "exchange_time_after_local_receive_time"⟩
      else findings
  | _, _ => findings

/-- Count the leaks of the labels of a row. -/
def auditLabels (fileName : String) (lineNumber : ℕ) (row : Json)
    (findings : TimestampFindings) : TimestampFindings :=
  let (leakCount, verifiable) := labelTimestampFindings fromisoformat row
  let counted :=
    { findings with
      futureTimestampLeakCount := findings.futureTimestampLeakCount + leakCount }
  let sampled :=
    if leakCount = 0 then counted
    else counted.appendViolation ⟨fileName, some lineNumber, "future_label_timestamp_leak"⟩
  { sampled with horizonVerifiable := sampled.horizonVerifiable || verifiable }

/-- Audit a line; lines that hold no row are passed over. -/
def auditLine (fileName : String) (state : TimestampFindings × Option ℚ)
    (numbered : ℕ × FileLine) : TimestampFindings × Option ℚ :=
  match numbered.2.row? with
  | none => state
  | some row =>
      let (findings, previousReceive) :=
        auditReceive fromisoformat fileName numbered.1 row state
      (auditLabels fromisoformat fileName numbered.1 row
        (auditLatency fromisoformat fileName numbered.1 row findings), previousReceive)

/-- Audit a file. -/
def auditFile (findings : TimestampFindings) (file : DatasetFile) (content : DatasetContent) :
    TimestampFindings :=
  let numbered := content.lines.zipIdx.map fun e => (e.2 + 1, e.1)
  let read := (numbered.foldl (auditLine fromisoformat file.fileName) (findings, none)).1
  match content.readError with
  | none => read
  | some exc => read.appendViolation ⟨file.fileName, none, "read_error:" ++ exc⟩

/-- The files of a session that are read. -/
def auditedFiles (files : DatasetFile → Option DatasetContent) : List DatasetFile :=
  let selectedLabel := DatasetFile.labels.find? fun file => (files file).isSome
  DatasetFile.required.filter fun file =>
    (file ∉ DatasetFile.labels || selectedLabel = some file) && (files file).isSome

/-- A session whose files are audited. -/
structure SessionLineage where
  sessionId : String
  sessionClass : String

/-- What the audit of a session reports. -/
structure SessionTimestampAudit where
  sessionId : String
  sessionClass : String
  monotonicViolationCount : ℕ
  negativeLatencyCount : ℕ
  futureTimestampLeakCount : ℕ
  clockDriftStatus : String
  clockSampleQualityStatus : String
  sessionBoundaryOverlapCount : ℕ := 0
  horizon100msTimestampVerifiable : Bool
  sampleViolations : List SampleViolation
  timestampStatus : String
  hardFailReasons : List String

/-- The first value that is a boolean. -/
def firstBool (values : List Json) : Option Bool :=
  values.findSome? fun
    | .bool b => some b
    | _ => none

/-- What is wrong with the times of a session. -/
def timestampStatusReasons (findings : TimestampFindings)
    (clockDriftValid clockSampleQualityValid : Option Bool) : List String :=
  (if findings.monotonicViolationCount = 0 then [] else ["monotonic_receive_time_violation"]) ++
  (if findings.negativeLatencyCount = 0 then []
    else ["negative_latency_or_mixed_clock_violation"]) ++
  (if findings.futureTimestampLeakCount = 0 then [] else ["future_timestamp_leak_detected"]) ++
  (if clockDriftValid = some false then ["clock_offset_drift_invalid"] else []) ++
  (if clockSampleQualityValid = some false then ["clock_sample_quality_invalid"] else []) ++
  (if findings.horizonVerifiable then [] else ["horizon_100ms_timestamp_not_verifiable"])

/-- Audit the times of a session from its files and two reports. -/
def auditSession (session : SessionLineage) (hotpath clockSanity : Json)
    (files : DatasetFile → Option DatasetContent) : SessionTimestampAudit :=
  let clockSummary := (hotpath.get "clock_offset_summary").asDict
  let checks := (hotpath.get "checks").asDict
  let clockDriftValid := firstBool
    [clockSummary.get "clock_offset_drift_valid", clockSanity.get "clock_offset_drift_valid",
      checks.get "clock_offset_drift_valid"]
  let clockSampleQualityValid := firstBool
    [clockSummary.get "clock_offset_sample_quality_valid",
      clockSanity.get "clock_sample_quality_valid",
      checks.get "clock_offset_sample_quality_valid"]
  let findings := (auditedFiles files).foldl (fun findings file =>
    match files file with
    | none => findings
    | some content => auditFile fromisoformat findings file content) {}
  let statusReasons := timestampStatusReasons findings clockDriftValid clockSampleQualityValid
  let hardReasons := statusReasons.filter fun reason =>
    reason ≠ "horizon_100ms_timestamp_not_verifiable"
  { sessionId := session.sessionId
    sessionClass := session.sessionClass
    monotonicViolationCount := findings.monotonicViolationCount
    negativeLatencyCount := findings.negativeLatencyCount
    futureTimestampLeakCount := findings.futureTimestampLeakCount
    clockDriftStatus := if clockDriftValid = some false then "fail" else "pass"
    clockSampleQualityStatus := if clockSampleQualityValid = some false then "fail" else "pass"
    horizon100msTimestampVerifiable := findings.horizonVerifiable
    sampleViolations := findings.sampleViolations
    timestampStatus :=
      if hardReasons ≠ [] then "fail" else if statusReasons ≠ [] then "partial" else "pass"
    hardFailReasons := statusReasons }

end Dates

/-! ### How converted times compare -/

/-- How many of the unit a counter is taken for make a millisecond. -/
def unitsPerMs (n : ℤ) : ℤ :=
  if |n| > 10 ^ 17 then 1000000 else if |n| > 10 ^ 14 then 1000 else 1

theorem unitsPerMs_pos (n : ℤ) : 0 < unitsPerMs n := by
  rw [unitsPerMs]
  split_ifs <;> norm_num

/-- A counter is converted by the unit it is taken for. -/
theorem numericTimestampToMs_intCast (n : ℤ) :
    numericTimestampToMs n = n / (unitsPerMs n : ℚ) := by
  have hbound (k : ℕ) : |(n : ℚ)| > 10 ^ k ↔ |n| > 10 ^ k := by
    rw [gt_iff_lt, gt_iff_lt, ← Int.cast_abs]
    exact_mod_cast Iff.rfl
  rw [numericTimestampToMs, unitsPerMs]
  simp only [hbound]
  split_ifs <;> simp

/-- A counter in milliseconds. -/
def counterMs (n : ℤ) : ℚ := numericTimestampToMs n

/-- A counter that decreases once converted. -/
def SeemsToFall (a b : ℤ) : Prop := counterMs b < counterMs a

instance (a b : ℤ) : Decidable (SeemsToFall a b) := inferInstanceAs (Decidable (_ < _))

/-- Two converted counters compare as if each had the unit it is taken for. -/
theorem seemsToFall_iff (a b : ℤ) :
    SeemsToFall a b ↔ b * unitsPerMs a < a * unitsPerMs b := by
  have ha : (0 : ℚ) < unitsPerMs a := by exact_mod_cast unitsPerMs_pos a
  have hb : (0 : ℚ) < unitsPerMs b := by exact_mod_cast unitsPerMs_pos b
  rw [SeemsToFall, counterMs, counterMs, numericTimestampToMs_intCast,
    numericTimestampToMs_intCast, div_lt_div_iff₀ hb ha]
  exact_mod_cast Iff.rfl

/-- A counter that does not decrease, but seems to. -/
def RisesAsFall (a b : ℤ) : Prop := a ≤ b ∧ b * unitsPerMs a < a * unitsPerMs b

/-- A counter that decreases, but does not seem to. -/
def FallsAsRise (a b : ℤ) : Prop := b < a ∧ a * unitsPerMs b ≤ b * unitsPerMs a

instance (a b : ℤ) : Decidable (RisesAsFall a b) := inferInstanceAs (Decidable (_ ∧ _))

instance (a b : ℤ) : Decidable (FallsAsRise a b) := inferInstanceAs (Decidable (_ ∧ _))

/-- Counters that are taken for the same unit are compared right. -/
theorem not_misjudged_of_unitsPerMs_eq {a b : ℤ} (h : unitsPerMs a = unitsPerMs b) :
    ¬ RisesAsFall a b ∧ ¬ FallsAsRise a b := by
  have hpos := unitsPerMs_pos b
  constructor
  · rintro ⟨hle, hlt⟩
    rw [h] at hlt
    exact absurd (lt_of_mul_lt_mul_right hlt hpos.le) hle.not_gt
  · rintro ⟨hlt, hle⟩
    rw [h] at hle
    exact absurd (le_of_mul_le_mul_right hle hpos) hlt.not_ge

/-- A comparison comes out right exactly when the pair is not one of those. -/
theorem seemsToFall_iff_lt_iff (a b : ℤ) :
    (SeemsToFall a b ↔ b < a) ↔ ¬ RisesAsFall a b ∧ ¬ FallsAsRise a b := by
  rw [seemsToFall_iff, RisesAsFall, FallsAsRise, ← not_lt, ← not_lt]
  tauto

/-! ### Adjacent counters -/

/-- How many adjacent elements of a list are related. -/
def adjacentCount (p : ℤ → ℤ → Prop) [∀ a b, Decidable (p a b)] (xs : List ℤ) : ℕ :=
  (xs.zip xs.tail).countP fun e => p e.1 e.2

section Adjacent

variable (p : ℤ → ℤ → Prop) [∀ a b, Decidable (p a b)]

@[simp] theorem adjacentCount_nil : adjacentCount p [] = 0 := rfl

@[simp] theorem adjacentCount_singleton (a : ℤ) : adjacentCount p [a] = 0 := rfl

theorem adjacentCount_cons_cons (a b : ℤ) (xs : List ℤ) :
    adjacentCount p (a :: b :: xs) =
      adjacentCount p (b :: xs) + if p a b then 1 else 0 := by
  simp [adjacentCount, List.countP_cons]

end Adjacent

/-- The converted counters that decrease and those missed are those that decrease and those
added. -/
theorem adjacentCount_seemsToFall (xs : List ℤ) :
    adjacentCount SeemsToFall xs + adjacentCount FallsAsRise xs =
      adjacentCount (· > ·) xs + adjacentCount RisesAsFall xs := by
  have hpair (a b : ℤ) :
      ((if SeemsToFall a b then 1 else 0) + if FallsAsRise a b then 1 else 0) =
        (if a > b then 1 else 0) + if RisesAsFall a b then 1 else 0 := by
    simp only [seemsToFall_iff, gt_iff_lt, RisesAsFall, FallsAsRise]
    by_cases hlt : b < a <;> by_cases hconv : b * unitsPerMs a < a * unitsPerMs b <;>
      simp [hlt, hconv, not_lt.mp, not_le.mpr]
  induction xs with
  | nil => rfl
  | cons a xs ih =>
      cases xs with
      | nil => rfl
      | cons b xs =>
          have hab := hpair a b
          simp only [adjacentCount_cons_cons]
          omega

/-! ### The count of the audit -/

/-- A row whose receive time is an integer counter, in no other field. -/
structure CarriesCounter (row : Json) (n : ℤ) : Prop where
  counter : row.get "local_recv_monotonic_ns" = .int n
  alone : ∀ field ∈ monotonicReceiveAliases, field ≠ "local_recv_monotonic_ns" →
    row.get field = .null

section Counts

variable (fromisoformat : String → Option ℚ)

@[simp] theorem timestampMs_int (n : ℤ) :
    timestampMs fromisoformat (.int n) = some (counterMs n) := rfl

@[simp] theorem timestampMs_null : timestampMs fromisoformat .null = none := rfl

/-- The receive time found in a row is its counter. -/
theorem CarriesCounter.firstPresent {row : Json} {n : ℤ} (h : CarriesCounter row n) :
    firstPresent row monotonicReceiveAliases = .int n := by
  have hfirst := h.alone "monotonic_receive_time" (by decide) (by decide)
  simp [SomethingTrade.firstPresent, monotonicReceiveAliases, hfirst, h.counter, Json.isNull]

/-- A sample is no count. -/
@[simp] theorem appendViolation_monotonicViolationCount (findings : TimestampFindings)
    (violation : SampleViolation) :
    (findings.appendViolation violation).monotonicViolationCount =
      findings.monotonicViolationCount := by
  rw [TimestampFindings.appendViolation]
  split <;> rfl

@[simp] theorem auditLatency_monotonicViolationCount (fileName : String) (lineNumber : ℕ)
    (row : Json) (findings : TimestampFindings) :
    (auditLatency fromisoformat fileName lineNumber row findings).monotonicViolationCount =
      findings.monotonicViolationCount := by
  rw [auditLatency]
  split
  · split <;> simp
  · rfl

@[simp] theorem auditLabels_monotonicViolationCount (fileName : String) (lineNumber : ℕ)
    (row : Json) (findings : TimestampFindings) :
    (auditLabels fromisoformat fileName lineNumber row findings).monotonicViolationCount =
      findings.monotonicViolationCount := by
  simp only [auditLabels]
  split <;> simp

/-- A row is compared with the counter before it, and its own counter is kept. -/
theorem CarriesCounter.auditReceive {row : Json} {n : ℤ} (h : CarriesCounter row n)
    (fileName : String) (lineNumber : ℕ) (findings : TimestampFindings) (previous : Option ℤ) :
    ∃ next : TimestampFindings,
      SomethingTrade.auditReceive fromisoformat fileName lineNumber row
        (findings, previous.map counterMs) =
          (next, some (counterMs n)) ∧
      next.monotonicViolationCount = findings.monotonicViolationCount +
        adjacentCount SeemsToFall (previous.toList ++ [n]) := by
  rw [SomethingTrade.auditReceive, h.firstPresent, timestampMs_int]
  cases previous with
  | none => exact ⟨findings, by simp [looksBack], by simp⟩
  | some m =>
      by_cases hlt : counterMs n < counterMs m
      · refine ⟨_, by simp only [Option.map_some, looksBack, hlt]; rfl, ?_⟩
        simp [adjacentCount_cons_cons, SeemsToFall, hlt]
      · exact ⟨findings, by simp [looksBack, hlt],
          by simp [adjacentCount_cons_cons, SeemsToFall, hlt]⟩

/-- Auditing the lines of a file counts the adjacent counters that decrease once converted. -/
theorem foldl_auditLine_monotonicViolationCount (fileName : String) {counters : List ℤ}
    {numbered : List (ℕ × FileLine)}
    (h : List.Forall₂ CarriesCounter (numbered.filterMap fun e => e.2.row?) counters)
    (findings : TimestampFindings) (previous : Option ℤ) :
    (numbered.foldl (auditLine fromisoformat fileName)
        (findings, previous.map counterMs)).1.monotonicViolationCount =
      findings.monotonicViolationCount +
        adjacentCount SeemsToFall (previous.toList ++ counters) := by
  induction numbered generalizing findings previous counters with
  | nil =>
      obtain rfl : counters = [] := List.forall₂_nil_left_iff.mp h
      cases previous <;> simp
  | cons e numbered ih =>
      rcases hrow : e.2.row? with _ | row
      · simp only [List.filterMap_cons, hrow] at h
        simpa only [List.foldl_cons, auditLine, hrow] using ih h findings previous
      · simp only [List.filterMap_cons, hrow] at h
        obtain ⟨n, counters, hn, hrest, rfl⟩ := List.forall₂_cons_left_iff.mp h
        obtain ⟨next, hnext, hcount⟩ :=
          hn.auditReceive fromisoformat fileName e.1 findings previous
        have hlast := ih hrest (auditLabels fromisoformat fileName e.1 row
          (auditLatency fromisoformat fileName e.1 row next)) (some n)
        simp only [List.foldl_cons, auditLine, hrow, hnext]
        simp only [Option.map_some] at hlast
        rw [hlast, auditLabels_monotonicViolationCount, auditLatency_monotonicViolationCount,
          hcount]
        cases previous with
        | none => simp
        | some m => simp [adjacentCount_cons_cons]; omega

/-- The counters of the rows of the files that are read. -/
def CarryCounters (files : DatasetFile → Option DatasetContent)
    (counters : DatasetFile → List ℤ) : Prop :=
  ∀ file content, files file = some content →
    List.Forall₂ CarriesCounter (fileRows content.lines) (counters file)

/-- Auditing a file adds its adjacent counters that decrease once converted. -/
theorem auditFile_monotonicViolationCount {content : DatasetContent} {counters : List ℤ}
    (h : List.Forall₂ CarriesCounter (fileRows content.lines) counters)
    (findings : TimestampFindings) (file : DatasetFile) :
    (auditFile fromisoformat findings file content).monotonicViolationCount =
      findings.monotonicViolationCount +
        adjacentCount SeemsToFall counters := by
  have hrows : (content.lines.zipIdx.map fun e => (e.2 + 1, e.1)).filterMap
      (fun e => e.2.row?) = fileRows content.lines := by
    rw [List.filterMap_map, fileRows]
    conv_rhs => rw [← List.zipIdx_map_fst 0 content.lines, List.filterMap_map]
    rfl
  have hcount := foldl_auditLine_monotonicViolationCount fromisoformat file.fileName
    (hrows.symm ▸ h) findings none
  simp only [Option.map_none, Option.toList_none, List.nil_append] at hcount
  simp only [auditFile]
  split <;> simp [hcount]

/-- **The audit counts the adjacent counters that decrease once converted.** -/
theorem auditSession_monotonicViolationCount (session : SessionLineage)
    (hotpath clockSanity : Json) {files : DatasetFile → Option DatasetContent}
    {counters : DatasetFile → List ℤ} (h : CarryCounters files counters) :
    (auditSession fromisoformat session hotpath clockSanity files).monotonicViolationCount =
      ((auditedFiles files).map fun file => adjacentCount SeemsToFall (counters file)).sum := by
  have hpresent : ∀ file ∈ auditedFiles files, (files file).isSome := by
    intro file hfile
    simpa using (Bool.and_eq_true_iff.mp (List.mem_filter.mp hfile).2).2
  have hfold : ∀ (audited : List DatasetFile) (findings : TimestampFindings),
      (∀ file ∈ audited, (files file).isSome) →
      (audited.foldl (fun findings file =>
        match files file with
        | none => findings
        | some content => auditFile fromisoformat findings file content)
          findings).monotonicViolationCount =
        findings.monotonicViolationCount + (audited.map fun file =>
          adjacentCount SeemsToFall (counters file)).sum := by
    intro audited
    induction audited with
    | nil => simp
    | cons file audited ih =>
        intro findings hsome
        obtain ⟨content, hcontent⟩ := Option.isSome_iff_exists.mp (hsome file (by simp))
        rw [List.foldl_cons, ih _ fun file hfile => hsome file (by simp [hfile])]
        simp only [hcontent, auditFile_monotonicViolationCount fromisoformat (h file _ hcontent),
          List.map_cons, List.sum_cons]
        omega
  simpa [auditSession] using hfold (auditedFiles files) {} hpresent

/-! ### When counters are judged right -/

/-- A label that has, by itself or from its row, two receive times as counters, and no time of
the exchange ahead. -/
structure CarriesReceiveTimes (row label : Json) (feature future : ℤ) : Prop where
  feature_eq : (row.get "local_recv_monotonic_ns").orElse
    (label.get "feature_local_recv_monotonic_ns") = .int feature
  future_eq : (label.get "future_reference_local_recv_monotonic_ns").orElse
    (label.get "target_local_recv_monotonic_ns") = .int future
  future_exchange : label.get "future_reference_exchange_ts_ms" = .null
  target_exchange : label.get "target_exchange_ts_ms" = .null

/-- Such a label is called a leak when its counters seem to fall. -/
theorem CarriesReceiveTimes.leak_iff {row label : Json} {feature future : ℤ}
    (h : CarriesReceiveTimes row label feature future) :
    (singleLabelTimestampFindings fromisoformat row label).1 > 0 ↔
      SeemsToFall feature future := by
  have hnone : (Json.null).orElse .null = .null := rfl
  simp only [singleLabelTimestampFindings, h.feature_eq, h.future_eq, h.future_exchange,
    h.target_exchange, hnone, timestampMs_int, timestampMs_null, looksBack_none]
  by_cases hlt : counterMs future < counterMs feature <;> simp [looksBack, SeemsToFall, hlt]

end Counts

/-! ### A counter past a bound -/

/-- A row with a counter. -/
def counterRow (n : ℤ) : Json := .obj [("local_recv_monotonic_ns", .int n)]

theorem carriesCounter_counterRow (n : ℤ) : CarriesCounter (counterRow n) n where
  counter := rfl
  alone := by
    intro field hfield hne
    simp [counterRow, Json.get, Json.get?, Json.lookup, hne.symm]

/-- A session with one file of samples, whose counters pass the first bound. -/
def pastBound : DatasetFile → Option DatasetContent
  | .orderbookCleanSamples => some
      ⟨[.decoded (counterRow (10 ^ 14)), .decoded (counterRow (10 ^ 14 + 1))], none⟩
  | _ => none

/-- The counters of these files. -/
def pastBoundCounters (_ : DatasetFile) : List ℤ := [10 ^ 14, 10 ^ 14 + 1]

theorem carryCounters_pastBound : CarryCounters pastBound pastBoundCounters := by
  intro file content hcontent
  cases file with
  | orderbookCleanSamples =>
      obtain rfl := Option.some.inj hcontent
      exact .cons (carriesCounter_counterRow _) (.cons (carriesCounter_counterRow _) .nil)
  | _ => cases hcontent

end SomethingTrade
