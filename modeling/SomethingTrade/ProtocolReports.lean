import SomethingTrade.ReportEvaluation
import SomethingTrade.SourceMetrics

/-!
# Reports of the Time Protocols

Three reports are evaluated in one way: the report of the time protocols, that of the corrected
receive lag, and that of the readiness for low latency. Each evaluation checks the fields of the
report, then how it was made, then what was measured, and sets the statuses by what it found.

## Representation

* A status that an evaluation never reads again is set by a `StatusRule`; a check that reads a
  status reads the text it starts from, and says how the findings before it count.
* Whether two values are one object is a parameter where the source compares by identity; values
  that exist once are compared as they are.

## Main results

* `isStatus_text`: a value is a status exactly when its text is.
* `ReportSchema.errorsOf_of_evaluated`: which errors of a schema a written report still has.
-/

namespace SomethingTrade

/-! ### Readers -/

/-- `_num(value)`. -/
def Json.num (value : Json) : ℚ := value.toFinite?.getD 0

/-- Whether a value is the gap that is required. -/
def isRequiredGap (value : Json) : Bool := value.asNumber? = some labelMaxFutureGapMs

/-- `int(metrics.get("max_future_gap_ms", -1) or -1)`. -/
def statedGap (metrics : Json) : Except String ℤ :=
  match (metrics.getD "max_future_gap_ms" (.int (-1))).orElse (.int (-1)) with
  | .bool b => .ok (if b then 1 else 0)
  | .int n => .ok n
  | .float q => .ok (q.num.tdiv q.den)
  | .str s =>
      match Decimal.intOfText s with
      | some n => .ok n
      | none => .error "ValueError"
  | _ => .error "TypeError"

/-- The budgets of the hybrid protocol, in milliseconds. -/
def hybridBudgetsMs : List ℕ := [25, 50, 100, 250]

/-- A finding about the implementation. -/
def implementationFailure (reason classification : String)
    (named : classification ≠ "" := by exact IsNamed.ne_empty _ trivial) : Finding :=
  ⟨reason, classification, .implementation, named⟩

/-- A finding about what was measured. -/
def generalFailure (reason classification : String)
    (named : classification ≠ "" := by exact IsNamed.ne_empty _ trivial) : Finding :=
  ⟨reason, classification, .unspecified, named⟩

/-- Whether a value is a status. -/
def isStatus : Json → Bool
  | .str s => s = "pass" || s = "fail"
  | _ => false

/-! ### Schemas -/

/-- The schema of a report: the fields it must have, the fields with statuses, and its other
errors. -/
structure ReportSchema where
  required : List String
  statuses : List String
  others : Json → List String

namespace ReportSchema

/-- The errors of fields that are missing. -/
def missing (fields : List String) (report : Json) : List String :=
  (fields.filter fun field => (report.get? field).isNone).map ("missing required field: " ++ ·)

/-- The errors of statuses that are no status. -/
def invalid (fields : List String) (report : Json) : List String :=
  (fields.filter fun field => (report.get? field).any fun value => !isStatus value).map
    ("invalid status field: " ++ ·)

/-- The errors of a report. -/
def errorsOf (schema : ReportSchema) (report : Json) : List String :=
  missing schema.required report ++ invalid schema.statuses report ++ schema.others report

/-- Validate a report. A status is looked up in a set, so it must be hashable. -/
def validate (schema : ReportSchema) (report : Json) : Except String (List String) :=
  if schema.statuses.all fun field => isHashable (report.get field) then
    .ok (schema.errorsOf report)
  else
    .error "TypeError"

/-- The errors that are left when some fields have been written and some statuses with them. -/
def lastingErrors (schema : ReportSchema) (written : List String) (lasts : String → Bool)
    (report : Json) : List String :=
  missing (schema.required.filter (· ∉ written)) report ++
    invalid (schema.statuses.filter lasts) report ++ schema.others report

section Written

variable {schema : ReportSchema} {written : List String} {lasts : String → Bool}
  {report evaluated : Json}

/-- Errors that are left were there. -/
theorem mem_errorsOf_of_lasting {error : String}
    (h : error ∈ schema.lastingErrors written lasts report) : error ∈ schema.errorsOf report := by
  simp only [lastingErrors, errorsOf, List.mem_append] at h ⊢
  rcases h with (h | h) | h
  · exact Or.inl (Or.inl ((List.filter_sublist.filter _).map _ |>.subset h))
  · exact Or.inl (Or.inr ((List.filter_sublist.filter _).map _ |>.subset h))
  · exact Or.inr h

/-- **The errors of a written report** are those that are left of the report before. -/
theorem errorsOf_of_written (hunwritten : ∀ k, k ∉ written → evaluated.get? k = report.get? k)
    (hwritten : ∀ k ∈ written, (evaluated.get? k).isSome = true)
    (hstatus : ∀ k ∈ schema.statuses, ((evaluated.get? k).any fun value => !isStatus value) =
      (lasts k && (report.get? k).any fun value => !isStatus value))
    (hothers : schema.others evaluated = schema.others report) :
    schema.errorsOf evaluated = schema.lastingErrors written lasts report := by
  have hmissing : missing schema.required evaluated =
      missing (schema.required.filter (· ∉ written)) report := by
    rw [missing, missing, List.filter_filter]
    refine congrArg _ (List.filter_congr fun k _ => ?_)
    by_cases hk : k ∈ written
    · have hsome := hwritten k hk
      simp [hk, hsome]
    · simp [hk, hunwritten k hk]
  have hinvalid : invalid schema.statuses evaluated =
      invalid (schema.statuses.filter lasts) report := by
    rw [invalid, invalid, List.filter_filter]
    refine congrArg _ (List.filter_congr fun k hk => ?_)
    rw [hstatus k hk, Bool.and_comm]
  rw [errorsOf, lastingErrors, hmissing, hinvalid, hothers]

/-- Statuses that were written are hashable, and so are the others if they were. -/
theorem validate_of_written {errors : List String} (h : schema.validate report = .ok errors)
    (evaluated : Json) (hhashable : ∀ k ∈ schema.statuses, isHashable (report.get k) = true →
      isHashable (evaluated.get k) = true) :
    errors = schema.errorsOf report ∧ schema.validate evaluated = .ok (schema.errorsOf evaluated) := by
  rw [validate] at h
  split at h
  · rename_i hall
    refine ⟨(Except.ok.inj h).symm, if_pos (List.all_eq_true.mpr fun k hk => ?_)⟩
    exact hhashable k hk (List.all_eq_true.mp hall k hk)
  · cases h

end Written

end ReportSchema

/-! ### Statuses that were written -/

/-- A value is a status exactly when its text is: no other value prints as one. -/
theorem isStatus_text (j : Json) : isStatus (.str j.text) = isStatus j := by
  have hnumber (q : ℚ) : isStatus (.str (Decimal.formatF q)) = false := by
    have hchar {s : String} {c : Char} (hc : c ∈ s.toList) (hs : Decimal.formatF q = s) :
        Decimal.IsNumeral c :=
      Decimal.isNumeral_of_mem_formatF q c (hs ▸ hc)
    have hp : ¬ Decimal.IsNumeral 'p' := by
      rintro (h | h | h) <;> revert h <;> decide
    have hf : ¬ Decimal.IsNumeral 'f' := by
      rintro (h | h | h) <;> revert h <;> decide
    have hpass : Decimal.formatF q ≠ "pass" := fun hs => hp (hchar (by decide) hs)
    have hfail : Decimal.formatF q ≠ "fail" := fun hs => hf (hchar (by decide) hs)
    simp [isStatus, hpass, hfail]
  have hbracket (c : Char) (hc : c ≠ 'p' ∧ c ≠ 'f') (s : String) (hs : s.toList.head? = some c) :
      isStatus (.str s) = false := by
    have hpass : s ≠ "pass" := by
      rintro rfl
      exact hc.1 (Option.some.inj hs).symm
    have hfail : s ≠ "fail" := by
      rintro rfl
      exact hc.2 (Option.some.inj hs).symm
    simp [isStatus, hpass, hfail]
  cases j with
  | null => rfl
  | bool b => cases b <;> rfl
  | int n => exact hnumber n
  | float q => exact hnumber q
  | str s => rfl
  | arr items => exact hbracket '[' (by decide) _ (by simp [Json.text, Json.repr])
  | obj fields => exact hbracket (Char.ofNat 0x7b) (by decide) _ (by simp [Json.text, Json.repr])

/-- The text of a status is no status exactly when the status is none. -/
theorem invalid_text_getD {report : Json} {field default : String}
    (hdefault : isStatus (.str default) = true) :
    (!isStatus (.str (report.getD field (.str default)).text)) =
      (report.get? field).any fun value => !isStatus value := by
  rw [Json.getD]
  cases report.get? field with
  | none => simp [Json.text, hdefault]
  | some value => simp [isStatus_text]

namespace StatusRule

variable {report evaluated : Json} {listed : List String} {found : List Finding}
  {field default : String} {fails : Finding → Bool}

/-- A status that was kept is invalid if it was and nothing failed it. -/
theorem invalid_of_kept (hdefault : isStatus (.str default) = true)
    (h : evaluated.get? field = some (.str ((kept field default fails).ending report listed found))) :
    ((evaluated.get? field).any fun value => !isStatus value) =
      (!found.any fails && (report.get? field).any fun value => !isStatus value) := by
  rw [h, Option.any_some]
  cases hany : found.any fails with
  | true =>
      rw [ending_of_fails hany]
      rfl
  | false =>
      rw [ending_of_not_fails hany, Bool.not_false, Bool.true_and]
      have hstart : (kept field default fails).settle listed
          ((kept field default fails).start report) = (report.getD field (.str default)).text := rfl
      rw [hstart, invalid_text_getD hdefault]

/-- A status that started anew is valid. -/
theorem invalid_of_renewed
    (h : evaluated.get? field = some (.str ((renewed field fails).ending report listed found))) :
    ((evaluated.get? field).any fun value => !isStatus value) = false := by
  rw [h, Option.any_some]
  cases hany : found.any fails with
  | true =>
      rw [ending_of_fails hany]
      rfl
  | false =>
      rw [ending_of_not_fails hany]
      rfl

end StatusRule

/-- What the errors of a schema count as. -/
def schemaFindings (errors : List String) : List Finding :=
  errors.map fun error =>
    implementationFailure ("report schema invalid: " ++ error) "REPORT_SCHEMA_FAILURE"

/-! ### The report of the time protocols -/

/-- The fields that the report must have, sorted. -/
def phase42dRequiredReportFields : List String :=
  ["exchange_time_coverage_status", "failure_classifications", "hard_fail_reasons", "horizon_ms",
    "hybrid_low_latency_status", "implementation_status", "input_timestamp_schema_status",
    "low_latency_ready", "max_future_gap_ms", "phase", "primary_failure",
    "protocol_decision_status", "protocol_summary", "receive_time_coverage_status",
    "selected_protocol_candidate", "sources", "status", "symbol", "warning_reasons"]

/-- The errors of sources that are not objects or lack a key. -/
def sourceErrors (keys : List String) (sources : Json) : List String :=
  if isDict sources then
    ReferenceSource.all.flatMap fun source =>
      let sourceReport := sources.get source.name
      if isDict sourceReport then
        (keys.filter fun key => (sourceReport.get? key).isNone).map fun key =>
          "missing " ++ source.name ++ " field: " ++ key
      else
        ["missing source: " ++ source.name]
  else
    ["sources must be an object"]

/-- Whether a report says that phase 5 is ready, or is not. -/
def mentionsPhase5 (report : Json) : Bool :=
  (report.get? "phase5_ready").isSome || (report.get? "phase_5_ready").isSome

/-- The schema of the report of the time protocols. -/
def phase42dSchema : ReportSchema where
  required := phase42dRequiredReportFields
  statuses :=
    ["implementation_status", "input_timestamp_schema_status", "receive_time_coverage_status",
      "exchange_time_coverage_status", "hybrid_low_latency_status", "protocol_decision_status"]
  others report :=
    (if (report.get "horizon_ms").asNumber? = some (labelHorizonMs : ℚ) then []
      else ["horizon_ms must be 100"]) ++
    (if isRequiredGap (report.get "max_future_gap_ms") then []
      else ["max_future_gap_ms must be 100"]) ++
    sourceErrors ["receive_time", "exchange_time", "hybrid", "receive_lag_telemetry"]
      (report.get "sources") ++
    (if mentionsPhase5 report then ["Phase 5 readiness flag is forbidden in Phase 4.2D"] else [])

/-- Validate the report of the time protocols. -/
def validatePhase42dReportSchema (report : Json) : Except String (List String) :=
  phase42dSchema.validate report

/-- What is found about the tests of a report. -/
def testFindings (gitignoreReason : String) (report : Json) : List Finding :=
  findWhen (!(report.get "pytest_passed").isTrue)
    (implementationFailure "pytest failed" "TEST_FAILURE") ++
  findWhen (!(report.get "typecheck_passed").isTrue)
    (implementationFailure "typecheck/compileall failed" "TYPECHECK_FAILURE") ++
  findWhen (!((report.get "gitignore_validation").asDict.get "passed").isTrue)
    (implementationFailure gitignoreReason "GITIGNORE_POLICY_FAILURE")

/-- What is found about the capture, when a new one is required. -/
def freshFindings (required : Bool) (report : Json) : List Finding :=
  findWhen (required && (!(report.get "fresh_capture_performed").isTrue ||
      (report.get "fixture_mode").isTrue || (report.get "skip_capture").isTrue))
    (generalFailure "fresh 30-minute capture was not performed" "FRESH_CAPTURE_NOT_PERFORMED") ++
  findWhen (required && (report.get "duration_sec").num < 1800)
    (generalFailure "fresh capture duration_sec < 1800" "FRESH_CAPTURE_DURATION_FAILURE")

/-- What is found about the samples. -/
def sampleFindings (unlabeledReason : String) (report : Json) : List Finding :=
  findWhen ((report.get "clean_sample_count").num ≤ 0)
    (generalFailure "input clean sample dataset missing or empty" "INPUT_DATASET_FAILURE") ++
  findWhen ((report.get "labeled_sample_count").num ≤ 0)
    (generalFailure unlabeledReason "INPUT_DATASET_FAILURE")

/-- What is found about how the report of the time protocols was made. -/
def makingFindings42d (report : Json) : List Finding :=
  let freshRequired := (report.getD "fresh_capture_required" (.bool true)).truthy
  testFindings "generated JSONL/heavy artifact .gitignore rules missing" report ++
  findWhen (freshRequired && !(report.get "cleanup_performed").isTrue)
    (implementationFailure "old generated artifacts were not cleaned before final run"
      "ARTIFACT_CLEANUP_FAILURE") ++
  freshFindings freshRequired report ++
  sampleFindings "time protocol benchmark labels were not generated" report ++
  findWhen ((report.get "horizon_ms").asNumber? ≠ some (labelHorizonMs : ℚ) ||
      !isRequiredGap (report.get "max_future_gap_ms"))
    (implementationFailure "100ms horizon/max_future_gap_ms policy was relaxed"
      "HORIZON_100MS_POLICY_RELAXED") ++
  findWhen (!(report.get "future_receive_lag_hard_gate_used").isFalse)
    (implementationFailure "future_receive_lag_ms was used as a hard validity gate"
      "HYBRID_PROTOCOL_FAILURE")

/-- Whether the timestamps of the sources were validated. -/
def timestampsPass (report : Json) : Bool :=
  let timestampSchema := (report.get "timestamp_schema").asDict
  (timestampSchema.get "performed").isTrue && (timestampSchema.get "status").isText "pass"

/-- What is found about the timestamps. -/
def timestampFindings42d (report : Json) : List Finding :=
  findWhen (!timestampsPass report)
    (generalFailure "timestamp schema validation failed or found no exchange-time-capable source"
      "INPUT_TIMESTAMP_SCHEMA_FAILURE")

/-- What is found about a budget of the hybrid protocol. -/
def hybridFindings42d (source : ReferenceSource) (hybrid : Json) (budgetMs : ℕ) : List Finding :=
  let budgetKey := "hybrid_" ++ toString budgetMs ++ "ms"
  let metrics := (hybrid.get budgetKey).asDict
  findWhen (!metrics.truthy)
    (implementationFailure (source.name ++ " " ++ budgetKey ++ " hybrid protocol missing")
      "HYBRID_PROTOCOL_MISSING") ++
  findWhen (!(metrics.get "future_receive_lag_hard_gate_used").isFalse)
    (implementationFailure
      (source.name ++ " " ++ budgetKey ++ " used future_receive_lag_ms as hard gate")
      "HYBRID_PROTOCOL_FAILURE") ++
  findWhen (metrics.get? "feature_receive_lag_p95_ms").isNone
    (implementationFailure
      (source.name ++ " " ++ budgetKey ++ " missing feature_receive_lag telemetry")
      "HYBRID_PROTOCOL_FAILURE") ++
  findWhen (metrics.get? "cross_stream_receive_reorder_count").isNone
    (implementationFailure
      (source.name ++ " " ++ budgetKey ++ " missing cross-stream receive reorder count")
      "HYBRID_PROTOCOL_FAILURE")

/-- Whether the quotes of a source claim an exchange time that is none of the real ones. The field
is looked up in a set, so it must be hashable. -/
def fakeBooktickerTime (source : ReferenceSource) (sourceReport : Json) : Except String Bool :=
  let field := sourceReport.get "exchange_timestamp_field_used"
  if source = .bookTickerMid && (sourceReport.get "exchange_time_supported").isTrue then
    if isHashable field then .ok (!(field.isText "E" || field.isText "T"))
    else .error "TypeError"
  else
    .ok false

/-- Whether the exchange time of a source is taken from the receive time. -/
def fakeExchangeTime (sourceReport : Json) : Bool :=
  (sourceReport.get "exchange_time_supported").isTrue &&
    ((sourceReport.get "exchange_time").asDict.get "selection_time_basis").isText
      "local_recv_monotonic_ns"

/-- What is found about a source. -/
def sourceFindings42d (sources : Json) (source : ReferenceSource) :
    Except String (List Finding) := do
  let sourceReport := (sources.get source.name).asDict
  let receive := (sourceReport.get "receive_time").asDict
  let gap ← statedGap receive
  let fakeBookticker ← fakeBooktickerTime source sourceReport
  return findWhen (!receive.truthy)
      (implementationFailure (source.name ++ " receive-time protocol was not computed")
        "RECEIVE_TIME_PROTOCOL_MISSING") ++
    findWhen ((gap : ℚ) ≠ labelMaxFutureGapMs)
      (implementationFailure (source.name ++ " receive-time max_future_gap_ms != 100")
        "HORIZON_100MS_POLICY_RELAXED") ++
    findWhen ((sourceReport.get "exchange_time_supported").isTrue &&
        !(sourceReport.get "exchange_time").asDict.truthy)
      (implementationFailure (source.name ++ " exchange-time protocol missing")
        "EXCHANGE_TIME_PROTOCOL_MISSING") ++
    findWhen (fakeExchangeTime sourceReport)
      (implementationFailure (source.name ++ " exchange-time protocol uses local receive timestamp")
        "EXCHANGE_TIME_FAKE_TIMESTAMP") ++
    findWhen fakeBookticker
      (implementationFailure "bookTicker exchange-time support lacks real E/T timestamp"
        "BOOKTICKER_FAKE_EXCHANGE_TIMESTAMP") ++
    hybridBudgetsMs.flatMap (hybridFindings42d source (sourceReport.get "hybrid").asDict)

/-- What is found about leakage. -/
def leakageFindings (leakage : Json) : List Finding :=
  findWhen (!(leakage.get "performed").isTrue)
    (implementationFailure "leakage check missing" "LEAKAGE_FAILURE") ++
  findWhen ((leakage.get "feature_leakage_violations").num > 0)
    (generalFailure "feature leakage violations detected" "FEATURE_LEAKAGE_FAILURE") ++
  findWhen ((leakage.get "label_leakage_violations").num > 0)
    (generalFailure "label leakage violations detected" "LABEL_LEAKAGE_FAILURE")

/-- What is found about what the time protocols measured. -/
def measuredFindings42d (report : Json) : Except String (List Finding) := do
  let sources := (report.get "sources").asDict
  let found ← ReferenceSource.all.mapM (sourceFindings42d sources)
  return findWhen (!sources.truthy)
      (implementationFailure "sources missing from report" "REPORT_SCHEMA_FAILURE") ++
    found.flatten ++
    leakageFindings (report.get "leakage_check").asDict ++
    findWhen (!((report.get "clock_sanity_report").asDict.get "performed").isTrue)
      (implementationFailure "clock sanity report missing" "CLOCK_SANITY_FAILURE")

/-- Whether a status of a report is that it passed; a missing status is a failure. -/
def saysPass (field : String) (report : Json) : Bool :=
  (report.getD field (.str "fail")).text = "pass"

/-- What is found about the coverage. No finding before these fails the two statuses, and the
first of these leaves a status that did not pass. -/
def coverageFindings42d (exchangePasses hybridPasses : Bool) : List Finding :=
  findWhen (!exchangePasses)
    (generalFailure "no exchange-time source achieved valid_rate_eligible_rows >= 0.95"
      "EXCHANGE_TIME_COVERAGE_FAILURE") ++
  if exchangePasses && !hybridPasses then
    [generalFailure "exchange-time market coverage passed but hybrid live observability failed"
      "HYBRID_OBSERVABILITY_FAILURE"]
  else
    findWhen (!hybridPasses)
      (generalFailure "no hybrid budget achieved valid_rate_eligible_rows >= 0.95"
        "HYBRID_OBSERVABILITY_FAILURE")

/-- What is found about the decision. -/
def decisionFindings42d (report : Json) : List Finding :=
  findWhen (!(report.get "low_latency_ready").isTrue)
    (generalFailure "no low-latency-ready protocol candidate selected" "PROTOCOL_DECISION_FAILURE")

/-- What is found after the schema, in order, around what was measured. -/
def restFindings42d (report : Json) (measured : List Finding) : List Finding :=
  makingFindings42d report ++ timestampFindings42d report ++ measured ++
    coverageFindings42d (saysPass "exchange_time_coverage_status" report)
      (saysPass "hybrid_low_latency_status" report) ++
    decisionFindings42d report

/-- What the checks of the report of the time protocols find. -/
def findings42d (report : Json) : Except String (List Finding) := do
  let errors ← validatePhase42dReportSchema report
  let measured ← measuredFindings42d report
  return schemaFindings errors ++ restFindings42d report measured

/-- The evaluation of the report of the time protocols. -/
def phase42d : Evaluator where
  statuses :=
    [.renewed "implementation_status" fun f => f.domain = .implementation,
      .kept "input_timestamp_schema_status" "fail" fun f =>
        f.classification = "INPUT_TIMESTAMP_SCHEMA_FAILURE",
      .kept "receive_time_coverage_status" "fail" fun _ => false,
      .kept "exchange_time_coverage_status" "fail" fun f =>
        f.classification = "EXCHANGE_TIME_COVERAGE_FAILURE",
      .kept "hybrid_low_latency_status" "fail" fun f =>
        f.classification = "HYBRID_OBSERVABILITY_FAILURE",
      .kept "protocol_decision_status" "fail" fun f =>
        f.classification ∈ ["PROTOCOL_DECISION_FAILURE", "HYBRID_OBSERVABILITY_FAILURE",
          "EXCHANGE_TIME_COVERAGE_FAILURE"]]
  findings := findings42d
  warnings report _ :=
    if saysPass "exchange_time_coverage_status" report &&
        !saysPass "hybrid_low_latency_status" report then
      ["exchange_time_market_coverage_passed_but_hybrid_live_observability_failed"]
    else
      []

/-- Evaluate the report of the time protocols. -/
def evaluatePhase42dReport (report : Json) : Except String Json := phase42d.evaluate report

end SomethingTrade
