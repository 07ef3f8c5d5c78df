import SomethingTrade.HotPathReevaluation

/-!
# The Verdict on the Hot Path

The report of the hot path is judged by the evaluation that built it and by every evaluation after
that. A report that is built is consistent: the checks of the readiness repeat what the readiness
was computed from, so none of them finds anything.

## Main results

* `readinessFindings_built`: the checks of the readiness find nothing in a report that is built.
* `hotPath_verdict`: evaluations are stable, and reports that are built are consistent.
-/

namespace SomethingTrade

/-! ### Classifications of other findings -/

/-- The classifications of what is found besides the readiness. -/
def otherClassifications42h : List String :=
  ["REPORT_SCHEMA_FAILURE", "TEST_FAILURE", "TYPECHECK_FAILURE", "PREFLIGHT_FAILURE",
    "PHASE41_RUNTIME_STALE_RISK", "PHASE41_RUNTIME_REPORT_MISSING", "PHASE41_RUNTIME_FAILURE",
    "GITIGNORE_POLICY_FAILURE", "ARTIFACT_CLEANUP_FAILURE", "FRESH_CAPTURE_NOT_PERFORMED",
    "FRESH_CAPTURE_DURATION_FAILURE", "DURATION_GUARD_FAILURE", "CAPTURE_DURATION_EXCEEDED",
    "HORIZON_100MS_POLICY_RELAXED", "FUTURE_RECEIVE_LAG_GATE_FAILURE",
    "CLOCK_OFFSET_SAMPLE_QUALITY_FAILURE", "CLOCK_OFFSET_DRIFT_FAILURE", "SERVER_TIME_RTT_FAILURE",
    "HOT_PATH_DECOUPLING_INCOMPLETE", "QUEUE_DROPPED_MESSAGES_FAILURE",
    "WRITER_DROPPED_RECORDS_FAILURE", "WRITER_ERROR_FAILURE", "FEATURE_LEAKAGE_FAILURE",
    "LABEL_LEAKAGE_FAILURE", "PROTOCOL_REPORT_MISSING", "RECEIVE_TIME_PROTOCOL_MISSING",
    "EXCHANGE_TIME_PROTOCOL_MISSING", "CORRECTED_HYBRID_MISSING", "EXCHANGE_TIME_FAKE_TIMESTAMP",
    "BOOKTICKER_FAKE_EXCHANGE_TIMESTAMP"] ++ artifactClassifications

section Classified

variable {report : Json} {found : List Finding}

/-- What is found about the making of a report is no matter of the readiness. -/
theorem classifiedIn_makingFindings42h (report : Json) :
    ClassifiedIn otherClassifications42h (testFindings42h report ++ phase41Findings report ++
      artifactRuleFindings report ++ freshFindings42h report) := by
  have hguard : ClassifiedIn otherClassifications42h (guardFindings report) := by
    simp only [guardFindings]
    split
    · exact List.forall_mem_nil _
    · simp only [classifiedIn_append, classifiedIn_findWhen]
      exact ⟨⟨fun _ => by decide, fun _ => by simp [generalFailure, otherClassifications42h]⟩,
        fun _ => by simp [generalFailure, otherClassifications42h]⟩
  have hfresh : ClassifiedIn otherClassifications42h (freshFindings42h report) := by
    rw [freshFindings42h]
    split
    · rw [classifiedIn_append, classifiedIn_append, classifiedIn_findWhen, classifiedIn_findWhen]
      exact ⟨⟨fun _ => by decide, fun _ => by decide⟩, hguard⟩
    · exact List.forall_mem_nil _
  rw [classifiedIn_append]
  refine ⟨?_, hfresh⟩
  simp [testFindings42h, phase41Findings, artifactRuleFindings, cleanupFindings,
    classifiedIn_append, classifiedIn_findWhen, implementationFailure, generalFailure,
    otherClassifications42h]

theorem classifiedIn_clockFindings42fg (report : Json) :
    ClassifiedIn otherClassifications42h (clockFindings42fg report) := by
  simp only [clockFindings42fg, classifiedIn_append, classifiedIn_findWhen]
  refine ⟨?_, fun _ => by decide⟩
  rw [clockOffsetFindings]
  split
  · rw [classifiedIn_append, classifiedIn_findWhen]
    refine ⟨fun _ => by decide, ?_⟩
    split
    · exact List.forall_mem_singleton.mpr (by decide)
    · exact classifiedIn_findWhen.mpr fun _ => by decide
  · refine List.forall_mem_singleton.mpr ?_
    simp [generalFailure, otherClassifications42h]

theorem classifiedIn_profileFindings (h : profileFindings report = .ok found) :
    ClassifiedIn otherClassifications42h found := by
  rw [profileFindings] at h
  simp only [bind, Except.bind, pure, Except.pure] at h
  split at h
  · cases h
  split at h
  · cases h
  obtain rfl := Except.ok.inj h
  rw [classifiedIn_append, classifiedIn_findWhen]
  refine ⟨fun f hf => ?_, fun _ => by decide⟩
  obtain ⟨item, -, hmem⟩ := List.mem_flatMap.mp hf
  simp only [existingArtifactFindings] at hmem
  split at hmem
  · cases hmem
  split at hmem
  · rw [List.mem_singleton.mp hmem]
    decide
  · rw [List.mem_singleton.mp hmem]
    exact List.mem_append_right _ (existingArtifactFailureClassification_mem _)

theorem classifiedIn_sourceFindings42fg {sources : Json} {source : ReferenceSource}
    (h : sourceFindings42fg sources source = .ok found) :
    ClassifiedIn otherClassifications42h found := by
  simp only [sourceFindings42fg, bind, Except.bind, pure, Except.pure] at h
  split at h
  · obtain rfl := Except.ok.inj h
    refine List.forall_mem_singleton.mpr ?_
    simp [implementationFailure, otherClassifications42h]
  split at h
  · cases h
  split at h
  · cases h
  rename_i hybrid hhybrid
  obtain rfl := Except.ok.inj h
  have hflat : ClassifiedIn otherClassifications42h hybrid.flatten := by
    refine classifiedIn_flatten_of_mapM hhybrid fun budgetMs _ found hfound => ?_
    simp only [hybridFindings42fg, bind, Except.bind, pure, Except.pure] at hfound
    split at hfound
    · cases hfound
    obtain rfl := Except.ok.inj hfound
    simp [classifiedIn_append, classifiedIn_findWhen, implementationFailure,
      otherClassifications42h]
  rw [classifiedIn_append]
  refine ⟨?_, hflat⟩
  simp [classifiedIn_append, classifiedIn_findWhen, implementationFailure, otherClassifications42h]

/-- **What is measured** is no matter of the readiness. -/
theorem classifiedIn_measuredFindings42h (h : measuredFindings42h report = .ok found) :
    ClassifiedIn otherClassifications42h found := by
  rw [measuredFindings42h] at h
  simp only [bind, Except.bind, pure, Except.pure] at h
  split at h
  · cases h
  rename_i profile hprofile
  split at h
  · cases h
  rename_i lists hlists
  obtain rfl := Except.ok.inj h
  have hflat : ClassifiedIn otherClassifications42h lists.flatten :=
    classifiedIn_flatten_of_mapM hlists fun _ _ _ hfound => classifiedIn_sourceFindings42fg hfound
  have hpolicy : ClassifiedIn otherClassifications42h (policyFindings42fg report) := by
    simp [policyFindings42fg, classifiedIn_append, classifiedIn_findWhen, implementationFailure,
      otherClassifications42h]
  have hqueue : ClassifiedIn otherClassifications42h (queueFindings report) := by
    simp [queueFindings, classifiedIn_append, classifiedIn_findWhen, implementationFailure,
      generalFailure, otherClassifications42h, artifactClassifications]
  have hwriter : ClassifiedIn otherClassifications42h (writerFindings report) := by
    simp [writerFindings, classifiedIn_append, classifiedIn_findWhen, implementationFailure,
      generalFailure, otherClassifications42h, artifactClassifications]
  have hmaking := classifiedIn_makingFindings42h report
  have hleakage := classifiedIn_leakageFindings (report.get "leakage_check").asDict
    (show ["LEAKAGE_FAILURE", "FEATURE_LEAKAGE_FAILURE", "LABEL_LEAKAGE_FAILURE"] ⊆
      otherClassifications42h by decide)
  have hclock := classifiedIn_clockFindings42fg report
  have hprofiled := classifiedIn_profileFindings hprofile
  simp only [classifiedIn_append] at hmaking ⊢
  exact ⟨⟨⟨⟨⟨⟨⟨hmaking, hpolicy⟩, hclock⟩, hprofiled⟩, hqueue⟩, hwriter⟩, hleakage⟩, hflat⟩

end Classified

/-! ### Reports that are built -/

theorem Json.get_asDict (j : Json) (k : String) : j.asDict.get k = j.get k := by
  cases j <;> rfl

/-- The status of a runtime report is never empty. -/
theorem phase41RuntimeReportStatus_ne_empty (report : Json) :
    phase41RuntimeReportStatus report ≠ "" := by
  simp only [phase41RuntimeReportStatus]
  split_ifs with htruthy hpass hfail hnamed
  all_goals first | assumption | decide

section Built

variable {identical : Json → Json → Bool} {inputs : HotPathInputs} {validation : Json}
  {durationSec : ℚ} {warnings : List String}

/-- A reason is given for the readiness. -/
theorem strip_readinessDecisionReason (inputs : HotPathInputs) :
    (Decimal.strip inputs.semantics.readinessDecisionReason.toList).isEmpty = false := by
  simp only [HotPathInputs.semantics, HotPath.computeReadinessSemantics]
  split_ifs <;> rfl

/-- The runtime report is ready when the strict labels are. -/
theorem phase41RuntimeReady_of_strict
    (h : inputs.semantics.strict100msObservabilityReady = true) :
    inputs.readinessReports.phase41RuntimeReady = true := by
  obtain ⟨⟨-, -, -, -, hstatus, hsequence⟩, -⟩ := HotPath.strict_iff.mp h
  rw [ReadinessReports.phase41RuntimeReady, decide_eq_true_eq]
  exact ⟨hstatus, hsequence⟩

/-- The status of the runtime report is read from the report. -/
theorem embeddedPhase41Status_built :
    embeddedPhase41Status (inputs.report validation durationSec warnings) =
      inputs.readinessReports.phase41Status := by
  have hstatus : (inputs.report validation durationSec warnings).get
      "phase41_runtime_report_status" = .str inputs.readinessReports.phase41Status := rfl
  have htruthy : (Json.str inputs.readinessReports.phase41Status).truthy = true := by
    have hne : inputs.readinessReports.phase41Status ≠ "" :=
      phase41RuntimeReportStatus_ne_empty inputs.phase41Report
    simpa [Json.truthy] using hne
  rw [embeddedPhase41Status, hstatus, Json.orElse, if_pos htruthy]
  rfl

/-- **The checks of the readiness find nothing** in a report that is built: they compute what it was
built with. -/
theorem readinessFindings_built :
    readinessFindings42h identical (inputs.report validation durationSec warnings) = [] := by
  set report := inputs.report validation durationSec warnings with hreport
  have hlow : report.get "low_latency_ready" =
      .bool inputs.semantics.strict100msObservabilityReady := rfl
  have hstrict : report.get "strict_100ms_observability_ready" =
      .bool inputs.semantics.strict100msObservabilityReady := rfl
  have hready : report.get "phase41_runtime_ready" =
      .bool inputs.readinessReports.phase41RuntimeReady := rfl
  have hphase5 : report.get "phase5_ready" = .bool false := rfl
  have hreason : ((report.get "readiness_decision_reason").orElse (.str "")).text =
      inputs.semantics.readinessDecisionReason := by
    have hget : report.get "readiness_decision_reason" =
        .str inputs.semantics.readinessDecisionReason := rfl
    have hne : inputs.semantics.readinessDecisionReason ≠ "" := by
      intro hempty
      have hstrip := strip_readinessDecisionReason inputs
      rw [hempty] at hstrip
      cases hstrip
    rw [hget, Json.orElse, if_pos (by simpa [Json.truthy] using hne)]
    rfl
  have hsequence : ((report.get "phase41_runtime_report").asDict.get "sequence_gap_count").num =
      inputs.readinessReports.sequenceGaps := by
    rw [Json.get_asDict]
    rfl
  have hexpected : (decide (embeddedPhase41Status report = "pass") &&
      decide (((report.get "phase41_runtime_report").asDict.get "sequence_gap_count").num = 0)) =
        inputs.readinessReports.phase41RuntimeReady := by
    rw [hreport, embeddedPhase41Status_built, ← hreport, hsequence]
    simp [ReadinessReports.phase41RuntimeReady, ReadinessReports.sequenceOk]
  have hsame : readinessIsStrict identical report = true := by
    rw [readinessIsStrict, hlow, hstrict]
    cases inputs.semantics.strict100msObservabilityReady <;> rfl
  have himplies := @phase41RuntimeReady_of_strict inputs
  simp only [readinessFindings42h, hexpected, hsame, hlow, hstrict, hready, hphase5, hreason,
    strip_readinessDecisionReason]
  cases hs : inputs.semantics.strict100msObservabilityReady with
  | true =>
      rw [himplies hs]
      rfl
  | false => cases inputs.readinessReports.phase41RuntimeReady <;> rfl

/-- A report that is built is evaluated. -/
theorem buildPhase42hReport_eq_ok {evaluated : Json}
    (h : buildPhase42hReport identical inputs = .ok evaluated) :
    ∃ validation durationSec warnings, evaluatePhase42hReport identical
      (inputs.report validation durationSec warnings) = .ok evaluated := by
  simp only [buildPhase42hReport, bind, Except.bind] at h
  split at h
  · cases h
  split at h
  · cases h
  split at h
  · cases h
  exact ⟨_, _, _, h⟩

/-- No report that is built lists a failure of the readiness. -/
theorem classifications_built {evaluated : Json} {classifications : List String}
    (h : evaluatePhase42hReport identical (inputs.report validation durationSec warnings) =
      .ok evaluated)
    (hlists : Lists evaluated "failure_classifications" classifications) :
    ∀ c ∈ readinessClassifications, c ∉ classifications := by
  obtain ⟨v, found, hevaluated⟩ := evaluated42h_of_eq_ok h
  obtain rfl := hlists.unique hevaluated.lists_classifications
  have hfindings := hevaluated.findings
  rw [findings42h, readinessFindings_built] at hfindings
  rcases hmeasured : measuredFindings42h (inputs.report validation durationSec warnings) with
    e | measured
  · simp [hmeasured, bind, Except.bind] at hfindings
  simp only [hmeasured, bind, Except.bind, pure, Except.pure, List.append_nil] at hfindings
  obtain rfl := Except.ok.inj hfindings
  have hclassified := classifiedIn_append.mpr ⟨classifiedIn_schemaFindings
    (validatePhase42hReportSchema identical (inputs.report validation durationSec warnings))
    (show "REPORT_SCHEMA_FAILURE" ∈ otherClassifications42h by decide),
    classifiedIn_measuredFindings42h hmeasured⟩
  obtain ⟨listed, hlisted, hv⟩ := hevaluated.carries.listed
  have hnone : listed.classifications = [] := by
    have hempty : listedTruthy (inputs.report validation durationSec warnings)
        "failure_classifications" = .ok [] := rfl
    exact Except.ok.inj ((readVerdict_eq_ok hlisted).2.1.symm.trans hempty)
  have hothers : ∀ c ∈ v.classifications, c ∈ otherClassifications42h := by
    intro c hc
    rw [hv, ReportVerdict.mem_classifications_addAll, hnone] at hc
    rcases hc with hc | hc
    · cases hc
    · obtain ⟨f, hf, rfl⟩ := List.mem_map.mp hc
      exact hclassified f hf
  have hapart : ∀ c ∈ readinessClassifications, c ∉ otherClassifications42h := by decide
  intro c hc hmem
  rw [ReportVerdict.reread] at hmem
  split at hmem
  · cases hmem
  · exact hapart c hc (hothers c (mem_sortedSet.mp hmem))

/-- What a report shows that says that the strict labels are ready. -/
structure ShowsStrictReady (report : Json) : Prop where
  phase41Status : report.get? "phase41_runtime_report_status" = some (.str "pass")
  sequenceGaps : ((report.get "phase41_runtime_report").get "sequence_gap_count").num = 0
  featureLeaks : ((report.get "leakage_check").get "feature_leakage_violations").num = 0
  labelLeaks : ((report.get "leakage_check").get "label_leakage_violations").num = 0
  clock : ((report.get "clock_sanity_report").get "clock_sanity_valid").isTrue = true
  queueDrops : ((report.get "queue_backpressure_summary").get "queue_dropped_messages").num = 0
  writerDrops : ((report.get "writer_batch_report").get "writer_dropped_records").num = 0
  source : ∃ entry ∈ fieldEntries (report.get "sources"),
    (entry.2.get "exchange_time_supported").isTrue = true ∧
      exchangeTimeRate entry.2 ≥ required100msValidRate ∧
      correctedHybridRate entry.2 100 ≥ required100msValidRate

/-- **A report that is built and says that the strict labels are ready** shows why. -/
theorem showsStrictReady_built {evaluated : Json}
    (h : evaluatePhase42hReport identical (inputs.report validation durationSec warnings) =
      .ok evaluated)
    (hready : (evaluated.get "strict_100ms_observability_ready").isTrue = true) :
    ShowsStrictReady evaluated := by
  obtain ⟨v, found, hevaluated⟩ := evaluated42h_of_eq_ok h
  have hget {k : String} (hk : k ∉ written42h) : evaluated.get k =
      (inputs.report validation durationSec warnings).get k := hevaluated.evidence.get_eq hk
  rw [hget (by decide)] at hready
  obtain ⟨⟨hleak, hclock, hqueue, hwriter, hstatus, hsequence⟩, entry, hentry, hexchange,
    hlimits⟩ := HotPath.strict_iff.mp (show inputs.semantics.strict100msObservabilityReady = true
      from hready)
  rw [ReadinessReports.noLeakage, decide_eq_true_eq] at hleak
  rw [ReadinessReports.queueOk, decide_eq_true_eq] at hqueue
  rw [ReadinessReports.writerOk, decide_eq_true_eq] at hwriter
  rw [ReadinessReports.sequenceOk, decide_eq_true_eq] at hsequence
  rw [isExchangeCandidate, decide_eq_true_eq] at hexchange
  rw [meetsStrictLimits, decide_eq_true_eq] at hlimits
  refine ⟨?_, ?_, ?_, ?_, ?_, ?_, ?_, ?_⟩
  · rw [hevaluated.evidence.unwritten _ (by decide)]
    exact congrArg (fun status => some (Json.str status)) hstatus
  · rw [hget (by decide)]
    exact hsequence
  · rw [hget (by decide)]
    exact hleak.1
  · rw [hget (by decide)]
    exact hleak.2
  · rw [hget (by decide)]
    exact hclock
  · -- the number of dropped messages is not normalized
    have hsummary : evaluated.get "queue_backpressure_summary" =
        normalizedQueue (inputs.report validation durationSec warnings) :=
      congrArg (·.getD .null) hevaluated.queue
    have hdrops : (normalizedQueue (inputs.report validation durationSec warnings)).get
        "queue_dropped_messages" = inputs.queueReport.get "queue_dropped_messages" := by
      rw [Json.get, normalizedQueue, get?_normalizeQueue (by decide), ← Json.get, Json.get_asDict]
      rfl
    rw [hsummary, hdrops]
    exact hqueue
  · rw [hget (by decide)]
    exact hwriter.1
  · rw [hget (by decide)]
    exact ⟨entry, hentry, hexchange.1, hexchange.2, hlimits.1⟩

end Built

/-! ### The verdict -/

/-- The verdict of an evaluated report is stable: a second evaluation says the same, the report
fails exactly when it lists a reason, and reasons that are added before a second evaluation remove
nothing. -/
structure StableVerdict (identical : Json → Json → Bool) (evaluated : Json) : Prop where
  again : SameVerdict (evaluatePhase42hReport identical) (hotPathOutcome identical) evaluated
  lists : ∃ reasons classifications,
    Lists evaluated "hard_fail_reasons" reasons ∧
      Lists evaluated "failure_classifications" classifications ∧
      (evaluated.get? "status" = some (.str "fail") ↔ reasons ≠ []) ∧
      ∀ items : List Json, (∀ reason ∈ reasons, .str reason ∈ items) → items ≠ [] →
        KeepsReasons (evaluatePhase42hReport identical) evaluated items reasons classifications

/-- A report that is built is consistent: it lists no failure of the readiness, and shows why the
strict labels are ready when it says so. -/
structure ConsistentReport (evaluated : Json) : Prop where
  lists : ∃ classifications, Lists evaluated "failure_classifications" classifications ∧
    ∀ c ∈ readinessClassifications, c ∉ classifications
  strict : (evaluated.get "strict_100ms_observability_ready").isTrue = true →
    ShowsStrictReady evaluated

/-- **Evaluations of the hot path are stable, and reports that are built are consistent.** -/
theorem hotPath_verdict (identical : Json → Json → Bool) :
    (∀ report evaluated, evaluatePhase42hReport identical report = .ok evaluated →
      StableVerdict identical evaluated) ∧
    ∀ inputs evaluated, buildPhase42hReport identical inputs = .ok evaluated →
      ConsistentReport evaluated := by
  constructor
  · intro report evaluated h
    obtain ⟨v, found, hevaluated⟩ := evaluated42h_of_eq_ok h
    exact ⟨hevaluated.outcome_again, _, _, hevaluated.lists_hard, hevaluated.lists_classifications,
      hevaluated.status_iff hevaluated.lists_hard, fun items hitems hne =>
        hevaluated.keepsReasons hevaluated.lists_classifications hitems hne⟩
  · intro inputs evaluated h
    obtain ⟨validation, durationSec, warnings, hbuilt⟩ := buildPhase42hReport_eq_ok h
    obtain ⟨v, found, hevaluated⟩ := evaluated42h_of_eq_ok hbuilt
    exact ⟨⟨_, hevaluated.lists_classifications,
      classifications_built hbuilt hevaluated.lists_classifications⟩,
      showsStrictReady_built hbuilt⟩

/-- The report of a source that is fast enough. -/
def readySource : Json :=
  .obj
    [("exchange_time_supported", .bool true),
      ("exchange_time", .obj [("valid_rate_eligible_rows", .float 1)]),
      ("corrected_hybrid", .obj [("corrected_hybrid_100ms", .obj
        [("valid_rate_eligible_rows", .float 1),
          ("corrected_feature_receive_lag_p95_ms", .float 40),
          ("corrected_feature_receive_lag_p99_ms", .float 80)])])]

/-- Inputs of a capture with one source that is fast enough. -/
def readyInputs : HotPathInputs where
  symbol := "btcusdt"
  cleanSamples := []
  sources := [("trade_price", readySource)]
  timestampSchema := .obj []
  leakageResult := .obj [("performed", .bool true)]
  clockOffsetSamples := []
  clockOffsetSummary := .obj []
  clockSanity := .obj [("clock_sanity_valid", .bool true)]
  latencyProfile := .obj []
  queueReport := .obj [("performed", .bool true)]
  writerReport := .obj [("writer_shutdown_flush_completed", .bool true)]
  phase41Report := .obj [("phase_4_1_status", .str "pass")]
  capture := .obj []
  cleanupReport := .obj []
  gitignoreValidation := .obj []
  environment := .obj []
  pytestPassed := true
  typecheckPassed := true
  typecheckSummary := ""
  freshCaptureRequired := false
  labeledSampleCount := 0
  memoryTelemetry := .obj []

theorem strict_readyInputs : readyInputs.semantics.strict100msObservabilityReady = true := by
  have hexchange : exchangeTimeRate readySource = 1 := rfl
  have hhybrid : correctedHybridRate readySource 100 = 1 := rfl
  have hp95 : featureLagP95Ms readySource = some 40 := rfl
  have hp99 : featureLagP99Ms readySource = some 80 := rfl
  refine HotPath.strict_iff.mpr ⟨⟨by decide, rfl, by decide, by decide, by decide, by decide⟩,
    _, .head _, ?_, ?_⟩
  · rw [isExchangeCandidate, hexchange, decide_eq_true_eq]
    exact ⟨rfl, by norm_num [required100msValidRate]⟩
  · rw [meetsStrictLimits, hhybrid, hp95, hp99, decide_eq_true_eq]
    norm_num [required100msValidRate, strictLagP95Ms, strictLagP99Ms]

/-- The theorem applied to a report without a field, and to a report that is built and says that the
strict labels are ready. -/
theorem hotPath_verdict_ready :
    (∃ evaluated, evaluatePhase42hReport (fun _ _ => false) (.obj []) = .ok evaluated ∧
      StableVerdict (fun _ _ => false) evaluated) ∧
    ∃ evaluated, buildPhase42hReport (fun _ _ => false) readyInputs = .ok evaluated ∧
      ConsistentReport evaluated ∧ ShowsStrictReady evaluated := by
  obtain ⟨first, hfirst⟩ : ∃ evaluated,
      evaluatePhase42hReport (fun _ _ => false) (.obj []) = .ok evaluated := ⟨_, rfl⟩
  refine ⟨⟨first, hfirst, (hotPath_verdict _).1 _ _ hfirst⟩, ?_⟩
  obtain ⟨evaluated, h⟩ : ∃ evaluated,
      buildPhase42hReport (fun _ _ => false) readyInputs = .ok evaluated := ⟨_, rfl⟩
  have hconsistent := (hotPath_verdict _).2 _ _ h
  obtain ⟨validation, durationSec, warnings, hbuilt⟩ := buildPhase42hReport_eq_ok h
  obtain ⟨v, found, hevaluated⟩ := evaluated42h_of_eq_ok hbuilt
  refine ⟨evaluated, h, hconsistent, hconsistent.strict ?_⟩
  rw [hevaluated.evidence.get_eq (by decide)]
  exact strict_readyInputs

end SomethingTrade
