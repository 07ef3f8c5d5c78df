import SomethingTrade.CoverageRecapture

/-!
# The Verdicts of a Recapture

The exit code of a recapture and the report that it leaves are two verdicts on one run. The report
is evaluated when it is written, and an evaluation reads what was measured only: it drops the
reasons and statuses that were set by hand before. So the two agree, but for the failures that show
only after the analysis.

## Main results

* `coverageFindings_congr`: an evaluation does not depend on the verdict that it reads.
* `recapture_verdicts`: when the exit code and the report that was written last agree.
-/

namespace SomethingTrade

/-! ### What an evaluation reads -/

/-- The fields that an evaluation writes. -/
def verdictFieldNames : List String :=
  ["implementation_status", "runtime_status", "dataset_coverage_status",
    "definition_of_done_status", "status", "primary_failure", "hard_fail_reasons",
    "warning_reasons"]

/-- The fields of a verdict are there, and its statuses are statuses. -/
structure HasVerdict (report : Json) : Prop where
  statuses : ∀ field ∈ phase42aStatusFields,
    ∃ passes, report.get? field = some (statusText passes)
  present : ∀ field ∈ verdictFieldNames, (report.get? field).isSome

theorem statusError_statusText {report : Json} {field : String} {passes : Bool}
    (h : report.get? field = some (statusText passes)) : statusError report field = .ok [] := by
  rw [statusError, h]
  cases passes <;> rfl

theorem HasVerdict.statusErrors {report : Json} (h : HasVerdict report) :
    phase42aStatusFields.mapM (statusError report) = .ok [[], [], [], []] := by
  rw [mapM_eq_ok_iff, List.map_congr_left (g := fun _ => Except.ok []) fun field hfield => ?_]
  · rfl
  · obtain ⟨passes, hstatus⟩ := h.statuses field hfield
    exact statusError_statusText hstatus

/-- A field that is measured, as it is read. -/
theorem get_congr {report report' : Json}
    (h : ∀ field, field ∉ verdictFieldNames → field ≠ "bundle_created" →
      report'.get? field = report.get? field) {field : String} (hfield : field ∉ verdictFieldNames)
    (hbundle : field ≠ "bundle_created") : report'.get field = report.get field := by
  rw [Json.get, Json.get, h field hfield hbundle]

/-- **An evaluation does not depend on the verdict it reads**: reports that measured the same have
the same findings. -/
theorem coverageFindings_congr {report report' : Json} (hv : HasVerdict report)
    (hv' : HasVerdict report')
    (h : ∀ field, field ∉ verdictFieldNames → field ≠ "bundle_created" →
      report'.get? field = report.get? field) :
    coverageFindings report' = coverageFindings report := by
  have hget {field : String} (hfield : field ∉ verdictFieldNames)
      (hbundle : field ≠ "bundle_created") := get_congr h hfield hbundle
  have hmissing : missingAs "missing required field: " report' phase42aRequiredReportFields =
      missingAs "missing required field: " report phase42aRequiredReportFields := by
    rw [missingAs, missingAs]
    refine congrArg _ (List.filter_congr fun field hfield => ?_)
    by_cases hverdict : field ∈ verdictFieldNames
    · rw [Option.isNone_eq_false_iff.mpr (hv.present field hverdict),
        Option.isNone_eq_false_iff.mpr (hv'.present field hverdict)]
    · rw [h field hverdict fun hbundle => by subst hbundle; exact absurd hfield (by decide)]
  have hschema : validatePhase42aReportSchema report' = validatePhase42aReportSchema report := by
    simp only [validatePhase42aReportSchema, hv.statusErrors, hv'.statusErrors, hmissing,
      @hget "horizon_100ms" (by decide) (by decide),
      @hget "timestamp_quality" (by decide) (by decide)]
  simp only [coverageFindings, hschema, policyRelaxed, captureModeFindings,
    runtimeQualityFindings, sampleGapFindings, labelRateFindings, labelLeakageFindings,
    @hget "horizon_100ms" (by decide) (by decide),
    @hget "fresh_capture_required" (by decide) (by decide),
    @hget "capture" (by decide) (by decide),
    @hget "runtime_quality" (by decide) (by decide),
    @hget "clean_sample_count" (by decide) (by decide),
    @hget "labeled_sample_count" (by decide) (by decide),
    @hget "timestamp_quality" (by decide) (by decide),
    @hget "leakage_check" (by decide) (by decide)]

/-! ### Reports that keep their findings -/

/-- A report with a verdict, and what its checks find. -/
structure Finds (report : Json) (found : List CoverageFinding) : Prop extends
    HasVerdict report where
  isObj : report.IsObj
  warnings : report.get? "warning_reasons" = some (.arr [])
  reasons : ∃ items, report.get? "hard_fail_reasons" = some (.arr items)
  findings : coverageFindings report = .ok found

/-- A field that may be written without a change to what is found. -/
structure WritesVerdict (entry : String × Json) : Prop where
  name : entry.1 ∈ verdictFieldNames ∨ entry.1 = "bundle_created"
  status : entry.1 ∈ phase42aStatusFields → ∃ passes, entry.2 = statusText passes
  warnings : entry.1 = "warning_reasons" → entry.2 = .arr []
  reasons : entry.1 = "hard_fail_reasons" → ∃ items, entry.2 = .arr items

section

variable {report : Json} {found : List CoverageFinding}

/-- A field is the one that was written, or is as before. -/
theorem get?_setField_cases (h : report.IsObj) (k field : String) (v : Json) :
    (field = k ∧ (report.setField k v).get? field = some v) ∨
      (field ≠ k ∧ (report.setField k v).get? field = report.get? field) := by
  by_cases hfield : field = k
  · subst hfield
    exact .inl ⟨rfl, h.get?_setField_self field v⟩
  · exact .inr ⟨hfield, Json.get?_setField_of_ne report v (Ne.symm hfield)⟩

theorem Finds.setField (h : Finds report found) {k : String} {v : Json}
    (hw : WritesVerdict (k, v)) : Finds (report.setField k v) found := by
  have hcases := fun field => get?_setField_cases h.isObj k field v
  have hverdict : HasVerdict (report.setField k v) := by
    refine ⟨fun field hfield => ?_, fun field hfield => ?_⟩
    · rcases hcases field with ⟨rfl, hget⟩ | ⟨-, hget⟩
      · obtain ⟨passes, hpasses⟩ := hw.status hfield
        exact ⟨passes, hget.trans (congrArg some hpasses)⟩
      · obtain ⟨passes, hpasses⟩ := h.statuses field hfield
        exact ⟨passes, hget.trans hpasses⟩
    · rcases hcases field with ⟨rfl, hget⟩ | ⟨-, hget⟩
      · rw [hget]
        rfl
      · rw [hget]
        exact h.present field hfield
  refine ⟨hverdict, h.isObj.setField k v, ?_, ?_, ?_⟩
  · rcases hcases "warning_reasons" with ⟨rfl, hget⟩ | ⟨-, hget⟩
    · exact hget.trans (congrArg some (hw.warnings rfl))
    · exact hget.trans h.warnings
  · rcases hcases "hard_fail_reasons" with ⟨rfl, hget⟩ | ⟨-, hget⟩
    · obtain ⟨items, hitems⟩ := hw.reasons rfl
      exact ⟨items, hget.trans (congrArg some hitems)⟩
    · rw [hget]
      exact h.reasons
  · rw [coverageFindings_congr h.toHasVerdict hverdict fun field hfield hbundle => ?_]
    · exact h.findings
    · rcases hcases field with ⟨rfl, -⟩ | ⟨-, hget⟩
      · rcases hw.name with hname | hname
        · exact absurd hname hfield
        · exact absurd hname hbundle
      · exact hget

/-- **Writing a verdict** leaves what is found. -/
theorem Finds.writeFields (h : Finds report found) {fields : List (String × Json)}
    (hw : ∀ entry ∈ fields, WritesVerdict entry) :
    Finds (SomethingTrade.writeFields report fields) found := by
  induction fields generalizing report with
  | nil => exact h
  | cons entry fields ih =>
      rw [List.forall_mem_cons] at hw
      exact ih (h.setField hw.1) hw.2

theorem writesVerdict_status {field : String} (h : field ∈ phase42aStatusFields) (passes : Bool) :
    WritesVerdict (field, statusText passes) := by
  have hname : ∀ f ∈ phase42aStatusFields,
      f ∈ verdictFieldNames ∧ f ≠ "warning_reasons" ∧ f ≠ "hard_fail_reasons" := by
    decide
  obtain ⟨hverdict, hwarnings, hreasons⟩ := hname field h
  exact ⟨.inl hverdict, fun _ => ⟨passes, rfl⟩, fun heq => absurd heq hwarnings,
    fun heq => absurd heq hreasons⟩

theorem writesVerdict_other {field : String} (hname : field ∈ ["status", "primary_failure"])
    (value : Json) : WritesVerdict (field, value) := by
  have hother : ∀ f ∈ ["status", "primary_failure"], f ∈ verdictFieldNames ∧
      f ∉ phase42aStatusFields ∧ f ≠ "warning_reasons" ∧ f ≠ "hard_fail_reasons" := by
    decide
  obtain ⟨hverdict, hstatus, hwarnings, hreasons⟩ := hother field hname
  exact ⟨.inl hverdict, fun hmem => absurd hmem hstatus, fun heq => absurd heq hwarnings,
    fun heq => absurd heq hreasons⟩

theorem writesVerdict_reasons (items : List Json) :
    WritesVerdict ("hard_fail_reasons", .arr items) := by
  have hname : "hard_fail_reasons" ∈ verdictFieldNames ∧
      "hard_fail_reasons" ∉ phase42aStatusFields ∧ "hard_fail_reasons" ≠ "warning_reasons" := by
    decide
  exact ⟨.inl hname.1, fun hmem => absurd hmem hname.2.1, fun heq => absurd heq hname.2.2,
    fun _ => ⟨items, rfl⟩⟩

theorem writesVerdict_coverageVerdict (found : List CoverageFinding) :
    ∀ entry ∈ coverageVerdict found [], WritesVerdict entry := by
  simp only [coverageVerdict, List.forall_mem_cons, List.not_mem_nil, false_imp_iff,
    implies_true, and_true]
  refine ⟨writesVerdict_status (by decide) _, writesVerdict_status (by decide) _,
    writesVerdict_status (by decide) _, writesVerdict_status (by decide) _,
    writesVerdict_other (by decide) _, writesVerdict_other (by decide) _,
    writesVerdict_reasons _, ?_⟩
  have hname : "warning_reasons" ∈ verdictFieldNames ∧
      "warning_reasons" ∉ phase42aStatusFields ∧ "warning_reasons" ≠ "hard_fail_reasons" := by
    decide
  exact ⟨.inl hname.1, fun hmem => absurd hmem hname.2.1, fun _ => rfl,
    fun heq => absurd heq hname.2.2⟩

/-- **An evaluation** writes what its checks find. -/
theorem Finds.evaluate (h : Finds report found) :
    evaluatePhase42aReport report =
      .ok (SomethingTrade.writeFields report (coverageVerdict found [])) := by
  have hwarnings : (report.get "warning_reasons").orElse (.arr []) = .arr [] := by
    rw [Json.get_of_get? h.warnings]
    rfl
  rw [evaluatePhase42aReport, hwarnings, h.findings]
  rfl

/-- What an evaluation leaves. -/
structure Evaluated (report : Json) (found : List CoverageFinding) : Prop extends
    Finds report found where
  done : report.get? "definition_of_done_status" = some (statusText found.isEmpty)
  primary : report.get? "primary_failure" = some (.ofText? (namedFailure found))
  listed : report.get? "hard_fail_reasons" =
    some (.arr ((fromKeys (found.map CoverageFinding.reason)).map .str))

theorem Finds.evaluated (h : Finds report found) :
    Evaluated (SomethingTrade.writeFields report (coverageVerdict found [])) found := by
  have hnodup : ((coverageVerdict found []).map Prod.fst).Nodup := by
    have hnames : (coverageVerdict found []).map Prod.fst = verdictFieldNames := rfl
    rw [hnames]
    decide
  refine ⟨h.writeFields (writesVerdict_coverageVerdict found), ?_, ?_, ?_⟩
  · exact get?_writeFields_of_mem h.isObj hnodup (by simp [coverageVerdict])
  · exact get?_writeFields_of_mem h.isObj hnodup (by simp [coverageVerdict])
  · exact get?_writeFields_of_mem h.isObj hnodup (by simp [coverageVerdict])

theorem isText_statusText (passes : Bool) : (statusText passes).isText "pass" = passes := by
  cases passes <;> rfl

/-- A report whose reasons are listed can be classified. -/
theorem exists_classifyPhase42aFailure (h : Finds report found) :
    ∃ classification, classifyPhase42aFailure report = .ok classification := by
  obtain ⟨items, hitems⟩ := h.reasons
  have hlisted : iterated (report.getD "hard_fail_reasons" (.arr [])) = .ok items := by
    rw [Json.getD, hitems]
    rfl
  rw [classifyPhase42aFailure, hlisted]
  generalize (report.get "definition_of_done_status").isText "pass" = done
  cases done with
  | true => exact ⟨_, rfl⟩
  | false => exact ⟨_, rfl⟩

/-- **What is written** of a report is its evaluation. -/
theorem Finds.write (h : Finds report found) (bundleCreated : Bool) :
    ∃ artifacts, writePhase42aArtifacts report bundleCreated = .ok artifacts ∧
      Evaluated artifacts.report found ∧ artifacts.passed = found.isEmpty ∧
      (found = [] → artifacts.failureClassification = none) ∧
      artifacts.bundleCreated = bundleCreated := by
  have hevaluated := h.evaluated
  obtain ⟨classification, hclassified⟩ := exists_classifyPhase42aFailure hevaluated.toFinds
  rw [writePhase42aArtifacts, h.evaluate]
  generalize SomethingTrade.writeFields report (coverageVerdict found []) = written
    at hevaluated hclassified ⊢
  have hpassed : (written.get "definition_of_done_status").isText "pass" = found.isEmpty := by
    rw [Json.get_of_get? hevaluated.done, isText_statusText]
  simp only [bind, Except.bind, hpassed]
  cases found with
  | nil => exact ⟨_, rfl, hevaluated, rfl, fun _ => rfl, rfl⟩
  | cons finding found =>
      simp only [List.isEmpty_cons, hclassified]
      exact ⟨_, rfl, hevaluated, rfl, fun hnil => absurd hnil (List.cons_ne_nil _ _), rfl⟩

/-- **A failure noted by hand** is in the verdict only. -/
theorem Finds.lateFailure (h : Finds report found) {areas : List String}
    (hareas : ∀ area ∈ areas, area ∈ phase42aStatusFields) (primary : Json)
    (reasons : List String) :
    ∃ report', SomethingTrade.lateFailure report areas primary reasons = .ok report' ∧
      Finds report' found ∧
      (report'.get "definition_of_done_status").isText "pass" = false := by
  obtain ⟨items, hitems⟩ := h.reasons
  rw [SomethingTrade.lateFailure, listReasons, Json.get_of_get? hitems]
  refine ⟨_, rfl, h.writeFields ?_, ?_⟩
  · rw [List.forall_mem_append]
    refine ⟨fun entry hentry => ?_, ?_⟩
    · obtain ⟨area, harea, rfl⟩ := List.mem_map.mp hentry
      exact writesVerdict_status (hareas area harea) false
    · simp only [List.forall_mem_cons, List.not_mem_nil, false_imp_iff, implies_true, and_true]
      exact ⟨writesVerdict_status (by decide) false, writesVerdict_other (by decide) _,
        writesVerdict_other (by decide) _, writesVerdict_reasons _⟩
  · -- the status is written after those of the areas
    rw [SomethingTrade.writeFields, List.foldl_append, ← SomethingTrade.writeFields,
      ← SomethingTrade.writeFields]
    have hnodup : ["definition_of_done_status", "status", "primary_failure",
        "hard_fail_reasons"].Nodup := by
      decide
    have hdone := @get?_writeFields_of_mem _
      (isObj_writeFields h.isObj (areas.map fun area => (area, Json.str "fail")))
      [("definition_of_done_status", .str "fail"), ("status", .str "fail"),
        ("primary_failure", primary), ("hard_fail_reasons", .arr (items ++ reasons.map .str))]
      hnodup _ _ List.mem_cons_self
    rw [Json.get_of_get? hdone]
    rfl

end

/-! ### The analysis -/

/-- The labels state the gap that they are allowed. -/
theorem extractHorizon100msCoverage_gap {cleanSamples labeledRows : List Json} {horizon : Json}
    {invalidCases : List Json}
    (h : extractHorizon100msCoverage cleanSamples labeledRows = .ok (horizon, invalidCases)) :
    ∃ rest, horizon = .obj (("max_future_gap_ms", .int 100) :: rest) := by
  rw [extractHorizon100msCoverage] at h
  rcases hlast : cleanSamples.getLast?.mapM timestampOf with e | lastTs
  · simp [hlast, bind, Except.bind] at h
  rcases heligible : eligibleCount cleanSamples lastTs horizon100 with e | eligible
  · simp [hlast, heligible, bind, Except.bind] at h
  rcases hscan : labeledRows.foldlM (CoverageScan.step lastTs) {} with e | scan
  · simp [hlast, heligible, hscan, bind, Except.bind] at h
  simp only [hlast, heligible, hscan, bind, Except.bind, pure, Except.pure, Except.ok.injEq,
    Prod.mk.injEq] at h
  exact ⟨_, h.1.symm⟩

/-- What is found in a report with a verdict whose labels state their gap. -/
theorem HasVerdict.findings {report : Json} (h : HasVerdict report) {rest : List (String × Json)}
    (hgap : report.get "horizon_100ms" = .obj (("max_future_gap_ms", .int 100) :: rest)) :
    ∃ before after, coverageFindings report =
      .ok (before ++ sampleGapFindings report ++ labelRateFindings report false ++ after) := by
  have hpolicy : policyRelaxed report = .ok false := by
    rw [policyRelaxed, hgap]
    rfl
  rw [coverageFindings, validatePhase42aReportSchema, h.statusErrors]
  simp only [bind, Except.bind, pure, Except.pure, hpolicy]
  exact ⟨_, _, rfl⟩

/-- **A report that is built** is evaluated, and without samples something is found. -/
theorem evaluated_of_build {inputs : Phase42aInputs} {report : Json} {invalidCases : List Json}
    (h : buildPhase42aReport inputs = .ok (report, invalidCases)) :
    ∃ found, Evaluated report found ∧ (inputs.cleanSamples = [] → found ≠ []) := by
  rw [buildPhase42aReport] at h
  rcases hextract : extractHorizon100msCoverage inputs.cleanSamples inputs.labeledRows with e | out
  · simp [hextract, bind, Except.bind] at h
  obtain ⟨horizon, cases⟩ := out
  obtain ⟨rest, rfl⟩ := extractHorizon100msCoverage_gap hextract
  simp only [hextract, bind, Except.bind, pure, Except.pure] at h
  generalize hbefore : Json.obj (inputs.fields (.obj (("max_future_gap_ms", .int 100) :: rest))) =
    before at h
  have hverdict : HasVerdict before := by
    subst hbefore
    constructor
    · simp only [phase42aStatusFields, List.forall_mem_cons, List.not_mem_nil, false_imp_iff,
        implies_true, and_true]
      exact ⟨⟨true, rfl⟩, ⟨true, rfl⟩, ⟨true, rfl⟩, ⟨true, rfl⟩⟩
    · simp only [verdictFieldNames, List.forall_mem_cons, List.not_mem_nil, false_imp_iff,
        implies_true, and_true]
      exact ⟨rfl, rfl, rfl, rfl, rfl, rfl, rfl, rfl⟩
  have hhorizon : before.get "horizon_100ms" = .obj (("max_future_gap_ms", .int 100) :: rest) := by
    subst hbefore
    rfl
  have hcount : before.get "clean_sample_count" = .int inputs.cleanSamples.length := by
    subst hbefore
    rfl
  obtain ⟨first, last, hfound⟩ := hverdict.findings hhorizon
  have hfinds : Finds before (first ++ sampleGapFindings before ++
      labelRateFindings before false ++ last) := by
    refine ⟨hverdict, ?_, ?_, ?_, hfound⟩
    · exact ⟨_, hbefore.symm⟩
    · subst hbefore
      rfl
    · subst hbefore
      exact ⟨[], rfl⟩
  simp only [hfinds.evaluate, Except.ok.injEq, Prod.mk.injEq] at h
  refine ⟨_, h.1 ▸ hfinds.evaluated, fun hempty => ?_⟩
  have hgaps : sampleGapFindings before ≠ [] := by
    simp [sampleGapFindings, foundWhen, hcount, hempty, Json.num, Json.toFinite?, Json.toFloat?]
  simp [hgaps]

/-- A file that is missing or empty gives no samples. -/
theorem valid_of_classification {path : String} {file : Option (List FileLine)}
    (h : (validateCleanSamples path file).failureClassification = some "INPUT_FILE_MISSING" ∨
      (validateCleanSamples path file).failureClassification = some "INPUT_EMPTY") :
    (validateCleanSamples path file).valid = false := by
  cases file with
  | none => rfl
  | some lines =>
      rw [validateCleanSamples] at h ⊢
      split at h
      · rename_i hempty
        rw [if_pos hempty]
      · rename_i hlines
        rw [if_neg hlines]
        dsimp only at h ⊢
        split at h
        · simp at h
        · rename_i hviolations
          exact Bool.eq_false_iff.mpr hviolations

/-- A report with a verdict, and a status that is never better than what is found. -/
structure Analyzed (report : Json) (found : List CoverageFinding) : Prop extends
    Finds report found where
  done : (report.get "definition_of_done_status").isText "pass" = found.isEmpty

theorem Evaluated.analyzed {report : Json} {found : List CoverageFinding}
    (h : Evaluated report found) : Analyzed report found :=
  ⟨h.toFinds, by rw [Json.get_of_get? h.done, isText_statusText]⟩

/-- What comes after a step that did not raise. -/
theorem exists_of_bind_eq_ok {α β : Type} {x : Except String α} {f : α → Except String β} {b : β}
    (h : (x >>= f) = .ok b) : ∃ a, x = .ok a ∧ f a = .ok b := by
  cases x with
  | error e => cases h
  | ok a => exact ⟨a, rfl, h⟩

/-- **An analysis** reports what is found in its samples. -/
theorem analyzed_of_analysis {symbol cleanPath labeledPath : String}
    {file : Option (List FileLine)} {runtimeQuality : Json} {capture : Phase42aCapture}
    {freshCaptureRequired : Bool} {analysis : Phase42aAnalysis}
    (h : runPhase42aAnalysis symbol cleanPath labeledPath file runtimeQuality capture
      freshCaptureRequired = .ok analysis) : ∃ found, Analyzed analysis.report found := by
  rw [runPhase42aAnalysis] at h
  have hvalid := @valid_of_classification cleanPath file
  generalize validateCleanSamples cleanPath file = validation at h hvalid
  obtain ⟨labeledRows, -, h⟩ := exists_of_bind_eq_ok h
  obtain ⟨rate, -, h⟩ := exists_of_bind_eq_ok h
  obtain ⟨⟨report, invalidCases⟩, hbuild, h⟩ := exists_of_bind_eq_ok h
  obtain ⟨noted, hnoted, h⟩ := exists_of_bind_eq_ok h
  obtain rfl := Except.ok.inj h
  obtain ⟨found, hevaluated, hempty⟩ := evaluated_of_build hbuild
  refine ⟨found, ?_⟩
  have hlate (hclassified : validation.failureClassification = some "INPUT_FILE_MISSING" ∨
      validation.failureClassification = some "INPUT_EMPTY") (primary : Json) (reason : String)
      (hfailed : lateFailure report ["dataset_coverage_status"] primary [reason] = .ok noted) :
      Analyzed noted found := by
    obtain ⟨report', hreport', hfinds, hdone⟩ :=
      @Finds.lateFailure _ _ hevaluated.toFinds ["dataset_coverage_status"] (by decide) primary
        [reason]
    obtain rfl := Except.ok.inj (hreport'.symm.trans hfailed)
    have hsome : found ≠ [] := hempty (by simp [hvalid hclassified])
    exact ⟨hfinds, by rw [hdone, List.isEmpty_eq_false_iff.mpr hsome]⟩
  rw [noteInputFailure] at hnoted
  dsimp only at hnoted
  split at hnoted
  · rename_i hmissing
    exact hlate (.inl hmissing) _ _ hnoted
  · split at hnoted
    · rename_i hinput
      exact hlate (.inr hinput) _ _ hnoted
    · obtain rfl := Except.ok.inj hnoted
      exact hevaluated.analyzed

/-! ### The script -/

/-- Failures that show only after the analysis: the report of the capture is not there or cannot
be read, or the bundle cannot be made. -/
def Recapture.FailsLate (run : Recapture) : Prop :=
  (run.skipCapture = false ∧ ∀ value, run.phase41 ≠ .loaded value) ∨
    (run.noBundle = false ∧ run.bundleError ≠ none)

/-- What the exit code and the report that was written last have to do with each other. The report
says of itself what its own measures say. What passes has run its tests and its capture; and an
exit code other than zero beside a report that passes is a late failure, of which the report does
not tell. -/
structure VerdictsAgree (run : Recapture) (result : Recaptured) : Prop where
  measured : ∃ found, Evaluated result.artifacts.report found ∧
    result.artifacts.passed = found.isEmpty
  exit : result.exitCode = 0 → result.artifacts.passed = true
  late : result.artifacts.passed = true → (result.exitCode = 0 ↔ ¬ run.FailsLate)
  ran : result.artifacts.passed = true → (run.skipPytest = true ∨ run.pytestCode = 0) ∧
    (run.skipCapture = true ∨ run.captureCode = 0)
  untold : result.artifacts.passed = true → result.artifacts.failureClassification = none ∧
    result.artifacts.report.get "hard_fail_reasons" = .arr [] ∧
    result.artifacts.report.get "primary_failure" = .null
  bundle : result.artifacts.bundleCreated = true ↔ result.exitCode = 0 ∧ run.noBundle = false

section

variable {run : Recapture} {result : Recaptured} {found : List CoverageFinding}

/-- A run that fails, and leaves a report that fails. -/
theorem VerdictsAgree.of_failed (hevaluated : Evaluated result.artifacts.report found)
    (hpassed : result.artifacts.passed = found.isEmpty) (hsome : found ≠ [])
    (hcode : result.exitCode ≠ 0) (hbundle : result.artifacts.bundleCreated = false) :
    VerdictsAgree run result := by
  have hfails : result.artifacts.passed ≠ true := by
    rw [hpassed, List.isEmpty_eq_false_iff.mpr hsome]
    exact Bool.false_ne_true
  refine ⟨⟨found, hevaluated, hpassed⟩, fun h => absurd h hcode, fun h => absurd h hfails,
    fun h => absurd h hfails, fun h => absurd h hfails, ?_⟩
  rw [hbundle]
  exact ⟨fun h => absurd h Bool.false_ne_true, fun h => absurd h.1 hcode⟩

/-- A run whose report passes. -/
theorem VerdictsAgree.of_passed (hevaluated : Evaluated result.artifacts.report [])
    (hpassed : result.artifacts.passed = true)
    (hclassified : result.artifacts.failureClassification = none)
    (hran : (run.skipPytest = true ∨ run.pytestCode = 0) ∧
      (run.skipCapture = true ∨ run.captureCode = 0))
    (hlate : result.exitCode = 0 ↔ ¬ run.FailsLate)
    (hbundle : result.artifacts.bundleCreated = true ↔
      result.exitCode = 0 ∧ run.noBundle = false) : VerdictsAgree run result :=
  ⟨⟨[], hevaluated, hpassed⟩, fun _ => hpassed, fun _ => hlate, fun _ => hran,
    fun _ => ⟨hclassified, Json.get_of_get? hevaluated.listed,
      Json.get_of_get? hevaluated.primary⟩, hbundle⟩

/-- The report of a run that ends before its analysis fails, as it has no valid labels. -/
theorem finds_minimalFailureReport (symbol : String) (implementationFails runtimeFails : Bool)
    (primary reason : String) (capture : Phase42aCapture) :
    ∃ found, Finds (minimalFailureReport symbol implementationFails runtimeFails primary reason
      capture) found ∧ found ≠ [] := by
  generalize hreport : minimalFailureReport symbol implementationFails runtimeFails primary reason
    capture = report
  have hverdict : HasVerdict report := by
    subst hreport
    constructor
    · simp only [phase42aStatusFields, List.forall_mem_cons, List.not_mem_nil, false_imp_iff,
        implies_true, and_true]
      exact ⟨⟨!implementationFails, rfl⟩, ⟨!runtimeFails, rfl⟩, ⟨false, rfl⟩, ⟨false, rfl⟩⟩
    · simp only [verdictFieldNames, List.forall_mem_cons, List.not_mem_nil, false_imp_iff,
        implies_true, and_true]
      exact ⟨rfl, rfl, rfl, rfl, rfl, rfl, rfl, rfl⟩
  have hrate : (report.get "horizon_100ms").asDict.get "valid_rate_eligible_rows" = .float 0 := by
    subst hreport
    rfl
  have hhorizon : ∃ rest, report.get "horizon_100ms" =
      .obj (("max_future_gap_ms", .int 100) :: rest) := by
    subst hreport
    exact ⟨_, rfl⟩
  obtain ⟨rest, hgap⟩ := hhorizon
  obtain ⟨first, last, hfound⟩ := hverdict.findings hgap
  have hlabels : labelRateFindings report false ≠ [] := by
    simp [labelRateFindings, foundWhen, hrate, Json.num, Json.toFinite?, Json.toFloat?,
      required100msValidRate]
  refine ⟨_, ⟨hverdict, ?_, ?_, ?_, hfound⟩, by simp [hlabels]⟩
  · exact ⟨_, hreport.symm⟩
  · subst hreport
    rfl
  · subst hreport
    exact ⟨_, rfl⟩

/-- Something is wrong with the report of a capture exactly when it is not there or cannot be
read. -/
theorem runtimeErrors_eq_nil_iff {quality : Json} {errors : List String}
    (h : run.runtimeQuality = .ok (quality, errors)) :
    errors = [] ↔ ¬ (run.skipCapture = false ∧ ∀ value, run.phase41 ≠ .loaded value) := by
  rw [Recapture.runtimeQuality] at h
  cases hskip : run.skipCapture with
  | true =>
      rw [hskip] at h
      obtain ⟨-, rfl⟩ := Prod.mk.inj (Except.ok.inj h)
      simp
  | false =>
      rw [hskip] at h
      cases hfile : run.phase41 with
      | missing =>
          rw [hfile] at h
          obtain ⟨-, rfl⟩ := Prod.mk.inj (Except.ok.inj h)
          simp
      | invalid exc =>
          rw [hfile] at h
          obtain ⟨-, rfl⟩ := Prod.mk.inj (Except.ok.inj h)
          simp
      | loaded value =>
          rw [hfile] at h
          have hnone : errors = [] := by
            cases value with
            | obj fields => exact (Prod.mk.inj (Except.ok.inj h)).2.symm
            | _ => cases h
          simp [hnone]

/-- The errors of the report of a capture fail the analysis by hand. -/
theorem Analyzed.noteRuntimeErrors {report noted : Json} (h : Analyzed report found)
    {errors : List String} (hnoted : SomethingTrade.noteRuntimeErrors report errors = .ok noted) :
    Finds noted found ∧ (noted.get "definition_of_done_status").isText "pass" =
      (found.isEmpty && errors.isEmpty) := by
  rw [SomethingTrade.noteRuntimeErrors] at hnoted
  cases errors with
  | nil =>
      obtain rfl := Except.ok.inj hnoted
      exact ⟨h.toFinds, by rw [h.done]; simp⟩
  | cons error errors =>
      obtain ⟨report', hreport', hfinds, hdone⟩ :=
        @Finds.lateFailure _ _ h.toFinds ["runtime_status"] (by decide)
          ((report.get "primary_failure").orElse (.str "phase_4_1_1_runtime_report_missing"))
          (error :: errors)
      obtain rfl := Except.ok.inj (hreport'.symm.trans hnoted)
      exact ⟨hfinds, by rw [hdone]; simp⟩

/-- **The end of a run whose analysis passes.** -/
theorem verdicts_of_finishBundle {report : Json} (h : Finds report [])
    (hran : (run.skipPytest = true ∨ run.pytestCode = 0) ∧
      (run.skipCapture = true ∨ run.captureCode = 0))
    (hread : ¬ (run.skipCapture = false ∧ ∀ value, run.phase41 ≠ .loaded value))
    (hbundles : run.noBundle = false) (hfinished : finishBundle run report = .ok result) :
    VerdictsAgree run result := by
  rw [finishBundle] at hfinished
  cases herror : run.bundleError with
  | none =>
      have hflagged : Finds (report.setField "bundle_created" (.bool true)) [] := by
        have hname : "bundle_created" ∉ phase42aStatusFields ∧
            "bundle_created" ≠ "warning_reasons" ∧ "bundle_created" ≠ "hard_fail_reasons" := by
          decide
        exact h.setField ⟨.inr rfl, fun hmem => absurd hmem hname.1,
          fun heq => absurd heq hname.2.1, fun heq => absurd heq hname.2.2⟩
      obtain ⟨artifacts, hwritten, hevaluated, hpassed, hclassified, hcreated⟩ :=
        hflagged.write true
      simp only [herror, hwritten] at hfinished
      obtain rfl := Except.ok.inj hfinished
      refine .of_passed hevaluated hpassed (hclassified rfl) hran ?_ ?_
      · exact ⟨fun _ hlate => hlate.elim hread fun hbundle => hbundle.2 herror, fun _ => rfl⟩
      · exact ⟨fun _ => ⟨rfl, hbundles⟩, fun _ => hcreated⟩
  | some exc =>
      obtain ⟨failed, hfailed, hfinds, -⟩ := @Finds.lateFailure _ _ h []
        (fun _ harea => absurd harea List.not_mem_nil) (.str "bundle_failure")
        ["bundle failure: " ++ exc]
      obtain ⟨artifacts, hwritten, hevaluated, hpassed, hclassified, hcreated⟩ :=
        hfinds.write false
      simp only [herror, hfailed, hwritten, bind, Except.bind] at hfinished
      obtain rfl := Except.ok.inj hfinished
      have hlate : run.FailsLate := .inr ⟨hbundles, by simp [herror]⟩
      refine .of_passed hevaluated hpassed (hclassified rfl) hran ?_ ?_
      · exact ⟨fun hcode => absurd hcode Int.one_ne_zero, fun hnot => absurd hlate hnot⟩
      · rw [hcreated]
        exact ⟨fun hfalse => absurd hfalse Bool.false_ne_true,
          fun hcode => absurd hcode.1 Int.one_ne_zero⟩

/-- A run that ends before its analysis has failed, and its report says so. -/
theorem verdicts_of_endEarly {code : ℤ} (hcode : code ≠ 0) {symbol primary reason : String}
    {implementationFails runtimeFails : Bool} {capture : Phase42aCapture}
    (h : endEarly code (minimalFailureReport symbol implementationFails runtimeFails primary reason
      capture) = .ok result) : VerdictsAgree run result := by
  obtain ⟨found, hfinds, hsome⟩ := finds_minimalFailureReport symbol implementationFails
    runtimeFails primary reason capture
  obtain ⟨artifacts, hwritten, hevaluated, hpassed, -, hcreated⟩ := hfinds.write false
  rw [endEarly, hwritten] at h
  obtain rfl := Except.ok.inj h
  exact .of_failed hevaluated hpassed hsome hcode hcreated

/-- **What comes after the analysis.** The status of the report decides, and it is worse than what
is found when the report of the capture was not read. -/
theorem verdicts_of_finishAnalysis {report : Json} {errors : List String}
    (hfinds : Finds report found)
    (hdone : (report.get "definition_of_done_status").isText "pass" =
      (found.isEmpty && errors.isEmpty))
    (hran : (run.skipPytest = true ∨ run.pytestCode = 0) ∧
      (run.skipCapture = true ∨ run.captureCode = 0))
    (herrors : errors = [] ↔
      ¬ (run.skipCapture = false ∧ ∀ value, run.phase41 ≠ .loaded value))
    (h : finishAnalysis run report = .ok result) : VerdictsAgree run result := by
  obtain ⟨artifacts, hwritten, hevaluated, hpassed, hclassified, hcreated⟩ := hfinds.write false
  rw [finishAnalysis] at h
  obtain ⟨written, hsame, h⟩ := exists_of_bind_eq_ok h
  obtain rfl := Except.ok.inj (hsame.symm.trans hwritten)
  rw [hdone] at h
  cases found with
  | cons finding found =>
      obtain ⟨classification, -, h⟩ := exists_of_bind_eq_ok h
      obtain rfl := Except.ok.inj h
      exact .of_failed hevaluated hpassed (List.cons_ne_nil _ _) Int.one_ne_zero hcreated
  | nil =>
      cases errors with
      | cons error errors =>
          -- only the report of the capture has failed the run
          obtain ⟨classification, -, h⟩ := exists_of_bind_eq_ok h
          obtain rfl := Except.ok.inj h
          have hlate : run.FailsLate :=
            .inl (not_not.mp fun hnot => List.cons_ne_nil _ _ (herrors.mpr hnot))
          refine .of_passed hevaluated hpassed (hclassified rfl) hran ?_ ?_
          · exact ⟨fun hcode => absurd hcode Int.one_ne_zero, fun hnot => absurd hlate hnot⟩
          · rw [hcreated]
            exact ⟨fun hfalse => absurd hfalse Bool.false_ne_true,
              fun hcode => absurd hcode.1 Int.one_ne_zero⟩
      | nil =>
          have hread := herrors.mp rfl
          cases hbundle : run.noBundle with
          | true =>
              rw [hbundle] at h
              obtain rfl := Except.ok.inj h
              refine .of_passed hevaluated hpassed (hclassified rfl) hran ?_ ?_
              · exact ⟨fun _ hlate => hlate.elim hread fun hmade => by simp [hbundle] at hmade,
                  fun _ => rfl⟩
              · rw [hcreated, hbundle]
                exact ⟨fun hfalse => absurd hfalse Bool.false_ne_true,
                  fun hboth => absurd hboth.2.symm Bool.false_ne_true⟩
          | false =>
              rw [hbundle] at h
              exact verdicts_of_finishBundle hfinds hran hread hbundle h

/-- **The two verdicts on a run** agree, but for the failures that show only after the analysis:
then the process fails and the report that it leaves passes, without a reason. -/
theorem recapture_verdicts (h : recapture run = .ok result) : VerdictsAgree run result := by
  rw [recapture] at h
  dsimp only at h
  split at h
  · rename_i htests
    exact verdicts_of_endEarly htests.2 h
  rename_i htests
  split at h
  · rename_i hcapture
    exact verdicts_of_endEarly hcapture.2 h
  rename_i hcapture
  have hran : (run.skipPytest = true ∨ run.pytestCode = 0) ∧
      (run.skipCapture = true ∨ run.captureCode = 0) := by
    constructor
    · by_contra hnot
      exact htests ⟨by simpa using fun hs => hnot (.inl hs), fun hc => hnot (.inr hc)⟩
    · by_contra hnot
      exact hcapture ⟨by simpa using fun hs => hnot (.inl hs), fun hc => hnot (.inr hc)⟩
  obtain ⟨⟨quality, errors⟩, hquality, h⟩ := exists_of_bind_eq_ok h
  obtain ⟨analysis, hanalysis, h⟩ := exists_of_bind_eq_ok h
  obtain ⟨report, hnoted, h⟩ := exists_of_bind_eq_ok h
  obtain ⟨found, hanalyzed⟩ := analyzed_of_analysis hanalysis
  obtain ⟨hfinds, hdone⟩ := hanalyzed.noteRuntimeErrors hnoted
  exact verdicts_of_finishAnalysis hfinds hdone hran (runtimeErrors_eq_nil_iff hquality) h

end

/-- A run with two samples whose bundle cannot be made. -/
def bundlelessRecapture : Recapture :=
  { symbol := "BTCUSDT"
    durationSec := 1800
    skipCapture := true
    skipPytest := true
    noBundle := false
    cleanPath := "clean.jsonl"
    labeledPath := "labeled.jsonl"
    phase41Path := "report.json"
    pytestCode := 0
    captureCode := 0
    phase41 := .missing
    samples := some [.decoded (validSampleAt 0), .decoded (validSampleAt 100000000)]
    bundleError := some "disk full" }

theorem recapture_verdicts_bundleless : ∃ result, recapture bundlelessRecapture = .ok result ∧
    result.exitCode = 1 ∧ result.artifacts.passed = true ∧
    VerdictsAgree bundlelessRecapture result := by
  have hends : (recapture bundlelessRecapture).toOption.map (fun result =>
      (result.exitCode, result.artifacts.passed)) = some (1, true) := by
    decide +kernel
  cases hrun : recapture bundlelessRecapture with
  | error e =>
      rw [hrun] at hends
      cases hends
  | ok result =>
      rw [hrun] at hends
      obtain ⟨hcode, hpassed⟩ := Prod.mk.inj (Option.some.inj hends)
      exact ⟨result, rfl, hcode, hpassed, recapture_verdicts hrun⟩

end SomethingTrade
