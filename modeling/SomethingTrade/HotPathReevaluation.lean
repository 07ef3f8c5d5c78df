import SomethingTrade.HotPathBuild
import SomethingTrade.Reevaluation

/-!
# Second Evaluations of the Hot Path

The evaluation of the report of the hot path reads a report that it rewrites. What its checks look
at is the same before and after, though: they read the queue as it is normalized, and a second
normalization leaves it; of the fields that are written they only read whether they are there. So
a second evaluation finds nothing new.

## Main results

* `SameEvidence.findings`: the checks find nothing new in a report with the same evidence.
* `outcome_again`: a second evaluation says the same.
-/

namespace SomethingTrade

/-! ### Reports with the same evidence -/

/-- The fields that only the evaluation of the hot path writes. -/
def profileFieldNames : List String :=
  ["latency_profile_validation", "queue_backpressure_summary",
    "queue_backpressure_artifact_normalization"]

/-- The fields that the evaluation writes. -/
def written42h : List String :=
  ["implementation_status", "fresh_capture_status", "clock_sync_status",
    "readiness_semantics_status", "latency_profile_status", "hot_path_decoupling_status",
    "writer_status", "strict_100ms_observability_status", "protocol_decision_status"] ++
  verdictFields ++ profileFieldNames

/-- Another report has the evidence of a report: they differ in fields that an evaluation writes
only, the queues are normalized to one, and no field is missing that was there. -/
structure SameEvidence (report other : Json) : Prop where
  unwritten : ∀ k, k ∉ written42h → other.get? k = report.get? k
  queue : normalizedQueue other = normalizedQueue report
  performed : (other.get "queue_backpressure_summary").asDict.get "performed" =
    (report.get "queue_backpressure_summary").asDict.get "performed"
  kept : ∀ k ∈ written42h, (report.get? k).isSome = true → (other.get? k).isSome = true

namespace SameEvidence

variable {identical : Json → Json → Bool} {report other : Json}

theorem get_eq (h : SameEvidence report other) {k : String} (hk : k ∉ written42h) :
    other.get k = report.get k :=
  congrArg (·.getD .null) (h.unwritten k hk)

theorem embeddedPhase41Status_eq (h : SameEvidence report other) :
    embeddedPhase41Status other = embeddedPhase41Status report := by
  rw [embeddedPhase41Status, embeddedPhase41Status, h.get_eq (by decide), h.get_eq (by decide)]

/-- The profile is validated the same. -/
theorem latencyValidation_eq (h : SameEvidence report other) :
    latencyValidation other = latencyValidation report := by
  rw [latencyValidation, latencyValidation, h.get_eq (by decide), h.get_eq (by decide)]

/-- What is measured is the same. -/
theorem measuredFindings_eq (h : SameEvidence report other) :
    measuredFindings42h other = measuredFindings42h report := by
  have hget (k : String) (hk : k ∉ written42h) : other.get k = report.get k := h.get_eq hk
  have hprofile : profileFindings other = profileFindings report := by
    rw [profileFindings, profileFindings, h.latencyValidation_eq, hget _ (by decide)]
  have hchecks : testFindings42h other = testFindings42h report ∧
      phase41Findings other = phase41Findings report ∧
      artifactRuleFindings other = artifactRuleFindings report ∧
      freshFindings42h other = freshFindings42h report ∧
      policyFindings42fg other = policyFindings42fg report ∧
      clockFindings42fg other = clockFindings42fg report ∧
      queueFindings other = queueFindings report ∧
      writerFindings other = writerFindings report := by
    refine ⟨?_, ?_, ?_, ?_, ?_, ?_, ?_, ?_⟩
    all_goals
      simp only [testFindings42h, phase41Findings, artifactRuleFindings, cleanupFindings,
        freshFindings42h, guardFindings, finalDurationRequired, policyFindings42fg,
        clockFindings42fg, queueFindings, writerFindings, h.embeddedPhase41Status_eq, h.queue,
        h.performed]
      repeat rw [hget]
    all_goals decide
  obtain ⟨htests, hphase41, hrules, hfresh, hpolicy, hclock, hqueue, hwriter⟩ := hchecks
  rw [measuredFindings42h, measuredFindings42h, hprofile, htests, hphase41, hrules, hfresh,
    hpolicy, hclock, hqueue, hwriter, hget "leakage_check" (by decide), hget "sources" (by decide)]

/-- The readiness is judged the same. -/
theorem readinessFindings_eq (h : SameEvidence report other) :
    readinessFindings42h identical other = readinessFindings42h identical report := by
  have hget (k : String) (hk : k ∉ written42h) : other.get k = report.get k := h.get_eq hk
  simp only [readinessFindings42h, readinessIsStrict, h.embeddedPhase41Status_eq]
  repeat rw [hget]
  all_goals decide

/-- The warnings are the same. -/
theorem warnings_eq (h : SameEvidence report other) : warnings42h other = warnings42h report := by
  have hget (k : String) (hk : k ∉ written42h) : other.get k = report.get k := h.get_eq hk
  simp only [warnings42h, h.queue]
  repeat rw [hget]
  all_goals decide

/-- The errors of the schema are among those before: what is missing was missing. -/
theorem mem_errors (h : SameEvidence report other) {error : String}
    (herror : error ∈ validatePhase42hReportSchema identical other) :
    error ∈ validatePhase42hReportSchema identical report := by
  have hget (k : String) (hk : k ∉ written42h) : other.get k = report.get k := h.get_eq hk
  have hothers : (phase42hSchema identical).others other =
      (phase42hSchema identical).others report := by
    simp only [phase42hSchema, readinessIsStrict]
    repeat rw [hget]
    all_goals decide
  simp only [validatePhase42hReportSchema, ReportSchema.errorsOf, List.mem_append] at herror ⊢
  rw [hothers] at herror
  rcases herror with (hmissing | hinvalid) | hother
  · refine Or.inl (Or.inl ?_)
    rw [ReportSchema.missing, List.mem_map] at hmissing ⊢
    obtain ⟨field, hfield, htext⟩ := hmissing
    rw [List.mem_filter] at hfield
    refine ⟨field, List.mem_filter.mpr ⟨hfield.1, ?_⟩, htext⟩
    by_cases hwritten : field ∈ written42h
    · cases hreport : report.get? field with
      | none => rfl
      | some value =>
          have hkept := h.kept field hwritten (by rw [hreport]; rfl)
          rw [Option.isSome_iff_ne_none] at hkept
          exact absurd (Option.isNone_iff_eq_none.mp hfield.2) hkept
    · rw [← h.unwritten field hwritten]
      exact hfield.2
  · cases hinvalid
  · exact Or.inr hother

/-- **The checks find nothing new** in a report with the same evidence. -/
theorem findings (h : SameEvidence report other) {found : List Finding}
    (hfound : findings42h identical report = .ok found) :
    ∃ found', findings42h identical other = .ok found' ∧ ∀ f ∈ found', f ∈ found := by
  rw [findings42h] at hfound
  rcases hmeasured : measuredFindings42h report with e | measured
  · simp [hmeasured, bind, Except.bind] at hfound
  simp only [hmeasured, bind, Except.bind, pure, Except.pure] at hfound
  obtain rfl := Except.ok.inj hfound
  refine ⟨schemaFindings (validatePhase42hReportSchema identical other) ++ measured ++
    readinessFindings42h identical other, ?_, ?_⟩
  · rw [findings42h, h.measuredFindings_eq, hmeasured]
    rfl
  · intro f hf
    rw [h.readinessFindings_eq] at hf
    simp only [List.mem_append] at hf ⊢
    rcases hf with (hschema | hmem) | hmem
    · obtain ⟨error, herror, rfl⟩ := List.mem_map.mp hschema
      exact Or.inl (Or.inl (List.mem_map_of_mem (h.mem_errors herror)))
    · exact Or.inl (Or.inr hmem)
    · exact Or.inr hmem

end SameEvidence

/-! ### The evaluation -/

theorem Json.asDict_of_isObj {j : Json} (h : j.IsObj) : j.asDict = j := by
  obtain ⟨fields, rfl⟩ := h
  rfl

theorem Json.isObj_asDict (j : Json) : j.asDict.IsObj := by
  cases j <;> exact ⟨_, rfl⟩

section Evaluation

variable {identical : Json → Json → Bool} {report evaluated : Json}

theorem written42h_eq : written42h = (phase42h identical).written ++ profileFieldNames := rfl

/-- The verdict and the other fields are written apart. -/
theorem notMem_profileFieldNames {k : String} (h : k ∈ (phase42h identical).written) :
    k ∉ profileFieldNames := by
  have hnodup : written42h.Nodup := by decide
  rw [@written42h_eq identical, List.nodup_append] at hnodup
  exact fun hname => hnodup.2.2 k h k hname rfl

theorem profileFields_sublist (validation : Json) :
    ((profileFields report validation).map Prod.fst).Sublist profileFieldNames := by
  rw [profileFields, profileFieldNames]
  split <;> simp

/-- What the evaluation writes besides the verdict is none of the verdict's fields. -/
theorem profileFields_apart {validation : Json} :
    ∀ k ∈ (phase42h identical).written, k ∉ (profileFields report validation).map Prod.fst :=
  fun _ hk hmem => notMem_profileFieldNames hk ((profileFields_sublist validation).subset hmem)

/-- What an evaluation of the hot path does to a report. -/
structure Evaluated42h (identical : Json → Json → Bool) (report evaluated : Json)
    (v : ReportVerdict) (found : List Finding) : Prop where
  findings : findings42h identical report = .ok found
  validates : ∃ validation, latencyValidation report = .ok validation
  carries : (phase42h identical).Carries report evaluated v found
  warnings : ∃ first, (phase42h identical).evaluate report = .ok first ∧
    evaluated.get? "warning_reasons" = first.get? "warning_reasons"
  queue : evaluated.get? "queue_backpressure_summary" = some (normalizedQueue report)
  evidence : SameEvidence report evaluated

/-- What is read of a normalized queue that was written. -/
theorem normalizedQueue_of_written
    (hunwritten : ∀ k, k ∉ written42h → evaluated.get? k = report.get? k)
    (hqueue : evaluated.get? "queue_backpressure_summary" = some (normalizedQueue report)) :
    normalizedQueue evaluated = normalizedQueue report := by
  have hget (k : String) (hk : k ∉ written42h) : evaluated.get k = report.get k :=
    congrArg (·.getD .null) (hunwritten k hk)
  have hobj : (report.get "queue_backpressure_summary").asDict.IsObj := Json.isObj_asDict _
  have hsummary : (evaluated.get "queue_backpressure_summary").asDict = normalizedQueue report := by
    rw [Json.get, hqueue]
    exact Json.asDict_of_isObj (isObj_normalizeQueue hobj)
  have hprefers : prefersLatencyProfile evaluated = prefersLatencyProfile report := by
    rw [prefersLatencyProfile, hget _ (by decide), hget _ (by decide), prefersLatencyProfile]
  rw [normalizedQueue, hsummary, hprefers, hget _ (by decide)]
  exact normalizeQueue_again hobj

/-- **What an evaluation did**, given what it has read. -/
theorem evaluated42h_of_evaluated {first validation : Json} {v : ReportVerdict}
    {found : List Finding} (hfirst : (phase42h identical).evaluate report = .ok first)
    (hvalidation : latencyValidation report = .ok validation)
    (h : (phase42h identical).Evaluated report first v found) :
    Evaluated42h identical report (writeFields first (profileFields report validation)) v found := by
  set evaluated := writeFields first (profileFields report validation) with hevaluated
  have hcarries : (phase42h identical).Carries report evaluated v found :=
    h.carries_writeFields profileFields_apart
  have hverdict {k : String} (hk : k ∈ (phase42h identical).written) :
      evaluated.get? k = first.get? k :=
    get?_writeFields_of_notMem (profileFields_apart k hk)
  have hunwritten : ∀ k, k ∉ written42h → evaluated.get? k = report.get? k := by
    intro k hk
    rw [@written42h_eq identical, List.mem_append, not_or] at hk
    rw [hevaluated, get?_writeFields_of_notMem, h.unwritten k hk.1]
    exact fun hmem => hk.2 ((profileFields_sublist validation).subset hmem)
  have hnames : profileFieldNames.Nodup := by decide
  have hnodup := hnames.sublist (@profileFields_sublist report validation)
  have hqueue : evaluated.get? "queue_backpressure_summary" = some (normalizedQueue report) :=
    get?_writeFields_of_mem h.isObj hnodup (.tail _ (.head _))
  have hobj : (normalizedQueue report).IsObj := isObj_normalizeQueue (Json.isObj_asDict _)
  have hsummary : evaluated.get "queue_backpressure_summary" = normalizedQueue report :=
    congrArg (·.getD .null) hqueue
  refine ⟨h.findings, ⟨validation, hvalidation⟩, hcarries, ⟨first, hfirst, hverdict ?_⟩, hqueue,
    hunwritten, ?_, ?_, ?_⟩
  · exact List.mem_append_right _ (by decide)
  · exact normalizedQueue_of_written hunwritten hqueue
  · rw [hsummary, Json.asDict_of_isObj hobj, Json.get, normalizedQueue,
      get?_normalizeQueue (by decide)]
    rfl
  · intro k hk hsome
    rw [@written42h_eq identical, List.mem_append] at hk
    rcases hk with hk | hk
    · rw [hverdict hk]
      exact h.isSome_get? hk
    · by_cases hmem : k ∈ (profileFields report validation).map Prod.fst
      · obtain ⟨⟨name, value⟩, hentry, rfl⟩ := List.mem_map.mp hmem
        rw [hevaluated, get?_writeFields_of_mem h.isObj hnodup hentry]
        rfl
      · have hapart : k ∉ (phase42h identical).written := fun hwritten =>
          notMem_profileFieldNames hwritten hk
        rw [hevaluated, get?_writeFields_of_notMem hmem, h.unwritten k hapart]
        exact hsome

theorem evaluatePhase42hReport_of_ok {first validation : Json}
    (hfirst : (phase42h identical).evaluate report = .ok first)
    (hvalidation : latencyValidation report = .ok validation) :
    evaluatePhase42hReport identical report =
      .ok (writeFields first (profileFields report validation)) := by
  rw [evaluatePhase42hReport, hfirst]
  simp only [hvalidation, bind, Except.bind, pure, Except.pure]

/-- **What an evaluation did**, when it returns. -/
theorem evaluated42h_of_eq_ok (h : evaluatePhase42hReport identical report = .ok evaluated) :
    ∃ v found, Evaluated42h identical report evaluated v found := by
  rcases hfirst : (phase42h identical).evaluate report with e | first
  · simp [evaluatePhase42hReport, hfirst, bind, Except.bind] at h
  rcases hvalidation : latencyValidation report with e | validation
  · simp [evaluatePhase42hReport, hfirst, hvalidation, bind, Except.bind] at h
  obtain rfl := Except.ok.inj (h.symm.trans (evaluatePhase42hReport_of_ok hfirst hvalidation))
  obtain ⟨v, found, hevaluated⟩ := Evaluator.evaluated_of_eq_ok hfirst
  exact ⟨v, found, evaluated42h_of_evaluated hfirst hvalidation hevaluated⟩

/-! ### A second evaluation -/

variable {v v' : ReportVerdict} {found found' : List Finding}

/-- Every status ends the same: it is kept, or is that of the strict readiness, which no evaluation
writes. -/
theorem Evaluated42h.ending_eq (h : Evaluated42h identical report evaluated v found)
    (hsub : ∀ f ∈ found', f ∈ found) :
    ∀ rule ∈ (phase42h identical).statuses,
      rule.ending evaluated v'.classifications found' =
        rule.ending report v.classifications found := by
  intro rule hrule
  have hended := h.carries.statuses rule hrule
  simp only [phase42h, List.mem_cons, List.not_mem_nil, or_false] at hrule
  rcases hrule with rfl | rfl | rfl | rfl | rfl | rfl | rfl | rfl | rfl
  pick_goal 8
  · have hready : evaluated.get "strict_100ms_observability_ready" =
        report.get "strict_100ms_observability_ready" :=
      h.evidence.get_eq (by decide)
    refine StatusRule.ending_eq_of_start_eq (fun _ => rfl) (fun _ _ => rfl) ?_
    exact congrArg (fun value => if Json.isTrue value then "pass" else "fail") hready
  all_goals exact StatusRule.ending_kept hsub hended

theorem notMem_warnings42h (report : Json) : "" ∉ warnings42h report := by
  simp only [warnings42h, textWhen, List.mem_append, not_or]
  refine ⟨⟨⟨⟨⟨?_, ?_⟩, ?_⟩, ?_⟩, ?_⟩, ?_⟩
  all_goals split <;> decide

/-- The fields that a second evaluation leaves. -/
def hotPathOutcome (identical : Json → Json → Bool) : List String :=
  (phase42h identical).outcome ++ ["warning_reasons", "queue_backpressure_summary"]

/-- **A second evaluation says the same.** -/
theorem Evaluated42h.outcome_again (h : Evaluated42h identical report evaluated v found) :
    SameVerdict (evaluatePhase42hReport identical) (hotPathOutcome identical) evaluated := by
  obtain ⟨found', hfound', hsub⟩ := h.evidence.findings h.findings
  obtain ⟨first', hfirst', hevaluated', hfields⟩ := h.carries.again hfound' hsub
  obtain ⟨validation, hvalidation⟩ := h.validates
  have hvalidation' := h.evidence.latencyValidation_eq.trans hvalidation
  have h' := evaluated42h_of_evaluated hfirst' hvalidation' hevaluated'
  refine ⟨_, evaluatePhase42hReport_of_ok hfirst' hvalidation', fun field hfield => ?_⟩
  rcases List.mem_append.mp hfield with houtcome | hother
  · exact h.carries.outcome_eq h'.carries hfields (h.ending_eq hsub) field houtcome
  · simp only [List.mem_cons, List.not_mem_nil, or_false] at hother
    rcases hother with rfl | rfl
    · obtain ⟨first, hfirst, hwarnings⟩ := h.warnings
      obtain ⟨again, hagain, hwarnings'⟩ := h'.warnings
      rw [hwarnings', hwarnings]
      exact Evaluator.warningReasons_again hfirst h.findings hwarnings hagain hfound'
        h.evidence.warnings_eq (notMem_warnings42h report)
    · rw [h'.queue, h.evidence.queue, h.queue]

/-! ### Reasons that are added -/

/-- A report lists texts in a field. -/
def Lists (report : Json) (field : String) (texts : List String) : Prop :=
  report.get? field = some (.arr (texts.map .str))

theorem Lists.unique {field : String} {xs ys : List String} (hxs : Lists report field xs)
    (hys : Lists report field ys) : xs = ys := by
  have heq := Option.some.inj (hxs.symm.trans hys)
  exact List.map_injective_iff.mpr (fun _ _ => Json.str.inj) (Json.arr.inj heq)

/-- The reasons that an evaluated report lists. -/
theorem Evaluated42h.lists_hard (h : Evaluated42h identical report evaluated v found) :
    Lists evaluated "hard_fail_reasons" (fromKeys v.hard) :=
  h.carries.fields ("hard_fail_reasons", _) (.tail _ (.tail _ (.head _)))

/-- The classifications that an evaluated report lists. -/
theorem Evaluated42h.lists_classifications (h : Evaluated42h identical report evaluated v found) :
    Lists evaluated "failure_classifications" v.reread.classifications := by
  have hfield := h.carries.fields ("failure_classifications", _) (.tail _ (.head _))
  rw [Lists, hfield, ReportVerdict.reread]
  split <;> rfl

/-- An evaluated report fails exactly when it lists a reason. -/
theorem Evaluated42h.status_iff (h : Evaluated42h identical report evaluated v found)
    {reasons : List String} (hreasons : Lists evaluated "hard_fail_reasons" reasons) :
    evaluated.get? "status" = some (.str "fail") ↔ reasons ≠ [] := by
  obtain rfl := hreasons.unique h.lists_hard
  rw [h.carries.status, ne_eq, fromKeys_eq_nil]
  by_cases hnil : v.hard = [] <;> simp [hnil]

/-- Another list of reasons leaves the evidence. -/
theorem SameEvidence.setReasons (hobj : report.IsObj) (reasons : Json) :
    SameEvidence report (report.setField "hard_fail_reasons" reasons) := by
  have hne {k : String} (hk : "hard_fail_reasons" ≠ k) :
      (report.setField "hard_fail_reasons" reasons).get? k = report.get? k :=
    Json.get?_setField_of_ne report reasons hk
  have hget {k : String} (hk : "hard_fail_reasons" ≠ k) :
      (report.setField "hard_fail_reasons" reasons).get k = report.get k :=
    congrArg (·.getD .null) (hne hk)
  refine ⟨fun k hk => hne ?_, ?_, ?_, fun k _ hsome => ?_⟩
  · rintro rfl
    exact hk (by decide)
  · rw [normalizedQueue, normalizedQueue, prefersLatencyProfile, prefersLatencyProfile,
      hget (by decide), hget (by decide), hget (by decide), hget (by decide)]
  · rw [hget (by decide)]
  · by_cases hk : "hard_fail_reasons" = k
    · rw [← hk, hobj.get?_setField_self]
      rfl
    · rw [hne hk]
      exact hsome

/-- What is listed with other reasons. -/
theorem readVerdict_setReasons (hobj : report.IsObj) {listed : ReportVerdict} (items : List Json)
    (h : readVerdict report = .ok listed) :
    readVerdict (report.setField "hard_fail_reasons" (.arr items)) =
      .ok ⟨items.map Json.text, listed.classifications, listed.primary⟩ := by
  have hset := hobj.get?_setField_self "hard_fail_reasons" (.arr items)
  have hne {k : String} (hk : "hard_fail_reasons" ≠ k) :
      (report.setField "hard_fail_reasons" (.arr items)).get? k = report.get? k :=
    Json.get?_setField_of_ne report (.arr items) hk
  obtain ⟨-, hclassifications, hprimary⟩ := readVerdict_eq_ok h
  have hhard : listedTexts (report.setField "hard_fail_reasons" (.arr items))
      "hard_fail_reasons" = .ok (items.map Json.text) := by
    simp [listedTexts, Json.getD, hset, iterated, bind, Except.bind, pure, Except.pure]
  rw [listedTruthy, Json.getD, ← hne (by decide), ← Json.getD, ← listedTruthy] at hclassifications
  rw [readVerdict, hhard, hclassifications, Json.get, hne (by decide), hprimary]
  rfl

/-- A second evaluation that is given more reasons keeps every reason and classification and
fails. -/
def KeepsReasons (evaluate : Json → Except String Json) (evaluated : Json) (items : List Json)
    (reasons classifications : List String) : Prop :=
  ∃ again reasons' classifications',
    evaluate (evaluated.setField "hard_fail_reasons" (.arr items)) = .ok again ∧
      Lists again "hard_fail_reasons" reasons' ∧
      Lists again "failure_classifications" classifications' ∧
      (∀ reason ∈ reasons, reason ∈ reasons') ∧ (∀ item ∈ items, item.text ∈ reasons') ∧
      (∀ classification ∈ classifications, classification ∈ classifications') ∧
      again.get? "status" = some (.str "fail")

/-- **Reasons that are added stay**, with every reason and classification before. -/
theorem Evaluated42h.keepsReasons (h : Evaluated42h identical report evaluated v found)
    {items : List Json} {reasons classifications : List String}
    (hclassifications : Lists evaluated "failure_classifications" classifications)
    (hitems : ∀ reason ∈ reasons, .str reason ∈ items) (hne : items ≠ []) :
    KeepsReasons (evaluatePhase42hReport identical) evaluated items reasons classifications := by
  have hobj := h.carries.isObj
  have hevidence := SameEvidence.setReasons hobj (.arr items)
  obtain ⟨found', hfound', -⟩ := h.evidence.findings h.findings
  obtain ⟨added, hadded, -⟩ := hevidence.findings hfound'
  have hfindings : (phase42h identical).findings
      (evaluated.setField "hard_fail_reasons" (.arr items)) = .ok added := hadded
  obtain ⟨validation, hvalidation⟩ := h.validates
  have hvalidation' := (hevidence.latencyValidation_eq.trans
    h.evidence.latencyValidation_eq).trans hvalidation
  have hread := readVerdict_setReasons hobj items h.carries.readVerdict_eq
  have hother : "hard_fail_reasons" ≠ "warning_reasons" := by decide
  obtain ⟨texts, htexts⟩ := h.carries.warnings
  obtain ⟨warnings, hwarnings⟩ := exists_listedTruthy_of_get?
    ((Json.get?_setField_of_ne evaluated (.arr items) hother).trans htexts)
  obtain ⟨first, hfirst, hevaluated⟩ := Evaluator.evaluated_of_read
    (hobj.setField "hard_fail_reasons" (.arr items)) hread hwarnings hfindings
  have h' := evaluated42h_of_evaluated hfirst hvalidation' hevaluated
  obtain rfl := hclassifications.unique h.lists_classifications
  have hhard (item : Json) (hitem : item ∈ items) : item.text ∈ ((⟨items.map Json.text,
      v.reread.classifications, v.reread.primary⟩ : ReportVerdict).addAll added).hard := by
    rw [ReportVerdict.hard_addAll]
    exact List.mem_append_left _ (List.mem_map_of_mem hitem)
  have hsome : ((⟨items.map Json.text, v.reread.classifications,
      v.reread.primary⟩ : ReportVerdict).addAll added).hard ≠ [] := by
    obtain ⟨item, hitem⟩ := List.exists_mem_of_ne_nil items hne
    exact List.ne_nil_of_mem (hhard item hitem)
  refine ⟨_, _, _, evaluatePhase42hReport_of_ok hfirst hvalidation', h'.lists_hard,
    h'.lists_classifications, fun reason hreason => ?_, fun item hitem => ?_, fun c hc => ?_,
    (h'.status_iff h'.lists_hard).mpr ?_⟩
  · exact mem_fromKeys.mpr (hhard _ (hitems reason hreason))
  · exact mem_fromKeys.mpr (hhard item hitem)
  · rw [ReportVerdict.reread, if_neg hsome, mem_sortedSet, ReportVerdict.mem_classifications_addAll]
    exact Or.inl hc
  · rwa [ne_eq, fromKeys_eq_nil]

end Evaluation

end SomethingTrade
