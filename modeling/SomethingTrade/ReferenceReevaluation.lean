import SomethingTrade.Reevaluation

/-!
# Second Evaluations of Reference Reports

The report of the reference feeds sets all its statuses anew, and two of its checks look at what is
listed so far. A second evaluation finds listed what the first found after these checks, and misses
what the first forgot because there was no reason.

## Main results

* `settle42c_again`: a verdict with a reason is settled again as before.
* `stable42c_iff`: when a second evaluation agrees with the first.
-/

namespace SomethingTrade

/-! ### What an evaluation does -/

/-- The fields that the evaluation writes. -/
def written42c : List String :=
  ["implementation_status", "runtime_status", "benchmark_status", "definition_of_done_status",
    "status", "selected_reference_source_status", "warning_reasons", "primary_failure",
    "failure_classifications", "hard_fail_reasons"]

/-- The fields of a report that say how it was evaluated. -/
def outcome42c : List String :=
  ["implementation_status", "runtime_status", "benchmark_status", "definition_of_done_status",
    "primary_failure", "failure_classifications", "hard_fail_reasons"]

/-- What the evaluation does to a report. -/
structure Evaluated42c (report evaluated : Json) (listed v : ReportVerdict) (found : List Finding)
    (primary : Json) : Prop where
  isObj : evaluated.IsObj
  read : readVerdict report = .ok listed
  verdict : verdict42c report listed = .ok (v, found)
  named : namedFailure42c report v = .ok primary
  implementation : evaluated.get? "implementation_status" = some (domainStatus .implementation found)
  runtime : evaluated.get? "runtime_status" = some (domainStatus .runtime found)
  benchmark : evaluated.get? "benchmark_status" = some (domainStatus .benchmark found)
  done : evaluated.get? "definition_of_done_status" =
    some (.str (if v.hard = [] then "pass" else "fail"))
  fields : ∀ entry ∈ ({ v with primary := primary } : ReportVerdict).fields,
    evaluated.get? entry.1 = some entry.2
  warnings : ∃ items, evaluated.get? "warning_reasons" = some (.arr items)
  written : ∀ k ∈ written42c, (evaluated.get? k).isSome = true
  unwritten : ∀ k, k ∉ written42c → evaluated.get? k = report.get? k

section Evaluation

variable {report evaluated primary : Json} {listed v : ReportVerdict} {found : List Finding}

/-- What the evaluation writes when its parts are read. -/
theorem evaluated42c_of_read (hobj : report.IsObj) {warnings : List String}
    (hlisted : readVerdict report = .ok listed)
    (hwarnings : listedTexts report "warning_reasons" = .ok warnings)
    (hverdict : verdict42c report listed = .ok (v, found))
    (hnamed : namedFailure42c report v = .ok primary) :
    ∃ evaluated, evaluatePhase42cReport report = .ok evaluated ∧
      Evaluated42c report evaluated listed v found primary := by
  simp only [evaluatePhase42cReport, Evaluator.isDict_of_isObj hobj, hlisted, hwarnings, hverdict,
    hnamed, bind, Except.bind, pure, Except.pure, Bool.not_true, Bool.false_eq_true, if_false]
  set fields := _ ++ ({ v with primary := primary } : ReportVerdict).fields with hfields
  have hnames : fields.map Prod.fst = written42c := rfl
  have hnodup : (fields.map Prod.fst).Nodup := hnames ▸ by decide
  have hget {k : String} {x : Json} (h : (k, x) ∈ fields) :
      (writeFields report fields).get? k = some x :=
    get?_writeFields_of_mem hobj hnodup h
  refine ⟨_, rfl, isObj_writeFields hobj fields, hlisted, hverdict, hnamed, ?_, ?_, ?_, ?_,
    fun entry hentry => ?_, ?_, fun k hk => ?_, fun k hk => get?_writeFields_of_notMem (hnames ▸ hk)⟩
  · exact hget (.head _)
  · exact hget (.tail _ (.head _))
  · exact hget (.tail _ (.tail _ (.head _)))
  · exact hget (.tail _ (.tail _ (.tail _ (.head _))))
  · exact hget (List.mem_append_right _ hentry)
  · exact ⟨_, hget (.tail _ (.tail _ (.tail _ (.tail _ (.tail _ (.tail _ (.head _)))))))⟩
  · obtain ⟨entry, hentry, rfl⟩ := List.mem_map.mp (hnames ▸ hk)
    rw [hget hentry]
    rfl

/-- **What the evaluation did**, when it returns. -/
theorem evaluated42c_of_eq_ok (h : evaluatePhase42cReport report = .ok evaluated) :
    ∃ listed v found primary, Evaluated42c report evaluated listed v found primary := by
  have hreturns := h
  rw [evaluatePhase42cReport] at hreturns
  simp only [bind, Except.bind, pure, Except.pure] at hreturns
  split at hreturns
  · cases hreturns
  rename_i hdict
  split at hreturns
  · cases hreturns
  rename_i listed hlisted
  split at hreturns
  · cases hreturns
  rename_i warnings hwarnings
  split at hreturns
  · cases hreturns
  rename_i verdict hverdict
  obtain ⟨v, found⟩ := verdict
  split at hreturns
  · cases hreturns
  rename_i primary hnamed
  have hobj : report.IsObj := Evaluator.isObj_of_isDict (by simpa using hdict)
  obtain ⟨evaluated', heq, hevaluated⟩ :=
    evaluated42c_of_read hobj hlisted hwarnings hverdict hnamed
  obtain rfl := Except.ok.inj (h.symm.trans heq)
  exact ⟨listed, _, _, primary, hevaluated⟩

end Evaluation

/-! ### What is settled by the classifications -/

theorem mem_captureFindings42c {report : Json} {classifications : List String} {f : Finding}
    (h : f ∈ captureFindings42c report classifications) :
    f.classification = "FRESH_CAPTURE_NOT_PERFORMED" ∧ f.domain = .runtime := by
  obtain ⟨-, rfl⟩ := mem_findWhen.mp h
  exact ⟨rfl, rfl⟩

theorem mem_sourcelessFindings42c {report : Json} {classifications : List String} {f : Finding}
    (h : f ∈ sourcelessFindings42c report classifications) :
    f.classification = "NO_REFERENCE_SOURCE_PASSED_100MS" ∧ f.domain = .benchmark := by
  obtain ⟨-, rfl⟩ := mem_findWhen.mp h
  exact ⟨rfl, rfl⟩

theorem classifiedIn_lateFindings42c (report : Json) :
    ClassifiedIn ["REPORT_SCHEMA_FAILURE", "LABEL_VALID_RATE_FAILURE", "LABEL_LEAKAGE_FAILURE",
      "REFERENCE_TIMESTAMP_MONOTONIC_FAILURE", "FEATURE_LEAKAGE_FAILURE"]
      (lateFindings42c report) := by
  rw [lateFindings42c, classifiedIn_append, classifiedIn_findWhen]
  refine ⟨?_, fun _ => by decide⟩
  rw [selectedFindings42c]
  split
  · exact classifiedIn_findWhen.mpr fun _ => by decide
  · simp only [classifiedIn_append, classifiedIn_findWhen]
    exact ⟨⟨⟨fun _ => by decide, fun _ => by decide⟩, fun _ => by decide⟩, fun _ => by decide⟩

section Settle

variable (report : Json) (listed : ReportVerdict) (early measured : List Finding)

/-- What is found about the capture. -/
def capture42c : List Finding := captureFindings42c report (listed.addAll early).classifications

/-- The verdict after what was measured. -/
def measuredVerdict42c : ReportVerdict :=
  ((listed.addAll early).addNaming (capture42c report listed early)
    "MULTI_FEED_CAPTURE_INCOMPLETE").addAll measured

/-- What is found about the lack of a source. -/
def sourceless42c : List Finding :=
  sourcelessFindings42c report (measuredVerdict42c report listed early measured).classifications

theorem verdict_settle42c : (settle42c report listed early measured).1 =
    ((if sourceless42c report listed early measured ≠ [] && someSourceEmpty report then
        { measuredVerdict42c report listed early measured with
          classifications := insertNew
            (measuredVerdict42c report listed early measured).classifications
            "REFERENCE_FEED_EMPTY" }
      else measuredVerdict42c report listed early measured).addNaming
      (sourceless42c report listed early measured) "NO_REFERENCE_SOURCE_PASSED_100MS").addAll
      (lateFindings42c report) := rfl

theorem found_settle42c : (settle42c report listed early measured).2 =
    early ++ capture42c report listed early ++ measured ++
      sourceless42c report listed early measured ++ lateFindings42c report := rfl

theorem mem_classifications_measuredVerdict42c {c : String} :
    c ∈ (measuredVerdict42c report listed early measured).classifications ↔
      c ∈ listed.classifications ∨
      c ∈ (early ++ capture42c report listed early ++ measured).map Finding.classification := by
  simp only [measuredVerdict42c, ReportVerdict.mem_classifications_addAll,
    ReportVerdict.mem_classifications_addNaming, List.map_append, List.mem_append, or_assoc]

/-- Every finding is a reason. -/
theorem hard_settle42c : (settle42c report listed early measured).1.hard =
    listed.hard ++ (settle42c report listed early measured).2.map Finding.reason := by
  rw [settle42c]
  split <;> simp

/-- The classifications are those that were listed, those of the findings, and that of a source
without an event. -/
theorem mem_classifications_settle42c {c : String} :
    c ∈ (settle42c report listed early measured).1.classifications ↔
      c ∈ listed.classifications ∨
      c ∈ (settle42c report listed early measured).2.map Finding.classification ∨
      (sourceless42c report listed early measured ≠ [] ∧ someSourceEmpty report = true ∧
        c = "REFERENCE_FEED_EMPTY") := by
  set w := measuredVerdict42c report listed early measured with hw
  set sourceless := sourceless42c report listed early measured with hsourceless
  rw [verdict_settle42c, ← hw, ← hsourceless, ReportVerdict.mem_classifications_addAll,
    ReportVerdict.mem_classifications_addNaming, found_settle42c, ← hsourceless, List.map_append,
    List.map_append, List.mem_append, List.mem_append]
  by_cases hempty : sourceless ≠ [] ∧ someSourceEmpty report = true
  · simp only [hempty, ne_eq, not_false_eq_true, decide_true, Bool.and_self, if_true, mem_insertNew,
      hw, mem_classifications_measuredVerdict42c, true_and]
    tauto
  · have hif : (decide (sourceless ≠ []) && someSourceEmpty report) = false := by
      simpa using hempty
    simp only [hif, Bool.false_eq_true, if_false, hw, mem_classifications_measuredVerdict42c,
      ← and_assoc, hempty, false_and, or_false]
    tauto

/-- The failure that is named: the lack of a source, else a missing capture, else the first one. -/
theorem primary_settle42c : (settle42c report listed early measured).1.primary =
    if sourceless42c report listed early measured ≠ [] then .str "NO_REFERENCE_SOURCE_PASSED_100MS"
    else if capture42c report listed early ≠ [] then .str "MULTI_FEED_CAPTURE_INCOMPLETE"
    else (listed.addAll (early ++ measured ++ lateFindings42c report)).primary := by
  set w := measuredVerdict42c report listed early measured with hw
  set sourceless := sourceless42c report listed early measured with hsourceless
  rw [verdict_settle42c, ← hw, ← hsourceless]
  by_cases hnone : sourceless = []
  · simp only [hnone, ReportVerdict.addNaming, ne_eq, not_true_eq_false, decide_false,
      Bool.false_and, Bool.false_eq_true, if_false, if_true]
    by_cases hcapture : capture42c report listed early = []
    · have hmeasured : w = (listed.addAll early).addAll measured := by
        rw [hw, measuredVerdict42c, hcapture, ReportVerdict.addNaming, if_pos rfl]
      simp only [hcapture, not_true_eq_false, if_false, hmeasured, ← ReportVerdict.addAll_append]
    · have hnamed : w.primary = .str "MULTI_FEED_CAPTURE_INCOMPLETE" := by
        rw [hw, measuredVerdict42c, ReportVerdict.addNaming, if_neg hcapture]
        exact ReportVerdict.primary_addAll_of_truthy rfl measured
      rw [if_pos hcapture, ReportVerdict.primary_addAll_of_truthy (hnamed ▸ rfl), hnamed]
  · rw [if_pos hnone, ReportVerdict.addNaming, if_neg hnone]
    exact ReportVerdict.primary_addAll_of_truthy rfl _

/-- Every finding names a failure. -/
theorem truthy_primary_settle42c (h : (settle42c report listed early measured).2 ≠ []) :
    (settle42c report listed early measured).1.primary.truthy = true := by
  rw [primary_settle42c]
  split
  · rfl
  · rename_i hsourceless
    split
    · rfl
    · rename_i hcapture
      rw [not_not] at hsourceless hcapture
      rw [found_settle42c, hsourceless, hcapture, List.append_nil, List.append_nil] at h
      exact ReportVerdict.truthy_primary_addAll h

end Settle

/-- The check of the capture depends on one classification. -/
theorem captureFindings42c_congr {report : Json} {xs ys : List String}
    (h : "MULTI_FEED_CAPTURE_INCOMPLETE" ∈ xs ↔ "MULTI_FEED_CAPTURE_INCOMPLETE" ∈ ys) :
    captureFindings42c report xs = captureFindings42c report ys := by
  rw [captureFindings42c, captureFindings42c, decide_eq_decide.mpr (not_congr h)]

/-- The check for the lack of a source depends on two classifications. -/
theorem sourcelessFindings42c_congr {report : Json} {xs ys : List String}
    (h : ∀ c ∈ ["MULTI_FEED_CAPTURE_INCOMPLETE", "FRESH_CAPTURE_NOT_PERFORMED"],
      c ∈ xs ↔ c ∈ ys) :
    sourcelessFindings42c report xs = sourcelessFindings42c report ys := by
  rw [sourcelessFindings42c, sourcelessFindings42c,
    decide_eq_decide.mpr (not_congr (h _ (.head _))),
    decide_eq_decide.mpr (not_congr (h _ (.tail _ (.head _))))]

/-- A check of the capture finds no more when more is listed. -/
theorem captureFindings42c_subset {report : Json} {xs ys : List String} (h : ∀ c ∈ xs, c ∈ ys) :
    ∀ f ∈ captureFindings42c report ys, f ∈ captureFindings42c report xs := by
  intro f hf
  rw [captureFindings42c, mem_findWhen, Bool.and_eq_true, decide_eq_true_eq] at hf ⊢
  exact ⟨⟨hf.1.1, fun hmem => hf.1.2 (h _ hmem)⟩, hf.2⟩

section Again

variable {report primary : Json} {listed v : ReportVerdict}
  {early early' measured found : List Finding}

/-- The classifications that the check for the lack of a source looks at are listed before it. -/
theorem mem_measuredVerdict42c_iff (hsettled : settle42c report listed early measured = (v, found))
    {c : String} (hc : c ∈ ["MULTI_FEED_CAPTURE_INCOMPLETE", "FRESH_CAPTURE_NOT_PERFORMED"]) :
    c ∈ (measuredVerdict42c report listed early measured).classifications ↔
      c ∈ v.classifications := by
  have hv : (settle42c report listed early measured).1 = v := congrArg Prod.fst hsettled
  rw [mem_classifications_measuredVerdict42c, ← hv, mem_classifications_settle42c, found_settle42c]
  have hsourceless : c ∉ (sourceless42c report listed early measured).map
      Finding.classification := by
    intro hmem
    obtain ⟨f, hf, rfl⟩ := List.mem_map.mp hmem
    rw [(mem_sourcelessFindings42c hf).1] at hc
    revert hc
    decide
  have hlate : c ∉ (lateFindings42c report).map Finding.classification := by
    intro hmem
    obtain ⟨f, hf, rfl⟩ := List.mem_map.mp hmem
    have hclass := classifiedIn_lateFindings42c report f hf
    generalize f.classification = c at hc hclass
    revert c
    decide
  have hempty : c ≠ "REFERENCE_FEED_EMPTY" := by
    rintro rfl
    revert hc
    decide
  simp only [List.map_append, List.mem_append, hsourceless, hlate, hempty, and_false, or_false]

/-- What is listed when a verdict with a reason is read again: findings of the first time add
nothing. -/
theorem listed_reread_iff (hsettled : settle42c report listed early measured = (v, found))
    (hhard : v.hard ≠ []) {fs : List Finding} (hfs : ∀ f ∈ fs, f ∈ found) {c : String} :
    c ∈ ({ v with primary := primary } : ReportVerdict).reread.classifications ∨
      c ∈ fs.map Finding.classification ↔ c ∈ v.classifications := by
  have hv : (settle42c report listed early measured).1 = v := congrArg Prod.fst hsettled
  have hfound : (settle42c report listed early measured).2 = found := congrArg Prod.snd hsettled
  rw [ReportVerdict.reread, if_neg hhard, mem_sortedSet]
  refine ⟨?_, Or.inl⟩
  rintro (hc | hc)
  · exact hc
  · obtain ⟨f, hf, rfl⟩ := List.mem_map.mp hc
    rw [← hv, mem_classifications_settle42c, hfound]
    exact Or.inr (Or.inl (List.mem_map_of_mem (hfs f hf)))

section Settled

variable (hsettled : settle42c report listed early measured = (v, found)) (hhard : v.hard ≠ [])
  (hsub : ∀ f ∈ early', f ∈ early)

include hsettled

theorem found_of_settled : found = early ++ capture42c report listed early ++ measured ++
    sourceless42c report listed early measured ++ lateFindings42c report :=
  (congrArg Prod.snd hsettled).symm

include hsub

theorem mem_found_of_early {f : Finding} (hf : f ∈ early') : f ∈ found := by
  simp [found_of_settled hsettled, hsub f hf]

include hhard

/-- The check of the capture looks at what was listed in the end. -/
theorem capture42c_again :
    capture42c report ({ v with primary := primary } : ReportVerdict).reread early' =
      captureFindings42c report v.classifications :=
  captureFindings42c_congr <| ReportVerdict.mem_classifications_addAll.trans <|
    listed_reread_iff hsettled hhard fun _ hf => mem_found_of_early hsettled hsub hf

omit hhard hsub in
/-- What is listed in the end explains no capture that was explained before. -/
theorem mem_capture42c_of_mem {f : Finding} (hf : f ∈ captureFindings42c report v.classifications) :
    f ∈ capture42c report listed early := by
  refine captureFindings42c_subset (fun c hc => ?_) f hf
  have hv : (settle42c report listed early measured).1 = v := congrArg Prod.fst hsettled
  rw [ReportVerdict.mem_classifications_addAll] at hc
  rw [← hv, mem_classifications_settle42c, found_settle42c]
  rcases hc with hc | hc
  · exact Or.inl hc
  · simp only [List.map_append, List.mem_append, hc, true_or, or_true]

/-- The check for the lack of a source finds the same. -/
theorem sourceless42c_again :
    sourceless42c report ({ v with primary := primary } : ReportVerdict).reread early' measured =
      sourceless42c report listed early measured := by
  refine sourcelessFindings42c_congr fun c hc => ?_
  rw [mem_measuredVerdict42c_iff hsettled hc, mem_classifications_measuredVerdict42c,
    capture42c_again hsettled hhard hsub]
  refine listed_reread_iff hsettled hhard fun f hf => ?_
  rcases List.mem_append.mp hf with hf | hf
  · rcases List.mem_append.mp hf with hf | hf
    · exact mem_found_of_early hsettled hsub hf
    · simp [found_of_settled hsettled, mem_capture42c_of_mem hsettled hf]
  · simp [found_of_settled hsettled, hf]

/-- What is found when a verdict with a reason is settled again. -/
theorem found_again :
    (settle42c report ({ v with primary := primary } : ReportVerdict).reread early' measured).2 =
      early' ++ captureFindings42c report v.classifications ++ measured ++
        sourceless42c report listed early measured ++ lateFindings42c report := by
  rw [found_settle42c, capture42c_again hsettled hhard hsub, sourceless42c_again hsettled hhard hsub]

/-- Nothing new is found. -/
theorem mem_found_of_again {f : Finding} (hf : f ∈ (settle42c report
    ({ v with primary := primary } : ReportVerdict).reread early' measured).2) : f ∈ found := by
  rw [found_of_settled hsettled]
  simp only [found_again hsettled hhard hsub, List.mem_append] at hf ⊢
  rcases hf with (((hf | hf) | hf) | hf) | hf
  · exact Or.inl (Or.inl (Or.inl (Or.inl (hsub f hf))))
  · exact Or.inl (Or.inl (Or.inl (Or.inr (mem_capture42c_of_mem hsettled hf))))
  · exact Or.inl (Or.inl (Or.inr hf))
  · exact Or.inl (Or.inr hf)
  · exact Or.inr hf

/-- The failure that was named is named again. -/
theorem primary_again (hprimary : found ≠ [] → primary = v.primary) :
    (settle42c report ({ v with primary := primary } : ReportVerdict).reread early' measured).1.primary
      = primary := by
  have hv : (settle42c report listed early measured).1 = v := congrArg Prod.fst hsettled
  have hfirst := primary_settle42c report listed early measured
  rw [hv] at hfirst
  have hne {f : Finding} (hf : f ∈ found) : primary = v.primary :=
    hprimary (List.ne_nil_of_mem hf)
  rw [primary_settle42c, capture42c_again hsettled hhard hsub, sourceless42c_again hsettled hhard hsub]
  by_cases hsourceless : sourceless42c report listed early measured = []
  · rw [if_neg (not_not.mpr hsourceless)] at hfirst ⊢
    cases hcapture : captureFindings42c report v.classifications with
    | cons f fs =>
        have hf : f ∈ capture42c report listed early :=
          mem_capture42c_of_mem hsettled (hcapture ▸ List.mem_cons_self)
        rw [if_pos (List.cons_ne_nil f fs), hne (f := f) (by simp [found_of_settled hsettled, hf]),
          hfirst, if_pos (List.ne_nil_of_mem hf)]
    | nil =>
        have hreread : ({ v with primary := primary } : ReportVerdict).reread.primary = primary :=
          if_neg hhard
        rw [if_neg (not_not.mpr rfl)]
        by_cases hnil : early' ++ measured ++ lateFindings42c report = []
        · rw [hnil, ReportVerdict.addAll_nil, hreread]
        · obtain ⟨f, hf⟩ := List.exists_mem_of_ne_nil _ hnil
          have hfound : f ∈ found := by
            simp only [List.mem_append] at hf
            rcases hf with (hf | hf) | hf
            · exact mem_found_of_early hsettled hsub hf
            · simp [found_of_settled hsettled, hf]
            · simp [found_of_settled hsettled, hf]
          have htruthy : primary.truthy = true := by
            have hsame := truthy_primary_settle42c report listed early measured
            rw [hsettled] at hsame
            exact hne hfound ▸ hsame (List.ne_nil_of_mem hfound)
          exact (ReportVerdict.primary_addAll_of_truthy (hreread.symm ▸ htruthy) _).trans hreread
  · obtain ⟨f, hf⟩ := List.exists_mem_of_ne_nil _ hsourceless
    rw [if_pos hsourceless] at hfirst ⊢
    rw [hne (f := f) (by simp [found_of_settled hsettled, hf]), hfirst]

/-- **A verdict with a reason is settled again as before**: what was listed after the check of the
capture is listed now, so this check may find less, and nothing else changes. -/
theorem settle42c_again (hprimary : found ≠ [] → primary = v.primary) :
    (settle42c report ({ v with primary := primary } : ReportVerdict).reread early'
      measured).1.fields = ({ v with primary := primary } : ReportVerdict).fields := by
  have hv : (settle42c report listed early measured).1 = v := congrArg Prod.fst hsettled
  have hfound : (settle42c report listed early measured).2 = found := congrArg Prod.snd hsettled
  refine ReportVerdict.fields_eq_of_reread (hard_settle42c _ _ _ _) ?_ (fun _ c => ?_)
    fun _ => primary_again hsettled hhard hsub hprimary
  · intro r hr
    obtain ⟨f, hf, rfl⟩ := List.mem_map.mp hr
    have hreason : v.hard = listed.hard ++ found.map Finding.reason := by
      rw [← hv, ← hfound, hard_settle42c]
    have hmem : f.reason ∈ v.hard := by
      rw [hreason]
      exact List.mem_append_right _ (List.mem_map_of_mem (mem_found_of_again hsettled hhard hsub hf))
    exact hmem
  · rw [mem_classifications_settle42c, ← or_assoc, listed_reread_iff hsettled hhard fun f hf =>
      mem_found_of_again hsettled hhard hsub hf, sourceless42c_again hsettled hhard hsub]
    refine ⟨?_, Or.inl⟩
    rintro (hc | hc)
    · exact hc
    · have hmem : c ∈ v.classifications := by
        rw [← hv, mem_classifications_settle42c]
        exact Or.inr (Or.inr hc)
      exact hmem

end Settled

end Again

/-! ### A second evaluation -/

section Report42c

variable {report evaluated primary : Json} {listed v : ReportVerdict} {found : List Finding}

theorem congr42c (h : ∀ k, k ∉ written42c → evaluated.get? k = report.get? k) :
    runFindings42c evaluated = runFindings42c report ∧
      captureMissing evaluated = captureMissing report ∧
      measuredFindings42c evaluated = measuredFindings42c report ∧
      selectsNone evaluated = selectsNone report ∧
      someSourceEmpty evaluated = someSourceEmpty report ∧
      lateFindings42c evaluated = lateFindings42c report ∧
      phase42cSchema.others evaluated = phase42cSchema.others report := by
  have hget (k : String) (hk : k ∉ written42c) : evaluated.get k = report.get k :=
    congrArg (·.getD .null) (h k hk)
  have hgetD (k : String) (d : Json) (hk : k ∉ written42c) : evaluated.getD k d = report.getD k d :=
    congrArg (·.getD d) (h k hk)
  have hfield (k : String) (d : Json) (hk : k ∉ written42c) :
      captureField evaluated k d = captureField report k d := by
    rw [captureField, captureField, hgetD k _ hk, hget _ (by decide)]
  have hrequired : freshRequired42c evaluated = freshRequired42c report := by
    rw [freshRequired42c, freshRequired42c, hget _ (by decide)]
  have hperformed : freshPerformed42c evaluated = freshPerformed42c report := by
    rw [freshPerformed42c, freshPerformed42c, hfield _ _ (by decide)]
  have hfixture : fixtureMode42c evaluated = fixtureMode42c report := by
    rw [fixtureMode42c, fixtureMode42c, hfield _ _ (by decide)]
  have hsources (source : ReferenceSource) : sourceOf evaluated source = sourceOf report source := by
    rw [sourceOf, sourceOf, hget _ (by decide)]
  have hstated (source : ReferenceSource) :
      statedSourceStatus evaluated source = statedSourceStatus report source := by
    rw [statedSourceStatus, statedSourceStatus, hsources]
  have hnone : selectsNone evaluated = selectsNone report := by
    rw [selectsNone, selectsNone, hget _ (by decide)]
  have hselected : selectedSource evaluated = selectedSource report := by
    rw [selectedSource, selectedSource, hget _ (by decide)]
  have hgap (source : ReferenceSource) :
      gapFindings42c evaluated source = gapFindings42c report source := by
    rw [gapFindings42c, gapFindings42c, hsources]
  refine ⟨?_, ?_, ?_, hnone, ?_, ?_, ?_⟩
  · rw [runFindings42c, runFindings42c, hrequired]
    repeat rw [hget]
    all_goals decide
  · rw [captureMissing, captureMissing, hrequired, hperformed, hfixture, hfield _ _ (by decide)]
  · have hstreams : streamFindings42c evaluated = streamFindings42c report := by
      simp only [streamFindings42c, hrequired, hperformed, hfixture]
      repeat first | rw [hget] | rw [hgetD]
      all_goals decide
    have hdepth : depthFindings42c evaluated = depthFindings42c report := by
      simp only [depthFindings42c]
      repeat rw [hget]
      all_goals decide
    have hdatasets : datasetFindings42c evaluated = datasetFindings42c report := by
      simp only [datasetFindings42c, hsources, hstated, hrequired, hperformed]
      repeat rw [hget]
      all_goals decide
    have hranking : rankingFindings42c evaluated = rankingFindings42c report := by
      simp only [rankingFindings42c, hsources, hnone]
      rw [hget _ (by decide)]
    rw [measuredFindings42c, measuredFindings42c, hstreams, hdepth, hdatasets, hranking,
      funext hgap]
  · simp only [someSourceEmpty, hstated]
  · have hchosen : selectedFindings42c evaluated = selectedFindings42c report := by
      simp only [selectedFindings42c, hselected, hnone, hsources]
      rw [hget _ (by decide)]
    rw [lateFindings42c, lateFindings42c, hchosen, hget _ (by decide)]
  · simp only [phase42cSchema, hnone, hselected]
    repeat rw [hget]
    all_goals decide

/-- What is found apart from the schema and the two checks of the classifications. -/
def restFindings42c (report : Json) (measured : List Finding) : List Finding :=
  runFindings42c report ++ measured ++ lateFindings42c report

/-- What the evaluation settles, part by part. -/
theorem verdict42c_eq_ok (h : verdict42c report listed = .ok (v, found)) :
    ∃ errors measured, validatePhase42cReportSchema report = .ok errors ∧
      measuredFindings42c report = .ok measured ∧
      settle42c report listed (schemaFindings errors ++ runFindings42c report) measured =
        (v, found) := by
  rw [verdict42c] at h
  rcases herrors : validatePhase42cReportSchema report with e | errors
  · simp [herrors, bind, Except.bind] at h
  rcases hmeasured : measuredFindings42c report with e | measured
  · simp [herrors, hmeasured, bind, Except.bind] at h
  simp only [herrors, hmeasured, bind, Except.bind, pure, Except.pure] at h
  exact ⟨errors, measured, rfl, rfl, Except.ok.inj h⟩

/-- The errors of the schema that an evaluation leaves. -/
def lastingErrors42c (report : Json) : List String :=
  phase42cSchema.lastingErrors written42c (fun _ => false) report

/-- **What an evaluation leaves of a report**: the verdict that it wrote, and all that was found but
errors of the schema that are mended. -/
theorem again42c (h : Evaluated42c report evaluated listed v found primary) :
    ∃ measured, measuredFindings42c report = .ok measured ∧
      settle42c report listed (schemaFindings (phase42cSchema.errorsOf report) ++
        runFindings42c report) measured = (v, found) ∧
      readVerdict evaluated = .ok ({ v with primary := primary } : ReportVerdict).reread ∧
      verdict42c evaluated ({ v with primary := primary } : ReportVerdict).reread =
        .ok (settle42c report ({ v with primary := primary } : ReportVerdict).reread
          (schemaFindings (lastingErrors42c report) ++ runFindings42c report) measured) := by
  obtain ⟨errors, measured, hvalidate, hmeasured, hsettled⟩ := verdict42c_eq_ok h.verdict
  obtain ⟨hrun, hmissing, hmeasuring, hnone, hempty, hlate, hothers⟩ := congr42c h.unwritten
  have hdomain (domain : FindingDomain) (found : List Finding) :
      isStatus (domainStatus domain found) = true := by
    rw [domainStatus]
    split <;> rfl
  have hstatus : ∀ k ∈ phase42cSchema.statuses,
      ∃ value, evaluated.get? k = some value ∧ isStatus value = true := by
    intro k hk
    simp only [phase42cSchema, List.mem_cons, List.not_mem_nil, or_false] at hk
    rcases hk with rfl | rfl | rfl | rfl
    · exact ⟨_, h.implementation, hdomain _ _⟩
    · exact ⟨_, h.runtime, hdomain _ _⟩
    · exact ⟨_, h.benchmark, hdomain _ _⟩
    · refine ⟨_, h.done, ?_⟩
      split <;> rfl
  have hlasting : phase42cSchema.errorsOf evaluated = lastingErrors42c report := by
    refine ReportSchema.errorsOf_of_written h.unwritten h.written (fun k hk => ?_) hothers
    obtain ⟨value, hvalue, hvalid⟩ := hstatus k hk
    rw [hvalue, Option.any_some, hvalid]
    rfl
  obtain ⟨rfl, hvalidated⟩ := ReportSchema.validate_of_written hvalidate evaluated
    fun k hk _ => by
      obtain ⟨value, hvalue, hvalid⟩ := hstatus k hk
      rw [Json.get, hvalue, Option.getD_some]
      cases value with
      | str s => rfl
      | _ => cases hvalid
  have hnamed : "" ∉ v.classifications := by
    have hv : (settle42c report listed _ measured).1 = v := congrArg Prod.fst hsettled
    rw [← hv, mem_classifications_settle42c]
    rintro (hc | hc | ⟨-, -, hc⟩)
    · exact notMem_of_listedTruthy (readVerdict_eq_ok h.read).2.1 hc
    · obtain ⟨f, -, hf⟩ := List.mem_map.mp hc
      exact f.named hf
    · exact absurd hc (by decide)
  refine ⟨measured, hmeasured, hsettled, readVerdict_of_fields hnamed h.fields, ?_⟩
  have hcapture : captureFindings42c evaluated = captureFindings42c report := by
    funext classifications
    rw [captureFindings42c, captureFindings42c, hmissing]
  have hsourceless : sourcelessFindings42c evaluated = sourcelessFindings42c report := by
    funext classifications
    rw [sourcelessFindings42c, sourcelessFindings42c, hnone]
  rw [verdict42c, validatePhase42cReportSchema, hvalidated, hlasting, hmeasuring, hmeasured, hrun]
  refine congrArg Except.ok ?_
  rw [settle42c, hcapture, hsourceless, hempty, hlate]
  rfl

/-- A failure that is named is not named anew. -/
theorem namedFailure42c_eq_ok (report : Json) (h : v.hard ≠ [] → v.primary.isNull = false) :
    namedFailure42c report v = .ok v.primary := by
  rw [namedFailure42c]
  refine if_neg ?_
  rw [Bool.and_eq_true, decide_eq_true_eq]
  rintro ⟨hhard, hnull⟩
  rw [h hhard] at hnull
  cases hnull

theorem isNull_of_truthy {j : Json} (h : j.truthy = true) : j.isNull = false := by
  cases j with
  | null => cases h
  | _ => rfl

/-- The failure that an evaluation names is there if there is a reason, and it is that of the checks
if they find something. -/
theorem primary_of_evaluated (h : Evaluated42c report evaluated listed v found primary) :
    (v.hard ≠ [] → primary.isNull = false) ∧ (found ≠ [] → primary = v.primary) := by
  obtain ⟨measured, -, hsettled, -, -⟩ := again42c h
  have hnamed := h.named
  have htruthy (hne : found ≠ []) : v.primary.truthy = true := by
    have hnames := truthy_primary_settle42c report listed (schemaFindings
      (phase42cSchema.errorsOf report) ++ runFindings42c report) measured
    rw [hsettled] at hnames
    exact hnames hne
  rw [namedFailure42c] at hnamed
  split at hnamed
  · rename_i hnull
    rw [Bool.and_eq_true] at hnull
    constructor
    · intro _
      rcases hclassified : classifyPhase42cFailure
        ((report.setField "hard_fail_reasons" (.arr (v.hard.map .str))).setField
          "failure_classifications" (.arr (v.classifications.map .str))) with e | text
      · rw [hclassified] at hnamed
        cases hnamed
      · rw [hclassified] at hnamed
        obtain rfl := Except.ok.inj hnamed
        rfl
    · intro hne
      rw [isNull_of_truthy (htruthy hne)] at hnull
      cases hnull.2
  · rename_i hnull
    obtain rfl := Except.ok.inj hnamed
    refine ⟨fun hhard => ?_, fun _ => rfl⟩
    by_contra hisNull
    rw [Bool.not_eq_false] at hisNull
    exact hnull (Bool.and_eq_true_iff.mpr ⟨decide_eq_true hhard, hisNull⟩)

theorem domainStatus_inj {domain : FindingDomain} {xs ys : List Finding} :
    domainStatus domain xs = domainStatus domain ys ↔ findsIn domain xs = findsIn domain ys := by
  rw [domainStatus, domainStatus]
  cases findsIn domain xs <;> cases findsIn domain ys <;> simp

/-- When a second evaluation agrees with the first, status by status. -/
theorem sameVerdict42c_iff {again primary' : Json} {listed' v' : ReportVerdict}
    {found' : List Finding} (h : Evaluated42c report evaluated listed v found primary)
    (hagain : evaluatePhase42cReport evaluated = .ok again)
    (h' : Evaluated42c evaluated again listed' v' found' primary') :
    SameVerdict evaluatePhase42cReport outcome42c evaluated ↔
      (findsIn .implementation found' = findsIn .implementation found ∧
        findsIn .runtime found' = findsIn .runtime found ∧
        findsIn .benchmark found' = findsIn .benchmark found) ∧
      (v'.hard = [] ↔ v.hard = []) ∧
      ({ v' with primary := primary' } : ReportVerdict).fields =
        ({ v with primary := primary } : ReportVerdict).fields := by
  have hdone : (Json.str (if v'.hard = [] then "pass" else "fail") =
      .str (if v.hard = [] then "pass" else "fail")) ↔ (v'.hard = [] ↔ v.hard = []) := by
    by_cases h₁ : v'.hard = [] <;> by_cases h₂ : v.hard = [] <;> simp [h₁, h₂]
  have hsame : SameVerdict evaluatePhase42cReport outcome42c evaluated ↔
      ∀ k ∈ outcome42c, again.get? k = evaluated.get? k := by
    constructor
    · rintro ⟨again', hagain', hsame⟩
      obtain rfl := Except.ok.inj (hagain.symm.trans hagain')
      exact hsame
    · exact fun hsame => ⟨again, hagain, hsame⟩
  rw [hsame]
  simp only [outcome42c, List.forall_mem_cons, List.not_mem_nil, false_imp_iff, implies_true,
    and_true, h.implementation, h'.implementation, h.runtime, h'.runtime, h.benchmark, h'.benchmark,
    h.done, h'.done, h.fields _ (.head _), h'.fields _ (.head _), h.fields _ (.tail _ (.head _)),
    h'.fields _ (.tail _ (.head _)), h.fields _ (.tail _ (.tail _ (.head _))),
    h'.fields _ (.tail _ (.tail _ (.head _))), Option.some.injEq, domainStatus_inj, hdone,
    ReportVerdict.fields, List.cons.injEq, Prod.mk.injEq, true_and]
  tauto

/-- Whether a missing capture is found by the first evaluation only: what is measured lists the
capture as incomplete, and the runtime fails for no other reason. -/
def explainsCapture (report : Json) (measured : List Finding) : Prop :=
  captureMissing report = true ∧
    listsFailure (· = "MULTI_FEED_CAPTURE_INCOMPLETE") report = false ∧
    findsAs "MULTI_FEED_CAPTURE_INCOMPLETE" (runFindings42c report) = false ∧
    findsAs "MULTI_FEED_CAPTURE_INCOMPLETE" measured = true ∧
    findsIn .runtime (restFindings42c report measured) = false

/-- Whether the first evaluation forgets what explained a missing capture, or the lack of a source:
a failure is listed with no reason, and nothing is found. -/
def forgetsExplanation (report : Json) (measured : List Finding) : Prop :=
  listedTexts report "hard_fail_reasons" = .ok [] ∧ phase42cSchema.errorsOf report = [] ∧
    restFindings42c report measured = [] ∧
    (captureMissing report = true ∨ selectsNone report = true) ∧
    (captureMissing report = true →
      listsFailure (· = "MULTI_FEED_CAPTURE_INCOMPLETE") report = true) ∧
    (selectsNone report = true → listsFailure
      (· ∈ ["MULTI_FEED_CAPTURE_INCOMPLETE", "FRESH_CAPTURE_NOT_PERFORMED"]) report = true)

/-- **The reports of the reference feeds that a second evaluation leaves**: as for the time
protocols, if the first evaluation neither explains a missing capture nor forgets what did. -/
def StableReport42c (report : Json) : Prop :=
  let measured := returned (measuredFindings42c report)
  (phase42cSchema.errorsOf report = [] ∨
    findsIn .implementation (restFindings42c report measured) = true ∨
    lastingErrors42c report ≠ []) ∧
  ¬ explainsCapture report measured ∧ ¬ forgetsExplanation report measured

theorem captureFindings42c_eq_nil {report : Json} {classifications : List String} :
    captureFindings42c report classifications = [] ↔
      (captureMissing report = true →
        classifications.any (· = "MULTI_FEED_CAPTURE_INCOMPLETE") = true) := by
  rw [captureFindings42c, findWhen_eq_nil]
  cases captureMissing report <;> simp

theorem sourcelessFindings42c_eq_nil {report : Json} {classifications : List String} :
    sourcelessFindings42c report classifications = [] ↔
      (selectsNone report = true → classifications.any
        (· ∈ ["MULTI_FEED_CAPTURE_INCOMPLETE", "FRESH_CAPTURE_NOT_PERFORMED"]) = true) := by
  rw [sourcelessFindings42c, findWhen_eq_nil]
  cases selectsNone report with
  | false => simp
  | true =>
      simp [and_or_left, exists_or]
      tauto

/-- When there is no reason: nothing is found, and what is listed explains a missing capture and the
lack of a source. -/
theorem hard_eq_nil_iff {errors : List String} {measured : List Finding}
    (hsettled : settle42c report listed (schemaFindings errors ++ runFindings42c report) measured =
      (v, found)) :
    v.hard = [] ↔ listed.hard = [] ∧ errors = [] ∧ restFindings42c report measured = [] ∧
      (captureMissing report = true →
        listed.classifications.any (· = "MULTI_FEED_CAPTURE_INCOMPLETE") = true) ∧
      (selectsNone report = true → listed.classifications.any
        (· ∈ ["MULTI_FEED_CAPTURE_INCOMPLETE", "FRESH_CAPTURE_NOT_PERFORMED"]) = true) := by
  have hreasons : v.hard = listed.hard ++ found.map Finding.reason := by
    have hhard := hard_settle42c report listed (schemaFindings errors ++ runFindings42c report)
      measured
    rwa [hsettled] at hhard
  have hcapture : capture42c report listed [] = [] ↔ (captureMissing report = true →
      listed.classifications.any (· = "MULTI_FEED_CAPTURE_INCOMPLETE") = true) :=
    captureFindings42c_eq_nil
  have hsourceless (h : capture42c report listed [] = []) :
      sourceless42c report listed [] [] = [] ↔ (selectsNone report = true →
        listed.classifications.any
          (· ∈ ["MULTI_FEED_CAPTURE_INCOMPLETE", "FRESH_CAPTURE_NOT_PERFORMED"]) = true) := by
    rw [sourceless42c, sourcelessFindings42c_eq_nil, measuredVerdict42c, h]
    rfl
  have hschema : schemaFindings errors = [] ↔ errors = [] := List.map_eq_nil_iff
  rw [hreasons, List.append_eq_nil_iff, List.map_eq_nil_iff, found_of_settled hsettled]
  simp only [restFindings42c, List.append_eq_nil_iff, hschema]
  constructor
  · rintro ⟨hhard, ⟨⟨⟨⟨herrors, hrun⟩, hcap⟩, hmeasured⟩, hsource⟩, hlate⟩
    rw [hschema.mpr herrors, hrun, List.append_nil] at hcap hsource
    rw [hmeasured] at hsource
    exact ⟨hhard, herrors, ⟨⟨hrun, hmeasured⟩, hlate⟩, hcapture.mp hcap, (hsourceless hcap).mp hsource⟩
  · rintro ⟨hhard, herrors, ⟨⟨hrun, hmeasured⟩, hlate⟩, hcap, hsource⟩
    rw [hschema.mpr herrors, hrun, List.append_nil, hmeasured]
    exact ⟨hhard, ⟨⟨⟨⟨herrors, rfl⟩, hcapture.mpr hcap⟩, rfl⟩,
      (hsourceless (hcapture.mpr hcap)).mpr hsource⟩, hlate⟩

/-- What the implementation fails by: errors of the schema, and the checks that need no
classification. -/
theorem findsIn_implementation_settled (errors : List String) (measured : List Finding)
    (xs ys : List String) :
    findsIn .implementation (schemaFindings errors ++ runFindings42c report ++
        captureFindings42c report xs ++ measured ++ sourcelessFindings42c report ys ++
        lateFindings42c report) =
      findsIn .implementation (schemaFindings errors ++ restFindings42c report measured) := by
  have hcapture : findsIn .implementation (captureFindings42c report xs) = false := by
    refine List.any_eq_false.mpr fun f hf => ?_
    simp [(mem_captureFindings42c hf).2]
  have hsourceless : findsIn .implementation (sourcelessFindings42c report ys) = false := by
    refine List.any_eq_false.mpr fun f hf => ?_
    simp [(mem_sourcelessFindings42c hf).2]
  simp only [restFindings42c, findsIn_append, hcapture, hsourceless, Bool.or_false, Bool.or_assoc]

/-- The benchmark fails by the same, whatever the errors of the schema and the check of the
capture. -/
theorem findsIn_benchmark_settled (errors errors' : List String) (measured source : List Finding)
    (xs ys : List String) :
    findsIn .benchmark (schemaFindings errors ++ runFindings42c report ++
        captureFindings42c report xs ++ measured ++ source ++ lateFindings42c report) =
      findsIn .benchmark (schemaFindings errors' ++ runFindings42c report ++
        captureFindings42c report ys ++ measured ++ source ++ lateFindings42c report) := by
  have hcapture (classifications : List String) :
      findsIn .benchmark (captureFindings42c report classifications) = false := by
    refine List.any_eq_false.mpr fun f hf => ?_
    simp [(mem_captureFindings42c hf).2]
  have hschema (errors : List String) : findsIn .benchmark (schemaFindings errors) = false := by
    refine List.any_eq_false.mpr fun f hf => ?_
    obtain ⟨error, -, rfl⟩ := List.mem_map.mp hf
    simp [implementationFailure]
  simp only [findsIn_append, hcapture, hschema]

/-- When the runtime fails again: only a missing capture can be found the first time only. -/
theorem findsIn_runtime_again_iff {measured : List Finding} {errors errors' : List String}
    (hread : readVerdict report = .ok listed)
    (hsettled : settle42c report listed (schemaFindings errors ++ runFindings42c report) measured =
      (v, found)) :
    findsIn .runtime (schemaFindings errors' ++ runFindings42c report ++
        captureFindings42c report v.classifications ++ measured ++
        sourceless42c report listed (schemaFindings errors ++ runFindings42c report) measured ++
        lateFindings42c report) = findsIn .runtime found ↔
      ¬ explainsCapture report measured := by
  have hschema (errors : List String) : findsIn .runtime (schemaFindings errors) = false := by
    refine List.any_eq_false.mpr fun f hf => ?_
    obtain ⟨error, -, rfl⟩ := List.mem_map.mp hf
    simp [implementationFailure]
  have hsourceless (classifications : List String) :
      findsIn .runtime (sourcelessFindings42c report classifications) = false := by
    refine List.any_eq_false.mpr fun f hf => ?_
    simp [(mem_sourcelessFindings42c hf).2]
  have hcapture (classifications : List String) :
      findsIn .runtime (captureFindings42c report classifications) =
        (captureMissing report && !decide ("MULTI_FEED_CAPTURE_INCOMPLETE" ∈ classifications)) := by
    rw [captureFindings42c, findsIn, any_findWhen]
    simp [runtimeFailure]
  have hlisted : listsFailure (· = "MULTI_FEED_CAPTURE_INCOMPLETE") report =
      decide ("MULTI_FEED_CAPTURE_INCOMPLETE" ∈ listed.classifications) := by
    rw [listsFailure_eq hread, Bool.eq_iff_iff]
    simp
  have hfinds (fs : List Finding) : findsAs "MULTI_FEED_CAPTURE_INCOMPLETE" fs =
      decide ("MULTI_FEED_CAPTURE_INCOMPLETE" ∈ fs.map Finding.classification) := by
    rw [findsAs, Bool.eq_iff_iff]
    simp
  have hnone : "MULTI_FEED_CAPTURE_INCOMPLETE" ∉
      (schemaFindings errors).map Finding.classification := by
    simp [schemaFindings, implementationFailure]
  have hcapNone : "MULTI_FEED_CAPTURE_INCOMPLETE" ∉ (capture42c report listed
      (schemaFindings errors ++ runFindings42c report)).map Finding.classification := by
    intro hmem
    obtain ⟨f, hf, hclass⟩ := List.mem_map.mp hmem
    rw [(mem_captureFindings42c hf).1] at hclass
    exact absurd hclass (by decide)
  have hend : "MULTI_FEED_CAPTURE_INCOMPLETE" ∈ v.classifications ↔
      "MULTI_FEED_CAPTURE_INCOMPLETE" ∈ listed.classifications ∨
      "MULTI_FEED_CAPTURE_INCOMPLETE" ∈ (runFindings42c report).map Finding.classification ∨
      "MULTI_FEED_CAPTURE_INCOMPLETE" ∈ measured.map Finding.classification := by
    rw [← mem_measuredVerdict42c_iff hsettled (.head _), mem_classifications_measuredVerdict42c]
    simp only [List.map_append, List.mem_append, hnone, hcapNone, false_or, or_false]
  have hstart : "MULTI_FEED_CAPTURE_INCOMPLETE" ∈ (listed.addAll
        (schemaFindings errors ++ runFindings42c report)).classifications ↔
      "MULTI_FEED_CAPTURE_INCOMPLETE" ∈ listed.classifications ∨
      "MULTI_FEED_CAPTURE_INCOMPLETE" ∈ (runFindings42c report).map Finding.classification := by
    rw [ReportVerdict.mem_classifications_addAll, List.map_append, List.mem_append]
    simp only [hnone, false_or]
  rw [found_of_settled hsettled, explainsCapture, restFindings42c]
  simp only [findsIn_append, hschema, hcapture, capture42c, sourceless42c, hsourceless, hlisted,
    hfinds, hend, hstart, Bool.decide_or, Bool.false_or, Bool.or_false]
  generalize decide ("MULTI_FEED_CAPTURE_INCOMPLETE" ∈ listed.classifications) = l
  generalize decide ("MULTI_FEED_CAPTURE_INCOMPLETE" ∈
    (runFindings42c report).map Finding.classification) = r
  generalize decide ("MULTI_FEED_CAPTURE_INCOMPLETE" ∈ measured.map Finding.classification) = m
  generalize captureMissing report = missing
  generalize findsIn .runtime (runFindings42c report) = run
  generalize findsIn .runtime measured = stream
  generalize findsIn .runtime (lateFindings42c report) = late
  revert l r m missing run stream late
  decide

theorem stable42c_iff (h : evaluatePhase42cReport report = .ok evaluated) :
    SameVerdict evaluatePhase42cReport outcome42c evaluated ↔ StableReport42c report := by
  obtain ⟨listed, v, found, primary, hev⟩ := evaluated42c_of_eq_ok h
  obtain ⟨measured, hmeasured, hsettled, hread, hverdict⟩ := again42c hev
  obtain ⟨hnull, hprimary⟩ := primary_of_evaluated hev
  set reread := ({ v with primary := primary } : ReportVerdict).reread with hreread
  set early := schemaFindings (lastingErrors42c report) ++ runFindings42c report with hearly
  have hsub : ∀ f ∈ early, f ∈ schemaFindings (phase42cSchema.errorsOf report) ++
      runFindings42c report :=
    phase42cSchema.mem_of_mem_lasting written42c (fun _ => false) report (runFindings42c report)
  have hreasons := hard_settle42c report reread early measured
  have hnamed (hhard : (settle42c report reread early measured).1.hard ≠ []) :
      (settle42c report reread early measured).1.primary.isNull = false := by
    by_cases hfirst : v.hard = []
    · have hnone : reread.hard = [] := by
        rw [hreread, ReportVerdict.reread, fromKeys_eq_nil]
        exact hfirst
      rw [hreasons, hnone, List.nil_append, ne_eq, List.map_eq_nil_iff] at hhard
      exact isNull_of_truthy (truthy_primary_settle42c _ _ _ _ hhard)
    · rw [hreread, primary_again hsettled hfirst hsub hprimary]
      exact hnull hfirst
  obtain ⟨warnings, hwarnings⟩ := hev.warnings
  have hlistedWarnings : listedTexts evaluated "warning_reasons" = .ok (warnings.map Json.text) := by
    simp [listedTexts, Json.getD, hwarnings, iterated, bind, Except.bind, pure, Except.pure]
  obtain ⟨again, hagain, hev'⟩ := evaluated42c_of_read hev.isObj hread hlistedWarnings
    (hverdict.trans (congrArg Except.ok (Prod.mk.eta (p := settle42c report reread early measured)).symm))
    (namedFailure42c_eq_ok evaluated hnamed)
  rw [sameVerdict42c_iff hev hagain hev', StableReport42c, hmeasured, returned_ok]
  have hlists := hard_eq_nil_iff hsettled
  rw [← listsFailure_eq hev.read, ← listsFailure_eq hev.read] at hlists
  have hlisted := (readVerdict_eq_ok hev.read).1
  by_cases hhard : v.hard = []
  · obtain ⟨hlistedHard, herrors, hrest, hcapture, hsource⟩ := hlists.mp hhard
    have hforgets : forgetsExplanation report measured ↔
        captureMissing report = true ∨ selectsNone report = true := by
      rw [forgetsExplanation, hlisted, hlistedHard]
      exact ⟨fun h => h.2.2.2.1, fun h => ⟨rfl, herrors, hrest, h, hcapture, hsource⟩⟩
    have hexplains : ¬ explainsCapture report measured := by
      rintro ⟨-, -, -, hfinds, -⟩
      simp only [restFindings42c, List.append_eq_nil_iff] at hrest
      rw [hrest.1.2] at hfinds
      cases hfinds
    -- nothing is listed any more, so the checks of the classifications find what they can
    have hreread : reread.hard = [] ∧ reread.classifications = [] := by
      rw [hreread, ReportVerdict.reread, fromKeys_eq_nil, if_pos hhard]
      exact ⟨hhard, rfl⟩
    have hlasting : lastingErrors42c report = [] := by
      refine List.eq_nil_iff_forall_not_mem.mpr fun error hmem => ?_
      exact List.not_mem_nil (herrors ▸ ReportSchema.mem_errorsOf_of_lasting hmem)
    have hagainHard : (settle42c report reread early measured).1.hard = [] ↔
        ¬ (captureMissing report = true ∨ selectsNone report = true) := by
      have hnil := hard_eq_nil_iff (Prod.mk.eta (p := settle42c report reread early measured)).symm
      rw [hreread.1, hreread.2, hlasting, hrest] at hnil
      rw [hnil]
      simp
    rw [hforgets, hagainHard]
    constructor
    · rintro ⟨-, hdone, -⟩
      exact ⟨Or.inl herrors, hexplains, hdone.mpr hhard⟩
    · rintro ⟨-, -, hnone⟩
      have hfound : found = [] := by
        have hfirst := hard_settle42c report listed (schemaFindings
          (phase42cSchema.errorsOf report) ++ runFindings42c report) measured
        rw [hsettled, hhard] at hfirst
        exact List.map_eq_nil_iff.mp (List.append_eq_nil_iff.mp hfirst.symm).2
      have hfoundAgain : (settle42c report reread early measured).2 = [] := by
        rw [hagainHard.mpr hnone] at hreasons
        exact List.map_eq_nil_iff.mp (List.append_eq_nil_iff.mp hreasons.symm).2
      rw [hfound, hfoundAgain]
      refine ⟨⟨rfl, rfl, rfl⟩, ⟨fun _ => hhard, fun _ => hnone⟩, ?_⟩
      simp [ReportVerdict.fields, hhard, hagainHard.mpr hnone]
  · have hforgets : ¬ forgetsExplanation report measured := by
      rintro ⟨hnone, herrors, hrest, -, hcapture, hsource⟩
      rw [hlisted] at hnone
      exact hhard (hlists.mpr ⟨Except.ok.inj hnone, herrors, hrest, hcapture, hsource⟩)
    have hfields := settle42c_again hsettled hhard hsub hprimary
    have hagainHard : (settle42c report reread early measured).1.hard ≠ [] := by
      rw [hreasons]
      refine List.append_ne_nil_of_left_ne_nil ?_ _
      rw [hreread, ReportVerdict.reread, ne_eq, fromKeys_eq_nil]
      exact hhard
    have hfoundAgain : (settle42c report reread early measured).2 =
        early ++ captureFindings42c report v.classifications ++ measured ++
          sourceless42c report listed (schemaFindings (phase42cSchema.errorsOf report) ++
            runFindings42c report) measured ++ lateFindings42c report :=
      found_again hsettled hhard hsub
    have himplementation : findsIn .implementation (settle42c report reread early measured).2 =
        findsIn .implementation found ↔ phase42cSchema.errorsOf report = [] ∨
          findsIn .implementation (restFindings42c report measured) = true ∨
          lastingErrors42c report ≠ [] := by
      rw [← findsIn_lasting_iff, hfoundAgain, found_of_settled hsettled, sourceless42c, capture42c,
        findsIn_implementation_settled, findsIn_implementation_settled, Bool.eq_iff_iff]
      refine ⟨fun h => h.mpr, fun h => ⟨fun hagain => ?_, h⟩⟩
      rw [findsIn_append, findsIn_schemaFindings, Bool.or_eq_true, Bool.not_eq_true',
        List.isEmpty_eq_false_iff] at hagain ⊢
      refine hagain.imp_left fun hne hnil => hne ?_
      refine List.eq_nil_iff_forall_not_mem.mpr fun error hmem => ?_
      exact List.not_mem_nil (hnil ▸ ReportSchema.mem_errorsOf_of_lasting hmem)
    have hruntime : findsIn .runtime (settle42c report reread early measured).2 =
        findsIn .runtime found ↔ ¬ explainsCapture report measured := by
      rw [hfoundAgain]
      exact findsIn_runtime_again_iff hev.read hsettled
    have hbenchmark : findsIn .benchmark (settle42c report reread early measured).2 =
        findsIn .benchmark found := by
      rw [hfoundAgain, found_of_settled hsettled]
      exact findsIn_benchmark_settled _ _ _ _ _ _
    rw [himplementation, hruntime]
    constructor
    · rintro ⟨⟨himpl, hexplains, -⟩, -, -⟩
      exact ⟨himpl, hexplains, hforgets⟩
    · rintro ⟨himpl, hexplains, -⟩
      exact ⟨⟨himpl, hexplains, hbenchmark⟩, iff_of_false hagainHard hhard, hfields⟩

end Report42c

/-! ### All reports -/

/-- **When a second evaluation of a report agrees with the first.** -/
theorem reevaluation_iff (identical : Json → Json → Bool) (report evaluated : Json) :
    (evaluatePhase42cReport report = .ok evaluated →
      (SameVerdict evaluatePhase42cReport outcome42c evaluated ↔ StableReport42c report)) ∧
    (evaluatePhase42dReport report = .ok evaluated →
      (SameVerdict evaluatePhase42dReport phase42d.outcome evaluated ↔ StableReport42d report)) ∧
    (evaluatePhase42eReport report = .ok evaluated →
      (SameVerdict evaluatePhase42eReport phase42e.outcome evaluated ↔ StableReport42e report)) ∧
    (evaluatePhase42fgReport identical report = .ok evaluated →
      SameVerdict (evaluatePhase42fgReport identical) (phase42fg identical).outcome evaluated) :=
  ⟨stable42c_iff, stable42d_iff, stable42e_iff, sameVerdict42fg⟩

theorem exists_ok_of_isOk {α : Type} {x : Except String α} (h : x.isOk = true) :
    ∃ value, x = .ok value := by
  cases x with
  | ok value => exact ⟨value, rfl⟩
  | error e => cases h

/-- The four evaluations of an empty report, and what the theorem says of them. -/
theorem reevaluation_empty :
    (∃ evaluated, evaluatePhase42cReport (.obj []) = .ok evaluated ∧
      (SameVerdict evaluatePhase42cReport outcome42c evaluated ↔ StableReport42c (.obj []))) ∧
    (∃ evaluated, evaluatePhase42dReport (.obj []) = .ok evaluated ∧
      (SameVerdict evaluatePhase42dReport phase42d.outcome evaluated ↔ StableReport42d (.obj []))) ∧
    (∃ evaluated, evaluatePhase42eReport (.obj []) = .ok evaluated ∧
      (SameVerdict evaluatePhase42eReport phase42e.outcome evaluated ↔ StableReport42e (.obj []))) ∧
    ∃ evaluated, evaluatePhase42fgReport (fun _ _ => false) (.obj []) = .ok evaluated ∧
      SameVerdict (evaluatePhase42fgReport fun _ _ => false) (phase42fg fun _ _ => false).outcome
        evaluated := by
  obtain ⟨c, hc⟩ := exists_ok_of_isOk (x := evaluatePhase42cReport (.obj []))
    (by decide +kernel)
  obtain ⟨d, hd⟩ := exists_ok_of_isOk (x := evaluatePhase42dReport (.obj []))
    (by decide +kernel)
  obtain ⟨e, he⟩ := exists_ok_of_isOk (x := evaluatePhase42eReport (.obj []))
    (by decide +kernel)
  obtain ⟨fg, hfg⟩ := exists_ok_of_isOk
    (x := evaluatePhase42fgReport (fun _ _ => false) (.obj [])) (by decide +kernel)
  exact ⟨⟨c, hc, (reevaluation_iff (fun _ _ => false) _ c).1 hc⟩,
    ⟨d, hd, (reevaluation_iff (fun _ _ => false) _ d).2.1 hd⟩,
    ⟨e, he, (reevaluation_iff (fun _ _ => false) _ e).2.2.1 he⟩,
    ⟨fg, hfg, (reevaluation_iff (fun _ _ => false) _ fg).2.2.2 hfg⟩⟩

/-- The metrics of a source that was not captured. -/
def uncapturedMetrics : Json :=
  .obj (requiredSourceMetricFields.map fun field =>
    (field,
      if field = "max_future_gap_ms" then .int 100
      else if field = "source_status" then .str "not_captured"
      else if field = "passes_100ms_gate" then .bool false
      else .int 0))

/-- The report of a run that skipped the capture. -/
def skippedCaptureReport : Json :=
  .obj [("phase", .str "4.2C"), ("symbol", .str "BTCUSDT"), ("duration_sec", .int 0),
    ("fresh_capture_required", .bool true), ("fresh_capture_performed", .bool false),
    ("skip_capture", .bool true), ("fixture_mode", .bool false), ("cleanup_performed", .bool true),
    ("status", .str "pass"), ("implementation_status", .str "pass"), ("runtime_status", .str "pass"),
    ("benchmark_status", .str "pass"), ("definition_of_done_status", .str "pass"),
    ("primary_failure", .null), ("failure_classifications", .arr []),
    ("hard_fail_reasons", .arr []), ("warning_reasons", .arr []), ("capture", .obj []),
    ("capture_diagnostics_path", .null), ("typecheck_report_path", .null),
    ("dataset_paths", .obj []), ("clean_sample_count", .int 10), ("labeled_sample_count", .int 10),
    ("reference_sources",
      .obj (ReferenceSource.all.map fun source => (source.name, uncapturedMetrics))),
    ("ranking", .arr [.str "depth_mid"]), ("selected_reference_source", .null),
    ("selected_reference_source_status", .str "fail"), ("semantic_warning", .null),
    ("label_semantics", .obj []), ("depth_runtime_quality", .obj []), ("leakage_check", .obj [])]

example : phase42cSchema.errorsOf skippedCaptureReport = [] := by decide +kernel

/-- The runtime of this report fails, and passes after a second evaluation. -/
theorem skippedCapture_reevaluated : ∃ evaluated again,
    evaluatePhase42cReport skippedCaptureReport = .ok evaluated ∧
    evaluatePhase42cReport evaluated = .ok again ∧
    evaluated.get? "runtime_status" = some (.str "fail") ∧
    again.get? "runtime_status" = some (.str "pass") ∧
    ¬ SameVerdict evaluatePhase42cReport outcome42c evaluated := by
  obtain ⟨evaluated, hevaluated⟩ := exists_ok_of_isOk (x := evaluatePhase42cReport
    skippedCaptureReport) (by decide +kernel)
  obtain ⟨again, hagain⟩ := exists_ok_of_isOk
    (x := (evaluatePhase42cReport skippedCaptureReport).bind evaluatePhase42cReport)
    (by decide +kernel)
  have hfirst : (evaluatePhase42cReport skippedCaptureReport).toOption.any
      (fun report => (report.get? "runtime_status").any (·.isText "fail")) = true := by
    decide +kernel
  have hsecond : ((evaluatePhase42cReport skippedCaptureReport).bind
      evaluatePhase42cReport).toOption.any
      (fun report => (report.get? "runtime_status").any (·.isText "pass")) = true := by
    decide +kernel
  have htext {report : Json} {field text : String}
      (h : (report.get? field).any (·.isText text) = true) :
      report.get? field = some (.str text) := by
    rcases hfield : report.get? field with - | value
    · simp [hfield] at h
    · rw [hfield, Option.any_some] at h
      cases value with
      | str s => rw [of_decide_eq_true h]
      | _ => cases h
  rw [hagain] at hsecond
  rw [hevaluated] at hfirst hagain
  have hfail := htext hfirst
  have hpass := htext hsecond
  refine ⟨evaluated, again, hevaluated, hagain, hfail, hpass, ?_⟩
  rintro ⟨again', hagain', hsame⟩
  obtain rfl := Except.ok.inj (hagain.symm.trans hagain')
  have heq := hsame "runtime_status" (by decide)
  rw [hfail, hpass] at heq
  revert heq
  simp

end SomethingTrade
