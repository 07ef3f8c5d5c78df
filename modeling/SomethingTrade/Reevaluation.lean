import Mathlib.Data.List.Infix
import SomethingTrade.LagReports
import SomethingTrade.ReferenceReports

/-!
# Second Evaluations

A report that is evaluated twice should be as after the first time. The status of the
implementation starts anew, though, and a finding of the first evaluation that the fields it
writes mend is not found again.

## Main results

* `stable42d_iff`, `stable42e_iff`: when a second evaluation agrees with the first.
-/

namespace SomethingTrade

/-! ### Findings and their classifications -/

/-- The findings that a check returned, none if it did not return. -/
def returned (found : Except String (List Finding)) : List Finding :=
  match found with
  | .ok found => found
  | .error _ => []

@[simp] theorem returned_ok (found : List Finding) : returned (.ok found) = found := rfl

/-- Whether a report lists a failure of some kind. -/
def listsFailure (p : String → Bool) (report : Json) : Bool :=
  match listedTruthy report "failure_classifications" with
  | .ok classifications => classifications.any p
  | .error _ => false

theorem listsFailure_eq {p : String → Bool} {report : Json} {listed : ReportVerdict}
    (h : readVerdict report = .ok listed) :
    listsFailure p report = listed.classifications.any p := by
  rw [listsFailure, (readVerdict_eq_ok h).2.1]

theorem forall_mem_findWhen {P : Finding → Prop} {condition : Bool} {finding : Finding} :
    (∀ f ∈ findWhen condition finding, P f) ↔ (condition = true → P finding) := by
  simp only [mem_findWhen]
  constructor
  · exact fun h hc => h finding ⟨hc, rfl⟩
  · rintro h f ⟨hc, rfl⟩
    exact h hc

theorem any_findWhen (fails : Finding → Bool) (condition : Bool) (finding : Finding) :
    (findWhen condition finding).any fails = (condition && fails finding) := by
  cases condition <;> simp [findWhen]

/-- Where every finding fails a status, it fails when there is one. -/
theorem any_eq_of_forall {fails : Finding → Bool} {found : List Finding}
    (h : ∀ f ∈ found, fails f = true) : found.any fails = !found.isEmpty := by
  cases found with
  | nil => rfl
  | cons f found => simp [h f (.head _)]

/-- Every finding has one of some classifications. -/
def ClassifiedIn (classifications : List String) (found : List Finding) : Prop :=
  ∀ f ∈ found, f.classification ∈ classifications

section ClassifiedIn

variable {classifications : List String} {xs ys found : List Finding}

theorem classifiedIn_append : ClassifiedIn classifications (xs ++ ys) ↔
    ClassifiedIn classifications xs ∧ ClassifiedIn classifications ys :=
  List.forall_mem_append

theorem classifiedIn_findWhen {condition : Bool} {finding : Finding} :
    ClassifiedIn classifications (findWhen condition finding) ↔
      (condition = true → finding.classification ∈ classifications) :=
  forall_mem_findWhen

theorem classifiedIn_flatten_of_mapM {α : Type} {f : α → Except String (List Finding)}
    {items : List α} {lists : List (List Finding)} (h : items.mapM f = .ok lists)
    (hclassified : ∀ x ∈ items, ∀ found, f x = .ok found → ClassifiedIn classifications found) :
    ClassifiedIn classifications lists.flatten := by
  intro finding hfinding
  obtain ⟨found, hfound, hmem⟩ := List.mem_flatten.mp hfinding
  have hok : Except.ok found ∈ items.map f := by
    rw [mapM_eq_ok_iff.mp h]
    exact List.mem_map_of_mem hfound
  obtain ⟨x, hx, hfx⟩ := List.mem_map.mp hok
  exact hclassified x hx found hfx finding hmem

/-- Findings with other classifications do not fail a status. -/
theorem ClassifiedIn.any_eq_false (h : ClassifiedIn classifications found) {fails : Finding → Bool}
    (hfails : ∀ f, f.classification ∈ classifications → fails f = false) :
    found.any fails = false := by
  rw [List.any_eq_false]
  intro f hf
  rw [hfails f (h f hf)]
  exact Bool.false_ne_true

/-- Findings with the classifications of a status fail it. -/
theorem ClassifiedIn.any_eq (h : ClassifiedIn classifications found) :
    (found.any fun f => f.classification ∈ classifications) = !found.isEmpty :=
  any_eq_of_forall fun f hf => decide_eq_true (h f hf)

/-- A status that depends on other classifications does not fail. -/
theorem not_mem_of_disjoint {others : List String} (h : ∀ c ∈ others, c ∉ classifications)
    (f : Finding) (hf : f.classification ∈ others) :
    decide (f.classification ∈ classifications) = false :=
  decide_eq_false (h _ hf)

theorem ne_of_not_mem {others : List String} {c : String} (h : c ∉ others) (f : Finding)
    (hf : f.classification ∈ others) : decide (f.classification = c) = false :=
  decide_eq_false fun hc => h (hc ▸ hf)

end ClassifiedIn

/-- The errors of a schema are classified as such. -/
theorem classifiedIn_schemaFindings {classifications : List String} (errors : List String)
    (h : "REPORT_SCHEMA_FAILURE" ∈ classifications) :
    ClassifiedIn classifications (schemaFindings errors) := by
  intro f hf
  obtain ⟨error, -, rfl⟩ := List.mem_map.mp hf
  exact h

theorem classifiedIn_leakageFindings {classifications : List String} (leakage : Json)
    (h : ["LEAKAGE_FAILURE", "FEATURE_LEAKAGE_FAILURE", "LABEL_LEAKAGE_FAILURE"] ⊆
      classifications) : ClassifiedIn classifications (leakageFindings leakage) := by
  simp only [leakageFindings, classifiedIn_append, classifiedIn_findWhen]
  exact ⟨⟨fun _ => h (.head _), fun _ => h (.tail _ (.head _))⟩,
    fun _ => h (.tail _ (.tail _ (.head _)))⟩

theorem findsIn_schemaFindings (errors : List String) :
    findsIn .implementation (schemaFindings errors) = !errors.isEmpty := by
  cases errors with
  | nil => rfl
  | cons error errors => rfl

theorem findsIn_append (domain : FindingDomain) (xs ys : List Finding) :
    findsIn domain (xs ++ ys) = (findsIn domain xs || findsIn domain ys) :=
  List.any_append

section Schema

variable {errors lasting : List String} {rest : List Finding}

/-- With the errors of the schema that last, nothing new is found. -/
theorem ReportSchema.mem_of_mem_lasting (schema : ReportSchema) (written : List String)
    (lasts : String → Bool) (report : Json) (rest : List Finding) :
    ∀ f ∈ schemaFindings (schema.lastingErrors written lasts report) ++ rest,
      f ∈ schemaFindings (schema.errorsOf report) ++ rest := by
  intro f hf
  rcases List.mem_append.mp hf with hf | hf
  · exact List.mem_append_left _ (List.map_subset _ (fun _ => mem_errorsOf_of_lasting) hf)
  · exact List.mem_append_right _ hf

/-- The status of the implementation fails again unless its only failures were errors of the
schema that are gone. -/
theorem findsIn_lasting_iff :
    (findsIn .implementation (schemaFindings errors ++ rest) = true →
        findsIn .implementation (schemaFindings lasting ++ rest) = true) ↔
      errors = [] ∨ findsIn .implementation rest = true ∨ lasting ≠ [] := by
  simp only [findsIn_append, findsIn_schemaFindings, Bool.or_eq_true, Bool.not_eq_true',
    List.isEmpty_eq_false_iff]
  tauto

end Schema

/-- A status that passes is a status. -/
theorem invalid_of_saysPass {field : String} {report : Json} (h : saysPass field report = true) :
    ((report.get? field).any fun value => !isStatus value) = false := by
  have htext := of_decide_eq_true h
  rw [Json.getD] at htext
  cases hvalue : report.get? field with
  | none => rfl
  | some value =>
      rw [hvalue, Option.getD_some] at htext
      rw [Option.any_some, ← isStatus_text, htext]
      rfl

/-- A status that fails when it did not pass says the same after an evaluation. -/
theorem saysPass_of_kept {report evaluated : Json} {listed : List String} {found : List Finding}
    {field : String} {fails : Finding → Bool}
    (h : evaluated.get? field =
      some (.str ((StatusRule.kept field "fail" fails).ending report listed found)))
    (hany : found.any fails = !saysPass field report) :
    saysPass field evaluated = saysPass field report := by
  rw [saysPass, Json.getD, h, Option.getD_some, Json.text]
  cases hpass : saysPass field report with
  | true =>
      rw [hpass] at hany
      rw [StatusRule.ending_of_not_fails hany]
      exact hpass
  | false =>
      rw [hpass] at hany
      rw [StatusRule.ending_of_fails hany]
      rfl

/-- A status that fails when it did not pass is valid after an evaluation. -/
theorem invalid_of_kept_saysPass {report evaluated : Json} {listed : List String}
    {found : List Finding} {field : String} {fails : Finding → Bool}
    (h : evaluated.get? field =
      some (.str ((StatusRule.kept field "fail" fails).ending report listed found)))
    (hany : found.any fails = !saysPass field report) :
    ((evaluated.get? field).any fun value => !isStatus value) = false := by
  rw [StatusRule.invalid_of_kept rfl h, hany, Bool.not_not]
  cases hpass : saysPass field report with
  | true => exact invalid_of_saysPass hpass
  | false => rfl

/-! ### The report of the time protocols -/

/-- The classifications that fail no status of the time protocols. -/
def otherClassifications42d : List String :=
  ["REPORT_SCHEMA_FAILURE", "TEST_FAILURE", "TYPECHECK_FAILURE", "GITIGNORE_POLICY_FAILURE",
    "ARTIFACT_CLEANUP_FAILURE", "FRESH_CAPTURE_NOT_PERFORMED", "FRESH_CAPTURE_DURATION_FAILURE",
    "INPUT_DATASET_FAILURE", "HORIZON_100MS_POLICY_RELAXED", "HYBRID_PROTOCOL_FAILURE",
    "HYBRID_PROTOCOL_MISSING", "RECEIVE_TIME_PROTOCOL_MISSING", "EXCHANGE_TIME_PROTOCOL_MISSING",
    "EXCHANGE_TIME_FAKE_TIMESTAMP", "BOOKTICKER_FAKE_EXCHANGE_TIMESTAMP", "LEAKAGE_FAILURE",
    "FEATURE_LEAKAGE_FAILURE", "LABEL_LEAKAGE_FAILURE", "CLOCK_SANITY_FAILURE"]

theorem classifiedIn_makingFindings42d (report : Json) :
    ClassifiedIn otherClassifications42d (makingFindings42d report) := by
  simp [makingFindings42d, testFindings, freshFindings, sampleFindings, classifiedIn_append,
    classifiedIn_findWhen, implementationFailure, generalFailure, otherClassifications42d]

theorem classifiedIn_measuredFindings42d {report : Json} {found : List Finding}
    (h : measuredFindings42d report = .ok found) : ClassifiedIn otherClassifications42d found := by
  rw [measuredFindings42d] at h
  rcases hsources : ReferenceSource.all.mapM
    (sourceFindings42d (report.get "sources").asDict) with e | lists
  · simp [hsources, bind, Except.bind] at h
  rw [hsources] at h
  obtain rfl := Except.ok.inj h
  have hflat : ClassifiedIn otherClassifications42d lists.flatten := by
    refine classifiedIn_flatten_of_mapM hsources fun source _ found hfound => ?_
    simp only [sourceFindings42d, bind, Except.bind, pure, Except.pure] at hfound
    split at hfound
    · cases hfound
    split at hfound
    · cases hfound
    obtain rfl := Except.ok.inj hfound
    simp [hybridBudgetsMs, hybridFindings42d, classifiedIn_append, classifiedIn_findWhen,
      implementationFailure, otherClassifications42d]
  simp only [classifiedIn_append, classifiedIn_findWhen]
  exact ⟨⟨⟨fun _ => by decide, hflat⟩, classifiedIn_leakageFindings _ (by decide)⟩,
    fun _ => by decide⟩

/-- The fields that the evaluation writes. -/
def written42d : List String :=
  ["implementation_status", "input_timestamp_schema_status", "receive_time_coverage_status",
    "exchange_time_coverage_status", "hybrid_low_latency_status", "protocol_decision_status"] ++
  verdictFields

/-- Whether an invalid status is still invalid after an evaluation. -/
def lastsInvalid42d (report : Json) (field : String) : Bool :=
  if field = "receive_time_coverage_status" then true
  else if field = "input_timestamp_schema_status" then timestampsPass report
  else if field = "protocol_decision_status" then
    saysPass "exchange_time_coverage_status" report &&
      saysPass "hybrid_low_latency_status" report && (report.get "low_latency_ready").isTrue
  else false

section Report42d

variable {report evaluated : Json}

theorem congr42d (h : ∀ k, k ∉ written42d → evaluated.get? k = report.get? k) :
    makingFindings42d evaluated = makingFindings42d report ∧
      timestampFindings42d evaluated = timestampFindings42d report ∧
      measuredFindings42d evaluated = measuredFindings42d report ∧
      decisionFindings42d evaluated = decisionFindings42d report ∧
      phase42dSchema.others evaluated = phase42dSchema.others report := by
  have hget (k : String) (hk : k ∉ written42d) : evaluated.get k = report.get k :=
    congrArg (·.getD .null) (h k hk)
  have hgetD (k : String) (d : Json) (hk : k ∉ written42d) : evaluated.getD k d = report.getD k d :=
    congrArg (·.getD d) (h k hk)
  have hphase5 : mentionsPhase5 evaluated = mentionsPhase5 report := by
    rw [mentionsPhase5, mentionsPhase5, h _ (by decide), h _ (by decide)]
  refine ⟨?_, ?_, ?_, ?_, ?_⟩
  all_goals
    simp only [makingFindings42d, testFindings, freshFindings, sampleFindings, timestampFindings42d,
      timestampsPass, measuredFindings42d, decisionFindings42d, phase42dSchema, hphase5]
    repeat first | rw [hget] | rw [hgetD]
  all_goals decide

/-- What the checks find, part by part. -/
theorem findings42d_eq_ok {found : List Finding} (h : findings42d report = .ok found) :
    ∃ errors measured, validatePhase42dReportSchema report = .ok errors ∧
      measuredFindings42d report = .ok measured ∧
      found = schemaFindings errors ++ restFindings42d report measured := by
  rw [findings42d] at h
  rcases herrors : validatePhase42dReportSchema report with e | errors
  · simp [herrors, bind, Except.bind] at h
  rcases hmeasured : measuredFindings42d report with e | measured
  · simp [herrors, hmeasured, bind, Except.bind] at h
  simp only [herrors, hmeasured, bind, Except.bind, pure, Except.pure] at h
  exact ⟨errors, measured, rfl, rfl, (Except.ok.inj h).symm⟩

/-- When the statuses that are kept fail. -/
theorem failed42d (errors : List String) {measured : List Finding}
    (hmeasured : measuredFindings42d report = .ok measured) :
    let found := schemaFindings errors ++ restFindings42d report measured
    let exchange := saysPass "exchange_time_coverage_status" report
    let hybrid := saysPass "hybrid_low_latency_status" report
    (found.any fun f => f.classification = "INPUT_TIMESTAMP_SCHEMA_FAILURE") =
        !timestampsPass report ∧
      (found.any fun f => f.classification = "EXCHANGE_TIME_COVERAGE_FAILURE") = !exchange ∧
      (found.any fun f => f.classification = "HYBRID_OBSERVABILITY_FAILURE") = !hybrid ∧
      (found.any fun f => f.classification ∈ ["PROTOCOL_DECISION_FAILURE",
        "HYBRID_OBSERVABILITY_FAILURE", "EXCHANGE_TIME_COVERAGE_FAILURE"]) =
        !(exchange && hybrid && (report.get "low_latency_ready").isTrue) := by
  intro found exchange hybrid
  have hany {fails : Finding → Bool}
      (hfails : ∀ f, f.classification ∈ otherClassifications42d → fails f = false) :
      found.any fails = ((timestampFindings42d report).any fails ||
        (coverageFindings42d exchange hybrid).any fails ||
        (decisionFindings42d report).any fails) := by
    simp only [found, restFindings42d, List.any_append,
      (classifiedIn_schemaFindings errors (.head _)).any_eq_false hfails,
      (classifiedIn_makingFindings42d report).any_eq_false hfails,
      (classifiedIn_measuredFindings42d hmeasured).any_eq_false hfails, Bool.false_or,
      Bool.or_false]
    rfl
  clear_value found exchange hybrid
  refine ⟨(hany (ne_of_not_mem (by decide))).trans ?_, (hany (ne_of_not_mem (by decide))).trans ?_,
    (hany (ne_of_not_mem (by decide))).trans ?_, (hany (not_mem_of_disjoint (by decide))).trans ?_⟩
  all_goals
    rw [timestampFindings42d, decisionFindings42d, any_findWhen, any_findWhen]
    cases exchange <;> cases hybrid <;>
      simp [coverageFindings42d, findWhen, generalFailure]

/-- **What an evaluation of the time protocols leaves of a report**: the errors of its schema that
last, and every other finding. -/
theorem again42d {v : ReportVerdict} {found : List Finding}
    (h : phase42d.Evaluated report evaluated v found) :
    ∃ measured, measuredFindings42d report = .ok measured ∧
      found = schemaFindings (phase42dSchema.errorsOf report) ++ restFindings42d report measured ∧
      findings42d evaluated = .ok (schemaFindings
        (phase42dSchema.lastingErrors written42d (lastsInvalid42d report) report) ++
          restFindings42d report measured) := by
  obtain ⟨errors, measured, hvalidate, hmeasured, hfound⟩ := findings42d_eq_ok h.findings
  obtain ⟨hmaking, htimestamp, hmeasuring, hdecision, hothers⟩ :=
    congr42d fun k hk => h.unwritten k hk
  obtain ⟨hanyInput, hanyExchange, hanyHybrid, hanyDecision⟩ := failed42d errors hmeasured
  rw [← hfound] at hanyInput hanyExchange hanyHybrid hanyDecision
  have hinput := h.statuses _ (.tail _ (.head _))
  have hreceive := h.statuses _ (.tail _ (.tail _ (.head _)))
  have hexchange := h.statuses _ (.tail _ (.tail _ (.tail _ (.head _))))
  have hhybrid := h.statuses _ (.tail _ (.tail _ (.tail _ (.tail _ (.head _)))))
  have hdecided := h.statuses _ (.tail _ (.tail _ (.tail _ (.tail _ (.tail _ (.head _))))))
  have hstatus : ∀ k ∈ phase42dSchema.statuses,
      ((evaluated.get? k).any fun value => !isStatus value) =
        (lastsInvalid42d report k && (report.get? k).any fun value => !isStatus value) := by
    intro k hk
    simp only [phase42dSchema, List.mem_cons, List.not_mem_nil, or_false] at hk
    rcases hk with rfl | rfl | rfl | rfl | rfl | rfl
    · exact StatusRule.invalid_of_renewed (h.statuses _ (.head _))
    · refine (StatusRule.invalid_of_kept rfl hinput).trans ?_
      rw [hanyInput, Bool.not_not]
      rfl
    · refine (StatusRule.invalid_of_kept rfl hreceive).trans ?_
      rw [List.any_eq_false.mpr fun _ _ => by simp]
      rfl
    · exact invalid_of_kept_saysPass hexchange hanyExchange
    · exact invalid_of_kept_saysPass hhybrid hanyHybrid
    · refine (StatusRule.invalid_of_kept rfl hdecided).trans ?_
      rw [hanyDecision, Bool.not_not]
      rfl
  have hlasting := ReportSchema.errorsOf_of_written h.unwritten (fun k hk => h.isSome_get? hk)
    hstatus hothers
  obtain ⟨rfl, hvalidated⟩ := ReportSchema.validate_of_written hvalidate evaluated
    fun k hk _ => h.isHashable_get hk
  have hexchangeAgain : saysPass "exchange_time_coverage_status" evaluated =
      saysPass "exchange_time_coverage_status" report :=
    saysPass_of_kept hexchange hanyExchange
  have hhybridAgain : saysPass "hybrid_low_latency_status" evaluated =
      saysPass "hybrid_low_latency_status" report :=
    saysPass_of_kept hhybrid hanyHybrid
  have hrest : restFindings42d evaluated measured = restFindings42d report measured := by
    rw [restFindings42d, hmaking, htimestamp, hdecision, hexchangeAgain, hhybridAgain]
    rfl
  refine ⟨measured, hmeasured, hfound, ?_⟩
  rw [findings42d, validatePhase42dReportSchema, hvalidated, hlasting, hmeasuring, hmeasured]
  exact congrArg (fun rest => Except.ok (_ ++ rest)) hrest

/-- **The reports of the time protocols that a second evaluation leaves**: those that pass their
schema, break another rule of the implementation, or have an error of the schema that lasts. -/
def StableReport42d (report : Json) : Prop :=
  phase42dSchema.errorsOf report = [] ∨
    findsIn .implementation
      (restFindings42d report (returned (measuredFindings42d report))) = true ∨
    phase42dSchema.lastingErrors written42d (lastsInvalid42d report) report ≠ []

theorem stable42d_iff (h : evaluatePhase42dReport report = .ok evaluated) :
    SameVerdict evaluatePhase42dReport phase42d.outcome evaluated ↔ StableReport42d report := by
  obtain ⟨v, found, hev⟩ := Evaluator.evaluated_of_eq_ok h
  obtain ⟨measured, hmeasured, rfl, hagain⟩ := again42d hev
  have hsub := phase42dSchema.mem_of_mem_lasting written42d (lastsInvalid42d report) report
    (restFindings42d report measured)
  rw [StableReport42d, hmeasured, returned_ok, ← findsIn_lasting_iff]
  refine (hev.sameVerdict_iff hagain hsub).trans ⟨fun hall => ?_, fun hfails rule hrule => ?_⟩
  · exact (StatusRule.ending_renewed_eq_iff hsub).mp (hall _ (.head _))
  · have hstatus := hev.statuses rule hrule
    simp only [phase42d, List.mem_cons, List.not_mem_nil, or_false] at hrule
    rcases hrule with rfl | rfl | rfl | rfl | rfl | rfl
    · exact (StatusRule.ending_renewed_eq_iff hsub).mpr hfails
    all_goals exact StatusRule.ending_kept hsub hstatus

end Report42d

/-! ### Texts in joined texts -/

theorem occursIn_iff {part text : String} :
    occursIn part text = true ↔ part.toList <:+: text.toList := by
  rw [occursIn, List.any_eq_true, List.infix_iff_prefix_suffix]
  constructor
  · rintro ⟨rest, hrest, hprefix⟩
    exact ⟨rest, List.isPrefixOf_iff_prefix.mp hprefix, (List.mem_tails _ _).mp hrest⟩
  · rintro ⟨rest, hprefix, hsuffix⟩
    exact ⟨rest, (List.mem_tails _ _).mpr hsuffix, List.isPrefixOf_iff_prefix.mpr hprefix⟩

/-- A list without a separator is in one of the two parts around it. -/
theorem infix_append_cons_iff {α : Type} {p xs ys : List α} {c : α} (hc : c ∉ p) :
    p <:+: xs ++ c :: ys ↔ p <:+: xs ∨ p <:+: ys := by
  have hstart {q : List α} (hq : c ∉ q) (h : q <+: c :: ys) : q = [] := by
    rcases List.prefix_cons_iff.mp h with rfl | ⟨t, rfl, -⟩
    · rfl
    · exact absurd List.mem_cons_self hq
  constructor
  · intro h
    rcases List.infix_append_iff.mp h with h | h | ⟨l₁, l₂, rfl, h₁, h₂⟩
    · exact Or.inl h
    · rcases List.infix_cons_iff.mp h with h | h
      · rw [hstart hc h]
        exact Or.inl (List.nil_infix)
      · exact Or.inr h
    · have hnil := hstart (fun hmem => hc (List.mem_append_right _ hmem)) h₂
      rw [hnil, List.append_nil]
      exact Or.inl h₁.isInfix
  · rintro (h | h)
    · exact h.trans (List.prefix_append _ _).isInfix
    · exact h.trans ((List.suffix_cons c ys).trans (List.suffix_append xs _)).isInfix

/-- A text without a space is in joined texts when it is in one of them. -/
theorem occursIn_intercalate {part : String} (hspace : ' ' ∉ part.toList) (hne : part ≠ "")
    (texts : List String) :
    occursIn part (" ".intercalate texts) = texts.any (occursIn part) := by
  rw [Bool.eq_iff_iff, List.any_eq_true, occursIn_iff, String.toList_intercalate]
  simp only [occursIn_iff]
  induction texts with
  | nil =>
      have hnil : part.toList ≠ [] := by simpa using hne
      simpa using hnil
  | cons t texts ih =>
      cases texts with
      | nil => simp
      | cons u texts =>
          have hsep : " ".toList = [' '] := by decide
          rw [List.map_cons, List.map_cons, List.intercalate_cons_cons, hsep, List.append_assoc,
            List.singleton_append, infix_append_cons_iff hspace, ← List.map_cons, ← hsep, ih]
          simp

/-! ### The report of the corrected receive lag -/

/-- The other classifications of what is measured of the corrected receive lag. -/
def otherClassifications42e : List String :=
  ["REPORT_SCHEMA_FAILURE", "TEST_FAILURE", "TYPECHECK_FAILURE", "GITIGNORE_POLICY_FAILURE",
    "ARTIFACT_CLEANUP_FAILURE", "INPUT_DATASET_FAILURE", "HORIZON_100MS_POLICY_RELAXED",
    "CORRECTED_HYBRID_FAILURE", "CORRECTED_HYBRID_MISSING", "LEAKAGE_FAILURE",
    "FEATURE_LEAKAGE_FAILURE", "LABEL_LEAKAGE_FAILURE", "EXCHANGE_TIME_COVERAGE_FAILURE",
    "EXCHANGE_TIME_FAKE_TIMESTAMP", "BOOKTICKER_FAKE_EXCHANGE_TIMESTAMP",
    "RECEIVE_LAG_REPORT_FAILURE"]

theorem classifiedIn_freshFindings (required : Bool) (report : Json) :
    ClassifiedIn freshClassifications (freshFindings required report) := by
  simp [freshFindings, classifiedIn_append, classifiedIn_findWhen, generalFailure,
    freshClassifications]

theorem classifiedIn_clockFindings42e (report : Json) :
    ClassifiedIn clockClassifications42e (clockFindings42e report) := by
  have hoffset : ClassifiedIn clockClassifications42e
      (clockOffsetFindings (report.get "clock_offset_summary").asDict) := by
    rw [clockOffsetFindings]
    split
    · rw [classifiedIn_append, classifiedIn_findWhen]
      refine ⟨fun _ => by decide, ?_⟩
      split
      · exact List.forall_mem_singleton.mpr (by decide)
      · exact classifiedIn_findWhen.mpr fun _ => by decide
    · refine List.forall_mem_singleton.mpr ?_
      simp [generalFailure, clockClassifications42e]
  simp only [clockFindings42e, classifiedIn_append, classifiedIn_findWhen]
  exact ⟨⟨⟨⟨fun _ => by decide, hoffset⟩, fun _ => by decide⟩, fun _ => by decide⟩,
    fun _ => by decide⟩

theorem classifiedIn_sourceFindings42e {sources : Json} {source : ReferenceSource}
    {found : List Finding} (h : sourceFindings42e sources source = .ok found) :
    ClassifiedIn otherClassifications42e found := by
  simp only [sourceFindings42e, bind, Except.bind, pure, Except.pure] at h
  split at h
  · cases h
  split at h
  · cases h
  rename_i hybrid hhybrid
  obtain rfl := Except.ok.inj h
  have hflat : ClassifiedIn otherClassifications42e hybrid.flatten := by
    refine classifiedIn_flatten_of_mapM hhybrid fun budgetMs _ found hfound => ?_
    simp only [hybridFindings42e, bind, Except.bind, pure, Except.pure] at hfound
    split at hfound
    · cases hfound
    obtain rfl := Except.ok.inj hfound
    simp [classifiedIn_append, classifiedIn_findWhen, implementationFailure,
      otherClassifications42e]
  simp only [classifiedIn_append, classifiedIn_findWhen, implementationFailure]
  exact ⟨⟨⟨⟨fun _ => by decide, fun _ => by decide⟩, hflat⟩, fun _ => by decide⟩, fun _ => by decide⟩

section Report42e

variable {report evaluated : Json} {measured : List Finding}

/-- What of the measuring fails the statuses. -/
theorem any_measured42e (h : measuredFindings42e report = .ok measured) {fails : Finding → Bool}
    (hfails : ∀ f, f.classification ∈ otherClassifications42e → fails f = false) :
    measured.any fails =
      ((freshFindings (report.get "fresh_capture_required").isTrue report).any fails ||
        (clockFindings42e report).any fails) := by
  rw [measuredFindings42e] at h
  rcases hsources : ReferenceSource.all.mapM
    (sourceFindings42e (report.get "sources").asDict) with e | lists
  · simp [hsources, bind, Except.bind] at h
  rw [hsources] at h
  obtain rfl := Except.ok.inj h
  have hothers : ClassifiedIn otherClassifications42e
      (testFindings "generated JSONL/heavy artifact .gitignore rules missing" report ++
        cleanupFindings report ++
        sampleFindings "corrected time protocol labels were not generated" report ++
        policyFindings42e report ++ leakageFindings (report.get "leakage_check").asDict ++
        exchangeFindings42e report) := by
    refine classifiedIn_append.mpr ⟨classifiedIn_append.mpr ⟨?_,
      classifiedIn_leakageFindings _ (by decide)⟩, classifiedIn_findWhen.mpr fun _ => by decide⟩
    simp [testFindings, cleanupFindings, sampleFindings, policyFindings42e, classifiedIn_append,
      classifiedIn_findWhen, implementationFailure, generalFailure, otherClassifications42e]
  have hflat : ClassifiedIn otherClassifications42e lists.flatten :=
    classifiedIn_flatten_of_mapM hsources fun _ _ _ => classifiedIn_sourceFindings42e
  have hnone := hothers.any_eq_false hfails
  simp only [List.any_append, Bool.or_eq_false_iff] at hnone
  obtain ⟨⟨⟨⟨⟨htests, hcleanup⟩, hsamples⟩, hpolicy⟩, hleakage⟩, hexchange⟩ := hnone
  simp only [List.any_append, htests, hcleanup, hsamples, hpolicy, hleakage, hexchange,
    hflat.any_eq_false hfails, Bool.false_or, Bool.or_false]

/-- Whether the corrected hybrid protocol passes: its status says so, and nothing that was measured
fails it. -/
def correctedPasses (report : Json) (measured : List Finding) : Bool :=
  saysPass "corrected_hybrid_status" report && !findsAs "CORRECTED_HYBRID_FAILURE" measured

theorem correctedFindings42e_eq (report : Json) (measured : List Finding) :
    correctedFindings42e report measured = findWhen (!correctedPasses report measured)
      (generalFailure "no corrected hybrid budget achieved valid_rate_eligible_rows >= 0.95"
        "CORRECTED_HYBRID_FAILURE") := by
  rw [correctedFindings42e, correctedPasses, Bool.not_and, Bool.not_not]

/-- When the statuses fail. -/
theorem failed42e (errors : List String) (hmeasured : measuredFindings42e report = .ok measured) :
    let found := schemaFindings errors ++ restFindings42e report measured
    (found.any fun f => f.classification ∈ freshClassifications) =
        !(freshFindings (report.get "fresh_capture_required").isTrue report).isEmpty ∧
      (found.any fun f => f.classification ∈ clockClassifications42e) =
        !(clockFindings42e report).isEmpty ∧
      (found.any fun f => f.classification = "CORRECTED_HYBRID_FAILURE") =
        !correctedPasses report measured ∧
      (found.any fun f =>
        f.classification ∈ ["PROTOCOL_DECISION_FAILURE", "CORRECTED_HYBRID_FAILURE"]) =
        !(correctedPasses report measured && (report.get "low_latency_ready").isTrue) ∧
      (found.any fun f => occursIn "FRESH_CAPTURE" f.classification) =
        !(freshFindings (report.get "fresh_capture_required").isTrue report).isEmpty := by
  intro found
  have hany {fails : Finding → Bool}
      (hfails : ∀ f, f.classification = "REPORT_SCHEMA_FAILURE" → fails f = false) :
      found.any fails = (measured.any fails ||
        (!correctedPasses report measured && fails (generalFailure
          "no corrected hybrid budget achieved valid_rate_eligible_rows >= 0.95"
          "CORRECTED_HYBRID_FAILURE")) ||
        (!(report.get "low_latency_ready").isTrue && fails (generalFailure
          "no low-latency-ready corrected protocol candidate selected"
          "PROTOCOL_DECISION_FAILURE"))) := by
    have hschema : (schemaFindings errors).any fails = false :=
      (classifiedIn_schemaFindings errors (.head [])).any_eq_false fun f hf =>
        hfails f (List.mem_singleton.mp hf)
    simp only [found, restFindings42e, correctedFindings42e, decisionFindings42e, List.any_append,
      hschema, any_findWhen, correctedPasses, Bool.not_and, Bool.not_not, Bool.false_or]
  have hfresh := classifiedIn_freshFindings (report.get "fresh_capture_required").isTrue report
  have hclock := classifiedIn_clockFindings42e report
  have hmeasuredFresh : (measured.any fun f => f.classification ∈ freshClassifications) =
      !(freshFindings (report.get "fresh_capture_required").isTrue report).isEmpty := by
    rw [any_measured42e hmeasured (not_mem_of_disjoint (by decide)), hfresh.any_eq,
      hclock.any_eq_false (not_mem_of_disjoint (by decide)), Bool.or_false]
  have hmeasuredClock : (measured.any fun f => f.classification ∈ clockClassifications42e) =
      !(clockFindings42e report).isEmpty := by
    rw [any_measured42e hmeasured (not_mem_of_disjoint (by decide)), hclock.any_eq,
      hfresh.any_eq_false (not_mem_of_disjoint (by decide)), Bool.false_or]
  have hmeasuredDecision : (measured.any fun f => f.classification = "PROTOCOL_DECISION_FAILURE") =
      false := by
    rw [any_measured42e hmeasured (ne_of_not_mem (by decide)),
      hfresh.any_eq_false (ne_of_not_mem (by decide)),
      hclock.any_eq_false (ne_of_not_mem (by decide)), Bool.or_false]
  have hmeasuredText : (measured.any fun f => occursIn "FRESH_CAPTURE" f.classification) =
      !(freshFindings (report.get "fresh_capture_required").isTrue report).isEmpty := by
    have hothers : ∀ c ∈ otherClassifications42e, occursIn "FRESH_CAPTURE" c = false := by decide
    have hclocks : ∀ c ∈ clockClassifications42e, occursIn "FRESH_CAPTURE" c = false := by decide
    have hcaptures : ∀ c ∈ freshClassifications, occursIn "FRESH_CAPTURE" c = true := by decide
    rw [any_measured42e hmeasured fun f hf => hothers _ hf,
      any_eq_of_forall fun f hf => hcaptures _ (hfresh f hf),
      hclock.any_eq_false fun f hf => hclocks _ hf, Bool.or_false]
  have hmeasuredCorrected :
      (findsAs "CORRECTED_HYBRID_FAILURE" measured || !correctedPasses report measured) =
        !correctedPasses report measured := by
    rw [correctedPasses]
    cases findsAs "CORRECTED_HYBRID_FAILURE" measured <;> simp
  have hmeasuredEither : (measured.any fun f =>
      f.classification ∈ ["PROTOCOL_DECISION_FAILURE", "CORRECTED_HYBRID_FAILURE"]) =
        findsAs "CORRECTED_HYBRID_FAILURE" measured := by
    rw [← Bool.false_or (findsAs _ _), ← hmeasuredDecision, findsAs, Bool.eq_iff_iff]
    simp [List.any_eq_true, and_or_left, exists_or]
  refine ⟨?_, ?_, ?_, ?_, ?_⟩
  · rw [hany fun f hf => decide_eq_false (hf ▸ by decide), hmeasuredFresh]
    simp [generalFailure, freshClassifications]
  · rw [hany fun f hf => decide_eq_false (hf ▸ by decide), hmeasuredClock]
    simp [generalFailure, clockClassifications42e]
  · rw [hany fun f hf => decide_eq_false (hf ▸ by decide), ← findsAs, ← hmeasuredCorrected]
    simp [generalFailure]
  · rw [hany fun f hf => decide_eq_false (hf ▸ by decide), hmeasuredEither, Bool.not_and,
      ← hmeasuredCorrected]
    simp [generalFailure]
  · have hnone : occursIn "FRESH_CAPTURE" "CORRECTED_HYBRID_FAILURE" = false ∧
        occursIn "FRESH_CAPTURE" "PROTOCOL_DECISION_FAILURE" = false := by decide
    rw [hany fun f hf => hf ▸ by decide, hmeasuredText]
    simp [generalFailure, hnone]

/-- The fields that the evaluation writes. -/
def written42e : List String :=
  ["implementation_status", "fresh_capture_status", "clock_sync_status", "corrected_hybrid_status",
    "protocol_decision_status"] ++ verdictFields

/-- Whether a report lists a failure of the capture. -/
def listsFreshCapture (report : Json) : Bool := listsFailure (occursIn "FRESH_CAPTURE") report

/-- Whether an invalid status is still invalid after an evaluation. -/
def lastsInvalid42e (report : Json) (field : String) : Bool :=
  if field = "exchange_time_coverage_status" then true
  else if field = "fresh_capture_status" then
    (freshFindings (report.get "fresh_capture_required").isTrue report).isEmpty &&
      listsFreshCapture report
  else if field = "clock_sync_status" then (clockFindings42e report).isEmpty
  else if field = "protocol_decision_status" then
    correctedPasses report (returned (measuredFindings42e report)) &&
      (report.get "low_latency_ready").isTrue
  else false

theorem congr42e (h : ∀ k, k ∉ written42e → evaluated.get? k = report.get? k) :
    measuredFindings42e evaluated = measuredFindings42e report ∧
      decisionFindings42e evaluated = decisionFindings42e report ∧
      phase42eSchema.others evaluated = phase42eSchema.others report := by
  have hget (k : String) (hk : k ∉ written42e) : evaluated.get k = report.get k :=
    congrArg (·.getD .null) (h k hk)
  have hgetD (k : String) (d : Json) (hk : k ∉ written42e) : evaluated.getD k d = report.getD k d :=
    congrArg (·.getD d) (h k hk)
  have hphase5 : mentionsPhase5 evaluated = mentionsPhase5 report := by
    rw [mentionsPhase5, mentionsPhase5, h _ (by decide), h _ (by decide)]
  refine ⟨?_, ?_, ?_⟩
  all_goals
    simp only [measuredFindings42e, testFindings, cleanupFindings, freshFindings, sampleFindings,
      policyFindings42e, clockFindings42e, exchangeFindings42e, saysPass, decisionFindings42e,
      phase42eSchema, hphase5]
    repeat first | rw [hget] | rw [hgetD]
  all_goals decide

/-- How the status of the capture ends: some listed failure keeps it. -/
theorem settleFreshCapture_eq (classifications : List String) (status : String) :
    settleFreshCapture classifications status =
      if classifications.any (occursIn "FRESH_CAPTURE") then status else "pass" := by
  rw [settleFreshCapture, occursIn_intercalate (by decide) (by decide)]
  split
  · rfl
  · rename_i hnone
    have hcaptures : ∀ c ∈ freshClassifications, occursIn "FRESH_CAPTURE" c = true := by decide
    refine if_neg ?_
    rw [List.any_eq_true]
    rintro ⟨c, hc, hmem⟩
    exact hnone (List.any_eq_true.mpr ⟨c, of_decide_eq_true hmem, hcaptures c hc⟩)

/-- How the status of the capture ends. -/
theorem ending_freshCaptureRule (classifications : List String) (found : List Finding) :
    freshCaptureRule.ending report classifications found =
      if classifications.any (occursIn "FRESH_CAPTURE") then
        if found.any fun f => f.classification ∈ freshClassifications then "fail"
        else (report.getD "fresh_capture_status" (.str "fail")).text
      else "pass" :=
  settleFreshCapture_eq _ _

/-- What the checks find, part by part. -/
theorem findings42e_eq_ok {found : List Finding} (h : findings42e report = .ok found) :
    ∃ errors measured, validatePhase42eReportSchema report = .ok errors ∧
      measuredFindings42e report = .ok measured ∧
      found = schemaFindings errors ++ restFindings42e report measured := by
  rw [findings42e] at h
  rcases herrors : validatePhase42eReportSchema report with e | errors
  · simp [herrors, bind, Except.bind] at h
  rcases hmeasured : measuredFindings42e report with e | measured
  · simp [herrors, hmeasured, bind, Except.bind] at h
  simp only [herrors, hmeasured, bind, Except.bind, pure, Except.pure] at h
  exact ⟨errors, measured, rfl, rfl, (Except.ok.inj h).symm⟩

/-- How an evaluation ends the status of the capture. -/
theorem ending_freshCapture {v : ReportVerdict} {found : List Finding}
    (h : phase42e.Evaluated report evaluated v found) :
    freshCaptureRule.ending report v.classifications found =
      if (freshFindings (report.get "fresh_capture_required").isTrue report).isEmpty then
        if listsFreshCapture report then
          (report.getD "fresh_capture_status" (.str "fail")).text
        else "pass"
      else "fail" := by
  obtain ⟨errors, measured, -, hmeasured, hfound⟩ := findings42e_eq_ok h.findings
  obtain ⟨hanyFresh, -, -, -, hanyText⟩ := failed42e errors hmeasured
  rw [← hfound] at hanyFresh hanyText
  obtain ⟨listed, hlisted, hv⟩ := h.listed
  have hlists : listsFreshCapture report = listed.classifications.any (occursIn "FRESH_CAPTURE") :=
    listsFailure_eq hlisted
  rw [ending_freshCaptureRule, hv, ReportVerdict.any_classifications_addAll, hanyFresh, hanyText,
    hlists]
  cases (freshFindings (report.get "fresh_capture_required").isTrue report).isEmpty <;>
    cases listed.classifications.any (occursIn "FRESH_CAPTURE") <;> rfl

/-- **What an evaluation of the corrected receive lag leaves of a report**: the errors of its
schema that last, and every other finding. -/
theorem again42e {v : ReportVerdict} {found : List Finding}
    (h : phase42e.Evaluated report evaluated v found) :
    ∃ measured, measuredFindings42e report = .ok measured ∧
      found = schemaFindings (phase42eSchema.errorsOf report) ++ restFindings42e report measured ∧
      findings42e evaluated = .ok (schemaFindings
        (phase42eSchema.lastingErrors written42e (lastsInvalid42e report) report) ++
          restFindings42e report measured) := by
  obtain ⟨errors, measured, hvalidate, hmeasured, hfound⟩ := findings42e_eq_ok h.findings
  obtain ⟨hmeasuring, hdecision, hothers⟩ := congr42e fun k hk => h.unwritten k hk
  obtain ⟨hanyFresh, hanyClock, hanyCorrected, hanyDecision, hanyText⟩ := failed42e errors hmeasured
  rw [← hfound] at hanyFresh hanyClock hanyCorrected hanyDecision hanyText
  have hfresh := h.statuses _ (.tail _ (.head _))
  have hclock := h.statuses _ (.tail _ (.tail _ (.head _)))
  have hcorrected := h.statuses _ (.tail _ (.tail _ (.tail _ (.head _))))
  have hdecided := h.statuses _ (.tail _ (.tail _ (.tail _ (.tail _ (.head _)))))
  have hstatus : ∀ k ∈ phase42eSchema.statuses,
      ((evaluated.get? k).any fun value => !isStatus value) =
        (lastsInvalid42e report k && (report.get? k).any fun value => !isStatus value) := by
    intro k hk
    simp only [phase42eSchema, List.mem_cons, List.not_mem_nil, or_false] at hk
    rcases hk with rfl | rfl | rfl | rfl | rfl | rfl
    · exact StatusRule.invalid_of_renewed (h.statuses _ (.head _))
    · have htext : (!isStatus (.str (report.getD "fresh_capture_status" (.str "fail")).text)) =
          (report.get? "fresh_capture_status").any fun value => !isStatus value :=
        invalid_text_getD rfl
      refine (congrArg (Option.any _) hfresh).trans ?_
      have hlasts : lastsInvalid42e report "fresh_capture_status" =
          ((freshFindings (report.get "fresh_capture_required").isTrue report).isEmpty &&
            listsFreshCapture report) := rfl
      rw [Option.any_some, ending_freshCapture h, hlasts, ← htext]
      cases (freshFindings (report.get "fresh_capture_required").isTrue report).isEmpty
      · rfl
      · cases listsFreshCapture report <;> rfl
    · refine (StatusRule.invalid_of_kept rfl hclock).trans ?_
      rw [hanyClock, Bool.not_not]
      rfl
    · rw [h.unwritten _ (by decide)]
      rfl
    · refine (StatusRule.invalid_of_kept rfl hcorrected).trans ?_
      rw [hanyCorrected, Bool.not_not]
      cases hpass : correctedPasses report measured with
      | true => exact invalid_of_saysPass (Bool.and_eq_true_iff.mp hpass).1
      | false => rfl
    · refine (StatusRule.invalid_of_kept rfl hdecided).trans ?_
      rw [hanyDecision, Bool.not_not, lastsInvalid42e, hmeasured]
      rfl
  have hlasting := ReportSchema.errorsOf_of_written h.unwritten (fun k hk => h.isSome_get? hk)
    hstatus hothers
  obtain ⟨rfl, hvalidated⟩ := ReportSchema.validate_of_written hvalidate evaluated
    fun k hk hhashable => by
      by_cases hwritten : k ∈ phase42e.statuses.map StatusRule.field
      · exact h.isHashable_get hwritten
      · have hunwritten : k ∉ phase42e.written := by
          have hapart : ∀ k ∈ phase42eSchema.statuses, k ∉ verdictFields := by decide
          exact fun hmem => (List.mem_append.mp hmem).elim hwritten (hapart k hk)
        rwa [Json.get, h.unwritten k hunwritten]
  have hcorrectedAgain : correctedPasses evaluated measured = correctedPasses report measured := by
    have hpassing : saysPass "corrected_hybrid_status" evaluated = correctedPasses report measured := by
      refine (congrArg (fun value => decide ((value.getD (.str "fail")).text = "pass"))
        hcorrected).trans ?_
      cases hpass : correctedPasses report measured with
      | true =>
          rw [StatusRule.ending_of_not_fails (hanyCorrected.trans (congrArg _ hpass))]
          exact (Bool.and_eq_true_iff.mp hpass).1
      | false =>
          rw [StatusRule.ending_of_fails (hanyCorrected.trans (congrArg _ hpass))]
          rfl
    rw [correctedPasses, hpassing, correctedPasses, Bool.and_assoc, Bool.and_self]
  have hrest : restFindings42e evaluated measured = restFindings42e report measured := by
    rw [restFindings42e, correctedFindings42e_eq, hcorrectedAgain, hdecision,
      ← correctedFindings42e_eq]
    rfl
  refine ⟨measured, hmeasured, hfound, ?_⟩
  rw [findings42e, validatePhase42eReportSchema, hvalidated, hlasting, hmeasuring, hmeasured]
  exact congrArg (fun rest => Except.ok (_ ++ rest)) hrest

/-- Whether an evaluation forgets that a capture failed: a failure of the capture is listed with no
reason, and nothing is found, so nothing is listed any more. -/
def forgetsCapture (report : Json) : Prop :=
  listedTexts report "hard_fail_reasons" = .ok [] ∧ findings42e report = .ok [] ∧
    listsFreshCapture report = true ∧ saysPass "fresh_capture_status" report = false

/-- When the status of the capture ends the same. -/
theorem ending_freshCapture_again_iff {v : ReportVerdict} {found found' : List Finding}
    (h : phase42e.Evaluated report evaluated v found) (hsub : ∀ f ∈ found', f ∈ found)
    (hfresh : (found'.any fun f => f.classification ∈ freshClassifications) =
      !(freshFindings (report.get "fresh_capture_required").isTrue report).isEmpty) :
    freshCaptureRule.ending evaluated (v.reread.addAll found').classifications found' =
        freshCaptureRule.ending report v.classifications found ↔ ¬ forgetsCapture report := by
  obtain ⟨errors, measured, -, hmeasured, hfound⟩ := findings42e_eq_ok h.findings
  obtain ⟨-, -, -, -, hanyText⟩ := failed42e errors hmeasured
  rw [← hfound] at hanyText
  obtain ⟨listed, hlisted, hv⟩ := h.listed
  obtain ⟨hhard, -, -⟩ := readVerdict_eq_ok hlisted
  have hlists : listsFreshCapture report = listed.classifications.any (occursIn "FRESH_CAPTURE") :=
    listsFailure_eq hlisted
  have hstatus : (evaluated.getD "fresh_capture_status" (.str "fail")).text =
      freshCaptureRule.ending report v.classifications found :=
    congrArg (fun value => (value.getD (.str "fail")).text) (h.statuses _ (.tail _ (.head _)))
  have hreread : (v.reread.addAll found').classifications.any (occursIn "FRESH_CAPTURE") =
      (decide (v.hard ≠ []) && v.classifications.any (occursIn "FRESH_CAPTURE")) := by
    rw [Bool.eq_iff_iff, Bool.and_eq_true, decide_eq_true_eq, List.any_eq_true, List.any_eq_true]
    simp only [ReportVerdict.mem_classifications_reread_addAll fun f hf => h.mem_of_mem (hsub f hf)]
    tauto
  have hfirst : v.classifications.any (occursIn "FRESH_CAPTURE") =
      (listsFreshCapture report ||
        !(freshFindings (report.get "fresh_capture_required").isTrue report).isEmpty) := by
    rw [hv, ReportVerdict.any_classifications_addAll, hanyText, hlists]
  have hreasons : v.hard = [] ↔ listed.hard = [] ∧ found = [] := by
    rw [hv, ReportVerdict.hard_addAll, List.append_eq_nil_iff, List.map_eq_nil_iff]
  have hforgets : forgetsCapture report ↔ v.hard = [] ∧ listsFreshCapture report = true ∧
      saysPass "fresh_capture_status" report = false := by
    have hfindings : findings42e report = .ok found := h.findings
    rw [forgetsCapture, hhard, hfindings, hreasons, Except.ok.injEq, Except.ok.injEq, and_assoc]
  rw [ending_freshCaptureRule, hreread, hfirst, hfresh, hstatus, ending_freshCapture h, hforgets]
  cases hcapture : (freshFindings (report.get "fresh_capture_required").isTrue report).isEmpty with
  | false =>
      -- a failure of the capture is a reason
      have hne : v.hard ≠ [] := by
        intro hnil
        rw [(hreasons.mp hnil).2, List.any_nil] at hanyText
        rw [hcapture] at hanyText
        cases hanyText
      simp [hne]
  | true =>
      cases hlists' : listsFreshCapture report with
      | false => simp
      | true =>
          by_cases hne : v.hard = []
          · simp [hne, saysPass, eq_comm]
          · simp [hne]

/-- **The reports of the corrected receive lag that a second evaluation leaves**: as for the time
protocols, if the first does not forget that a capture failed. -/
def StableReport42e (report : Json) : Prop :=
  (phase42eSchema.errorsOf report = [] ∨
    findsIn .implementation
      (restFindings42e report (returned (measuredFindings42e report))) = true ∨
    phase42eSchema.lastingErrors written42e (lastsInvalid42e report) report ≠ []) ∧
  ¬ forgetsCapture report

theorem stable42e_iff (h : evaluatePhase42eReport report = .ok evaluated) :
    SameVerdict evaluatePhase42eReport phase42e.outcome evaluated ↔ StableReport42e report := by
  obtain ⟨v, found, hev⟩ := Evaluator.evaluated_of_eq_ok h
  obtain ⟨measured, hmeasured, rfl, hagain⟩ := again42e hev
  have hsub := phase42eSchema.mem_of_mem_lasting written42e (lastsInvalid42e report) report
    (restFindings42e report measured)
  have hcapture := ending_freshCapture_again_iff hev hsub (failed42e _ hmeasured).1
  rw [StableReport42e, hmeasured, returned_ok, ← findsIn_lasting_iff]
  refine (hev.sameVerdict_iff hagain hsub).trans ⟨fun hall => ⟨?_, ?_⟩, fun hstable rule hrule => ?_⟩
  · exact (StatusRule.ending_renewed_eq_iff hsub).mp (hall _ (.head _))
  · exact hcapture.mp (hall _ (.tail _ (.head _)))
  · have hstatus := hev.statuses rule hrule
    simp only [phase42e, List.mem_cons, List.not_mem_nil, or_false] at hrule
    rcases hrule with rfl | rfl | rfl | rfl | rfl
    · exact (StatusRule.ending_renewed_eq_iff hsub).mpr hstable.1
    · exact hcapture.mpr hstable.2
    all_goals exact StatusRule.ending_kept hsub hstatus

end Report42e

/-! ### The report of the readiness -/

/-- The fields that the evaluation writes. -/
def written42fg : List String :=
  ["implementation_status", "fresh_capture_status", "clock_sync_status",
    "readiness_semantics_status", "latency_profile_status", "strict_100ms_observability_status",
    "protocol_decision_status"] ++ verdictFields

section Report42fg

variable {identical : Json → Json → Bool} {report evaluated : Json}

/-- What the checks find in a report that differs in written fields only: the same after the
schema. -/
theorem findings42fg_of_unwritten {found : List Finding} {errors errors' : List String}
    (h : ∀ k, k ∉ written42fg → evaluated.get? k = report.get? k)
    (hvalidate : validatePhase42fgReportSchema identical report = .ok errors)
    (hvalidated : validatePhase42fgReportSchema identical evaluated = .ok errors')
    (hfound : findings42fg identical report = .ok found) :
    ∃ rest, found = schemaFindings errors ++ rest ∧
      findings42fg identical evaluated = .ok (schemaFindings errors' ++ rest) := by
  have hget (k : String) (hk : k ∉ written42fg) : evaluated.get k = report.get k :=
    congrArg (·.getD .null) (h k hk)
  have hchecks : testFindings "generated artifact .gitignore rules missing" evaluated =
        testFindings "generated artifact .gitignore rules missing" report ∧
      cleanupFindings evaluated = cleanupFindings report ∧
      freshFindings (evaluated.get "fresh_capture_required").isTrue evaluated =
        freshFindings (report.get "fresh_capture_required").isTrue report ∧
      policyFindings42fg evaluated = policyFindings42fg report ∧
      clockFindings42fg evaluated = clockFindings42fg report ∧
      latencyFindings evaluated = latencyFindings report ∧
      readinessFindings identical evaluated = readinessFindings identical report := by
    refine ⟨?_, ?_, ?_, ?_, ?_, ?_, ?_⟩
    all_goals
      simp only [testFindings, cleanupFindings, freshFindings, policyFindings42fg,
        clockFindings42fg, latencyFindings, readinessFindings, readinessIsStrict]
      repeat rw [hget]
    all_goals decide
  obtain ⟨htests, hcleanup, hfresh, hpolicy, hclock, hlatency, hreadiness⟩ := hchecks
  rw [findings42fg, hvalidate] at hfound
  rw [findings42fg, hvalidated, htests, hcleanup, hfresh, hpolicy, hclock, hlatency, hreadiness,
    hget "leakage_check" (by decide), hget "sources" (by decide)]
  rcases hmeasured : ReferenceSource.all.mapM
    (sourceFindings42fg (report.get "sources").asDict) with e | lists
  · simp [hmeasured, bind, Except.bind] at hfound
  · simp only [hmeasured, List.append_assoc, bind, Except.bind, pure, Except.pure] at hfound ⊢
    exact ⟨_, (Except.ok.inj hfound).symm, rfl⟩

/-- **A second evaluation of the readiness agrees with the first**: every status is kept, or is
that of the strict readiness, which no evaluation writes. -/
theorem sameVerdict42fg (h : evaluatePhase42fgReport identical report = .ok evaluated) :
    SameVerdict (evaluatePhase42fgReport identical) (phase42fg identical).outcome evaluated := by
  obtain ⟨v, found, hev⟩ := Evaluator.evaluated_of_eq_ok h
  have hunwritten : ∀ k, k ∉ written42fg → evaluated.get? k = report.get? k := hev.unwritten
  have hfindings : findings42fg identical report = .ok found := hev.findings
  rcases hvalidate : validatePhase42fgReportSchema identical report with e | errors
  · simp [findings42fg, hvalidate, bind, Except.bind] at hfindings
  -- a status that is no status now was none before
  let lasts (k : String) : Bool := (evaluated.get? k).any fun value => !isStatus value
  have hstatus : ∀ k ∈ (phase42fgSchema identical).statuses,
      ((evaluated.get? k).any fun value => !isStatus value) =
        (lasts k && (report.get? k).any fun value => !isStatus value) := by
    intro k hk
    have hkept {field : String} {fails : Finding → Bool} (hmem :
        StatusRule.kept field "pass" fails ∈ (phase42fg identical).statuses) :
        ((evaluated.get? field).any fun value => !isStatus value) =
          (lasts field && (report.get? field).any fun value => !isStatus value) := by
      have hinvalid : ((evaluated.get? field).any fun value => !isStatus value) =
          (!found.any fails && (report.get? field).any fun value => !isStatus value) :=
        StatusRule.invalid_of_kept rfl (hev.statuses _ hmem)
      simp only [lasts]
      rw [hinvalid, Bool.and_assoc, Bool.and_self]
    simp only [phase42fgSchema, List.mem_cons, List.not_mem_nil, or_false] at hk
    rcases hk with rfl | rfl | rfl | rfl | rfl | rfl | rfl
    · exact hkept (.head _)
    · exact hkept (.tail _ (.head _))
    · exact hkept (.tail _ (.tail _ (.head _)))
    · exact hkept (.tail _ (.tail _ (.tail _ (.head _))))
    · exact hkept (.tail _ (.tail _ (.tail _ (.tail _ (.head _)))))
    · have hstrict := hev.statuses _ (.tail _ (.tail _ (.tail _ (.tail _ (.tail _ (.head _))))))
      rw [StatusRule.ending_of_never_fails (by exact fun _ => rfl)] at hstrict
      have hvalid : lasts "strict_100ms_observability_status" = false := by
        refine (congrArg (Option.any _) hstrict).trans ?_
        cases hready : (report.get "strict_100ms_observability_ready").isTrue <;>
          simp [hready, isStatus]
      rw [hvalid]
      exact hvalid
    · exact hkept (.tail _ (.tail _ (.tail _ (.tail _ (.tail _ (.tail _ (.head _)))))))
  have hothers : (phase42fgSchema identical).others evaluated =
      (phase42fgSchema identical).others report := by
    have hget (k : String) (hk : k ∉ written42fg) : evaluated.get k = report.get k :=
      congrArg (·.getD .null) (hunwritten k hk)
    have hready : readinessIsStrict identical evaluated = readinessIsStrict identical report := by
      rw [readinessIsStrict, readinessIsStrict, hget _ (by decide), hget _ (by decide)]
    simp only [phase42fgSchema, hready]
    repeat rw [hget]
    all_goals decide
  have hlasting := ReportSchema.errorsOf_of_written hev.unwritten (fun k hk => hev.isSome_get? hk)
    hstatus hothers
  obtain ⟨rfl, hvalidated⟩ := ReportSchema.validate_of_written hvalidate evaluated
    fun k hk _ => hev.isHashable_get hk
  obtain ⟨rest, rfl, hagain⟩ := findings42fg_of_unwritten hunwritten hvalidate hvalidated hfindings
  rw [hlasting] at hagain
  have hsub := (phase42fgSchema identical).mem_of_mem_lasting (phase42fg identical).written lasts
    report rest
  refine (hev.sameVerdict_iff hagain hsub).mpr fun rule hrule => ?_
  have hended := hev.statuses rule hrule
  simp only [phase42fg, List.mem_cons, List.not_mem_nil, or_false] at hrule
  rcases hrule with rfl | rfl | rfl | rfl | rfl | rfl | rfl
  pick_goal 6
  · have hready : evaluated.get "strict_100ms_observability_ready" =
        report.get "strict_100ms_observability_ready" :=
      congrArg (·.getD .null) (hunwritten _ (by decide))
    refine StatusRule.ending_eq_of_start_eq (fun _ => rfl) (fun _ _ => rfl) ?_
    exact congrArg (fun value => if Json.isTrue value then "pass" else "fail") hready
  all_goals exact StatusRule.ending_kept hsub hended

end Report42fg

end SomethingTrade
