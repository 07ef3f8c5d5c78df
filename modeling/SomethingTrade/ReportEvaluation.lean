import SomethingTrade.LabeledQuality

/-!
# Evaluations of Reports

The report of a benchmark is evaluated when it is built, and once more by everything that writes
it. An evaluation starts from what the report already lists, adds what its checks find, and writes
the result over what it has read, so a second evaluation reads the result of the first.

## Main results

* `fromKeys_fromKeys_append`, `sortedSet_congr`: lists that are written without repetition and
  read again.
* `ReportVerdict.fields_eq_of_reread`: a verdict that is read again and finds nothing new is the same.
* `Evaluator.sameVerdict_iff`: a second evaluation agrees with the first when its checks find no
  more than those of the first and all statuses end the same.
-/

namespace SomethingTrade

/-! ### Lists without repetition -/

/-- Append a text that is not there yet. -/
def insertNew (seen : List String) (text : String) : List String :=
  if text ∈ seen then seen else seen ++ [text]

/-- `list(dict.fromkeys(texts))`: each text at its first place. -/
def fromKeys (texts : List String) : List String := texts.foldl insertNew []

theorem mem_insertNew {seen : List String} {s t : String} :
    t ∈ insertNew seen s ↔ t ∈ seen ∨ t = s := by
  rw [insertNew]
  split
  · constructor
    · exact Or.inl
    · rintro (ht | rfl)
      · exact ht
      · assumption
  · simp

theorem mem_foldl_insertNew {seen texts : List String} {t : String} :
    t ∈ texts.foldl insertNew seen ↔ t ∈ seen ∨ t ∈ texts := by
  induction texts generalizing seen with
  | nil => simp
  | cons s texts ih => rw [List.foldl_cons, ih, mem_insertNew, List.mem_cons, or_assoc]

@[simp] theorem mem_fromKeys {texts : List String} {t : String} :
    t ∈ fromKeys texts ↔ t ∈ texts := by
  simp [fromKeys, mem_foldl_insertNew]

@[simp] theorem fromKeys_eq_nil {texts : List String} : fromKeys texts = [] ↔ texts = [] := by
  simp only [List.eq_nil_iff_forall_not_mem, mem_fromKeys]

/-- Texts that are there add nothing. -/
theorem foldl_insertNew_of_subset {seen texts : List String} (h : ∀ t ∈ texts, t ∈ seen) :
    texts.foldl insertNew seen = seen := by
  induction texts with
  | nil => rfl
  | cons s texts ih =>
      rw [List.foldl_cons, insertNew, if_pos (h s List.mem_cons_self)]
      exact ih fun t ht => h t (List.mem_cons_of_mem _ ht)

/-- Texts that are new and differ are appended. -/
theorem foldl_insertNew_of_nodup {seen texts : List String} (h : (seen ++ texts).Nodup) :
    texts.foldl insertNew seen = seen ++ texts := by
  induction texts generalizing seen with
  | nil => simp
  | cons s texts ih =>
      have hnew : s ∉ seen := fun hs =>
        (List.nodup_append.mp h).2.2 s hs s List.mem_cons_self rfl
      rw [List.foldl_cons, insertNew, if_neg hnew, ih (by simpa using h)]
      simp

theorem nodup_foldl_insertNew {seen texts : List String} (h : seen.Nodup) :
    (texts.foldl insertNew seen).Nodup := by
  induction texts generalizing seen with
  | nil => exact h
  | cons s texts ih =>
      refine ih ?_
      rw [insertNew]
      split
      · exact h
      · exact List.nodup_append.mpr ⟨h, by simp, by rintro a ha b hb rfl; simp_all⟩

/-- Texts that were listed before add nothing to the list. -/
theorem fromKeys_fromKeys_append {xs ys : List String} (h : ∀ y ∈ ys, y ∈ xs) :
    fromKeys (fromKeys xs ++ ys) = fromKeys xs := by
  have hnodup : (fromKeys xs).Nodup := nodup_foldl_insertNew List.nodup_nil
  have hagain : (fromKeys xs).foldl insertNew [] = fromKeys xs :=
    @foldl_insertNew_of_nodup [] _ hnodup
  rw [fromKeys, List.foldl_append, hagain]
  exact foldl_insertNew_of_subset fun y hy => mem_fromKeys.mpr (h y hy)

/-- A sorted set depends on its elements only. -/
theorem sortedSet_congr {xs ys : List String} (h : ∀ t, t ∈ xs ↔ t ∈ ys) :
    sortedSet xs = sortedSet ys := by
  have hperm : (sortedSet xs).Perm (sortedSet ys) :=
    (List.perm_insertionSort _ _).trans <| ((List.perm_ext_iff_of_nodup (List.nodup_dedup xs)
      (List.nodup_dedup ys)).mpr fun t => by simp [h t]).trans (List.perm_insertionSort _ _).symm
  exact hperm.eq_of_pairwise (fun a b _ _ => String.le_antisymm)
    (List.pairwise_insertionSort _ _) (List.pairwise_insertionSort _ _)

/-! ### Findings -/

/-- What part of the work a finding is about. -/
inductive FindingDomain
  | implementation
  | runtime
  | benchmark
  | unspecified
  deriving DecidableEq

/-- A text is not empty. On a literal this computes to `True`. -/
def IsNamed (text : String) : Prop := if text = "" then False else True

theorem IsNamed.ne_empty (text : String) (h : IsNamed text) : text ≠ "" := by
  intro hempty
  rw [IsNamed, if_pos hempty] at h
  exact h

/-- What a check of a report finds: a reason, and a classification that is not empty. -/
structure Finding where
  reason : String
  classification : String
  domain : FindingDomain := .unspecified
  named : classification ≠ "" := by exact IsNamed.ne_empty _ trivial

/-- A finding if its condition holds. -/
def findWhen (condition : Bool) (finding : Finding) : List Finding :=
  if condition then [finding] else []

@[simp] theorem mem_findWhen {condition : Bool} {f finding : Finding} :
    f ∈ findWhen condition finding ↔ condition = true ∧ f = finding := by
  rw [findWhen]
  split <;> simp_all

@[simp] theorem findWhen_eq_nil {condition : Bool} {finding : Finding} :
    findWhen condition finding = [] ↔ condition = false := by
  rw [findWhen]
  split <;> simp_all

/-- The findings of one part of the work. -/
def findsIn (domain : FindingDomain) (found : List Finding) : Bool :=
  found.any fun f => f.domain = domain

/-- The findings with a classification. -/
def findsAs (classification : String) (found : List Finding) : Bool :=
  found.any fun f => f.classification = classification

/-! ### Verdicts -/

/-- What an evaluation has added up: the reasons, the classifications, and the failure that is
named first. -/
structure ReportVerdict where
  hard : List String
  classifications : List String
  primary : Json

namespace ReportVerdict

/-- Add a finding. A failure that is named already stays. -/
def add (v : ReportVerdict) (f : Finding) : ReportVerdict :=
  { hard := v.hard ++ [f.reason]
    classifications := insertNew v.classifications f.classification
    primary := v.primary.orElse (.str f.classification) }

/-- Add findings in order. -/
def addAll (v : ReportVerdict) (found : List Finding) : ReportVerdict := found.foldl add v

@[simp] theorem addAll_nil (v : ReportVerdict) : v.addAll [] = v := rfl

theorem addAll_append (v : ReportVerdict) (xs ys : List Finding) :
    v.addAll (xs ++ ys) = (v.addAll xs).addAll ys :=
  List.foldl_append

@[simp] theorem hard_addAll (v : ReportVerdict) (found : List Finding) :
    (v.addAll found).hard = v.hard ++ found.map Finding.reason := by
  induction found generalizing v with
  | nil => simp
  | cons f found ih =>
      have hadd : (v.add f).hard = v.hard ++ [f.reason] := rfl
      rw [addAll, List.foldl_cons, ← addAll, ih, hadd]
      simp

@[simp] theorem mem_classifications_addAll {v : ReportVerdict} {found : List Finding} {c : String} :
    c ∈ (v.addAll found).classifications ↔
      c ∈ v.classifications ∨ c ∈ found.map Finding.classification := by
  induction found generalizing v with
  | nil => simp
  | cons f found ih =>
      have hadd : (v.add f).classifications = insertNew v.classifications f.classification := rfl
      rw [addAll, List.foldl_cons, ← addAll, ih, hadd, mem_insertNew, List.map_cons,
        List.mem_cons, or_assoc]

/-- A failure that is named stays. -/
theorem primary_addAll_of_truthy {v : ReportVerdict} (h : v.primary.truthy = true)
    (found : List Finding) : (v.addAll found).primary = v.primary := by
  induction found generalizing v with
  | nil => rfl
  | cons f found ih =>
      have hadd : (v.add f).primary = v.primary := if_pos h
      rw [addAll, List.foldl_cons, ← addAll, ih (hadd ▸ h), hadd]

/-- A finding names a failure. -/
theorem truthy_primary_addAll {v : ReportVerdict} {found : List Finding} (h : found ≠ []) :
    (v.addAll found).primary.truthy = true := by
  cases found with
  | nil => exact absurd rfl h
  | cons f found =>
      have hadd : (v.add f).primary.truthy = true := by
        rw [add, Json.orElse]
        split
        · assumption
        · simpa [Json.truthy] using f.named
      rw [addAll, List.foldl_cons, ← addAll, primary_addAll_of_truthy hadd]
      exact hadd

/-- What is written of a verdict. Without a reason, nothing is left of it. -/
def fields (v : ReportVerdict) : List (String × Json) :=
  [("primary_failure", if v.hard = [] then .null else v.primary),
    ("failure_classifications",
      .arr (if v.hard = [] then [] else (sortedSet v.classifications).map .str)),
    ("hard_fail_reasons", .arr ((fromKeys v.hard).map .str))]

/-- What a written verdict is read as. -/
def reread (v : ReportVerdict) : ReportVerdict :=
  { hard := fromKeys v.hard
    classifications := if v.hard = [] then [] else sortedSet v.classifications
    primary := if v.hard = [] then .null else v.primary }

/-- **A verdict that is read again** and gets no reason and no classification that it did not have
is written as before. -/
theorem fields_eq_of_reread {v v' : ReportVerdict} {reasons : List String}
    (hhard : v'.hard = v.reread.hard ++ reasons) (hreasons : ∀ r ∈ reasons, r ∈ v.hard)
    (hclassified : v.hard ≠ [] → ∀ c, c ∈ v'.classifications ↔ c ∈ v.classifications)
    (hprimary : v.hard ≠ [] → v'.primary = v.primary) : v'.fields = v.fields := by
  have hkeys : fromKeys v'.hard = fromKeys v.hard := by
    rw [hhard]
    exact fromKeys_fromKeys_append hreasons
  have hnil : v'.hard = [] ↔ v.hard = [] := by
    rw [← fromKeys_eq_nil, hkeys, fromKeys_eq_nil]
  by_cases h : v.hard = []
  · simp [fields, hnil.mpr h, h]
  · simp only [fields, hkeys, hnil, h, if_false, hprimary h, sortedSet_congr (hclassified h)]

/-- Findings that were there before change nothing. -/
theorem fields_reread_addAll {v : ReportVerdict} {found : List Finding}
    (hreason : ∀ f ∈ found, f.reason ∈ v.hard)
    (hclassification : ∀ f ∈ found, f.classification ∈ v.classifications)
    (hprimary : found ≠ [] → v.primary.truthy = true) :
    (v.reread.addAll found).fields = v.fields := by
  refine fields_eq_of_reread (hard_addAll _ _) ?_ (fun h c => ?_) fun h => ?_
  · intro r hr
    obtain ⟨f, hf, rfl⟩ := List.mem_map.mp hr
    exact hreason f hf
  · rw [mem_classifications_addAll, reread, if_neg h, mem_sortedSet]
    constructor
    · rintro (hc | hc)
      · exact hc
      · obtain ⟨f, hf, rfl⟩ := List.mem_map.mp hc
        exact hclassification f hf
    · exact Or.inl
  · have hsame : v.reread.primary = v.primary := if_neg h
    by_cases hfound : found = []
    · rw [hfound, addAll_nil, hsame]
    · rw [primary_addAll_of_truthy (hsame ▸ hprimary hfound), hsame]

/-- The classifications of a verdict that is read again and finds nothing new: those it had, if
there was a reason. -/
theorem mem_classifications_reread_addAll {v : ReportVerdict} {found : List Finding}
    (h : ∀ f ∈ found, f.reason ∈ v.hard ∧ f.classification ∈ v.classifications) {c : String} :
    c ∈ (v.reread.addAll found).classifications ↔ v.hard ≠ [] ∧ c ∈ v.classifications := by
  rw [mem_classifications_addAll, reread]
  by_cases hhard : v.hard = []
  · have hfound : found = [] := by
      refine List.eq_nil_iff_forall_not_mem.mpr fun f hf => ?_
      exact List.not_mem_nil (hhard ▸ (h f hf).1)
    simp [hhard, hfound]
  · rw [if_neg hhard, mem_sortedSet]
    constructor
    · rintro (hc | hc)
      · exact ⟨hhard, hc⟩
      · obtain ⟨f, hf, rfl⟩ := List.mem_map.mp hc
        exact ⟨hhard, (h f hf).2⟩
    · exact fun hc => Or.inl hc.2

/-- Whether a classification of a verdict has a property. -/
theorem any_classifications_addAll (v : ReportVerdict) (found : List Finding) (p : String → Bool) :
    (v.addAll found).classifications.any p =
      (v.classifications.any p || found.any fun f => p f.classification) := by
  rw [Bool.eq_iff_iff, Bool.or_eq_true, List.any_eq_true, List.any_eq_true, List.any_eq_true]
  simp only [mem_classifications_addAll, List.mem_map]
  constructor
  · rintro ⟨c, hc | ⟨f, hf, rfl⟩, hp⟩
    · exact Or.inl ⟨c, hc, hp⟩
    · exact Or.inr ⟨f, hf, hp⟩
  · rintro (⟨c, hc, hp⟩ | ⟨f, hf, hp⟩)
    · exact ⟨c, Or.inl hc, hp⟩
    · exact ⟨f.classification, Or.inr ⟨f, hf, rfl⟩, hp⟩

end ReportVerdict

/-! ### Reading and writing reports -/

/-- What iterating over a value gives. -/
def iterated : Json → Except String (List Json)
  | .arr items => .ok items
  | .str s => .ok (s.toList.map fun c => .str c.toString)
  | .obj fields => .ok (fields.map fun e => .str e.1)
  | _ => .error "TypeError"

/-- The texts that a report lists in a field. -/
def listedTexts (report : Json) (field : String) : Except String (List String) := do
  return (← iterated (report.getD field (.arr []))).map Json.text

/-- The texts that a report lists in a field, without what counts as false. -/
def listedTruthy (report : Json) (field : String) : Except String (List String) := do
  return ((← iterated (report.getD field (.arr []))).filter Json.truthy).map Json.text

/-- The verdict that a report lists. -/
def readVerdict (report : Json) : Except String ReportVerdict := do
  let hard ← listedTexts report "hard_fail_reasons"
  let classifications ← listedTruthy report "failure_classifications"
  return ⟨hard, classifications, report.get "primary_failure"⟩

/-- What a verdict is read from. -/
theorem readVerdict_eq_ok {report : Json} {v : ReportVerdict} (h : readVerdict report = .ok v) :
    listedTexts report "hard_fail_reasons" = .ok v.hard ∧
      listedTruthy report "failure_classifications" = .ok v.classifications ∧
      v.primary = report.get "primary_failure" := by
  rw [readVerdict] at h
  rcases hhard : listedTexts report "hard_fail_reasons" with e | hard
  · simp [hhard, bind, Except.bind] at h
  rcases hclassified : listedTruthy report "failure_classifications" with e | classifications
  · simp [hhard, hclassified, bind, Except.bind] at h
  simp only [hhard, hclassified, bind, Except.bind, pure, Except.pure] at h
  obtain rfl := Except.ok.inj h
  exact ⟨rfl, rfl, rfl⟩

/-- Set fields of a report. -/
def writeFields (report : Json) (fields : List (String × Json)) : Json :=
  fields.foldl (fun report e => report.setField e.1 e.2) report

theorem get?_writeFields_of_notMem {report : Json} {fields : List (String × Json)} {k : String}
    (h : k ∉ fields.map Prod.fst) : (writeFields report fields).get? k = report.get? k := by
  induction fields generalizing report with
  | nil => rfl
  | cons e fields ih =>
      rw [List.map_cons, List.mem_cons, not_or] at h
      rw [writeFields, List.foldl_cons, ← writeFields, ih h.2]
      exact Json.get?_setField_of_ne report e.2 (Ne.symm h.1)

theorem isObj_writeFields {report : Json} (h : report.IsObj) (fields : List (String × Json)) :
    (writeFields report fields).IsObj := by
  induction fields generalizing report with
  | nil => exact h
  | cons e fields ih => exact ih (h.setField e.1 e.2)

theorem get?_writeFields_of_mem {report : Json} (h : report.IsObj)
    {fields : List (String × Json)} (hnodup : (fields.map Prod.fst).Nodup) {k : String} {v : Json}
    (hmem : (k, v) ∈ fields) : (writeFields report fields).get? k = some v := by
  induction fields generalizing report with
  | nil => cases hmem
  | cons e fields ih =>
      rw [List.map_cons, List.nodup_cons] at hnodup
      rw [writeFields, List.foldl_cons, ← writeFields]
      rcases List.mem_cons.mp hmem with rfl | hmem
      · rw [get?_writeFields_of_notMem hnodup.1]
        exact h.get?_setField_self k v
      · exact ih (h.setField e.1 e.2) hnodup.2 hmem

theorem listedTexts_of_get? {report : Json} {field : String} {texts : List String}
    (h : report.get? field = some (.arr (texts.map .str))) :
    listedTexts report field = .ok texts := by
  simp [listedTexts, Json.getD, h, iterated, bind, Except.bind, pure, Except.pure,
    Function.comp_def, Json.text]

theorem listedTruthy_of_get? {report : Json} {field : String} {texts : List String}
    (h : report.get? field = some (.arr (texts.map .str))) (hne : "" ∉ texts) :
    listedTruthy report field = .ok texts := by
  have hall : texts.filter (fun t => (Json.str t).truthy) = texts := by
    refine List.filter_eq_self.mpr fun t ht => ?_
    have : t ≠ "" := fun h => hne (h ▸ ht)
    simpa [Json.truthy] using this
  simp only [listedTruthy, Json.getD, h, iterated, bind, Except.bind, pure, Except.pure,
    Option.getD_some, List.filter_map, Function.comp_def, hall, List.map_map, Json.text]
  simp

/-- Numbers do not print as the empty text. -/
theorem formatF_ne_empty (q : ℚ) : Decimal.formatF q ≠ "" := by
  have hdigits (n k : ℕ) : Decimal.formatDigits n k ≠ [] := by
    refine List.append_ne_nil_of_left_ne_nil ?_ _
    rw [← List.length_pos_iff_ne_nil, Decimal.length_fixedDigits]
    exact Nat.succ_pos _
  intro h
  have hlist := congrArg String.toList h
  rw [Decimal.formatF, String.toList_ofList] at hlist
  split at hlist
  · cases hlist
  · exact hdigits _ _ hlist

/-- What counts as true does not print as the empty text. -/
theorem text_ne_empty {j : Json} (h : j.truthy = true) : j.text ≠ "" := by
  cases j with
  | null => cases h
  | bool b => cases b <;> simp [Json.text, Json.repr]
  | int n => simpa [Json.text, Json.repr] using formatF_ne_empty n
  | float q => simpa [Json.text, Json.repr] using formatF_ne_empty q
  | str s => simpa [Json.truthy, Json.text] using h
  | arr items => simp [Json.text, Json.repr]
  | obj fields => simp [Json.text, Json.repr]

theorem notMem_of_listedTruthy {report : Json} {field : String} {texts : List String}
    (h : listedTruthy report field = .ok texts) : "" ∉ texts := by
  rw [listedTruthy] at h
  rcases hitems : iterated (report.getD field (.arr [])) with e | items
  · simp [hitems, bind, Except.bind] at h
  · rw [hitems] at h
    obtain rfl := Except.ok.inj h
    intro hmem
    obtain ⟨j, hj, htext⟩ := List.mem_map.mp hmem
    exact text_ne_empty (List.mem_filter.mp hj).2 htext

/-- No classification of a verdict is empty. -/
theorem notMem_classifications {report : Json} {v : ReportVerdict} (h : readVerdict report = .ok v)
    (found : List Finding) : "" ∉ (v.addAll found).classifications := by
  rw [ReportVerdict.mem_classifications_addAll, not_or]
  constructor
  · exact notMem_of_listedTruthy (readVerdict_eq_ok h).2.1
  · intro hmem
    obtain ⟨f, -, hf⟩ := List.mem_map.mp hmem
    exact f.named hf

/-- **A verdict that was written is read again.** -/
theorem readVerdict_of_fields {report : Json} {v : ReportVerdict} (hne : "" ∉ v.classifications)
    (h : ∀ e ∈ v.fields, report.get? e.1 = some e.2) : readVerdict report = .ok v.reread := by
  have hprimary : report.get? "primary_failure" = some (if v.hard = [] then .null else v.primary) :=
    h _ List.mem_cons_self
  have hclassified : report.get? "failure_classifications" =
      some (.arr (if v.hard = [] then [] else (sortedSet v.classifications).map .str)) :=
    h _ (List.mem_cons_of_mem _ List.mem_cons_self)
  have hhard : report.get? "hard_fail_reasons" = some (.arr ((fromKeys v.hard).map .str)) :=
    h _ (List.mem_cons_of_mem _ (List.mem_cons_of_mem _ List.mem_cons_self))
  have hlisted : (if v.hard = [] then [] else (sortedSet v.classifications).map Json.str) =
      (if v.hard = [] then [] else sortedSet v.classifications).map Json.str := by
    split <;> rfl
  rw [hlisted] at hclassified
  have hnone : "" ∉ if v.hard = [] then [] else sortedSet v.classifications := by
    split
    · simp
    · rwa [mem_sortedSet]
  simp only [readVerdict, listedTexts_of_get? hhard, listedTruthy_of_get? hclassified hnone, bind,
    Except.bind, pure, Except.pure, Json.get, hprimary]
  rfl

theorem exists_listedTruthy_of_get? {report : Json} {field : String} {items : List Json}
    (h : report.get? field = some (.arr items)) : ∃ texts, listedTruthy report field = .ok texts := by
  simp [listedTruthy, Json.getD, h, iterated, bind, Except.bind, pure, Except.pure]

/-! ### Statuses -/

/-- How a status of a report is set: what it starts from, which findings fail it, and what is made
of it in the end. -/
structure StatusRule where
  field : String
  start : Json → String
  fails : Finding → Bool := fun _ => false
  settle : List String → String → String := fun _ status => status

namespace StatusRule

/-- A status that starts from what the report says. -/
def kept (field default : String) (fails : Finding → Bool) : StatusRule :=
  { field := field
    start := fun report => (report.getD field (.str default)).text
    fails := fails }

/-- A status that starts anew. -/
def renewed (field : String) (fails : Finding → Bool) : StatusRule :=
  { field := field
    start := fun _ => "pass"
    fails := fails }

/-- How a status ends. -/
def ending (rule : StatusRule) (report : Json) (classifications : List String)
    (found : List Finding) : String :=
  rule.settle classifications (if found.any rule.fails then "fail" else rule.start report)

/-- A status that a finding fails. -/
theorem ending_of_fails {rule : StatusRule} {report : Json} {classifications : List String}
    {found : List Finding} (h : found.any rule.fails = true) :
    rule.ending report classifications found = rule.settle classifications "fail" :=
  congrArg _ (if_pos h)

/-- A status that no finding fails. -/
theorem ending_of_not_fails {rule : StatusRule} {report : Json} {classifications : List String}
    {found : List Finding} (h : found.any rule.fails = false) :
    rule.ending report classifications found =
      rule.settle classifications (rule.start report) :=
  congrArg _ (if_neg (Bool.eq_false_iff.mp h))

/-- A status that no finding can fail. -/
theorem ending_of_never_fails {rule : StatusRule} (h : ∀ f, rule.fails f = false) (report : Json)
    (classifications : List String) (found : List Finding) :
    rule.ending report classifications found =
      rule.settle classifications (rule.start report) :=
  ending_of_not_fails (List.any_eq_false.mpr fun f _ => Bool.eq_false_iff.mp (h f))

section Ending

variable {report evaluated : Json} {listed listed' : List String} {found found' : List Finding}
  {field default : String} {fails : Finding → Bool}

/-- A status that no finding can fail, and that is left as it starts, ends the same when it starts
the same. -/
theorem ending_eq_of_start_eq {rule : StatusRule} (hfails : ∀ f, rule.fails f = false)
    (hsettle : ∀ classifications status, rule.settle classifications status = status)
    (hstart : rule.start evaluated = rule.start report) :
    rule.ending evaluated listed' found' = rule.ending report listed found := by
  rw [ending_of_never_fails hfails, ending_of_never_fails hfails, hsettle, hsettle, hstart]

/-- A status that is kept ends the same when it is kept again. -/
theorem ending_kept (hsub : ∀ f ∈ found', f ∈ found)
    (h : evaluated.get? field = some (.str ((kept field default fails).ending report listed found))) :
    (kept field default fails).ending evaluated listed' found' =
      (kept field default fails).ending report listed found := by
  have hstart : (kept field default fails).start evaluated =
      (kept field default fails).ending report listed found := by
    simp only [kept, Json.getD, h, Option.getD_some, Json.text]
  by_cases hfails : found'.any fails = true
  · obtain ⟨f, hf, hff⟩ := List.any_eq_true.mp hfails
    have hbefore : found.any fails = true := List.any_eq_true.mpr ⟨f, hsub f hf, hff⟩
    simp only [ending, kept, hfails, hbefore, if_true]
  · have hend : (kept field default fails).ending evaluated listed' found' =
        (kept field default fails).start evaluated := if_neg hfails
    rw [hend, hstart]

/-- A status that starts anew ends the same exactly when its failure is found again. -/
theorem ending_renewed_eq_iff (hsub : ∀ f ∈ found', f ∈ found) :
    (renewed field fails).ending evaluated listed' found' =
        (renewed field fails).ending report listed found ↔
      (found.any fails = true → found'.any fails = true) := by
  have hbefore : found'.any fails = true → found.any fails = true := by
    intro h
    obtain ⟨f, hf, hff⟩ := List.any_eq_true.mp h
    exact List.any_eq_true.mpr ⟨f, hsub f hf, hff⟩
  simp only [ending, renewed]
  by_cases hfirst : found.any fails = true
  · by_cases hagain : found'.any fails = true <;> simp [hfirst, hagain]
  · have hagain : ¬ found'.any fails = true := fun h => hfirst (hbefore h)
    simp [hfirst, hagain]

end Ending

end StatusRule

/-! ### Evaluators -/

/-- The fields that every evaluation writes besides the statuses. -/
def verdictFields : List String :=
  ["primary_failure", "failure_classifications", "hard_fail_reasons", "status", "warning_reasons"]

/-- An evaluation of a report: its statuses, and what its checks and warnings find. -/
structure Evaluator where
  statuses : List StatusRule
  findings : Json → Except String (List Finding)
  warnings : Json → List Finding → List String
  distinct : (statuses.map StatusRule.field ++ verdictFields).Nodup := by decide

/-- A second evaluation of an evaluated report returns the same fields. -/
def SameVerdict (evaluate : Json → Except String Json) (fields : List String)
    (evaluated : Json) : Prop :=
  ∃ again, evaluate evaluated = .ok again ∧
    ∀ field ∈ fields, again.get? field = evaluated.get? field

namespace Evaluator

/-- The fields that an evaluation writes. -/
def written (e : Evaluator) : List String := e.statuses.map StatusRule.field ++ verdictFields

/-- The fields of a report that say how it was evaluated. -/
def outcome (e : Evaluator) : List String :=
  e.statuses.map StatusRule.field ++
    ["status", "primary_failure", "failure_classifications", "hard_fail_reasons"]

/-- Evaluate a report. -/
def evaluate (e : Evaluator) (report : Json) : Except String Json := do
  if !isDict report then throw "AttributeError"
  let listed ← readVerdict report
  let warnings ← listedTruthy report "warning_reasons"
  let found ← e.findings report
  let v := listed.addAll found
  return writeFields report <|
    e.statuses.map (fun rule => (rule.field, .str (rule.ending report v.classifications found))) ++
    v.fields ++
    [("status", .str (if v.hard = [] then "pass" else "fail")),
      ("warning_reasons", .arr ((sortedSet (warnings ++ e.warnings report found)).map .str))]

/-- What an evaluation does to a report. -/
structure Evaluated (e : Evaluator) (report evaluated : Json) (v : ReportVerdict)
    (found : List Finding) : Prop where
  isObj : evaluated.IsObj
  listed : ∃ listed, readVerdict report = .ok listed ∧ v = listed.addAll found
  findings : e.findings report = .ok found
  statuses : ∀ rule ∈ e.statuses,
    evaluated.get? rule.field = some (.str (rule.ending report v.classifications found))
  fields : ∀ entry ∈ v.fields, evaluated.get? entry.1 = some entry.2
  status : evaluated.get? "status" = some (.str (if v.hard = [] then "pass" else "fail"))
  warnings : ∃ items, evaluated.get? "warning_reasons" = some (.arr items)
  unwritten : ∀ k, k ∉ e.written → evaluated.get? k = report.get? k

theorem isObj_of_isDict {report : Json} (h : isDict report = true) : report.IsObj := by
  cases report with
  | obj fields => exact ⟨fields, rfl⟩
  | _ => cases h

theorem isDict_of_isObj {report : Json} (h : report.IsObj) : isDict report = true := by
  obtain ⟨fields, rfl⟩ := h
  rfl

variable {e : Evaluator} {report evaluated : Json} {v : ReportVerdict} {found found' : List Finding}

/-- What an evaluation writes over a report. -/
def entries (e : Evaluator) (report : Json) (v : ReportVerdict) (warnings : List String)
    (found : List Finding) : List (String × Json) :=
  e.statuses.map (fun rule => (rule.field, .str (rule.ending report v.classifications found))) ++
    v.fields ++
    [("status", .str (if v.hard = [] then "pass" else "fail")),
      ("warning_reasons", .arr ((sortedSet (warnings ++ e.warnings report found)).map .str))]

theorem map_fst_entries (v : ReportVerdict) (warnings : List String) :
    (e.entries report v warnings found).map Prod.fst = e.written := by
  simp [entries, written, verdictFields, ReportVerdict.fields, Function.comp_def]

/-- An entry is read back from what was written. -/
theorem get?_of_mem_entries (hobj : report.IsObj) {warnings : List String} {k : String} {x : Json}
    (h : (k, x) ∈ e.entries report v warnings found) :
    (writeFields report (e.entries report v warnings found)).get? k = some x := by
  have hnames := @map_fst_entries e report found v warnings
  exact get?_writeFields_of_mem hobj (hnames ▸ e.distinct) h

/-- An evaluation writes its entries when its parts are read. -/
theorem evaluate_of_read (hobj : report.IsObj) {listed : ReportVerdict} {warnings : List String}
    (hlisted : readVerdict report = .ok listed)
    (hwarnings : listedTruthy report "warning_reasons" = .ok warnings)
    (hfound : e.findings report = .ok found) :
    e.evaluate report =
      .ok (writeFields report (e.entries report (listed.addAll found) warnings found)) := by
  simp only [evaluate, isDict_of_isObj hobj, hlisted, hwarnings, hfound, bind, Except.bind, pure,
    Except.pure, Bool.not_true, Bool.false_eq_true, if_false]
  rfl

/-- The parts that an evaluation has read, when it returns. -/
theorem read_of_eq_ok (h : e.evaluate report = .ok evaluated) :
    report.IsObj ∧ ∃ listed warnings found, readVerdict report = .ok listed ∧
      listedTruthy report "warning_reasons" = .ok warnings ∧ e.findings report = .ok found := by
  rw [evaluate] at h
  simp only [bind, Except.bind, pure, Except.pure] at h
  split at h
  · cases h
  rename_i hdict
  split at h
  · cases h
  rename_i listed hlisted
  split at h
  · cases h
  rename_i warnings hwarnings
  split at h
  · cases h
  rename_i found hfound
  exact ⟨isObj_of_isDict (by simpa using hdict), listed, warnings, found, hlisted, hwarnings, hfound⟩

/-- **What an evaluation writes** when its parts are read. -/
theorem evaluated_of_read (hobj : report.IsObj) {listed : ReportVerdict} {warnings : List String}
    (hlisted : readVerdict report = .ok listed)
    (hwarnings : listedTruthy report "warning_reasons" = .ok warnings)
    (hfound : e.findings report = .ok found) :
    ∃ evaluated, e.evaluate report = .ok evaluated ∧
      e.Evaluated report evaluated (listed.addAll found) found := by
  refine ⟨_, evaluate_of_read hobj hlisted hwarnings hfound, isObj_writeFields hobj _,
    ⟨listed, hlisted, rfl⟩, hfound, fun rule hrule => ?_, fun entry hentry => ?_, ?_, ?_,
    fun k hk => get?_writeFields_of_notMem ((map_fst_entries _ _).symm ▸ hk)⟩
  · exact get?_of_mem_entries hobj <| List.mem_append_left _ <| List.mem_append_left _ <|
      List.mem_map.mpr ⟨rule, hrule, rfl⟩
  · exact get?_of_mem_entries hobj (List.mem_append_left _ (List.mem_append_right _ hentry))
  · exact get?_of_mem_entries hobj (List.mem_append_right _ List.mem_cons_self)
  · exact ⟨_, get?_of_mem_entries hobj
      (List.mem_append_right _ (List.mem_cons_of_mem _ List.mem_cons_self))⟩

/-- **What an evaluation did**, when it returns. -/
theorem evaluated_of_eq_ok (h : e.evaluate report = .ok evaluated) :
    ∃ v found, e.Evaluated report evaluated v found := by
  obtain ⟨hobj, listed, warnings, found, hlisted, hwarnings, hfound⟩ := read_of_eq_ok h
  obtain ⟨evaluated', heq, hevaluated⟩ := evaluated_of_read hobj hlisted hwarnings hfound
  obtain rfl := Except.ok.inj (h.symm.trans heq)
  exact ⟨_, found, hevaluated⟩

/-- The warnings that an evaluation writes: those that were listed, and those of its checks. -/
theorem warningReasons_of_eq_ok (h : e.evaluate report = .ok evaluated)
    (hfound : e.findings report = .ok found) :
    ∃ listed, listedTruthy report "warning_reasons" = .ok listed ∧
      evaluated.get? "warning_reasons" =
        some (.arr ((sortedSet (listed ++ e.warnings report found)).map .str)) := by
  obtain ⟨hobj, listed, warnings, found', hlisted, hwarnings, hfound'⟩ := read_of_eq_ok h
  obtain rfl := Except.ok.inj (hfound.symm.trans hfound')
  obtain rfl := Except.ok.inj (h.symm.trans (evaluate_of_read hobj hlisted hwarnings hfound))
  exact ⟨warnings, hwarnings, get?_of_mem_entries hobj
    (List.mem_append_right _ (List.mem_cons_of_mem _ List.mem_cons_self))⟩

/-- The reasons and classifications of what was found are in the verdict. -/
theorem Evaluated.mem_of_mem (h : e.Evaluated report evaluated v found) {f : Finding}
    (hf : f ∈ found) : f.reason ∈ v.hard ∧ f.classification ∈ v.classifications := by
  obtain ⟨listed, -, rfl⟩ := h.listed
  rw [ReportVerdict.hard_addAll, ReportVerdict.mem_classifications_addAll]
  exact ⟨List.mem_append_right _ (List.mem_map_of_mem hf), Or.inr (List.mem_map_of_mem hf)⟩

/-- A field that an evaluation writes is there. -/
theorem Evaluated.isSome_get? (h : e.Evaluated report evaluated v found) {k : String}
    (hk : k ∈ e.written) : (evaluated.get? k).isSome = true := by
  rcases List.mem_append.mp hk with hstatus | hverdict
  · obtain ⟨rule, hrule, rfl⟩ := List.mem_map.mp hstatus
    rw [h.statuses rule hrule]
    rfl
  · obtain ⟨items, hitems⟩ := h.warnings
    simp only [verdictFields, List.mem_cons, List.not_mem_nil, or_false] at hverdict
    rcases hverdict with rfl | rfl | rfl | rfl | rfl
    · rw [h.fields ("primary_failure", _) (.head _)]
      rfl
    · rw [h.fields ("failure_classifications", _) (.tail _ (.head _))]
      rfl
    · rw [h.fields ("hard_fail_reasons", _) (.tail _ (.tail _ (.head _)))]
      rfl
    · rw [h.status]
      rfl
    · rw [hitems]
      rfl

/-- A status that an evaluation writes is hashable. -/
theorem Evaluated.isHashable_get (h : e.Evaluated report evaluated v found) {k : String}
    (hk : k ∈ e.statuses.map StatusRule.field) : isHashable (evaluated.get k) = true := by
  obtain ⟨rule, hrule, rfl⟩ := List.mem_map.mp hk
  rw [Json.get, h.statuses rule hrule]
  rfl

/-- A report that carries a verdict, whatever else was written to it. -/
structure Carries (e : Evaluator) (report evaluated : Json) (v : ReportVerdict)
    (found : List Finding) : Prop where
  isObj : evaluated.IsObj
  listed : ∃ listed, readVerdict report = .ok listed ∧ v = listed.addAll found
  statuses : ∀ rule ∈ e.statuses,
    evaluated.get? rule.field = some (.str (rule.ending report v.classifications found))
  fields : ∀ entry ∈ v.fields, evaluated.get? entry.1 = some entry.2
  status : evaluated.get? "status" = some (.str (if v.hard = [] then "pass" else "fail"))
  warnings : ∃ items, evaluated.get? "warning_reasons" = some (.arr items)

theorem Evaluated.carries (h : e.Evaluated report evaluated v found) :
    e.Carries report evaluated v found :=
  ⟨h.isObj, h.listed, h.statuses, h.fields, h.status, h.warnings⟩

/-- Fields that no evaluation writes may be written besides. -/
theorem Evaluated.carries_writeFields (h : e.Evaluated report evaluated v found)
    {fields : List (String × Json)} (hapart : ∀ k ∈ e.written, k ∉ fields.map Prod.fst) :
    e.Carries report (writeFields evaluated fields) v found := by
  have hkeep {k : String} (hk : k ∈ e.written) :
      (writeFields evaluated fields).get? k = evaluated.get? k :=
    get?_writeFields_of_notMem (hapart k hk)
  have hverdict {k : String} (hk : k ∈ verdictFields) : k ∈ e.written :=
    List.mem_append_right _ hk
  have hfields : ∀ entry ∈ v.fields, entry.1 ∈ verdictFields := by
    intro entry hentry
    simp only [ReportVerdict.fields, List.mem_cons, List.not_mem_nil, or_false] at hentry
    rcases hentry with rfl | rfl | rfl <;> simp [verdictFields]
  obtain ⟨items, hitems⟩ := h.warnings
  refine ⟨isObj_writeFields h.isObj fields, h.listed, fun rule hrule => ?_, fun entry hentry => ?_,
    ?_, items, ?_⟩
  · rw [hkeep (List.mem_append_left _ (List.mem_map_of_mem hrule)), h.statuses rule hrule]
  · rw [hkeep (hverdict (hfields entry hentry)), h.fields entry hentry]
  · rw [hkeep (hverdict (by decide)), h.status]
  · rw [hkeep (hverdict (by decide)), hitems]

/-- The verdict that a report carries is read again. -/
theorem Carries.readVerdict_eq (h : e.Carries report evaluated v found) :
    readVerdict evaluated = .ok v.reread := by
  obtain ⟨listed, hlisted, hv⟩ := h.listed
  refine readVerdict_of_fields ?_ h.fields
  rw [hv]
  exact notMem_classifications hlisted found

/-- **A second evaluation** whose checks find nothing new reads the verdict of the first and adds
nothing to it. -/
theorem Carries.again (h : e.Carries report evaluated v found)
    (hfound : e.findings evaluated = .ok found') (hsub : ∀ f ∈ found', f ∈ found) :
    ∃ again, e.evaluate evaluated = .ok again ∧
      e.Evaluated evaluated again (v.reread.addAll found') found' ∧
      (v.reread.addAll found').fields = v.fields := by
  obtain ⟨listed, hlisted, hv⟩ := h.listed
  obtain ⟨items, hitems⟩ := h.warnings
  obtain ⟨warnings, hwarnings⟩ := exists_listedTruthy_of_get? hitems
  obtain ⟨again, hagain, hevaluated⟩ :=
    evaluated_of_read h.isObj h.readVerdict_eq hwarnings hfound
  have hmem (f : Finding) (hf : f ∈ found') : f.reason ∈ v.hard ∧
      f.classification ∈ v.classifications := by
    rw [hv, ReportVerdict.hard_addAll, ReportVerdict.mem_classifications_addAll]
    exact ⟨List.mem_append_right _ (List.mem_map_of_mem (hsub f hf)),
      Or.inr (List.mem_map_of_mem (hsub f hf))⟩
  refine ⟨again, hagain, hevaluated, ReportVerdict.fields_reread_addAll (fun f hf => (hmem f hf).1)
    (fun f hf => (hmem f hf).2) fun hne => ?_⟩
  have hfirst : found ≠ [] := by
    rintro rfl
    exact hne (List.eq_nil_iff_forall_not_mem.mpr fun f hf => List.not_mem_nil (hsub f hf))
  rw [hv]
  exact ReportVerdict.truthy_primary_addAll hfirst

/-- The warnings of an evaluation stay when its checks warn of the same again. -/
theorem warningReasons_again {first again other : Json}
    (h : e.evaluate report = .ok first) (hfound : e.findings report = .ok found)
    (hother : other.get? "warning_reasons" = first.get? "warning_reasons")
    (hagain : e.evaluate other = .ok again) (hfound' : e.findings other = .ok found')
    (hwarnings : e.warnings other found' = e.warnings report found)
    (hnamed : "" ∉ e.warnings report found) :
    again.get? "warning_reasons" = first.get? "warning_reasons" := by
  obtain ⟨listed, hlisted, hfirst⟩ := warningReasons_of_eq_ok h hfound
  obtain ⟨listed', hlisted', hsecond⟩ := warningReasons_of_eq_ok hagain hfound'
  have hnone : "" ∉ sortedSet (listed ++ e.warnings report found) := by
    rw [mem_sortedSet, List.mem_append, not_or]
    exact ⟨notMem_of_listedTruthy hlisted, hnamed⟩
  have hreread := listedTruthy_of_get? (hother.trans hfirst) hnone
  obtain rfl := Except.ok.inj (hlisted'.symm.trans hreread)
  rw [hsecond, hfirst, hwarnings]
  have hsame : sortedSet (sortedSet (listed ++ e.warnings report found) ++ e.warnings report found) =
      sortedSet (listed ++ e.warnings report found) :=
    sortedSet_congr fun t => by simp only [List.mem_append, mem_sortedSet, or_assoc, or_self]
  rw [hsame]

/-- Two evaluations with the same verdict and statuses say the same. -/
theorem Carries.outcome_eq {again : Json} {v' : ReportVerdict}
    (h : e.Carries report evaluated v found) (hagain : e.Carries evaluated again v' found')
    (hfields : v'.fields = v.fields)
    (hends : ∀ rule ∈ e.statuses, rule.ending evaluated v'.classifications found' =
      rule.ending report v.classifications found) :
    ∀ field ∈ e.outcome, again.get? field = evaluated.get? field := by
  have hlisted (entry : String × Json) (hentry : entry ∈ v.fields) :
      again.get? entry.1 = evaluated.get? entry.1 :=
    (hagain.fields entry (hfields ▸ hentry)).trans (h.fields entry hentry).symm
  have hnil : v'.hard = [] ↔ v.hard = [] := by
    have hkeys : fromKeys v'.hard = fromKeys v.hard := by
      simp only [ReportVerdict.fields, List.cons.injEq, Prod.mk.injEq, Json.arr.injEq] at hfields
      exact List.map_injective_iff.mpr (fun _ _ => Json.str.inj) hfields.2.2.1.2
    rw [← fromKeys_eq_nil, hkeys, fromKeys_eq_nil]
  intro field hfield
  rcases List.mem_append.mp hfield with hstatus | hverdict
  · obtain ⟨rule, hrule, rfl⟩ := List.mem_map.mp hstatus
    rw [hagain.statuses rule hrule, h.statuses rule hrule, hends rule hrule]
  · simp only [List.mem_cons, List.not_mem_nil, or_false] at hverdict
    rcases hverdict with rfl | rfl | rfl | rfl
    · rw [hagain.status, h.status]
      simp only [hnil]
    · exact hlisted ("primary_failure", _) List.mem_cons_self
    · exact hlisted ("failure_classifications", _) (List.mem_cons_of_mem _ List.mem_cons_self)
    · exact hlisted ("hard_fail_reasons", _)
        (List.mem_cons_of_mem _ (List.mem_cons_of_mem _ List.mem_cons_self))

/-- **When a second evaluation agrees with the first**: its checks find nothing new, so only the
statuses can differ. -/
theorem Evaluated.sameVerdict_iff (h : e.Evaluated report evaluated v found)
    (hfound : e.findings evaluated = .ok found') (hsub : ∀ f ∈ found', f ∈ found) :
    SameVerdict e.evaluate e.outcome evaluated ↔ ∀ rule ∈ e.statuses,
      rule.ending evaluated (v.reread.addAll found').classifications found' =
        rule.ending report v.classifications found := by
  obtain ⟨again, hagain, hevaluated, hfields⟩ := h.carries.again hfound hsub
  constructor
  · rintro ⟨again', hagain', hsame⟩ rule hrule
    obtain rfl := Except.ok.inj (hagain.symm.trans hagain')
    have heq := hsame rule.field (List.mem_append_left _ (List.mem_map_of_mem hrule))
    rw [hevaluated.statuses rule hrule, h.statuses rule hrule] at heq
    exact Json.str.inj (Option.some.inj heq)
  · intro hends
    exact ⟨again, hagain, h.carries.outcome_eq hevaluated.carries hfields hends⟩

end Evaluator

end SomethingTrade
