import Mathlib.Data.String.Basic
import SomethingTrade.Chunks
import SomethingTrade.EdgeRobustness
import SomethingTrade.ResearchSamples

/-!
# The Split by Time

The valid samples, sorted by time, are cut into a training, a validation and a test part at six
and eight tenths of their number; both cuts are moved so that no part is empty. A report tells
the ids and the times of the parts and what is wrong with them: ids that occur twice, parts that
share an id, parts that overlap in time. A second function looks at the report again and lists
the reasons to refuse it; it finds some of the faults by itself.

## Representation

* A sample is paired with its place in the list, which tells samples with the same fields apart.
* Fractions of a number of samples are taken exactly.

## Main results

* `assignments_sound`: the parts are the sorted samples in order, and none is empty.
* `validate_pass_iff`: what a report that passes looks like.
* `split_integrity`: so the report on three or more valid samples passes exactly when their ids
  are distinct and the times at both cuts increase.
-/

namespace SomethingTrade

/-! ### The parts -/

/-- The parts with their names, in order. -/
def BySplit.items {α : Type} (parts : BySplit α) : List (String × α) :=
  [("train", parts.train), ("validation", parts.validation), ("test", parts.test)]

/-- Apply a function to each part. -/
def BySplit.map {α β : Type} (f : α → β) (parts : BySplit α) : BySplit β :=
  ⟨f parts.train, f parts.validation, f parts.test⟩

/-- What there is of a part. -/
def BySplit.get {α : Type} (parts : BySplit α) : Split → α
  | .train => parts.train
  | .validation => parts.validation
  | .test => parts.test

/-- A sample with its place in the list. -/
abbrev PlacedSample := ResearchSample × ℕ

/-- The order of the samples: by time, then by id. -/
def chronoKey (e : PlacedSample) : ℤ ×ₗ String := toLex (e.1.featureTsNs, e.1.sampleId)

/-- The valid samples, with their places. -/
def placedValid (samples : List ResearchSample) : List PlacedSample :=
  samples.zipIdx.filter fun e => e.1.valid100msLabel

/-- Where the training part ends: after six tenths, but not before the first sample. -/
def trainEnd (n : ℕ) : ℕ := max 1 (n * 3 / 5)

/-- Where the validation part ends: after eight tenths, but after the training part and before
the last sample. -/
def validationEnd (n : ℕ) : ℕ := min (max (trainEnd n + 1) (n * 4 / 5)) (n - 1)

/-- The parts of the sorted samples. -/
def assignments (rows : List PlacedSample) : BySplit (List PlacedSample) :=
  let n := rows.length
  if 3 ≤ n then
    { train := rows.take (trainEnd n)
      validation := slice rows (trainEnd n) (validationEnd n)
      test := rows.drop (validationEnd n) }
  else
    { train := rows
      validation := []
      test := [] }

/-- The parts that the samples are assigned to. -/
def splitAssignments (samples : List ResearchSample) : BySplit (List PlacedSample) :=
  assignments (sortBy chronoKey (placedValid samples))

/-- The part that the sample at a place is marked with. -/
def markedSplit (samples : List ResearchSample) (place : ℕ) : Option Split :=
  let parts := splitAssignments samples
  if place ∈ parts.test.map Prod.snd then some .test
  else if place ∈ parts.validation.map Prod.snd then some .validation
  else if place ∈ parts.train.map Prod.snd then some .train
  else none

/-! ### The report -/

/-- What is reported of a part. -/
structure SplitPart where
  sampleCount : ℕ
  sampleIds : List String
  timeRangeNs : Option (ℤ × ℤ)

/-- The values that occur twice. -/
def duplicates (values : List String) : List String :=
  let scan := values.foldl (fun acc value =>
    (value :: acc.1, if value ∈ acc.1 then value :: acc.2 else acc.2)) ([], [])
  sortedSet scan.2

/-- Two parts with what they share, if they share an id. -/
def overlapPair (left right : String × List String) : List (List String) :=
  let overlap := sortedSet (left.2.filter fun id => id ∈ right.2)
  if overlap = [] then [] else [[left.1, right.1, ",".intercalate (overlap.take 5)]]

/-- The pairs of parts that share an id. -/
def splitOverlapPairs (splitIds : BySplit (List String)) : List (List String) :=
  overlapPair ("train", splitIds.train) ("validation", splitIds.validation) ++
    overlapPair ("train", splitIds.train) ("test", splitIds.test) ++
    overlapPair ("validation", splitIds.validation) ("test", splitIds.test)

/-- Whether the first of two ranges does not end before the second starts. -/
def rangesOverlap (left right : Option (ℤ × ℤ)) : Bool :=
  match left, right with
  | some left, some right => left.2 ≥ right.1
  | _, _ => false

/-- The parts that overlap in time with the next one. -/
def timeOverlap (ranges : BySplit (Option (ℤ × ℤ))) : List String :=
  (if rangesOverlap ranges.train ranges.validation then
      ["train_max_ts_overlaps_validation_min_ts"] else []) ++
    if rangesOverlap ranges.validation ranges.test then
      ["validation_max_ts_overlaps_test_min_ts"] else []

/-- The report on a split, without the verdict. -/
structure ChronologicalSplit extends SplitReport where
  splitMethod : String
  randomSplitUsed : Bool
  randomSplitRejected : Bool
  sampleCount : ℕ
  splits : BySplit SplitPart
  timeOverlapViolations : List String

/-- The verdict on a split. -/
structure SplitVerdict where
  status : String
  failureReasons : List String

/-- Whether a range ends before it starts. -/
def rangeHasInversion : Option (ℤ × ℤ) → Bool
  | some range => range.1 > range.2
  | none => false

/-- Whether the first of two ranges starts after the second does. -/
def startsAfter (left right : Option (ℤ × ℤ)) : Bool :=
  match left, right with
  | some left, some right => left.1 > right.1
  | _, _ => false

/-- A check of a split: whether the split is at fault, and the reason to refuse it then. -/
structure SplitCheck where
  fault : Bool
  reason : String

/-- What is checked of a split. -/
def splitChecks (report : ChronologicalSplit) : List SplitCheck :=
  let ids := report.splits.map SplitPart.sampleIds
  let ranges := report.splits.map SplitPart.timeRangeNs
  [⟨report.splitMethod ≠ "deterministic_chronological_time_based",
      "split_method_not_deterministic_chronological"⟩,
    ⟨report.randomSplitUsed, "random_split_used"⟩,
    ⟨!report.randomSplitRejected, "random_split_not_explicitly_rejected"⟩,
    ⟨report.sampleCount < 3, "insufficient_samples_for_three_way_split"⟩,
    ⟨report.duplicateSampleIds ≠ [], "duplicate_sample_ids"⟩,
    ⟨report.overlapPairs ≠ [], "split_sample_id_overlap"⟩,
    ⟨report.timeOverlapViolations ≠ [], "reported_time_overlap"⟩] ++
  (report.splits.items.map fun e => ⟨e.2.sampleCount ≤ 0, e.1 ++ "_split_empty"⟩) ++
  [⟨duplicates (ids.items.flatMap Prod.snd) ≠ [],
      "computed_duplicate_sample_ids_across_splits"⟩,
    ⟨splitOverlapPairs ids ≠ [], "computed_split_sample_id_overlap"⟩] ++
  (ranges.items.map fun e => ⟨rangeHasInversion e.2, e.1 ++ "_time_range_inverted"⟩) ++
  [⟨rangesOverlap ranges.train ranges.validation,
      "train_validation_time_overlap_or_out_of_order"⟩,
    ⟨rangesOverlap ranges.validation ranges.test,
      "validation_test_time_overlap_or_out_of_order"⟩,
    ⟨startsAfter ranges.train ranges.validation, "train_validation_chronology_out_of_order"⟩,
    ⟨startsAfter ranges.validation ranges.test, "validation_test_chronology_out_of_order"⟩]

/-- The reasons to refuse a split. -/
def splitFailureReasons (report : ChronologicalSplit) : List String :=
  ((splitChecks report).filter SplitCheck.fault).map SplitCheck.reason

/-- Look at a report again. -/
def validateSplitIntegrityReport (report : ChronologicalSplit) : SplitVerdict :=
  let reasons := splitFailureReasons report
  { status := if reasons = [] then "pass" else "fail"
    failureReasons := sortedSet reasons }

/-- What is reported of the samples of a part. -/
def splitPart (rows : List PlacedSample) : SplitPart where
  sampleCount := rows.length
  sampleIds := rows.map fun e => e.1.sampleId
  timeRangeNs := timeRange (rows.map fun e => e.1.featureTsNs)

/-- The report on the split of some samples, without the verdict. -/
def chronologicalSplit (samples : List ResearchSample) : ChronologicalSplit :=
  let rows := sortBy chronoKey (placedValid samples)
  let parts := (splitAssignments samples).map splitPart
  { splitMethod := "deterministic_chronological_time_based"
    randomSplitUsed := false
    randomSplitRejected := true
    sampleCount := rows.length
    splits := parts
    duplicateSampleIds := duplicates (rows.map fun e => e.1.sampleId)
    overlapPairs := splitOverlapPairs (parts.map SplitPart.sampleIds)
    timeOverlapViolations := timeOverlap (parts.map SplitPart.timeRangeNs) }

/-- The report on the split of some samples, with the verdict. -/
def buildSplitReport (samples : List ResearchSample) : ChronologicalSplit × SplitVerdict :=
  (chronologicalSplit samples, validateSplitIntegrityReport (chronologicalSplit samples))

/-! ### Soundness of the parts -/

/-- The cuts leave no part empty. -/
theorem cuts_increase {n : ℕ} (h : 3 ≤ n) :
    0 < trainEnd n ∧ trainEnd n < validationEnd n ∧ validationEnd n < n := by
  rw [validationEnd, trainEnd]
  omega

/-- All rows of all parts, in order. -/
def allRows (parts : BySplit (List PlacedSample)) : List PlacedSample :=
  parts.train ++ parts.validation ++ parts.test

theorem mem_allRows {parts : BySplit (List PlacedSample)} {e : PlacedSample} :
    e ∈ allRows parts ↔ ∃ split, e ∈ parts.get split := by
  rw [allRows, List.mem_append, List.mem_append]
  constructor
  · rintro ((h | h) | h)
    · exact ⟨.train, h⟩
    · exact ⟨.validation, h⟩
    · exact ⟨.test, h⟩
  · rintro ⟨split, h⟩
    cases split
    · exact .inl (.inl h)
    · exact .inl (.inr h)
    · exact .inr h

/-- **The parts are the rows in order, and none is empty**, when there are at least three. -/
theorem assignments_sound {rows : List PlacedSample} (h : 3 ≤ rows.length) :
    allRows (assignments rows) = rows ∧ ∀ split, (assignments rows).get split ≠ [] := by
  obtain ⟨hfirst, hcuts, hlast⟩ := cuts_increase h
  rw [assignments, if_pos h]
  refine ⟨?_, fun split => ?_⟩
  · rw [allRows, take_append_slice rows hcuts.le, List.take_append_drop]
  · rw [← List.length_pos_iff]
    cases split
    · rw [BySplit.get, List.length_take]
      omega
    · rw [BySplit.get, length_slice rows hlast.le]
      omega
    · rw [BySplit.get, List.length_drop]
      omega

/-- Every sample is assigned as it should be: the parts together are the valid samples in
chronological order, none is empty, and the mark of a sample tells its part. -/
structure SplitSound (samples : List ResearchSample) : Prop where
  perm : (allRows (splitAssignments samples)).Perm (placedValid samples)
  sorted : SortedBy chronoKey (allRows (splitAssignments samples))
  nonempty : ∀ split, (splitAssignments samples).get split ≠ []
  marked : ∀ {place sample}, samples[place]? = some sample → ∀ split,
    markedSplit samples place = some split ↔ (sample, place) ∈ (splitAssignments samples).get split
  unmarked : ∀ {place sample}, samples[place]? = some sample →
    (markedSplit samples place = none ↔ sample.valid100msLabel = false)
  reported : (buildSplitReport samples).1.splits = (splitAssignments samples).map splitPart

theorem mem_placedValid {samples : List ResearchSample} {e : PlacedSample} :
    e ∈ placedValid samples ↔ samples[e.2]? = some e.1 ∧ e.1.valid100msLabel = true := by
  rw [placedValid, List.mem_filter, List.mem_zipIdx_iff_getElem?]

theorem nodup_places (samples : List ResearchSample) :
    ((placedValid samples).map Prod.snd).Nodup := by
  have hplaces : (samples.zipIdx.map Prod.snd).Nodup := by
    rw [List.zipIdx_map_snd]
    exact List.nodup_range'
  exact hplaces.sublist (List.filter_sublist.map _)

section

variable {samples : List ResearchSample}
  (hperm : (allRows (splitAssignments samples)).Perm (placedValid samples))
include hperm

/-- A part has a place exactly when it has the sample at the place. -/
theorem mem_places_iff {place : ℕ} {sample : ResearchSample}
    (hsample : samples[place]? = some sample) (split : Split) :
    place ∈ ((splitAssignments samples).get split).map Prod.snd ↔
      (sample, place) ∈ (splitAssignments samples).get split := by
  constructor
  · intro h
    obtain ⟨⟨other, place⟩, hmem, rfl⟩ := List.mem_map.mp h
    have hvalid := mem_placedValid.mp (hperm.mem_iff.mp (mem_allRows.mpr ⟨split, hmem⟩))
    obtain rfl : sample = other := Option.some.inj (hsample.symm.trans hvalid.1)
    exact hmem
  · exact fun h => List.mem_map_of_mem (f := Prod.snd) h

/-- No place is in two parts. -/
theorem split_unique {place : ℕ} (first second : Split)
    (hfirst : place ∈ ((splitAssignments samples).get first).map Prod.snd)
    (hsecond : place ∈ ((splitAssignments samples).get second).map Prod.snd) : first = second := by
  have hnodup : ((allRows (splitAssignments samples)).map Prod.snd).Nodup :=
    (hperm.map _).nodup_iff.mpr (nodup_places samples)
  rw [allRows, List.map_append, List.map_append, List.nodup_append', List.nodup_append'] at hnodup
  obtain ⟨⟨-, -, htrain⟩, -, htest⟩ := hnodup
  cases first <;> cases second
  · rfl
  · exact absurd hsecond (htrain hfirst)
  · exact absurd hsecond (htest (List.mem_append_left _ hfirst))
  · exact absurd hfirst (htrain hsecond)
  · rfl
  · exact absurd hsecond (htest (List.mem_append_right _ hfirst))
  · exact absurd hfirst (htest (List.mem_append_left _ hsecond))
  · exact absurd hfirst (htest (List.mem_append_right _ hsecond))
  · rfl

/-- The mark of a sample tells its part. -/
theorem markedSplit_iff {place : ℕ} {sample : ResearchSample}
    (hsample : samples[place]? = some sample) (split : Split) :
    markedSplit samples place = some split ↔
      (sample, place) ∈ (splitAssignments samples).get split := by
  rw [← mem_places_iff hperm hsample split, markedSplit]
  split_ifs with htest hvalidation htrain
  · exact ⟨fun h => Option.some.inj h ▸ htest, fun h =>
      congrArg some (split_unique hperm .test _ htest h)⟩
  · exact ⟨fun h => Option.some.inj h ▸ hvalidation, fun h =>
      congrArg some (split_unique hperm .validation _ hvalidation h)⟩
  · exact ⟨fun h => Option.some.inj h ▸ htrain, fun h =>
      congrArg some (split_unique hperm .train _ htrain h)⟩
  · refine iff_of_false (by simp) ?_
    cases split
    · exact htrain
    · exact hvalidation
    · exact htest

end

theorem length_placedValid (samples : List ResearchSample) :
    (sortBy chronoKey (placedValid samples)).length =
      (samples.filter ResearchSample.valid100msLabel).length := by
  rw [(perm_sortBy _ _).length_eq, placedValid, ← List.length_map (f := Prod.fst),
    map_fst_zipIdx_filter]

/-- **With three valid samples or more the parts are sound.** -/
theorem split_sound {samples : List ResearchSample}
    (h : 3 ≤ (samples.filter ResearchSample.valid100msLabel).length) : SplitSound samples := by
  rw [← length_placedValid] at h
  obtain ⟨hall, hnonempty⟩ := assignments_sound h
  have hperm : (allRows (splitAssignments samples)).Perm (placedValid samples) := by
    rw [splitAssignments, hall]
    exact perm_sortBy _ _
  refine ⟨hperm, ?_, hnonempty, fun hsample => markedSplit_iff hperm hsample, ?_, rfl⟩
  · rw [splitAssignments, hall]
    exact sortedBy_sortBy _ _
  · intro place sample hsample
    have hmem : (∃ split, markedSplit samples place = some split) ↔
        sample.valid100msLabel = true := by
      simp only [markedSplit_iff hperm hsample]
      rw [← mem_allRows, hperm.mem_iff, mem_placedValid]
      exact and_iff_right hsample
    rw [← Bool.not_eq_true, ← hmem, ← Option.ne_none_iff_exists', not_not]

/-! ### What the report lists -/

/-- There is no reason exactly when nothing is at fault. -/
theorem splitFailureReasons_eq_nil {report : ChronologicalSplit} :
    splitFailureReasons report = [] ↔ ∀ check ∈ splitChecks report, check.fault = false := by
  rw [splitFailureReasons, List.map_eq_nil_iff, List.filter_eq_nil_iff]
  simp only [Bool.not_eq_true]

/-- Nothing occurs twice exactly when all values are distinct. The induction is on the values,
for every list of values that were seen before. -/
theorem duplicates_eq_nil_iff {values : List String} : duplicates values = [] ↔ values.Nodup := by
  have hscan : ∀ (values seen found : List String),
      (values.foldl (fun acc value =>
        (value :: acc.1, if value ∈ acc.1 then value :: acc.2 else acc.2)) (seen, found)).2 = [] ↔
        found = [] ∧ values.Nodup ∧ ∀ value ∈ values, value ∉ seen := by
    intro values
    induction values with
    | nil => simp
    | cons value values ih =>
        intro seen found
        rw [List.foldl_cons, ih, List.nodup_cons, List.forall_mem_cons]
        by_cases hseen : value ∈ seen
        · simp [hseen]
        · simp only [hseen, if_false, List.mem_cons, not_or, not_false_eq_true, true_and]
          constructor
          · rintro ⟨hfound, hnodup, hnew⟩
            exact ⟨hfound, ⟨fun hmem => (hnew value hmem).1 rfl, hnodup⟩,
              fun other hother => (hnew other hother).2⟩
          · rintro ⟨hfound, ⟨hvalue, hnodup⟩, hnew⟩
            exact ⟨hfound, hnodup, fun other hother =>
              ⟨fun heq => hvalue (heq ▸ hother), hnew other hother⟩⟩
  rw [duplicates, sortedSet_eq_nil, hscan]
  simp

/-- Two parts have no pair exactly when they share no id. -/
theorem overlapPair_eq_nil_iff {left right : String × List String} :
    overlapPair left right = [] ↔ left.2.Disjoint right.2 := by
  rw [overlapPair]
  split
  · rename_i hnone
    rw [sortedSet_eq_nil, List.filter_eq_nil_iff] at hnone
    exact iff_of_true rfl fun id hleft hright => hnone id hleft (by simpa using hright)
  · rename_i hsome
    refine iff_of_false (List.cons_ne_nil _ _) fun hdisjoint => hsome ?_
    rw [sortedSet_eq_nil, List.filter_eq_nil_iff]
    exact fun id hleft => by simpa using hdisjoint hleft

/-- A range of times starts at the first and ends at the last. -/
theorem timeRange_cases (times : List ℤ) :
    (times = [] ∧ timeRange times = none) ∨
      ∃ first last, timeRange times = some (first, last) ∧ first ∈ times ∧ last ∈ times ∧
        ∀ t ∈ times, first ≤ t ∧ t ≤ last := by
  by_cases hnil : times = []
  · subst hnil
    exact .inl ⟨rfl, rfl⟩
  · obtain ⟨first, hfirst⟩ := Option.ne_none_iff_exists'.mp (mt List.min?_eq_none_iff.mp hnil)
    obtain ⟨last, hlast⟩ := Option.ne_none_iff_exists'.mp (mt List.max?_eq_none_iff.mp hnil)
    obtain ⟨hfirstMem, hfirstLe⟩ := List.min?_eq_some_iff.mp hfirst
    obtain ⟨hlastMem, hlastLe⟩ := List.max?_eq_some_iff.mp hlast
    refine .inr ⟨first, last, ?_, hfirstMem, hlastMem, fun t ht => ⟨hfirstLe t ht, hlastLe t ht⟩⟩
    rw [timeRange, hfirst, hlast]

/-- No range of times is inverted. -/
theorem rangeHasInversion_timeRange (times : List ℤ) :
    rangeHasInversion (timeRange times) = false := by
  rcases timeRange_cases times with ⟨-, hrange⟩ | ⟨first, last, hrange, hmem, -, hle⟩
  · rw [hrange]
    rfl
  · rw [hrange]
    exact decide_eq_false (not_lt.mpr (hle first hmem).2)

/-- Two ranges do not overlap exactly when every time of the first is before every time of the
second. -/
theorem rangesOverlap_eq_false_iff {left right : List ℤ} :
    rangesOverlap (timeRange left) (timeRange right) = false ↔
      ∀ s ∈ left, ∀ t ∈ right, s < t := by
  rcases timeRange_cases left with ⟨rfl, hleft⟩ | ⟨first, last, hleft, -, hlast, hle⟩
  · rw [hleft]
    exact iff_of_true rfl (by simp)
  rcases timeRange_cases right with ⟨rfl, hright⟩ | ⟨first', last', hright, hfirst', -, hle'⟩
  · rw [hleft, hright]
    exact iff_of_true rfl (by simp)
  · rw [hleft, hright, rangesOverlap, decide_eq_false_iff_not, ge_iff_le, not_le]
    constructor
    · intro hlt s hs t ht
      exact ((hle s hs).2.trans_lt hlt).trans_le (hle' t ht).1
    · exact fun h => h last hlast first' hfirst'

/-- A range that does not overlap with the next one does not start after it. -/
theorem startsAfter_of_apart {left right : List ℤ}
    (h : rangesOverlap (timeRange left) (timeRange right) = false) :
    startsAfter (timeRange left) (timeRange right) = false := by
  rcases timeRange_cases left with ⟨-, hleft⟩ | ⟨first, last, hleft, hfirst, -, hle⟩
  · rw [hleft]
    rfl
  rcases timeRange_cases right with ⟨-, hright⟩ | ⟨first', last', hright, hfirst', -, -⟩
  · rw [hleft, hright]
    rfl
  · have hlt := rangesOverlap_eq_false_iff.mp h first hfirst first' hfirst'
    rw [hleft, hright]
    exact decide_eq_false (not_lt.mpr hlt.le)

/-! ### The verdict -/

/-- The ids of a part. -/
def idsOf (rows : List PlacedSample) : List String := rows.map fun e => e.1.sampleId

/-- The times of a part. -/
def timesOf (rows : List PlacedSample) : List ℤ := rows.map fun e => e.1.featureTsNs

/-- Every time of a part is before every time of another. -/
def TimesApart (left right : List PlacedSample) : Prop :=
  ∀ s ∈ timesOf left, ∀ t ∈ timesOf right, s < t

theorem splitOverlapPairs_eq_nil {ids : BySplit (List String)}
    (h : (ids.train ++ ids.validation ++ ids.test).Nodup) : splitOverlapPairs ids = [] := by
  rw [List.nodup_append', List.nodup_append'] at h
  obtain ⟨⟨-, -, htrain⟩, -, htest⟩ := h
  have htrainTest : overlapPair ("train", ids.train) ("test", ids.test) = [] :=
    overlapPair_eq_nil_iff.mpr fun id hid => htest (List.mem_append_left _ hid)
  have hvalidationTest : overlapPair ("validation", ids.validation) ("test", ids.test) = [] :=
    overlapPair_eq_nil_iff.mpr fun id hid => htest (List.mem_append_right _ hid)
  rw [splitOverlapPairs, overlapPair_eq_nil_iff.mpr htrain, htrainTest, hvalidationTest]
  rfl

/-- Parts that are apart do not overlap in time. -/
theorem rangesOverlap_splitPart {left right : List PlacedSample} :
    rangesOverlap (splitPart left).timeRangeNs (splitPart right).timeRangeNs = false ↔
      TimesApart left right :=
  rangesOverlap_eq_false_iff

/-- **What a report without faults looks like**: of the reasons to refuse it, those about ids all
come down to ids that occur twice, and those about times to parts that are not apart. -/
theorem splitFailureReasons_eq_nil_iff {samples : List ResearchSample}
    (h : 3 ≤ (samples.filter ResearchSample.valid100msLabel).length) :
    splitFailureReasons (chronologicalSplit samples) = [] ↔
      (idsOf (allRows (splitAssignments samples))).Nodup ∧
        TimesApart (splitAssignments samples).train (splitAssignments samples).validation ∧
        TimesApart (splitAssignments samples).validation (splitAssignments samples).test := by
  rw [← length_placedValid] at h
  obtain ⟨hall, hnonempty⟩ := assignments_sound h
  rw [← splitAssignments] at hall
  have hids : idsOf (allRows (splitAssignments samples)) =
      idsOf (splitAssignments samples).train ++ idsOf (splitAssignments samples).validation ++
        idsOf (splitAssignments samples).test := by
    rw [allRows, idsOf, List.map_append, List.map_append]
    rfl
  simp only [splitFailureReasons_eq_nil, splitChecks, chronologicalSplit, BySplit.map,
    BySplit.items, List.forall_mem_append, List.forall_mem_cons, List.map_cons, List.map_nil,
    List.not_mem_nil, false_imp_iff, implies_true, and_true, decide_eq_false_iff_not, not_not,
    rangesOverlap_splitPart, ← hall]
  have hcount (split : Split) :
      ¬ (splitPart ((splitAssignments samples).get split)).sampleCount ≤ 0 := by
    rw [not_le]
    exact List.length_pos_iff.mpr (hnonempty split)
  constructor
  · rintro ⟨⟨⟨⟨⟨-, -, -, -, hids, -, -⟩, -⟩, -⟩, -⟩, htrain, htest, -, -⟩
    exact ⟨duplicates_eq_nil_iff.mp hids, htrain, htest⟩
  · rintro ⟨hnodup, htrain, htest⟩
    have hparts := hids ▸ hnodup
    have hduplicates : duplicates (BySplit.items ⟨idsOf (splitAssignments samples).train,
        idsOf (splitAssignments samples).validation,
        idsOf (splitAssignments samples).test⟩ |>.flatMap Prod.snd) = [] := by
      rw [duplicates_eq_nil_iff, BySplit.items]
      simpa [List.append_assoc] using hparts
    have hoverlap : splitOverlapPairs ⟨idsOf (splitAssignments samples).train,
        idsOf (splitAssignments samples).validation,
        idsOf (splitAssignments samples).test⟩ = [] := splitOverlapPairs_eq_nil hparts
    have htime : timeOverlap ⟨(splitPart (splitAssignments samples).train).timeRangeNs,
        (splitPart (splitAssignments samples).validation).timeRangeNs,
        (splitPart (splitAssignments samples).test).timeRangeNs⟩ = [] := by
      simp only [timeOverlap, rangesOverlap_splitPart.mpr htrain,
        rangesOverlap_splitPart.mpr htest, Bool.false_eq_true, if_false, List.append_nil]
    rw [← hall] at h
    exact ⟨⟨⟨⟨⟨trivial, trivial, rfl, by omega, duplicates_eq_nil_iff.mpr hnodup, hoverlap, htime⟩,
      hcount .train, hcount .validation, hcount .test⟩,
      decide_eq_false (not_not_intro hduplicates), decide_eq_false (not_not_intro hoverlap)⟩,
      rangeHasInversion_timeRange _, rangeHasInversion_timeRange _,
      rangeHasInversion_timeRange _⟩,
      htrain, htest, startsAfter_of_apart (rangesOverlap_splitPart.mpr htrain),
      startsAfter_of_apart (rangesOverlap_splitPart.mpr htest)⟩

/-! ### The split of some samples -/

/-- The last sample of a part is earlier than the first one of another. -/
def EndsBefore (left right : List PlacedSample) : Prop :=
  ∀ last ∈ left.getLast?, ∀ first ∈ right.head?, last.1.featureTsNs < first.1.featureTsNs

theorem featureTsNs_le {a b : PlacedSample} (h : chronoKey a ≤ chronoKey b) :
    a.1.featureTsNs ≤ b.1.featureTsNs := by
  rcases Prod.Lex.le_iff.mp h with hlt | ⟨heq, -⟩
  · exact hlt.le
  · exact heq.le

/-- No sample of a sorted part is later than its last one. -/
theorem le_getLast {part : List PlacedSample} (h : SortedBy chronoKey part) {last e : PlacedSample}
    (hlast : last ∈ part.getLast?) (he : e ∈ part) : e.1.featureTsNs ≤ last.1.featureTsNs := by
  obtain ⟨init, rfl⟩ := List.getLast?_eq_some_iff.mp hlast
  rcases List.mem_append.mp he with he | he
  · exact featureTsNs_le ((List.pairwise_append.mp h).2.2 e he last (by simp))
  · rw [List.mem_singleton.mp he]

/-- No sample of a sorted part is earlier than its first one. -/
theorem head_le {part : List PlacedSample} (h : SortedBy chronoKey part) {first e : PlacedSample}
    (hfirst : first ∈ part.head?) (he : e ∈ part) : first.1.featureTsNs ≤ e.1.featureTsNs := by
  obtain ⟨rest, rfl⟩ := List.head?_eq_some_iff.mp hfirst
  rcases List.mem_cons.mp he with rfl | he
  · exact le_rfl
  · exact featureTsNs_le ((List.pairwise_cons.mp h).1 e he)

instance (left right : List PlacedSample) : Decidable (EndsBefore left right) :=
  inferInstanceAs (Decidable (∀ last ∈ left.getLast?, ∀ first ∈ right.head?,
    last.1.featureTsNs < first.1.featureTsNs))

/-- In the order of time parts are apart when the first ends before the second. -/
theorem timesApart_iff_endsBefore {left right : List PlacedSample}
    (hleft : SortedBy chronoKey left) (hright : SortedBy chronoKey right) (hne : left ≠ [])
    (hne' : right ≠ []) : TimesApart left right ↔ EndsBefore left right := by
  constructor
  · intro h last hlast first hfirst
    exact h _ (List.mem_map_of_mem (List.mem_of_getLast? hlast)) _
      (List.mem_map_of_mem (List.mem_of_head? hfirst))
  · intro h s hs t ht
    obtain ⟨e, he, rfl⟩ := List.mem_map.mp hs
    obtain ⟨e', he', rfl⟩ := List.mem_map.mp ht
    obtain ⟨last, hlast⟩ := Option.ne_none_iff_exists'.mp
      (mt List.getLast?_eq_none_iff.mp hne)
    obtain ⟨first, hfirst⟩ := Option.isSome_iff_exists.mp (List.isSome_head?.mpr hne')
    exact ((le_getLast hleft hlast he).trans_lt (h last hlast first hfirst)).trans_le
      (head_le hright hfirst he')

/-- A part of sorted parts is sorted. -/
theorem SplitSound.sorted_get {samples : List ResearchSample} (h : SplitSound samples)
    (split : Split) : SortedBy chronoKey ((splitAssignments samples).get split) := by
  obtain ⟨hfirst, htest, -⟩ := List.pairwise_append.mp h.sorted
  obtain ⟨htrain, hvalidation, -⟩ := List.pairwise_append.mp hfirst
  cases split
  · exact htrain
  · exact hvalidation
  · exact htest

theorem status_pass_iff (samples : List ResearchSample) :
    (buildSplitReport samples).2.status = "pass" ↔
      splitFailureReasons (chronologicalSplit samples) = [] := by
  rw [buildSplitReport, validateSplitIntegrityReport]
  by_cases hreasons : splitFailureReasons (chronologicalSplit samples) = [] <;> simp [hreasons]

/-- The report on three or more valid samples passes exactly when the ids are distinct and the
times at both cuts increase. -/
theorem status_pass_iff_of_enough {samples : List ResearchSample}
    (h : 3 ≤ (samples.filter ResearchSample.valid100msLabel).length) :
    (buildSplitReport samples).2.status = "pass" ↔
      ((samples.filter ResearchSample.valid100msLabel).map ResearchSample.sampleId).Nodup ∧
      EndsBefore (splitAssignments samples).train (splitAssignments samples).validation ∧
      EndsBefore (splitAssignments samples).validation (splitAssignments samples).test := by
  have hsound := split_sound h
  have hids : (idsOf (allRows (splitAssignments samples))).Perm
      ((samples.filter ResearchSample.valid100msLabel).map ResearchSample.sampleId) := by
    have hplaced : idsOf (placedValid samples) =
        (samples.filter ResearchSample.valid100msLabel).map ResearchSample.sampleId := by
      rw [← map_fst_zipIdx_filter, List.map_map]
      rfl
    exact hplaced ▸ hsound.perm.map _
  rw [status_pass_iff, splitFailureReasons_eq_nil_iff h, hids.nodup_iff]
  refine and_congr_right fun _ => and_congr ?_ ?_
  · exact timesApart_iff_endsBefore (hsound.sorted_get .train) (hsound.sorted_get .validation)
      (hsound.nonempty .train) (hsound.nonempty .validation)
  · exact timesApart_iff_endsBefore (hsound.sorted_get .validation) (hsound.sorted_get .test)
      (hsound.nonempty .validation) (hsound.nonempty .test)

/-- The report on fewer valid samples fails. -/
theorem status_fail_of_few {samples : List ResearchSample}
    (h : (samples.filter ResearchSample.valid100msLabel).length < 3) :
    (buildSplitReport samples).2.status = "fail" := by
  have hfew : splitFailureReasons (chronologicalSplit samples) ≠ [] := by
    rw [ne_eq, splitFailureReasons_eq_nil]
    intro hchecks
    have hcount := hchecks ⟨decide ((chronologicalSplit samples).sampleCount < 3),
      "insufficient_samples_for_three_way_split"⟩ (by simp [splitChecks])
    rw [decide_eq_false_iff_not, chronologicalSplit, length_placedValid] at hcount
    exact hcount h
  rw [buildSplitReport, validateSplitIntegrityReport]
  exact if_neg hfew

/-- **The split of three or more valid samples is sound, and its report passes exactly when the
ids of the samples that are split are distinct and the times at both cuts increase**; fewer fail. -/
theorem split_integrity (samples : List ResearchSample) :
    (3 ≤ (samples.filter ResearchSample.valid100msLabel).length →
      SplitSound samples ∧
        ((buildSplitReport samples).2.status = "pass" ↔
          ((samples.filter ResearchSample.valid100msLabel).map ResearchSample.sampleId).Nodup ∧
          EndsBefore (splitAssignments samples).train (splitAssignments samples).validation ∧
          EndsBefore (splitAssignments samples).validation (splitAssignments samples).test)) ∧
    ((samples.filter ResearchSample.valid100msLabel).length < 3 →
      (buildSplitReport samples).2.status = "fail") :=
  ⟨fun h => ⟨split_sound h, status_pass_iff_of_enough h⟩, status_fail_of_few⟩

/-- A valid sample at a time. -/
def sampleAtTime (id : String) (ts : ℤ) : ResearchSample where
  sampleId := id
  sourceRowIndex := 0
  symbol := .null
  featureTsNs := ts
  featureTsWall := .null
  labelStartTsNs := ts
  labelFutureTsNs := none
  labelHorizonMs := some 100
  labelMaxFutureGapPolicyMs := some 100
  labelObservedFutureGapMs := some 0
  futureReturn100msBps := some 1
  direction100ms := some 1
  spreadAdjustedDirection100ms := some 1
  valid100msLabel := true
  diagnosticFutureReturn250msBps := none
  features := .ofList []
  featureSourceTsNs := .ofList []
  featureSourceMaxTsNs := none

/-- Three samples, the last one listed first; two samples of one time at a cut fail. -/
theorem split_integrity_threeSamples :
    (buildSplitReport [sampleAtTime "c" 3, sampleAtTime "a" 1, sampleAtTime "b" 2]).2.status =
        "pass" ∧
      markedSplit [sampleAtTime "c" 3, sampleAtTime "a" 1, sampleAtTime "b" 2] 0 = some .test ∧
      (buildSplitReport [sampleAtTime "c" 2, sampleAtTime "a" 1, sampleAtTime "b" 2]).2.status ≠
        "pass" := by
  obtain ⟨-, hpass⟩ := (split_integrity
    [sampleAtTime "c" 3, sampleAtTime "a" 1, sampleAtTime "b" 2]).1 (by decide)
  obtain ⟨-, hpass'⟩ := (split_integrity
    [sampleAtTime "c" 2, sampleAtTime "a" 1, sampleAtTime "b" 2]).1 (by decide)
  refine ⟨hpass.mpr (by decide +kernel), by decide +kernel, mt hpass'.mp (by decide +kernel)⟩

end SomethingTrade
