import Mathlib.Data.Rat.Floor
import SomethingTrade.StableSort

/-!
# Metric Series

Values of many metrics in one table: inserts append to it, a query reads the values of one
metric. The percentiles of a metric are values of the sorted series, at a rank rounded half to
even. They are the percentiles of the list of the values of that metric (`summary_eq`), which
other metrics do not touch (`valuesOf_addAll`).
-/

namespace SomethingTrade

/-- The nearest integer; a half goes to the even one. -/
def roundHalfEven (q : ℚ) : ℤ :=
  let part := q - ⌊q⌋
  if part < 1 / 2 then ⌊q⌋
  else if part > 1 / 2 then ⌊q⌋ + 1
  else if ⌊q⌋ % 2 = 0 then ⌊q⌋
  else ⌊q⌋ + 1

/-- A percentile of values. -/
def percentile (values : List ℚ) (p : ℚ) : Option ℚ :=
  match sortBy id values with
  | [] => none
  | [value] => some value
  | clean =>
      let index := roundHalfEven ((clean.length - 1 : ℤ) * p)
      clean[(min (max index 0) (clean.length - 1)).toNat]?

/-- A percentile is one of the values. -/
theorem mem_of_percentile {values : List ℚ} {p q : ℚ} (h : percentile values p = some q) :
    q ∈ values := by
  have hperm := perm_sortBy id values
  rw [percentile] at h
  split at h
  · cases h
  · rename_i value hsorted
    obtain rfl := Option.some.inj h
    exact hperm.mem_iff.mp (by simp [hsorted])
  · exact hperm.mem_iff.mp (List.mem_of_getElem? h)

/-- There is a percentile of any values but none. -/
theorem exists_percentile {values : List ℚ} (h : values ≠ []) (p : ℚ) :
    ∃ q, percentile values p = some q := by
  have hlength := (perm_sortBy id values).length_eq
  have hpos := List.length_pos_iff.mpr h
  rw [percentile]
  split
  · rename_i hsorted
    rw [hsorted, List.length_nil] at hlength
    omega
  · exact ⟨_, rfl⟩
  · exact ⟨_, List.getElem?_eq_getElem (by omega)⟩

/-- Values sort alike in any order. -/
theorem sortBy_id_perm {xs ys : List ℚ} (h : xs.Perm ys) : sortBy id xs = sortBy id ys := by
  refine sortedBy_unique (sortedBy_sortBy id xs) (sortedBy_sortBy id ys) fun k => ?_
  have hperm := ((perm_sortBy id xs).trans (h.trans (perm_sortBy id ys).symm)).filter fun b =>
    decide (id b = k)
  rw [List.eq_replicate_of_mem (a := k) (l := (sortBy id xs).filter _) fun b hb => by
      simpa using (List.mem_filter.mp hb).2,
    List.eq_replicate_of_mem (a := k) (l := (sortBy id ys).filter _) fun b hb => by
      simpa using (List.mem_filter.mp hb).2, hperm.length_eq]

/-- A percentile does not depend on the order of the values. -/
theorem percentile_perm {xs ys : List ℚ} (h : xs.Perm ys) (p : ℚ) :
    percentile xs p = percentile ys p := by
  rw [percentile, percentile, sortBy_id_perm h]

/-- What is reported of a series. -/
structure SeriesSummary where
  count : ℕ
  p50 : Option ℚ
  p90 : Option ℚ
  p95 : Option ℚ
  p99 : Option ℚ
  max : Option ℚ
  deriving DecidableEq

/-- What is reported of a list of values. -/
def valueSummary (values : List ℚ) : SeriesSummary :=
  { count := values.length
    p50 := percentile values (1 / 2)
    p90 := percentile values (9 / 10)
    p95 := percentile values (19 / 20)
    p99 := percentile values (99 / 100)
    max := values.max? }

/-- The table of the values of all metrics, in the order of the inserts. A query writes the
buffered inserts first, so they count as written. -/
structure SeriesStore where
  rows : List (String × ℚ)

namespace SeriesStore

/-- The empty table. -/
def empty : SeriesStore := ⟨[]⟩

/-- Insert a value; `None` is not inserted. -/
def add (series : SeriesStore) (metric : String) : Option ℚ → SeriesStore
  | none => series
  | some value => ⟨series.rows ++ [(metric, value)]⟩

/-- Insert values one after the other. -/
def addAll (series : SeriesStore) (entries : List (String × Option ℚ)) : SeriesStore :=
  entries.foldl (fun series entry => series.add entry.1 entry.2) series

/-- The values of a metric. -/
def valuesOf (series : SeriesStore) (metric : String) : List ℚ :=
  series.rows.filterMap fun row => if row.1 = metric then some row.2 else none

/-- A percentile of a metric with a number of values. -/
def percentile (series : SeriesStore) (metric : String) (p : ℚ) (count : ℕ) : Option ℚ :=
  if count = 0 then none
  else
    let offset := roundHalfEven ((count - 1 : ℤ) * p)
    (sortBy id (series.valuesOf metric))[(max 0 (min offset (count - 1))).toNat]?

/-- What is reported of a metric. -/
def summary (series : SeriesStore) (metric : String) : SeriesSummary :=
  let count := (series.valuesOf metric).length
  if count = 0 then ⟨0, none, none, none, none, none⟩
  else
    { count := count
      p50 := series.percentile metric (1 / 2) count
      p90 := series.percentile metric (9 / 10) count
      p95 := series.percentile metric (19 / 20) count
      p99 := series.percentile metric (99 / 100) count
      max := (series.valuesOf metric).max? }

/-! ### Inserts -/

theorem valuesOf_add (series : SeriesStore) (metric metric' : String) (value : Option ℚ) :
    (series.add metric value).valuesOf metric' =
      series.valuesOf metric' ++ if metric = metric' then value.toList else [] := by
  cases value with
  | none => simp [add]
  | some v =>
      simp only [valuesOf, add, List.filterMap_append, List.filterMap_cons, List.filterMap_nil]
      by_cases h : metric = metric' <;> simp [h]

/-- Inserts of other metrics leave the values of a metric. -/
theorem valuesOf_addAll_of_not_mem (series : SeriesStore) {metric : String}
    {entries : List (String × Option ℚ)} (h : metric ∉ entries.map Prod.fst) :
    (series.addAll entries).valuesOf metric = series.valuesOf metric := by
  induction entries generalizing series with
  | nil => rfl
  | cons entry entries ih =>
      rw [List.map_cons, List.mem_cons, not_or] at h
      rw [addAll, List.foldl_cons, ← addAll, ih _ h.2, valuesOf_add, if_neg (Ne.symm h.1),
        List.append_nil]

/-- **Inserts of distinct metrics add to each metric its own value.** -/
theorem valuesOf_addAll (series : SeriesStore) {metric : String} {value : Option ℚ}
    {entries : List (String × Option ℚ)} (hnodup : (entries.map Prod.fst).Nodup)
    (hmem : (metric, value) ∈ entries) :
    (series.addAll entries).valuesOf metric = series.valuesOf metric ++ value.toList := by
  induction entries generalizing series with
  | nil => simp at hmem
  | cons entry entries ih =>
      rw [List.map_cons, List.nodup_cons] at hnodup
      rw [addAll, List.foldl_cons, ← addAll]
      rcases List.mem_cons.mp hmem with rfl | hmem
      · rw [valuesOf_addAll_of_not_mem _ hnodup.1, valuesOf_add, if_pos rfl]
      · have hne : entry.1 ≠ metric := by
          rintro rfl
          exact hnodup.1 (List.mem_map.mpr ⟨_, hmem, rfl⟩)
        rw [ih _ hnodup.2 hmem, valuesOf_add, if_neg hne, List.append_nil]

/-! ### Queries -/

/-- A query of a percentile finds the percentile of the values of the metric. -/
theorem percentile_eq (series : SeriesStore) (metric : String) (p : ℚ) :
    series.percentile metric p (series.valuesOf metric).length =
      SomethingTrade.percentile (series.valuesOf metric) p := by
  have hlength : (sortBy id (series.valuesOf metric)).length = (series.valuesOf metric).length :=
    (perm_sortBy id _).length_eq
  rw [percentile, SomethingTrade.percentile, ← hlength]
  rcases sortBy id (series.valuesOf metric) with _ | ⟨a, _ | ⟨b, values⟩⟩
  · rfl
  · have hindex (index : ℤ) : (max 0 (min index (([a].length : ℤ) - 1))).toNat = 0 := by
      simp
    rw [if_neg (by simp)]
    dsimp only
    rw [hindex]
    rfl
  · have hindex (index n : ℤ) (hn : 0 ≤ n) : max 0 (min index n) = min (max index 0) n := by
      omega
    rw [if_neg (by simp)]
    dsimp only
    rw [hindex _ _ (by simp only [List.length_cons]; omega)]

/-- **A query reports what the list of the values of the metric has.** -/
theorem summary_eq (series : SeriesStore) (metric : String) :
    series.summary metric = valueSummary (series.valuesOf metric) := by
  rw [summary, valueSummary]
  by_cases hzero : (series.valuesOf metric).length = 0
  · rw [if_pos hzero, List.length_eq_zero_iff.mp hzero]
    rfl
  · simp only [if_neg hzero, percentile_eq]

end SeriesStore

end SomethingTrade
