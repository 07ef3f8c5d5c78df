import Mathlib.Algebra.BigOperators.Group.Finset.Basic
import Mathlib.Algebra.GroupWithZero.Nat
import Mathlib.Data.Prod.Lex
import SomethingTrade.Bisect

/-!
# Stable Sorting by a Key

Sorting the rows of a file by a key. The sort is stable: rows of one key keep their order.
So a sorted list is pinned down by its groups, the parts that have one key each
(`sortedBy_unique`), and what a search finds in a sorted list depends on the groups up to
the bound of the search only.

Searches are bisections of the column of keys. Each cuts the rows where a filter does
(`take_bisectRight`, `drop_bisectLeft`), and the index it finds counts the rows before. A walk
from the front that stops at a bound cuts them there too (`SortedBy.takeWhile_le`,
`SortedBy.dropWhile_lt`).

## Main results

* `filter_sortBy`: a group keeps its order.
* `sortedBy_unique`: lists sorted by a key with the same groups are equal.
* `sortBy_upTo`: the sorted rows up to a bound depend on the groups up to the bound only.
* `sortBy_toLex`: sorting by two keys is sorting by the first when the second is in order.
* `mem_take_sortBy`: the first rows are those with few rows before them.
* `take_sortBy_agree`: when the first rows by two keys are the same.
-/

namespace SomethingTrade

universe u v

variable {α : Type u} {β : Type v} {key : β → α}

/-! ### Splits -/

/-- The rows before a split pass its test and the others do not. -/
theorem SplitsAt.halves {left : α → Bool} {rows : List β} {r : ℕ}
    (h : SplitsAt left (rows.map key) 0 (rows.map key).length r) :
    (∀ b ∈ rows.take r, left (key b) = true) ∧ ∀ b ∈ rows.drop r, left (key b) = false := by
  constructor
  · intro b hb
    obtain ⟨i, hi, rfl⟩ := List.mem_take_iff_getElem.mp hb
    have hv : (rows.map key)[i]? = some (key rows[i]) := by
      rw [List.getElem?_map, List.getElem?_eq_getElem]
      rfl
    exact h.before hv (Nat.zero_le i) (by omega)
  · intro b hb
    obtain ⟨i, hi, rfl⟩ := List.mem_drop_iff_getElem.mp hb
    have hv : (rows.map key)[r + i]? = some (key rows[r + i]) := by
      rw [List.getElem?_map, List.getElem?_eq_getElem]
      rfl
    exact h.after hv (by omega) (by rw [List.length_map]; omega)

/-- The split of a list cuts it where a filter does. -/
theorem SplitsAt.take_eq {left : α → Bool} {rows : List β} {r : ℕ}
    (h : SplitsAt left (rows.map key) 0 (rows.map key).length r) :
    rows.take r = rows.filter fun b => left (key b) := by
  obtain ⟨hhead, htail⟩ := h.halves
  conv_rhs => rw [← List.take_append_drop r rows]
  rw [List.filter_append, List.filter_eq_self.mpr hhead,
    List.filter_eq_nil_iff.mpr fun b hb => by simp [htail b hb], List.append_nil]

theorem SplitsAt.drop_eq {left : α → Bool} {rows : List β} {r : ℕ}
    (h : SplitsAt left (rows.map key) 0 (rows.map key).length r) :
    rows.drop r = rows.filter fun b => !left (key b) := by
  obtain ⟨hhead, htail⟩ := h.halves
  conv_rhs => rw [← List.take_append_drop r rows]
  rw [List.filter_append, List.filter_eq_nil_iff.mpr fun b hb => by simp [hhead b hb],
    List.filter_eq_self.mpr fun b hb => by simp [htail b hb], List.nil_append]

/-- The split index counts the rows before it. -/
theorem SplitsAt.eq_countP {left : α → Bool} {rows : List β} {r : ℕ}
    (h : SplitsAt left (rows.map key) 0 (rows.map key).length r) :
    r = rows.countP fun b => left (key b) := by
  have hle : r ≤ rows.length := by simpa using h.le_hi
  rw [List.countP_eq_length_filter, ← h.take_eq, List.length_take, min_eq_left hle]

/-! ### Groups -/

/-- Counting by a key that takes its values in a list of different ones counts everything
once. -/
theorem sum_length_filter [DecidableEq α] {keys : List α} (hkeys : keys.Nodup) {rows : List β}
    (h : ∀ b ∈ rows, key b ∈ keys) :
    (keys.map fun k => (rows.filter fun b => key b = k).length).sum = rows.length := by
  have hcount (k : α) : (rows.filter fun b => key b = k).length = (rows.map key).count k := by
    rw [List.count_eq_countP, List.countP_map, List.countP_eq_length_filter]
    rfl
  simp only [hcount]
  have hsum := Multiset.sum_count_eq_card (s := keys.toFinset) (m := (rows.map key : List α))
    (by simpa using h)
  rw [List.sum_toFinset _ hkeys] at hsum
  simpa using hsum

theorem countP_eq_sum (test : β → Bool) (rows : List β) :
    rows.countP test = (rows.map fun row => if test row then 1 else 0).sum := by
  induction rows with
  | nil => rfl
  | cons row rows ih => rw [List.countP_cons, ih, List.map_cons, List.sum_cons, add_comm]

/-- The rows that pass some tests, counted test by test or row by row. -/
theorem sum_length_filter_tests (tests : List (β → Bool)) (rows : List β) :
    (tests.map fun test => (rows.filter test).length).sum =
      (rows.map fun row => tests.countP fun test => test row).sum := by
  induction tests with
  | nil => simp
  | cons test tests ih =>
      simp only [List.countP_cons, List.map_cons, List.sum_cons, List.sum_map_add, ih, add_comm]
      rw [← List.countP_eq_length_filter, countP_eq_sum]

/-- Where each row passes one test, the tests count every row once. -/
theorem sum_length_filter_of_one {tests : List (β → Bool)} {rows : List β}
    (h : ∀ row ∈ rows, (tests.countP fun test => test row) = 1) :
    (tests.map fun test => (rows.filter test).length).sum = rows.length := by
  rw [sum_length_filter_tests, List.map_congr_left h]
  simp

/-! ### Sorting -/

variable [LinearOrder α]

/-- Rows sorted by a key. -/
def SortedBy (key : β → α) (rows : List β) : Prop := rows.Pairwise fun a b => key a ≤ key b

/-- `sorted(rows, key=key)`. -/
def sortBy (key : β → α) (rows : List β) : List β :=
  rows.insertionSort fun a b => key a ≤ key b

theorem sortedBy_sortBy (key : β → α) (rows : List β) : SortedBy key (sortBy key rows) :=
  have : Std.Total fun a b => key a ≤ key b := ⟨fun a b => le_total (key a) (key b)⟩
  have : IsTrans β fun a b => key a ≤ key b := ⟨fun _ _ _ => le_trans⟩
  List.pairwise_insertionSort _ _

theorem perm_sortBy (key : β → α) (rows : List β) : (sortBy key rows).Perm rows :=
  List.perm_insertionSort _ _

/-- The first of sorted rows has the least key. -/
theorem le_of_head?_sortBy {rows : List β} {first : β} (h : (sortBy key rows).head? = some first) :
    first ∈ rows ∧ ∀ row ∈ rows, key first ≤ key row := by
  have hperm := perm_sortBy key rows
  obtain ⟨rest, hrest⟩ := List.head?_eq_some_iff.mp h
  have hsorted := hrest ▸ sortedBy_sortBy key rows
  refine ⟨hperm.mem_iff.mp (by simp [hrest]), fun row hrow => ?_⟩
  rcases List.mem_cons.mp (hrest ▸ hperm.mem_iff.mpr hrow) with rfl | hmem
  · exact le_rfl
  · exact (List.pairwise_cons.mp hsorted).1 row hmem

/-- There is a first of sorted rows when there is a row. -/
theorem isSome_head?_sortBy {rows : List β} : (sortBy key rows).head?.isSome ↔ rows ≠ [] := by
  rw [List.isSome_head?, ne_eq, ne_eq, ← List.length_eq_zero_iff, ← List.length_eq_zero_iff,
    (perm_sortBy key rows).length_eq]

/-- Rows that are in order stay as they are. -/
theorem sortBy_eq_self {rows : List β} (h : SortedBy key rows) : sortBy key rows = rows :=
  h.insertionSort_eq

theorem SortedBy.map {rows : List β} (h : SortedBy key rows) :
    (rows.map key).Pairwise (· ≤ ·) :=
  List.pairwise_map.mpr h

theorem SortedBy.filter {rows : List β} (h : SortedBy key rows) (p : β → Bool) :
    SortedBy key (rows.filter p) :=
  h.sublist List.filter_sublist

/-- **The sort is stable**: the rows of one key keep their order. They are a sorted part of
the list, which a stable sort does not touch, and the sort adds none to them. -/
theorem filter_sortBy (key : β → α) (rows : List β) (k : α) :
    (sortBy key rows).filter (fun b => key b = k) = rows.filter fun b => key b = k := by
  have : Std.Total fun a b => key a ≤ key b := ⟨fun a b => le_total (key a) (key b)⟩
  have : IsTrans β fun a b => key a ≤ key b := ⟨fun _ _ _ => le_trans⟩
  have hgroup : SortedBy key (rows.filter fun b => key b = k) := by
    refine List.pairwise_of_forall_mem_list fun a ha b hb => ?_
    simp only [List.mem_filter, decide_eq_true_eq] at ha hb
    exact (ha.2.trans hb.2.symm).le
  have hsub : (rows.filter fun b => key b = k).Sublist (sortBy key rows) :=
    List.sublist_insertionSort hgroup List.filter_sublist
  have hsub := hsub.filter fun b => key b = k
  rw [List.filter_filter] at hsub
  simp only [Bool.and_self] at hsub
  refine (hsub.eq_of_length ?_).symm
  exact ((perm_sortBy key rows).filter _).length_eq.symm

/-- **Lists sorted by a key with the same groups are equal.** Induction on the lists: the head
of each has the least key, so both heads lead the same group. -/
theorem sortedBy_unique {xs ys : List β} (hxs : SortedBy key xs) (hys : SortedBy key ys)
    (h : ∀ k, xs.filter (fun b => key b = k) = ys.filter fun b => key b = k) : xs = ys := by
  induction xs generalizing ys with
  | nil =>
      cases ys with
      | nil => rfl
      | cons y ys => simpa using h (key y)
  | cons x xs ih =>
      cases ys with
      | nil => simpa using h (key x)
      | cons y ys =>
          obtain ⟨hx, hxtail⟩ := List.pairwise_cons.mp hxs
          obtain ⟨hy, hytail⟩ := List.pairwise_cons.mp hys
          have hyx : key y ≤ key x := by
            have hmem : x ∈ (y :: ys).filter fun b => key b = key x := by
              rw [← h (key x)]
              simp
            rcases List.mem_cons.mp (List.mem_filter.mp hmem).1 with rfl | hmem
            · exact le_rfl
            · exact hy x hmem
          have hxy : key x ≤ key y := by
            have hmem : y ∈ (x :: xs).filter fun b => key b = key y := by
              rw [h (key y)]
              simp
            rcases List.mem_cons.mp (List.mem_filter.mp hmem).1 with rfl | hmem
            · exact le_rfl
            · exact hx y hmem
          have heq : key x = key y := le_antisymm hxy hyx
          have hhead := h (key x)
          simp only [List.filter_cons, heq, decide_true, if_true, List.cons.injEq] at hhead
          obtain ⟨rfl, -⟩ := hhead
          refine congrArg _ (ih hxtail hytail fun k => ?_)
          have hk := h k
          simp only [List.filter_cons] at hk
          split at hk
          · exact (List.cons.inj hk).2
          · exact hk

/-- The groups up to a bound are the same. -/
def SameUpTo (key : β → α) (bound : α) (xs ys : List β) : Prop :=
  ∀ k ≤ bound, xs.filter (fun b => key b = k) = ys.filter fun b => key b = k

theorem SameUpTo.refl (key : β → α) (bound : α) (xs : List β) : SameUpTo key bound xs xs :=
  fun _ _ => rfl

/-- Rows after the bound do not matter, wherever they are. -/
theorem SameUpTo.cons_later {bound : α} {xs ys : List β} (h : SameUpTo key bound xs ys) {b : β}
    (hb : bound < key b) : SameUpTo key bound xs (b :: ys) := by
  intro k hk
  have hne : key b ≠ k := (hk.trans_lt hb).ne'
  rw [List.filter_cons_of_neg (by simpa using hne)]
  exact h k hk

theorem SameUpTo.mono {bound bound' : α} {xs ys : List β} (h : SameUpTo key bound xs ys)
    (hle : bound' ≤ bound) : SameUpTo key bound' xs ys :=
  fun k hk => h k (hk.trans hle)

/-- **The sorted rows up to a bound depend on the groups up to the bound only.** -/
theorem sortBy_upTo {bound : α} {xs ys : List β} (h : SameUpTo key bound xs ys) :
    (sortBy key xs).filter (fun b => key b ≤ bound) =
      (sortBy key ys).filter fun b => key b ≤ bound := by
  refine sortedBy_unique ((sortedBy_sortBy key xs).filter _) ((sortedBy_sortBy key ys).filter _)
    fun k => ?_
  simp only [List.filter_filter]
  by_cases hk : k ≤ bound
  · have hgroup (zs : List β) : (zs.filter fun b => decide (key b = k) && decide (key b ≤ bound)) =
        zs.filter fun b => key b = k := by
      refine List.filter_congr fun b _ => ?_
      by_cases hb : key b = k
      · simp [hb, hk]
      · simp [hb]
    rw [hgroup, hgroup, filter_sortBy, filter_sortBy]
    exact h k hk
  · have hgroup (zs : List β) :
        (zs.filter fun b => decide (key b = k) && decide (key b ≤ bound)) = [] := by
      refine List.filter_eq_nil_iff.mpr fun b _ => ?_
      by_cases hb : key b = k
      · simp [hb, hk]
      · simp [hb]
    rw [hgroup, hgroup]

/-- Sorting by two keys is sorting by the first when the rows are in the order of the second:
each group of the first key is in order. -/
theorem sortBy_toLex {γ : Type*} [LinearOrder γ] {second : β → γ} {rows : List β}
    (h : SortedBy second rows) :
    sortBy (fun b => toLex (key b, second b)) rows = sortBy key rows := by
  have hlex := sortedBy_sortBy (fun b => toLex (key b, second b)) rows
  have hfirst : SortedBy key (sortBy (fun b => toLex (key b, second b)) rows) := by
    refine hlex.imp fun {a b} hab => ?_
    rcases Prod.Lex.le_iff.mp hab with hlt | ⟨heq, -⟩
    · exact hlt.le
    · exact heq.le
  refine sortedBy_unique hfirst (sortedBy_sortBy key rows) fun k => ?_
  rw [filter_sortBy]
  refine sortedBy_unique (hlex.filter _) ?_ fun pair => ?_
  · refine List.Pairwise.imp_of_mem (fun {a b} ha hb hab => ?_) (h.filter fun b => key b = k)
    simp only [List.mem_filter, decide_eq_true_eq] at ha hb
    exact Prod.Lex.le_iff.mpr (.inr ⟨ha.2.trans hb.2.symm, hab⟩)
  · rw [List.filter_comm, filter_sortBy, List.filter_comm]

/-- Sorting keeps what a filter keeps. -/
theorem sortBy_filter (key : β → α) (rows : List β) (p : β → Bool) :
    sortBy key (rows.filter p) = (sortBy key rows).filter p := by
  refine sortedBy_unique (sortedBy_sortBy key _) ((sortedBy_sortBy key rows).filter p) fun k => ?_
  rw [filter_sortBy, List.filter_comm, ← filter_sortBy key rows k, List.filter_comm]

/-- Sorting images by a key is sorting by the key of the images. -/
theorem sortBy_map {γ : Type*} (key : γ → α) (f : β → γ) (rows : List β) :
    sortBy key (rows.map f) = (sortBy (fun b => key (f b)) rows).map f :=
  (List.map_insertionSort _ _ f rows fun _ _ _ _ => Iff.rfl).symm

/-! ### Walks -/

section

variable {rows : List β}

/-- A walk up to the first row after a bound takes the rows up to the bound. -/
theorem SortedBy.takeWhile_le (h : SortedBy key rows) (x : α) :
    (rows.takeWhile fun b => key b ≤ x) = rows.filter fun b => key b ≤ x := by
  induction rows with
  | nil => rfl
  | cons b rows ih =>
      obtain ⟨hb, hrows⟩ := List.pairwise_cons.mp h
      by_cases hx : key b ≤ x
      · simp [hx, ih hrows]
      · have hnone : rows.filter (fun c => key c ≤ x) = [] :=
          List.filter_eq_nil_iff.mpr fun c hc => by simpa using (not_le.mp hx).trans_le (hb c hc)
        simp [hx, hnone]

/-- Dropping rows up to the first that is not before a bound leaves those from the bound on. -/
theorem SortedBy.dropWhile_lt (h : SortedBy key rows) (x : α) :
    (rows.dropWhile fun b => key b < x) = rows.filter fun b => x ≤ key b := by
  induction rows with
  | nil => rfl
  | cons b rows ih =>
      obtain ⟨hb, hrows⟩ := List.pairwise_cons.mp h
      by_cases hx : key b < x
      · simp [hx, ih hrows]
      · have hx : x ≤ key b := not_lt.mp hx
        have hall : rows.filter (fun c => x ≤ key c) = rows :=
          List.filter_eq_self.mpr fun c hc => by simpa using hx.trans (hb c hc)
        simp [hx, hall]

/-- The last row from a bound on is the last row, unless that is before the bound. -/
theorem SortedBy.getLast?_filter_ge (h : SortedBy key rows) (x : α) :
    (rows.filter fun b => x ≤ key b).getLast? = rows.getLast?.filter fun b => x ≤ key b := by
  rcases List.eq_nil_or_concat rows with rfl | ⟨head, last, rfl⟩
  · rfl
  · rw [List.concat_eq_append] at h ⊢
    rw [List.filter_append, List.getLast?_append]
    by_cases hx : x ≤ key last
    · simp [hx, Option.filter]
    · have hnone : head.filter (fun b => x ≤ key b) = [] := by
        refine List.filter_eq_nil_iff.mpr fun b hb => ?_
        have hble : key b ≤ key last := (List.pairwise_append.mp h).2.2 b hb last (by simp)
        simpa using hble.trans_lt (not_le.mp hx)
      simp [hx, hnone, Option.filter]

end

/-! ### Places in a stable sort -/

/-- A row comes before another one in a stable sort: its key is less, or it has the same key and
is listed before. -/
def Precedes (key : β → α) (rows : List β) (a b : β) : Prop :=
  key a < key b ∨ key a = key b ∧ [a, b].Sublist rows

instance [DecidableEq β] (key : β → α) (rows : List β) (a b : β) :
    Decidable (Precedes key rows a b) :=
  inferInstanceAs (Decidable (key a < key b ∨ key a = key b ∧ [a, b].Sublist rows))

/-- The number of rows that come before a row. -/
def rankOf [DecidableEq β] (key : β → α) (rows : List β) (b : β) : ℕ :=
  rows.countP fun a => decide (Precedes key rows a b)

/-- Of two rows of a list one is listed before the other. -/
theorem sublist_pair_or {rows : List β} {a b : β} (ha : a ∈ rows) (hb : b ∈ rows) (hne : a ≠ b) :
    [a, b].Sublist rows ∨ [b, a].Sublist rows := by
  induction rows with
  | nil => cases ha
  | cons c rows ih =>
      rcases List.mem_cons.mp ha with rfl | harest
      · have hbrest := (List.mem_cons.mp hb).resolve_left (Ne.symm hne)
        exact .inl ((List.singleton_sublist.mpr hbrest).cons_cons a)
      · rcases List.mem_cons.mp hb with rfl | hbrest
        · exact .inr ((List.singleton_sublist.mpr harest).cons_cons b)
        · exact (ih harest hbrest).imp (fun h => h.cons c) fun h => h.cons c

/-- In a list without repetition not both. -/
theorem not_sublist_pair {rows : List β} (h : rows.Nodup) {a b : β} (hab : [a, b].Sublist rows) :
    ¬ [b, a].Sublist rows := by
  intro hba
  induction rows with
  | nil => cases hab
  | cons c rows ih =>
      obtain ⟨hc, hrows⟩ := List.nodup_cons.mp h
      cases hab with
      | cons _ hab =>
          cases hba with
          | cons _ hba => exact ih hrows hab hba
          | cons_cons _ hba => exact hc (hab.subset (by simp))
      | cons_cons _ hab =>
          cases hba with
          | cons _ hba => exact hc (hba.subset (by simp))
          | cons_cons _ hba => exact hc (hba.subset (by simp))

theorem Precedes.asymm {rows : List β} (h : rows.Nodup) {a b : β} (hab : Precedes key rows a b) :
    ¬ Precedes key rows b a := by
  rintro (hlt | ⟨heq, hba⟩)
  · rcases hab with hlt' | ⟨heq', -⟩
    · exact absurd hlt (not_lt.mpr hlt'.le)
    · exact hlt.ne' heq'
  · rcases hab with hlt' | ⟨-, hab⟩
    · exact hlt'.ne' heq
    · exact not_sublist_pair h hab hba

/-- **A stable sort puts each row after those that come before it.** -/
theorem pairwise_sortBy {rows : List β} (h : rows.Nodup) :
    (sortBy key rows).Pairwise (Precedes key rows) := by
  rw [List.pairwise_iff_forall_sublist]
  intro a b hab
  have hsorted : (sortBy key rows).Nodup := (perm_sortBy key rows).nodup_iff.mpr h
  have hle : key a ≤ key b := List.pairwise_iff_forall_sublist.mp (sortedBy_sortBy key rows) hab
  rcases hle.lt_or_eq with hlt | heq
  · exact .inl hlt
  · refine .inr ⟨heq, ?_⟩
    have hmem {c : β} (hc : c ∈ [a, b]) : c ∈ rows :=
      (perm_sortBy key rows).mem_iff.mp (hab.subset hc)
    have hne : a ≠ b := by
      have hnodup := hab.nodup hsorted
      simpa using hnodup
    refine (sublist_pair_or (hmem (by simp)) (hmem (by simp)) hne).resolve_right fun hba => ?_
    exact not_sublist_pair hsorted hab (List.pair_sublist_insertionSort heq.ge hba)

/-- In an ordered list the elements before an element are counted. -/
theorem countP_of_pairwise {r : β → β → Prop} [DecidableRel r]
    (hasymm : ∀ a b, r a b → ¬ r b a) {before after : List β} {b : β}
    (h : (before ++ b :: after).Pairwise r) :
    (before ++ b :: after).countP (fun a => decide (r a b)) = before.length := by
  obtain ⟨-, htail, hbefore⟩ := List.pairwise_append.mp h
  have hafter := (List.pairwise_cons.mp htail).1
  have hself : ¬ r b b := fun hr => hasymm b b hr hr
  have hfirst : before.countP (fun a => decide (r a b)) = before.length :=
    List.countP_eq_length.mpr fun a ha => decide_eq_true (hbefore a ha b List.mem_cons_self)
  have hlast : after.countP (fun a => decide (r a b)) = 0 :=
    List.countP_eq_zero.mpr fun a ha => by simpa using hasymm b a (hafter a ha)
  rw [List.countP_append, hfirst, List.countP_cons_of_neg (by simpa using hself), hlast]
  rfl

/-- **A row is among the first ones of a stable sort if few rows come before it.** -/
theorem mem_take_sortBy [DecidableEq β] {rows : List β} (h : rows.Nodup) {n : ℕ} {b : β} :
    b ∈ (sortBy key rows).take n ↔ b ∈ rows ∧ rankOf key rows b < n := by
  rw [← (perm_sortBy key rows).mem_iff, rankOf, ← (perm_sortBy key rows).countP_eq]
  have hpair : (sortBy key rows).Pairwise (Precedes key rows) := pairwise_sortBy h
  have hasymm : ∀ a b, Precedes key rows a b → ¬ Precedes key rows b a :=
    fun _ _ hab => hab.asymm h
  constructor
  · intro hb
    have hmem := List.mem_of_mem_take hb
    refine ⟨hmem, ?_⟩
    obtain ⟨before, after, hsplit⟩ := List.append_of_mem hb
    have hwhole : sortBy key rows = before ++ b :: (after ++ (sortBy key rows).drop n) := by
      conv_lhs => rw [← List.take_append_drop n (sortBy key rows), hsplit]
      simp
    rw [hwhole] at hpair ⊢
    rw [countP_of_pairwise hasymm hpair]
    have hlen := congrArg List.length hsplit
    simp only [List.length_take, List.length_append, List.length_cons] at hlen
    omega
  · rintro ⟨hmem, hrank⟩
    obtain ⟨before, after, hsplit⟩ := List.append_of_mem hmem
    rw [hsplit] at hpair hrank ⊢
    rw [countP_of_pairwise hasymm hpair] at hrank
    rw [List.take_append, List.mem_append]
    refine .inr ?_
    obtain ⟨k, hk⟩ : ∃ k, n - before.length = k + 1 := ⟨n - before.length - 1, by omega⟩
    rw [hk, List.take_succ_cons]
    exact List.mem_cons_self

/-- **Two stable sorts have the same first rows** exactly when each of the first ones by one key
comes before the others by the other one. -/
theorem take_sortBy_agree [DecidableEq β] {γ : Type*} [LinearOrder γ] {key' : β → γ}
    {rows : List β} (h : rows.Nodup) (n : ℕ) :
    (∀ b, b ∈ (sortBy key rows).take n ↔ b ∈ (sortBy key' rows).take n) ↔
      ∀ a ∈ rows, ∀ b ∈ rows, rankOf key rows a < n → n ≤ rankOf key rows b →
        Precedes key' rows a b := by
  have hpair : (sortBy key' rows).Pairwise (Precedes key' rows) := pairwise_sortBy h
  rw [← List.take_append_drop n (sortBy key' rows), List.pairwise_append] at hpair
  have hcross := hpair.2.2
  have hdrop {b : β} (hb : b ∈ rows) (hnot : b ∉ (sortBy key' rows).take n) :
      b ∈ (sortBy key' rows).drop n := by
    have hmem := (perm_sortBy key' rows).mem_iff.mpr hb
    rw [← List.take_append_drop n (sortBy key' rows), List.mem_append] at hmem
    exact hmem.resolve_left hnot
  constructor
  · intro hsame a ha b hb hrank hrank'
    refine hcross a ((hsame a).mp ((mem_take_sortBy h).mpr ⟨ha, hrank⟩)) b (hdrop hb fun hin => ?_)
    have hlt := ((mem_take_sortBy h).mp ((hsame b).mpr hin)).2
    omega
  · intro hbefore
    have hlen : ((sortBy key rows).take n).length = ((sortBy key' rows).take n).length := by
      rw [List.length_take, List.length_take, (perm_sortBy key rows).length_eq,
        (perm_sortBy key' rows).length_eq]
    have hnodup : ((sortBy key' rows).take n).Nodup :=
      ((perm_sortBy key' rows).nodup_iff.mpr h).sublist (List.take_sublist _ _)
    have hsub : (sortBy key' rows).take n ⊆ (sortBy key rows).take n := by
      by_contra hnot
      obtain ⟨b, hb, hbnot⟩ : ∃ b ∈ (sortBy key' rows).take n, b ∉ (sortBy key rows).take n := by
        simpa [List.subset_def] using hnot
      -- as many rows are first by either key, so another row is out
      obtain ⟨a, ha, hanot⟩ : ∃ a ∈ (sortBy key rows).take n, a ∉ (sortBy key' rows).take n := by
        by_contra hall
        have hsub' : (sortBy key rows).take n ⊆ (sortBy key' rows).take n := by
          intro c hc
          by_contra hc'
          exact hall ⟨c, hc, hc'⟩
        have hnodup' : ((sortBy key rows).take n).Nodup :=
          ((perm_sortBy key rows).nodup_iff.mpr h).sublist (List.take_sublist _ _)
        have hperm := (List.subperm_of_subset hnodup' hsub').perm_of_length_le hlen.ge
        exact hbnot (hperm.mem_iff.mpr hb)
      obtain ⟨har, harank⟩ := (mem_take_sortBy h).mp ha
      obtain ⟨hbr, -⟩ := (mem_take_sortBy h).mp hb
      have hbrank : n ≤ rankOf key rows b := by
        by_contra hlt
        exact hbnot ((mem_take_sortBy h).mpr ⟨hbr, by omega⟩)
      exact (hbefore a har b hbr harank hbrank).asymm h (hcross b hb a (hdrop har hanot))
    have hperm := (List.subperm_of_subset hnodup hsub).perm_of_length_le hlen.le
    exact fun b => hperm.mem_iff.symm

/-! ### Searches -/

variable {rows : List β}

theorem take_bisectRight (h : SortedBy key rows) (x : α) :
    rows.take (bisectRight (rows.map key) x 0 (rows.map key).length) =
      rows.filter fun b => key b ≤ x := by
  rw [(bisectRight_splitsAt h.map x (Nat.zero_le _) le_rfl).take_eq]
  exact List.filter_congr fun b _ => by rw [Bool.eq_iff_iff]; simp

theorem drop_bisectLeft (h : SortedBy key rows) (x : α) :
    rows.drop (bisectLeft (rows.map key) x 0 (rows.map key).length) =
      rows.filter fun b => x ≤ key b := by
  rw [(bisectLeft_splitsAt h.map x (Nat.zero_le _) le_rfl).drop_eq]
  exact List.filter_congr fun b _ => by rw [Bool.eq_iff_iff]; simp

theorem bisectRight_eq_countP (h : SortedBy key rows) (x : α) :
    bisectRight (rows.map key) x 0 (rows.map key).length = rows.countP fun b => key b ≤ x := by
  rw [(bisectRight_splitsAt h.map x (Nat.zero_le _) le_rfl).eq_countP]
  exact List.countP_congr fun b _ => by simp

theorem bisectLeft_eq_countP (h : SortedBy key rows) (x : α) :
    bisectLeft (rows.map key) x 0 (rows.map key).length = rows.countP fun b => key b < x := by
  rw [(bisectLeft_splitsAt h.map x (Nat.zero_le _) le_rfl).eq_countP]

/-- The row a left bisection finds is the first of those from the bound on. -/
theorem getElem?_bisectLeft (h : SortedBy key rows) (x : α) :
    rows[bisectLeft (rows.map key) x 0 (rows.map key).length]? =
      (rows.filter fun b => x ≤ key b).head? := by
  rw [← drop_bisectLeft h, List.head?_drop]

/-- A left bisection finds no row for a bound after the last key. -/
theorem getElem?_bisectLeft_of_getLast? (h : SortedBy key rows) {x : α}
    (hlast : (rows.map key).getLast?.all (fun last => last < x) = true) :
    rows[bisectLeft (rows.map key) x 0 (rows.map key).length]? = none := by
  rw [getElem?_bisectLeft h, List.head?_eq_none_iff, List.filter_eq_nil_iff]
  intro b hb hxb
  rcases List.eq_nil_or_concat rows with rfl | ⟨head, last, rfl⟩
  · exact List.not_mem_nil hb
  · have hlt : key last < x := by simpa using hlast
    have hble : key b ≤ key last := by
      rcases List.mem_append.mp (List.concat_eq_append ▸ hb) with hb | hb
      · exact (List.pairwise_append.mp (List.concat_eq_append ▸ h)).2.2 b hb last (by simp)
      · rw [List.mem_singleton.mp hb]
    exact absurd (of_decide_eq_true hxb) (not_le.mpr (hble.trans_lt hlt))

end SomethingTrade
