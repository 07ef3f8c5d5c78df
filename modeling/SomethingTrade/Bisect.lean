import Mathlib.Data.List.Sort
import Mathlib.Order.Bounds.Basic
import Mathlib.Order.Lattice

/-!
# Bisection of Sorted Lists

The bisection search of a sorted list and the two list updates built on it. All four
searches are one loop (`bisectLoop`) that narrows a half-open index interval `[lo, hi)`
by a test on the middle element; `bisectLeft` and `bisectRight` differ in the test only.
The loop is fueled by the length of the interval, so it is structurally recursive and
runs in the kernel.

The result is pinned down by `SplitsAt`: everything of the interval before the index
passes the test, nothing from the index on does. A split of an interval is unique
(`SplitsAt.unique`), which is how two searches over different lists are compared.

## Main results

* `bisectLoop_splitsAt`: on a list where the test is antitone the loop finds the split.
* `bisectLeft_splitsAt`, `bisectRight_splitsAt`: the two searches of a sorted list.
* `firstAtOrAfter_eq`, `lastAtOrBefore_eq`: linear scans of a sorted list find what bisection
  does.
* `insort_pairwise_lt`, `mem_insort`: inserting a new element keeps a strictly ascending
  list strictly ascending and adds exactly that element.
* `discard_eq_filter`: removing by a left bisection removes exactly the element.
-/

namespace SomethingTrade

universe u

variable {α : Type u}

/-- The bisection loop on `[lo, hi)`: elements passing `left` belong to the left part.
An index outside the list cannot be reached while `hi` is at most the length. -/
def bisectLoop (left : α → Bool) (xs : List α) : ℕ → ℕ → ℕ → ℕ
  | 0, lo, _ => lo
  | fuel + 1, lo, hi =>
      if lo < hi then
        match xs[(lo + hi) / 2]? with
        | some v =>
            if left v then bisectLoop left xs fuel ((lo + hi) / 2 + 1) hi
            else bisectLoop left xs fuel lo ((lo + hi) / 2)
        | none => lo
      else lo

/-- The loop reads the list up to the end of its interval only. -/
theorem bisectLoop_take {left : α → Bool} {xs : List α} {n fuel lo hi : ℕ} (h : hi ≤ n) :
    bisectLoop left (xs.take n) fuel lo hi = bisectLoop left xs fuel lo hi := by
  induction fuel generalizing lo hi with
  | zero => rfl
  | succ fuel ih =>
      rw [bisectLoop, bisectLoop]
      by_cases hlt : lo < hi
      · have hmid : (lo + hi) / 2 < n := by omega
        rw [if_pos hlt, if_pos hlt, List.getElem?_take_of_lt hmid, ih h, ih hmid.le]
      · rw [if_neg hlt, if_neg hlt]

/-- The loop stays in its interval. -/
theorem bisectLoop_le {left : α → Bool} {xs : List α} {fuel lo hi : ℕ} (h : lo ≤ hi) :
    bisectLoop left xs fuel lo hi ≤ hi := by
  induction fuel generalizing lo hi with
  | zero => exact h
  | succ fuel ih =>
      rw [bisectLoop]
      by_cases hlt : lo < hi
      · rw [if_pos hlt]
        cases xs[(lo + hi) / 2]? with
        | none => exact h
        | some v =>
            dsimp only
            split
            · exact ih (by omega)
            · exact (ih (by omega)).trans (by omega)
      · rw [if_neg hlt]
        exact h

/-- Index `r` splits `[lo, hi)`: the interval's elements before `r` pass the test and
those from `r` on do not. -/
structure SplitsAt (left : α → Bool) (xs : List α) (lo hi r : ℕ) : Prop where
  lo_le : lo ≤ r
  le_hi : r ≤ hi
  before : ∀ {i : ℕ} {v : α}, xs[i]? = some v → lo ≤ i → i < r → left v = true
  after : ∀ {i : ℕ} {v : α}, xs[i]? = some v → r ≤ i → i < hi → left v = false

/-- The test holds on an initial part of the list only. -/
def LeftClosed (left : α → Bool) (xs : List α) : Prop :=
  ∀ {i j : ℕ} {v w : α}, i ≤ j → xs[i]? = some v → xs[j]? = some w →
    left w = true → left v = true

/-- An interval has at most one split. -/
theorem SplitsAt.unique {left : α → Bool} {xs : List α} {lo hi r s : ℕ}
    (hr : SplitsAt left xs lo hi r) (hs : SplitsAt left xs lo hi s)
    (hhi : hi ≤ xs.length) : r = s := by
  by_contra hne
  rcases Nat.lt_or_gt_of_ne hne with h | h
  · have hlt : r < xs.length := by have := hs.le_hi; omega
    have hv : xs[r]? = some xs[r] := List.getElem?_eq_getElem hlt
    have h1 := hs.before hv hr.lo_le h
    have h2 := hr.after hv le_rfl (by have := hs.le_hi; omega)
    simp [h1] at h2
  · have hlt : s < xs.length := by have := hr.le_hi; omega
    have hv : xs[s]? = some xs[s] := List.getElem?_eq_getElem hlt
    have h1 := hr.before hv hs.lo_le h
    have h2 := hs.after hv le_rfl (by have := hr.le_hi; omega)
    simp [h1] at h2

/-- **The bisection loop finds the split** of its interval, given fuel for the interval's
length. Induction on the fuel: either half is shorter, and the middle element decides
on which side the split lies. -/
theorem bisectLoop_splitsAt {left : α → Bool} {xs : List α} (hmono : LeftClosed left xs) :
    ∀ {fuel lo hi : ℕ}, lo ≤ hi → hi ≤ xs.length → hi - lo ≤ fuel →
      SplitsAt left xs lo hi (bisectLoop left xs fuel lo hi) := by
  intro fuel
  induction fuel with
  | zero =>
      intro lo hi hle _ hfuel
      have hlo : hi = lo := by omega
      subst hlo
      rw [bisectLoop]
      exact ⟨le_rfl, le_rfl, fun _ _ _ => by omega, fun _ _ _ => by omega⟩
  | succ fuel ih =>
      intro lo hi hle hlen hfuel
      by_cases hlt : lo < hi
      · have hm : (lo + hi) / 2 < xs.length := by omega
        have hv : xs[(lo + hi) / 2]? = some xs[(lo + hi) / 2] :=
          List.getElem?_eq_getElem hm
        rw [bisectLoop, if_pos hlt, hv]
        by_cases hleft : left xs[(lo + hi) / 2] = true
        · have hs := @ih ((lo + hi) / 2 + 1) hi (by omega) hlen (by omega)
          simp only [hleft, if_true]
          have h1 := hs.lo_le
          refine ⟨by omega, hs.le_hi, fun {i v} hi' hlo hir => ?_, hs.after⟩
          by_cases hmid : i ≤ (lo + hi) / 2
          · exact hmono hmid hi' hv hleft
          · exact hs.before hi' (by omega) hir
        · have hs := @ih lo ((lo + hi) / 2) (by omega) (by omega) (by omega)
          simp only [hleft, Bool.false_eq_true, if_false]
          have h1 := hs.le_hi
          refine ⟨hs.lo_le, by omega, hs.before, fun {i v} hi' hri hihi => ?_⟩
          by_cases hmid : i < (lo + hi) / 2
          · exact hs.after hi' hri hmid
          · by_contra hc
            exact hleft (hmono (Nat.le_of_not_lt hmid) hv hi' (by simpa using hc))
      · have hlo : lo = hi := by omega
        subst hlo
        rw [bisectLoop, if_neg hlt]
        exact ⟨le_rfl, le_rfl, fun _ _ _ => by omega, fun _ _ _ => by omega⟩

/-! ### The two searches -/

variable [LinearOrder α]

/-- `bisect_left`: the first index of `[lo, hi)` whose element is at least `x`. -/
def bisectLeft (xs : List α) (x : α) (lo hi : ℕ) : ℕ :=
  bisectLoop (fun v => decide (v < x)) xs (hi - lo) lo hi

/-- `bisect_right`: the first index of `[lo, hi)` whose element is greater than `x`. -/
def bisectRight (xs : List α) (x : α) (lo hi : ℕ) : ℕ :=
  bisectLoop (fun v => !decide (x < v)) xs (hi - lo) lo hi

theorem bisectRight_le (xs : List α) (x : α) {lo hi : ℕ} (h : lo ≤ hi) :
    bisectRight xs x lo hi ≤ hi :=
  bisectLoop_le h

/-- Positions of a sorted list are ordered as their elements. -/
theorem getElem?_le_of_le {xs : List α} (hs : xs.Pairwise (· ≤ ·)) {i j : ℕ} {v w : α}
    (hij : i ≤ j) (hv : xs[i]? = some v) (hw : xs[j]? = some w) : v ≤ w := by
  obtain ⟨hi, rfl⟩ := List.getElem?_eq_some_iff.mp hv
  obtain ⟨hj, rfl⟩ := List.getElem?_eq_some_iff.mp hw
  rcases Nat.lt_or_eq_of_le hij with h | rfl
  · exact List.pairwise_iff_getElem.mp hs i j hi hj h
  · exact le_rfl

theorem bisectLeft_splitsAt {xs : List α} (hs : xs.Pairwise (· ≤ ·)) (x : α) {lo hi : ℕ}
    (hle : lo ≤ hi) (hhi : hi ≤ xs.length) :
    SplitsAt (fun v => decide (v < x)) xs lo hi (bisectLeft xs x lo hi) := by
  refine bisectLoop_splitsAt (fun hij hv hw hlt => ?_) hle hhi le_rfl
  exact decide_eq_true
    (lt_of_le_of_lt (getElem?_le_of_le hs hij hv hw) (of_decide_eq_true hlt))

theorem bisectRight_splitsAt {xs : List α} (hs : xs.Pairwise (· ≤ ·)) (x : α) {lo hi : ℕ}
    (hle : lo ≤ hi) (hhi : hi ≤ xs.length) :
    SplitsAt (fun v => !decide (x < v)) xs lo hi (bisectRight xs x lo hi) := by
  refine bisectLoop_splitsAt (fun hij hv hw hlt => ?_) hle hhi le_rfl
  have hle' := getElem?_le_of_le hs hij hv hw
  simp only [Bool.not_eq_eq_eq_not, Bool.not_true, decide_eq_false_iff_not, not_lt] at hlt ⊢
  exact hle'.trans hlt

/-- A left bisection that ends within a list ends there too when elements are added after it. -/
theorem bisectLeft_append {xs ys : List α} (hs : (xs ++ ys).Pairwise (· ≤ ·)) {x : α} {lo : ℕ}
    (hlo : lo ≤ xs.length) (hlt : bisectLeft xs x lo xs.length < xs.length) :
    bisectLeft (xs ++ ys) x lo (xs ++ ys).length = bisectLeft xs x lo xs.length := by
  have hlen : xs.length ≤ (xs ++ ys).length := by simp
  have hshort := bisectLeft_splitsAt (List.pairwise_append.mp hs).1 x hlo le_rfl
  have hlong := bisectLeft_splitsAt hs x (hlo.trans hlen) le_rfl
  generalize bisectLeft xs x lo xs.length = r at hlt hshort ⊢
  refine hlong.unique ⟨hshort.lo_le, by omega, fun {i v} hv hi hir => ?_, fun {i v} hv hri _ => ?_⟩
    le_rfl
  · rw [List.getElem?_append_left (by omega)] at hv
    exact hshort.before hv hi hir
  · -- the element at the split is not less than `x`, so neither is a later one
    have hr : xs[r]? = some xs[r] := List.getElem?_eq_getElem hlt
    have hnot := hshort.after hr le_rfl hlt
    rw [decide_eq_false_iff_not, not_lt] at hnot ⊢
    have hr' : (xs ++ ys)[r]? = some xs[r] := (List.getElem?_append_left hlt).trans hr
    exact hnot.trans (getElem?_le_of_le hs hri hr' hv)

/-! ### Sorted updates -/

/-- `insort`: insert after every element that is at most `x`. -/
def insort (xs : List α) (x : α) : List α :=
  xs.take (bisectRight xs x 0 xs.length) ++ x :: xs.drop (bisectRight xs x 0 xs.length)

/-- Remove `x` at the index a left bisection finds, when it is there. -/
def discard (xs : List α) (x : α) : List α :=
  if xs[bisectLeft xs x 0 xs.length]? = some x then
    xs.eraseIdx (bisectLeft xs x 0 xs.length)
  else xs

/-- Inserting adds exactly the element. -/
theorem mem_insort {xs : List α} {x y : α} : y ∈ insort xs x ↔ y = x ∨ y ∈ xs := by
  conv_rhs => rw [← List.take_append_drop (bisectRight xs x 0 xs.length) xs]
  simp only [insort, List.mem_append, List.mem_cons]
  tauto

/-- Inserting a new element keeps a strictly ascending list strictly ascending. -/
theorem insort_pairwise_lt {xs : List α} (hs : xs.Pairwise (· < ·)) {x : α}
    (hx : x ∉ xs) : (insort xs x).Pairwise (· < ·) := by
  have hsp := bisectRight_splitsAt (hs.imp le_of_lt) x (Nat.zero_le _) (le_refl xs.length)
  rw [insort]
  set r := bisectRight xs x 0 xs.length
  have hbefore : ∀ y ∈ xs.take r, y < x := by
    intro y hy
    obtain ⟨i, hi, rfl⟩ := List.mem_take_iff_getElem.mp hy
    have hv := List.getElem?_eq_getElem (l := xs) (i := i) (by omega)
    have hle := hsp.before hv (Nat.zero_le _) (by omega)
    refine lt_of_le_of_ne (by simpa using hle) fun heq => hx ?_
    exact heq ▸ List.getElem_mem _
  have hafter : ∀ y ∈ xs.drop r, x < y := by
    intro y hy
    obtain ⟨i, hi, rfl⟩ := List.mem_drop_iff_getElem.mp hy
    have hv := List.getElem?_eq_getElem (l := xs) (i := r + i) (by omega)
    have hlt := hsp.after hv (by omega) (by omega)
    simpa using hlt
  rw [List.pairwise_append, List.pairwise_cons]
  refine ⟨hs.sublist (List.take_sublist _ _), ⟨hafter, hs.sublist (List.drop_sublist _ _)⟩,
    fun y hy z hz => ?_⟩
  rcases List.mem_cons.mp hz with rfl | hz
  · exact hbefore y hy
  · exact (hbefore y hy).trans (hafter z hz)

/-- Removal by bisection removes exactly the element. -/
theorem discard_eq_filter {xs : List α} (hs : xs.Pairwise (· < ·)) (x : α) :
    discard xs x = xs.filter fun y => y ≠ x := by
  have hsp := bisectLeft_splitsAt (hs.imp le_of_lt) x (Nat.zero_le _) (le_refl xs.length)
  have hnodup : xs.Nodup := hs.imp ne_of_lt
  rw [discard]
  set r := bisectLeft xs x 0 xs.length
  split
  · rename_i hr
    obtain ⟨hlt, hrx⟩ := List.getElem?_eq_some_iff.mp hr
    rw [← List.Nodup.erase_getElem hnodup r hlt, hrx, hnodup.erase_eq_filter]
    congr 1
    funext y
    by_cases hy : y = x <;> simp [hy]
  · rename_i hr
    refine (List.filter_eq_self.mpr fun y hy => ?_).symm
    obtain ⟨i, hi, rfl⟩ := List.getElem_of_mem hy
    have hv := List.getElem?_eq_getElem hi
    refine decide_eq_true fun hyx => hr ?_
    -- an element equal to `x` sits exactly at the split
    have hri : r ≤ i := by
      by_contra hc
      have := hsp.before hv (Nat.zero_le _) (by omega)
      simp [hyx] at this
    have hir : i ≤ r := by
      by_contra hc
      have hvr := List.getElem?_eq_getElem (l := xs) (i := r) (by omega)
      have hge := hsp.after hvr le_rfl (by omega)
      have hltx := List.pairwise_iff_getElem.mp hs r i (by omega) hi (by omega)
      simp only [decide_eq_false_iff_not, not_lt] at hge
      exact absurd (hyx ▸ hltx) (not_lt.mpr hge)
    rw [le_antisymm hri hir, hv, hyx]

/-! ### Linear scans -/

/-- The first index from `lo` on whose element is at least `x`, one index after the other. -/
def firstAtOrAfter (xs : List α) (x : α) (lo : ℕ) : Option ℕ :=
  (List.range' lo (xs.length - lo)).find? fun j => xs[j]?.any fun y => decide (x ≤ y)

/-- The last index before `hi` whose element is at most `x`, one index after the other. -/
def lastAtOrBefore (xs : List α) (x : α) (hi : ℕ) : Option ℕ :=
  (List.range hi).reverse.find? fun j => xs[j]?.any fun y => decide (y ≤ x)

/-- The indices from `lo` on whose elements are at least `x`. -/
def indicesAtOrAfter (xs : List α) (x : α) (lo : ℕ) : Set ℕ :=
  {j | lo ≤ j ∧ ∃ y, xs[j]? = some y ∧ x ≤ y}

/-- The indices before `hi` whose elements are at most `x`. -/
def indicesAtOrBefore (xs : List α) (x : α) (hi : ℕ) : Set ℕ :=
  {j | j < hi ∧ ∃ y, xs[j]? = some y ∧ y ≤ x}

/-- The first scan finds the least such index. -/
theorem firstAtOrAfter_eq_some_iff {xs : List α} {x : α} {lo j : ℕ} :
    firstAtOrAfter xs x lo = some j ↔ IsLeast (indicesAtOrAfter xs x lo) j := by
  rw [firstAtOrAfter, List.find?_range'_eq_some]
  simp only [Option.any_eq_true, decide_eq_true_eq, List.mem_range'_1]
  constructor
  · rintro ⟨⟨y, hy, hle⟩, ⟨hlo, -⟩, hfirst⟩
    refine ⟨⟨hlo, y, hy, hle⟩, fun k hk => ?_⟩
    obtain ⟨hlok, z, hz, hlez⟩ := hk
    by_contra hlt
    have hno := hfirst k hlok (by omega)
    rw [hz] at hno
    simp [hlez] at hno
  · rintro ⟨⟨hlo, y, hy, hle⟩, hleast⟩
    have hlt := (List.getElem?_eq_some_iff.mp hy).1
    refine ⟨⟨y, hy, hle⟩, ⟨hlo, by omega⟩, fun k hlok hkj => ?_⟩
    cases hk : xs[k]? with
    | none => rfl
    | some z =>
        by_cases hlez : x ≤ z
        · have hjk : j ≤ k := hleast ⟨hlok, z, hk, hlez⟩
          omega
        · simp [hlez]

theorem firstAtOrAfter_eq_none_iff {xs : List α} {x : α} {lo : ℕ} :
    firstAtOrAfter xs x lo = none ↔ indicesAtOrAfter xs x lo = ∅ := by
  rw [firstAtOrAfter, List.find?_range'_eq_none, Set.eq_empty_iff_forall_notMem]
  constructor
  · rintro h j ⟨hlo, y, hy, hle⟩
    have hlt := (List.getElem?_eq_some_iff.mp hy).1
    have hno := h j hlo (by omega)
    simp [hy, hle] at hno
  · intro h j hlo _
    cases hj : xs[j]? with
    | none => rfl
    | some y =>
        have hnot : ¬ x ≤ y := fun hle => h j ⟨hlo, y, hj, hle⟩
        simp [hnot]

/-- In a sorted list the first scan, from an element on that is too small, fails exactly when the
last element is too small. -/
theorem firstAtOrAfter_eq_none_iff_last {xs : List α} (hs : xs.Pairwise (· ≤ ·)) {t x last : α}
    {i : ℕ} (ht : xs[i]? = some t) (htx : t < x) (hlast : xs.getLast? = some last) :
    firstAtOrAfter xs x (i + 1) = none ↔ last < x := by
  have hi := (List.getElem?_eq_some_iff.mp ht).1
  rw [firstAtOrAfter_eq_none_iff, Set.eq_empty_iff_forall_notMem]
  rw [List.getLast?_eq_getElem?] at hlast
  constructor
  · intro h
    by_contra hle
    refine h (xs.length - 1) ⟨?_, last, hlast, not_lt.mp hle⟩
    by_contra hlt
    have hsame : i = xs.length - 1 := by omega
    rw [← hsame, ht] at hlast
    exact hle (Option.some.inj hlast ▸ htx)
  · rintro hlt j ⟨-, y, hy, hle⟩
    have hj := (List.getElem?_eq_some_iff.mp hy).1
    have hyl := getElem?_le_of_le hs (Nat.le_sub_one_of_lt hj) hy hlast
    exact absurd (hle.trans hyl) (not_le.mpr hlt)

/-- The second scan finds the greatest such index. -/
theorem lastAtOrBefore_eq_some_iff {xs : List α} {x : α} {hi j : ℕ} :
    lastAtOrBefore xs x hi = some j ↔ IsGreatest (indicesAtOrBefore xs x hi) j := by
  induction hi with
  | zero => simp [lastAtOrBefore, indicesAtOrBefore, IsGreatest]
  | succ hi ih =>
      have hstep : lastAtOrBefore xs x (hi + 1) =
          if (xs[hi]?.any fun y => decide (y ≤ x)) = true then some hi
          else lastAtOrBefore xs x hi := by
        rw [lastAtOrBefore, List.range_succ, List.reverse_append, List.reverse_singleton,
          List.singleton_append, List.find?_cons]
        cases xs[hi]?.any fun y => decide (y ≤ x) <;> rfl
      rw [hstep]
      split
      · rename_i hat
        simp only [Option.any_eq_true, decide_eq_true_eq] at hat
        obtain ⟨y, hy, hle⟩ := hat
        have hgreatest : IsGreatest (indicesAtOrBefore xs x (hi + 1)) hi :=
          ⟨⟨Nat.lt_succ_self hi, y, hy, hle⟩, fun k hk => Nat.le_of_lt_succ hk.1⟩
        constructor
        · intro h
          exact Option.some.inj h ▸ hgreatest
        · intro h
          rw [hgreatest.unique h]
      · rename_i hat
        have hsame : indicesAtOrBefore xs x (hi + 1) = indicesAtOrBefore xs x hi := by
          ext k
          constructor
          · rintro ⟨hlt, y, hy, hle⟩
            refine ⟨?_, y, hy, hle⟩
            rcases Nat.lt_succ_iff_lt_or_eq.mp hlt with h | rfl
            · exact h
            · exact absurd (by simp [hy, hle]) hat
          · rintro ⟨hlt, h⟩
            exact ⟨Nat.lt_succ_of_lt hlt, h⟩
        rw [ih, hsame]

/-- The first scan of a sorted list finds what the left bisection does. -/
theorem firstAtOrAfter_eq {xs : List α} (hs : xs.Pairwise (· ≤ ·)) (x : α) {lo : ℕ}
    (hlo : lo ≤ xs.length) :
    firstAtOrAfter xs x lo =
      if bisectLeft xs x lo xs.length < xs.length then some (bisectLeft xs x lo xs.length)
      else none := by
  have hsp := bisectLeft_splitsAt hs x hlo le_rfl
  split
  · rename_i hlt
    have hat := List.getElem?_eq_getElem hlt
    refine firstAtOrAfter_eq_some_iff.mpr ⟨⟨hsp.lo_le, _, hat, ?_⟩, fun k hk => ?_⟩
    · simpa using hsp.after hat le_rfl hlt
    · obtain ⟨hlok, y, hy, hle⟩ := hk
      by_contra hlt'
      have hbefore := hsp.before hy hlok (by omega)
      simp only [decide_eq_true_eq] at hbefore
      exact absurd hle (not_le.mpr hbefore)
  · rename_i hge
    rw [Option.eq_none_iff_forall_ne_some]
    intro j hj
    obtain ⟨⟨hloj, y, hy, hle⟩, -⟩ := firstAtOrAfter_eq_some_iff.mp hj
    have hlt := (List.getElem?_eq_some_iff.mp hy).1
    have hbefore := hsp.before hy hloj (by omega)
    simp only [decide_eq_true_eq] at hbefore
    exact absurd hle (not_le.mpr hbefore)

/-- The second scan of a sorted list finds the element before the right bisection. -/
theorem lastAtOrBefore_eq {xs : List α} (hs : xs.Pairwise (· ≤ ·)) (x : α) {hi : ℕ}
    (hhi : hi ≤ xs.length) :
    lastAtOrBefore xs x hi =
      match bisectRight xs x 0 hi with
      | 0 => none
      | index + 1 => some index := by
  have hsp := bisectRight_splitsAt hs x (Nat.zero_le hi) hhi
  have hbelow {k : ℕ} {y : α} (hk : k < hi) (hy : xs[k]? = some y) (hle : y ≤ x) :
      k < bisectRight xs x 0 hi := by
    by_contra hge
    have hafter := hsp.after hy (by omega) hk
    simp only [Bool.not_eq_false', decide_eq_true_eq] at hafter
    exact absurd hle (not_le.mpr hafter)
  split
  · rename_i hzero
    rw [Option.eq_none_iff_forall_ne_some]
    intro j hj
    obtain ⟨⟨hlt, y, hy, hle⟩, -⟩ := lastAtOrBefore_eq_some_iff.mp hj
    have hj := hbelow hlt hy hle
    omega
  · rename_i index hindex
    have hlt : index < hi := by
      have hle := hsp.le_hi
      omega
    have hat := List.getElem?_eq_getElem (l := xs) (i := index) (by omega)
    refine lastAtOrBefore_eq_some_iff.mpr ⟨⟨hlt, _, hat, ?_⟩, fun k hk => ?_⟩
    · have hbefore := hsp.before hat (Nat.zero_le _) (by omega)
      simpa using hbefore
    · obtain ⟨hk, y, hy, hle⟩ := hk
      have hlt := hbelow hk hy hle
      omega

end SomethingTrade
