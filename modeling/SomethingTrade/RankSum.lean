import Mathlib.Algebra.BigOperators.Group.List.Lemmas
import Mathlib.Algebra.Order.BigOperators.Group.List
import Mathlib.Algebra.Order.Field.Rat
import Mathlib.Data.List.ProdSigma
import Mathlib.Tactic.Linarith
import Mathlib.Tactic.Ring

/-!
# Comparing Two Groups of Values

Each value of one group is compared with each value of another. A win counts one and a tie one
half, so what two groups win over each other adds up to the number of comparisons
(`wins_add_swap`), and a group wins half of the comparisons with itself (`wins_self`).

## Main results

* `wins_eq_countP`: the wins are the pairs won and half the pairs tied.
* `wins_add_swap`: two groups share the comparisons.
* `wins_perm`: the order within the groups does not matter.
-/

namespace SomethingTrade

universe u

variable {α : Type u} [LinearOrder α]

/-- What a value wins over another: one when it is higher, one half when they are equal. -/
def winOver (x y : α) : ℚ := if y < x then 1 else if x = y then 1 / 2 else 0

/-- What the values of a group win over those of another. -/
def wins (xs ys : List α) : ℚ := (xs.map fun x => (ys.map (winOver x)).sum).sum

/-! ### One comparison -/

theorem winOver_of_gt {x y : α} (h : y < x) : winOver x y = 1 := if_pos h

theorem winOver_of_lt {x y : α} (h : x < y) : winOver x y = 0 := by
  rw [winOver, if_neg h.asymm, if_neg h.ne]

@[simp] theorem winOver_self (x : α) : winOver x x = 1 / 2 := by
  rw [winOver, if_neg (lt_irrefl x), if_pos rfl]

/-- Of a comparison each side wins what the other does not. -/
theorem winOver_add_swap (x y : α) : winOver x y + winOver y x = 1 := by
  rcases lt_trichotomy x y with h | rfl | h
  · rw [winOver_of_lt h, winOver_of_gt h, zero_add]
  · rw [winOver_self]
    norm_num
  · rw [winOver_of_gt h, winOver_of_lt h, add_zero]

theorem winOver_nonneg (x y : α) : 0 ≤ winOver x y := by
  rw [winOver]
  split
  · exact zero_le_one
  · split <;> norm_num

/-! ### Groups -/

@[simp] theorem wins_nil (ys : List α) : wins [] ys = 0 := rfl

theorem wins_cons (x : α) (xs ys : List α) :
    wins (x :: xs) ys = (ys.map (winOver x)).sum + wins xs ys := rfl

theorem wins_cons_right (xs : List α) (y : α) (ys : List α) :
    wins xs (y :: ys) = (xs.map fun x => winOver x y).sum + wins xs ys := by
  simp only [wins, List.map_cons, List.sum_cons, List.sum_map_add]

theorem wins_append (xs xs' ys : List α) : wins (xs ++ xs') ys = wins xs ys + wins xs' ys := by
  rw [wins, List.map_append, List.sum_append]
  rfl

theorem wins_append_right (xs ys ys' : List α) :
    wins xs (ys ++ ys') = wins xs ys + wins xs ys' := by
  simp only [wins, List.map_append, List.sum_append, List.sum_map_add]

/-- **Two groups share the comparisons of their values.** Induction on the first group: its head
shares one comparison with each value of the other. -/
theorem wins_add_swap (xs ys : List α) :
    wins xs ys + wins ys xs = (xs.length : ℚ) * ys.length := by
  induction xs with
  | nil => simp [wins]
  | cons x xs ih =>
      have hhead : (ys.map (winOver x)).sum + (ys.map fun y => winOver y x).sum = ys.length := by
        rw [← List.sum_map_add]
        simp [winOver_add_swap]
      rw [wins_cons, wins_cons_right, List.length_cons]
      push_cast
      linarith

/-- A group wins half of the comparisons with itself. -/
theorem wins_self (xs : List α) : wins xs xs = (xs.length : ℚ) * xs.length / 2 := by
  have hshare := wins_add_swap xs xs
  linarith

theorem wins_nonneg (xs ys : List α) : 0 ≤ wins xs ys := by
  refine List.sum_nonneg fun total htotal => ?_
  obtain ⟨x, -, rfl⟩ := List.mem_map.mp htotal
  refine List.sum_nonneg fun win hwin => ?_
  obtain ⟨y, -, rfl⟩ := List.mem_map.mp hwin
  exact winOver_nonneg x y

theorem wins_le (xs ys : List α) : wins xs ys ≤ (xs.length : ℚ) * ys.length := by
  have hshare := wins_add_swap xs ys
  have hnonneg := wins_nonneg ys xs
  linarith

/-- The order within the groups does not matter. -/
theorem wins_perm {xs xs' ys ys' : List α} (hxs : xs.Perm xs') (hys : ys.Perm ys') :
    wins xs ys = wins xs' ys' := by
  have hright (x : α) : (ys.map (winOver x)).sum = (ys'.map (winOver x)).sum :=
    (hys.map _).sum_eq
  simp only [wins, hright]
  exact (hxs.map _).sum_eq

/-- A group of one value wins half of the comparisons with others of this value. -/
theorem wins_of_eq {xs ys : List α} (h : ∀ x ∈ xs, ∀ y ∈ ys, x = y) :
    wins xs ys = (xs.length : ℚ) * ys.length / 2 := by
  induction xs with
  | nil => simp
  | cons x xs ih =>
      obtain ⟨hx, hxs⟩ := List.forall_mem_cons.mp h
      have hhead : ys.map (winOver x) = List.replicate ys.length (1 / 2) := by
        refine List.eq_replicate_iff.mpr ⟨List.length_map _, fun win hwin => ?_⟩
        obtain ⟨y, hy, rfl⟩ := List.mem_map.mp hwin
        rw [hx y hy, winOver_self]
      rw [wins_cons, ih hxs, hhead, List.sum_replicate, nsmul_eq_mul, List.length_cons]
      push_cast
      ring

/-- A group of lower values wins nothing. -/
theorem wins_of_lt {xs ys : List α} (h : ∀ x ∈ xs, ∀ y ∈ ys, x < y) : wins xs ys = 0 := by
  refine List.sum_eq_zero fun total htotal => ?_
  obtain ⟨x, hx, rfl⟩ := List.mem_map.mp htotal
  refine List.sum_eq_zero fun win hwin => ?_
  obtain ⟨y, hy, rfl⟩ := List.mem_map.mp hwin
  exact winOver_of_lt (h x hx y hy)

/-- A group of higher values wins every comparison. -/
theorem wins_of_gt {xs ys : List α} (h : ∀ x ∈ xs, ∀ y ∈ ys, y < x) :
    wins xs ys = (xs.length : ℚ) * ys.length := by
  have hshare := wins_add_swap xs ys
  have hnone : wins ys xs = 0 := wins_of_lt fun y hy x hx => h x hx y hy
  linarith

/-- **The wins are the pairs won and half the pairs tied.** -/
theorem wins_eq_countP (xs ys : List α) :
    wins xs ys = ((xs ×ˢ ys).countP fun e => decide (e.2 < e.1) : ℕ) +
      ((xs ×ˢ ys).countP fun e => decide (e.1 = e.2) : ℕ) / (2 : ℚ) := by
  induction xs with
  | nil => simp
  | cons x xs ih =>
      have hhead : (ys.map (winOver x)).sum = (ys.countP fun y => decide (y < x) : ℕ) +
          (ys.countP fun y => decide (x = y) : ℕ) / (2 : ℚ) := by
        clear ih
        induction ys with
        | nil => simp
        | cons y ys ih =>
            rw [List.map_cons, List.sum_cons, ih, List.countP_cons, List.countP_cons]
            rcases lt_trichotomy x y with h | rfl | h
            · simp [winOver_of_lt h, h.asymm, h.ne]
            · simp
              ring
            · simp [winOver_of_gt h, h, h.ne']
              ring
      rw [wins_cons, hhead, ih, List.product_cons, List.countP_append, List.countP_append,
        List.countP_map, List.countP_map]
      push_cast
      simp only [Function.comp_def]
      ring

/-- Values in reversed order win what the others won. -/
theorem wins_map_of_anti {β : Type*} [LinearOrder β] {f : α → β} (hf : StrictAnti f)
    (xs ys : List α) : wins (xs.map f) (ys.map f) = wins ys xs := by
  have hone (x y : α) : winOver (f x) (f y) = winOver y x := by
    rcases lt_trichotomy x y with h | rfl | h
    · rw [winOver_of_gt (hf h), winOver_of_gt h]
    · rw [winOver_self, winOver_self]
    · rw [winOver_of_lt (hf h), winOver_of_lt h]
  induction xs with
  | nil => simp [wins]
  | cons x xs ih =>
      rw [List.map_cons, wins_cons, ih, wins_cons_right, List.map_map]
      simp only [Function.comp_def, hone]

end SomethingTrade
