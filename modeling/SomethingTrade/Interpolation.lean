import Mathlib.Algebra.Order.Floor.Semiring
import Mathlib.Data.Rat.Floor
import Mathlib.Tactic.Linarith
import Mathlib.Tactic.Ring

/-!
# Interpolation

A function of the natural numbers is read at a rational position between its values at the two
neighbours. When the function does not decrease, what is read lies between the values at the
neighbours, and does not decrease with the position.

A list is thinned out by keeping the values that are more than a gap away from the last one kept;
of a list that does not decrease the values that are kept strictly increase.

## Main results

* `interpolate_mono`: interpolated values do not decrease.
* `thinned_increasing`: thinned values strictly increase.
-/

namespace SomethingTrade

/-! ### Between two neighbours -/

/-- The value at a position between two neighbours. -/
def interpolate (g : ℕ → ℚ) (position : ℚ) : ℚ :=
  g ⌊position⌋₊ * (1 - (position - ⌊position⌋₊)) + g ⌈position⌉₊ * (position - ⌊position⌋₊)

variable {g : ℕ → ℚ} {p p' : ℚ}

/-- How far a position is from the lower neighbour. -/
theorem fraction_bounds (h : 0 ≤ p) : 0 ≤ p - ⌊p⌋₊ ∧ p - ⌊p⌋₊ < 1 := by
  have hle := Nat.floor_le h
  have hlt := Nat.lt_floor_add_one p
  constructor <;> linarith

/-- The value at a position is that at the lower neighbour and a part of the difference. -/
theorem interpolate_eq (g : ℕ → ℚ) (p : ℚ) :
    interpolate g p = g ⌊p⌋₊ + (p - ⌊p⌋₊) * (g ⌈p⌉₊ - g ⌊p⌋₊) := by
  rw [interpolate]
  ring

theorem le_interpolate (hg : Monotone g) (h : 0 ≤ p) : g ⌊p⌋₊ ≤ interpolate g p := by
  have hneighbours : g ⌊p⌋₊ ≤ g ⌈p⌉₊ := hg (Nat.floor_le_ceil p)
  have hpart := mul_nonneg (fraction_bounds h).1 (sub_nonneg.mpr hneighbours)
  rw [interpolate_eq]
  linarith

theorem interpolate_le (hg : Monotone g) (h : 0 ≤ p) : interpolate g p ≤ g ⌈p⌉₊ := by
  have hneighbours : g ⌊p⌋₊ ≤ g ⌈p⌉₊ := hg (Nat.floor_le_ceil p)
  have hpart := mul_le_of_le_one_left (sub_nonneg.mpr hneighbours) (fraction_bounds h).2.le
  rw [interpolate_eq]
  linarith

/-- **Interpolated values do not decrease.** Positions between different neighbours are apart;
between the same ones the value is linear. -/
theorem interpolate_mono (hg : Monotone g) (h : 0 ≤ p) (hle : p ≤ p') :
    interpolate g p ≤ interpolate g p' := by
  rcases (Nat.floor_mono hle).lt_or_eq with hlt | heq
  · have hbetween : ⌈p⌉₊ ≤ ⌊p'⌋₊ := (Nat.ceil_le_floor_add_one p).trans hlt
    exact ((interpolate_le hg h).trans (hg hbetween)).trans (le_interpolate hg (h.trans hle))
  · have hpart : p - ⌊p⌋₊ ≤ p' - ⌊p⌋₊ := by linarith
    have hceil : g ⌈p⌉₊ ≤ g ⌈p'⌉₊ := hg (Nat.ceil_mono hle)
    have hdiff : 0 ≤ g ⌈p'⌉₊ - g ⌊p⌋₊ :=
      sub_nonneg.mpr (hg ((Nat.floor_le_ceil p).trans (Nat.ceil_mono hle)))
    rw [interpolate_eq, interpolate_eq, ← heq]
    have hfirst : (p - ⌊p⌋₊) * (g ⌈p⌉₊ - g ⌊p⌋₊) ≤ (p - ⌊p⌋₊) * (g ⌈p'⌉₊ - g ⌊p⌋₊) :=
      mul_le_mul_of_nonneg_left (by linarith) (fraction_bounds h).1
    have hsecond := mul_le_mul_of_nonneg_right hpart hdiff
    linarith

/-! ### Thinning out -/

/-- Keep a value that is more than a gap away from the last one kept. -/
def keepApart (gap : ℚ) (kept : List ℚ) (value : ℚ) : List ℚ :=
  if kept.getLast?.all fun last => |value - last| > gap then kept ++ [value] else kept

/-- The values that are kept of a list. -/
def thinned (gap : ℚ) (values : List ℚ) : List ℚ := values.foldl (keepApart gap) []

/-- A value that is kept is greater than all kept before, when it is not less than any. -/
theorem lt_of_kept {gap value : ℚ} (hgap : 0 ≤ gap) {kept : List ℚ} (hkept : kept.Pairwise (· < ·))
    (hbelow : ∀ k ∈ kept, k ≤ value)
    (h : kept.getLast?.all (fun last => |value - last| > gap) = true) : ∀ k ∈ kept, k < value := by
  intro k hk
  rcases List.eq_nil_or_concat kept with rfl | ⟨init, last, rfl⟩
  · cases hk
  rw [List.concat_eq_append] at *
  rw [List.getLast?_append, List.getLast?_singleton, Option.some_or, Option.all_some,
    decide_eq_true_eq] at h
  have hlast : last < value := by
    refine lt_of_le_of_ne (hbelow last (by simp)) fun heq => ?_
    rw [heq, sub_self, abs_zero] at h
    linarith
  rcases List.mem_append.mp hk with hk | hk
  · exact ((List.pairwise_append.mp hkept).2.2 k hk last (by simp)).trans hlast
  · exact List.mem_singleton.mp hk ▸ hlast

/-- **Thinned values strictly increase.** The induction is on the values that are left, none of
which is less than one that was kept. -/
theorem thinned_increasing {gap : ℚ} (hgap : 0 ≤ gap) {values : List ℚ}
    (h : values.Pairwise (· ≤ ·)) : (thinned gap values).Pairwise (· < ·) := by
  have hkept : ∀ (values kept : List ℚ), values.Pairwise (· ≤ ·) → kept.Pairwise (· < ·) →
      (∀ k ∈ kept, ∀ v ∈ values, k ≤ v) →
        (values.foldl (keepApart gap) kept).Pairwise (· < ·) := by
    intro values
    induction values with
    | nil => exact fun _ _ hkept _ => hkept
    | cons value values ih =>
        intro kept hvalues hkept hbelow
        obtain ⟨hvalue, hvalues⟩ := List.pairwise_cons.mp hvalues
        rw [List.foldl_cons, keepApart]
        split
        · rename_i hall
          have hlt := lt_of_kept hgap hkept (fun k hk => hbelow k hk value List.mem_cons_self) hall
          refine ih _ hvalues ?_ ?_
          · rw [List.pairwise_append]
            exact ⟨hkept, List.pairwise_singleton _ _, by simpa using hlt⟩
          · intro k hk v hv
            rcases List.mem_append.mp hk with hk | hk
            · exact hbelow k hk v (List.mem_cons_of_mem _ hv)
            · rw [List.mem_singleton.mp hk]
              exact hvalue v hv
        · exact ih _ hvalues hkept fun k hk v hv => hbelow k hk v (List.mem_cons_of_mem _ hv)
  exact hkept values [] h .nil (by simp)

end SomethingTrade
