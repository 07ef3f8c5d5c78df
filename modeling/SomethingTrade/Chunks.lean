import Mathlib.Data.List.Basic
import Mathlib.Data.List.Perm.Basic
import Mathlib.Tactic.Ring

/-!
# Cutting a List into Chunks

A list is cut into a number of chunks at scaled indices: the chunk at an index starts where the
index, scaled from the number of chunks to the length of the list, rounds down to. The chunks in
their order make up the list, and no two of their lengths differ by more than one. A list that is
shorter than the number of chunks leaves some of them empty, the first one among them.

## Main results

* `flatten_chunks`: the chunks make up the list.
* `length_of_mem_chunks`: the length of a chunk is the quotient, or one more.
* `nil_mem_chunks_iff`: there is an empty chunk exactly when the list is too short.
-/

namespace SomethingTrade

universe u

variable {α : Type u}

/-- The rows from an index up to another. -/
def slice (rows : List α) (start stop : ℕ) : List α := (rows.take stop).drop start

/-- Cut rows into chunks. -/
def chunks (rows : List α) (count : ℕ) : List (List α) :=
  (List.range count).map fun index =>
    slice rows (index * rows.length / count) ((index + 1) * rows.length / count)

/-- Filtering numbered rows filters the rows. -/
theorem map_fst_zipIdx_filter (rows : List α) (p : α → Bool) :
    ((rows.zipIdx.filter fun e => p e.1).map Prod.fst) = rows.filter p := by
  conv_rhs => rw [← List.zipIdx_map_fst 0 rows]
  rw [List.filter_map]
  rfl

/-- A slice continues what comes before it. -/
theorem take_append_slice (rows : List α) {start stop : ℕ} (h : start ≤ stop) :
    rows.take start ++ slice rows start stop = rows.take stop := by
  have hsplit := List.take_append_drop start (rows.take stop)
  rw [List.take_take, min_eq_left h] at hsplit
  exact hsplit

theorem length_slice (rows : List α) {start stop : ℕ} (h : stop ≤ rows.length) :
    (slice rows start stop).length = stop - start := by
  rw [slice, List.length_drop, List.length_take, min_eq_left h]

/-- Scaled indices do not decrease. -/
theorem scaled_le (n count index : ℕ) : index * n / count ≤ (index + 1) * n / count :=
  Nat.div_le_div_right (Nat.mul_le_mul_right n (Nat.le_succ index))

/-- The scaled index after the last one is the length of the list. -/
theorem scaled_le_length {n count index : ℕ} (h : index < count) :
    (index + 1) * n / count ≤ n := by
  calc (index + 1) * n / count ≤ count * n / count :=
        Nat.div_le_div_right (Nat.mul_le_mul_right n h)
    _ = n := Nat.mul_div_cancel_left n (by omega)

/-- The first chunks make up the list up to the scaled index. The induction is on their number:
each chunk starts where the one before it stopped. -/
theorem flatten_slices (rows : List α) (count stop : ℕ) :
    ((List.range stop).map fun index =>
      slice rows (index * rows.length / count) ((index + 1) * rows.length / count)).flatten =
        rows.take (stop * rows.length / count) := by
  induction stop with
  | zero => simp
  | succ stop ih =>
      rw [List.range_succ, List.map_append, List.flatten_append, ih, List.map_singleton,
        List.flatten_singleton]
      exact take_append_slice rows (scaled_le rows.length count stop)

/-- **The chunks make up the list.** -/
theorem flatten_chunks (rows : List α) {count : ℕ} (h : 0 < count) :
    (chunks rows count).flatten = rows := by
  rw [chunks, flatten_slices, Nat.mul_div_cancel_left _ h, List.take_length]

/-- **The length of a chunk is the quotient or one more**: adding a whole length to an index
before it is scaled adds the quotient, and at most one from the remainders. -/
theorem length_of_mem_chunks {rows : List α} {count : ℕ} {chunk : List α}
    (h : chunk ∈ chunks rows count) :
    chunk.length = rows.length / count ∨ chunk.length = rows.length / count + 1 := by
  obtain ⟨index, hindex, rfl⟩ := List.mem_map.mp h
  have hlt := List.mem_range.mp hindex
  rw [length_slice rows (scaled_le_length hlt), Nat.add_mul, Nat.one_mul,
    Nat.add_div (by omega)]
  generalize index * rows.length / count = before
  generalize rows.length / count = quotient
  split <;> omega

/-- No chunk is longer than another one by more than one. -/
theorem length_chunks_le {rows : List α} {count : ℕ} {first second : List α}
    (hfirst : first ∈ chunks rows count) (hsecond : second ∈ chunks rows count) :
    first.length ≤ second.length + 1 := by
  rcases length_of_mem_chunks hfirst with h | h <;> rcases length_of_mem_chunks hsecond with h' | h'
    <;> omega

/-- **There is an empty chunk exactly when the list is too short**; then the first one is. -/
theorem nil_mem_chunks_iff {rows : List α} {count : ℕ} (h : 0 < count) :
    [] ∈ chunks rows count ↔ rows.length < count := by
  constructor
  · intro hmem
    rcases length_of_mem_chunks hmem with hlength | hlength
    · rw [List.length_nil, eq_comm, Nat.div_eq_zero_iff] at hlength
      omega
    · simp at hlength
  · intro hshort
    refine List.mem_map.mpr ⟨0, List.mem_range.mpr h, ?_⟩
    rw [slice, Nat.zero_mul, Nat.zero_div, List.drop_zero, zero_add, one_mul,
      Nat.div_eq_of_lt hshort, List.take_zero]

end SomethingTrade
