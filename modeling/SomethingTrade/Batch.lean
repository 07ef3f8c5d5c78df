import Mathlib.Data.List.Basic

/-!
# Batches of Fallible Steps

A loop over items whose step changes a state and either yields outputs or fails. A failure
ends the loop; what the items before it and the failing one did to the state stays. `Batch.run`
is the loop, over arbitrary states, items, outputs and errors.

## Main results

* `Batch.run_append`, `Batch.run_flatMap`: a batch in parts, and a batch of batches.
* `Batch.run_invariant`: what every step keeps holds after every batch.
* `Batch.run_stops`: a batch that fails is its items up to the one that fails.
-/

namespace SomethingTrade

namespace Batch

variable {σ ι κ ο ε : Type*}

/-- Apply the items one after the other, up to one that fails. -/
def run (step : σ → ι → σ × Except ε (List ο)) : σ → List ι → σ × Except ε (List ο)
  | s, [] => (s, .ok [])
  | s, i :: is =>
      match step s i with
      | (s, .error e) => (s, .error e)
      | (s, .ok outputs) =>
          let rest := run step s is
          (rest.1, rest.2.map fun more => outputs ++ more)

variable {step : σ → ι → σ × Except ε (List ο)}

@[simp] theorem run_nil (s : σ) : run step s [] = (s, .ok []) := rfl

theorem run_cons_of_error {s s' : σ} {i : ι} {e : ε} (h : step s i = (s', .error e))
    (is : List ι) : run step s (i :: is) = (s', .error e) := by
  rw [run, h]

theorem run_cons_of_ok {s s' : σ} {i : ι} {outputs : List ο} (h : step s i = (s', .ok outputs))
    (is : List ι) :
    run step s (i :: is) =
      ((run step s' is).1, (run step s' is).2.map fun more => outputs ++ more) := by
  rw [run, h]

/-- A batch of one item is its step. -/
theorem run_singleton (s : σ) (i : ι) : run step s [i] = step s i := by
  rcases h : step s i with ⟨s', e | outputs⟩
  · exact run_cons_of_error h []
  · rw [run_cons_of_ok h, run_nil]
    simp [Except.map]

/-- A batch in two parts: the second follows if the first does not fail. -/
theorem run_append (s : σ) (is js : List ι) :
    run step s (is ++ js) =
      match run step s is with
      | (s', .error e) => (s', .error e)
      | (s', .ok outputs) =>
          ((run step s' js).1, (run step s' js).2.map fun more => outputs ++ more) := by
  induction is generalizing s with
  | nil =>
      have hmap : (run step s js).2.map (fun more => [] ++ more) = (run step s js).2 := by
        cases (run step s js).2 <;> rfl
      rw [List.nil_append, run_nil]
      dsimp only
      rw [hmap]
  | cons i is ih =>
      rw [List.cons_append]
      rcases h : step s i with ⟨s', e | outputs⟩
      · rw [run_cons_of_error h, run_cons_of_error h]
      · rw [run_cons_of_ok h, run_cons_of_ok h, ih]
        rcases run step s' is with ⟨t, e | more⟩
        · rfl
        · dsimp only [Except.map]
          rcases (run step t js).2 with e | rest
          · rfl
          · simp [List.append_assoc]

/-- A batch whose items are themselves batches is the batch of all their parts. -/
theorem run_flatMap {part : σ → κ → σ × Except ε (List ο)} {parts : ι → List κ} {is : List ι}
    (h : ∀ i ∈ is, ∀ s, step s i = run part s (parts i)) (s : σ) :
    run step s is = run part s (is.flatMap parts) := by
  induction is generalizing s with
  | nil => rfl
  | cons i is ih =>
      have hrest := ih fun j hj => h j (List.mem_cons_of_mem i hj)
      rw [List.flatMap_cons, run_append, ← h i List.mem_cons_self s]
      rcases hi : step s i with ⟨s', e | outputs⟩
      · exact run_cons_of_error hi is
      · rw [run_cons_of_ok hi, hrest]

/-- Steps that agree on the items make the same batch. -/
theorem run_congr {step' : σ → ι → σ × Except ε (List ο)} {is : List ι}
    (h : ∀ i ∈ is, ∀ s, step s i = step' s i) (s : σ) : run step s is = run step' s is := by
  rw [run_flatMap (fun i hi s => (h i hi s).trans (run_singleton s i).symm),
    List.flatMap_singleton']

/-- A property kept by every step holds after every batch. -/
theorem run_invariant {I : σ → Prop} (hstep : ∀ s i, I s → I (step s i).1) {s : σ} (h : I s)
    (is : List ι) : I (run step s is).1 := by
  induction is generalizing s with
  | nil => exact h
  | cons i is ih =>
      have hi := hstep s i h
      rcases heq : step s i with ⟨s', e | outputs⟩
      · rw [heq] at hi
        rwa [run_cons_of_error heq]
      · rw [heq] at hi
        rw [run_cons_of_ok heq]
        exact ih hi

/-- **A batch that fails** is its items up to the one that fails. -/
theorem run_stops {s : σ} {is : List ι} {e : ε} (h : (run step s is).2 = .error e) :
    ∃ done i rest before outputs, is = done ++ i :: rest ∧ run step s done = (before, .ok outputs) ∧
      step before i = ((run step s is).1, .error e) := by
  induction is generalizing s with
  | nil => cases h
  | cons i is ih =>
      rcases hi : step s i with ⟨s', e' | outputs⟩
      · rw [run_cons_of_error hi] at h ⊢
        obtain rfl := Except.error.inj h
        exact ⟨[], i, is, s, [], rfl, rfl, hi⟩
      · rw [run_cons_of_ok hi] at h ⊢
        have herror : (run step s' is).2 = .error e := by
          cases hrest : (run step s' is).2 with
          | ok more =>
              rw [hrest] at h
              cases h
          | error e' =>
              rw [hrest] at h
              exact congrArg _ (Except.error.inj h)
        obtain ⟨done, j, rest, before, more, rfl, hdone, hj⟩ := ih herror
        refine ⟨i :: done, j, rest, before, outputs ++ more, rfl, ?_, hj⟩
        rw [run_cons_of_ok hi, hdone]
        rfl

end Batch

end SomethingTrade
