import Mathlib.Algebra.Group.Basic
import Mathlib.Data.List.Basic
import Mathlib.Order.Basic

/-!
# Runs of Deterministic Machines

A component with internal state is a `Machine`: one step takes a state and an input and
returns the next state and an output. This module has the vocabulary for statements
about whole runs and the induction rules that prove them, over arbitrary states, inputs
and outputs.

* `Machine.exec s is` is the state after the inputs `is`; `Machine.trace s is` is the
  list of inputs with the outputs they produced.
* `Machine.StepsMeet C s is` says that every step of the run meets `C`, a condition on
  the state before the step and its input.

## Main results

* `Machine.exec_invariant`: a property kept by every step holds after every run.
* `Machine.exec_invariant_while`: the same for runs whose steps all meet a condition.
* `Machine.trace_invariant`: a relation between the events so far and the state, kept by
  every step, holds after every run. This is the rule for statements about history.
* `Machine.stamps_pairwise`: the outputs of a run under a clock that never goes back are
  in the order of their times.
* `Machine.prefixes_iff_stepsMeet`: a property that a step keeps exactly when it meets a
  condition holds throughout the runs whose steps all meet it, and only there.
  `Machine.prefixes_iff_stepsMeet_while` is the same for runs whose steps meet another one.
* `Machine.trace_eq_of_related`: two runs from related states have the same outputs.
* `Machine.conserved`: a quantity that each step changes by what goes in and out changes by
  the totals in a run.
* `Machine.forall_trace`: a property of single events holds of every event of a run when
  an invariant forces it at each step.
-/

namespace SomethingTrade

universe u v w

/-- A deterministic machine with states `σ`, inputs `ι` and outputs `ο`. -/
structure Machine (σ : Type u) (ι : Type v) (ο : Type w) where
  /-- One step: the next state and the output. -/
  step : σ → ι → σ × ο

namespace Machine

variable {σ : Type u} {ι : Type v} {ο : Type w} (M : Machine σ ι ο)

/-- The state after one step. -/
def next (s : σ) (i : ι) : σ := (M.step s i).1

/-- The output of one step. -/
def out (s : σ) (i : ι) : ο := (M.step s i).2

/-- The state after a list of inputs. -/
def exec (s : σ) (is : List ι) : σ := is.foldl M.next s

/-- The inputs of a run with the outputs they produced, in order. -/
def trace : σ → List ι → List (ι × ο)
  | _, [] => []
  | s, i :: is => (i, M.out s i) :: trace (M.next s i) is

/-- Every step of the run meets `C`, a condition on the state before it and its input. -/
def StepsMeet (C : σ → ι → Prop) : σ → List ι → Prop
  | _, [] => True
  | s, i :: is => C s i ∧ StepsMeet C (M.next s i) is

@[simp] theorem exec_nil (s : σ) : M.exec s [] = s := rfl

@[simp] theorem exec_cons (s : σ) (i : ι) (is : List ι) :
    M.exec s (i :: is) = M.exec (M.next s i) is := rfl

theorem exec_append (s : σ) (is js : List ι) :
    M.exec s (is ++ js) = M.exec (M.exec s is) js := List.foldl_append

@[simp] theorem trace_nil (s : σ) : M.trace s [] = [] := rfl

@[simp] theorem trace_cons (s : σ) (i : ι) (is : List ι) :
    M.trace s (i :: is) = (i, M.out s i) :: M.trace (M.next s i) is := rfl

theorem map_fst_trace (s : σ) (is : List ι) : (M.trace s is).map Prod.fst = is := by
  induction is generalizing s with
  | nil => rfl
  | cons i is ih => rw [trace_cons, List.map_cons, ih]

/-- A run of inputs each of which meets a condition on inputs alone. -/
theorem stepsMeet_of_forall {P : ι → Prop} (s : σ) {is : List ι} (h : ∀ i ∈ is, P i) :
    M.StepsMeet (fun _ i => P i) s is := by
  induction is generalizing s with
  | nil => trivial
  | cons i is ih =>
      exact ⟨h i List.mem_cons_self, ih _ fun j hj => h j (List.mem_cons_of_mem i hj)⟩

/-- The steps of a run are those of its first part and those of the rest. -/
theorem stepsMeet_append {C : σ → ι → Prop} (s : σ) (is js : List ι) :
    M.StepsMeet C s (is ++ js) ↔ M.StepsMeet C s is ∧ M.StepsMeet C (M.exec s is) js := by
  induction is generalizing s with
  | nil => simp [StepsMeet]
  | cons i is ih => simp [StepsMeet, ih, and_assoc]

/-- The steps of a run meet two conditions when they meet each. -/
theorem stepsMeet_and {C D : σ → ι → Prop} (s : σ) (is : List ι) :
    M.StepsMeet (fun s i => C s i ∧ D s i) s is ↔ M.StepsMeet C s is ∧ M.StepsMeet D s is := by
  induction is generalizing s with
  | nil => simp [StepsMeet]
  | cons i is ih =>
      rw [StepsMeet, StepsMeet, StepsMeet, ih]
      exact and_and_and_comm

/-- **The history rule**: a relation between the events so far and the state that every
step meeting `C` keeps, holds after every run whose steps meet `C`. -/
theorem trace_invariant_while {C : σ → ι → Prop} {I : List (ι × ο) → σ → Prop}
    (hstep : ∀ t s i, I t s → C s i → I (t ++ [(i, M.out s i)]) (M.next s i))
    {t : List (ι × ο)} {s : σ} (h : I t s) {is : List ι} (hC : M.StepsMeet C s is) :
    I (t ++ M.trace s is) (M.exec s is) := by
  induction is generalizing t s with
  | nil => simpa using h
  | cons i is ih =>
      have := ih (hstep t s i h hC.1) hC.2
      simpa using this

/-- The history rule for all runs, from the empty history. -/
theorem trace_invariant {I : List (ι × ο) → σ → Prop}
    (hstep : ∀ t s i, I t s → I (t ++ [(i, M.out s i)]) (M.next s i))
    {s : σ} (h : I [] s) (is : List ι) : I (M.trace s is) (M.exec s is) :=
  M.trace_invariant_while (C := fun _ _ => True) (t := [])
    (fun t s i hi _ => hstep t s i hi) h
    (M.stepsMeet_of_forall (P := fun _ => True) s fun _ _ => trivial)

/-- A property kept by every step meeting `C` holds after every run whose steps meet
`C`. -/
theorem exec_invariant_while {C : σ → ι → Prop} {I : σ → Prop}
    (hstep : ∀ s i, I s → C s i → I (M.next s i)) {s : σ} (h : I s)
    {is : List ι} (hC : M.StepsMeet C s is) : I (M.exec s is) :=
  M.trace_invariant_while (I := fun _ s => I s) (t := [])
    (fun _ s i => hstep s i) h hC

/-- A property kept by every step holds after every run. -/
theorem exec_invariant {I : σ → Prop} (hstep : ∀ s i, I s → I (M.next s i))
    {s : σ} (h : I s) (is : List ι) : I (M.exec s is) :=
  M.trace_invariant (I := fun _ s => I s) (fun _ s i => hstep s i) h is

/-- When an invariant forces `Q` of the event of each step meeting `C`, every event of a
run whose steps meet `C` has `Q`. -/
theorem forall_trace {C : σ → ι → Prop} {I : σ → Prop} {Q : ι → ο → Prop}
    (hstep : ∀ s i, I s → C s i → I (M.next s i))
    (hout : ∀ s i, I s → C s i → Q i (M.out s i))
    {s : σ} (h : I s) {is : List ι} (hC : M.StepsMeet C s is) :
    ∀ e ∈ M.trace s is, Q e.1 e.2 := by
  have key := M.trace_invariant_while (C := C)
    (I := fun t s => (∀ e ∈ t, Q e.1 e.2) ∧ I s) (t := []) ?_ ⟨by simp, h⟩ hC
  · simpa using key.1
  · rintro t s i ⟨htr, hs⟩ hCi
    refine ⟨fun e he => ?_, hstep s i hs hCi⟩
    rcases List.mem_append.mp he with he | he
    · exact htr e he
    · obtain rfl := List.mem_singleton.mp he
      exact hout s i hs hCi

/-- **The two-run rule.** When related states give the same output to every input that meets a
condition, and related states after it, two runs from related states are the same from outside. -/
theorem trace_eq_of_related {C : ι → Prop} {R : σ → σ → Prop}
    (hstep : ∀ s t i, R s t → C i → M.out s i = M.out t i ∧ R (M.next s i) (M.next t i))
    {s t : σ} (h : R s t) {is : List ι} (hC : ∀ i ∈ is, C i) :
    M.trace s is = M.trace t is ∧ R (M.exec s is) (M.exec t is) := by
  induction is generalizing s t with
  | nil => exact ⟨rfl, h⟩
  | cons i is ih =>
      obtain ⟨hout, hnext⟩ := hstep s t i h (hC i List.mem_cons_self)
      obtain ⟨htrace, hexec⟩ := ih hnext fun j hj => hC j (List.mem_cons_of_mem i hj)
      exact ⟨by rw [trace_cons, trace_cons, hout, htrace], hexec⟩

/-- **The prefix rule.** When a step that meets `A` leads from a state with `P` to `P` exactly
when it meets `C`, a run from `P` whose steps meet `A` stays in `P` exactly when they meet `C`. -/
theorem prefixes_iff_stepsMeet_while {A C : σ → ι → Prop} {I P : σ → Prop}
    (hstep : ∀ s i, I s → A s i → I (M.next s i))
    (hiff : ∀ s i, I s → P s → A s i → (P (M.next s i) ↔ C s i)) {s : σ} (h : I s) (hs : P s)
    {is : List ι} (hA : M.StepsMeet A s is) :
    (∀ pre post, is = pre ++ post → P (M.exec s pre)) ↔ M.StepsMeet C s is := by
  induction is generalizing s with
  | nil =>
      constructor
      · exact fun _ => trivial
      · rintro - pre post hsplit
        obtain ⟨rfl, rfl⟩ := List.append_eq_nil_iff.mp hsplit.symm
        exact hs
  | cons i is ih =>
      constructor
      · intro hall
        have hnext : P (M.next s i) := hall [i] is rfl
        refine ⟨(hiff s i h hs hA.1).mp hnext, (ih (hstep s i h hA.1) hnext hA.2).mp ?_⟩
        rintro pre post rfl
        exact hall (i :: pre) post rfl
      · rintro ⟨hi, his⟩ pre post hsplit
        have hnext := (hiff s i h hs hA.1).mpr hi
        cases pre with
        | nil => exact hs
        | cons j pre =>
            obtain ⟨rfl, rfl⟩ := List.cons.inj hsplit
            exact (ih (hstep s i h hA.1) hnext hA.2).mpr his pre post rfl

/-- The prefix rule for all runs. -/
theorem prefixes_iff_stepsMeet {C : σ → ι → Prop} {I P : σ → Prop}
    (hstep : ∀ s i, I s → I (M.next s i))
    (hiff : ∀ s i, I s → P s → (P (M.next s i) ↔ C s i)) {s : σ} (h : I s) (hs : P s)
    (is : List ι) :
    (∀ pre post, is = pre ++ post → P (M.exec s pre)) ↔ M.StepsMeet C s is :=
  M.prefixes_iff_stepsMeet_while (A := fun _ _ => True) (fun s i hi _ => hstep s i hi)
    (fun s i hi hp _ => hiff s i hi hp) h hs
    (M.stepsMeet_of_forall (P := fun _ => True) s fun _ _ => trivial)

/-! ### Conservation -/

section

variable {A : Type*} [AddCommMonoid A]

/-- The sum of a quantity over the steps of a run. -/
def total (F : σ → ι → A) : σ → List ι → A
  | _, [] => 0
  | s, i :: is => F s i + total F (M.next s i) is

/-- **The conservation rule.** When every step turns what is held and what comes in into
what goes out and what is held then, so does every run. -/
theorem conserved {I : σ → Prop} {H : σ → A} {F G : σ → ι → A}
    (hstep : ∀ s i, I s → I (M.next s i))
    (hflow : ∀ s i, I s → H s + F s i = G s i + H (M.next s i)) {s : σ} (h : I s)
    (is : List ι) : H s + M.total F s is = M.total G s is + H (M.exec s is) := by
  induction is generalizing s with
  | nil => simp [total]
  | cons i is ih =>
      calc H s + (F s i + M.total F (M.next s i) is)
          = G s i + (H (M.next s i) + M.total F (M.next s i) is) := by
            rw [← add_assoc, hflow s i h, add_assoc]
        _ = G s i + (M.total G (M.next s i) is + H (M.exec (M.next s i) is)) := by
            rw [ih (hstep s i h)]
        _ = G s i + M.total G (M.next s i) is + H (M.exec (M.next s i) is) :=
            (add_assoc _ _ _).symm

end

/-! ### Clocked runs -/

/-- **The clock rule.** Let `R` give the clock readings of an input's step, and `T` the time
of an output that has one. When every such time is between two readings of its step, and
the clock never goes back, the times of the outputs never go back either. -/
theorem stamps_pairwise {τ : Type*} [Preorder τ] {R : ι → List τ} {T : ο → Option τ}
    {C : ι → Prop} {I : σ → Prop} (hstep : ∀ s i, I s → I (M.next s i))
    (hstamp : ∀ s i, I s → C i → (R i).Pairwise (· ≤ ·) →
      ∀ t ∈ T (M.out s i), (∃ a ∈ R i, a ≤ t) ∧ ∃ b ∈ R i, t ≤ b)
    {s : σ} (h : I s) {is : List ι} (hC : ∀ i ∈ is, C i)
    (hclock : (is.flatMap R).Pairwise (· ≤ ·)) :
    ((M.trace s is).filterMap fun e => T e.2).Pairwise (· ≤ ·) := by
  -- the times still to come are not before some reading still to come
  suffices key : ((M.trace s is).filterMap fun e => T e.2).Pairwise (· ≤ ·) ∧
      ∀ u ∈ (M.trace s is).filterMap fun e => T e.2,
        ∃ a ∈ is.flatMap R, a ≤ u from key.1
  induction is generalizing s with
  | nil => simp
  | cons i is ih =>
      rw [List.flatMap_cons, List.pairwise_append] at hclock
      obtain ⟨hnow, hlater, hacross⟩ := hclock
      obtain ⟨hordered, hafter⟩ :=
        ih (hstep s i h) (fun j hj => hC j (List.mem_cons_of_mem i hj)) hlater
      have hmem : ∀ u ∈ (M.trace (M.next s i) is).filterMap fun e => T e.2,
          ∃ a ∈ (i :: is).flatMap R, a ≤ u := by
        intro u hu
        obtain ⟨a, ha, hau⟩ := hafter u hu
        exact ⟨a, List.mem_append_right _ ha, hau⟩
      rw [trace_cons, List.filterMap_cons]
      cases ht : T (M.out s i) with
      | none => exact ⟨hordered, hmem⟩
      | some t =>
          obtain ⟨⟨a, ha, hat⟩, b, hb, htb⟩ :=
            hstamp s i h (hC i List.mem_cons_self) hnow t ht
          refine ⟨List.pairwise_cons.mpr ⟨fun u hu => ?_, hordered⟩, fun u hu => ?_⟩
          · obtain ⟨c, hc, hcu⟩ := hafter u hu
            exact htb.trans ((hacross b hb c hc).trans hcu)
          · rcases List.mem_cons.mp hu with rfl | hu
            · exact ⟨a, List.mem_append_left _ ha, hat⟩
            · exact hmem u hu

end Machine

end SomethingTrade
