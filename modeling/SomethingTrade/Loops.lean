import Mathlib.Data.List.Forall2
import Mathlib.Data.List.Induction

/-!
# Loops That May Raise

A loop over the elements of a list with calls that return a value or raise. The first call that
raises ends the loop. Here is when a loop returns, what it returns, and what holds after it; the
calls are arbitrary functions.

## Main results

* `mapM_eq_ok_iff`, `forall₂_of_mapM`: a loop returns what its calls return.
* `mapM_returns_iff`, `foldlM_returns_iff`: when a loop does not raise.
* `foldlM_invariant`: what each step keeps holds after the loop.
-/

namespace SomethingTrade

variable {ε α β γ : Type}

/-! ### Related lists -/

/-- A relation between lists that goes through a third value goes through a third list. -/
theorem exists_forall₂_of_forall₂ {R : α → β → Prop} {S : α → γ → Prop}
    {P : γ → β → Prop} {xs : List α} {ts : List β} (h : List.Forall₂ R xs ts)
    (hf : ∀ x t, R x t → ∃ y, S x y ∧ P y t) :
    ∃ ys, List.Forall₂ S xs ys ∧ List.Forall₂ P ys ts := by
  induction h with
  | nil => exact ⟨[], .nil, .nil⟩
  | @cons x t xs ts hxt _ ih =>
      obtain ⟨y, hxy, hyt⟩ := hf x t hxt
      obtain ⟨ys, hxys, hyts⟩ := ih
      exact ⟨y :: ys, .cons hxy hxys, .cons hyt hyts⟩

/-- Related lists have the same images, when related elements do. -/
theorem map_eq_of_forall₂ {R : α → β → Prop} {f : α → γ} {g : β → γ}
    {xs : List α} {ys : List β} (h : List.Forall₂ R xs ys) (heq : ∀ x y, R x y → f x = g y) :
    xs.map f = ys.map g := by
  induction h with
  | nil => rfl
  | cons hxy _ ih => rw [List.map_cons, List.map_cons, heq _ _ hxy, ih]

/-- What is related to the elements of a list is related to one of them. -/
theorem exists_of_forall₂ {R : α → β → Prop} {xs : List α} {ys : List β} {y : β}
    (h : List.Forall₂ R xs ys) (hy : y ∈ ys) : ∃ x, R x y := by
  induction h with
  | nil => simp at hy
  | @cons x y' _ _ hxy _ ih =>
      rcases List.mem_cons.mp hy with rfl | hy
      · exact ⟨x, hxy⟩
      · exact ih hy

/-! ### A value of each element -/

/-- A loop returns exactly when every call does, with their values. -/
theorem mapM_eq_ok_iff {f : α → Except ε β} {xs : List α} {ys : List β} :
    xs.mapM f = .ok ys ↔ xs.map f = ys.map .ok := by
  induction xs generalizing ys with
  | nil => cases ys <;> simp [pure, Except.pure]
  | cons x xs ih =>
      rw [List.mapM_cons, List.map_cons]
      cases hx : f x with
      | error e => cases ys <;> simp [bind, Except.bind]
      | ok y =>
          cases hxs : xs.mapM f with
          | error e =>
              have hno : ∀ ys : List β, xs.map f ≠ ys.map Except.ok := by
                intro ys hys
                rw [ih.mpr hys] at hxs
                cases hxs
              cases ys <;> simp [bind, Except.bind, hno]
          | ok zs =>
              rw [ih.mp hxs]
              have hinj : Function.Injective (List.map (Except.ok : β → Except ε β)) :=
                List.map_injective_iff.mpr fun a b hab => Except.ok.inj hab
              cases ys with
              | nil => simp [bind, Except.bind, pure, Except.pure]
              | cons y' ys => simp [bind, Except.bind, pure, Except.pure, hinj.eq_iff]

/-- A loop returns when every call does. -/
theorem exists_mapM_eq_ok {f : α → Except ε β} {xs : List α}
    (h : ∀ x ∈ xs, ∃ y, f x = .ok y) : ∃ ys, xs.mapM f = .ok ys := by
  induction xs with
  | nil => exact ⟨[], rfl⟩
  | cons x xs ih =>
      obtain ⟨y, hy⟩ := h x List.mem_cons_self
      obtain ⟨ys, hys⟩ := ih fun z hz => h z (List.mem_cons_of_mem x hz)
      exact ⟨y :: ys, by simp [List.mapM_cons, hy, hys, bind, Except.bind, pure, Except.pure]⟩

/-- A loop returns exactly when every call does. -/
theorem mapM_returns_iff {f : α → Except ε β} {xs : List α} :
    (∃ ys, xs.mapM f = .ok ys) ↔ ∀ x ∈ xs, ∃ y, f x = .ok y := by
  constructor
  · rintro ⟨ys, hys⟩ x hx
    have hmem := List.mem_map_of_mem (f := f) hx
    rw [mapM_eq_ok_iff.mp hys] at hmem
    obtain ⟨y, -, hy⟩ := List.mem_map.mp hmem
    exact ⟨y, hy.symm⟩
  · exact exists_mapM_eq_ok

/-- A loop makes one value of each element. -/
theorem length_of_mapM {f : α → Except ε β} {xs : List α} {ys : List β}
    (h : xs.mapM f = .ok ys) : ys.length = xs.length := by
  simpa using (congrArg List.length (mapM_eq_ok_iff.mp h)).symm

/-- What a loop with exceptions makes of a list it makes of each element. -/
theorem forall₂_of_mapM {f : α → Except ε β} {xs : List α} {ys : List β}
    (h : xs.mapM f = .ok ys) : List.Forall₂ (fun x y => f x = .ok y) xs ys := by
  have hmaps : List.Forall₂ Eq (xs.map f) (ys.map Except.ok) := by
    rw [mapM_eq_ok_iff.mp h]
    exact List.forall₂_same.mpr fun _ _ => rfl
  exact List.forall₂_map_right_iff.mp (List.forall₂_map_left_iff.mp hmaps)

/-- Calls that succeed on each element succeed on the list. -/
theorem mapM_of_forall₂ {f : α → Except ε γ} {g : β → γ} {xs : List α}
    {ys : List β} (h : List.Forall₂ (fun x y => f x = .ok (g y)) xs ys) :
    xs.mapM f = .ok (ys.map g) := by
  rw [mapM_eq_ok_iff]
  induction h with
  | nil => rfl
  | cons hxy _ ih => rw [List.map_cons, List.map_cons, List.map_cons, hxy, ih]

/-- What a loop makes of each element is related to what that element is related to. -/
theorem exists_mapM_of_forall₂ {f : α → Except ε γ} {R : α → β → Prop}
    {P : γ → β → Prop} {xs : List α} {ts : List β} (h : List.Forall₂ R xs ts)
    (hf : ∀ x t, R x t → ∃ y, f x = .ok y ∧ P y t) :
    ∃ ys, xs.mapM f = .ok ys ∧ List.Forall₂ P ys ts := by
  obtain ⟨ys, hmade, hrelated⟩ := exists_forall₂_of_forall₂ h hf
  exact ⟨ys, mapM_eq_ok_iff.mpr (map_eq_of_forall₂ hmade fun _ _ hxy => hxy), hrelated⟩

/-- What became of each sample. -/
theorem getElem?_of_mapM {f : α → ℕ → Except ε β} {xs : List α} {ys : List β}
    (h : (xs.zipIdx.mapM fun e => f e.1 e.2) = .ok ys) (i : ℕ) :
    (xs[i]?.map fun x => f x i) = ys[i]?.map .ok := by
  have hmap := congrArg (fun zs => zs[i]?) (mapM_eq_ok_iff.mp h)
  simpa [List.getElem?_map, List.getElem?_zipIdx, Option.map_map, Function.comp_def] using hmap

/-- The first results are those of the first elements. -/
theorem take_of_mapM {f : α → ℕ → Except ε β} {xs xs' : List α} {ys ys' : List β}
    {n : ℕ} (h : (xs.zipIdx.mapM fun e => f e.1 e.2) = .ok ys)
    (h' : (xs'.zipIdx.mapM fun e => f e.1 e.2) = .ok ys') (hn : xs.take n = xs'.take n) :
    ys.take n = ys'.take n := by
  refine List.ext_getElem? fun i => ?_
  by_cases hi : i < n
  · rw [List.getElem?_take_of_lt hi, List.getElem?_take_of_lt hi]
    have hx : xs[i]? = xs'[i]? := by
      rw [← List.getElem?_take_of_lt hi, hn, List.getElem?_take_of_lt hi]
    have hy : ys[i]?.map (Except.ok : β → Except ε β) = ys'[i]?.map .ok := by
      rw [← getElem?_of_mapM h, hx, getElem?_of_mapM h']
    exact Option.map_injective (fun a b hab => Except.ok.inj hab) hy
  · rw [List.getElem?_take, List.getElem?_take, if_neg hi, if_neg hi]

/-! ### A value that each step changes -/

/-- A loop returns when no step raises, whatever it starts from. -/
theorem exists_foldlM_eq_ok {f : β → α → Except ε β} {xs : List α} {b : β}
    (h : ∀ b, ∀ x ∈ xs, ∃ c, f b x = .ok c) : ∃ c, xs.foldlM f b = .ok c := by
  induction xs generalizing b with
  | nil => exact ⟨b, rfl⟩
  | cons x xs ih =>
      obtain ⟨c, hc⟩ := h b x List.mem_cons_self
      obtain ⟨d, hd⟩ := ih (b := c) fun b z hz => h b z (List.mem_cons_of_mem x hz)
      exact ⟨d, by rw [List.foldlM_cons, hc]; exact hd⟩

variable {step : β → α → Except ε β}

/-- What each step keeps holds after the loop. -/
theorem foldlM_invariant {I : List α → β → Prop} {b c : β} {xs : List α} (hinit : I [] b)
    (hstep : ∀ xs x b c, I xs b → step b x = .ok c → I (xs ++ [x]) c)
    (h : xs.foldlM step b = .ok c) : I xs c := by
  induction xs using List.reverseRecOn generalizing c with
  | nil => exact Except.ok.inj h ▸ hinit
  | append_singleton xs x ih =>
      rw [List.foldlM_append] at h
      rcases hxs : xs.foldlM step b with e | d
      · simp [hxs, bind, Except.bind] at h
      · simp only [hxs, List.foldlM_cons, List.foldlM_nil, bind, Except.bind] at h
        rcases hx : step d x with e | c'
        · simp [hx] at h
        · simp only [hx, pure, Except.pure, Except.ok.injEq] at h
          exact h ▸ hstep xs x d c' (ih hxs) hx

/-- A loop returns exactly when no element makes its step raise. -/
theorem foldlM_returns_iff {good : α → Prop} (hstep : ∀ b x, (∃ c, step b x = .ok c) ↔ good x)
    {b : β} {xs : List α} : (∃ c, xs.foldlM step b = .ok c) ↔ ∀ x ∈ xs, good x := by
  induction xs generalizing b with
  | nil => exact iff_of_true ⟨b, rfl⟩ (by simp)
  | cons x xs ih =>
      rw [List.forall_mem_cons, ← hstep b x, List.foldlM_cons]
      rcases hx : step b x with e | c
      · simp [bind, Except.bind]
      · simp only [bind, Except.bind, Except.ok.injEq, exists_eq', true_and]
        exact ih

end SomethingTrade
