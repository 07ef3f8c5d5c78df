import Mathlib.Data.List.Basic

/-!
# Matching with Backtracking

A pattern is matched by trying the ways in which its parts can match, in a fixed order: a greedy
part takes as much as it can first, a lazy one as little. Here a part is the list of its ways in
that order, each with what it takes and what it leaves. Parts are put one after the other with
`List.flatMap`, and the match is the first of all ways.

## Main results

* `head?_flatMap_of_head?`: a first way that can be completed is the match.
* `flatMap_lazily`, `flatMap_lazy1`: a lazy part takes everything when no shorter way can be
  completed.
-/

namespace SomethingTrade

universe u v

variable {α : Type u} {β : Type v}

/-- What a part of a pattern takes, and what it leaves. -/
abbrev Taken (α : Type u) := List α × List α

/-- Take one element more. -/
def Taken.cons (c : α) (e : Taken α) : Taken α := (c :: e.1, e.2)

/-- `p*`: any number of elements, as many as possible first. -/
def greedy (p : α → Bool) : List α → List (Taken α)
  | [] => [([], [])]
  | c :: cs => if p c then (greedy p cs).map (Taken.cons c) ++ [([], c :: cs)] else [([], c :: cs)]

/-- `p+`: at least one element, as many as possible first. -/
def greedy1 (p : α → Bool) : List α → List (Taken α)
  | [] => []
  | c :: cs => if p c then (greedy p cs).map (Taken.cons c) else []

/-- `p*?`: any number of elements, as few as possible first. -/
def lazily (p : α → Bool) : List α → List (Taken α)
  | [] => [([], [])]
  | c :: cs => ([], c :: cs) :: if p c then (lazily p cs).map (Taken.cons c) else []

/-- `p+?`: at least one element, as few as possible first. -/
def lazy1 (p : α → Bool) : List α → List (Taken α)
  | [] => []
  | c :: cs => if p c then (lazily p cs).map (Taken.cons c) else []

/-- `p?`: an element, or else none. -/
def optionally (p : α → Bool) : List α → List (Taken α)
  | [] => [([], [])]
  | c :: cs => if p c then [([c], cs), ([], c :: cs)] else [([], c :: cs)]

/-- `p{n}`: a number of elements. -/
def exactly (p : α → Bool) (n : ℕ) (cs : List α) : List (Taken α) :=
  if n ≤ cs.length ∧ (cs.take n).all p then [(cs.take n, cs.drop n)] else []

/-- **A first way that can be completed is the match.** -/
theorem head?_flatMap_of_head? {ways : List α} {f : α → List β} {way : α} {result : β}
    (hway : ways.head? = some way) (hresult : (f way).head? = some result) :
    (ways.flatMap f).head? = some result := by
  obtain ⟨rest, rfl⟩ := List.head?_eq_some_iff.mp hway
  rw [List.flatMap_cons, List.head?_append, hresult, Option.some_or]

/-- A greedy part takes all elements that pass first. -/
theorem head?_greedy {p : α → Bool} {xs ys : List α} (hxs : ∀ x ∈ xs, p x = true)
    (hys : ∀ y ∈ ys.head?, p y = false) : (greedy p (xs ++ ys)).head? = some (xs, ys) := by
  induction xs with
  | nil =>
      cases ys with
      | nil => rfl
      | cons y ys => rw [List.nil_append, greedy, if_neg (by simp [hys y rfl])]; rfl
  | cons x xs ih =>
      rw [List.cons_append, greedy, if_pos (hxs x List.mem_cons_self), List.head?_append,
        List.head?_map, ih fun y hy => hxs y (List.mem_cons_of_mem _ hy)]
      rfl

/-- What a greedy part takes passes, and with what it leaves makes up the list. -/
theorem mem_greedy {p : α → Bool} {cs : List α} {e : Taken α} (h : e ∈ greedy p cs) :
    e.1 ++ e.2 = cs ∧ ∀ c ∈ e.1, p c = true := by
  induction cs generalizing e with
  | nil =>
      rw [List.mem_singleton.mp h]
      exact ⟨rfl, fun c hc => absurd hc List.not_mem_nil⟩
  | cons c cs ih =>
      have hnone : e = ([], c :: cs) → e.1 ++ e.2 = c :: cs ∧ ∀ c ∈ e.1, p c = true := by
        rintro rfl
        exact ⟨rfl, fun c hc => absurd hc List.not_mem_nil⟩
      rw [greedy] at h
      split at h
      · rename_i hc
        rcases List.mem_append.mp h with h | h
        · obtain ⟨e, he, rfl⟩ := List.mem_map.mp h
          obtain ⟨happend, hall⟩ := ih he
          refine ⟨congrArg (c :: ·) happend, fun d hd => ?_⟩
          rcases List.mem_cons.mp hd with rfl | hd
          · exact hc
          · exact hall d hd
        · exact hnone (List.mem_singleton.mp h)
      · exact hnone (List.mem_singleton.mp h)

theorem head?_greedy1 {p : α → Bool} {xs ys : List α} (hne : xs ≠ [])
    (hxs : ∀ x ∈ xs, p x = true) (hys : ∀ y ∈ ys.head?, p y = false) :
    (greedy1 p (xs ++ ys)).head? = some (xs, ys) := by
  obtain ⟨x, xs, rfl⟩ := List.exists_cons_of_ne_nil hne
  rw [List.cons_append, greedy1, if_pos (hxs x List.mem_cons_self), List.head?_map,
    head?_greedy (fun y hy => hxs y (List.mem_cons_of_mem _ hy)) hys]
  rfl

theorem exactly_append {p : α → Bool} {xs ys : List α} (hxs : ∀ x ∈ xs, p x = true) :
    exactly p xs.length (xs ++ ys) = [(xs, ys)] := by
  rw [exactly, List.take_left, List.drop_left, if_pos ⟨by simp, List.all_eq_true.mpr hxs⟩]

/-- **A lazy part takes everything when no shorter way can be completed.** -/
theorem flatMap_lazily {p : α → Bool} {cs : List α} (hcs : ∀ c ∈ cs, p c = true)
    {f : Taken α → List β} (hshorter : ∀ e : Taken α, e.1 ++ e.2 = cs → e.2 ≠ [] → f e = []) :
    (lazily p cs).flatMap f = f (cs, []) := by
  induction cs generalizing f with
  | nil => exact List.flatMap_singleton f _
  | cons c cs ih =>
      rw [lazily, if_pos (hcs c List.mem_cons_self), List.flatMap_cons,
        hshorter ([], c :: cs) rfl (List.cons_ne_nil _ _), List.nil_append, List.flatMap_map]
      refine ih (fun d hd => hcs d (List.mem_cons_of_mem _ hd)) fun e he hne => ?_
      exact hshorter (e.cons c) (congrArg (c :: ·) he) hne

theorem flatMap_lazy1 {p : α → Bool} {cs : List α} (hne : cs ≠ []) (hcs : ∀ c ∈ cs, p c = true)
    {f : Taken α → List β} (hshorter : ∀ e : Taken α, e.1 ++ e.2 = cs → e.2 ≠ [] → f e = []) :
    (lazy1 p cs).flatMap f = f (cs, []) := by
  obtain ⟨c, cs, rfl⟩ := List.exists_cons_of_ne_nil hne
  rw [lazy1, if_pos (hcs c List.mem_cons_self), List.flatMap_map]
  refine flatMap_lazily (fun d hd => hcs d (List.mem_cons_of_mem _ hd)) fun e he hne => ?_
  exact hshorter (e.cons c) (congrArg (c :: ·) he) hne

end SomethingTrade
