import Mathlib.Data.Set.Function
import Mathlib.Logic.Function.Basic

/-!
# Replicas of a Map with Versions

An authority holds a map that changes from version to version, its `History`. A replica
starts from a copy of some version and follows by patches: a patch covers a range of
versions, lists what some keys are at its end, and passes over the keys that did not change.
A replica at a version that takes a patch covering the next one is at the end of the patch.

What a copy lacks, no patch repairs, so agreement is relative to a set of keys.

## Main results

* `assign_apply_of_notMem`, `assign_apply_of_agrees`: what a list of assignments leaves of a key.
* `Truthful.eqOn_assign`: a replica that takes a truthful patch covering its next version.
* `ShowsTop.of_eqOn`: the top of a replica shows the top of the authority.
-/

namespace SomethingTrade

variable {κ ν : Type*}

/-- A map at each version. -/
abbrev History (κ ν : Type*) := ℤ → κ → Option ν

/-! ### Assignments -/

section Assign

variable [DecidableEq κ]

/-- Write assignments into a map, one after the other. -/
def assign (m : κ → Option ν) (assignments : List (κ × Option ν)) : κ → Option ν :=
  assignments.foldl (fun m a => Function.update m a.1 a.2) m

@[simp] theorem assign_nil (m : κ → Option ν) : assign m [] = m := rfl

@[simp] theorem assign_cons (m : κ → Option ν) (a : κ × Option ν)
    (assignments : List (κ × Option ν)) :
    assign m (a :: assignments) = assign (Function.update m a.1 a.2) assignments := rfl

/-- A key that is not assigned keeps its value. -/
theorem assign_apply_of_notMem {assignments : List (κ × Option ν)} {k : κ}
    (h : ∀ a ∈ assignments, a.1 ≠ k) (m : κ → Option ν) : assign m assignments k = m k := by
  induction assignments generalizing m with
  | nil => rfl
  | cons a assignments ih =>
      rw [assign_cons, ih fun b hb => h b (List.mem_cons_of_mem a hb)]
      exact Function.update_of_ne (h a List.mem_cons_self).symm _ _

/-- A key that is assigned one value only has it in the end. -/
theorem assign_apply_of_agrees {assignments : List (κ × Option ν)} {k : κ} {v : Option ν}
    (hmem : ∃ a ∈ assignments, a.1 = k) (h : ∀ a ∈ assignments, a.1 = k → a.2 = v)
    (m : κ → Option ν) : assign m assignments k = v := by
  induction assignments generalizing m with
  | nil =>
      obtain ⟨a, ha, -⟩ := hmem
      cases ha
  | cons a assignments ih =>
      rw [assign_cons]
      by_cases hlater : ∃ b ∈ assignments, b.1 = k
      · exact ih hlater (fun b hb => h b (List.mem_cons_of_mem a hb)) _
      · obtain ⟨b, hb, rfl⟩ := hmem
        rcases List.mem_cons.mp hb with rfl | hb
        · rw [assign_apply_of_notMem fun c hc heq => hlater ⟨c, hc, heq⟩, Function.update_self]
          exact h b List.mem_cons_self rfl
        · exact absurd ⟨b, hb, rfl⟩ hlater

end Assign

/-! ### Patches -/

/-- A patch tells the truth about a set of keys: what it lists is what is there at its last
version, and what it does not list did not change over the versions it covers. -/
structure Truthful (history : History κ ν) (keys : Set κ) (first last : ℤ)
    (assignments : List (κ × Option ν)) : Prop where
  listed : ∀ a ∈ assignments, a.1 ∈ keys → a.2 = history last a.1
  unlisted : ∀ k ∈ keys, (∀ a ∈ assignments, a.1 ≠ k) →
    ∀ version, first ≤ version + 1 → version ≤ last → history version k = history last k

/-- **A replica follows.** One that agrees with a version, and takes a truthful patch that
covers the next version, agrees with the last version of the patch. -/
theorem Truthful.eqOn_assign [DecidableEq κ] {history : History κ ν} {keys : Set κ}
    {first last version : ℤ} {assignments : List (κ × Option ν)}
    (h : Truthful history keys first last assignments) {m : κ → Option ν}
    (hm : Set.EqOn m (history version) keys) (hfirst : first ≤ version + 1)
    (hlast : version + 1 ≤ last) : Set.EqOn (assign m assignments) (history last) keys := by
  intro k hk
  by_cases hlisted : ∃ a ∈ assignments, a.1 = k
  · refine assign_apply_of_agrees hlisted (fun a ha heq => ?_) m
    subst heq
    exact h.listed a ha hk
  · have hunlisted : ∀ a ∈ assignments, a.1 ≠ k := fun a ha heq => hlisted ⟨a, ha, heq⟩
    rw [assign_apply_of_notMem hunlisted, hm hk]
    exact h.unlisted k hk hunlisted version hfirst (by omega)

/-! ### Tops -/

/-- A list shows the top `n` of a map, as far as the given keys go: its entries are those of
the map, and an entry of the map that it lacks comes after all of its `n` entries. -/
structure ShowsTop (m : κ → Option ν) (keys : Set κ) (before : κ → κ → Prop) (n : ℕ)
    (entries : List (κ × ν)) : Prop where
  ordered : entries.Pairwise fun a b => before a.1 b.1
  length_le : entries.length ≤ n
  shown : ∀ e ∈ entries, e.1 ∈ keys → m e.1 = some e.2
  complete : ∀ k ∈ keys, ∀ v, m k = some v →
    (k, v) ∈ entries ∨ entries.length = n ∧ ∀ e ∈ entries, before e.1 k

/-- The first entries of a sorted map show its top. -/
theorem showsTop_take {m : κ → Option ν} {before : κ → κ → Prop} {entries : List (κ × ν)}
    (hmem : ∀ e, e ∈ entries ↔ m e.1 = some e.2)
    (hordered : entries.Pairwise fun a b => before a.1 b.1) (n : ℕ) :
    ShowsTop m Set.univ before n (entries.take n) where
  ordered := hordered.sublist (List.take_sublist n entries)
  length_le := List.length_take_le n entries
  shown e he _ := (hmem e).mp (List.mem_of_mem_take he)
  complete k _ v hv := by
    have hin : (k, v) ∈ entries.take n ++ entries.drop n := by
      rw [List.take_append_drop]
      exact (hmem (k, v)).mpr hv
    rcases List.mem_append.mp hin with hshown | hrest
    · exact .inl hshown
    · refine .inr ⟨?_, fun e he => ?_⟩
      · have hpos := List.length_pos_of_mem hrest
        rw [List.length_drop] at hpos
        rw [List.length_take]
        omega
      · have hsplit := (List.take_append_drop n entries).symm ▸ hordered
        exact (List.pairwise_append.mp hsplit).2.2 e he (k, v) hrest

/-- What shows the top of a replica shows the top of the authority, as far as they agree. -/
theorem ShowsTop.of_eqOn {m m' : κ → Option ν} {keys : Set κ} {before : κ → κ → Prop} {n : ℕ}
    {entries : List (κ × ν)} (h : ShowsTop m Set.univ before n entries)
    (heq : Set.EqOn m m' keys) : ShowsTop m' keys before n entries where
  ordered := h.ordered
  length_le := h.length_le
  shown e he hk := (heq hk).symm.trans (h.shown e he trivial)
  complete k hk v hv := h.complete k trivial v ((heq hk).trans hv)

end SomethingTrade
