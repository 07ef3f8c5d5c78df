import SomethingTrade.Dict

/-!
# Cooldowns

A cooldown lets an event of a key pass unless it comes too soon after the last event of that
key that passed. `Cooldown` has events, keys and times of any types, and any notion of too
soon; its state is the dictionary of the last times.

* `Cooldown.passed last es` and `Cooldown.held last es` are the events that pass and those
  that are held back, after the last times `last`.

## Main results

* `Cooldown.perm_passed_held`: every event passes once or is held back once.
* `Cooldown.passed_pairwise`: the events of a key that pass are apart, whatever the order of
  the times and the events of other keys in between.
-/

namespace SomethingTrade

universe u v w

/-- A cooldown for events with a key and a time. -/
structure Cooldown (ε : Type u) (α : Type v) (τ : Type w) where
  key : ε → α
  time : ε → τ
  /-- A time comes too soon after another one. -/
  tooSoon : τ → τ → Bool

namespace Cooldown

variable {ε : Type u} {α : Type v} {τ : Type w} [DecidableEq α] (C : Cooldown ε α τ)

/-- Whether an event comes too soon after the last one of its key. -/
def holds (last : Dict α τ) (e : ε) : Bool :=
  (last.get? (C.key e)).any fun t => C.tooSoon t (C.time e)

/-- The last times after an event. -/
def note (last : Dict α τ) (e : ε) : Dict α τ :=
  if C.holds last e then last else last.set (C.key e) (C.time e)

/-- The last times after some events. -/
def after (last : Dict α τ) (es : List ε) : Dict α τ := es.foldl C.note last

/-- The events that pass. -/
def passed : Dict α τ → List ε → List ε
  | _, [] => []
  | last, e :: es =>
      if C.holds last e then passed (C.note last e) es else e :: passed (C.note last e) es

/-- The events that are held back. -/
def held : Dict α τ → List ε → List ε
  | _, [] => []
  | last, e :: es =>
      if C.holds last e then e :: held (C.note last e) es else held (C.note last e) es

theorem after_append (last : Dict α τ) (es es' : List ε) :
    C.after last (es ++ es') = C.after (C.after last es) es' := List.foldl_append

theorem passed_append (last : Dict α τ) (es es' : List ε) :
    C.passed last (es ++ es') = C.passed last es ++ C.passed (C.after last es) es' := by
  induction es generalizing last with
  | nil => rfl
  | cons e es ih =>
      simp only [List.cons_append, passed, ih, after, List.foldl_cons]
      split <;> rfl

theorem held_append (last : Dict α τ) (es es' : List ε) :
    C.held last (es ++ es') = C.held last es ++ C.held (C.after last es) es' := by
  induction es generalizing last with
  | nil => rfl
  | cons e es ih =>
      simp only [List.cons_append, held, ih, after, List.foldl_cons]
      split <;> rfl

/-- **Every event passes once or is held back once.** -/
theorem perm_passed_held (last : Dict α τ) (es : List ε) :
    es.Perm (C.passed last es ++ C.held last es) := by
  induction es generalizing last with
  | nil => exact .refl []
  | cons e es ih =>
      rw [passed, held]
      split
      · exact ((ih _).cons e).trans List.perm_middle.symm
      · exact (ih _).cons e

/-- **The events of a key that pass are apart**, when times that do not come too soon are
apart, and being apart is transitive. -/
theorem passed_pairwise {R : τ → τ → Prop} (htrans : ∀ {a b c}, R a b → R b c → R a c)
    (hR : ∀ {a b}, C.tooSoon a b = false → R a b) (last : Dict α τ) (es : List ε) (k : α) :
    (((C.passed last es).filter fun e => C.key e = k).map C.time).Pairwise R := by
  -- with it: they are apart from the last time before them
  suffices key : (((C.passed last es).filter fun e => C.key e = k).map C.time).Pairwise R ∧
      ∀ t ∈ last.get? k, ∀ t' ∈ ((C.passed last es).filter fun e => C.key e = k).map C.time,
        R t t' from key.1
  induction es generalizing last with
  | nil => exact ⟨List.Pairwise.nil, fun _ _ _ h => by cases h⟩
  | cons e es ih =>
      obtain ⟨hpairwise, hlast⟩ := ih (C.note last e)
      rw [passed]
      by_cases hheld : C.holds last e = true
      · rw [note, if_pos hheld] at hpairwise hlast
        rw [if_pos hheld, note, if_pos hheld]
        exact ⟨hpairwise, hlast⟩
      · have hnote : C.note last e = last.set (C.key e) (C.time e) := if_neg hheld
        rw [if_neg hheld, hnote]
        rw [hnote] at hpairwise hlast
        by_cases hkey : C.key e = k
        · subst hkey
          rw [List.filter_cons_of_pos (by simp), List.map_cons, List.pairwise_cons]
          have hafter := hlast (C.time e) (Dict.get?_set_self ..)
          have hnow : ∀ t ∈ last.get? (C.key e), R t (C.time e) := by
            intro t ht
            rw [holds, Option.mem_def.mp ht] at hheld
            exact hR (by simpa using hheld)
          refine ⟨⟨hafter, hpairwise⟩, fun t ht t' ht' => ?_⟩
          rcases List.mem_cons.mp ht' with rfl | ht'
          · exact hnow t ht
          · exact htrans (hnow t ht) (hafter t' ht')
        · rw [List.filter_cons_of_neg (by simpa using hkey)]
          rw [Dict.get?_set_of_ne _ _ hkey] at hlast
          exact ⟨hpairwise, hlast⟩

end Cooldown

end SomethingTrade
