import Mathlib.Data.List.Basic
import Mathlib.Data.List.Sublists

/-!
# Lines that Lose Items

Items enter a line at its end and leave it at its front; on the way some are taken out. What a
line has delivered and what it holds are then a part of what entered it, in the order of entry
and without repetition, and every item that entered is delivered, held or removed.

## Main results

* `Conveyor.Intact.step`: a step keeps a line intact.
-/

namespace SomethingTrade

/-- A line of items, with what entered it, what left it at its front, and how many items were
taken out of it. -/
structure Conveyor (α : Type*) where
  entered : List α
  delivered : List α
  held : List α
  removed : ℕ

namespace Conveyor

variable {α : Type*}

/-- A line that nothing has entered. -/
def empty : Conveyor α := ⟨[], [], [], 0⟩

/-- What can happen to a line. -/
inductive Step : Conveyor α → Conveyor α → Prop
  /-- Nothing. -/
  | rest (c : Conveyor α) : Step c c
  /-- An item enters. -/
  | enter (c : Conveyor α) (a : α) :
      Step c { c with entered := c.entered ++ [a], held := c.held ++ [a] }
  /-- The item at the front is delivered. -/
  | deliver (c : Conveyor α) (a : α) (held : List α) (front : c.held = a :: held) :
      Step c { c with delivered := c.delivered ++ [a], held := held }
  /-- Some items are taken out. -/
  | remove (c : Conveyor α) (kept : List α) (removed : ℕ) (order : kept.Sublist c.held)
      (counted : c.held.length = kept.length + removed) :
      Step c { c with held := kept, removed := c.removed + removed }

/-- The line keeps the order of entry, and accounts for every item. -/
structure Intact (c : Conveyor α) : Prop where
  order : (c.delivered ++ c.held).Sublist c.entered
  counted : c.entered.length = c.delivered.length + c.held.length + c.removed

theorem intact_empty : Intact (empty : Conveyor α) := ⟨.slnil, rfl⟩

/-- **A step keeps a line intact.** -/
theorem Intact.step {c c' : Conveyor α} (h : c.Intact) (hstep : Step c c') : c'.Intact := by
  have hcounted := h.counted
  cases hstep with
  | rest => exact h
  | enter a =>
      refine ⟨?_, ?_⟩
      · rw [← List.append_assoc]
        exact h.order.append_right [a]
      · simp only [List.length_append, List.length_singleton]
        omega
  | deliver a held front =>
      refine ⟨?_, ?_⟩
      · rw [List.append_assoc, List.singleton_append, ← front]
        exact h.order
      · rw [front] at hcounted
        simp only [List.length_append, List.length_cons, List.length_nil] at hcounted ⊢
        omega
  | remove kept removed order counted =>
      refine ⟨(order.append_left c.delivered).trans h.order, ?_⟩
      dsimp only
      omega

end Conveyor

end SomethingTrade
