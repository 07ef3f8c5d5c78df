import Mathlib.Data.List.Basic
import Mathlib.Data.List.Forall2

/-!
# Scanning Text Piece by Piece

A pattern is a list of pieces: a piece is a fixed number of characters, each of its own class, or
as many characters of one class as there are, at least one. `scan` reads the pieces one after
the other and never goes back, so it is the match of a regular expression in which no piece can
take a character that the next one needs.

## Main results

* `scan_append`: text written piece by piece is read back, and the rest of the pattern is matched
  against the rest of the text.
-/

namespace SomethingTrade

/-- A piece of a pattern. -/
inductive Piece
  /-- One character of each class, in order. -/
  | fixed (classes : List (Char → Bool))
  /-- As many characters of a class as there are. -/
  | many (cls : Char → Bool)

/-- Read one character of each class. -/
def readFixed : List (Char → Bool) → List Char → Option (List Char × List Char)
  | [], cs => some ([], cs)
  | _ :: _, [] => none
  | cls :: classes, c :: cs =>
      if cls c then (readFixed classes cs).map fun r => (c :: r.1, r.2) else none

namespace Piece

/-- Read a piece: what it took, and the rest. -/
def read : Piece → List Char → Option (List Char × List Char)
  | fixed classes, cs => readFixed classes cs
  | many cls, cs =>
      if cs.takeWhile cls = [] then none else some (cs.takeWhile cls, cs.dropWhile cls)

/-- A part that a piece takes when `rest` follows it. -/
def Fits : Piece → List Char → List Char → Prop
  | fixed classes, part, _ => List.Forall₂ (fun cls c => cls c = true) classes part
  | many cls, part, rest =>
      part ≠ [] ∧ (∀ c ∈ part, cls c = true) ∧ ∀ c ∈ rest.head?, cls c = false

end Piece

theorem readFixed_append {classes : List (Char → Bool)} {part : List Char}
    (h : List.Forall₂ (fun cls c => cls c = true) classes part) (rest : List Char) :
    readFixed classes (part ++ rest) = some (part, rest) := by
  induction h with
  | nil => rfl
  | cons hc _ ih => rw [List.cons_append, readFixed, if_pos hc, ih, Option.map_some]

/-- A character that is of none of the classes, and comes too early. -/
theorem readFixed_eq_none {classes : List (Char → Bool)} {part : List Char} {c : Char}
    (hlen : part.length < classes.length) (hc : ∀ cls ∈ classes, cls c = false)
    (rest : List Char) : readFixed classes (part ++ c :: rest) = none := by
  induction classes generalizing part with
  | nil => exact absurd hlen (Nat.not_lt_zero _)
  | cons cls classes ih =>
      cases part with
      | nil => rw [List.nil_append, readFixed, hc cls List.mem_cons_self, if_neg Bool.false_ne_true]
      | cons d part =>
          rw [List.cons_append, readFixed,
            ih (Nat.lt_of_succ_lt_succ hlen) fun other h => hc other (List.mem_cons_of_mem cls h)]
          split <;> rfl

/-- Characters of a class are taken up to the first that is not of it. -/
theorem takeWhile_dropWhile_append {cls : Char → Bool} {part rest : List Char}
    (hpart : ∀ c ∈ part, cls c = true) (hrest : ∀ c ∈ rest.head?, cls c = false) :
    (part ++ rest).takeWhile cls = part ∧ (part ++ rest).dropWhile cls = rest := by
  have hstop : rest.takeWhile cls = [] ∧ rest.dropWhile cls = rest := by
    cases rest with
    | nil => exact ⟨rfl, rfl⟩
    | cons c rest => simp [hrest c rfl]
  rw [List.takeWhile_append_of_pos hpart, List.dropWhile_append_of_pos hpart, hstop.1, hstop.2]
  exact ⟨List.append_nil part, rfl⟩

theorem Piece.read_append {p : Piece} {part rest : List Char} (h : p.Fits part rest) :
    p.read (part ++ rest) = some (part, rest) := by
  cases p with
  | fixed classes => exact readFixed_append h rest
  | many cls =>
      obtain ⟨htake, hdrop⟩ := takeWhile_dropWhile_append h.2.1 h.2.2
      rw [read, htake, hdrop, if_neg h.1]

/-- Read the pieces of a pattern: what each took, and the rest. -/
def scan : List Piece → List Char → Option (List (List Char) × List Char)
  | [], cs => some ([], cs)
  | p :: ps, cs => (p.read cs).bind fun r => (scan ps r.2).map fun q => (r.1 :: q.1, q.2)

/-- Parts that the pieces of a pattern take when `rest` follows them. -/
def FitAll : List Piece → List (List Char) → List Char → Prop
  | [], [], _ => True
  | p :: ps, part :: parts, rest => p.Fits part (parts.flatten ++ rest) ∧ FitAll ps parts rest
  | [], _ :: _, _ | _ :: _, [], _ => False

theorem FitAll.append {ps qs : List Piece} {parts others : List (List Char)} {rest : List Char}
    (h : FitAll ps parts (others.flatten ++ rest)) (h' : FitAll qs others rest) :
    FitAll (ps ++ qs) (parts ++ others) rest := by
  induction ps generalizing parts with
  | nil =>
      cases parts with
      | nil => exact h'
      | cons part parts => exact h.elim
  | cons p ps ih =>
      cases parts with
      | nil => exact h.elim
      | cons part parts =>
          refine ⟨?_, ih h.2⟩
          have hrest : (parts ++ others).flatten ++ rest =
              parts.flatten ++ (others.flatten ++ rest) := by
            rw [List.flatten_append, List.append_assoc]
          exact hrest ▸ h.1

/-- **Text written piece by piece is read back.** -/
theorem scan_append {ps : List Piece} {parts : List (List Char)} {rest : List Char}
    (h : FitAll ps parts rest) (qs : List Piece) :
    scan (ps ++ qs) (parts.flatten ++ rest) =
      (scan qs rest).map fun r => (parts ++ r.1, r.2) := by
  induction ps generalizing parts with
  | nil =>
      cases parts with
      | nil => cases hscan : scan qs rest <;> simp [hscan]
      | cons part parts => exact h.elim
  | cons p ps ih =>
      cases parts with
      | nil => exact h.elim
      | cons part parts =>
          rw [List.flatten_cons, List.append_assoc, List.cons_append, scan,
            Piece.read_append h.1, Option.bind_some, ih h.2, Option.map_map]
          rfl

/-- A whole pattern takes the parts that fit it. -/
theorem scan_of_fitAll {ps : List Piece} {parts : List (List Char)} {rest : List Char}
    (h : FitAll ps parts rest) : scan ps (parts.flatten ++ rest) = some (parts, rest) := by
  have hscan := scan_append h []
  rwa [List.append_nil, scan, Option.map_some, List.append_nil] at hscan

end SomethingTrade
