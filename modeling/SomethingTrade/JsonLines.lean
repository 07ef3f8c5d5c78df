import SomethingTrade.Json
import SomethingTrade.Loops

/-!
# Files of Rows

A file with one value on a line. A line is blank, does not decode, or holds a value, which is a
row when it is an object. One reader of such files is a generator: it yields the rows with their
line numbers and keeps a report of the lines. The consumers look at the report after the last row
only, so reading is taken as a whole here.

## Main results

* `reported_streamJsonlRecords`: the reader yields the rows of the file, and its report counts
  each line that is not blank once.
-/

namespace SomethingTrade

/-! ### Lines -/

/-- A line of a file: blank, a text that does not decode, or a value. -/
inductive FileLine
  | blank
  | undecodable (exc : String)
  | decoded (value : Json)

namespace FileLine

/-- Whether there is anything on a line. -/
def isBlank : FileLine → Bool
  | blank => true
  | _ => false

/-- The row on a line, if it holds an object. -/
def row? : FileLine → Option Json
  | decoded (.obj fields) => some (.obj fields)
  | _ => none

/-- Whether a line holds something that is no row. -/
def isMalformed (line : FileLine) : Bool := !line.isBlank && line.row?.isNone

end FileLine

/-- The rows of a file. -/
def fileRows (lines : List FileLine) : List Json := lines.filterMap FileLine.row?

/-- How many lines of a file are not blank. -/
def nonblankCount (lines : List FileLine) : ℕ := lines.countP fun line => !line.isBlank

/-- Each line that is not blank holds a row or something else. -/
theorem nonblankCount_eq (lines : List FileLine) :
    nonblankCount lines = (fileRows lines).length + lines.countP FileLine.isMalformed := by
  induction lines with
  | nil => rfl
  | cons line lines ih =>
      rw [nonblankCount, fileRows] at ih
      rw [nonblankCount, fileRows, List.countP_cons, List.countP_cons, List.filterMap_cons]
      cases hrow : line.row? with
      | none => simp [FileLine.isMalformed, hrow]; omega
      | some row =>
          have hblank : line.isBlank = false := by
            cases line with
            | blank => cases hrow
            | _ => rfl
          simp [FileLine.isMalformed, hrow, hblank]
          omega

/-! ### The streaming reader -/

/-- How many samples of errors a report keeps. -/
def maxErrorSamples : ℕ := 10

/-- The first samples of what is refused, and how many there are. -/
structure BoundedSamples (α : Type) where
  count : ℕ := 0
  samples : List α := []

/-- Add a sample; only the first ones are kept. -/
def BoundedSamples.add {α : Type} (bounded : BoundedSamples α) (sample : α) : BoundedSamples α :=
  { count := bounded.count + 1
    samples :=
      if bounded.samples.length < maxErrorSamples then bounded.samples ++ [sample]
      else bounded.samples }

/-- What a report says of a line that is no row. -/
structure MalformedLine where
  line : ℕ
  reason : String

/-- The report of the lines that were read. -/
structure JsonlStreamReport where
  nonblankLineCount : ℕ := 0
  objectCount : ℕ := 0
  malformedLineCount : ℕ := 0
  malformedSamples : List MalformedLine := []

/-- Count a line that is no row; the first ones are kept. -/
def JsonlStreamReport.recordMalformed (report : JsonlStreamReport) (sample : MalformedLine) :
    JsonlStreamReport :=
  { report with
    malformedLineCount := report.malformedLineCount + 1
    malformedSamples :=
      if report.malformedSamples.length < maxErrorSamples then report.malformedSamples ++ [sample]
      else report.malformedSamples }

/-- Read a line, after the rows that were yielded before. -/
def streamLine (state : JsonlStreamReport × List (ℕ × Json)) (line : FileLine × ℕ) :
    JsonlStreamReport × List (ℕ × Json) :=
  let report := { state.1 with nonblankLineCount := state.1.nonblankLineCount + 1 }
  match line.1 with
  | .blank => state
  | .undecodable exc => (report.recordMalformed ⟨line.2, "INVALID_JSON:" ++ exc⟩, state.2)
  | .decoded (.obj fields) =>
      ({ report with objectCount := report.objectCount + 1 },
        state.2 ++ [(line.2, .obj fields)])
  | .decoded _ => (report.recordMalformed ⟨line.2, "ROW_NOT_OBJECT"⟩, state.2)

/-- The report of a file, and its rows with the numbers of their lines. -/
def streamJsonlRecords (lines : List FileLine) : JsonlStreamReport × List (ℕ × Json) :=
  (lines.zipIdx 1).foldl streamLine ({}, [])

/-- What reading a line does: nothing, a line of the report, or a row. -/
theorem streamLine_cases (state : JsonlStreamReport × List (ℕ × Json)) (line : FileLine) (n : ℕ) :
    (line.isBlank = true ∧ line.row? = none ∧ streamLine state (line, n) = state) ∨
    (line.isBlank = false ∧ line.row? = none ∧ ∃ sample, streamLine state (line, n) =
      ({ state.1 with nonblankLineCount := state.1.nonblankLineCount + 1 }.recordMalformed sample,
        state.2)) ∨
    (line.isBlank = false ∧ ∃ row, line.row? = some row ∧ streamLine state (line, n) =
      ({ state.1 with
          nonblankLineCount := state.1.nonblankLineCount + 1
          objectCount := state.1.objectCount + 1 },
        state.2 ++ [(n, row)])) := by
  cases line with
  | blank => exact .inl ⟨rfl, rfl, rfl⟩
  | undecodable exc => exact .inr (.inl ⟨rfl, rfl, _, rfl⟩)
  | decoded value =>
      cases value with
      | obj fields => exact .inr (.inr ⟨rfl, _, rfl, rfl⟩)
      | _ => exact .inr (.inl ⟨rfl, rfl, _, rfl⟩)

/-- What a report counts. -/
structure Reported (lines : List FileLine) (state : JsonlStreamReport × List (ℕ × Json)) :
    Prop where
  nonblank : state.1.nonblankLineCount = nonblankCount lines
  objects : state.1.objectCount = (fileRows lines).length
  malformed : state.1.malformedLineCount = lines.countP FileLine.isMalformed
  rows : state.2.map Prod.snd = fileRows lines

/-- **The reader yields the rows of the file and counts each line once.** -/
theorem reported_streamJsonlRecords (lines : List FileLine) :
    Reported lines (streamJsonlRecords lines) := by
  induction lines using List.reverseRecOn with
  | nil => exact ⟨rfl, rfl, rfl, rfl⟩
  | append_singleton lines line ih =>
      obtain ⟨hnonblank, hobjects, hmalformed, hrows⟩ := ih
      have hread : streamJsonlRecords (lines ++ [line]) =
          streamLine (streamJsonlRecords lines) (line, lines.length + 1) := by
        rw [streamJsonlRecords, List.zipIdx_append, List.foldl_append, Nat.add_comm]
        rfl
      rw [nonblankCount] at hnonblank
      rw [fileRows] at hobjects hrows
      rcases streamLine_cases (streamJsonlRecords lines) line (lines.length + 1) with
        ⟨hblank, hrow, heq⟩ | ⟨hblank, hrow, sample, heq⟩ | ⟨hblank, row, hrow, heq⟩
      · rw [hread, heq]
        constructor
        · simp [nonblankCount, hblank, hnonblank]
        · simp [fileRows, hrow, hobjects]
        · simp [FileLine.isMalformed, hblank, hmalformed]
        · simp [fileRows, hrow, hrows]
      · rw [hread, heq]
        constructor
        · simp [nonblankCount, JsonlStreamReport.recordMalformed, hblank, hnonblank]
        · simp [fileRows, JsonlStreamReport.recordMalformed, hrow, hobjects]
        · simp [FileLine.isMalformed, JsonlStreamReport.recordMalformed, hblank, hrow, hmalformed]
        · simp [fileRows, hrow, hrows]
      · rw [hread, heq]
        constructor
        · simp [nonblankCount, hblank, hnonblank]
        · simp [fileRows, hrow, hobjects]
        · simp [FileLine.isMalformed, hrow, hmalformed]
        · simp [fileRows, hrow, hrows]

end SomethingTrade
