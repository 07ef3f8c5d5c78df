import Mathlib.Data.Finset.Card
import SomethingTrade.JsonLines
import SomethingTrade.StreamingLabels

/-!
# Files of Clean Samples

Two validations of a file of clean samples. The one in memory collects violations, one for each
reason, and counts the lines that have one. The streaming one counts as it reads, and fills the
table of events. They are to give the same verdict: whether the file is valid, how many samples
are not, and how the failure is classified.

They give the same counts. But the streaming validation counts a line as not blank only when it
holds a row, so a file without any row is empty to it, whatever else is on its lines.

## Main results

* `validateCleanSamples_verdict`, `ingestCleanFile_verdict`: the verdicts, by what is on the
  lines.
* `ingest_ingestCleanFile`: the streaming validation fills the tables with the rows of the file.
* `sameCleanVerdict_iff`: they agree exactly on files that hold a row or only blank lines.
-/

namespace SomethingTrade

/-- The verdict of a validation of a file of clean samples. -/
structure FileVerdict where
  valid : Bool
  invalidCleanSampleCount : ℕ
  failureClassification : Option String
  deriving DecidableEq

/-! ### The validation in memory -/

/-- What is reported of a line with something wrong. -/
structure CleanViolation where
  line : Option ℕ
  sampleIndex : Option ℕ
  symbol : Json := .null
  generationId : Json := .null
  lastUpdateId : Json := .null
  localRecvMonotonicNs : Json := .null
  reason : String
  classification : String

/-- What is reported of one reason why a row is refused. -/
def CleanViolation.ofRow (row : Json) (line sampleIndex : ℕ) (reason : String) :
    CleanViolation :=
  { line := some line
    sampleIndex := some sampleIndex
    symbol := row.get "symbol"
    generationId := row.get "generation_id"
    lastUpdateId := row.get "last_update_id"
    localRecvMonotonicNs := row.get "local_recv_monotonic_ns"
    reason := reason
    classification := "INPUT_SCHEMA_FAILURE" }

/-- The result of the validation in memory. -/
structure CleanSampleValidationResult where
  valid : Bool
  samples : List Json
  invalidCleanSampleCount : ℕ
  violations : List CleanViolation
  failureClassification : Option String

/-- What the loop over the lines collects. -/
structure CleanScan where
  violations : List CleanViolation := []
  samples : List Json := []
  nonblankLines : ℕ := 0

/-- Look at a line. A row is collected, also one that is refused. -/
def CleanScan.step (scan : CleanScan) (line : FileLine × ℕ) : CleanScan :=
  let malformed (reason : String) : CleanScan :=
    { scan with
      violations := scan.violations ++ [{
        line := some line.2
        sampleIndex := some scan.samples.length
        reason := reason
        classification := "INPUT_SCHEMA_FAILURE" }]
      nonblankLines := scan.nonblankLines + 1 }
  match line.1 with
  | .blank => scan
  | .undecodable exc => malformed ("invalid_json:" ++ exc)
  | .decoded (.obj fields) =>
      { violations := scan.violations ++ (cleanSampleErrors (.obj fields)).map
          (CleanViolation.ofRow (.obj fields) line.2 scan.samples.length)
        samples := scan.samples ++ [.obj fields]
        nonblankLines := scan.nonblankLines + 1 }
  | .decoded _ => malformed "row_not_object"

/-- Scan the lines of a file. -/
def scanCleanSamples (lines : List FileLine) : CleanScan :=
  (lines.zipIdx 1).foldl CleanScan.step {}

/-- Validate a file of clean samples in memory; there may be no file at the path. -/
def validateCleanSamples (inputPath : String) (file : Option (List FileLine)) :
    CleanSampleValidationResult :=
  match file with
  | none =>
      { valid := false
        samples := []
        invalidCleanSampleCount := 1
        violations := [{
          line := none
          sampleIndex := none
          reason := "input_file_missing:" ++ inputPath
          classification := "INPUT_FILE_MISSING" }]
        failureClassification := some "INPUT_FILE_MISSING" }
  | some lines =>
      let scan := scanCleanSamples lines
      if scan.nonblankLines = 0 then
        { valid := false
          samples := []
          invalidCleanSampleCount := 0
          violations := scan.violations ++ [{
            line := none
            sampleIndex := none
            reason := "input_empty"
            classification := "INPUT_EMPTY" }]
          failureClassification := some "INPUT_EMPTY" }
      else
        { valid := scan.violations.isEmpty
          samples := scan.samples
          invalidCleanSampleCount := (scan.violations.map CleanViolation.line).dedup.length
          violations := scan.violations
          failureClassification :=
            if scan.violations.isEmpty then none else some "INPUT_SCHEMA_FAILURE" }

/-- The verdict of the validation in memory. -/
def CleanSampleValidationResult.verdict (result : CleanSampleValidationResult) : FileVerdict :=
  ⟨result.valid, result.invalidCleanSampleCount, result.failureClassification⟩

/-! ### The streaming validation -/

/-- A sample of what is refused, with the reasons. -/
structure InvalidSample where
  line : ℕ
  sampleIndex : Option ℕ := none
  symbol : Json := .null
  generationId : Json := .null
  lastUpdateId : Json := .null
  localRecvMonotonicNs : Json := .null
  reason : List String
  classification : String := "INPUT_SCHEMA_FAILURE"

/-- Add a line that is no row. -/
def addMalformedLine (bounded : BoundedSamples InvalidSample) (sample : MalformedLine) :
    BoundedSamples InvalidSample :=
  bounded.add { line := sample.line, reason := [sample.reason] }

/-- What the streaming validation counts. -/
structure CleanIngestStats where
  fileExists : Bool
  nonblankLineCount : ℕ := 0
  invalidCleanSampleCount : ℕ := 0
  failureClassification : Option String := none
  invalidSamples : BoundedSamples InvalidSample := {}
  ingest : CleanIngest := ⟨0, 0, ⟨.zero, .empty, .empty⟩⟩

/-- Read a row. -/
def CleanIngestStats.step (clean : CleanIngestStats) (record : ℕ × Json) : CleanIngestStats :=
  let errors := cleanSampleErrors record.2
  let clean := { clean with nonblankLineCount := clean.nonblankLineCount + 1 }
  if errors = [] then { clean with ingest := ingestCleanSample clean.ingest record.2 }
  else
    { clean with
      invalidCleanSampleCount := clean.invalidCleanSampleCount + 1
      invalidSamples := clean.invalidSamples.add {
        line := record.1
        sampleIndex := some clean.ingest.validCleanSampleCount
        symbol := record.2.get "symbol"
        generationId := record.2.get "generation_id"
        lastUpdateId := record.2.get "last_update_id"
        localRecvMonotonicNs := record.2.get "local_recv_monotonic_ns"
        reason := errors } }

/-- Read a file of clean samples; there may be none. -/
def ingestCleanFile (file : Option (List FileLine)) : CleanIngestStats × JsonlStreamReport :=
  match file with
  | none =>
      ({ fileExists := false, failureClassification := some "INPUT_FILE_MISSING" }, {})
  | some lines =>
      let (report, records) := streamJsonlRecords lines
      let clean := records.foldl CleanIngestStats.step { fileExists := true }
      let clean :=
        { clean with
          invalidCleanSampleCount := clean.invalidCleanSampleCount + report.malformedLineCount
          invalidSamples :=
            report.malformedSamples.foldl addMalformedLine clean.invalidSamples }
      ({ clean with
          failureClassification :=
            if clean.nonblankLineCount = 0 then some "INPUT_EMPTY"
            else if clean.invalidCleanSampleCount > 0 then some "INPUT_SCHEMA_FAILURE"
            else none }, report)

/-- The verdict of the streaming validation. -/
def CleanIngestStats.verdict (clean : CleanIngestStats) : FileVerdict :=
  ⟨clean.failureClassification.isNone, clean.invalidCleanSampleCount, clean.failureClassification⟩

/-! ### Refused lines -/

/-- Whether a line holds something that is no clean sample. -/
def FileLine.isRefused (line : FileLine) : Bool :=
  line.isMalformed || line.row?.any fun row => cleanSampleErrors row ≠ []

/-- How many lines of a file are refused. -/
def refusedCount (lines : List FileLine) : ℕ := lines.countP FileLine.isRefused

/-- Refused lines are malformed ones and those whose row has errors. -/
theorem refusedCount_eq (lines : List FileLine) :
    refusedCount lines = lines.countP FileLine.isMalformed +
      (fileRows lines).countP fun row => cleanSampleErrors row ≠ [] := by
  rw [refusedCount, fileRows]
  induction lines with
  | nil => rfl
  | cons line lines ih =>
      rw [List.countP_cons, List.countP_cons, List.filterMap_cons, ih]
      rcases hrow : line.row? with _ | row
      · simp [FileLine.isRefused, FileLine.isMalformed, hrow]
        omega
      · simp [FileLine.isRefused, FileLine.isMalformed, hrow, List.countP_cons]
        omega

/-- Fresh elements, all the same, count once. -/
theorem length_dedup_append {α : Type} [DecidableEq α] {xs ys : List α} {y : α} (hy : y ∉ xs)
    (hys : ∀ z ∈ ys, z = y) :
    (xs ++ ys).dedup.length = xs.dedup.length + if ys = [] then 0 else 1 := by
  rw [← List.card_toFinset, ← List.card_toFinset, List.toFinset_append]
  rcases ys with _ | ⟨z, ys⟩
  · simp
  · have hset : (z :: ys).toFinset = {y} := by
      ext w
      rw [List.mem_toFinset, Finset.mem_singleton]
      exact ⟨hys w, fun hw => hw ▸ hys z List.mem_cons_self ▸ List.mem_cons_self⟩
    have hdisjoint : Disjoint xs.toFinset {y} := by
      rw [Finset.disjoint_singleton_right, List.mem_toFinset]
      exact hy
    rw [hset, Finset.card_union_of_disjoint hdisjoint, Finset.card_singleton,
      if_neg (List.cons_ne_nil z ys)]

/-! ### The verdict in memory -/

/-- What looking at a line adds: violations of that line, some exactly when it is refused. -/
theorem CleanScan.step_spec (scan : CleanScan) (line : FileLine) (n : ℕ) :
    ∃ violations, (scan.step (line, n)).violations = scan.violations ++ violations ∧
      (∀ v ∈ violations, v.line = some n) ∧ (violations = [] ↔ line.isRefused = false) ∧
      (scan.step (line, n)).nonblankLines =
        scan.nonblankLines + if line.isBlank then 0 else 1 := by
  cases line with
  | blank => exact ⟨[], by simp [step], by simp, by simp [FileLine.isRefused, FileLine.isMalformed,
      FileLine.isBlank, FileLine.row?], rfl⟩
  | undecodable exc => exact ⟨_, rfl, by simp, by simp [FileLine.isRefused, FileLine.isMalformed,
      FileLine.isBlank, FileLine.row?], rfl⟩
  | decoded value =>
      cases value with
      | obj fields =>
          refine ⟨_, rfl, ?_, by simp [FileLine.isRefused, FileLine.isMalformed, FileLine.row?],
            rfl⟩
          intro v hv
          obtain ⟨reason, -, rfl⟩ := List.mem_map.mp hv
          rfl
      | _ => exact ⟨_, rfl, by simp, by simp [FileLine.isRefused, FileLine.isMalformed,
          FileLine.isBlank, FileLine.row?], rfl⟩

/-- What the scan of a file has found. -/
structure CleanScanned (lines : List FileLine) (scan : CleanScan) : Prop where
  nonblank : scan.nonblankLines = nonblankCount lines
  numbered : ∀ v ∈ scan.violations, ∃ n, v.line = some n ∧ n ≤ lines.length
  counted : (scan.violations.map CleanViolation.line).dedup.length = refusedCount lines
  violated : scan.violations = [] ↔ refusedCount lines = 0

/-- **The scan counts each refused line once.** -/
theorem cleanScanned (lines : List FileLine) : CleanScanned lines (scanCleanSamples lines) := by
  induction lines using List.reverseRecOn with
  | nil => exact ⟨rfl, by simp [scanCleanSamples], rfl, by simp [scanCleanSamples, refusedCount]⟩
  | append_singleton lines line ih =>
      obtain ⟨hnonblank, hnumbered, hcounted, hviolated⟩ := ih
      have hscan : scanCleanSamples (lines ++ [line]) =
          (scanCleanSamples lines).step (line, lines.length + 1) := by
        rw [scanCleanSamples, List.zipIdx_append, List.foldl_append, Nat.add_comm]
        rfl
      obtain ⟨violations, hadded, hlines, hrefused, hblank⟩ :=
        (scanCleanSamples lines).step_spec line (lines.length + 1)
      have hcount : refusedCount (lines ++ [line]) =
          refusedCount lines + if violations = [] then 0 else 1 := by
        rw [refusedCount, List.countP_append, List.countP_singleton, ← refusedCount]
        rcases hline : line.isRefused with _ | _
        · simp [hrefused.mpr hline]
        · simp [hrefused, hline]
      have hfresh : some (lines.length + 1) ∉
          (scanCleanSamples lines).violations.map CleanViolation.line := by
        rintro hmem
        obtain ⟨v, hv, hline⟩ := List.mem_map.mp hmem
        obtain ⟨n, hn, hle⟩ := hnumbered v hv
        rw [hn, Option.some.injEq] at hline
        omega
      have hall : ∀ l ∈ violations.map CleanViolation.line, l = some (lines.length + 1) := by
        rintro l hl
        obtain ⟨v, hv, rfl⟩ := List.mem_map.mp hl
        exact hlines v hv
      rw [hscan]
      refine ⟨?_, ?_, ?_, ?_⟩
      · rw [hblank, hnonblank, nonblankCount, nonblankCount, List.countP_append,
          List.countP_singleton]
        cases line.isBlank <;> rfl
      · intro v hv
        rw [hadded, List.mem_append] at hv
        rw [List.length_append, List.length_singleton]
        rcases hv with hv | hv
        · obtain ⟨n, hn, hle⟩ := hnumbered v hv
          exact ⟨n, hn, by omega⟩
        · exact ⟨lines.length + 1, hlines v hv, le_refl _⟩
      · rw [hadded, List.map_append, length_dedup_append hfresh hall, hcounted, hcount]
        simp
      · rw [hadded, List.append_eq_nil_iff, hviolated, hcount]
        by_cases hnone : violations = [] <;> simp [hnone]

/-- **The verdict in memory**: by the lines that are not blank and those that are refused. -/
theorem validateCleanSamples_verdict (inputPath : String) (lines : List FileLine) :
    (validateCleanSamples inputPath (some lines)).verdict =
      if nonblankCount lines = 0 then ⟨false, 0, some "INPUT_EMPTY"⟩
      else ⟨refusedCount lines = 0, refusedCount lines,
        if refusedCount lines = 0 then none else some "INPUT_SCHEMA_FAILURE"⟩ := by
  obtain ⟨hnonblank, -, hcounted, hviolated⟩ := cleanScanned lines
  simp only [validateCleanSamples, hnonblank, hcounted]
  by_cases hempty : nonblankCount lines = 0
  · rw [if_pos hempty, if_pos hempty]
    rfl
  · rw [if_neg hempty, if_neg hempty, CleanSampleValidationResult.verdict]
    by_cases hnone : refusedCount lines = 0
    · simp [hviolated.mpr hnone, hnone]
    · simp [hviolated, hnone]

/-! ### The streaming verdict -/

/-- Reading rows counts them, and those with errors. -/
theorem CleanIngestStats.foldl_step (clean : CleanIngestStats) (records : List (ℕ × Json)) :
    (records.foldl step clean).nonblankLineCount = clean.nonblankLineCount + records.length ∧
    (records.foldl step clean).invalidCleanSampleCount = clean.invalidCleanSampleCount +
      (records.map Prod.snd).countP fun row => cleanSampleErrors row ≠ [] := by
  induction records generalizing clean with
  | nil => exact ⟨rfl, rfl⟩
  | cons record records ih =>
      obtain ⟨hlines, hinvalid⟩ := ih (clean.step record)
      rw [List.foldl_cons, hlines, hinvalid, List.map_cons, List.countP_cons, List.length_cons]
      by_cases herrors : cleanSampleErrors record.2 = []
      · simp [step, herrors]
        omega
      · simp [step, herrors]
        omega

/-- **Reading a file fills the tables with its rows.** -/
theorem ingest_ingestCleanFile (lines : List FileLine) :
    (ingestCleanFile (some lines)).1.ingest = ingestCleanSamples (fileRows lines) := by
  have hfold (clean : CleanIngestStats) (records : List (ℕ × Json)) :
      (records.foldl CleanIngestStats.step clean).ingest =
        (records.map Prod.snd).foldl ingestCleanSample clean.ingest := by
    induction records generalizing clean with
    | nil => rfl
    | cons record records ih =>
        have hstep : (clean.step record).ingest = ingestCleanSample clean.ingest record.2 := by
          rw [CleanIngestStats.step, ingestCleanSample]
          by_cases herrors : cleanSampleErrors record.2 = [] <;> simp [herrors]
        rw [List.foldl_cons, ih, hstep, List.map_cons, List.foldl_cons]
  rw [ingestCleanSamples, ← (reported_streamJsonlRecords lines).rows]
  exact hfold _ _

/-- **The streaming verdict**: by the rows and the lines that are refused. -/
theorem ingestCleanFile_verdict (lines : List FileLine) :
    (ingestCleanFile (some lines)).1.verdict =
      if fileRows lines = [] then ⟨false, refusedCount lines, some "INPUT_EMPTY"⟩
      else ⟨refusedCount lines = 0, refusedCount lines,
        if refusedCount lines = 0 then none else some "INPUT_SCHEMA_FAILURE"⟩ := by
  obtain ⟨-, -, hmalformed, hrows⟩ := reported_streamJsonlRecords lines
  obtain ⟨hlines, hinvalid⟩ := CleanIngestStats.foldl_step { fileExists := true }
    (streamJsonlRecords lines).2
  have hlength : (streamJsonlRecords lines).2.length = (fileRows lines).length := by
    rw [← hrows, List.length_map]
  rw [hlength] at hlines
  rw [hrows] at hinvalid
  have hrefused := refusedCount_eq lines
  simp only [ingestCleanFile, CleanIngestStats.verdict, hlines, hinvalid, hmalformed, Nat.zero_add]
  rw [Nat.add_comm, ← hrefused]
  by_cases hempty : fileRows lines = []
  · simp [hempty]
  · by_cases hnone : refusedCount lines = 0
    · simp [hempty, hnone]
    · simp [hempty, hnone, Nat.pos_of_ne_zero hnone]

/-! ### The two verdicts -/

/-- Both validations give the same verdict, and call only files without content empty. -/
def SameCleanVerdict (inputPath : String) (lines : List FileLine) : Prop :=
  (ingestCleanFile (some lines)).1.verdict =
    (validateCleanSamples inputPath (some lines)).verdict ∧
  ((ingestCleanFile (some lines)).1.verdict.failureClassification = some "INPUT_EMPTY" →
    nonblankCount lines = 0)

/-- **The two validations agree exactly on the files that hold a row or only blank lines.** -/
theorem sameCleanVerdict_iff (inputPath : String) (lines : List FileLine) :
    SameCleanVerdict inputPath lines ↔ fileRows lines ≠ [] ∨ nonblankCount lines = 0 := by
  have hcount := nonblankCount_eq lines
  have hrefused := refusedCount_eq lines
  rw [SameCleanVerdict, ingestCleanFile_verdict, validateCleanSamples_verdict]
  by_cases hrows : fileRows lines = []
  · rw [hrows] at hcount hrefused
    by_cases hblank : nonblankCount lines = 0
    · have hnone : refusedCount lines = 0 := by simp at hcount hrefused; omega
      simp [hrows, hblank, hnone]
    · simp [hrows, hblank]
  · have hblank : nonblankCount lines ≠ 0 := by
      have hpos := List.length_pos_iff.mpr hrows
      omega
    rw [if_neg hrows, if_neg hblank]
    refine iff_of_true ⟨rfl, fun hclass => ?_⟩ (.inl hrows)
    by_cases hnone : refusedCount lines = 0 <;> simp [hnone] at hclass

/-- A file whose only line does not decode is empty to the streaming validation alone. -/
theorem sameCleanVerdict_false_of_undecodable :
    ¬ SameCleanVerdict "samples.jsonl" [.undecodable "Expecting value"] := by
  rintro ⟨hsame, -⟩
  exact absurd hsame (by decide)

end SomethingTrade
