import SomethingTrade.Backtracking
import SomethingTrade.TimestampAudit

/-!
# Manifests of Checksums

A manifest lists the files of a directory, each on a line with its checksum. The verification
reads the lines by a pattern, strips what is left of leading dots and slashes, and compares the
file that the rest names with the checksum. The strip takes characters, not steps of a path, and
the pattern takes a star before the path for a mark: so a file whose name starts with a dot or a
star is looked for under another name.

## Representation

* A path is the list of its names from the root. The tree gives the content of the files at
  paths, and has no symbolic links.
* The checksum of a content is a parameter.
* The lines are those that `splitlines` gives.

## Main results

* `parseSha256sumLine_line`: what is read of a line that lists a file.
* `pathParts_lstripMarks_iff`: when the strip leaves a path as it is.
* `manifest_compares_iff`: every listed file is compared with its own checksum exactly when every
  path names the same file without its marks.
-/

namespace SomethingTrade

open Decimal (isSpace strip)

/-! ### Lines -/

/-- A digit of a hexadecimal number. -/
def isHexDigit (c : Char) : Bool :=
  c.isDigit || ('a' ≤ c && c ≤ 'f') || ('A' ≤ c && c ≤ 'F')

/-- `$`: the end of a text, or the line break that ends it. -/
def atEnd (cs : List Char) : Bool := cs = [] || cs = ['\n']

/-- What the pattern of a line matches: the digest, and the path with white space around it. -/
def matchSha256sumLine (line : List Char) : Option (List Char × List Char) :=
  ((greedy isSpace line).flatMap fun start =>
    (exactly isHexDigit 64 start.2).flatMap fun sha =>
      (greedy1 isSpace sha.2).flatMap fun space =>
        (optionally (· = '*') space.2).flatMap fun star =>
          (lazy1 (· ≠ '\n') star.2).flatMap fun path =>
            (greedy isSpace path.2).flatMap fun rest =>
              if atEnd rest.2 then [(sha.1, path.1)] else []).head?

/-- A mark that is stripped off a path. -/
def isMark (c : Char) : Bool := c = '.' || c = '/' || c = '\\'

/-- Strip the marks that a path starts with. -/
def lstripMarks (path : List Char) : List Char := path.dropWhile isMark

/-- The digest and the path of a line. -/
def parseSha256sumLine (line : List Char) : Option (List Char × List Char) :=
  (matchSha256sumLine line).map fun e => (e.1.map Char.toLower, lstripMarks (strip e.2))

/-! ### Paths -/

/-- A path, by its names. -/
abbrev FilePath := List (List Char)

/-- The names of a path; empty ones and single dots do not count. -/
def pathParts (path : List Char) : FilePath :=
  (path.splitOn '/').filter fun part => part ≠ [] && part ≠ ['.']

/-- Take a step of a path: two dots lead back. -/
def resolveStep (path : FilePath) (part : List Char) : FilePath :=
  if part = ['.', '.'] then path.dropLast else path ++ [part]

/-- A path without steps back. -/
def resolve (path : FilePath) : FilePath := path.foldl resolveStep []

/-- Where a path leads to from a directory. -/
def candidatePath (base : FilePath) (relative : List Char) : FilePath :=
  resolve (if relative.head? = some '/' then pathParts relative else base ++ pathParts relative)

/-- Whether a path lies below another. -/
def isRelativeTo (path root : FilePath) : Bool := (resolve root).isPrefixOf (resolve path)

/-- A path as it is shown. -/
def displayPath (path : FilePath) : List Char :=
  ('/' :: ['/'].intercalate path).map fun c => if c = '\\' then '/' else c

/-! ### The verification -/

/-- A failure that is reported. -/
inductive ManifestFailure
  | manifestReadError
  | mismatch (path expected actual : List Char)

/-- What is reported of a manifest. -/
structure ManifestResult where
  present : Bool
  checked : ℕ
  passed : ℕ
  failed : ℕ
  skipped : ℕ
  failures : List ManifestFailure

/-- A manifest. -/
inductive ManifestText
  | missing
  | unreadable
  | lines (lines : List (List Char))

section Verification

variable {Content : Type} (files : FilePath → Option Content) (sha256 : Content → List Char)
  (base : FilePath)

/-- Check a line. -/
def checkLine (acc : ManifestResult) (line : List Char) : ManifestResult :=
  match parseSha256sumLine line with
  | none => acc
  | some (expected, relative) =>
      let candidate := candidatePath base relative
      if !isRelativeTo candidate base then { acc with skipped := acc.skipped + 1 }
      else
        match files candidate with
        | none => { acc with skipped := acc.skipped + 1 }
        | some content =>
            let actual := sha256 content
            if actual = expected then
              { acc with checked := acc.checked + 1, passed := acc.passed + 1 }
            else
              { acc with
                checked := acc.checked + 1
                failed := acc.failed + 1
                failures :=
                  if acc.failures.length < maxSampleErrorsPerFile then
                    acc.failures ++ [.mismatch (displayPath candidate) expected actual]
                  else acc.failures }

/-- Verify the files that a manifest lists. -/
def verifyManifest : ManifestText → ManifestResult
  | .missing => ⟨false, 0, 0, 0, 0, []⟩
  | .unreadable => ⟨true, 0, 0, 1, 0, [.manifestReadError]⟩
  | .lines lines => lines.foldl (checkLine files sha256 base) ⟨true, 0, 0, 0, 0, []⟩

/-- The file of the tree that a path names. -/
def fileAt (relative : List Char) : Option (FilePath × Content) :=
  let candidate := candidatePath base relative
  if isRelativeTo candidate base then (files candidate).map fun content => (candidate, content)
  else none

/-- The file that a line has the verification compare, and with what digest. -/
def comparison (line : List Char) : Option ((FilePath × Content) × List Char) :=
  (parseSha256sumLine line).bind fun e => (fileAt files base e.2).map fun file => (file, e.1)

/-- A line is counted by the file that it has compared. -/
theorem checkLine_eq (acc : ManifestResult) (line : List Char) :
    (checkLine files sha256 base acc line).checked =
        acc.checked + (comparison files base line).toList.length ∧
      (checkLine files sha256 base acc line).failed =
        acc.failed + ((comparison files base line).toList.filter fun e =>
          sha256 e.1.2 ≠ e.2).length := by
  rw [checkLine, comparison]
  cases parseSha256sumLine line with
  | none => exact ⟨rfl, rfl⟩
  | some e =>
      rw [Option.bind_some, fileAt]
      cases hinside : isRelativeTo (candidatePath base e.2) base with
      | false => simp [hinside]
      | true =>
          cases hfile : files (candidatePath base e.2) with
          | none => simp [hfile, hinside]
          | some content =>
              by_cases heq : sha256 content = e.1 <;> simp [hfile, hinside, heq]

/-- The counts of a run are those of the comparisons. -/
theorem verifyManifest_eq (lines : List (List Char)) :
    (verifyManifest files sha256 base (.lines lines)).checked =
        (lines.filterMap (comparison files base)).length ∧
      (verifyManifest files sha256 base (.lines lines)).failed =
        ((lines.filterMap (comparison files base)).filter fun e => sha256 e.1.2 ≠ e.2).length := by
  have hrun (lines : List (List Char)) (acc : ManifestResult) :
      (lines.foldl (checkLine files sha256 base) acc).checked =
          acc.checked + (lines.filterMap (comparison files base)).length ∧
        (lines.foldl (checkLine files sha256 base) acc).failed =
          acc.failed + ((lines.filterMap (comparison files base)).filter fun e =>
            sha256 e.1.2 ≠ e.2).length := by
    induction lines generalizing acc with
    | nil => exact ⟨rfl, rfl⟩
    | cons line lines ih =>
        obtain ⟨hchecked, hfailed⟩ := checkLine_eq files sha256 base acc line
        rw [List.foldl_cons, (ih _).1, (ih _).2, hchecked, hfailed, List.filterMap_cons]
        cases comparison files base line with
        | none => exact ⟨rfl, rfl⟩
        | some e =>
            by_cases heq : sha256 e.1.2 = e.2 <;> simp [heq] <;> omega
  have h := hrun lines ⟨true, 0, 0, 0, 0, []⟩
  rw [Nat.zero_add, Nat.zero_add] at h
  exact h

end Verification

/-! ### Lines that list a file -/

/-- A line of a manifest: a digest and a relative path. -/
structure ListedFile where
  digest : List Char
  path : List Char
  digest_length : digest.length = 64
  digest_hex : ∀ c ∈ digest, isHexDigit c = true
  path_ne : path ≠ []
  path_relative : path.head? ≠ some '/'
  path_start : ∀ c ∈ path.head?, isSpace c = false
  path_stop : ∀ c ∈ path.getLast?, isSpace c = false
  path_line : '\n' ∉ path

namespace ListedFile

/-- The line that lists a file. -/
def line (e : ListedFile) : List Char := e.digest ++ ([' ', ' '] ++ e.path)

/-- The digest that is recorded, which does not depend on the case of the letters. -/
def expected (e : ListedFile) : List Char := e.digest.map Char.toLower

end ListedFile

/-- A path without the star that is taken for a mark. -/
def dropStar : List Char → List Char
  | '*' :: c :: cs => c :: cs
  | cs => cs

/-- What is left of a path without its marks. -/
def withoutMarks (path : List Char) : List Char := lstripMarks (strip (dropStar path))

/-- Digits are no white space. -/
theorem isSpace_of_isHexDigit {c : Char} (h : isHexDigit c = true) : isSpace c = false := by
  have hrange : 48 ≤ c.toNat ∧ c.toNat ≤ 102 := by
    simp only [isHexDigit, Char.isDigit, Bool.or_eq_true, Bool.and_eq_true, decide_eq_true_eq,
      Char.le_def, UInt32.le_iff_toNat_le] at h
    change 48 ≤ c.val.toNat ∧ c.val.toNat ≤ 102
    rcases h with (⟨h1, h2⟩ | ⟨h1, h2⟩) | ⟨h1, h2⟩ <;>
      exact ⟨le_trans (by decide) h1, le_trans h2 (by decide)⟩
  simp [isSpace]
  omega

theorem dropWhile_of_head? {p : Char → Bool} {cs : List Char}
    (h : ∀ c ∈ cs.head?, p c = false) : cs.dropWhile p = cs := by
  cases cs with
  | nil => rfl
  | cons c cs => exact List.dropWhile_cons_of_neg (by simp [h c rfl])

/-- Of a text that does not end in white space only the start is stripped. -/
theorem strip_of_stop {cs : List Char} (h : ∀ c ∈ cs.getLast?, isSpace c = false) :
    strip cs = cs.dropWhile isSpace := by
  rw [strip, dropWhile_of_head?, List.reverse_reverse]
  intro c hc
  rw [List.head?_reverse] at hc
  obtain ⟨before, heq⟩ : cs.dropWhile isSpace <:+ cs := List.dropWhile_suffix isSpace
  refine h c ?_
  rw [← heq, List.getLast?_append, hc]
  rfl

/-- The path of a line is matched as far as its end. -/
theorem flatMap_path (sha : List Char) {cs : List Char} (hne : cs ≠ []) (hline : '\n' ∉ cs)
    (hstop : ∀ c ∈ cs.getLast?, isSpace c = false) :
    ((lazy1 (· ≠ '\n') cs).flatMap fun path => (greedy isSpace path.2).flatMap fun rest =>
      if atEnd rest.2 then [(sha, path.1)] else []) = [(sha, cs)] := by
  have hchars : ∀ c ∈ cs, decide (c ≠ '\n') = true := by
    intro c hc
    exact decide_eq_true (ne_of_mem_of_not_mem hc hline)
  refine (flatMap_lazy1 hne hchars fun e happend hleft => ?_).trans rfl
  refine List.flatMap_eq_nil_iff.mpr fun rest hrest => if_neg fun hend => ?_
  obtain ⟨hrest, hspace⟩ := mem_greedy hrest
  -- all that is left is white space, but the path does not end in any
  have hall : ∀ c ∈ e.2, isSpace c = true := by
    intro c hc
    rw [← hrest] at hc
    rcases List.mem_append.mp hc with hc | hc
    · exact hspace c hc
    · rw [atEnd, Bool.or_eq_true, decide_eq_true_eq, decide_eq_true_eq] at hend
      rcases hend with hnil | hbreak
      · exact absurd (hnil ▸ hc) List.not_mem_nil
      · rw [hbreak, List.mem_singleton] at hc
        exact hc ▸ rfl
  obtain ⟨last, hlast⟩ := Option.ne_none_iff_exists'.mp (mt List.getLast?_eq_none_iff.mp hleft)
  have hfalse := hstop last (by rw [← happend, List.getLast?_append, hlast]; rfl)
  rw [hall last (List.mem_of_getLast? hlast)] at hfalse
  cases hfalse

/-- The path of a line is matched without a star before it. -/
theorem head?_flatMap_path (sha : List Char) {path : List Char} (hne : path ≠ [])
    (hline : '\n' ∉ path) (hstop : ∀ c ∈ path.getLast?, isSpace c = false) :
    ((optionally (· = '*') path).flatMap fun star =>
      (lazy1 (· ≠ '\n') star.2).flatMap fun path => (greedy isSpace path.2).flatMap fun rest =>
        if atEnd rest.2 then [(sha, path.1)] else []).head? = some (sha, dropStar path) := by
  obtain ⟨c, cs, rfl⟩ := List.exists_cons_of_ne_nil hne
  by_cases hstar : c = '*'
  · subst hstar
    cases cs with
    | nil => rfl
    | cons c cs =>
        refine head?_flatMap_of_head? rfl ?_
        rw [flatMap_path sha (List.cons_ne_nil c cs) (fun h => hline (List.mem_cons_of_mem _ h))
          (fun d hd => hstop d (by rw [List.getLast?_cons_cons]; exact hd))]
        rfl
  · have hdrop : dropStar (c :: cs) = c :: cs := by
      rw [dropStar]
      rintro d ds ⟨rfl, -⟩
      exact hstar rfl
    rw [optionally, if_neg (by simp [hstar]), List.flatMap_singleton,
      flatMap_path sha hne hline hstop, hdrop]
    rfl

/-- **What is read of a line that lists a file**: the digest, and the path without its marks. -/
theorem parseSha256sumLine_line (e : ListedFile) :
    parseSha256sumLine e.line = some (e.expected, withoutMarks e.path) := by
  have hdigest : ∀ c ∈ e.line.head?, isSpace c = false := by
    intro c hc
    refine isSpace_of_isHexDigit (e.digest_hex c ?_)
    have hne : e.digest ≠ [] := by
      intro hnil
      have hlength := e.digest_length
      rw [hnil] at hlength
      cases hlength
    rw [ListedFile.line, List.head?_append_of_ne_nil _ hne] at hc
    exact List.mem_of_head? hc
  have hspaces : ∀ c ∈ [' ', ' '], isSpace c = true := List.all_eq_true.mp (by decide)
  have hexact : exactly isHexDigit e.digest.length e.line =
      [(e.digest, [' ', ' '] ++ e.path)] := exactly_append e.digest_hex
  rw [e.digest_length] at hexact
  have hmatch : matchSha256sumLine e.line = some (e.digest, dropStar e.path) := by
    refine head?_flatMap_of_head? (@head?_greedy _ isSpace [] e.line (by simp) hdigest) ?_
    refine head?_flatMap_of_head? (congrArg List.head? hexact) ?_
    refine head?_flatMap_of_head? (head?_greedy1 (List.cons_ne_nil _ _) hspaces e.path_start) ?_
    exact head?_flatMap_path e.digest e.path_ne e.path_line e.path_stop
  rw [parseSha256sumLine, hmatch]
  rfl

/-! ### The names of a path -/

theorem splitOn_slash (cs : List Char) : ('/' :: cs).splitOn '/' = [] :: cs.splitOn '/' := by
  rw [List.splitOn, List.splitOnP_cons_eq_if_modifyHead]
  rfl

/-- Another character belongs to the first name. -/
theorem exists_splitOn {c : Char} (hc : c ≠ '/') (cs : List Char) :
    ∃ first more, cs.splitOn '/' = first :: more ∧
      (c :: cs).splitOn '/' = (c :: first) :: more := by
  obtain ⟨first, more, heq⟩ := List.exists_cons_of_ne_nil (List.splitOnP_ne_nil (· == '/') cs)
  refine ⟨first, more, heq, ?_⟩
  rw [List.splitOn, List.splitOnP_cons_eq_if_modifyHead, heq, if_neg (by simpa using hc)]
  rfl

/-- A slash before a path leads nowhere. -/
theorem pathParts_slash (cs : List Char) : pathParts ('/' :: cs) = pathParts cs := by
  rw [pathParts, splitOn_slash]
  rfl

/-- Neither does a dot and a slash. -/
theorem pathParts_dot_slash (cs : List Char) : pathParts ('.' :: '/' :: cs) = pathParts cs := by
  obtain ⟨first, more, hsplit, hdot⟩ := exists_splitOn (c := '.') (by decide) ('/' :: cs)
  rw [splitOn_slash, List.cons.injEq] at hsplit
  rw [pathParts, hdot, ← hsplit.1, ← hsplit.2]
  rfl

/-- The character that the names of a path start with. -/
def firstChar (path : List Char) : Option Char := (pathParts path).head?.bind List.head?

/-- A path that starts with no mark starts with its first name. -/
theorem firstChar_of_not_mark {c : Char} (hc : isMark c = false) (cs : List Char) :
    firstChar (c :: cs) = some c := by
  simp only [isMark, Bool.or_eq_false_iff, decide_eq_false_iff_not] at hc
  obtain ⟨first, more, -, hsplit⟩ := exists_splitOn hc.1.2 cs
  rw [firstChar, pathParts, hsplit, List.filter_cons_of_pos]
  · rfl
  · simp [hc.1.1]

/-- A path that starts with a dot, but not with a step, has a name that starts with one. -/
theorem firstChar_of_dot {c : Char} (hc : c ≠ '/') (cs : List Char) :
    firstChar ('.' :: c :: cs) = some '.' := by
  obtain ⟨first, more, hsplit, hdot⟩ := exists_splitOn (c := '.') (by decide) (c :: cs)
  obtain ⟨second, more', -, hsplit'⟩ := exists_splitOn hc cs
  rw [hsplit', List.cons.injEq] at hsplit
  rw [firstChar, pathParts, hdot, ← hsplit.1, List.filter_cons_of_pos (by simp)]
  rfl

theorem firstChar_backslash (cs : List Char) : firstChar ('\\' :: cs) = some '\\' := by
  obtain ⟨first, more, -, hsplit⟩ := exists_splitOn (c := '\\') (by decide) cs
  rw [firstChar, pathParts, hsplit, List.filter_cons_of_pos (by simp)]
  rfl

/-- Marks that are no names lead nowhere. The recursion follows the steps. -/
theorem pathParts_lstripMarks {cs : List Char} (h : ∀ c ∈ firstChar cs, isMark c = false) :
    pathParts (lstripMarks cs) = pathParts cs := by
  induction hn : cs.length using Nat.strong_induction_on generalizing cs with
  | h n ih =>
  subst hn
  cases cs with
  | nil => rfl
  | cons c cs =>
      by_cases hmark : isMark c = true
      · have hstrip : lstripMarks (c :: cs) = lstripMarks cs := List.dropWhile_cons_of_pos hmark
        simp only [isMark, Bool.or_eq_true, decide_eq_true_eq] at hmark
        rcases hmark with (rfl | rfl) | rfl
        · cases cs with
          | nil => rfl
          | cons d ds =>
              by_cases hd : d = '/'
              · subst hd
                have hstrip' : lstripMarks ('/' :: ds) = lstripMarks ds := rfl
                have hsame := pathParts_dot_slash ds
                rw [firstChar, hsame] at h
                rw [hstrip, hstrip', hsame]
                exact ih ds.length (by simp only [List.length_cons]; omega) h rfl
              · exact absurd (h '.' (firstChar_of_dot hd ds)) (by decide)
        · have hsame := pathParts_slash cs
          rw [firstChar, hsame] at h
          rw [hstrip, hsame]
          exact ih cs.length (by simp) h rfl
        · exact absurd (h '\\' (firstChar_backslash cs)) (by decide)
      · exact congrArg pathParts (List.dropWhile_cons_of_neg hmark)

/-- What is left after the strip starts with no mark. -/
theorem head?_lstripMarks (cs : List Char) : ∀ c ∈ (lstripMarks cs).head?, isMark c = false := by
  intro c hc
  have hhead := List.head?_dropWhile_not isMark cs
  rw [lstripMarks] at hc
  rw [hc] at hhead
  exact hhead

/-- **The strip leaves a path as it is exactly when its names start with no mark.** -/
theorem pathParts_lstripMarks_iff (cs : List Char) :
    pathParts (lstripMarks cs) = pathParts cs ↔ ∀ c ∈ firstChar cs, isMark c = false := by
  refine ⟨fun h c hc => ?_, pathParts_lstripMarks⟩
  rw [Option.mem_def, firstChar, ← h] at hc
  have hhead := head?_lstripMarks cs
  cases hstrip : lstripMarks cs with
  | nil =>
      rw [hstrip] at hc
      cases hc
  | cons d ds =>
      have hd : isMark d = false := hhead d (by rw [hstrip]; rfl)
      rw [hstrip] at hc
      have hfirst := firstChar_of_not_mark hd ds
      rw [firstChar, hc, Option.some.injEq] at hfirst
      exact hfirst ▸ hd

/-! ### Stars -/

/-- Names hold the characters of their path, but for slashes and dots. -/
theorem count_pathParts {c : Char} (hslash : c ≠ '/') (hdot : c ≠ '.') (cs : List Char) :
    (pathParts cs).flatten.count c = cs.count c := by
  have hfilter (parts : FilePath) : ((parts.filter fun part => part ≠ [] && part ≠ ['.']).flatten
      ).count c = parts.flatten.count c := by
    induction parts with
    | nil => rfl
    | cons part parts ih =>
        rw [List.filter_cons]
        split
        · rw [List.flatten_cons, List.flatten_cons, List.count_append, List.count_append, ih]
        · rename_i hpart
          have hnone : part.count c = 0 := by
            refine List.count_eq_zero.mpr fun hmem => hpart ?_
            have hne : part ≠ [] := List.ne_nil_of_mem hmem
            have hdots : part ≠ ['.'] := fun heq => hdot (List.mem_singleton.mp (heq ▸ hmem))
            simp [hne, hdots]
          rw [List.flatten_cons, List.count_append, ih, hnone, Nat.zero_add]
  have hsplit : (cs.splitOn '/').flatten.count c = cs.count c := by
    induction cs with
    | nil => rfl
    | cons d cs ih =>
        by_cases hd : d = '/'
        · subst hd
          rw [splitOn_slash, List.flatten_cons, List.nil_append, ih,
            List.count_cons_of_ne hslash.symm]
        · obtain ⟨first, more, heq, hcons⟩ := exists_splitOn hd cs
          rw [heq] at ih
          rw [hcons, List.flatten_cons, List.cons_append, List.count_cons, List.count_cons, ← ih,
            List.flatten_cons]
  rw [pathParts, hfilter, hsplit]

/-! ### Steps back -/

/-- The names of a path after the first one are names of any path that it ends. -/
theorem tail_splitOn_subset {cs path : List Char} (h : cs <:+ path) :
    (cs.splitOn '/').tail ⊆ (path.splitOn '/').tail := by
  obtain ⟨before, rfl⟩ := h
  induction before with
  | nil => exact List.Subset.refl _
  | cons c before ih =>
      by_cases hc : c = '/'
      · subst hc
        rw [List.cons_append, splitOn_slash]
        exact fun part hpart => List.mem_of_mem_tail (ih hpart)
      · obtain ⟨first, more, heq, hcons⟩ := exists_splitOn hc (before ++ cs)
        rw [heq] at ih
        rw [List.cons_append, hcons]
        exact ih

/-- What is left of a path without steps back has none. -/
theorem dots_notMem {cs path : List Char} (h : cs <:+ path) (hpath : ['.', '.'] ∉ pathParts path)
    (hhead : ∀ c ∈ cs.head?, isMark c = false) : ['.', '.'] ∉ pathParts cs := by
  intro hmem
  obtain ⟨hmem, hkeep⟩ := List.mem_filter.mp hmem
  have htail : ['.', '.'] ∈ (cs.splitOn '/').tail := by
    cases cs with
    | nil => simp [List.splitOn] at hmem
    | cons c cs =>
        have hmark := hhead c rfl
        have hc : c ≠ '/' := by
          rintro rfl
          cases hmark
        obtain ⟨first, more, -, hcons⟩ := exists_splitOn hc cs
        rw [hcons] at hmem ⊢
        rcases List.mem_cons.mp hmem with heq | hmem
        · obtain ⟨rfl, -⟩ := List.cons.inj heq
          cases hmark
        · exact hmem
  exact hpath (List.mem_filter.mpr
    ⟨List.mem_of_mem_tail (tail_splitOn_subset h htail), hkeep⟩)

/-- A path without steps back is taken from where it starts. -/
theorem foldl_resolveStep {parts : FilePath} (h : ['.', '.'] ∉ parts) (start : FilePath) :
    parts.foldl resolveStep start = start ++ parts := by
  induction parts generalizing start with
  | nil => exact (List.append_nil start).symm
  | cons part parts ih =>
      rw [List.mem_cons, not_or] at h
      obtain ⟨hpart, hparts⟩ := h
      rw [List.foldl_cons, resolveStep, if_neg (Ne.symm hpart), ih hparts, List.append_assoc]
      rfl

theorem candidatePath_eq (base : FilePath) {relative : List Char} (h : relative.head? ≠ some '/')
    (hdots : ['.', '.'] ∉ pathParts relative) :
    candidatePath base relative = resolve base ++ pathParts relative := by
  rw [candidatePath, if_neg h, resolve, List.foldl_append, foldl_resolveStep hdots]
  rfl

/-! ### Paths without their marks -/

/-- The names of a path start with no mark, and the path not with a star that is taken for one. -/
def StartsPlain (path : List Char) : Prop :=
  (path.head? = some '*' → path = ['*']) ∧ ∀ c ∈ firstChar path, isMark c = false

namespace ListedFile

variable (e : ListedFile)

/-- A path that starts with a star has it dropped, unless it is all there is. -/
theorem withoutMarks_eq (h : e.path.head? = some '*' → e.path = ['*']) :
    withoutMarks e.path = lstripMarks e.path := by
  have hdrop : dropStar e.path = e.path := by
    rw [dropStar]
    intro c cs heq
    have hstar := h (by rw [heq]; rfl)
    rw [heq] at hstar
    cases hstar
  rw [withoutMarks, hdrop, strip_of_stop e.path_stop, dropWhile_of_head? e.path_start]

/-- What is left of a path ends it. -/
theorem withoutMarks_suffix : withoutMarks e.path <:+ (dropStar e.path) := by
  have hstop : ∀ c ∈ (dropStar e.path).getLast?, isSpace c = false := by
    rw [dropStar.eq_def]
    split
    · rename_i c cs heq
      intro d hd
      exact e.path_stop d (by rw [heq, List.getLast?_cons_cons]; exact hd)
    · exact e.path_stop
  rw [withoutMarks, strip_of_stop hstop]
  exact (List.dropWhile_suffix _).trans (List.dropWhile_suffix _)

theorem dropStar_suffix (path : List Char) : dropStar path <:+ path := by
  rw [dropStar.eq_def]
  split
  · exact List.suffix_cons _ _
  · exact List.suffix_refl _

/-- **A path keeps its names without its marks exactly when it starts plainly.** -/
theorem pathParts_withoutMarks_iff :
    pathParts (withoutMarks e.path) = pathParts e.path ↔ StartsPlain e.path := by
  by_cases hstar : e.path.head? = some '*' → e.path = ['*']
  · rw [e.withoutMarks_eq hstar, pathParts_lstripMarks_iff, StartsPlain]
    exact (and_iff_right hstar).symm
  · refine iff_of_false (fun heq => ?_) fun hplain => hstar hplain.1
    obtain ⟨hhead, hne⟩ := Classical.not_imp.mp hstar
    obtain ⟨cs, hpath⟩ := List.head?_eq_some_iff.mp hhead
    cases cs with
    | nil => exact hne hpath
    | cons c cs =>
        have hcount := congrArg (fun parts => parts.flatten.count '*') heq
        have hle := e.withoutMarks_suffix.sublist.count_le '*'
        simp only [count_pathParts (by decide : '*' ≠ '/') (by decide : '*' ≠ '.')] at hcount
        rw [hcount, hpath, dropStar, List.count_cons_self] at hle
        omega

end ListedFile

section Files

variable {Content : Type} (files : FilePath → Option Content) (sha256 : Content → List Char)
  (base : FilePath)

theorem fileAt_eq_some {relative : List Char} {file : FilePath × Content}
    (h : fileAt files base relative = some file) : file.1 = candidatePath base relative := by
  rw [fileAt] at h
  split at h
  · obtain ⟨content, -, rfl⟩ := Option.map_eq_some_iff.mp h
    rfl
  · cases h

/-- A path to a file names it without its marks exactly when it starts plainly. -/
theorem fileAt_withoutMarks_iff (e : ListedFile) (hdots : ['.', '.'] ∉ pathParts e.path)
    (hfile : (fileAt files base e.path).isSome) :
    fileAt files base (withoutMarks e.path) = fileAt files base e.path ↔ StartsPlain e.path := by
  have hhead : ∀ c ∈ (withoutMarks e.path).head?, isMark c = false := head?_lstripMarks _
  have hrelative : (withoutMarks e.path).head? ≠ some '/' := by
    intro heq
    cases hhead '/' heq
  have hsuffix := e.withoutMarks_suffix.trans (ListedFile.dropStar_suffix e.path)
  have hpath := candidatePath_eq base e.path_relative hdots
  have hleft := candidatePath_eq base hrelative (dots_notMem hsuffix hdots hhead)
  rw [← e.pathParts_withoutMarks_iff]
  constructor
  · intro heq
    obtain ⟨file, hfile⟩ := Option.isSome_iff_exists.mp hfile
    have hsame := (fileAt_eq_some files base (heq.trans hfile)).symm.trans
      (fileAt_eq_some files base hfile)
    rw [hpath, hleft] at hsame
    exact List.append_cancel_left hsame
  · intro heq
    rw [fileAt, fileAt, hpath, hleft, heq]

/-- Whether a listed file has another checksum than the one recorded. -/
def mismatches (e : ListedFile) : Bool :=
  (fileAt files base e.path).any fun file => sha256 file.2 ≠ e.expected

/-- Every listed file is compared with its own checksum, and counted. -/
structure ComparesListed (listed : List ListedFile) : Prop where
  compared : ∀ e ∈ listed, comparison files base e.line =
    (fileAt files base e.path).map fun file => (file, e.expected)
  checked : (verifyManifest files sha256 base (.lines (listed.map ListedFile.line))).checked =
    listed.countP fun e => (fileAt files base e.path).isSome
  failed : (verifyManifest files sha256 base (.lines (listed.map ListedFile.line))).failed =
    listed.countP (mismatches files sha256 base)

theorem comparison_line (e : ListedFile) : comparison files base e.line =
    (fileAt files base (withoutMarks e.path)).map fun file => (file, e.expected) := by
  rw [comparison, parseSha256sumLine_line, Option.bind_some]

/-- **Every listed file is compared with its own checksum exactly when every path names the same
file, or none, without its marks**; for a path to a file that is when it starts plainly. -/
theorem manifest_compares_iff (listed : List ListedFile) :
    (ComparesListed files sha256 base listed ↔
      ∀ e ∈ listed, fileAt files base (withoutMarks e.path) = fileAt files base e.path) ∧
    ∀ e ∈ listed, ['.', '.'] ∉ pathParts e.path → (fileAt files base e.path).isSome →
      (fileAt files base (withoutMarks e.path) = fileAt files base e.path ↔
        StartsPlain e.path) := by
  refine ⟨⟨fun h e he => ?_, fun h => ?_⟩, fun e _ => fileAt_withoutMarks_iff files base e⟩
  · have hcompared := (comparison_line files base e).symm.trans (h.compared e he)
    have hinj : Function.Injective fun file : FilePath × Content => (file, e.expected) :=
      fun _ _ heq => (Prod.mk.inj heq).1
    exact Option.map_injective hinj hcompared
  · have hcompared : ∀ e ∈ listed, comparison files base e.line =
        (fileAt files base e.path).map fun file => (file, e.expected) := by
      intro e he
      rw [comparison_line, h e he]
    have hall : (listed.map ListedFile.line).filterMap (comparison files base) =
        listed.filterMap fun e => (fileAt files base e.path).map fun file =>
          (file, e.expected) := by
      rw [List.filterMap_map]
      exact List.filterMap_congr hcompared
    obtain ⟨hchecked, hfailed⟩ :=
      verifyManifest_eq files sha256 base (listed.map ListedFile.line)
    refine ⟨hcompared, ?_, ?_⟩
    · rw [hchecked, hall, List.length_filterMap_eq_countP]
      simp only [Option.isSome_map]
    · rw [hfailed, hall, List.filter_filterMap, List.length_filterMap_eq_countP]
      refine List.countP_congr fun e _ => ?_
      rw [mismatches]
      cases fileAt files base e.path <;> simp

end Files

/-- A listed file whose digest is all zeros. -/
def listedAs (path : List Char) (hne : path ≠ []) (hrelative : path.head? ≠ some '/')
    (hstart : ∀ c ∈ path.head?, isSpace c = false) (hstop : ∀ c ∈ path.getLast?, isSpace c = false)
    (hline : '\n' ∉ path) : ListedFile where
  digest := List.replicate 64 '0'
  path := path
  digest_length := List.length_replicate
  digest_hex := fun _ hc => List.eq_of_mem_replicate hc ▸ rfl
  path_ne := hne
  path_relative := hrelative
  path_start := hstart
  path_stop := hstop
  path_line := hline

/-- A tree of one file. -/
def oneFile (path : FilePath) : FilePath → Option ℕ := fun p => if p = path then some 0 else none

/-- A hidden file. -/
def listedHidden : ListedFile :=
  listedAs ['.', 'e', 'n', 'v'] (by decide) (by decide) (by rintro _ ⟨⟩; rfl)
    (by rintro _ ⟨⟩; rfl) (by decide)

/-- A file, listed from the directory itself. -/
def listedPlain : ListedFile :=
  listedAs ['.', '/', 'd', '/', 'x'] (by decide) (by decide) (by rintro _ ⟨⟩; rfl)
    (by rintro _ ⟨⟩; rfl) (by decide)

/-- A hidden file that is there is listed with a wrong checksum, and not checked. -/
theorem manifest_skips_hidden_file :
    ¬ ComparesListed (oneFile [['t'], ['.', 'e', 'n', 'v']]) (fun _ => []) [['t']]
      [listedHidden] := by
  intro h
  exact absurd h.checked (by decide +kernel)

/-- A file that is listed from the directory itself is checked. -/
theorem manifest_compares_listedPlain :
    ComparesListed (oneFile [['t'], ['d'], ['x']]) (fun _ => []) [['t']] [listedPlain] := by
  obtain ⟨hcompares, hplain⟩ := manifest_compares_iff (oneFile [['t'], ['d'], ['x']]) (fun _ => [])
    [['t']] [listedPlain]
  refine hcompares.mpr fun e he => (hplain e he ?_ ?_).mpr ?_ <;>
    rw [List.mem_singleton.mp he]
  · decide +kernel
  · decide +kernel
  · exact ⟨by decide, by rintro _ ⟨⟩; rfl⟩

end SomethingTrade
