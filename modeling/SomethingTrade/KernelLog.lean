import Mathlib.Data.List.Infix
import SomethingTrade.Calendar
import SomethingTrade.Decimal
import SomethingTrade.TextScan

/-!
# Kernel Log Lines of a Session

When a capture process was killed, the kernel log is searched for lines about a lack of memory.
A line with a time stamp counts when its time is in the session or at most ten minutes from it;
a line without one counts always.

Of the formats of stamps, two carry no year, which is then taken to be the year the session
starts in.

## Representation

* A log is the list of its lines, a text is a list of characters, and digits are the ASCII ones.
* The times of the session are read already. A time is also the number of its microseconds, and
  these have no first and no last one.

## Main results

* `parseKernelLogTime_bracket`, `parseKernelLogTime_syslog`, `parseKernelLogTime_iso`: the time
  that is read from a stamp.
* `oom_line_counted_iff`: for which stamps a line counts exactly when its time is in the window.
-/

namespace SomethingTrade

open Decimal (isSpace strip digitsValue digitChar fixedDigits)

/-! ### Times -/

/-- The microseconds up to a time. -/
def microsOf (c : Civil) (microsecond : ℕ) : ℤ := c.seconds * 1000000 + microsecond

/-- A `datetime` in UTC. -/
structure UtcTime where
  civil : Civil
  microsecond : ℕ
  microsecond_lt : microsecond < 1000000

def UtcTime.micros (t : UtcTime) : ℤ := microsOf t.civil t.microsecond

/-! ### Patterns -/

/-- A capital and two small letters. -/
def wordPiece : Piece := .fixed [Char.isUpper, Char.isLower, Char.isLower]

def litPiece (c : Char) : Piece := .fixed [(· == c)]

def spacesPiece : Piece := .many isSpace

def digitsPiece : Piece := .many Char.isDigit

def twoDigitsPiece : Piece := .fixed [Char.isDigit, Char.isDigit]

def fourDigitsPiece : Piece := .fixed [Char.isDigit, Char.isDigit, Char.isDigit, Char.isDigit]

/-- A day and a time of day, after a month. -/
def clockPieces : List Piece :=
  [spacesPiece, digitsPiece, spacesPiece, digitsPiece, litPiece ':', digitsPiece, litPiece ':',
    digitsPiece]

/-- A stamp in brackets, with or without a year. -/
def bracketPattern (withYear : Bool) : List Piece :=
  litPiece '[' :: wordPiece :: spacesPiece :: wordPiece :: clockPieces ++
    (if withYear then [spacesPiece, fourDigitsPiece] else []) ++ [litPiece ']']

def syslogPattern : List Piece := wordPiece :: clockPieces

def isoPattern : List Piece :=
  [fourDigitsPiece, litPiece '-', twoDigitsPiece, litPiece '-', twoDigitsPiece, litPiece 'T',
    twoDigitsPiece, litPiece ':', twoDigitsPiece, litPiece ':', twoDigitsPiece]

/-- The stamp in the brackets a line starts with. -/
def bracketStamp (line : List Char) : Option (List Char) :=
  match scan (bracketPattern true) line with
  | some (parts, _) => some parts.tail.dropLast.flatten
  | none => (scan (bracketPattern false) line).map fun r => r.1.tail.dropLast.flatten

/-- The stamp a line of the system log starts with. -/
def syslogStamp (line : List Char) : Option (List Char) :=
  (scan syslogPattern line).map fun r => r.1.flatten

/-! ### Reading dates -/

/-- The directives of a date format. -/
inductive Directive
  | weekday
  | month
  | day
  | hour
  | minute
  | second
  | year
  | space
  | colon

/-- The text of a directive, up to its value. -/
def Directive.piece : Directive → Piece
  | weekday | month => .many Char.isAlpha
  | day | hour | minute | second => digitsPiece
  | year => fourDigitsPiece
  | space => spacesPiece
  | colon => litPiece ':'

def weekdayNames : List (List Char) :=
  ["Mon".toList, "Tue".toList, "Wed".toList, "Thu".toList, "Fri".toList, "Sat".toList,
    "Sun".toList]

def monthNames : List (List Char) :=
  ["Jan".toList, "Feb".toList, "Mar".toList, "Apr".toList, "May".toList, "Jun".toList,
    "Jul".toList, "Aug".toList, "Sep".toList, "Oct".toList, "Nov".toList, "Dec".toList]

/-- The place of a name, in any case of letters. -/
def nameIndex? (names : List (List Char)) (part : List Char) : Option ℕ :=
  (names.map fun name => name.map Char.toLower).idxOf? (part.map Char.toLower)

/-- A number of one or two digits between two bounds. -/
def numberIn (least greatest : ℕ) (part : List Char) : Option ℕ :=
  if part.length ≤ 2 ∧ least ≤ digitsValue part ∧ digitsValue part ≤ greatest then
    some (digitsValue part)
  else none

/-- The fields that are read; what is not in the format keeps its default. -/
structure StructTime where
  year : ℕ
  month : ℕ
  day : ℕ
  hour : ℕ
  minute : ℕ
  second : ℕ

/-- Take over the value of a directive. The weekday has to be one and is not used. -/
def StructTime.setField (t : StructTime) : Directive → List Char → Option StructTime
  | .weekday, part => (nameIndex? weekdayNames part).map fun _ => t
  | .month, part => (nameIndex? monthNames part).map fun i => { t with month := i + 1 }
  | .day, part => (numberIn 1 31 part).map fun n => { t with day := n }
  | .hour, part => (numberIn 0 23 part).map fun n => { t with hour := n }
  | .minute, part => (numberIn 0 59 part).map fun n => { t with minute := n }
  | .second, part => (numberIn 0 61 part).map fun n => { t with second := n }
  | .year, part => some { t with year := digitsValue part }
  | .space, _ | .colon, _ => some t

/-- Take over the values of directives in turn. -/
def StructTime.setFields (t : StructTime) :
    List Directive → List (List Char) → Option StructTime
  | d :: ds, part :: parts => (t.setField d part).bind fun t => t.setFields ds parts
  | _, _ => some t

/-- Read a date by a format; the default year is 1900. -/
def strptime (format : List Directive) (text : List Char) : Option Civil :=
  match scan (format.map Directive.piece) text with
  | some (parts, []) =>
      ((⟨1900, 1, 1, 0, 0, 0⟩ : StructTime).setFields format parts).bind fun t =>
        Civil.of? t.year t.month t.day t.hour t.minute t.second
  | _ => none

/-- A month, a day and a time of day. -/
def dateFormat : List Directive :=
  [.month, .space, .day, .space, .hour, .colon, .minute, .colon, .second]

def bracketFormat (withYear : Bool) : List Directive :=
  .weekday :: .space :: dateFormat ++ if withYear then [.space, .year] else []

def syslogFormat : List Directive := .year :: .space :: dateFormat

/-- Read the stamp of a bracket; the year 1900 stands for the default year. -/
def bracketTime (defaultYear : ℕ) (stamp : List Char) : Option Civil :=
  let read (withYear : Bool) : Option Civil :=
    (strptime (bracketFormat withYear) stamp).bind fun parsed =>
      if parsed.year = 1900 then parsed.inYear defaultYear else some parsed
  match read true with
  | some parsed => some parsed
  | none => read false

/-- The fraction of a second, if there is one, and the rest. -/
def isoFraction : List Char → List Char × List Char
  | '.' :: cs =>
      if cs.takeWhile Char.isDigit = [] then ([], '.' :: cs)
      else (cs.takeWhile Char.isDigit, cs.dropWhile Char.isDigit)
  | cs => ([], cs)

/-- The microseconds of a fraction; further digits are cut off. -/
def fractionMicros (digits : List Char) : ℕ :=
  digitsValue ((digits ++ List.replicate 6 '0').take 6)

/-- The offset from UTC in minutes: zero when there is none, and less than a day. -/
def isoOffset (cs : List Char) : Option ℤ :=
  match scan [.fixed [fun c => c == '+' || c == '-'], twoDigitsPiece, litPiece ':',
      twoDigitsPiece] cs with
  | some ([sign, hours, _, minutes], _) =>
      let offset := digitsValue hours * 60 + digitsValue minutes
      if offset < 1440 then some (if sign = ['-'] then -(offset : ℤ) else offset) else none
  | _ => some 0

/-- Read the parts of an ISO stamp, and its fraction and offset. -/
def isoTime (parts : List (List Char)) (rest : List Char) : Option ℤ :=
  match parts with
  | [year, _, month, _, day, _, hour, _, minute, _, second] =>
      let (fraction, rest) := isoFraction rest
      (Civil.of? (digitsValue year) (digitsValue month) (digitsValue day) (digitsValue hour)
        (digitsValue minute) (digitsValue second)).bind fun c =>
          (isoOffset rest).map fun offset =>
            microsOf c (fractionMicros fraction) - offset * 60 * 1000000
  | _ => none

/-- The time of a line, if it starts with a stamp that can be read. -/
def parseKernelLogTime (line : List Char) (defaultYear : ℕ) : Option ℤ :=
  match (bracketStamp line).bind (bracketTime defaultYear) with
  | some parsed => some (microsOf parsed 0)
  | none =>
      match syslogStamp line with
      | some stamp =>
          (strptime syslogFormat (Nat.toDigits 10 defaultYear ++ ' ' :: stamp)).map
            fun parsed => microsOf parsed 0
      | none =>
          match scan isoPattern line with
          | some (parts, rest) => isoTime parts rest
          | none => none

/-! ### The search -/

def kernelOomPatterns : List (List Char) :=
  ["Out of memory: Killed process".toList, "Killed process".toList, "oom-kill".toList,
    "Memory cgroup out of memory".toList]

/-- Whether a line is about a lack of memory. -/
def isOomLine (line : List Char) : Bool :=
  kernelOomPatterns.any fun pattern => decide (pattern <:+: line)

/-- The first number after `Killed process` in a line. -/
def killedPid? (line : List Char) : Option ℕ :=
  line.tails.findSome? fun cs =>
    match scan (("Killed process".toList.map litPiece) ++ [spacesPiece, digitsPiece]) cs with
    | some (parts, _) => some (digitsValue (parts.getLastD []))
    | none => none

/-- The times a line may have: the session, and some seconds before and after it. -/
def InOomWindow (started ended : UtcTime) (windowSec t : ℤ) : Prop :=
  started.micros - windowSec * 1000000 ≤ t ∧ t ≤ ended.micros + windowSec * 1000000

instance (started ended : UtcTime) (windowSec t : ℤ) :
    Decidable (InOomWindow started ended windowSec t) := by
  unfold InOomWindow
  infer_instance

/-- Whether a stripped line counts. -/
def lineCounts (started ended : UtcTime) (windowSec : ℤ) (line : List Char) : Bool :=
  decide (line ≠ []) && isOomLine line &&
    match parseKernelLogTime line started.civil.year with
    | some t => decide (InOomWindow started ended windowSec t)
    | none => true

/-- What is found in a log. -/
structure OomEvidence where
  oomDetected : Bool
  oomEvidenceSource : String
  oomLogExcerpt : List Char
  matchedLineCount : ℕ
  killedPid : Option ℕ
  sessionWindowStart : ℤ
  sessionWindowEnd : ℤ

/-- Search the lines of a log. -/
def detectOomEvidence (lines : List (List Char)) (started ended : UtcTime) (windowSec : ℤ) :
    OomEvidence :=
  let found := (lines.map strip).filter (lineCounts started ended windowSec)
  { oomDetected := !found.isEmpty
    oomEvidenceSource := "kernel_log"
    oomLogExcerpt := ['\n'].intercalate (found.take 5)
    matchedLineCount := found.length
    killedPid := (found.filterMap killedPid?).getLast?
    sessionWindowStart := started.micros - windowSec * 1000000
    sessionWindowEnd := ended.micros + windowSec * 1000000 }

/-! ### Stamps -/

/-- How an ISO stamp ends. -/
inductive IsoSuffix
  | none
  | zulu
  | offset (negative : Bool) (hours : Fin 24) (minutes : Fin 60)

/-- A time stamp in one of the formats: a time, and how it is written. -/
inductive Stamp
  | bracket (weekday : Fin 7) (zeroDay : Bool) (c : Civil) (withYear : Bool)
  | syslog (zeroDay : Bool) (c : Civil)
  | iso (c : Civil) (fraction : List (Fin 10)) (suffix : IsoSuffix)

/-- A number of two digits. -/
def two (n : ℕ) : List Char := fixedDigits 2 n

def monthName (month : ℕ) : List Char := monthNames.getD (month - 1) []

/-- The blank before a day: one more where a day of one digit has no zero. -/
def dayGap (zeroDay : Bool) (day : ℕ) : List Char :=
  if zeroDay || decide (10 ≤ day) then [' '] else [' ', ' ']

def dayDigits (zeroDay : Bool) (day : ℕ) : List Char :=
  if zeroDay || decide (10 ≤ day) then two day else [digitChar day]

/-- The parts of a day and a time of day. -/
def clockParts (zeroDay : Bool) (c : Civil) : List (List Char) :=
  [dayGap zeroDay c.day, dayDigits zeroDay c.day, [' '], two c.hour, [':'], two c.minute, [':'],
    two c.second]

def yearParts (c : Civil) : Bool → List (List Char)
  | true => [[' '], fixedDigits 4 c.year]
  | false => []

/-- The parts of the stamp in a bracket up to the year. -/
def headParts (weekday : Fin 7) (zeroDay : Bool) (c : Civil) : List (List Char) :=
  weekdayNames.getD weekday [] :: [' '] :: monthName c.month :: clockParts zeroDay c

/-- The parts of the stamp in a bracket. -/
def bracketParts (weekday : Fin 7) (zeroDay : Bool) (c : Civil) (withYear : Bool) :
    List (List Char) :=
  headParts weekday zeroDay c ++ yearParts c withYear

def isoParts (c : Civil) : List (List Char) :=
  [fixedDigits 4 c.year, ['-'], two c.month, ['-'], two c.day, ['T'], two c.hour, [':'],
    two c.minute, [':'], two c.second]

def fractionDigits (fraction : List (Fin 10)) : List Char := fraction.map fun d => digitChar d.val

/-- A fraction of a second, unless it has no digits. -/
def fractionText (fraction : List (Fin 10)) : List Char :=
  if fraction = [] then [] else '.' :: fractionDigits fraction

def IsoSuffix.text : IsoSuffix → List Char
  | .none => []
  | .zulu => ['Z']
  | .offset negative hours minutes =>
      (if negative then '-' else '+') :: two hours ++ ':' :: two minutes

/-- The text of a stamp. -/
def Stamp.text : Stamp → List Char
  | bracket weekday zeroDay c withYear =>
      '[' :: (bracketParts weekday zeroDay c withYear).flatten ++ [']']
  | syslog zeroDay c => monthName c.month ++ (clockParts zeroDay c).flatten
  | iso c fraction suffix => (isoParts c).flatten ++ fractionText fraction ++ suffix.text

/-- The minutes that a stamp is ahead of UTC. -/
def IsoSuffix.minutes : IsoSuffix → ℤ
  | .none | .zulu => 0
  | .offset negative hours minutes =>
      if negative then -(hours * 60 + minutes : ℤ) else hours * 60 + minutes

/-- The time of a stamp. -/
def Stamp.micros : Stamp → ℤ
  | bracket _ _ c _ | syslog _ c => microsOf c 0
  | iso c fraction suffix =>
      microsOf c (fractionMicros (fractionDigits fraction)) - suffix.minutes * 60 * 1000000

/-! ### Reading back what is written -/

theorem two_eq (n : ℕ) : two n = [digitChar (n / 10 % 10), digitChar (n % 10)] := rfl

theorem isDigit_digitChar_mod (n : ℕ) : (digitChar (n % 10)).isDigit = true :=
  (Decimal.digitChar_spec (Nat.mod_lt n (by decide))).1

theorem isSpace_eq_false_of_isDigit {c : Char} (h : c.isDigit = true) : isSpace c = false := by
  simp only [Char.isDigit, Bool.and_eq_true, decide_eq_true_eq] at h
  obtain ⟨hlo, hhi⟩ := h
  have hlo' : 48 ≤ c.toNat := hlo
  have hhi' : c.toNat ≤ 57 := hhi
  simp only [isSpace, List.mem_cons, List.not_mem_nil, or_false, Bool.or_eq_false_iff,
    Bool.and_eq_false_iff, decide_eq_false_iff_not]
  omega

theorem digitsValue_two {n : ℕ} (h : n < 100) : digitsValue (two n) = n := by
  rw [two, Decimal.digitsValue_fixedDigits]
  exact Nat.mod_eq_of_lt h

theorem digitsValue_digitChar {n : ℕ} (h : n < 10) : digitsValue [digitChar n] = n := by
  simp [digitsValue, (Decimal.digitChar_spec h).2]

theorem numberIn_two {least greatest n : ℕ} (h : least ≤ n) (h' : n ≤ greatest) (hn : n < 100) :
    numberIn least greatest (two n) = some n := by
  rw [numberIn, digitsValue_two hn, if_pos ⟨le_of_eq (Decimal.length_fixedDigits 2 n), h, h'⟩]

theorem numberIn_dayDigits (zeroDay : Bool) {day : ℕ} (h : 1 ≤ day) (h' : day ≤ 31) :
    numberIn 1 31 (dayDigits zeroDay day) = some day := by
  rw [dayDigits]
  split
  · exact numberIn_two h h' (by omega)
  · rename_i hshort
    have hday : day < 10 := by
      simp only [Bool.or_eq_true, decide_eq_true_eq, not_or, not_le] at hshort
      exact hshort.2
    rw [numberIn, digitsValue_digitChar hday, if_pos ⟨by simp, h, h'⟩]

theorem nameIndex?_monthName {month : ℕ} (h : 1 ≤ month) (h' : month ≤ 12) :
    nameIndex? monthNames (monthName month) = some (month - 1) := by
  have key : ∀ i : Fin 12, nameIndex? monthNames (monthName (i + 1)) = some i.val := by
    decide
  obtain ⟨i, rfl⟩ := Nat.exists_eq_add_of_le' h
  exact key ⟨i, by omega⟩

theorem nameIndex?_weekday (weekday : Fin 7) :
    nameIndex? weekdayNames (weekdayNames.getD weekday []) = some weekday.val := by
  revert weekday
  decide

/-! ### Stamps fit their patterns -/

theorem fits_lit (c : Char) (rest : List Char) : (litPiece c).Fits [c] rest :=
  .cons (beq_self_eq_true c) .nil

theorem fits_word_month {month : ℕ} (h : 1 ≤ month) (h' : month ≤ 12) (rest : List Char) :
    wordPiece.Fits (monthName month) rest := by
  have key : ∀ i : Fin 12, List.Forall₂ (fun cls c => cls c = true)
      [Char.isUpper, Char.isLower, Char.isLower] (monthName (i + 1)) := by
    decide
  obtain ⟨i, rfl⟩ := Nat.exists_eq_add_of_le' h
  exact key ⟨i, by omega⟩

theorem fits_word_weekday (weekday : Fin 7) (rest : List Char) :
    wordPiece.Fits (weekdayNames.getD weekday []) rest := by
  have key : ∀ i : Fin 7, List.Forall₂ (fun cls c => cls c = true)
      [Char.isUpper, Char.isLower, Char.isLower] (weekdayNames.getD i []) := by
    decide
  exact key weekday

/-- A name before a blank is a run of letters. -/
theorem fits_letters {name rest : List Char} (h : wordPiece.Fits name (' ' :: rest)) :
    (Piece.many Char.isAlpha).Fits name (' ' :: rest) := by
  have hname : List.Forall₂ (fun cls c => cls c = true) [Char.isUpper, Char.isLower, Char.isLower]
      name := h
  simp only [List.forall₂_cons_left_iff, List.forall₂_nil_left_iff] at hname
  obtain ⟨a, _, ha, ⟨b, _, hb, ⟨d, _, hd, rfl, rfl⟩, rfl⟩, rfl⟩ := hname
  have hletter : ∀ c : Char, c.isUpper = true ∨ c.isLower = true → c.isAlpha = true :=
    fun _ hc => (Bool.or_eq_true _ _).mpr hc
  refine ⟨List.cons_ne_nil _ _, ?_, fun c hc => ?_⟩
  · simp [hletter a (.inl ha), hletter b (.inr hb), hletter d (.inr hd)]
  · rw [← Option.some.inj hc]
    rfl

theorem fits_space {c : Char} (h : c.isDigit = true) (rest : List Char) :
    spacesPiece.Fits [' '] (c :: rest) := by
  refine ⟨List.cons_ne_nil _ _, fun b hb => ?_, fun b hb => ?_⟩
  · rw [List.mem_singleton.mp hb]
    rfl
  · rw [← Option.some.inj hb]
    exact isSpace_eq_false_of_isDigit h

theorem fits_dayGap (zeroDay : Bool) (day : ℕ) {c : Char} (h : c.isDigit = true)
    (rest : List Char) : spacesPiece.Fits (dayGap zeroDay day) (c :: rest) := by
  rw [dayGap]
  split
  · exact fits_space h rest
  · refine ⟨List.cons_ne_nil _ _, fun b hb => ?_, fun b hb => ?_⟩
    · simp only [List.mem_cons, List.not_mem_nil, or_false, or_self] at hb
      rw [hb]
      rfl
    · rw [← Option.some.inj hb]
      exact isSpace_eq_false_of_isDigit h

theorem fits_digits_two (n : ℕ) {rest : List Char} (h : ∀ c ∈ rest.head?, c.isDigit = false) :
    digitsPiece.Fits (two n) rest :=
  ⟨List.cons_ne_nil _ _, fun _ hc => Decimal.isDigit_of_mem_fixedDigits hc, h⟩

theorem fits_dayDigits (zeroDay : Bool) (day : ℕ) {rest : List Char}
    (h : ∀ c ∈ rest.head?, c.isDigit = false) :
    digitsPiece.Fits (dayDigits zeroDay day) rest := by
  rw [dayDigits]
  split
  · exact fits_digits_two day h
  · rename_i hshort
    have hday : day < 10 := by
      simp only [Bool.or_eq_true, decide_eq_true_eq, not_or, not_le] at hshort
      exact hshort.2
    refine ⟨List.cons_ne_nil _ _, fun c hc => ?_, h⟩
    rw [List.mem_singleton.mp hc]
    exact (Decimal.digitChar_spec hday).1

/-- The digits of a day start with a digit. -/
theorem dayDigits_eq_cons (zeroDay : Bool) (day : ℕ) :
    ∃ c cs, dayDigits zeroDay day = c :: cs ∧ c.isDigit = true := by
  rw [dayDigits]
  split
  · exact ⟨_, _, two_eq day, isDigit_digitChar_mod _⟩
  · rename_i hshort
    have hday : day < 10 := by
      simp only [Bool.or_eq_true, decide_eq_true_eq, not_or, not_le] at hshort
      exact hshort.2
    exact ⟨_, [], rfl, (Decimal.digitChar_spec hday).1⟩

theorem head?_cons_isDigit_eq_false {c : Char} (h : c.isDigit = false) (cs : List Char) :
    ∀ d ∈ (c :: cs).head?, d.isDigit = false := by
  intro d hd
  rw [← Option.some.inj hd]
  exact h

/-- A day and a time of day fit their pattern when no digit follows. -/
theorem fitAll_clock (zeroDay : Bool) (c : Civil) {rest : List Char}
    (h : ∀ d ∈ rest.head?, d.isDigit = false) :
    FitAll clockPieces (clockParts zeroDay c) rest := by
  refine ⟨?_, fits_dayDigits zeroDay c.day (head?_cons_isDigit_eq_false rfl _), ?_,
    fits_digits_two c.hour (head?_cons_isDigit_eq_false rfl _), fits_lit ':' _,
    fits_digits_two c.minute (head?_cons_isDigit_eq_false rfl _), fits_lit ':' _,
    fits_digits_two c.second h, trivial⟩
  · obtain ⟨d, ds, hday, hdigit⟩ := dayDigits_eq_cons zeroDay c.day
    rw [List.flatten_cons, hday]
    exact fits_dayGap zeroDay c.day hdigit _
  · exact fits_space (isDigit_digitChar_mod _) _

/-! ### Reading a stamp by its format -/

theorem setFields_append (t : StructTime) {ds es : List Directive}
    {parts others : List (List Char)} (h : ds.length = parts.length) :
    t.setFields (ds ++ es) (parts ++ others) =
      (t.setFields ds parts).bind fun t => t.setFields es others := by
  induction ds generalizing t parts with
  | nil =>
      obtain rfl : parts = [] := List.length_eq_zero_iff.mp h.symm
      cases es <;> rfl
  | cons d ds ih =>
      cases parts with
      | nil => cases h
      | cons part parts =>
          rw [List.cons_append, List.cons_append, StructTime.setFields, StructTime.setFields]
          cases t.setField d part with
          | none => rfl
          | some t => exact ih t (Nat.succ.inj h)

/-- The fields of a month, a day and a time of day are read. -/
theorem setFields_date (t : StructTime) (zeroDay : Bool) (c : Civil) :
    t.setFields dateFormat (monthName c.month :: clockParts zeroDay c) =
      some ⟨t.year, c.month, c.day, c.hour, c.minute, c.second⟩ := by
  obtain ⟨-, ⟨hmonth, hmonth'⟩, ⟨hday, hday'⟩, hhour, hminute, hsecond⟩ := c.valid
  have hlast : daysInMonth c.year c.month ≤ 31 := by
    rw [daysInMonth]
    split
    · split <;> decide
    · split <;> decide
  simp [dateFormat, clockParts, StructTime.setFields, StructTime.setField,
    nameIndex?_monthName hmonth hmonth', numberIn_dayDigits zeroDay hday (hday'.trans hlast),
    numberIn_two (Nat.zero_le _) hhour (by omega), numberIn_two (Nat.zero_le _) hminute (by omega),
    @numberIn_two 0 61 c.second (Nat.zero_le _) (by omega) (by omega), Nat.sub_add_cancel hmonth]

/-- The pieces of a date format fit the parts of a date when no digit follows. -/
theorem fitAll_date (zeroDay : Bool) (c : Civil) {rest : List Char}
    (h : ∀ d ∈ rest.head?, d.isDigit = false) :
    FitAll (dateFormat.map Directive.piece) (monthName c.month :: clockParts zeroDay c) rest := by
  refine ⟨?_, fitAll_clock zeroDay c h⟩
  obtain ⟨gap, hgap⟩ : ∃ gap, dayGap zeroDay c.day = ' ' :: gap := by
    rw [dayGap]
    split <;> exact ⟨_, rfl⟩
  rw [clockParts, List.flatten_cons, hgap]
  exact fits_letters (fits_word_month c.valid.2.1.1 c.valid.2.1.2 _)

/-- So do those of the pattern of a stamp. -/
theorem fitAll_syslog (zeroDay : Bool) (c : Civil) {rest : List Char}
    (h : ∀ d ∈ rest.head?, d.isDigit = false) :
    FitAll syslogPattern (monthName c.month :: clockParts zeroDay c) rest :=
  ⟨fits_word_month c.valid.2.1.1 c.valid.2.1.2 _, fitAll_clock zeroDay c h⟩

theorem fits_fourDigits {part : List Char} (hlen : part.length = 4)
    (h : ∀ c ∈ part, c.isDigit = true) (rest : List Char) : fourDigitsPiece.Fits part rest := by
  rcases part with _ | ⟨a, _ | ⟨b, _ | ⟨c, _ | ⟨d, _ | ⟨e, part⟩⟩⟩⟩⟩
  · cases hlen
  · cases hlen
  · cases hlen
  · cases hlen
  · exact .cons (h a (by simp)) (.cons (h b (by simp)) (.cons (h c (by simp))
      (.cons (h d (by simp)) .nil)))
  · simp at hlen

/-- A year of four digits. -/
theorem fits_fourDigits_year (n : ℕ) (rest : List Char) :
    fourDigitsPiece.Fits (fixedDigits 4 n) rest :=
  fits_fourDigits (Decimal.length_fixedDigits 4 n)
    (fun _ hc => Decimal.isDigit_of_mem_fixedDigits hc) rest

theorem digitsValue_year (c : Civil) : digitsValue (fixedDigits 4 c.year) = c.year := by
  rw [Decimal.digitsValue_fixedDigits]
  exact Nat.mod_eq_of_lt (Nat.lt_succ_of_le c.valid.1.2)

/-! ### Stamps in brackets -/

/-- A word does not start with a bracket. -/
theorem monthName_eq_cons {month : ℕ} (h : 1 ≤ month) (h' : month ≤ 12) :
    ∃ c cs, monthName month = c :: cs ∧ c ≠ '[' := by
  have hword := fits_word_month h h' []
  cases hname : monthName month with
  | nil =>
      rw [hname] at hword
      cases hword
  | cons c cs =>
      refine ⟨c, cs, rfl, fun hbracket => ?_⟩
      rw [hname, hbracket] at hword
      cases hword with
      | cons hc _ => cases hc

theorem fits_space_month {month : ℕ} (h : 1 ≤ month) (h' : month ≤ 12) (rest : List Char) :
    spacesPiece.Fits [' '] (monthName month ++ rest) := by
  have key : ∀ i : Fin 12, ((monthName (i + 1)).head?.map isSpace) = some false := by
    decide
  obtain ⟨i, rfl⟩ := Nat.exists_eq_add_of_le' h
  refine ⟨List.cons_ne_nil _ _, fun b hb => ?_, fun b hb => ?_⟩
  · rw [List.mem_singleton.mp hb]
    rfl
  · have hhead := key ⟨i, by omega⟩
    cases hname : monthName (i + 1) with
    | nil =>
        rw [hname] at hhead
        cases hhead
    | cons c cs =>
        rw [hname] at hhead hb
        rw [← Option.some.inj hb]
        exact Option.some.inj hhead

/-- The head of a stamp fits the head of its pattern and of its format. -/
theorem fitAll_head (weekday : Fin 7) (zeroDay : Bool) (c : Civil) {rest : List Char}
    (h : ∀ d ∈ rest.head?, d.isDigit = false) :
    FitAll (wordPiece :: spacesPiece :: wordPiece :: clockPieces) (headParts weekday zeroDay c)
        rest ∧
      FitAll ((.weekday :: .space :: dateFormat : List Directive).map Directive.piece)
        (headParts weekday zeroDay c) rest := by
  have hspace := fits_space_month c.valid.2.1.1 c.valid.2.1.2
  refine ⟨⟨fits_word_weekday weekday _, ?_, fitAll_syslog zeroDay c h⟩,
    fits_letters (fits_word_weekday weekday _), ?_, fitAll_date zeroDay c h⟩
  · rw [List.flatten_cons, List.append_assoc]
    exact hspace _
  · rw [List.flatten_cons, List.append_assoc]
    exact hspace _

/-- The fields of the head of a stamp. -/
theorem setFields_head (t : StructTime) (weekday : Fin 7) (zeroDay : Bool) (c : Civil) :
    t.setFields (.weekday :: .space :: dateFormat) (headParts weekday zeroDay c) =
      some ⟨t.year, c.month, c.day, c.hour, c.minute, c.second⟩ := by
  rw [headParts, StructTime.setFields, StructTime.setField, nameIndex?_weekday, Option.map_some,
    Option.bind_some, StructTime.setFields, StructTime.setField, Option.bind_some, setFields_date]

theorem bracketParts_noYear (weekday : Fin 7) (zeroDay : Bool) (c : Civil) :
    bracketParts weekday zeroDay c false = headParts weekday zeroDay c := List.append_nil _

/-- The fields of a stamp whose format has a year are those of its date. -/
theorem strptime_withYear (weekday : Fin 7) (zeroDay : Bool) (c : Civil) :
    strptime (bracketFormat true) (bracketParts weekday zeroDay c true).flatten = some c := by
  have hfit : FitAll ((bracketFormat true).map Directive.piece)
      (bracketParts weekday zeroDay c true) [] := by
    rw [bracketFormat, List.map_append]
    exact FitAll.append (fitAll_head weekday zeroDay c (head?_cons_isDigit_eq_false rfl _)).2
      ⟨fits_space (isDigit_digitChar_mod _) _, fits_fourDigits_year c.year _, trivial⟩
  have hscan := scan_of_fitAll hfit
  rw [List.append_nil] at hscan
  have hfields : (⟨1900, 1, 1, 0, 0, 0⟩ : StructTime).setFields (bracketFormat true)
      (bracketParts weekday zeroDay c true) =
        some ⟨c.year, c.month, c.day, c.hour, c.minute, c.second⟩ := by
    refine (setFields_append _ rfl).trans ?_
    rw [setFields_head, Option.bind_some, if_pos rfl, yearParts, StructTime.setFields,
      StructTime.setField, Option.bind_some, StructTime.setFields, StructTime.setField,
      Option.bind_some, digitsValue_year]
    rfl
  simp only [strptime, hscan, hfields, Option.bind_some]
  exact c.of?_self

/-- A format with a year does not read a stamp without one. -/
theorem strptime_missing_year (weekday : Fin 7) (zeroDay : Bool) (c : Civil) :
    strptime (bracketFormat true) (headParts weekday zeroDay c).flatten = none := by
  have hfit := (@fitAll_head weekday zeroDay c [] fun d hd => by cases hd).2
  have hscan := scan_append hfit [spacesPiece, fourDigitsPiece]
  rw [List.append_nil] at hscan
  have hall : scan ((bracketFormat true).map Directive.piece)
      (headParts weekday zeroDay c).flatten = none := hscan
  simp only [strptime, hall]

/-- Without a year the date is one of 1900. -/
theorem strptime_noYear (weekday : Fin 7) (zeroDay : Bool) (c : Civil) :
    strptime (bracketFormat false) (headParts weekday zeroDay c).flatten = c.inYear 1900 := by
  have hfit := (@fitAll_head weekday zeroDay c [] fun d hd => by cases hd).2
  have hscan := scan_of_fitAll hfit
  rw [List.append_nil] at hscan
  have hall : scan ((bracketFormat false).map Directive.piece)
      (headParts weekday zeroDay c).flatten = some (headParts weekday zeroDay c, []) := hscan
  have hfields : (⟨1900, 1, 1, 0, 0, 0⟩ : StructTime).setFields (bracketFormat false)
      (headParts weekday zeroDay c) = some ⟨1900, c.month, c.day, c.hour, c.minute, c.second⟩ :=
    setFields_head _ weekday zeroDay c
  simp only [strptime, hall, hfields, Option.bind_some]
  rfl

/-- The parts between two brackets. -/
theorem between_brackets (parts : List (List Char)) :
    (['['] :: parts ++ [[']']]).tail.dropLast = parts :=
  List.dropLast_concat

/-- The stamp in the brackets of a line. -/
theorem bracketStamp_text (weekday : Fin 7) (zeroDay : Bool) (c : Civil) (withYear : Bool)
    (rest : List Char) :
    bracketStamp ((Stamp.bracket weekday zeroDay c withYear).text ++ rest) =
      some (bracketParts weekday zeroDay c withYear).flatten := by
  cases withYear with
  | true =>
      have htext : (Stamp.bracket weekday zeroDay c true).text ++ rest =
          (['['] :: bracketParts weekday zeroDay c true ++ [[']']]).flatten ++ rest := by
        simp [Stamp.text]
      have hhead : FitAll (litPiece '[' :: wordPiece :: spacesPiece :: wordPiece :: clockPieces)
          (['['] :: headParts weekday zeroDay c)
          ((yearParts c true ++ [[']']]).flatten ++ rest) :=
        ⟨fits_lit '[' _, (fitAll_head weekday zeroDay c (head?_cons_isDigit_eq_false rfl _)).1⟩
      have hyear : FitAll [spacesPiece, fourDigitsPiece, litPiece ']']
          (yearParts c true ++ [[']']]) rest :=
        ⟨fits_space (isDigit_digitChar_mod _) _, fits_fourDigits_year c.year _, fits_lit ']' _,
          trivial⟩
      have hscan : scan (bracketPattern true)
          ((['['] :: bracketParts weekday zeroDay c true ++ [[']']]).flatten ++ rest) =
            some (['['] :: bracketParts weekday zeroDay c true ++ [[']']], rest) := by
        have hfit := scan_of_fitAll (FitAll.append hhead hyear)
        rwa [List.cons_append, ← List.append_assoc] at hfit
      rw [htext, bracketStamp, hscan]
      exact congrArg (fun parts => some (List.flatten parts)) (between_brackets _)
  | false =>
      have htext : (Stamp.bracket weekday zeroDay c false).text ++ rest =
          (['['] :: headParts weekday zeroDay c).flatten ++ ']' :: rest := by
        simp [Stamp.text, bracketParts_noYear]
      have hhead : FitAll (litPiece '[' :: wordPiece :: spacesPiece :: wordPiece :: clockPieces)
          (['['] :: headParts weekday zeroDay c) (']' :: rest) :=
        ⟨fits_lit '[' _, (fitAll_head weekday zeroDay c (head?_cons_isDigit_eq_false rfl _)).1⟩
      have hmissing : scan (bracketPattern true)
          ((['['] :: headParts weekday zeroDay c).flatten ++ ']' :: rest) = none :=
        (scan_append hhead [spacesPiece, fourDigitsPiece, litPiece ']']).trans rfl
      have hfound : scan (bracketPattern false)
          ((['['] :: headParts weekday zeroDay c).flatten ++ ']' :: rest) =
            some (['['] :: headParts weekday zeroDay c ++ [[']']], rest) :=
        (scan_append hhead [litPiece ']']).trans rfl
      rw [htext, bracketStamp, hmissing, hfound, bracketParts_noYear]
      exact congrArg (fun parts => some (List.flatten parts)) (between_brackets _)

/-- The date a stamp is read as when the session starts in a year. -/
def Stamp.readDate (defaultYear : ℕ) : Stamp → Option Civil
  | bracket _ _ c true => if c.year = 1900 then c.inYear defaultYear else some c
  | bracket _ _ c false => (c.inYear 1900).bind fun parsed => parsed.inYear defaultYear
  | syslog _ c => if 1000 ≤ defaultYear then c.inYear defaultYear else none
  | iso c _ _ => some c

/-- The year 1900 lacks the 29th of February. -/
theorem inYear_1900_isSome_iff (c : Civil) :
    (c.inYear 1900).isSome = true ↔ ¬ (c.month = 2 ∧ c.day = 29) := by
  rw [c.inYear_isSome_iff (by decide) (by decide)]
  have hleap : isLeap 1900 = false := rfl
  simp only [hleap, and_true]

/-- Every year has the other dates. -/
theorem exists_inYear {c : Civil} (hdate : ¬ (c.month = 2 ∧ c.day = 29)) {year : ℕ}
    (h : 1 ≤ year) (h' : year ≤ 9999) : ∃ moved, c.inYear year = some moved :=
  Option.isSome_iff_exists.mp
    ((c.inYear_isSome_iff h h').mpr fun hd => hdate ⟨hd.1, hd.2.1⟩)

/-- A date of the year 1900 is none of a leap day. -/
theorem not_leapDay_of_year {c : Civil} (h : c.year = 1900) : ¬ (c.month = 2 ∧ c.day = 29) := by
  rw [← inYear_1900_isSome_iff, ← h, c.inYear_self]
  rfl

/-- **The time of a line with a stamp in brackets.** -/
theorem parseKernelLogTime_bracket (weekday : Fin 7) (zeroDay : Bool) (c : Civil)
    (withYear : Bool) {defaultYear : ℕ} (h : 1 ≤ defaultYear) (h' : defaultYear ≤ 9999)
    (rest : List Char) :
    parseKernelLogTime ((Stamp.bracket weekday zeroDay c withYear).text ++ rest) defaultYear =
      ((Stamp.bracket weekday zeroDay c withYear).readDate defaultYear).map
        fun parsed => microsOf parsed 0 := by
  -- no other pattern starts with a bracket
  have hother : ∀ cs : List Char, syslogStamp ('[' :: cs) = none ∧
      scan isoPattern ('[' :: cs) = none := fun cs => ⟨rfl, rfl⟩
  have htime : bracketTime defaultYear (bracketParts weekday zeroDay c withYear).flatten =
      (Stamp.bracket weekday zeroDay c withYear).readDate defaultYear := by
    cases withYear with
    | true =>
        obtain ⟨parsed, hparsed⟩ : ∃ parsed,
            (if c.year = 1900 then c.inYear defaultYear else some c) = some parsed := by
          split
          · rename_i hyear
            exact exists_inYear (not_leapDay_of_year hyear) h h'
          · exact ⟨c, rfl⟩
        rw [Stamp.readDate]
        simp only [bracketTime, strptime_withYear, Option.bind_some, hparsed]
    | false =>
        rw [Stamp.readDate, bracketParts_noYear]
        simp only [bracketTime, strptime_missing_year, Option.bind_none, strptime_noYear]
        cases hparsed : c.inYear 1900 with
        | none => rfl
        | some parsed =>
            rw [Option.bind_some, Option.bind_some, if_pos (Civil.of?_eq_some hparsed).1]
  rw [parseKernelLogTime, bracketStamp_text, Option.bind_some, htime]
  cases (Stamp.bracket weekday zeroDay c withYear).readDate defaultYear with
  | some parsed => rfl
  | none =>
      have hcons : (Stamp.bracket weekday zeroDay c withYear).text ++ rest =
          '[' :: ((bracketParts weekday zeroDay c withYear).flatten ++ [']'] ++ rest) := rfl
      simp only [hcons, (hother _).1, (hother _).2, Option.map_none]

/-! ### Stamps of the system log -/

/-- The year a session starts in has four digits from 1000 on. -/
theorem strptime_syslog (zeroDay : Bool) (c : Civil) {defaultYear : ℕ}
    (h' : defaultYear ≤ 9999) :
    strptime syslogFormat (Nat.toDigits 10 defaultYear ++
        ' ' :: (monthName c.month :: clockParts zeroDay c).flatten) =
      (Stamp.syslog zeroDay c).readDate defaultYear := by
  have hdigits : ∀ d ∈ Nat.toDigits 10 defaultYear, d.isDigit = true :=
    fun d hd => Nat.isDigit_of_mem_toDigits (by decide) (by decide) hd
  have hlen : (Nat.toDigits 10 defaultYear).length ≤ 4 :=
    (Nat.length_toDigits_le_iff (by decide) (by decide)).mpr (by omega)
  have hshort : (Nat.toDigits 10 defaultYear).length ≤ 3 ↔ defaultYear < 1000 :=
    Nat.length_toDigits_le_iff (by decide) (by decide)
  rw [Stamp.readDate]
  split
  · rename_i hyear
    have hfour : (Nat.toDigits 10 defaultYear).length = 4 := by omega
    have hfit : FitAll (syslogFormat.map Directive.piece)
        (Nat.toDigits 10 defaultYear :: [' '] :: monthName c.month :: clockParts zeroDay c) [] := by
      refine ⟨fits_fourDigits hfour hdigits _, ?_, fitAll_date zeroDay c fun d hd => by cases hd⟩
      rw [List.flatten_cons, List.append_assoc]
      exact fits_space_month c.valid.2.1.1 c.valid.2.1.2 _
    have hscan := scan_of_fitAll hfit
    rw [List.append_nil] at hscan
    have hvalue : digitsValue (Nat.toDigits 10 defaultYear) = defaultYear :=
      Nat.ofDigitChars_ten_toDigits
    have hfields : (⟨1900, 1, 1, 0, 0, 0⟩ : StructTime).setFields syslogFormat
        (Nat.toDigits 10 defaultYear :: [' '] :: monthName c.month :: clockParts zeroDay c) =
          some ⟨defaultYear, c.month, c.day, c.hour, c.minute, c.second⟩ := by
      rw [syslogFormat, StructTime.setFields, StructTime.setField, Option.bind_some,
        StructTime.setFields, StructTime.setField, Option.bind_some, setFields_date, hvalue]
    have htext : Nat.toDigits 10 defaultYear ++
        ' ' :: (monthName c.month :: clockParts zeroDay c).flatten =
          (Nat.toDigits 10 defaultYear :: [' '] :: monthName c.month ::
            clockParts zeroDay c).flatten := rfl
    rw [htext]
    simp only [strptime, hscan, hfields, Option.bind_some]
    rfl
  · rename_i hyear
    have hnone : scan (syslogFormat.map Directive.piece) (Nat.toDigits 10 defaultYear ++
        ' ' :: (monthName c.month :: clockParts zeroDay c).flatten) = none := by
      have hread := @readFixed_eq_none [Char.isDigit, Char.isDigit, Char.isDigit, Char.isDigit]
        (Nat.toDigits 10 defaultYear) ' ' (Nat.lt_succ_of_le (hshort.mpr (not_le.mp hyear)))
        (fun cls hcls => by
          simp only [List.mem_cons, List.not_mem_nil, or_false, or_self] at hcls
          rw [hcls]
          rfl)
        (monthName c.month :: clockParts zeroDay c).flatten
      rw [syslogFormat, List.map_cons, scan]
      have hpiece : Directive.year.piece.read (Nat.toDigits 10 defaultYear ++
          ' ' :: (monthName c.month :: clockParts zeroDay c).flatten) = none := hread
      rw [hpiece, Option.bind_none]
    simp only [strptime, hnone]

/-- A line that does not start with a bracket has no stamp in brackets. -/
theorem bracketStamp_eq_none {c : Char} (h : c ≠ '[') (cs : List Char) :
    bracketStamp (c :: cs) = none := by
  have hscan (withYear : Bool) : scan (bracketPattern withYear) (c :: cs) = none := by
    have hread : (litPiece '[').read (c :: cs) = none := by
      rw [litPiece, Piece.read, readFixed, if_neg (by simpa using h)]
    rw [bracketPattern, List.cons_append, List.cons_append, scan, hread, Option.bind_none]
  rw [bracketStamp, hscan, hscan]
  rfl

/-- **The time of a line of the system log.** -/
theorem parseKernelLogTime_syslog (zeroDay : Bool) (c : Civil) {defaultYear : ℕ}
    (h' : defaultYear ≤ 9999) {rest : List Char} (hrest : ∀ d ∈ rest.head?, d.isDigit = false) :
    parseKernelLogTime ((Stamp.syslog zeroDay c).text ++ rest) defaultYear =
      ((Stamp.syslog zeroDay c).readDate defaultYear).map fun parsed => microsOf parsed 0 := by
  have hscan := scan_of_fitAll (fitAll_syslog zeroDay c hrest)
  have htext : (Stamp.syslog zeroDay c).text ++ rest =
      (monthName c.month :: clockParts zeroDay c).flatten ++ rest := rfl
  have hbracket : bracketStamp ((monthName c.month :: clockParts zeroDay c).flatten ++ rest) =
      none := by
    obtain ⟨d, ds, hname, hd⟩ := monthName_eq_cons c.valid.2.1.1 c.valid.2.1.2
    rw [hname]
    exact bracketStamp_eq_none hd _
  rw [htext, parseKernelLogTime, hbracket, Option.bind_none, syslogStamp, hscan]
  exact congrArg (Option.map fun parsed => microsOf parsed 0) (strptime_syslog zeroDay c h')

/-! ### ISO stamps -/

theorem fits_twoDigits (n : ℕ) (rest : List Char) : twoDigitsPiece.Fits (two n) rest :=
  .cons (isDigit_digitChar_mod _) (.cons (isDigit_digitChar_mod _) .nil)

theorem fitAll_iso (c : Civil) (rest : List Char) : FitAll isoPattern (isoParts c) rest :=
  ⟨fits_fourDigits_year c.year _, fits_lit '-' _, fits_twoDigits _ _, fits_lit '-' _,
    fits_twoDigits _ _, fits_lit 'T' _, fits_twoDigits _ _, fits_lit ':' _, fits_twoDigits _ _,
    fits_lit ':' _, fits_twoDigits _ _, trivial⟩

/-- A stamp ends at a blank or with its line. -/
def EndsStamp (rest : List Char) : Prop := ∀ d ∈ rest.head?, isSpace d = true

theorem EndsStamp.isDigit {rest : List Char} (h : EndsStamp rest) :
    ∀ d ∈ rest.head?, d.isDigit = false := by
  intro d hd
  cases hdigit : d.isDigit with
  | false => rfl
  | true =>
      have hspace := h d hd
      rw [isSpace_eq_false_of_isDigit hdigit] at hspace
      cases hspace

/-- What follows the seconds of a stamp is no digit and no fraction. -/
theorem suffix_head (suffix : IsoSuffix) {rest : List Char}
    (h : suffix = .none → EndsStamp rest) :
    (∀ d ∈ (suffix.text ++ rest).head?, d.isDigit = false) ∧
      isoFraction (suffix.text ++ rest) = ([], suffix.text ++ rest) := by
  cases suffix with
  | none =>
      refine ⟨(h rfl).isDigit, ?_⟩
      cases rest with
      | nil => rfl
      | cons d rest =>
          have hpoint : d ≠ '.' := by
            rintro rfl
            exact absurd (h rfl '.' rfl) (by decide)
          rw [IsoSuffix.text, List.nil_append, isoFraction]
          exact fun cs hcs => hpoint (List.cons.inj hcs).1
  | zulu => exact ⟨head?_cons_isDigit_eq_false rfl _, rfl⟩
  | offset negative hours minutes =>
      cases negative with
      | true => exact ⟨head?_cons_isDigit_eq_false rfl _, rfl⟩
      | false => exact ⟨head?_cons_isDigit_eq_false rfl _, rfl⟩

/-- The fraction of a stamp. -/
theorem isoFraction_text (fraction : List (Fin 10)) (suffix : IsoSuffix) {rest : List Char}
    (h : suffix = .none → EndsStamp rest) :
    isoFraction (fractionText fraction ++ (suffix.text ++ rest)) =
      (fractionDigits fraction, suffix.text ++ rest) := by
  rw [fractionText]
  split
  · rename_i hnil
    rw [hnil]
    exact (suffix_head suffix h).2
  · rename_i hdigits
    have hall : ∀ c ∈ fractionDigits fraction, c.isDigit = true := by
      intro c hc
      obtain ⟨n, -, rfl⟩ := List.mem_map.mp hc
      exact (Decimal.digitChar_spec n.isLt).1
    have hne : fractionDigits fraction ≠ [] := fun hnil => hdigits (List.map_eq_nil_iff.mp hnil)
    obtain ⟨htake, hdrop⟩ := takeWhile_dropWhile_append hall (suffix_head suffix h).1
    rw [List.cons_append, isoFraction, htake, hdrop, if_neg hne]

/-- The offset of a stamp. -/
theorem isoOffset_text (suffix : IsoSuffix) {rest : List Char}
    (h : suffix = .none → EndsStamp rest) :
    isoOffset (suffix.text ++ rest) = some suffix.minutes := by
  cases suffix with
  | none =>
      cases rest with
      | nil => rfl
      | cons d rest =>
          have hsign : (d == '+' || d == '-') = false := by
            rw [Bool.or_eq_false_iff, beq_eq_false_iff_ne, beq_eq_false_iff_ne]
            refine ⟨?_, ?_⟩
            · rintro rfl
              exact absurd (h rfl '+' rfl) (by decide)
            · rintro rfl
              exact absurd (h rfl '-' rfl) (by decide)
          have hscan : scan [.fixed [fun c => c == '+' || c == '-'], twoDigitsPiece,
              litPiece ':', twoDigitsPiece] (d :: rest) = none := by
            rw [scan, Piece.read, readFixed, if_neg (by rw [hsign]; exact Bool.false_ne_true),
              Option.bind_none]
          rw [IsoSuffix.text, List.nil_append, isoOffset, hscan]
          rfl
  | zulu => rfl
  | offset negative hours minutes =>
      have hfit : FitAll [.fixed [fun c => c == '+' || c == '-'], twoDigitsPiece, litPiece ':',
          twoDigitsPiece] [[if negative then '-' else '+'], two hours, [':'], two minutes] rest :=
        ⟨.cons (by simp) .nil, fits_twoDigits _ _, fits_lit ':' _,
          fits_twoDigits _ _, trivial⟩
      have htext : (IsoSuffix.offset negative hours minutes).text ++ rest =
          [[if negative then '-' else '+'], two hours, [':'], two minutes].flatten ++ rest := by
        simp [IsoSuffix.text]
      have hlt : hours.val * 60 + minutes.val < 1440 := by
        have := hours.isLt
        have := minutes.isLt
        omega
      rw [htext, isoOffset, scan_of_fitAll hfit]
      simp only [digitsValue_two (hours.isLt.trans (by decide)),
        digitsValue_two (minutes.isLt.trans (by decide)), if_pos hlt, IsoSuffix.minutes]
      cases negative <;> simp

/-- **The time of a line with an ISO stamp.** -/
theorem parseKernelLogTime_iso (c : Civil) (fraction : List (Fin 10)) (suffix : IsoSuffix)
    (defaultYear : ℕ) {rest : List Char} (h : suffix = .none → EndsStamp rest) :
    parseKernelLogTime ((Stamp.iso c fraction suffix).text ++ rest) defaultYear =
      some (Stamp.iso c fraction suffix).micros := by
  have htext : (Stamp.iso c fraction suffix).text ++ rest =
      (isoParts c).flatten ++ (fractionText fraction ++ (suffix.text ++ rest)) := by
    rw [Stamp.text, List.append_assoc, List.append_assoc]
  have hscan := scan_of_fitAll
    (fitAll_iso c (fractionText fraction ++ (suffix.text ++ rest)))
  -- the first character of the year starts no other stamp
  have hdigit : ∀ cs : List Char, bracketStamp (fixedDigits 4 c.year ++ cs) = none ∧
      syslogStamp (fixedDigits 4 c.year ++ cs) = none := by
    intro cs
    obtain ⟨d, ds, hyear⟩ : ∃ d ds, fixedDigits 4 c.year = d :: ds := ⟨_, _, rfl⟩
    have hd : d.isDigit = true :=
      Decimal.isDigit_of_mem_fixedDigits (hyear ▸ List.mem_cons_self)
    have hbracket : d ≠ '[' := by
      rintro rfl
      cases hd
    have hupper : d.isUpper = false := by
      simp only [Char.isDigit, Bool.and_eq_true, decide_eq_true_eq] at hd
      refine decide_eq_false fun hle => ?_
      exact absurd (UInt32.le_trans hle.1 hd.2) (by decide)
    rw [hyear]
    refine ⟨bracketStamp_eq_none hbracket _, ?_⟩
    rw [syslogStamp, syslogPattern, List.cons_append, scan, wordPiece, Piece.read, readFixed,
      if_neg (by rw [hupper]; exact Bool.false_ne_true), Option.bind_none, Option.map_none]
  obtain ⟨hyear, hmonth, hday, hhour, hminute, hsecond⟩ := c.valid
  have hlast : daysInMonth c.year c.month ≤ 31 := by
    rw [daysInMonth]
    split
    · split <;> decide
    · split <;> decide
  have hcivil : Civil.of? (digitsValue (fixedDigits 4 c.year)) (digitsValue (two c.month))
      (digitsValue (two c.day)) (digitsValue (two c.hour)) (digitsValue (two c.minute))
      (digitsValue (two c.second)) = some c := by
    rw [digitsValue_year, digitsValue_two (by omega), digitsValue_two (by omega),
      digitsValue_two (by omega), digitsValue_two (by omega), digitsValue_two (by omega)]
    exact c.of?_self
  have hbracket : bracketStamp ((isoParts c).flatten ++
      (fractionText fraction ++ (suffix.text ++ rest))) = none := (hdigit _).1
  have hsyslog : syslogStamp ((isoParts c).flatten ++
      (fractionText fraction ++ (suffix.text ++ rest))) = none := (hdigit _).2
  rw [htext, parseKernelLogTime, hbracket, Option.bind_none]
  simp only [hsyslog, hscan]
  simp only [isoParts, isoTime, isoFraction_text fraction suffix h, hcivil, Option.bind_some,
    isoOffset_text suffix h, Option.map_some]
  rfl

/-! ### Which lines are counted -/

namespace Stamp

/-- The date of a stamp as it is written. -/
def date : Stamp → Civil
  | bracket _ _ c _ | syslog _ c | iso c _ _ => c

/-- What may follow a stamp: nothing that would make it longer. -/
def EndsBefore : Stamp → List Char → Prop
  | bracket _ _ _ _, _ => True
  | syslog _ _, rest => ∀ d ∈ rest.head?, d.isDigit = false
  | iso _ _ suffix, rest => suffix = .none → EndsStamp rest

/-- Whether a stamp carries its year. In brackets the year 1900 stands for none. -/
def carriesYear : Stamp → Bool
  | bracket _ _ c true => decide (c.year ≠ 1900)
  | bracket _ _ _ false | syslog _ _ => false
  | iso _ _ _ => true

/-- Whether the date of a stamp that carries no year can be read: not a 29th of February in
brackets, nor one that the year lacks, nor a date of the system log in a year before 1000. -/
def readable (defaultYear : ℕ) : Stamp → Bool
  | bracket _ _ c false => decide (¬ (c.month = 2 ∧ c.day = 29))
  | syslog _ c => decide (1000 ≤ defaultYear ∧
      ¬ (c.month = 2 ∧ c.day = 29 ∧ isLeap defaultYear = false))
  | bracket _ _ _ true | iso _ _ _ => true

/-- The time a stamp is read as when the session starts in a year. -/
def readTime (defaultYear : ℕ) : Stamp → Option ℤ
  | bracket weekday zeroDay c withYear =>
      ((bracket weekday zeroDay c withYear).readDate defaultYear).map fun parsed =>
        microsOf parsed 0
  | syslog zeroDay c =>
      ((syslog zeroDay c).readDate defaultYear).map fun parsed => microsOf parsed 0
  | iso c fraction suffix => some (iso c fraction suffix).micros

end Stamp

/-- **The time of a line that starts with a stamp.** -/
theorem parseKernelLogTime_text (stamp : Stamp) {defaultYear : ℕ} (h : 1 ≤ defaultYear)
    (h' : defaultYear ≤ 9999) {rest : List Char} (hrest : stamp.EndsBefore rest) :
    parseKernelLogTime (stamp.text ++ rest) defaultYear = stamp.readTime defaultYear := by
  cases stamp with
  | bracket weekday zeroDay c withYear =>
      exact parseKernelLogTime_bracket weekday zeroDay c withYear h h' rest
  | syslog zeroDay c => exact parseKernelLogTime_syslog zeroDay c h' hrest
  | iso c fraction suffix => exact parseKernelLogTime_iso c fraction suffix defaultYear hrest

theorem inYear_bind {c parsed : Civil} {year : ℕ} (h : c.inYear year = some parsed)
    (other : ℕ) : parsed.inYear other = c.inYear other := by
  obtain ⟨-, hmonth, hday, hhour, hminute, hsecond⟩ := Civil.of?_eq_some h
  rw [Civil.inYear, Civil.inYear, hmonth, hday, hhour, hminute, hsecond]

/-- A stamp that carries its year is read as its time, and another as its date in the year the
session starts in, if it can be read. -/
theorem readTime_eq (stamp : Stamp) {defaultYear : ℕ} (h : 1 ≤ defaultYear)
    (h' : defaultYear ≤ 9999) :
    (stamp.carriesYear = true ∧ stamp.readTime defaultYear = some stamp.micros) ∨
      (stamp.carriesYear = false ∧ stamp.micros = microsOf stamp.date 0 ∧
        ((stamp.readable defaultYear = true ∧ ∃ parsed,
            stamp.date.inYear defaultYear = some parsed ∧
            stamp.readTime defaultYear = some (microsOf parsed 0)) ∨
          (stamp.readable defaultYear = false ∧ stamp.readTime defaultYear = none))) := by
  cases stamp with
  | bracket weekday zeroDay c withYear =>
      cases withYear with
      | true =>
          by_cases hyear : c.year = 1900
          · obtain ⟨parsed, hparsed⟩ := exists_inYear (not_leapDay_of_year hyear) h h'
            refine .inr ⟨by simp [Stamp.carriesYear, hyear], rfl,
              .inl ⟨rfl, parsed, hparsed, ?_⟩⟩
            rw [Stamp.readTime, Stamp.readDate, if_pos hyear, hparsed, Option.map_some]
          · refine .inl ⟨by simp [Stamp.carriesYear, hyear], ?_⟩
            rw [Stamp.readTime, Stamp.readDate, if_neg hyear, Option.map_some]
            rfl
      | false =>
          have hleap := inYear_1900_isSome_iff c
          refine .inr ⟨rfl, rfl, ?_⟩
          cases hparsed : c.inYear 1900 with
          | none =>
              rw [hparsed] at hleap
              have hdate : c.month = 2 ∧ c.day = 29 := by
                by_contra hdate
                cases hleap.mpr hdate
              refine .inr ⟨decide_eq_false (not_not.mpr hdate), ?_⟩
              rw [Stamp.readTime, Stamp.readDate, hparsed, Option.bind_none, Option.map_none]
          | some parsed =>
              rw [hparsed] at hleap
              have hdate := hleap.mp rfl
              obtain ⟨moved, hmoved⟩ := exists_inYear hdate h h'
              refine .inl ⟨decide_eq_true hdate, moved, hmoved, ?_⟩
              rw [Stamp.readTime, Stamp.readDate, hparsed, Option.bind_some,
                inYear_bind hparsed, hmoved, Option.map_some]
  | syslog zeroDay c =>
      refine .inr ⟨rfl, rfl, ?_⟩
      have hiff := c.inYear_isSome_iff h h'
      by_cases hyear : 1000 ≤ defaultYear
      · cases hparsed : c.inYear defaultYear with
        | none =>
            rw [hparsed] at hiff
            have hdate : c.month = 2 ∧ c.day = 29 ∧ isLeap defaultYear = false := by
              by_contra hdate
              cases hiff.mpr hdate
            refine .inr ⟨decide_eq_false fun hread => hread.2 hdate, ?_⟩
            rw [Stamp.readTime, Stamp.readDate, if_pos hyear, hparsed, Option.map_none]
        | some parsed =>
            rw [hparsed] at hiff
            refine .inl ⟨decide_eq_true ⟨hyear, hiff.mp rfl⟩, parsed, hparsed, ?_⟩
            rw [Stamp.readTime, Stamp.readDate, if_pos hyear, hparsed, Option.map_some]
      · refine .inr ⟨decide_eq_false fun hread => hyear hread.1, ?_⟩
        rw [Stamp.readTime, Stamp.readDate, if_neg hyear, Option.map_none]
  | iso c fraction suffix => exact .inl ⟨rfl, rfl⟩

/-- The condition for a line to be counted exactly when its time is in the window: its stamp
carries its year, or its date can be read and is one of the year the session starts in or, like
the same date of that year, not in the window. A line whose date cannot be read is counted. -/
def CountedRight (started ended : UtcTime) (stamp : Stamp) : Prop :=
  stamp.carriesYear = true ∨
    if stamp.readable started.civil.year then
      stamp.date.year = started.civil.year ∨
        ¬ InOomWindow started ended 600 stamp.micros ∧
          ∀ moved ∈ stamp.date.inYear started.civil.year,
            ¬ InOomWindow started ended 600 (microsOf moved 0)
    else InOomWindow started ended 600 stamp.micros

/-- Two times in the window of a short session are less than 365 days apart. -/
theorem inOomWindow_near {started ended : UtcTime}
    (hmonth : ended.micros - started.micros < 31 * 86400 * 1000000) {t u : ℤ}
    (ht : InOomWindow started ended 600 t) (hu : InOomWindow started ended 600 u) :
    u < t + 365 * 86400 * 1000000 := by
  rw [InOomWindow] at ht hu
  omega

/-- A date and the same date of another year are not both in the window. -/
theorem not_inOomWindow_both {started ended : UtcTime}
    (hmonth : ended.micros - started.micros < 31 * 86400 * 1000000) {c moved : Civil} {year : ℕ}
    (hmoved : c.inYear year = some moved) (hyear : c.year ≠ year)
    (h : InOomWindow started ended 600 (microsOf c 0))
    (h' : InOomWindow started ended 600 (microsOf moved 0)) : False := by
  rcases Nat.lt_or_gt_of_ne hyear with hlt | hlt
  · have hfar := Civil.seconds_inYear hmoved hlt
    have hnear := inOomWindow_near hmonth h h'
    simp only [microsOf] at hnear
    omega
  · have hfar := Civil.seconds_inYear_of_gt hmoved hlt
    have hnear := inOomWindow_near hmonth h' h
    simp only [microsOf] at hnear
    omega

/-- What is read of a stamp is right under the condition, and only then. -/
theorem readTime_iff {started ended : UtcTime}
    (hmonth : ended.micros - started.micros < 31 * 86400 * 1000000) (stamp : Stamp) :
    ((∀ t ∈ stamp.readTime started.civil.year, InOomWindow started ended 600 t) ↔
        InOomWindow started ended 600 stamp.micros) ↔ CountedRight started ended stamp := by
  obtain ⟨hyear, hyear'⟩ := started.civil.valid.1
  rcases readTime_eq stamp hyear hyear' with ⟨hcarries, htime⟩ | ⟨hcarries, hmicros, hread⟩
  · refine iff_of_true ?_ (.inl hcarries)
    rw [htime]
    exact ⟨fun h => h _ rfl, fun h t ht => Option.some.inj ht ▸ h⟩
  · have hcondition : CountedRight started ended stamp ↔
        if stamp.readable started.civil.year then
          stamp.date.year = started.civil.year ∨
            ¬ InOomWindow started ended 600 stamp.micros ∧
              ∀ moved ∈ stamp.date.inYear started.civil.year,
                ¬ InOomWindow started ended 600 (microsOf moved 0)
        else InOomWindow started ended 600 stamp.micros := by
      rw [CountedRight, hcarries]
      exact or_iff_right Bool.false_ne_true
    rw [hcondition]
    rcases hread with ⟨hreadable, moved, hmoved, htime⟩ | ⟨hreadable, htime⟩
    · rw [if_pos hreadable, htime, hmoved]
      have hall : (∀ t ∈ some (microsOf moved 0), InOomWindow started ended 600 t) ↔
          InOomWindow started ended 600 (microsOf moved 0) :=
        ⟨fun h => h _ rfl, fun h t ht => Option.some.inj ht ▸ h⟩
      rw [hall]
      by_cases hsame : stamp.date.year = started.civil.year
      · rw [← hsame, stamp.date.inYear_self] at hmoved
        rw [hmicros, ← Option.some.inj hmoved]
        exact iff_of_true Iff.rfl (.inl hsame)
      · constructor
        · intro hiff
          have hout : ¬ InOomWindow started ended 600 stamp.micros := fun hin =>
            not_inOomWindow_both hmonth hmoved hsame (hmicros ▸ hin) (hiff.mpr hin)
          exact .inr ⟨hout, fun other hother => Option.some.inj hother ▸ mt hiff.mp hout⟩
        · rintro (h | ⟨hout, hother⟩)
          · exact absurd h hsame
          · exact iff_of_false (hother moved rfl) hout
    · rw [if_neg (by rw [hreadable]; exact Bool.false_ne_true), htime]
      have hall : ∀ t ∈ (none : Option ℤ), InOomWindow started ended 600 t := by
        intro t ht
        cases ht
      exact ⟨fun hiff => hiff.mp hall, fun hin => ⟨fun _ => hin, fun _ => hall⟩⟩

/-- An OOM line counts when the time that is read is in the window. -/
theorem lineCounts_iff {started ended : UtcTime} {line : List Char}
    (hoom : isOomLine line = true) :
    lineCounts started ended 600 line = true ↔
      ∀ t ∈ parseKernelLogTime line started.civil.year, InOomWindow started ended 600 t := by
  have hline : line ≠ [] := by
    rintro rfl
    exact absurd hoom (by decide)
  rw [lineCounts, hoom, decide_eq_true hline, Bool.true_and, Bool.true_and]
  cases parseKernelLogTime line started.civil.year with
  | none => simp
  | some t => simp

/-- A line adds one to the count of a log, or nothing. -/
theorem matchedLineCount_insert (started ended : UtcTime) (raw : List Char)
    (pre post : List (List Char)) :
    (detectOomEvidence (pre ++ raw :: post) started ended 600).matchedLineCount =
      (detectOomEvidence (pre ++ post) started ended 600).matchedLineCount +
        if lineCounts started ended 600 (strip raw) then 1 else 0 := by
  simp only [detectOomEvidence, List.map_append, List.map_cons, List.filter_append,
    List.filter_cons, List.length_append]
  split
  · rw [List.length_cons, Nat.add_assoc]
  · rfl

/-- **When OOM evidence is found across calendar boundaries.** An OOM line that starts with a
stamp is counted, in a session of less than a month and wherever it stands in the log, exactly
when its time is at most ten minutes from the session, under the condition and only then. -/
theorem oom_line_counted_iff {started ended : UtcTime}
    (hmonth : ended.micros - started.micros < 31 * 86400 * 1000000) (stamp : Stamp)
    {raw rest : List Char} (hline : strip raw = stamp.text ++ rest)
    (hrest : stamp.EndsBefore rest) (hoom : isOomLine (strip raw) = true)
    (pre post : List (List Char)) :
    (detectOomEvidence (pre ++ raw :: post) started ended 600).matchedLineCount =
        (detectOomEvidence (pre ++ post) started ended 600).matchedLineCount +
          (if InOomWindow started ended 600 stamp.micros then 1 else 0) ↔
      CountedRight started ended stamp := by
  obtain ⟨hyear, hyear'⟩ := started.civil.valid.1
  have hcounts : lineCounts started ended 600 (strip raw) = true ↔
      ∀ t ∈ stamp.readTime started.civil.year, InOomWindow started ended 600 t := by
    rw [lineCounts_iff hoom, hline, parseKernelLogTime_text stamp hyear hyear' hrest]
  rw [matchedLineCount_insert, ← readTime_iff hmonth stamp, ← hcounts, Nat.add_left_cancel_iff]
  by_cases hin : InOomWindow started ended 600 stamp.micros
  · cases hline : lineCounts started ended 600 (strip raw) <;> simp [hin]
  · cases hline : lineCounts started ended 600 (strip raw) <;> simp [hin]

/-- A session of an hour around the start of the year 2026. -/
def newYearStart : UtcTime :=
  ⟨⟨2025, 12, 31, 23, 30, 0, by decide⟩, 0, by decide⟩

def newYearEnd : UtcTime :=
  ⟨⟨2026, 1, 1, 0, 30, 0, by decide⟩, 0, by decide⟩

/-- Ten minutes into the new year. -/
def newYearKill : Civil := ⟨2026, 1, 1, 0, 10, 0, by decide⟩

def oomMessage : List Char := " Out of memory: Killed process 7 (python)".toList

theorem oom_line_counted_iff_withYear :
    (detectOomEvidence [(Stamp.bracket 3 false newYearKill true).text ++ oomMessage]
      newYearStart newYearEnd 600).matchedLineCount = 1 :=
  (@oom_line_counted_iff newYearStart newYearEnd (by decide +kernel)
    (.bracket 3 false newYearKill true)
    ((Stamp.bracket 3 false newYearKill true).text ++ oomMessage) oomMessage (by decide +kernel)
    trivial (by decide +kernel) [] []).mpr (.inl (by decide +kernel))

theorem new_year_kill_not_counted :
    strip ((Stamp.syslog false newYearKill).text ++ oomMessage) =
        (Stamp.syslog false newYearKill).text ++ oomMessage ∧
      isOomLine ((Stamp.syslog false newYearKill).text ++ oomMessage) = true ∧
      InOomWindow newYearStart newYearEnd 600 (Stamp.syslog false newYearKill).micros ∧
      (detectOomEvidence [(Stamp.syslog false newYearKill).text ++ oomMessage] newYearStart
        newYearEnd 600).matchedLineCount = 0 := by
  decide +kernel

end SomethingTrade
