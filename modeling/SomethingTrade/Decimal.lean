import Mathlib.Algebra.Order.Field.Rat
import Mathlib.Algebra.Order.Ring.Abs
import Mathlib.Data.Nat.Log
import Mathlib.Data.Nat.Prime.Basic
import Mathlib.Tactic.FieldSimp
import Mathlib.Tactic.Linarith
import Mathlib.Tactic.Ring

/-!
# Decimal Numbers and Their Text

Decimal numbers as a value type, with the constructor from text and fixed-point
printing. A finite decimal stands for its exact rational value; the exponent it was
written with is not kept, so two texts of one value are one decimal.

`Decimal.ofText` follows the grammar of the decimal constructor: surrounding white
space and underscores are dropped, then an optional sign and either a number with
optional fraction and exponent, an infinity, or a NaN with optional payload. Digits are
the ASCII ones. `floatOfText` is the grammar of the float constructor, whose finite
values are taken exactly: underscores may stand between digits only.

`formatF` prints a decimal fraction without exponent.

## Main results

* `Decimal.ofText_formatF`: reading what `formatF` prints gives back the value, for every
  decimal fraction.
* `Decimal.isDecimal_of_ofText`: every finite value read from text is a decimal fraction.
-/

namespace SomethingTrade

/-- A decimal number: a finite value, an infinity, or not a number. -/
inductive Decimal
  | finite (value : ℚ)
  | infinity (negative : Bool)
  | nan
  deriving DecidableEq

/-- A rational with a finite decimal expansion. -/
def IsDecimal (q : ℚ) : Prop := ∃ (n : ℤ) (k : ℕ), q * 10 ^ k = n

namespace Decimal

/-! ### Digits -/

/-- The value of a list of digit characters, most significant first. -/
def digitsValue (ds : List Char) : ℕ := ds.foldl (fun n c => 10 * n + (c.toNat - 48)) 0

/-- The character of a digit. -/
def digitChar (d : ℕ) : Char := Char.ofNat (48 + d)

/-- The last `w` digits of `n`, with leading zeros. -/
def fixedDigits : ℕ → ℕ → List Char
  | 0, _ => []
  | w + 1, n => fixedDigits w (n / 10) ++ [digitChar (n % 10)]

theorem digitsValue_append_singleton (ds : List Char) (c : Char) :
    digitsValue (ds ++ [c]) = 10 * digitsValue ds + (c.toNat - 48) := by
  simp [digitsValue]

theorem digitChar_spec {d : ℕ} (hd : d < 10) :
    (digitChar d).isDigit = true ∧ (digitChar d).toNat - 48 = d := by
  revert d
  decide

theorem length_fixedDigits (w n : ℕ) : (fixedDigits w n).length = w := by
  induction w generalizing n with
  | zero => rfl
  | succ w ih => simp [fixedDigits, ih]

theorem isDigit_of_mem_fixedDigits {w n : ℕ} {c : Char} (hc : c ∈ fixedDigits w n) :
    c.isDigit = true := by
  induction w generalizing n with
  | zero => simp [fixedDigits] at hc
  | succ w ih =>
      rcases List.mem_append.mp hc with hc | hc
      · exact ih hc
      · obtain rfl := List.mem_singleton.mp hc
        exact (digitChar_spec (Nat.mod_lt _ (by norm_num))).1

/-- The printed digits of `n` after more significant ones: their values combine. -/
theorem digitsValue_append_fixedDigits (ds : List Char) (w n : ℕ) :
    digitsValue (ds ++ fixedDigits w n) = digitsValue ds * 10 ^ w + n % 10 ^ w := by
  induction w generalizing n with
  | zero => simp [fixedDigits, Nat.mod_one]
  | succ w ih =>
      have hd := (digitChar_spec (d := n % 10) (Nat.mod_lt _ (by norm_num))).2
      have hsplit : n % 10 ^ (w + 1) = 10 * (n / 10 % 10 ^ w) + n % 10 := by
        rw [pow_succ', Nat.mod_mul]
        omega
      rw [fixedDigits, ← List.append_assoc, digitsValue_append_singleton, ih, hd, hsplit]
      ring

theorem digitsValue_fixedDigits (w n : ℕ) : digitsValue (fixedDigits w n) = n % 10 ^ w := by
  simpa [digitsValue] using digitsValue_append_fixedDigits [] w n

/-! ### Reading -/

/-- White space as the text constructor strips it. -/
def isSpace (c : Char) : Bool :=
  c.toNat ∈ [0x20, 0x85, 0xa0, 0x1680, 0x2028, 0x2029, 0x202f, 0x205f, 0x3000] ||
    (0x9 ≤ c.toNat && c.toNat ≤ 0xd) || (0x1c ≤ c.toNat && c.toNat ≤ 0x1f) ||
    (0x2000 ≤ c.toNat && c.toNat ≤ 0x200a)

/-- The text without surrounding white space. -/
def strip (cs : List Char) : List Char :=
  ((cs.dropWhile isSpace).reverse.dropWhile isSpace).reverse

/-- Split an optional sign off; `true` for a minus sign. -/
def splitSign : List Char → Bool × List Char
  | '-' :: cs => (true, cs)
  | '+' :: cs => (false, cs)
  | cs => (false, cs)

/-- The exponent part: nothing, or `e` with an optionally signed number. -/
def readExponent : List Char → Option ℤ
  | [] => some 0
  | c :: cs =>
      let (negative, ds) := splitSign cs
      if (c = 'e' ∨ c = 'E') ∧ ds ≠ [] ∧ ds.all Char.isDigit then
        some (if negative then -(digitsValue ds : ℤ) else digitsValue ds)
      else none

/-- The fraction digits after an optional point, and the rest. -/
def readFraction : List Char → List Char × List Char
  | '.' :: cs => (cs.takeWhile Char.isDigit, cs.dropWhile Char.isDigit)
  | cs => ([], cs)

/-- An unsigned number: integer digits, an optional fraction, an optional exponent, with
at least one digit before the exponent. -/
def readNumber (cs : List Char) : Option ℚ :=
  let int := cs.takeWhile Char.isDigit
  let (frac, rest) := readFraction (cs.dropWhile Char.isDigit)
  if int = [] ∧ frac = [] then none
  else (readExponent rest).map fun e : ℤ =>
    (digitsValue (int ++ frac) : ℚ) * 10 ^ (e - (frac.length : ℤ))

/-- A NaN, quiet or signaling, with an optional numeric payload. -/
def isNanText (cs : List Char) : Bool :=
  match cs with
  | 'n' :: 'a' :: 'n' :: ds => ds.all Char.isDigit
  | 's' :: 'n' :: 'a' :: 'n' :: ds => ds.all Char.isDigit
  | _ => false

/-- The decimal constructor on characters; `none` is its `InvalidOperation`. -/
def ofChars (cs : List Char) : Option Decimal :=
  let (negative, body) := splitSign ((strip cs).filter (· ≠ '_'))
  match readNumber body with
  | some q => some (.finite (if negative then -q else q))
  | none =>
      let lower := body.map Char.toLower
      if lower = "inf".toList ∨ lower = "infinity".toList then some (.infinity negative)
      else if isNanText lower then some .nan
      else none

/-- The decimal constructor on text. -/
def ofText (s : String) : Option Decimal := ofChars s.toList

/-- Underscores of a float literal stand between two digits only. -/
def underscoresBetweenDigits : List Char → Bool
  | [] => true
  | ['_'] => false
  | a :: '_' :: b :: cs => a.isDigit && b.isDigit && underscoresBetweenDigits (b :: cs)
  | '_' :: _ => false
  | _ :: cs => underscoresBetweenDigits cs

/-- The float constructor on text, with finite values taken exactly: it knows no NaN
payloads and no signaling NaN. -/
def floatOfText (s : String) : Option Decimal :=
  let body := strip s.toList
  if underscoresBetweenDigits body then
    match ofText s with
    | some .nan => if (splitSign body).2.map Char.toLower = "nan".toList then some .nan else none
    | parsed => parsed
  else none

/-- The integer constructor on text. -/
def intOfText (s : String) : Option ℤ :=
  let (negative, body) := splitSign (strip s.toList)
  let digits := body.filter (· ≠ '_')
  if digits ≠ [] ∧ digits.all Char.isDigit ∧ underscoresBetweenDigits body then
    some (if negative then -(digitsValue digits : ℤ) else digitsValue digits)
  else none

/-! ### Printing -/

/-- The least `k` from the given one on such that `den` divides `10 ^ k`, searched with
fuel. -/
def fractionWidthFrom (den : ℕ) : ℕ → ℕ → ℕ
  | 0, k => k
  | fuel + 1, k => if den ∣ 10 ^ k then k else fractionWidthFrom den fuel (k + 1)

/-- The number of fraction digits of a decimal fraction. -/
def fractionWidth (q : ℚ) : ℕ := fractionWidthFrom q.den q.den 0

/-- The digits of a non-negative decimal fraction `n / 10 ^ k`. -/
def formatDigits (n k : ℕ) : List Char :=
  fixedDigits (Nat.log 10 (n / 10 ^ k) + 1) (n / 10 ^ k) ++
    if k = 0 then [] else '.' :: fixedDigits k n

/-- Fixed-point printing: sign, integer digits, and the fraction digits when there are
any. -/
def formatF (q : ℚ) : String :=
  let k := fractionWidth q
  let digits := formatDigits (q * 10 ^ k).num.natAbs k
  String.ofList (if q < 0 then '-' :: digits else digits)

/-! ### What is read is a decimal fraction -/

theorem isDecimal_mul_zpow (n : ℕ) (e : ℤ) : IsDecimal ((n : ℚ) * 10 ^ e) := by
  obtain ⟨k, rfl | rfl⟩ := e.eq_nat_or_neg
  · exact ⟨(n * 10 ^ k : ℕ), 0, by simp⟩
  · refine ⟨n, k, ?_⟩
    rw [zpow_neg, zpow_natCast, mul_assoc, inv_mul_cancel₀ (by positivity), mul_one]
    rfl

theorem isDecimal_of_readNumber {cs : List Char} {q : ℚ} (h : readNumber cs = some q) :
    IsDecimal q := by
  simp only [readNumber] at h
  split at h
  · simp at h
  · obtain ⟨e, -, rfl⟩ := Option.map_eq_some_iff.mp h
    exact isDecimal_mul_zpow _ _

/-- Every finite value read from text is a decimal fraction. -/
theorem isDecimal_of_ofText {s : String} {q : ℚ} (h : ofText s = some (.finite q)) :
    IsDecimal q := by
  simp only [ofText, ofChars] at h
  split at h
  · rename_i r hr
    obtain ⟨n, k, hn⟩ := isDecimal_of_readNumber hr
    simp only [Option.some.injEq, finite.injEq] at h
    split at h <;> subst h
    · exact ⟨-n, k, by rw [neg_mul, hn]; push_cast; ring⟩
    · exact ⟨n, k, hn⟩
  · split_ifs at h <;> simp at h

/-! ### What is printed reads back -/

/-- The characters of a printed number. -/
def IsNumeral (c : Char) : Prop := c.isDigit = true ∨ c = '.' ∨ c = '-'

theorem IsNumeral.not_isSpace {c : Char} (h : IsNumeral c) : isSpace c = false := by
  rcases h with h | rfl | rfl
  · simp only [Char.isDigit, Bool.and_eq_true, decide_eq_true_eq,
      UInt32.le_iff_toNat_le] at h
    have h1 : 48 ≤ c.toNat := h.1
    have h2 : c.toNat ≤ 57 := h.2
    simp [isSpace]
    omega
  · decide
  · decide

theorem IsNumeral.ne_underscore {c : Char} (h : IsNumeral c) : c ≠ '_' := by
  rintro rfl
  rcases h with h | h | h <;> revert h <;> decide

/-- Printed numbers have no space to strip. -/
theorem strip_eq_self {cs : List Char} (h : ∀ c ∈ cs, IsNumeral c) : strip cs = cs := by
  have key : ∀ l : List Char, (∀ c ∈ l, IsNumeral c) → l.dropWhile isSpace = l := by
    rintro (- | ⟨c, l⟩) hl
    · rfl
    · exact List.dropWhile_cons_of_neg (by simp [(hl c List.mem_cons_self).not_isSpace])
  rw [strip, key cs h, key cs.reverse (by simpa using h), List.reverse_reverse]

/-- Printed numbers have no underscores to drop either. -/
theorem strip_filter_eq_self {cs : List Char} (h : ∀ c ∈ cs, IsNumeral c) :
    (strip cs).filter (· ≠ '_') = cs := by
  rw [strip_eq_self h, List.filter_eq_self]
  exact fun c hc => by simpa using (h c hc).ne_underscore

/-- A run of digits is read off the front of a text that goes on with another
character. -/
theorem takeWhile_digits_append {ds : List Char} (cs : List Char) (hds : ∀ c ∈ ds, c.isDigit = true)
    (hcs : cs.takeWhile Char.isDigit = []) :
    (ds ++ cs).takeWhile Char.isDigit = ds ∧ (ds ++ cs).dropWhile Char.isDigit = cs := by
  constructor
  · rw [List.takeWhile_append_of_pos hds, hcs, List.append_nil]
  · rw [List.dropWhile_append_of_pos hds]
    cases cs with
    | nil => rfl
    | cons c cs =>
        refine List.dropWhile_cons_of_neg fun hc => ?_
        rw [List.takeWhile_cons_of_pos hc] at hcs
        cases hcs

/-- Reading printed digits gives the printed value. -/
theorem readNumber_formatDigits (n k : ℕ) :
    readNumber (formatDigits n k) = some ((n : ℚ) / 10 ^ k) := by
  set w := Nat.log 10 (n / 10 ^ k) + 1 with hw
  have hint : ∀ c ∈ fixedDigits w (n / 10 ^ k), c.isDigit = true :=
    fun c hc => isDigit_of_mem_fixedDigits hc
  have hne : fixedDigits w (n / 10 ^ k) ≠ [] := by
    rw [← List.length_pos_iff_ne_nil, length_fixedDigits]
    omega
  have hval : digitsValue (fixedDigits w (n / 10 ^ k)) = n / 10 ^ k := by
    rw [digitsValue_fixedDigits, Nat.mod_eq_of_lt (Nat.lt_pow_succ_log_self (by norm_num) _)]
  by_cases hk : k = 0
  · subst hk
    obtain ⟨htake, hdrop⟩ := takeWhile_digits_append [] hint rfl
    rw [List.append_nil] at htake hdrop
    have hform : formatDigits n 0 = fixedDigits w (n / 10 ^ 0) := by
      simp only [formatDigits, if_true, List.append_nil, hw]
    rw [hform, readNumber]
    simp only [htake, hdrop, readFraction, hne, false_and, if_false, readExponent,
      Option.map_some, List.append_nil, hval]
    simp
  · obtain ⟨htake, hdrop⟩ :=
      takeWhile_digits_append ('.' :: fixedDigits k n) hint
        (List.takeWhile_cons_of_neg (by decide))
    have hfrac : ∀ c ∈ fixedDigits k n, c.isDigit = true :=
      fun c hc => isDigit_of_mem_fixedDigits hc
    obtain ⟨hftake, hfdrop⟩ := takeWhile_digits_append [] hfrac rfl
    rw [List.append_nil] at hftake hfdrop
    have hall : digitsValue (fixedDigits w (n / 10 ^ k) ++ fixedDigits k n) = n := by
      rw [digitsValue_append_fixedDigits, hval]
      exact Nat.div_add_mod' n (10 ^ k)
    simp only [readNumber, formatDigits, ← hw, if_neg hk, htake, hdrop, readFraction, hftake,
      hfdrop, hne, false_and, if_false, readExponent, Option.map_some, hall,
      length_fixedDigits, zero_sub, zpow_neg, zpow_natCast, div_eq_mul_inv]

/-- The search finds a width at which the fraction is integral, when there is one within
the fuel. -/
theorem dvd_pow_fractionWidthFrom {den : ℕ} {fuel k : ℕ}
    (h : ∃ j, k ≤ j ∧ j ≤ k + fuel ∧ den ∣ 10 ^ j) :
    den ∣ 10 ^ fractionWidthFrom den fuel k := by
  induction fuel generalizing k with
  | zero =>
      obtain ⟨j, h1, h2, hd⟩ := h
      obtain rfl : j = k := by omega
      exact hd
  | succ fuel ih =>
      rw [fractionWidthFrom]
      split
      · assumption
      · rename_i hk
        obtain ⟨j, h1, h2, hd⟩ := h
        refine ih ⟨j, ?_, by omega, hd⟩
        rcases Nat.lt_or_eq_of_le h1 with h1 | rfl
        · exact h1
        · exact absurd hd hk

/-- The denominator of a decimal fraction divides a power of ten bounded by itself. -/
theorem IsDecimal.den_dvd {q : ℚ} (h : IsDecimal q) : q.den ∣ 10 ^ q.den := by
  obtain ⟨n, k, hn⟩ := h
  have hq : q = Rat.divInt n (10 ^ k : ℕ) := by
    rw [Rat.divInt_eq_div, eq_div_iff (by positivity)]
    push_cast
    exact hn
  have hdvd : q.den ∣ 10 ^ k := by
    have := Rat.den_dvd n ((10 ^ k : ℕ) : ℤ)
    rw [← hq] at this
    exact_mod_cast this
  have h10 : (10 : ℕ) ^ k = 2 ^ k * 5 ^ k := by rw [← Nat.mul_pow]
  rw [h10, Nat.dvd_mul] at hdvd
  obtain ⟨x, y, hx, hy, hxy⟩ := hdvd
  obtain ⟨a, -, rfl⟩ := (Nat.dvd_prime_pow Nat.prime_two).mp hx
  obtain ⟨b, -, rfl⟩ := (Nat.dvd_prime_pow Nat.prime_five).mp hy
  have ha : a ≤ q.den := by
    have h1 : a < 2 ^ a := Nat.lt_two_pow_self
    have h2 : 2 ^ a ≤ 2 ^ a * 5 ^ b := Nat.le_mul_of_pos_right _ (by positivity)
    omega
  have hb : b ≤ q.den := by
    have h1 : b < 5 ^ b := Nat.lt_pow_self (by norm_num)
    have h2 : 5 ^ b ≤ 2 ^ a * 5 ^ b := Nat.le_mul_of_pos_left _ (by positivity)
    omega
  calc q.den = 2 ^ a * 5 ^ b := hxy.symm
    _ ∣ 2 ^ q.den * 5 ^ q.den := Nat.mul_dvd_mul (pow_dvd_pow 2 ha) (pow_dvd_pow 5 hb)
    _ = 10 ^ q.den := by rw [← Nat.mul_pow]

/-- A decimal fraction times its power of ten is the integer that is printed. -/
theorem mul_pow_fractionWidth {q : ℚ} (h : IsDecimal q) :
    q * 10 ^ fractionWidth q = (q * 10 ^ fractionWidth q).num := by
  have hd : q.den ∣ 10 ^ fractionWidth q :=
    dvd_pow_fractionWidthFrom ⟨q.den, Nat.zero_le _, by omega, IsDecimal.den_dvd h⟩
  obtain ⟨c, hc⟩ := hd
  have hint : q * 10 ^ fractionWidth q = ((q.num * c : ℤ) : ℚ) := by
    have h10 : (10 : ℚ) ^ fractionWidth q = q.den * c := by exact_mod_cast hc
    rw [h10, ← mul_assoc, Rat.mul_den_eq_num]
    push_cast
    rfl
  rw [hint, Rat.num_intCast]

theorem isNumeral_of_mem_formatDigits {n k : ℕ} {c : Char} (hc : c ∈ formatDigits n k) :
    IsNumeral c := by
  rcases List.mem_append.mp hc with hc | hc
  · exact Or.inl (isDigit_of_mem_fixedDigits hc)
  · split at hc
    · simp at hc
    · rcases List.mem_cons.mp hc with rfl | hc
      · exact Or.inr (Or.inl rfl)
      · exact Or.inl (isDigit_of_mem_fixedDigits hc)

/-- Printed digits start with a digit, so no sign is split off them. -/
theorem splitSign_formatDigits (n k : ℕ) :
    splitSign (formatDigits n k) = (false, formatDigits n k) := by
  have hdigit : ∀ c ∈ fixedDigits (Nat.log 10 (n / 10 ^ k) + 1) (n / 10 ^ k),
      c.isDigit = true := fun c hc => isDigit_of_mem_fixedDigits hc
  have hlen := length_fixedDigits (Nat.log 10 (n / 10 ^ k) + 1) (n / 10 ^ k)
  rw [formatDigits]
  cases hd : fixedDigits (Nat.log 10 (n / 10 ^ k) + 1) (n / 10 ^ k) with
  | nil => simp [hd] at hlen
  | cons c ds =>
      have hc := hdigit c (hd ▸ List.mem_cons_self)
      have hminus : c ≠ '-' := by rintro rfl; revert hc; decide
      have hplus : c ≠ '+' := by rintro rfl; revert hc; decide
      simp only [List.cons_append]
      unfold splitSign
      split <;> simp_all

/-- The characters of a printed number are those of a numeral. -/
theorem isNumeral_of_mem_formatF (q : ℚ) : ∀ c ∈ (formatF q).toList, IsNumeral c := by
  intro c hc
  rw [formatF, String.toList_ofList] at hc
  split at hc
  · rcases List.mem_cons.mp hc with rfl | hc
    · exact Or.inr (Or.inr rfl)
    · exact isNumeral_of_mem_formatDigits hc
  · exact isNumeral_of_mem_formatDigits hc

/-- **Reading what is printed gives back the value**, for every decimal fraction. -/
theorem ofText_formatF {q : ℚ} (h : IsDecimal q) : ofText (formatF q) = some (.finite q) := by
  have hstrip := strip_filter_eq_self (isNumeral_of_mem_formatF q)
  rw [ofText, ofChars, hstrip, formatF, String.toList_ofList]
  set k := fractionWidth q with hk
  set n := (q * 10 ^ k).num.natAbs with hn
  have habs : (n : ℚ) / 10 ^ k = |q| := by
    have h1 : ((n : ℕ) : ℚ) = |((q * 10 ^ k).num : ℚ)| := by
      rw [hn, Nat.cast_natAbs, Int.cast_abs]
    rw [h1, ← mul_pow_fractionWidth h, abs_mul, abs_of_pos (by positivity : (0 : ℚ) < 10 ^ k)]
    field_simp
  have hread := readNumber_formatDigits n k
  by_cases hneg : q < 0
  · simp [if_pos hneg, splitSign, hread, habs, abs_of_neg hneg]
  · rw [if_neg hneg, splitSign_formatDigits]
    simp [hread, habs, abs_of_nonneg (not_lt.mp hneg)]

/-- A text without underscores has them between digits only. -/
theorem underscoresBetweenDigits_of_ne {cs : List Char} (h : ∀ c ∈ cs, c ≠ '_') :
    underscoresBetweenDigits cs = true := by
  induction cs using underscoresBetweenDigits.induct with
  | case1 => rfl
  | case2 => exact absurd rfl (h '_' List.mem_cons_self)
  | case3 a b cs ih => exact absurd rfl (h '_' (by simp))
  | case4 cs => exact absurd rfl (h '_' List.mem_cons_self)
  | case5 a cs h1 h2 h3 ih =>
      rw [underscoresBetweenDigits]
      · exact ih fun c hc => h c (List.mem_cons_of_mem a hc)
      · exact h1
      · exact h2
      · exact h3

/-- The float constructor reads a printed decimal fraction as its value. -/
theorem floatOfText_formatF {q : ℚ} (h : IsDecimal q) :
    floatOfText (formatF q) = some (.finite q) := by
  have hnum := isNumeral_of_mem_formatF q
  have hstrip : strip (formatF q).toList = (formatF q).toList := strip_eq_self hnum
  have hunder := underscoresBetweenDigits_of_ne fun c hc => (hnum c hc).ne_underscore
  simp only [floatOfText, hstrip, hunder, if_true, ofText_formatF h]

/-- A printed natural number is its digits. -/
theorem formatF_natCast (n : ℕ) :
    (formatF (n : ℚ)).toList = fixedDigits (Nat.log 10 n + 1) n := by
  have hwidth : fractionWidth (n : ℚ) = 0 := by simp [fractionWidth, fractionWidthFrom]
  have hneg : ¬ (n : ℚ) < 0 := not_lt.mpr n.cast_nonneg
  simp [formatF, hwidth, hneg, formatDigits]

/-- The integer constructor reads a printed natural number as its value. -/
theorem intOfText_formatF_natCast (n : ℕ) : intOfText (formatF (n : ℚ)) = some (n : ℤ) := by
  set ds := fixedDigits (Nat.log 10 n + 1) n with hds
  have hformat : formatDigits n 0 = ds := by simp [formatDigits, hds]
  have hstrip : strip (formatF (n : ℚ)).toList = ds := by
    rw [strip_eq_self (isNumeral_of_mem_formatF _), formatF_natCast]
  have hsplit : splitSign ds = (false, ds) := hformat ▸ splitSign_formatDigits n 0
  have hdigit : ∀ c ∈ ds, c.isDigit = true := fun c hc => isDigit_of_mem_fixedDigits hc
  have hunder : ∀ c ∈ ds, c ≠ '_' := fun c hc => IsNumeral.ne_underscore (.inl (hdigit c hc))
  have hfilter : ds.filter (· ≠ '_') = ds := List.filter_eq_self.mpr (by simpa using hunder)
  have hne : ds ≠ [] := List.length_pos_iff.mp (by simp [hds, length_fixedDigits])
  have hvalue : digitsValue ds = n := by
    rw [hds, digitsValue_fixedDigits,
      Nat.mod_eq_of_lt (Nat.lt_pow_succ_log_self (by norm_num) n)]
  have hread : ds ≠ [] ∧ ds.all Char.isDigit ∧ underscoresBetweenDigits ds :=
    ⟨hne, List.all_eq_true.mpr hdigit, underscoresBetweenDigits_of_ne hunder⟩
  simp only [intOfText, hstrip, hsplit, hfilter, hvalue, if_pos hread]
  rfl

end Decimal

end SomethingTrade
