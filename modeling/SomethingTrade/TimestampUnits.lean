import Mathlib.Data.List.TakeWhile
import SomethingTrade.PolymarketClient
import SomethingTrade.ReferenceEvents
import SomethingTrade.TimestampAudit

/-!
# Units of Exchange Timestamps

Three functions bring the timestamps of the exchanges to one unit, and each guesses the unit
from the size: `epochMs` and `numericTimestampToMs` give milliseconds, `timestampToNs`
nanoseconds. An instant of thirteen digits of milliseconds has sixteen as microseconds and
nineteen as nanoseconds. `epochMs` knows no microseconds: it divides everything from `10 ^ 15`
on as nanoseconds.

## Main results

* `timestampToNs_natCast`: the unit by the number of digits.
* `normalisersAgree_iff`: the three agree on an instant unless it is given in microseconds.
-/

namespace SomethingTrade

/-- The units in which exchanges give times. -/
inductive TimestampUnit
  | milliseconds
  | microseconds
  | nanoseconds
  deriving DecidableEq

/-- How many of a unit make a millisecond. -/
def TimestampUnit.perMs : TimestampUnit → ℕ
  | milliseconds => 1
  | microseconds => 1000
  | nanoseconds => 1000000

/-! ### The number of digits -/

/-- The digits of a printed number are all that is counted. -/
theorem length_dropWhile_formatF (n : ℕ) :
    ((Decimal.formatF (n : ℚ)).toList.dropWhile (· = '-')).length = Nat.log 10 n + 1 := by
  have hdigits : ∀ c ∈ Decimal.fixedDigits (Nat.log 10 n + 1) n, c ≠ '-' := by
    rintro c hc rfl
    exact absurd (Decimal.isDigit_of_mem_fixedDigits hc) (by decide)
  have hself : (Decimal.fixedDigits (Nat.log 10 n + 1) n).dropWhile (· = '-') =
      Decimal.fixedDigits (Nat.log 10 n + 1) n :=
    List.dropWhile_eq_self_iff.mpr fun hpos => by simpa using hdigits _ (List.getElem_mem hpos)
  rw [Decimal.formatF_natCast, hself, Decimal.length_fixedDigits]

/-- A number is taken for the unit its number of digits says. -/
theorem timestampToNs_natCast {n digits : ℕ} (h : Nat.log 10 n + 1 = digits) :
    timestampToNs (.int n) = .ok (some
      (if digits ≤ 10 then (n : ℤ) * 1000000000
      else if digits ≤ 13 then (n : ℤ) * 1000000
      else if digits ≤ 16 then (n : ℤ) * 1000
      else n)) := by
  have htext : (Json.int n).text = Decimal.formatF (n : ℚ) := by
    rw [Json.text.eq_def]
    simp [Json.repr]
  have hread := Decimal.intOfText_formatF_natCast n
  have hlength := length_dropWhile_formatF n
  have hfull : (Decimal.formatF (n : ℚ)).isEmpty = false := by
    rw [Bool.eq_false_iff, ne_eq, String.isEmpty_iff]
    intro hempty
    simp [hempty] at hlength
  simp only [timestampToNs, htext, hfull, hread, hlength, h]
  simp only [Json.isNull, Bool.false_eq_true, if_false]
  split_ifs <;> rfl

/-! ### Agreement -/

/-- An instant of `t` milliseconds, given as a number of some unit. -/
structure GivenIn (unit : TimestampUnit) (t : ℚ) (n : ℕ) : Prop where
  value : t * unit.perMs = n
  lower : 10 ^ 12 ≤ t
  upper : t < 10 ^ 13

/-- The three functions agree on an instant. -/
structure NormalisersAgree (t : ℚ) (n : ℕ) : Prop where
  epoch : epochMs (.int n) = some t
  numeric : numericTimestampToMs n = t
  nanoseconds : ∃ ns : ℤ, timestampToNs (.int n) = .ok (some ns) ∧ (ns : ℚ) = t * 10 ^ 6

/-- The number of an instant lies between two powers of ten. -/
theorem GivenIn.bounds {unit : TimestampUnit} {t : ℚ} {n : ℕ} (h : GivenIn unit t n) :
    10 ^ 12 * unit.perMs ≤ n ∧ n < 10 ^ 13 * unit.perMs := by
  have hpos : (0 : ℚ) < unit.perMs := by cases unit <;> norm_num [TimestampUnit.perMs]
  have hlower := mul_le_mul_of_nonneg_right h.lower hpos.le
  have hupper := mul_lt_mul_of_pos_right h.upper hpos
  rw [h.value] at hlower hupper
  exact ⟨by exact_mod_cast hlower, by exact_mod_cast hupper⟩

/-- A time of the size of microseconds is taken for nanoseconds. -/
theorem epochMs_natCast {n : ℕ} (h : 10 ^ 12 ≤ n) :
    epochMs (.int n) = some (if n ≥ 10 ^ 15 then (n : ℚ) / 10 ^ 6 else (n : ℚ)) := by
  have habs : |(n : ℚ)| = n := abs_of_nonneg n.cast_nonneg
  have hlower : (10 : ℚ) ^ 12 ≤ n := by exact_mod_cast h
  have hupper : (n : ℚ) ≥ 10 ^ 15 ↔ n ≥ 10 ^ 15 := by exact_mod_cast Iff.rfl
  have hread : (Json.int n).toFinite? = some (n : ℚ) := by
    simp [Json.toFinite?, Json.toFloat?]
  rw [epochMs, hread, Option.map_some, habs]
  simp only [hupper, ge_iff_le, hlower, if_true]

/-- Microseconds and nanoseconds are told apart by a bound between them. -/
theorem numericTimestampToMs_natCast (n : ℕ) :
    numericTimestampToMs n =
      if n > 10 ^ 17 then (n : ℚ) / 1000000 else if n > 10 ^ 14 then (n : ℚ) / 1000 else n := by
  have hbound (k : ℕ) : |(n : ℚ)| > 10 ^ k ↔ n > 10 ^ k := by
    rw [abs_of_nonneg n.cast_nonneg]
    exact_mod_cast Iff.rfl
  rw [numericTimestampToMs]
  simp only [hbound]

/-- **The three functions agree on an instant unless it is given in microseconds.** -/
theorem normalisersAgree_iff {unit : TimestampUnit} {t : ℚ} {n : ℕ} (h : GivenIn unit t n) :
    NormalisersAgree t n ↔ unit ≠ .microseconds := by
  obtain ⟨hlower, hupper⟩ := h.bounds
  have hvalue := h.value
  have hdigits {k : ℕ} (hk : 10 ^ k ≤ n) (hk' : n < 10 ^ (k + 1)) : Nat.log 10 n + 1 = k + 1 :=
    congrArg (· + 1) (Nat.log_eq_of_pow_le_of_lt_pow hk hk')
  have hepoch := epochMs_natCast (n := n)
  have hnumeric := numericTimestampToMs_natCast n
  cases unit with
  | milliseconds =>
      simp only [TimestampUnit.perMs] at hlower hupper hvalue
      have ht : t = n := by simpa using hvalue
      refine iff_of_true ⟨?_, ?_, n * 1000000, ?_, ?_⟩ (by decide)
      · rw [hepoch (by omega), if_neg (by omega), ht]
      · rw [hnumeric, if_neg (by omega), if_neg (by omega), ht]
      · rw [timestampToNs_natCast (hdigits (k := 12) (by omega) (by omega))]
        rfl
      · rw [ht]
        push_cast
        norm_num
  | microseconds =>
      simp only [TimestampUnit.perMs] at hlower hupper hvalue
      have ht : t = n / 1000 := by rw [← hvalue]; simp
      refine iff_of_false ?_ (by decide)
      rintro ⟨hwrong, -, -⟩
      rw [hepoch (by omega), if_pos (by omega), ht, Option.some.injEq] at hwrong
      have hpos : (0 : ℚ) < n := by exact_mod_cast (by omega : 0 < n)
      linarith
  | nanoseconds =>
      simp only [TimestampUnit.perMs] at hlower hupper hvalue
      have ht : t = n / 1000000 := by rw [← hvalue]; simp
      refine iff_of_true ⟨?_, ?_, n, ?_, ?_⟩ (by decide)
      · rw [hepoch (by omega), if_pos (by omega), ht]
        norm_num
      · rw [hnumeric, if_pos (by omega), ht]
      · rw [timestampToNs_natCast (hdigits (k := 18) (by omega) (by omega))]
        rfl
      · rw [ht]
        push_cast
        ring

/-- The instant `10 ^ 12` in milliseconds is read alike by all. -/
theorem normalisersAgree_milliseconds : NormalisersAgree (10 ^ 12) (10 ^ 12) :=
  have hgiven : GivenIn .milliseconds (10 ^ 12) (10 ^ 12) :=
    ⟨by norm_num [TimestampUnit.perMs], le_refl _, by norm_num⟩
  (normalisersAgree_iff hgiven).mpr (by decide)

/-- The same instant in microseconds is not: `epochMs` makes it a thousandth. -/
theorem normalisersAgree_false_of_microseconds :
    ¬ ∀ unit t n, GivenIn unit t n → NormalisersAgree t n := by
  intro hclaim
  have hgiven : GivenIn .microseconds (10 ^ 12) (10 ^ 15) :=
    ⟨by norm_num [TimestampUnit.perMs], le_refl _, by norm_num⟩
  have hwrong := (hclaim _ _ _ hgiven).epoch
  rw [epochMs_natCast (by norm_num), if_pos (le_refl _)] at hwrong
  norm_num at hwrong

end SomethingTrade
