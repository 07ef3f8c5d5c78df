import Mathlib.Data.Nat.Basic
import Mathlib.Order.Basic
import Mathlib.Tactic.Common

/-!
# Dates of the Gregorian Calendar

Dates with a time of day, in the years 1 to 9999 of the proleptic Gregorian calendar, and the
seconds up to them. A day has 86400 seconds.

`Civil` carries the proof that its fields name a date and a time of day. `Civil.inYear` moves a
date to another year, which fails for the 29th of February only.

## Main results

* `Civil.seconds_inYear`: the same date of a later year is at least 365 days later.
* `Civil.inYear_isSome_iff`: which dates another year has.
-/

namespace SomethingTrade

/-- Whether a year has a 29th of February. -/
def isLeap (year : ℕ) : Bool := year % 4 == 0 && (year % 100 != 0 || year % 400 == 0)

/-- The days of a month. -/
def daysInMonth (year month : ℕ) : ℕ :=
  if month = 2 then if isLeap year then 29 else 28
  else if month = 4 ∨ month = 6 ∨ month = 9 ∨ month = 11 then 30 else 31

/-- The days before the first of January of a year. -/
def daysBeforeYear (year : ℕ) : ℕ :=
  (year - 1) * 365 + (year - 1) / 4 - (year - 1) / 100 + (year - 1) / 400

/-- The days of a year before the first of a month. -/
def daysBeforeMonth (year month : ℕ) : ℕ :=
  [0, 31, 59, 90, 120, 151, 181, 212, 243, 273, 304, 334].getD (month - 1) 0 +
    if 2 < month ∧ isLeap year then 1 else 0

/-- The number of a day; the first of January of the year 1 has the number 1. -/
def dayOrdinal (year month day : ℕ) : ℕ :=
  daysBeforeYear year + daysBeforeMonth year month + day

example : dayOrdinal 2024 3 1 = 738946 := by decide

/-- The fields of a date and a time of day. -/
def ValidCivil (year month day hour minute second : ℕ) : Prop :=
  (1 ≤ year ∧ year ≤ 9999) ∧ (1 ≤ month ∧ month ≤ 12) ∧
    (1 ≤ day ∧ day ≤ daysInMonth year month) ∧ hour ≤ 23 ∧ minute ≤ 59 ∧ second ≤ 59

instance (year month day hour minute second : ℕ) :
    Decidable (ValidCivil year month day hour minute second) := by
  unfold ValidCivil
  infer_instance

/-- A date with a time of day. -/
structure Civil where
  year : ℕ
  month : ℕ
  day : ℕ
  hour : ℕ
  minute : ℕ
  second : ℕ
  valid : ValidCivil year month day hour minute second
  deriving DecidableEq

namespace Civil

/-- The date with the given fields, if there is one. -/
def of? (year month day hour minute second : ℕ) : Option Civil :=
  if h : ValidCivil year month day hour minute second then
    some ⟨year, month, day, hour, minute, second, h⟩
  else none

theorem of?_self (c : Civil) : of? c.year c.month c.day c.hour c.minute c.second = some c :=
  dif_pos c.valid

/-- The same date of another year, if that year has it. -/
def inYear (c : Civil) (year : ℕ) : Option Civil :=
  of? year c.month c.day c.hour c.minute c.second

theorem inYear_self (c : Civil) : c.inYear c.year = some c := c.of?_self

/-- The seconds up to a date. -/
def seconds (c : Civil) : ℕ :=
  dayOrdinal c.year c.month c.day * 86400 + c.hour * 3600 + c.minute * 60 + c.second

end Civil

/-! ### The length of a year -/

theorem isLeap_iff (year : ℕ) :
    isLeap year = true ↔ 4 ∣ year ∧ (¬ 100 ∣ year ∨ 400 ∣ year) := by
  simp [isLeap, Nat.dvd_iff_mod_eq_zero]

theorem daysBeforeYear_succ {year : ℕ} (h : 1 ≤ year) :
    daysBeforeYear (year + 1) = daysBeforeYear year + 365 + if isLeap year then 1 else 0 := by
  obtain ⟨y, rfl⟩ := Nat.exists_eq_add_of_le' h
  have hcenturies : y / 100 ≤ y / 4 := Nat.div_le_div_left (by decide) (by decide)
  have hfour : 100 ∣ y + 1 → 4 ∣ y + 1 := Nat.dvd_trans (by decide)
  have hhundred : 400 ∣ y + 1 → 100 ∣ y + 1 := Nat.dvd_trans (by decide)
  simp only [isLeap_iff, daysBeforeYear, Nat.add_sub_cancel, Nat.succ_div]
  generalize y / 4 = quarters at hcenturies ⊢
  generalize y / 100 = centuries at hcenturies ⊢
  by_cases h4 : 4 ∣ y + 1
  · by_cases h100 : 100 ∣ y + 1
    · by_cases h400 : 400 ∣ y + 1
      · simp only [h4, h100, h400, if_true, not_true_eq_false, false_or, and_self]
        omega
      · simp only [h4, h100, h400, if_true, if_false, not_true_eq_false, or_self, and_false]
        omega
    · have h400 : ¬ 400 ∣ y + 1 := fun h => h100 (hhundred h)
      simp only [h4, h100, h400, if_true, if_false, not_false_eq_true, true_or, and_self]
      omega
  · have h100 : ¬ 100 ∣ y + 1 := fun h => h4 (hfour h)
    have h400 : ¬ 400 ∣ y + 1 := fun h => h100 (hhundred h)
    simp only [h4, h100, h400, if_false, false_and]
    omega

/-- A leap year is ahead of another by one day at most. -/
theorem daysBeforeMonth_le (year other month : ℕ) :
    daysBeforeMonth year month ≤
      daysBeforeMonth other month + if isLeap year then 1 else 0 := by
  rw [daysBeforeMonth, daysBeforeMonth, Nat.add_assoc]
  refine Nat.add_le_add_left ?_ _
  by_cases hleap : isLeap year = true
  · rw [if_pos hleap]
    exact Nat.le_add_left_of_le (by split <;> decide)
  · rw [if_neg fun h => hleap h.2]
    exact Nat.zero_le _

theorem dayOrdinal_succ {year : ℕ} (hyear : 1 ≤ year) (month day : ℕ) :
    dayOrdinal year month day + 365 ≤ dayOrdinal (year + 1) month day := by
  have hmonth := daysBeforeMonth_le year (year + 1) month
  rw [dayOrdinal, dayOrdinal, daysBeforeYear_succ hyear]
  omega

/-- The same date of a later year is at least 365 days later. -/
theorem dayOrdinal_of_lt {year year' : ℕ} (hyear : 1 ≤ year) (month day : ℕ)
    (hlt : year < year') :
    dayOrdinal year month day + 365 ≤ dayOrdinal year' month day := by
  induction year', hlt using Nat.le_induction with
  | base => exact dayOrdinal_succ hyear month day
  | succ other hle ih =>
      have hother : 1 ≤ other := hyear.trans ((Nat.le_succ year).trans hle)
      have hnext := dayOrdinal_succ hother month day
      omega

namespace Civil

theorem of?_eq_some {year month day hour minute second : ℕ} {c : Civil}
    (h : of? year month day hour minute second = some c) :
    c.year = year ∧ c.month = month ∧ c.day = day ∧ c.hour = hour ∧ c.minute = minute ∧
      c.second = second := by
  rw [of?] at h
  split at h
  · cases h
    exact ⟨rfl, rfl, rfl, rfl, rfl, rfl⟩
  · cases h

/-- **The same date of a later year is at least 365 days later.** -/
theorem seconds_inYear {c c' : Civil} {year : ℕ} (h : c.inYear year = some c')
    (hlt : c.year < year) : c.seconds + 365 * 86400 ≤ c'.seconds := by
  obtain ⟨hyear, hmonth, hday, hhour, hminute, hsecond⟩ := of?_eq_some h
  have hdays := dayOrdinal_of_lt c.valid.1.1 c.month c.day hlt
  simp only [seconds, hyear, hmonth, hday, hhour, hminute, hsecond]
  omega

/-- And that of an earlier year at least 365 days earlier. -/
theorem seconds_inYear_of_gt {c c' : Civil} {year : ℕ} (h : c.inYear year = some c')
    (hlt : year < c.year) : c'.seconds + 365 * 86400 ≤ c.seconds := by
  obtain ⟨hyear, hmonth, hday, hhour, hminute, hsecond⟩ := of?_eq_some h
  have hback : c'.inYear c.year = some c := by
    rw [inYear, hmonth, hday, hhour, hminute, hsecond]
    exact c.of?_self
  exact seconds_inYear hback (hyear ▸ hlt)

/-- Another year lacks a date exactly when it is a 29th of February and the year is no leap
year. -/
theorem inYear_isSome_iff (c : Civil) {year : ℕ} (h : 1 ≤ year) (h' : year ≤ 9999) :
    (c.inYear year).isSome = true ↔ ¬ (c.month = 2 ∧ c.day = 29 ∧ isLeap year = false) := by
  obtain ⟨-, hmonth, hday, htime⟩ := c.valid
  have hiff : (c.inYear year).isSome = true ↔ c.day ≤ daysInMonth year c.month := by
    rw [inYear, of?]
    split
    · rename_i hvalid
      exact iff_of_true rfl hvalid.2.2.1.2
    · rename_i hvalid
      refine iff_of_false Bool.false_ne_true fun hle => hvalid ?_
      exact ⟨⟨h, h'⟩, hmonth, ⟨hday.1, hle⟩, htime⟩
  rw [hiff]
  have hlast := hday.2
  rw [daysInMonth] at hlast ⊢
  by_cases hfebruary : c.month = 2
  · rw [if_pos hfebruary] at hlast ⊢
    cases isLeap year <;> cases hleap : isLeap c.year <;> simp [hleap] at hlast ⊢ <;> omega
  · rw [if_neg hfebruary] at hlast ⊢
    exact iff_of_true hlast fun hdate => hfebruary hdate.1

end Civil

end SomethingTrade
