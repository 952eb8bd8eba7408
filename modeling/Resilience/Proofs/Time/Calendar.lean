import Mathlib.Tactic.IntervalCases
import Resilience.Time.Timestamp

/-!
# Dates and days

The date of a day is a date of the calendar, and the day of that date is the day again
(`Timestamp.dateOfDays_spec`). Years are taken in cycles of 400, and begin in March. A date
between the beginning of a year and the end of a later one lies in these years
(`Timestamp.year_bounds`).
-/

namespace Resilience.Timestamp

/-! ## Years of a cycle -/

/-- The first and the last day of a year lie in it. -/
theorem yearOfCycle_ends : ∀ y : Fin 400, yearOfCycle (yearStart y.val) = y.val ∧
    yearOfCycle (yearStart (y.val + 1) - 1) = y.val := by
  decide +kernel

theorem yearOfCycle_mono {a b : Int} (ha : 0 ≤ a) (hab : a ≤ b) (hb : b < 146096) :
    yearOfCycle a ≤ yearOfCycle b := by
  unfold yearOfCycle
  omega

theorem yearOfCycle_bounds {day : Int} (h0 : 0 ≤ day) (h : day < 146096) :
    0 ≤ yearOfCycle day ∧ yearOfCycle day < 400 := by
  unfold yearOfCycle
  omega

/-- A day of a cycle lies in its year. The last day of all is left out: it follows on a year that
ends with it. -/
theorem yearStart_le {day : Int} (h0 : 0 ≤ day) (h : day < 146096) :
    yearStart (yearOfCycle day) ≤ day ∧ day < yearStart (yearOfCycle day + 1) := by
  obtain ⟨hy0, hy⟩ := yearOfCycle_bounds h0 h
  generalize hyear : yearOfCycle day = y at *
  lift y to Nat using hy0
  obtain ⟨hfirst, hlast⟩ := yearOfCycle_ends ⟨y, by omega⟩
  constructor
  · by_contra hlt
    have hpos : 0 < y := by
      rcases Nat.eq_zero_or_pos y with rfl | hpos
      · simp [yearStart] at hlt; omega
      · exact hpos
    obtain ⟨_, hbefore⟩ := yearOfCycle_ends ⟨y - 1, by omega⟩
    have : yearOfCycle day ≤ yearOfCycle (yearStart y - 1) :=
      yearOfCycle_mono h0 (by omega) (by simp [yearStart]; omega)
    have hcast : (((y - 1 : Nat) : Int) + 1) = y := by omega
    simp only [hcast] at hbefore
    omega
  · by_contra hle
    have hlt : y + 1 < 400 := by
      by_contra hlt
      have : y = 399 := by omega
      subst this
      simp [yearStart] at hle
      omega
    obtain ⟨hnext, _⟩ := yearOfCycle_ends ⟨y + 1, hlt⟩
    have hs : 0 ≤ yearStart (y + 1) := by simp [yearStart]; omega
    have : yearOfCycle (yearStart (y + 1)) ≤ yearOfCycle day := yearOfCycle_mono hs (by omega) h
    push_cast at hnext
    omega

/-- A year has 366 days only if a leap day ends it. -/
theorem yearOfCycle_spec {day : Int} (h0 : 0 ≤ day) (h : day < 146097) :
    0 ≤ yearOfCycle day ∧ yearOfCycle day < 400 ∧ yearStart (yearOfCycle day) ≤ day ∧
      day - yearStart (yearOfCycle day) ≤ 365 ∧
      (day - yearStart (yearOfCycle day) = 365 → isLeap (yearOfCycle day + 1) = true) := by
  by_cases hlast : day = 146096
  · subst hlast
    decide
  · have hlt : day < 146096 := by omega
    obtain ⟨hy0, hy⟩ := yearOfCycle_bounds h0 hlt
    obtain ⟨hfirst, hnext⟩ := yearStart_le h0 hlt
    generalize yearOfCycle day = y at *
    have h4 : (y + 1) / 4 = y / 4 + if (y + 1) % 4 = 0 then 1 else 0 := by split <;> omega
    have h100 : (y + 1) / 100 = y / 100 + if (y + 1) % 100 = 0 then 1 else 0 := by
      split <;> omega
    simp only [yearStart, h4, h100] at hfirst hnext ⊢
    refine ⟨hy0, hy, hfirst, ?_, fun h365 => ?_⟩
    · split at hnext <;> split at hnext <;> omega
    · split at hnext <;> split at hnext <;> simp [isLeap, *] <;> omega

theorem isLeap_add_cycles (year era : Int) : isLeap (year + era * 400) = isLeap year := by
  have h4 : (year + era * 400) % 4 = year % 4 := by omega
  have h100 : (year + era * 400) % 100 = year % 100 := by omega
  have h400 : (year + era * 400) % 400 = year % 400 := by omega
  simp only [isLeap, h4, h100, h400]

/-! ## Days of a year -/

/-- The calendar has such a date. -/
structure IsDate (date : Int × Nat × Nat) : Prop where
  month_pos : 1 ≤ date.2.1
  month_le : date.2.1 ≤ 12
  day_pos : 1 ≤ date.2.2
  day_le : date.2.2 ≤ daysInMonth date.1 date.2.1

theorem daysInMonth_le (year : Int) (month : Nat) : daysInMonth year month ≤ 31 := by
  unfold daysInMonth
  split_ifs <;> decide

/-- The months that have passed on a day of a year that begins in March. -/
theorem month_bounds {day : Int} (h0 : 0 ≤ day) (h : day ≤ 365) :
    0 ≤ (5 * day + 2) / 153 ∧ (5 * day + 2) / 153 ≤ 11 ∧
      (153 * ((5 * day + 2) / 153) + 2) / 5 ≤ day ∧
      day < (153 * ((5 * day + 2) / 153 + 1) + 2) / 5 := by
  omega

theorem isDate_dateInYear (year : Int) {day : Int} (h0 : 0 ≤ day) (h : day ≤ 365)
    (hleap : day = 365 → isLeap (year + 1) = true) : IsDate (dateInYear year day) := by
  obtain ⟨hm0, hm, hfirst, hlast⟩ := month_bounds h0 h
  simp only [dateInYear]
  generalize (5 * day + 2) / 153 = m at *
  constructor <;> dsimp only
  · split <;> omega
  · split <;> omega
  · omega
  · interval_cases m
    case «11» =>
      by_cases hday : day = 365
      · simp [daysInMonth, hleap hday]
        omega
      · simp [daysInMonth]
        split <;> omega
    all_goals
      simp [daysInMonth]
      omega

theorem daysOfDate_dateInYear (year : Int) {day : Int} (h0 : 0 ≤ day) (h : day ≤ 365) :
    daysOfDate (dateInYear year day).1 (dateInYear year day).2.1 (dateInYear year day).2.2 =
      365 * year + year / 4 - year / 100 + year / 400 + day - 719468 := by
  obtain ⟨hm0, hm, hfirst, hlast⟩ := month_bounds h0 h
  by_cases hspring : (5 * day + 2) / 153 < 10
  · have hmonth : ¬ (5 * day + 2) / 153 + 3 ≤ 2 := by omega
    have hback : (((5 * day + 2) / 153 + 3).toNat + 9 : Int) % 12 = (5 * day + 2) / 153 := by omega
    simp only [dateInYear, hspring, hmonth, ↓reduceIte, daysOfDate]
    rw [if_neg (by omega), hback, Int.add_zero]
    omega
  · have hmonth : (5 * day + 2) / 153 - 9 ≤ 2 := by omega
    have hback : (((5 * day + 2) / 153 - 9).toNat + 9 : Int) % 12 = (5 * day + 2) / 153 := by omega
    simp only [dateInYear, hspring, hmonth, ↓reduceIte, daysOfDate]
    rw [if_pos (by omega), hback, Int.add_sub_cancel]
    omega

theorem dateOfDays_spec (days : Int) : IsDate (dateOfDays days) ∧
    daysOfDate (dateOfDays days).1 (dateOfDays days).2.1 (dateOfDays days).2.2 = days := by
  have hday0 := Int.emod_nonneg (days + 719468) (show (146097 : Int) ≠ 0 by decide)
  have hday := Int.emod_lt_of_pos (days + 719468) (show (0 : Int) < 146097 by decide)
  obtain ⟨hy0, hy, hfirst, hlast, hleap⟩ := yearOfCycle_spec hday0 hday
  have hsum := Int.emod_add_mul_ediv (days + 719468) 146097
  simp only [dateOfDays]
  generalize yearOfCycle ((days + 719468) % 146097) = year at *
  generalize (days + 719468) / 146097 = era at *
  constructor
  · refine isDate_dateInYear _ (by omega) hlast fun h365 => ?_
    rw [show year + era * 400 + 1 = year + 1 + era * 400 by omega, isLeap_add_cycles]
    exact hleap h365
  · rw [daysOfDate_dateInYear _ (by omega) hlast]
    simp only [yearStart]
    omega

/-! ## First and last years -/

theorem daysOfDate_january (year : Int) : daysOfDate year 1 1 =
    365 * (year - 1) + (year - 1) / 4 - (year - 1) / 100 + (year - 1) / 400 - 719162 := by
  simp only [daysOfDate, Nat.one_le_ofNat, ↓reduceIte]
  omega

theorem january_mono {a b : Int} (h : a ≤ b) : daysOfDate a 1 1 ≤ daysOfDate b 1 1 := by
  rw [daysOfDate_january, daysOfDate_january]
  omega

variable {year : Int} {month day : Nat}

/-- A date is not before the first of January of its year, and before the next one. -/
theorem IsDate.in_year (h : IsDate (year, month, day)) :
    daysOfDate year 1 1 ≤ daysOfDate year month day ∧
      daysOfDate year month day < daysOfDate (year + 1) 1 1 := by
  obtain ⟨hmonth, hmonth12, hday, hdayle⟩ := h
  dsimp only at hmonth hmonth12 hday hdayle
  have hday31 := hdayle.trans (daysInMonth_le year month)
  rw [daysOfDate_january, daysOfDate_january, Int.add_sub_cancel]
  simp only [daysOfDate]
  -- The year of a date in January or February began in the March before.
  split <;> omega

/-- A date between the beginning of a year and the end of a later one lies in one of these years. -/
theorem year_bounds {first last : Int} (h : IsDate (year, month, day))
    (hfirst : daysOfDate first 1 1 ≤ daysOfDate year month day)
    (hlast : daysOfDate year month day < daysOfDate (last + 1) 1 1) :
    first ≤ year ∧ year ≤ last := by
  obtain ⟨hjanuary, hnext⟩ := h.in_year
  constructor
  · by_contra hlt
    have hbefore := january_mono (show year + 1 ≤ first by omega)
    omega
  · by_contra hlt
    have hafter := january_mono (show last + 1 ≤ year by omega)
    omega

end Resilience.Timestamp
