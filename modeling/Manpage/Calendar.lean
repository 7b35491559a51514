/-
# The month of a moment

Pages that are given no date carry the current month, as an English abbreviation and the year.  The
moment is a number of seconds since the beginning of 1970, and the month is that of the Gregorian
calendar.  Years are counted from March, so that the leap day is the last day of a year, and in
cycles of 400 years, each of 146097 days.  The month that is found this way is the one that the day
lies in (`dayNumber_yearAndMonth`).
-/
import Manpage.Text.Basic

namespace Manpage.Calendar

/-- The year and the month, January being one, of a day counted from 1 January 1970. -/
def yearAndMonth (day : Int) : Int × Nat :=
  let shifted := day + 719468
  let cycle := shifted.fdiv 146097
  let inCycle := (shifted - cycle * 146097).toNat
  let year := (inCycle - inCycle / 1460 + inCycle / 36524 - inCycle / 146096) / 365
  let inYear := inCycle - (365 * year + year / 4 - year / 100)
  let fromMarch := (5 * inYear + 2) / 153
  let month := if fromMarch < 10 then fromMarch + 3 else fromMarch - 9
  (cycle * 400 + year + (if month ≤ 2 then 1 else 0), month)

/-- The number of days from the beginning of 1970 to a day of the calendar. -/
def dayNumber (year : Int) (month day : Nat) : Int :=
  let y := if month ≤ 2 then year - 1 else year
  let cycle := y.fdiv 400
  let inCycle := (y - cycle * 400).toNat
  let fromMarch := if month ≤ 2 then month + 9 else month - 3
  let inYear := (153 * fromMarch + 2) / 5 + day - 1
  cycle * 146097 + (inCycle * 365 + inCycle / 4 - inCycle / 100 + inYear : Nat) - 719468

/-- The abbreviations of the months. -/
def monthNames : List Text :=
  ["Jan", "Feb", "Mar", "Apr", "May", "Jun", "Jul", "Aug", "Sep", "Oct", "Nov", "Dec"].map
    String.toList

/-- The month and the year of a moment, such as `Feb 2024`. -/
def monthOf (seconds : Int) : Text :=
  let (year, month) := yearAndMonth (seconds.fdiv 86400)
  monthNames[month - 1]?.getD [] ++ ' ' :: Text.ofNat year.toNat

/-! ## The month of a day -/

/-- The year that is counted off is the one that the day of the cycle lies in. -/
theorem year_bounds {inCycle year : Nat} (h : inCycle < 146097)
    (hyear : year = (inCycle - inCycle / 1460 + inCycle / 36524 - inCycle / 146096) / 365) :
    year < 400 ∧ 365 * year + year / 4 - year / 100 ≤ inCycle ∧
      (inCycle < 365 * (year + 1) + (year + 1) / 4 - (year + 1) / 100 ∨ year = 399) := by
  obtain rfl | hlast : inCycle = 146096 ∨ inCycle < 146096 := by omega
  · -- the last day of the cycle
    obtain rfl : year = 399 := hyear
    decide
  have hzero : inCycle / 146096 = 0 := Nat.div_eq_of_lt hlast
  have hcenturies : inCycle / 36524 = 0 ∨ inCycle / 36524 = 1 ∨ inCycle / 36524 = 2 ∨
    inCycle / 36524 = 3 := by omega
  -- in a given century everything that is left is linear
  have hcentury : year / 100 = inCycle / 36524 := by
    rcases hcenturies with hcenturies | hcenturies | hcenturies | hcenturies <;>
      rw [hzero, hcenturies] at hyear <;> omega
  have hnext : (year + 1) / 100 = year / 100 ∨
      (year + 1) / 100 = year / 100 + 1 ∧ year % 100 = 99 := by omega
  rw [hzero] at hyear
  refine ⟨by omega, ?_⟩
  rw [hcentury] at hnext ⊢
  rcases hcenturies with hcenturies | hcenturies | hcenturies | hcenturies <;>
    rw [hcenturies] at hyear hnext ⊢ <;>
    rcases hnext with hnext | ⟨hnext, hlatest⟩ <;> rw [hnext] <;> omega

section Firsts

variable (cycle : Int) {year month : Nat} (hyear : year < 400)

include hyear

/-- The first day of a month from March on. -/
theorem dayNumber_of_lt (hmonth : 2 < month) :
    dayNumber (cycle * 400 + year) month 1 = cycle * 146097
      + (365 * year + year / 4 - year / 100 + (153 * (month - 3) + 2) / 5 : Nat) - 719468 := by
  have hcycle : (cycle * 400 + year).fdiv 400 = cycle := by
    rw [Int.fdiv_eq_ediv_of_nonneg _ (by decide)]
    omega
  have hin : (cycle * 400 + year - cycle * 400).toNat = year := by omega
  simp only [dayNumber, if_neg (Nat.not_le.mpr hmonth), hcycle, hin]
  omega

/-- The first day of a month before March. -/
theorem dayNumber_of_le (hmonth : month ≤ 2) :
    dayNumber (cycle * 400 + year + 1) month 1 = cycle * 146097
      + (365 * year + year / 4 - year / 100 + (153 * (month + 9) + 2) / 5 : Nat) - 719468 := by
  have hcycle : (cycle * 400 + year + 1 - 1).fdiv 400 = cycle := by
    rw [Int.fdiv_eq_ediv_of_nonneg _ (by decide)]
    omega
  have hin : (cycle * 400 + year + 1 - 1 - cycle * 400).toNat = year := by omega
  simp only [dayNumber, if_pos hmonth, hcycle, hin]
  omega

end Firsts

/-- **A day lies in the month that it is said to lie in**: not before its first day, and before the
first day of the next. -/
theorem dayNumber_yearAndMonth (day : Int) :
    ∃ year month, yearAndMonth day = (year, month) ∧ dayNumber year month 1 ≤ day ∧
      day < dayNumber (if month = 12 then year + 1 else year) (month % 12 + 1) 1 := by
  simp only [yearAndMonth, Int.fdiv_eq_ediv_of_nonneg _ (by decide : (0 : Int) ≤ 146097)]
  generalize hcycle : (day + 719468) / 146097 = cycle
  generalize hin : (day + 719468 - cycle * 146097).toNat = inCycle
  generalize hcounted : (inCycle - inCycle / 1460 + inCycle / 36524 - inCycle / 146096) / 365
    = counted
  obtain ⟨hlt, hfrom, hto⟩ := year_bounds (by omega) hcounted.symm
  clear hcounted
  generalize hmonth : (5 * (inCycle - (365 * counted + counted / 4 - counted / 100)) + 2) / 153
    = fromMarch
  refine ⟨_, _, rfl, ?_⟩
  obtain hlate | rfl | rfl | rfl :
      fromMarch < 9 ∨ fromMarch = 9 ∨ fromMarch = 10 ∨ fromMarch = 11 := by omega
  · have hmarch : fromMarch < 10 := by omega
    have hle : ¬fromMarch + 3 ≤ 2 := by omega
    have hlast : ¬fromMarch + 3 = 12 := by omega
    rw [if_pos hmarch, if_neg hle, if_neg hlast, Nat.mod_eq_of_lt (by omega), Int.add_zero,
      dayNumber_of_lt cycle hlt (by omega), dayNumber_of_lt cycle hlt (by omega)]
    omega
  · change dayNumber (cycle * 400 + counted + 0) 12 1 ≤ day ∧
      day < dayNumber (cycle * 400 + counted + 0 + 1) 1 1
    rw [Int.add_zero, dayNumber_of_lt cycle hlt (by decide), dayNumber_of_le cycle hlt (by decide)]
    omega
  · change dayNumber (cycle * 400 + counted + 1) 1 1 ≤ day ∧
      day < dayNumber (cycle * 400 + counted + 1) 2 1
    rw [dayNumber_of_le cycle hlt (by decide), dayNumber_of_le cycle hlt (by decide)]
    omega
  · change dayNumber (cycle * 400 + counted + 1) 2 1 ≤ day ∧
      day < dayNumber (cycle * 400 + counted + 1) 3 1
    rw [dayNumber_of_le cycle hlt (by decide)]
    -- the month with the leap day is the last one of a year, and of a cycle
    obtain hend | rfl : counted < 399 ∨ counted = 399 := by omega
    · have hnext : cycle * 400 + counted + 1 = cycle * 400 + (counted + 1 : Nat) := by omega
      rw [hnext, dayNumber_of_lt cycle (by omega) (by decide)]
      omega
    · have hnext : cycle * 400 + (399 : Nat) + 1 = (cycle + 1) * 400 + (0 : Nat) := by omega
      rw [hnext, dayNumber_of_lt (cycle + 1) (by decide) (by decide)]
      omega

/-- A leap day is the last day of its month. -/
example : [yearAndMonth 19782, yearAndMonth 19783] = [(2024, 2), (2024, 3)] := by decide

end Manpage.Calendar
