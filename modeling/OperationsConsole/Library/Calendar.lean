/-
This file defines the Gregorian calendar, extended to all the days since the first day of year 1.
Counting the days up to a date leads back from the date to its day.
-/

import Mathlib.Algebra.Order.Group.Nat

namespace Library

structure Date where
  year : ℕ
  month : ℕ
  day : ℕ
  deriving DecidableEq

namespace Calendar

def isLeap (year : ℕ) : Bool := year % 4 = 0 && (year % 100 ≠ 0 || year % 400 = 0)

/-- The days of the years from year 1 to the one before. -/
def daysBeforeYear (year : ℕ) : ℕ :=
  365 * (year - 1) + (year - 1) / 4 - (year - 1) / 100 + (year - 1) / 400

/-- The days of a year before each of its months. -/
def monthStarts (leap : Bool) : List ℕ :=
  [0, 31, 59, 90, 120, 151, 181, 212, 243, 273, 304, 334].mapIdx fun index days =>
    if leap && 2 ≤ index then days + 1 else days

def daysBeforeMonth (leap : Bool) (month : ℕ) : ℕ := (monthStarts leap).getD (month - 1) 0

/-- The number of days from the first day of year 1 to a date. -/
def dayOf (date : Date) : ℕ :=
  daysBeforeYear date.year + daysBeforeMonth (isLeap date.year) date.month + (date.day - 1)

/-- The year of a day, and the number of days in the year before it. The years are counted in cycles
of 400, 100 and 4, and the last year of a cycle takes the day that the others lack. -/
def yearOf (day : ℕ) : ℕ × ℕ :=
  let rest := day % 146097
  let century := min (rest / 36524) 3
  let days := rest - 36524 * century
  let year := min (days % 1461 / 365) 3
  (400 * (day / 146097) + 100 * century + 4 * (days / 1461) + year + 1,
    days % 1461 - 365 * year)

/-- The months that have started tell the month. -/
def monthOf (leap : Bool) (yearDay : ℕ) : ℕ := ((monthStarts leap).filter (· ≤ yearDay)).length

def dateOf (day : ℕ) : Date :=
  let (year, yearDay) := yearOf day
  let month := monthOf (isLeap year) yearDay
  ⟨year, month, yearDay - daysBeforeMonth (isLeap year) month + 1⟩

theorem isLeap_iff (year : ℕ) :
    isLeap year = true ↔ year % 4 = 0 ∧ (year % 100 ≠ 0 ∨ year % 400 = 0) := by
  simp [isLeap]

/-- A year is counted by the cycles before it. -/
theorem daysBeforeYear_cycles (cycles century four year : ℕ) (inside : century ≤ 3)
    (fours : four ≤ 24) (years : year ≤ 3) :
    daysBeforeYear (400 * cycles + 100 * century + 4 * four + year + 1) =
      146097 * cycles + 36524 * century + 1461 * four + 365 * year := by
  unfold daysBeforeYear
  omega

theorem daysBeforeYear_yearOf (day : ℕ) :
    daysBeforeYear (yearOf day).1 + (yearOf day).2 = day := by
  unfold yearOf
  dsimp only
  rw [daysBeforeYear_cycles _ _ _ _ (by omega) (by omega) (by omega)]
  omega

/-- Only a leap year has a day after its first 365 days. -/
theorem yearOf_inside (day : ℕ) :
    (yearOf day).2 < 365 ∨ (yearOf day).2 = 365 ∧ isLeap (yearOf day).1 = true := by
  rw [isLeap_iff]
  unfold yearOf
  dsimp only
  omega

theorem month_inside (leap : Bool) (yearDay : ℕ)
    (inside : yearDay < 365 ∨ yearDay = 365 ∧ leap = true) :
    0 < monthOf leap yearDay ∧ monthOf leap yearDay ≤ 12 ∧
      daysBeforeMonth leap (monthOf leap yearDay) ≤ yearDay ∧
      yearDay < daysBeforeMonth leap (monthOf leap yearDay) + 31 := by
  have all : ∀ leap : Bool, ∀ yearDay < 366, yearDay < 365 ∨ leap = true →
      0 < monthOf leap yearDay ∧ monthOf leap yearDay ≤ 12 ∧
        daysBeforeMonth leap (monthOf leap yearDay) ≤ yearDay ∧
        yearDay < daysBeforeMonth leap (monthOf leap yearDay) + 31 := by
    decide +kernel
  apply all leap yearDay
  · omega
  · exact inside.imp id And.right

/-- The date of a day leads back to the day. -/
theorem dayOf_dateOf (day : ℕ) : dayOf (dateOf day) = day := by
  have inside := month_inside (isLeap (yearOf day).1) (yearOf day).2 (yearOf_inside day)
  have whole := daysBeforeYear_yearOf day
  unfold dayOf dateOf
  dsimp only
  omega

theorem month_dateOf (day : ℕ) : 1 ≤ (dateOf day).month ∧ (dateOf day).month ≤ 12 := by
  have inside := month_inside (isLeap (yearOf day).1) (yearOf day).2 (yearOf_inside day)
  exact ⟨inside.1, inside.2.1⟩

theorem day_dateOf (day : ℕ) : 1 ≤ (dateOf day).day ∧ (dateOf day).day ≤ 31 := by
  have inside := month_inside (isLeap (yearOf day).1) (yearOf day).2 (yearOf_inside day)
  unfold dateOf
  dsimp only
  omega

/-- The year 9999 ends before this day. -/
def lastDay : ℕ := 3652059

theorem year_dateOf (day : ℕ) (inside : day < lastDay) : (dateOf day).year < 10000 := by
  unfold lastDay at inside
  unfold dateOf yearOf
  dsimp only
  omega

example : dateOf 719162 = ⟨1970, 1, 1⟩ ∧ dateOf 738944 = ⟨2024, 2, 29⟩ ∧
    dateOf (lastDay - 1) = ⟨9999, 12, 31⟩ := by
  decide

end Calendar

end Library
