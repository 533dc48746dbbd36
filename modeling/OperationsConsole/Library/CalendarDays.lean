/-
This file proves that a valid date is the date of its day, so dates and days tell the same. The order
of the dates by year, month and day is the order of their days.
-/

import OperationsConsole.Library.Calendar

namespace Library

namespace Calendar

def monthLength (leap : Bool) (month : ℕ) : ℕ :=
  [31, if leap then 29 else 28, 31, 30, 31, 30, 31, 31, 30, 31, 30, 31].getD (month - 1) 0

end Calendar

namespace Date

open Calendar

/-- A date of the calendar. -/
structure Valid (date : Date) : Prop where
  year : 1 ≤ date.year
  month : 1 ≤ date.month ∧ date.month ≤ 12
  day : 1 ≤ date.day ∧ date.day ≤ monthLength (isLeap date.year) date.month

/-- A date comes before another by year, then by month, then by day. -/
def NotAfter (first second : Date) : Prop :=
  first.year < second.year ∨ first.year = second.year ∧
    (first.month < second.month ∨ first.month = second.month ∧ first.day ≤ second.day)

end Date

namespace Calendar

/-- A year has one more day if it is a leap year. -/
theorem daysBeforeYear_succ (year : ℕ) (started : 1 ≤ year) :
    daysBeforeYear (year + 1) = daysBeforeYear year + 365 + if isLeap year then 1 else 0 := by
  obtain ⟨earlier, rfl⟩ := Nat.exists_eq_add_of_le' started
  have fours : (earlier + 1) / 4 = earlier / 4 + if 4 ∣ earlier + 1 then 1 else 0 := Nat.succ_div
  have hundreds : (earlier + 1) / 100 = earlier / 100 + if 100 ∣ earlier + 1 then 1 else 0 :=
    Nat.succ_div
  have cycles : (earlier + 1) / 400 = earlier / 400 + if 400 ∣ earlier + 1 then 1 else 0 :=
    Nat.succ_div
  have fewer : earlier / 100 ≤ earlier / 4 := Nat.div_le_div_left (by decide) (by decide)
  simp only [Nat.dvd_iff_mod_eq_zero] at fours hundreds cycles
  unfold daysBeforeYear
  simp only [Nat.add_sub_cancel, isLeap_iff]
  rw [fours, hundreds, cycles]
  by_cases four : (earlier + 1) % 4 = 0
  · by_cases hundred : (earlier + 1) % 100 = 0
    · by_cases cycle : (earlier + 1) % 400 = 0 <;> simp [four, hundred, cycle] <;> omega
    · have cycle : (earlier + 1) % 400 ≠ 0 := by omega
      simp [four, hundred, cycle]
      omega
  · have hundred : (earlier + 1) % 100 ≠ 0 := by omega
    have cycle : (earlier + 1) % 400 ≠ 0 := by omega
    simp [four, hundred, cycle]
    omega

theorem daysBeforeYear_mono (first second : ℕ) (started : 1 ≤ first) (ordered : first ≤ second) :
    daysBeforeYear first ≤ daysBeforeYear second := by
  induction second, ordered using Nat.le_induction with
  | base => exact Nat.le_refl _
  | succ second ordered ih =>
      rw [daysBeforeYear_succ second (by omega)]
      omega

/-- The day of a year is one of its days. -/
def InYear (year yearDay : ℕ) : Prop := yearDay < 365 ∨ yearDay = 365 ∧ isLeap year = true

theorem InYear.before_next {year yearDay : ℕ} (inside : InYear year yearDay) (next : ℕ)
    (started : 1 ≤ year) (later : year < next) :
    daysBeforeYear year + yearDay < daysBeforeYear next := by
  have step := daysBeforeYear_succ year started
  have grown := daysBeforeYear_mono (year + 1) next (by omega) later
  rcases inside with common | ⟨last, leap⟩
  · omega
  · rw [leap, if_pos rfl] at step
    omega

theorem daysBeforeMonth_inside : ∀ leap : Bool, ∀ month < 13, 1 ≤ month →
    daysBeforeMonth leap month + monthLength leap month ≤ 365 + if leap then 1 else 0 := by
  decide

theorem monthLength_le : ∀ leap : Bool, ∀ month < 13, monthLength leap month ≤ 31 := by
  decide

/-- A month ends before the next one starts. -/
theorem daysBeforeMonth_lt : ∀ leap : Bool, ∀ first < 13, ∀ second < 13, 1 ≤ first →
    first < second →
      daysBeforeMonth leap first + monthLength leap first ≤ daysBeforeMonth leap second := by
  decide

variable (date : Date) (valid : date.Valid)

include valid

theorem valid_day_lt : date.day < 32 :=
  Nat.lt_succ_of_le (valid.day.2.trans
    (monthLength_le (isLeap date.year) date.month (Nat.lt_succ_of_le valid.month.2)))

/-- A valid date lies in its year. -/
theorem inYear_of_valid :
    InYear date.year (daysBeforeMonth (isLeap date.year) date.month + (date.day - 1)) := by
  have bound := daysBeforeMonth_inside (isLeap date.year) date.month
    (Nat.lt_succ_of_le valid.month.2) valid.month.1
  have started := valid.day
  unfold InYear
  cases leap : isLeap date.year with
  | false =>
      rw [leap] at bound started
      simp only [Bool.false_eq_true, if_false] at bound
      omega
  | true =>
      rw [leap] at bound started
      simp only [if_true] at bound
      rw [eq_self, and_true]
      omega

/-- Days are ordered as dates are. -/
theorem dayOf_le_iff (other : Date) (otherValid : other.Valid) :
    dayOf date ≤ dayOf other ↔ date.NotAfter other := by
  have inYear := inYear_of_valid date valid
  have otherInYear := inYear_of_valid other otherValid
  have started := valid.day
  have otherStarted := otherValid.day
  unfold Date.NotAfter dayOf
  rcases Nat.lt_trichotomy date.year other.year with before | same | after
  · have less := inYear.before_next other.year valid.year before
    omega
  · rw [same] at started ⊢
    rcases Nat.lt_trichotomy date.month other.month with first | month | last
    · have less := daysBeforeMonth_lt (isLeap other.year) date.month
        (Nat.lt_succ_of_le valid.month.2) other.month (Nat.lt_succ_of_le otherValid.month.2)
        valid.month.1 first
      omega
    · rw [month]
      omega
    · have less := daysBeforeMonth_lt (isLeap other.year) other.month
        (Nat.lt_succ_of_le otherValid.month.2) date.month (Nat.lt_succ_of_le valid.month.2)
        otherValid.month.1 last
      omega
  · have less := otherInYear.before_next date.year otherValid.year after
    omega

end Calendar

namespace Calendar

/-- The date of every day is valid. -/
theorem valid_dateOf (day : ℕ) : (dateOf day).Valid := by
  have inside := yearOf_inside day
  have all : ∀ leap : Bool, ∀ yearDay < 366, yearDay < 365 ∨ leap = true →
      yearDay - daysBeforeMonth leap (monthOf leap yearDay) + 1 ≤
        monthLength leap (monthOf leap yearDay) := by
    decide +kernel
  have first : 1 ≤ (yearOf day).1 := by
    unfold yearOf
    dsimp only
    omega
  exact ⟨first, month_dateOf day, Nat.succ_le_succ (Nat.zero_le _),
    all (isLeap (yearOf day).1) (yearOf day).2 (by omega) (inside.imp id And.right)⟩

/-- Later days of a month are counted from its first day, and the count may run past its end. -/
theorem dayOf_add (year month day days : ℕ) (started : 1 ≤ day) :
    dayOf ⟨year, month, day + days⟩ = dayOf ⟨year, month, day⟩ + days := by
  unfold dayOf
  dsimp only
  omega

end Calendar

end Library
