/-
This file proves that the loop over the months ends with every month between two calendar months.
The order of the month texts is the order of the calendar.
-/

import Mathlib.Tactic.Tauto
import OperationsConsole.Browser.LedgerDensity

namespace OperationsConsole.Browser

open Library

/-- A calendar month has a year of four digits. -/
structure CalendarMonth where
  year : ℕ
  month : ℕ
  thousands : 1000 ≤ year
  fourDigits : year ≤ 9999
  first : 1 ≤ month
  last : month ≤ 12
  deriving DecidableEq

namespace CalendarMonth

def text (month : CalendarMonth) : String := monthText month.year month.month

/-- Successive months have successive numbers. -/
def number (month : CalendarMonth) : ℕ := 12 * month.year + month.month

/-- Months are told apart by their numbers. -/
theorem number_injective (first second : CalendarMonth) (same : first.number = second.number) :
    first = second := by
  obtain ⟨year, month, _, _, _, _⟩ := first
  obtain ⟨otherYear, otherMonth, _, _, _, _⟩ := second
  have years : year = otherYear := by
    unfold number at same
    dsimp only at same
    omega
  have months : month = otherMonth := by
    unfold number at same
    dsimp only at same
    omega
  subst years months
  rfl

section Text

theorem toDigits_year (year : ℕ) (thousands : 1000 ≤ year) (fourDigits : year ≤ 9999) :
    Nat.toDigits 10 year = [(year / 10 / 10 / 10).digitChar, (year / 10 / 10 % 10).digitChar,
      (year / 10 % 10).digitChar, (year % 10).digitChar] := by
  rw [Nat.toDigits_of_base_le (by decide) (by omega), Nat.toDigits_of_base_le (by decide) (by omega),
    Nat.toDigits_of_base_le (by decide) (by omega), Nat.toDigits_of_lt_base (by omega)]
  rfl

theorem twoDigits_month (month : ℕ) (last : month ≤ 12) :
    twoDigits month = [(month / 10).digitChar, (month % 10).digitChar] := by
  unfold twoDigits
  by_cases short : month < 10
  · rw [if_pos short, Nat.toDigits_of_lt_base short, Nat.div_eq_of_lt short, Nat.mod_eq_of_lt short]
    rfl
  · rw [if_neg short, Nat.toDigits_of_base_le (by decide) (not_lt.mp short),
      Nat.toDigits_of_lt_base (by omega)]
    rfl

/-- The text of a month has four digits, a hyphen and two digits. -/
theorem toList_text (month : CalendarMonth) : month.text.toList =
    [(month.year / 10 / 10 / 10).digitChar, (month.year / 10 / 10 % 10).digitChar,
      (month.year / 10 % 10).digitChar, (month.year % 10).digitChar, '-',
      (month.month / 10).digitChar, (month.month % 10).digitChar] := by
  have written : month.text.toList =
      Nat.toDigits 10 month.year ++ '-' :: twoDigits month.month := by
    simp [text, monthText, toString]
  rw [written, toDigits_year month.year month.thousands month.fourDigits,
    twoDigits_month month.month month.last]
  rfl

theorem digitChar_lt_iff (first second : ℕ) (one : first < 10) (two : second < 10) :
    first.digitChar < second.digitChar ↔ first < second := by
  rw [Char.lt_def, UInt32.lt_iff_toNat_lt]
  change first.digitChar.toNat < second.digitChar.toNat ↔ _
  rw [Nat.toNat_digitChar_of_lt_ten one, Nat.toNat_digitChar_of_lt_ten two]
  omega

theorem digitChar_eq_iff (first second : ℕ) (one : first < 10) (two : second < 10) :
    first.digitChar = second.digitChar ↔ first = second := by
  constructor
  · intro same
    have codes := congrArg Char.toNat same
    rw [Nat.toNat_digitChar_of_lt_ten one, Nat.toNat_digitChar_of_lt_ten two] at codes
    omega
  · exact congrArg Nat.digitChar

/-- The last digit decides between numbers with the same leading digits. -/
theorem lastDigit_lt_iff (first second : ℕ) (rest : Prop) :
    (first / 10 < second / 10 ∨ first / 10 = second / 10 ∧
      (first % 10 < second % 10 ∨ first % 10 = second % 10 ∧ rest)) ↔
        first < second ∨ first = second ∧ rest := by
  have less : first < second ↔
      first / 10 < second / 10 ∨ first / 10 = second / 10 ∧ first % 10 < second % 10 := by omega
  have same : first = second ↔ first / 10 = second / 10 ∧ first % 10 = second % 10 := by omega
  rw [less, same]
  tauto

/-- The texts are in the order of the calendar. -/
theorem text_lt_iff (first second : CalendarMonth) :
    first.text < second.text ↔ first.number < second.number := by
  have one := first.fourDigits
  have two := second.fourDigits
  have oneMonth := first.first
  have oneLast := first.last
  have twoMonth := second.first
  have twoLast := second.last
  have order (a b : ℕ) (small : a < 10) (little : b < 10) :=
    digitChar_lt_iff a b small little
  have equal (a b : ℕ) (small : a < 10) (little : b < 10) :=
    digitChar_eq_iff a b small little
  rw [String.lt_iff_toList_lt, toList_text, toList_text]
  simp only [List.cons_lt_cons_iff, lt_irrefl, true_and, false_or]
  rw [order _ _ (by omega) (by omega), order _ _ (by omega) (by omega),
    order _ _ (by omega) (by omega), order _ _ (by omega) (by omega),
    order _ _ (by omega) (by omega), order _ _ (by omega) (by omega),
    equal _ _ (by omega) (by omega), equal _ _ (by omega) (by omega),
    equal _ _ (by omega) (by omega), equal _ _ (by omega) (by omega),
    equal _ _ (by omega) (by omega), equal _ _ (by omega) (by omega), lastDigit_lt_iff,
    lastDigit_lt_iff, lastDigit_lt_iff, lastDigit_lt_iff, and_false, or_false]
  unfold number
  constructor
  · rintro (less | ⟨same, less⟩) <;> omega
  · intro less
    omega

/-- The texts of the months are ordered as the months are. -/
theorem text_le_iff (first second : CalendarMonth) :
    first.text ≤ second.text ↔ first.number ≤ second.number := by
  rw [← not_lt, text_lt_iff, not_lt]

/-- Months are told apart by their texts. -/
theorem text_injective (first second : CalendarMonth) (same : first.text = second.text) :
    first = second := by
  apply number_injective
  exact le_antisymm ((text_le_iff first second).mp same.le) ((text_le_iff second first).mp same.ge)

theorem isMonth_text (month : CalendarMonth) : isMonth month.text = true := by
  have one := month.fourDigits
  have two := month.last
  have digit (number : ℕ) (small : number < 10) : number.digitChar.isDigit = true :=
    Nat.isDigit_digitChar.trans (decide_eq_true small)
  unfold isMonth
  rw [toList_text]
  simp only [List.all_cons, List.all_nil, Bool.and_true]
  rw [digit _ (by omega), digit _ (by omega), digit _ (by omega), digit _ (by omega),
    digit _ (by omega), digit _ (by omega)]
  rfl

/-- The split at the dash reads the month back. -/
theorem monthNumbers_text (month : CalendarMonth) :
    monthNumbers month.text = (month.year, month.month) := by
  have written : month.text.toList =
      Nat.toDigits 10 month.year ++ '-' :: twoDigits month.month := by
    simp [text, monthText, toString]
  have clear : ∀ symbol ∈ Nat.toDigits 10 month.year, decide (symbol = '-') = false := by
    intro symbol member
    rw [decide_eq_false_iff_not]
    rintro rfl
    exact not_mem_toDigits '-' (by decide) month.year member
  unfold monthNumbers afterFirst
  rw [written, before_append _ _ _ clear, fromFirst_append _ _ _ clear]
  change (Nat.ofDigitChars 10 (Nat.toDigits 10 month.year ++ []) 0,
    Nat.ofDigitChars 10 (twoDigits month.month) 0) = _
  rw [List.append_nil, Nat.ofDigitChars_ten_toDigits, ofDigitChars_twoDigits]

end Text

section Following

/-- The month after a month that is not the last of the calendar. -/
def next (month : CalendarMonth) (later : CalendarMonth) (less : month.number < later.number) :
    CalendarMonth where
  year := if 12 < month.month + 1 then month.year + 1 else month.year
  month := if 12 < month.month + 1 then 1 else month.month + 1
  thousands := by
    have bound := month.thousands
    split <;> omega
  fourDigits := by
    have bound := later.fourDigits
    have latest := later.last
    have own := month.fourDigits
    unfold number at less
    split <;> omega
  first := by split <;> omega
  last := by
    have bound := month.last
    split <;> omega

/-- The next month has the next number. -/
theorem number_next (month later : CalendarMonth) (less : month.number < later.number) :
    (month.next later less).number = month.number + 1 := by
  have bound := month.last
  unfold number next
  dsimp only
  split <;> omega

end Following

end CalendarMonth

/-- The loop ends, and it lists the months from its start to its end. -/
theorem monthLoop_eq (fuel : ℕ) (month last : CalendarMonth) (before : month.number ≤ last.number)
    (enough : last.number < month.number + fuel) :
    ∃ months : List CalendarMonth,
      monthLoop last.text fuel month.year month.month = some (months.map CalendarMonth.text) ∧
        months.map CalendarMonth.number =
          List.range' month.number (last.number + 1 - month.number) := by
  induction fuel generalizing month with
  | zero => omega
  | succ fuel ih =>
      unfold monthLoop
      dsimp only
      change ∃ months : List CalendarMonth, (if last.text ≤ month.text then _ else _) = _ ∧ _
      by_cases ended : last.text ≤ month.text
      · refine ⟨[month], ?_, ?_⟩
        · rw [if_pos ended]
          rfl
        · rw [CalendarMonth.text_le_iff] at ended
          have one : last.number + 1 - month.number = 1 := by omega
          rw [one]
          rfl
      · have less : month.number < last.number := by
          rw [← CalendarMonth.text_lt_iff]
          exact not_le.mp ended
        have following := month.number_next last less
        obtain ⟨months, listed, numbers⟩ := ih (month.next last less) (by omega) (by omega)
        refine ⟨month :: months, ?_, ?_⟩
        · rw [if_neg ended]
          have rest : (if 12 < month.month + 1 then monthLoop last.text fuel (month.year + 1) 1
              else monthLoop last.text fuel month.year (month.month + 1)) =
                some (months.map CalendarMonth.text) := by
            rw [← listed]
            unfold CalendarMonth.next
            dsimp only
            split <;> rfl
          rw [rest]
          rfl
        · rw [List.map_cons, numbers, following]
          have size : last.number + 1 - month.number =
              (last.number + 1 - (month.number + 1)) + 1 := by omega
          rw [size, List.range'_succ]

/-- Months with the numbers of a range are every month of the range, in the order of the calendar. -/
theorem months_of_range (months : List CalendarMonth) (start stop : ℕ)
    (numbers : months.map CalendarMonth.number = List.range' start (stop + 1 - start)) :
    (months.Pairwise fun first second => first.number < second.number) ∧
      ∀ month, month ∈ months ↔ start ≤ month.number ∧ month.number ≤ stop := by
  constructor
  · rw [← List.pairwise_map (f := CalendarMonth.number) (R := (· < ·)), numbers]
    exact List.pairwise_lt_range'
  · intro month
    have member : month ∈ months ↔ month.number ∈ months.map CalendarMonth.number := by
      rw [List.mem_map]
      constructor
      · intro listed
        exact ⟨month, listed, rfl⟩
      · rintro ⟨other, listed, same⟩
        rw [← CalendarMonth.number_injective _ _ same]
        exact listed
    rw [member, numbers, List.mem_range'_1]
    omega

end OperationsConsole.Browser
