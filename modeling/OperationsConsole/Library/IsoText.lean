/-
This file writes an instant as an ISO text with an offset from UTC, and reads such texts.
A reader that keeps fewer decimal places than the writer drops the last digits of the fraction.
-/

import Mathlib.Algebra.Order.Ring.Int
import Mathlib.Data.String.Basic
import OperationsConsole.Library.Calendar
import OperationsConsole.Library.Numerals

namespace Library

namespace IsoText

section Writing

/-- A whole second has no fraction. -/
def fractionText (microsecond : ℕ) : List Char :=
  if microsecond = 0 then [] else '.' :: padded 6 microsecond

/-- The text tells UTC. -/
def dateText (date : Date) (hour minute second microsecond : ℕ) : List Char :=
  padded 4 date.year ++ '-' :: (padded 2 date.month ++ '-' :: (padded 2 date.day ++ 'T' ::
    (padded 2 hour ++ ':' :: (padded 2 minute ++ ':' :: (padded 2 second ++
      (fractionText microsecond ++ ['+', '0', '0', ':', '0', '0']))))))

/-- The instant counts microseconds from the first day of year 1. -/
def text (instant : ℕ) : List Char :=
  let clock := instant % 86400000000
  dateText (Calendar.dateOf (instant / 86400000000)) (clock / 3600000000)
    (clock / 60000000 % 60) (clock / 1000000 % 60) (clock % 1000000)

end Writing

section Reading

def readNumeral (width : ℕ) (symbols : List Char) : Option (ℕ × List Char) :=
  let digits := symbols.take width
  if digits.length = width ∧ digits.all Char.isDigit then
    some (Nat.ofDigitChars 10 digits 0, symbols.drop width)
  else none

def readSymbol (symbol : Char) : List Char → Option (List Char)
  | [] => none
  | first :: rest => if first = symbol then some rest else none

/-- The fraction is read to a number of decimal places, and its further digits are dropped. -/
def readFraction (places : ℕ) : List Char → Option (ℕ × List Char)
  | '.' :: rest =>
      let digits := rest.takeWhile Char.isDigit
      if digits = [] then none
      else some (Nat.ofDigitChars 10 ((digits ++ List.replicate places '0').take places) 0,
        rest.dropWhile Char.isDigit)
  | rest => some (0, rest)

/-- The offset is a number of minutes. -/
def readOffset : List Char → Option ℤ
  | ['Z'] => some 0
  | '+' :: rest => offset rest
  | '-' :: rest => (offset rest).map fun minutes => -minutes
  | _ => none
where
  offset (symbols : List Char) : Option ℤ := do
    let (hours, symbols) ← readNumeral 2 symbols
    let symbols ← readSymbol ':' symbols
    let (minutes, symbols) ← readNumeral 2 symbols
    if symbols = [] ∧ hours < 24 ∧ minutes < 60 then some (60 * hours + minutes) else none

/-- The instant counts the last decimal place from the first day of year 1. -/
def read (places : ℕ) (symbols : List Char) : Option ℤ := do
  let (year, symbols) ← readNumeral 4 symbols
  let symbols ← readSymbol '-' symbols
  let (month, symbols) ← readNumeral 2 symbols
  let symbols ← readSymbol '-' symbols
  let (day, symbols) ← readNumeral 2 symbols
  let symbols ← readSymbol 'T' symbols
  let (hour, symbols) ← readNumeral 2 symbols
  let symbols ← readSymbol ':' symbols
  let (minute, symbols) ← readNumeral 2 symbols
  let symbols ← readSymbol ':' symbols
  let (second, symbols) ← readNumeral 2 symbols
  let (fraction, symbols) ← readFraction places symbols
  let offset ← readOffset symbols
  if 1 ≤ month ∧ month ≤ 12 ∧ 1 ≤ day ∧ day ≤ 31 ∧ hour < 24 ∧ minute < 60 ∧ second < 60 then
    some ((86400 * Calendar.dayOf ⟨year, month, day⟩ + 3600 * hour + 60 * minute + second -
      60 * offset) * 10 ^ places + fraction)
  else none

end Reading

section Rules

variable (rest : List Char)

theorem readNumeral_padded (width number : ℕ) (positive : 0 < width) (fits : number < 10 ^ width) :
    readNumeral width (padded width number ++ rest) = some (number, rest) := by
  have length := length_padded width number positive fits
  have digits : (padded width number).all Char.isDigit = true :=
    List.all_eq_true.mpr (isDigit_of_mem_padded width number)
  unfold readNumeral
  dsimp only
  rw [List.take_left' length, List.drop_left' length, ofDigitChars_padded]
  exact if_pos ⟨length, digits⟩

theorem readSymbol_cons (symbol : Char) : readSymbol symbol (symbol :: rest) = some rest :=
  if_pos rfl

/-- A reader of fewer places than the writer has drops the last digits. -/
theorem readFraction_fractionText (places microsecond : ℕ) (fewer : places ≤ 6)
    (small : microsecond < 1000000) (sign : Char) (other : sign.isDigit = false)
    (noDot : sign ≠ '.') :
    readFraction places (fractionText microsecond ++ sign :: rest) =
      some (microsecond / 10 ^ (6 - places), sign :: rest) := by
  unfold fractionText
  split
  · rename_i whole
    rw [whole, Nat.zero_div, List.nil_append]
    unfold readFraction
    split
    · rename_i same
      exact absurd (List.cons.inj same).1 noDot
    · rfl
  · have digits := isDigit_of_mem_padded 6 microsecond
    have length := length_padded 6 microsecond (by decide) small
    have taken : ((padded 6 microsecond ++ sign :: rest).takeWhile Char.isDigit) =
        padded 6 microsecond := by
      rw [List.takeWhile_append_of_pos digits, List.takeWhile_cons_of_neg (by simp [other]),
        List.append_nil]
    have dropped : ((padded 6 microsecond ++ sign :: rest).dropWhile Char.isDigit) =
        sign :: rest := by
      rw [List.dropWhile_append_of_pos digits, List.dropWhile_cons_of_neg (by simp [other])]
    have filled : padded 6 microsecond ≠ [] := by
      intro empty
      rw [empty] at length
      exact absurd length (by decide)
    rw [List.cons_append, readFraction, taken, dropped, if_neg filled,
      List.take_append_of_le_length (by omega), ofDigitChars_take places _ digits, length,
      ofDigitChars_padded]

theorem readOffset_utc : readOffset ['+', '0', '0', ':', '0', '0'] = some 0 := by decide

theorem read_dateText (places : ℕ) (date : Date) (hour minute second microsecond : ℕ)
    (fewer : places ≤ 6) (year : date.year < 10000) (month : 1 ≤ date.month ∧ date.month ≤ 12)
    (day : 1 ≤ date.day ∧ date.day ≤ 31) (hours : hour < 24) (minutes : minute < 60)
    (seconds : second < 60) (small : microsecond < 1000000) :
    read places (dateText date hour minute second microsecond) =
      some (((86400 * Calendar.dayOf date + 3600 * hour + 60 * minute + second) * 10 ^ places +
        microsecond / 10 ^ (6 - places) : ℕ) : ℤ) := by
  have fraction := readFraction_fractionText ['0', '0', ':', '0', '0'] places microsecond fewer
    small '+' rfl (by decide)
  have two (rest : List Char) (number : ℕ) (fits : number < 100) :=
    readNumeral_padded rest 2 number (by decide) fits
  have valid : 1 ≤ date.month ∧ date.month ≤ 12 ∧ 1 ≤ date.day ∧ date.day ≤ 31 ∧ hour < 24 ∧
      minute < 60 ∧ second < 60 := ⟨month.1, month.2, day.1, day.2, hours, minutes, seconds⟩
  unfold read dateText
  rw [readNumeral_padded _ 4 _ (by decide) year]
  simp only [Option.bind_eq_bind]
  rw [Option.bind_some, readSymbol_cons, Option.bind_some, two _ date.month (by omega),
    Option.bind_some, readSymbol_cons, Option.bind_some, two _ date.day (by omega),
    Option.bind_some, readSymbol_cons, Option.bind_some, two _ hour (by omega), Option.bind_some,
    readSymbol_cons, Option.bind_some, two _ minute (by omega), Option.bind_some, readSymbol_cons,
    Option.bind_some, two _ second (by omega), Option.bind_some, fraction, Option.bind_some,
    readOffset_utc, Option.bind_some, if_pos valid]
  push_cast
  rw [sub_zero]

/-- The reader finds the instant of a written text, to the places that it keeps. -/
theorem read_text (places instant : ℕ) (fewer : places ≤ 6)
    (inside : instant / 86400000000 < Calendar.lastDay) :
    read places (text instant) = some ((instant / 10 ^ (6 - places) : ℕ) : ℤ) := by
  have year := Calendar.year_dateOf _ inside
  have month := Calendar.month_dateOf (instant / 86400000000)
  have day := Calendar.day_dateOf (instant / 86400000000)
  have seconds : 86400 * (instant / 86400000000) + 3600 * (instant % 86400000000 / 3600000000) +
      60 * (instant % 86400000000 / 60000000 % 60) + instant % 86400000000 / 1000000 % 60 =
        instant / 1000000 := by
    omega
  have microseconds : instant % 86400000000 % 1000000 = instant % 1000000 := by
    omega
  have kept : instant / 10 ^ (6 - places) =
      instant / 1000000 * 10 ^ places + instant % 1000000 / 10 ^ (6 - places) := by
    have scale : 10 ^ places * 10 ^ (6 - places) = 1000000 := by
      rw [← Nat.pow_add, Nat.add_sub_cancel' fewer]
    have split : instant = 10 ^ (6 - places) * (instant / 1000000 * 10 ^ places) +
        instant % 1000000 := by
      rw [Nat.mul_comm, Nat.mul_assoc, scale, Nat.div_add_mod']
    conv_lhs => rw [split]
    exact Nat.mul_add_div (Nat.pow_pos (by decide)) _ _
  unfold text
  rw [read_dateText places _ _ _ _ _ fewer year month day (by omega) (by omega) (by omega) (by omega),
    Calendar.dayOf_dateOf, seconds, microseconds, kept]

end Rules

end IsoText

section Stamps

/-- The first second of 1970, counted from the first day of year 1. -/
def epochSeconds : ℤ := 62135596800

/-- A stamp counts microseconds from 1970. Only the years 1 to 9999 have a text. -/
def isoformat (stamp : ℤ) : Option String :=
  let instant := stamp + 1000000 * epochSeconds
  if 0 ≤ instant ∧ instant.toNat / 86400000000 < Calendar.lastDay then
    some (String.ofList (IsoText.text instant.toNat))
  else none

/-- This is `Date.parse` for the texts with an offset. It counts milliseconds from 1970. -/
def dateParse (text : String) : Option ℤ :=
  (IsoText.read 3 text.toList).map fun instant => instant - 1000 * epochSeconds

variable (stamp : ℤ) (text : String)

theorem read_isoformat (places : ℕ) (fewer : places ≤ 6) (written : isoformat stamp = some text) :
    IsoText.read places text.toList =
      some ((stamp + 1000000 * epochSeconds) / 10 ^ (6 - places)) := by
  unfold isoformat at written
  dsimp only at written
  split at written
  · rename_i inside
    rw [← Option.some.inj written, String.toList_ofList, IsoText.read_text places _ fewer inside.2,
      Int.natCast_ediv, Int.toNat_of_nonneg inside.1, Nat.cast_pow]
    rfl
  · exact absurd written (by simp)

/-- A parsed text keeps the milliseconds. -/
theorem dateParse_isoformat (written : isoformat stamp = some text) :
    dateParse text = some (stamp / 1000) := by
  unfold dateParse
  rw [read_isoformat stamp text 3 (by decide) written, Option.map_some, Option.some.injEq]
  unfold epochSeconds
  omega

/-- Different stamps have different texts. -/
theorem isoformat_injective (other : ℤ) (written : isoformat stamp = some text)
    (same : isoformat other = some text) : stamp = other := by
  have one := read_isoformat stamp text 6 (by decide) written
  have two := read_isoformat other text 6 (by decide) same
  have equal := Option.some.inj (one.symm.trans two)
  rw [Nat.sub_self, pow_zero, Int.ediv_one, Int.ediv_one] at equal
  exact add_right_cancel equal

example : isoformat 1767225661250000 = some "2026-01-01T00:01:01.250000+00:00" ∧
    dateParse "2026-01-01T00:01:01.250000+00:00" = some 1767225661250 := by
  decide +kernel

end Stamps

end Library
