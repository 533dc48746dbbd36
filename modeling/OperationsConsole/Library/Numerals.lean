/-
This file gathers facts about decimal numerals. A numeral is a run of digits, and it tells its number.
A numeral may be padded with zeros to a width, and its first digits tell a quotient.
-/

import Mathlib.Algebra.Group.Nat.Defs
import Mathlib.Data.List.Basic

namespace Library

theorem toDigits_injective (first second : ℕ)
    (same : Nat.toDigits 10 first = Nat.toDigits 10 second) : first = second := by
  have numbers := congrArg (Nat.ofDigitChars 10 · 0) same
  rw [Nat.ofDigitChars_ten_toDigits, Nat.ofDigitChars_ten_toDigits] at numbers
  exact numbers

/-- Only digits stand in a numeral. -/
theorem not_mem_toDigits (symbol : Char) (other : symbol.isDigit = false) (number : ℕ) :
    symbol ∉ Nat.toDigits 10 number := by
  intro member
  have digit := Nat.isDigit_of_mem_toDigits (by omega) (by omega) member
  exact absurd (digit.symm.trans other) Bool.noConfusion

/-- A numeral that is shorter than two digits is padded with a zero. -/
def twoDigits (number : ℕ) : List Char :=
  if number < 10 then '0' :: Nat.toDigits 10 number else Nat.toDigits 10 number

/-- The zero of the padding leaves the number of the numeral. -/
theorem ofDigitChars_twoDigits (number : ℕ) : Nat.ofDigitChars 10 (twoDigits number) 0 = number := by
  unfold twoDigits
  split
  · rw [Nat.ofDigitChars_cons]
    exact Nat.ofDigitChars_ten_toDigits
  · exact Nat.ofDigitChars_ten_toDigits

theorem twoDigits_injective (first second : ℕ) (same : twoDigits first = twoDigits second) :
    first = second := by
  rw [← ofDigitChars_twoDigits first, same, ofDigitChars_twoDigits]

/-- Digits tell a number below the power of ten of their count. -/
theorem ofDigitChars_lt (symbols : List Char) (digits : ∀ symbol ∈ symbols, symbol.isDigit = true) :
    Nat.ofDigitChars 10 symbols 0 < 10 ^ symbols.length := by
  induction symbols with
  | nil => simp
  | cons symbol rest ih =>
      have later := ih fun other member => digits other (List.mem_cons_of_mem symbol member)
      have digit := digits symbol List.mem_cons_self
      rw [Char.isDigit, Bool.and_eq_true, decide_eq_true_eq, decide_eq_true_eq] at digit
      have low : '0'.toNat ≤ symbol.toNat := digit.1
      have high : symbol.toNat ≤ '9'.toNat := digit.2
      have value : symbol.toNat - '0'.toNat ≤ 9 := by
        have nine : '9'.toNat = 57 := rfl
        have zero : '0'.toNat = 48 := rfl
        omega
      have scaled := Nat.mul_le_mul_left (10 ^ rest.length) value
      rw [Nat.ofDigitChars_cons, Nat.ofDigitChars_eq_ofDigitChars_zero, Nat.mul_zero, Nat.zero_add,
        List.length_cons, Nat.pow_succ]
      omega

/-- The first digits tell the quotient by the power of ten of the others. -/
theorem ofDigitChars_take (count : ℕ) (symbols : List Char)
    (digits : ∀ symbol ∈ symbols, symbol.isDigit = true) :
    Nat.ofDigitChars 10 (symbols.take count) 0 =
      Nat.ofDigitChars 10 symbols 0 / 10 ^ (symbols.length - count) := by
  have small := ofDigitChars_lt (symbols.drop count) fun symbol member =>
    digits symbol (List.mem_of_mem_drop member)
  rw [List.length_drop] at small
  conv_rhs => rw [← List.take_append_drop count symbols]
  rw [Nat.ofDigitChars_append, Nat.ofDigitChars_eq_ofDigitChars_zero (l := symbols.drop count),
    List.length_drop, List.take_append_drop, Nat.mul_add_div (Nat.pow_pos (by decide)),
    Nat.div_eq_of_lt small, Nat.add_zero]

/-- A numeral that is shorter than a width is padded with zeros. -/
def padded (width number : ℕ) : List Char := (Nat.toDigits 10 number).leftpad width '0'

section Padding

variable (width number : ℕ)

theorem isDigit_of_mem_padded (symbol : Char) (member : symbol ∈ padded width number) :
    symbol.isDigit = true := by
  rw [padded, List.leftpad, List.mem_append] at member
  rcases member with zero | digit
  · rw [List.eq_of_mem_replicate zero]
    rfl
  · exact Nat.isDigit_of_mem_toDigits (by omega) (by omega) digit

theorem ofDigitChars_padded : Nat.ofDigitChars 10 (padded width number) 0 = number := by
  rw [padded, List.leftpad, Nat.ofDigitChars_append, Nat.ofDigitChars_replicate_zero, Nat.mul_zero,
    Nat.ofDigitChars_ten_toDigits]

theorem length_padded (positive : 0 < width) (fits : number < 10 ^ width) :
    (padded width number).length = width := by
  have short := (Nat.length_toDigits_le_iff (b := 10) (by decide) positive).mpr fits
  rw [padded, List.length_leftpad]
  omega

end Padding

end Library
