/-
This file embeds the quoting of a cookie value of the language's library, and it proves that a value
that is quoted reads back as itself.
-/

import Mathlib.Data.List.Basic

namespace Library

namespace CookieText

/-- A value of these characters is written without quotes. -/
def isLegal (symbol : Char) : Bool := symbol.isAlphanum || symbol ∈ "!#$%&'*+-.^_`|~:".toList

/-- These characters are written as they are between the quotes. -/
def isPlain (symbol : Char) : Bool :=
  isLegal symbol || symbol ∈ " ()/<=>?@[]\x7b\x7d".toList

def octal (digit : Nat) : Char := Char.ofNat (48 + digit)

def isOctal (bound : Nat) (symbol : Char) : Bool :=
  48 ≤ symbol.toNat && symbol.toNat < 48 + bound

def escape (symbol : Char) : List Char :=
  if isPlain symbol then [symbol]
  else if symbol = '\x22' then ['\\', '\x22']
  else if symbol = '\\' then ['\\', '\\']
  else if symbol.toNat < 256 then
    ['\\', octal (symbol.toNat / 64), octal (symbol.toNat / 8 % 8), octal (symbol.toNat % 8)]
  else [symbol]

/-- This is `_quote`. -/
def quote (text : List Char) : List Char :=
  if text ≠ [] ∧ text.all isLegal then text else '\x22' :: (text.flatMap escape ++ ['\x22'])

/-- Three octal digits after a backslash are the code of a character, and another character after a
backslash stands for itself. -/
def unescape : List Char → List Char
  | '\\' :: first :: second :: third :: rest =>
      if isOctal 4 first && isOctal 8 second && isOctal 8 third then
        Char.ofNat (64 * (first.toNat - 48) + 8 * (second.toNat - 48) + (third.toNat - 48)) ::
          unescape rest
      else if first = '\n' then '\\' :: unescape (first :: second :: third :: rest)
      else first :: unescape (second :: third :: rest)
  | '\\' :: first :: rest =>
      if first = '\n' then '\\' :: unescape (first :: rest) else first :: unescape rest
  | symbol :: rest => symbol :: unescape rest
  | [] => []

/-- This is `_unquote`. -/
def unquote (text : List Char) : List Char :=
  if 2 ≤ text.length ∧ text.head? = some '\x22' ∧ text.getLast? = some '\x22' then
    unescape (text.tail.dropLast)
  else text

theorem unescape_cons (symbol : Char) (rest : List Char) (plain : symbol ≠ '\\') :
    unescape (symbol :: rest) = symbol :: unescape rest := by
  rw [unescape.eq_def]
  split
  · rename_i same
    exact absurd (List.cons.inj same).1 plain
  · rename_i same
    exact absurd (List.cons.inj same).1 plain
  · rename_i same
    obtain ⟨rfl, rfl⟩ := List.cons.inj same
    rfl
  · rename_i same
    cases same

/-- A character that is no digit and ends no line stands for itself after a backslash. -/
theorem unescape_backslash (symbol : Char) (rest : List Char) (digitless : isOctal 4 symbol = false)
    (inline : symbol ≠ '\n') : unescape ('\\' :: symbol :: rest) = symbol :: unescape rest := by
  rw [unescape.eq_def]
  split
  · rename_i first second third tail same
    obtain ⟨_, same⟩ := List.cons.inj same
    obtain ⟨rfl, rfl⟩ := List.cons.inj same
    rw [digitless, Bool.false_and, Bool.false_and, if_neg Bool.false_ne_true, if_neg inline]
  · rename_i same
    obtain ⟨_, same⟩ := List.cons.inj same
    obtain ⟨rfl, rfl⟩ := List.cons.inj same
    rw [if_neg inline]
  · rename_i two one same
    obtain ⟨rfl, rfl⟩ := List.cons.inj same
    exact absurd rfl (one symbol rest rfl)
  · rename_i same
    cases same

theorem octal_toNat (digit : Nat) (small : digit < 8) : (octal digit).toNat = 48 + digit := by
  have all : (List.range 8).all fun digit => (octal digit).toNat = 48 + digit := by decide
  exact of_decide_eq_true (List.all_eq_true.mp all digit (List.mem_range.mpr small))

theorem isOctal_octal (bound digit : Nat) (inside : digit < bound) (small : digit < 8) :
    isOctal bound (octal digit) = true := by
  unfold isOctal
  rw [octal_toNat digit small, Bool.and_eq_true, decide_eq_true_eq, decide_eq_true_eq]
  omega

/-- Three octal digits after a backslash are read as the code that they write. -/
theorem unescape_octal (code : Nat) (small : code < 256) (rest : List Char) :
    unescape ('\\' :: octal (code / 64) :: octal (code / 8 % 8) :: octal (code % 8) :: rest) =
      Char.ofNat code :: unescape rest := by
  have digits : isOctal 4 (octal (code / 64)) && isOctal 8 (octal (code / 8 % 8)) &&
      isOctal 8 (octal (code % 8)) := by
    rw [isOctal_octal 4 _ (by omega) (by omega), isOctal_octal 8 _ (by omega) (by omega),
      isOctal_octal 8 _ (by omega) (by omega)]
    rfl
  have value : 64 * ((octal (code / 64)).toNat - 48) + 8 * ((octal (code / 8 % 8)).toNat - 48) +
      ((octal (code % 8)).toNat - 48) = code := by
    rw [octal_toNat _ (by omega), octal_toNat _ (by omega), octal_toNat _ (by omega)]
    omega
  rw [unescape, if_pos digits, value]

theorem isPlain_ne_backslash (symbol : Char) (plain : isPlain symbol = true) : symbol ≠ '\\' := by
  rintro rfl
  revert plain
  decide

/-- An escaped character is read as itself. -/
theorem unescape_escape (symbol : Char) (rest : List Char) :
    unescape (escape symbol ++ rest) = symbol :: unescape rest := by
  unfold escape
  split
  · rename_i plain
    exact unescape_cons symbol rest (isPlain_ne_backslash symbol plain)
  · split
    · rename_i same
      rw [same]
      exact unescape_backslash '\x22' rest (by decide) (by decide)
    · split
      · rename_i same
        rw [same]
        exact unescape_backslash '\\' rest (by decide) (by decide)
      · rename_i ordinary
        split
        · rename_i small
          have read := unescape_octal symbol.toNat small rest
          rw [Char.ofNat_toNat] at read
          exact read
        · exact unescape_cons symbol rest ordinary

theorem unescape_flatMap (text : List Char) : unescape (text.flatMap escape) = text := by
  induction text with
  | nil => rfl
  | cons symbol text ih => rw [List.flatMap_cons, unescape_escape, ih]

/-- Every text that is quoted reads back as itself. -/
theorem unquote_quote (text : List Char) : unquote (quote text) = text := by
  unfold quote
  split
  · rename_i legal
    obtain ⟨filled, all⟩ := legal
    unfold unquote
    refine if_neg ?_
    rintro ⟨_, starts, _⟩
    have member : '\x22' ∈ text := List.mem_of_head? starts
    have quoted := List.all_eq_true.mp all '\x22' member
    revert quoted
    decide
  · unfold unquote
    have ends : ('\x22' :: (text.flatMap escape ++ ['\x22'])).getLast? = some '\x22' := by
      rw [← List.cons_append, List.getLast?_concat]
    rw [if_pos ⟨by simp, rfl, ends⟩, List.tail_cons, List.dropLast_concat, unescape_flatMap]

end CookieText

end Library
