/-
This file proves that the JSON reader gives back the numbers of the writer, and its constants.
-/

import Mathlib.Data.List.TakeWhile
import OperationsConsole.Library.JsonText

namespace Library.JsonText

section Parts

/-- The symbols of a written text. -/
def symbols (text : List Char) : PyText := text.map Symbol.scalar

theorem symbols_append (first second : List Char) :
    symbols (first ++ second) = symbols first ++ symbols second := List.map_append

theorem symbols_cons (char : Char) (rest : List Char) :
    symbols (char :: rest) = .scalar char :: symbols rest := rfl

/-- The characters of a text of characters are the text. -/
theorem charsOf_symbols (text : List Char) : charsOf (symbols text) = text := by
  induction text with
  | nil => rfl
  | cons char rest ih => exact congrArg (char :: ·) ih

/-- No text of a value goes on with this one. -/
def Closed (rest : PyText) : Prop :=
  ∀ symbol ∈ rest.head?, symbol ∈ [Symbol.scalar ',', .scalar ']', .scalar '\x7d']

/-- The next symbol is no digit. -/
def Stops (rest : PyText) : Prop := ∀ symbol ∈ rest.head?, isDigitSymbol symbol = false

/-- No digit follows a closed item. -/
theorem Closed.stops {rest : PyText} (closed : Closed rest) : Stops rest := by
  intro symbol first
  have listed := closed symbol first
  simp only [List.mem_cons, List.not_mem_nil, or_false] at listed
  rcases listed with rfl | rfl | rfl <;> rfl

theorem stops_cons (char : Char) (other : char.isDigit = false) (rest : PyText) :
    Stops (.scalar char :: rest) := by
  intro symbol first
  rw [← Option.some.inj first]
  exact other

variable {digits : List Char} (read : IsDigits digits) (rest : PyText)

include read

/-- Digits are read up to the first sign that is no digit. -/
theorem digitsOf_symbols (stops : Stops rest) :
    digitsOf (symbols digits ++ rest) = (symbols digits, rest) := by
  have all : ∀ symbol ∈ symbols digits, isDigitSymbol symbol = true := by
    intro symbol member
    obtain ⟨char, listed, rfl⟩ := List.mem_map.mp member
    exact read.2 char listed
  have after : rest.takeWhile isDigitSymbol = [] ∧ rest.dropWhile isDigitSymbol = rest := by
    cases rest with
    | nil => exact ⟨rfl, rfl⟩
    | cons symbol later =>
        have other := stops symbol rfl
        simp [other]
  rw [digitsOf, List.takeWhile_append_of_pos all, List.dropWhile_append_of_pos all, after.1, after.2,
    List.append_nil]

theorem symbols_ne_nil : symbols digits ≠ [] := by
  intro empty
  exact read.1 (List.map_eq_nil_iff.mp empty)

/-- A part of digits starts with a digit. -/
theorem IsDigits.first : ∃ first later, digits = first :: later ∧ first.isDigit = true := by
  cases digits with
  | nil => exact absurd rfl read.1
  | cons first later => exact ⟨first, later, rfl, read.2 first List.mem_cons_self⟩

/-- Digits have no sign. -/
theorem signOf_digits : signOf (symbols digits ++ rest) = ([], symbols digits ++ rest) := by
  obtain ⟨first, later, rfl, digit⟩ := read.first
  have other : first ≠ '-' := by
    rintro rfl
    exact absurd digit (by decide)
  exact signOf.eq_2 _ fun _ same => other (Symbol.scalar.inj (List.cons.inj same).1)

/-- The sign of an exponent is read before its digits. -/
theorem exponentSignOf_digits (sign : List Char) (signed : sign = [] ∨ sign = ['+'] ∨ sign = ['-']) :
    exponentSignOf (symbols sign ++ (symbols digits ++ rest)) = (symbols sign, symbols digits ++ rest) := by
  obtain ⟨first, later, rfl, digit⟩ := read.first
  have other : first ≠ '+' := by
    rintro rfl
    exact absurd digit (by decide)
  rcases signed with rfl | rfl | rfl
  · have unsigned : exponentSignOf (symbols (first :: later) ++ rest) =
        signOf (symbols (first :: later) ++ rest) :=
      exponentSignOf.eq_2 _ fun _ same => other (Symbol.scalar.inj (List.cons.inj same).1)
    rw [signOf_digits read] at unsigned
    exact unsigned
  · rfl
  · rfl

end Parts

theorem isDigits_zero : IsDigits ['0'] := by
  refine ⟨List.cons_ne_nil _ _, ?_⟩
  intro char member
  rw [List.mem_singleton.mp member]
  rfl

section Numerals

variable {sign whole fraction exponent : List Char}
variable (numeral : IsNumeral sign whole fraction exponent) (rest : PyText)

include numeral

/-- The whole part of a number has digits. -/
theorem IsNumeral.digits : IsDigits whole := by
  rcases numeral.whole with rfl | digits
  · exact isDigits_zero
  · exact digits.1

/-- The exponent of a number is read up to its end. -/
theorem exponentOf_symbols (closed : Closed rest) :
    exponentOf (symbols exponent ++ rest) = (symbols exponent, rest) := by
  rcases numeral.exponent with rfl | ⟨mark, sign, digits, marked, signed, read, rfl⟩
  · cases rest with
    | nil => rfl
    | cons symbol later =>
        have listed := closed symbol rfl
        simp only [List.mem_cons, List.not_mem_nil, or_false] at listed
        rcases listed with rfl | rfl | rfl <;> rfl
  · rw [symbols_cons, List.cons_append, symbols_append, List.append_assoc, exponentOf,
      exponentSignOf_digits read rest sign signed]
    dsimp only
    rw [digitsOf_symbols read rest closed.stops, if_pos ⟨marked, symbols_ne_nil read⟩]

/-- An exponent does not go on with the digits before it. -/
theorem stops_exponent (closed : Closed rest) : Stops (symbols exponent ++ rest) := by
  rcases numeral.exponent with rfl | ⟨mark, sign, digits, marked, _, _, rfl⟩
  · exact closed.stops
  · exact stops_cons mark (by rcases marked with rfl | rfl <;> rfl) _

/-- The fraction of a number is read up to its exponent. -/
theorem fractionOf_symbols (closed : Closed rest) :
    fractionOf (symbols fraction ++ (symbols exponent ++ rest)) =
      (symbols fraction, symbols exponent ++ rest) := by
  rcases numeral.fraction with rfl | ⟨digits, read, rfl⟩
  · rcases numeral.exponent with rfl | ⟨mark, sign, digits, marked, _, _, rfl⟩
    · cases rest with
      | nil => rfl
      | cons symbol later =>
          have listed := closed symbol rfl
          simp only [List.mem_cons, List.not_mem_nil, or_false] at listed
          rcases listed with rfl | rfl | rfl <;> rfl
    · rcases marked with rfl | rfl <;> rfl
  · rw [symbols_cons, List.cons_append, fractionOf,
      digitsOf_symbols read _ (stops_exponent numeral rest closed), if_neg (symbols_ne_nil read)]

/-- No digit follows the whole part of a number. -/
theorem stops_fraction (closed : Closed rest) :
    Stops (symbols fraction ++ (symbols exponent ++ rest)) := by
  rcases numeral.fraction with rfl | ⟨digits, _, rfl⟩
  · exact stops_exponent numeral rest closed
  · exact stops_cons '.' rfl _

/-- The whole part of a number is read up to its fraction. -/
theorem wholeOf_symbols (stops : Stops rest) :
    wholeOf (symbols whole ++ rest) = (symbols whole, rest) := by
  rcases numeral.whole with rfl | ⟨read, other⟩
  · rfl
  · rw [wholeOf.eq_2, digitsOf_symbols read rest stops]
    obtain ⟨first, later, rfl, _⟩ := read.first
    intro after same
    exact other (congrArg some (Symbol.scalar.inj (List.cons.inj same).1))

/-- The reader finds the parts of a number. -/
theorem readNumeral_symbols (closed : Closed rest) :
    readNumeral (symbols (sign ++ (whole ++ (fraction ++ exponent))) ++ rest) =
      (⟨symbols sign, symbols whole, symbols fraction, symbols exponent⟩, rest) := by
  have signed (after : PyText) : signOf (symbols sign ++ (symbols whole ++ after)) =
      (symbols sign, symbols whole ++ after) := by
    rcases numeral.sign with rfl | rfl
    · exact signOf_digits numeral.digits after
    · rfl
  simp only [symbols_append, List.append_assoc, readNumeral]
  rw [signed, wholeOf_symbols numeral _ (stops_fraction numeral rest closed),
    fractionOf_symbols numeral rest closed, exponentOf_symbols numeral rest closed]

/-- A number starts with a sign or a digit. -/
theorem IsNumeral.first : ∃ first later, sign ++ (whole ++ (fraction ++ exponent)) = first :: later ∧
    (first = '-' ∧ (∃ second rest, later = second :: rest ∧ second.isDigit = true) ∨
      first.isDigit = true) := by
  obtain ⟨first, later, rfl, digit⟩ := numeral.digits.first
  rcases numeral.sign with rfl | rfl
  · exact ⟨first, _, rfl, .inr digit⟩
  · exact ⟨'-', _, rfl, .inl ⟨rfl, first, _, rfl, digit⟩⟩

end Numerals

section Reading

variable {φ : Type} (format : FloatFormat φ)

/-- No name of a constant starts like a number. -/
theorem constants_apart : ∀ constant ∈ constants format, ∃ first second later,
    constant.1 = first :: second :: later ∧ first.isDigit = false ∧
      (first = '-' → second.isDigit = false) := by
  intro constant member
  simp only [constants, List.map_cons, List.map_nil, List.cons_append, List.nil_append,
    List.mem_cons, List.not_mem_nil, or_false] at member
  rcases member with rfl | rfl | rfl | rfl | rfl | rfl <;>
    exact ⟨_, _, _, rfl, rfl, by decide⟩

/-- No number starts as a constant does. -/
theorem readConstant_number (first : Char) (later : List Char) (rest : PyText)
    (number : first = '-' ∧ (∃ second rest, later = second :: rest ∧ second.isDigit = true) ∨
      first.isDigit = true) :
    readConstant format (symbols (first :: later) ++ rest) = none := by
  unfold readConstant
  rw [List.findSome?_eq_none_iff]
  intro constant member
  obtain ⟨start, second, tail, name, plain, apart⟩ := constants_apart format constant member
  have stays : ¬(symbols constant.1).isPrefixOf (symbols (first :: later) ++ rest) = true := by
    rw [List.isPrefixOf_iff_prefix, name]
    rintro ⟨after, same⟩
    injection same with head next
    have starts := Symbol.scalar.inj head
    rcases number with ⟨minus, digit, others, rfl, isDigit⟩ | isDigit
    · injection next with head _
      rw [Symbol.scalar.inj head, isDigit] at apart
      exact absurd (apart (starts.trans minus)) (by decide)
    · rw [starts, isDigit] at plain
      exact absurd plain (by decide)
  exact if_neg stays

variable (nested : Option (PyText → Except Raised (Value φ × PyText)))

/-- A number is read as a number. -/
theorem readValue_numeral {sign whole fraction exponent : List Char}
    (numeral : IsNumeral sign whole fraction exponent) (rest : PyText) :
    readValue format nested (symbols (sign ++ (whole ++ (fraction ++ exponent))) ++ rest) =
      readNumber format (symbols (sign ++ (whole ++ (fraction ++ exponent))) ++ rest) := by
  obtain ⟨first, later, text, number⟩ := numeral.first
  have other (char : Char) (plain : char.isDigit = false) (sign : char ≠ '-') (after : PyText)
      (same : symbols (first :: later) ++ rest = .scalar char :: after) : False := by
    have starts : first = char := Symbol.scalar.inj (List.cons.inj same).1
    rcases number with ⟨minus, _⟩ | digit
    · exact sign (starts.symm.trans minus)
    · rw [starts, plain] at digit
      exact absurd digit (by decide)
  rw [text, readValue.eq_4 _ _ _ (other '"' rfl (by decide)) (other '\x7b' rfl (by decide))
    (other '[' rfl (by decide)), readConstant_number format first later rest number]

/-- The decimal text of a number has digits. -/
theorem isDigits_toDigits (number : ℕ) : IsDigits (Nat.toDigits 10 number) :=
  ⟨Nat.toDigits_ne_nil, fun _ member =>
    Nat.isDigit_of_mem_toDigits (by decide) (by decide) member⟩

theorem digitChar_ne_zero : ∀ digit < 10, 0 < digit → Nat.digitChar digit ≠ '0' := by
  decide

/-- A decimal numeral has no leading zero. -/
theorem head_toDigits (number : ℕ) (positive : 0 < number) :
    (Nat.toDigits 10 number).head? ≠ some '0' := by
  induction number using Nat.strongRecOn with
  | ind number ih =>
      by_cases small : number < 10
      · rw [Nat.toDigits_of_lt_base small]
        exact fun same => digitChar_ne_zero number small positive (Option.some.inj same)
      · have fewer := ih (number / 10) (by omega) (by omega)
        rw [Nat.toDigits_of_base_le (by decide) (by omega), List.head?_append_of_ne_nil _
          Nat.toDigits_ne_nil]
        exact fewer

/-- The decimal text of a number is the whole part of a numeral. -/
theorem toDigits_whole (number : ℕ) : Nat.toDigits 10 number = ['0'] ∨
    IsDigits (Nat.toDigits 10 number) ∧ (Nat.toDigits 10 number).head? ≠ some '0' := by
  rcases Nat.eq_zero_or_pos number with zero | positive
  · exact .inl (by rw [zero, Nat.toDigits_zero])
  · exact .inr ⟨isDigits_toDigits number, head_toDigits number positive⟩

/-- A written integer is a numeral without a fraction and an exponent. -/
theorem isNumeral_writeInt (sign : List Char) (signed : sign = [] ∨ sign = ['-']) (number : ℕ) :
    IsNumeral sign (Nat.toDigits 10 number) [] [] :=
  ⟨signed, toDigits_whole number, .inl rfl, .inl rfl⟩

theorem writeInt_eq (value : ℤ) :
    writeInt value = (if value < 0 then ['-'] else []) ++ (Nat.toDigits 10 value.natAbs ++ ([] ++ [])) := by
  unfold writeInt
  split <;> simp

/-- A written integer has its value. -/
theorem int_whole (value : ℤ) (fraction exponent : PyText) :
    Numeral.int ⟨symbols (if value < 0 then ['-'] else []),
      symbols (Nat.toDigits 10 value.natAbs), fraction, exponent⟩ = value := by
  unfold Numeral.int
  dsimp only
  rw [charsOf_symbols, Nat.ofDigitChars_ten_toDigits]
  by_cases negative : value < 0
  · rw [if_pos negative, if_neg (by decide)]
    omega
  · rw [if_neg negative, if_pos (by decide)]
    omega

/-- The language refuses a written integer with too many digits, and it reads every other one. -/
theorem readValue_writeInt_eq (value : ℤ) (rest : PyText) (closed : Closed rest) :
    readValue format nested (symbols (writeInt value) ++ rest) =
      if maxDigits < (Nat.toDigits 10 value.natAbs).length then .error .valueError
      else .ok (.int value, rest) := by
  have numeral := isNumeral_writeInt (if value < 0 then ['-'] else []) (by split <;> simp)
    value.natAbs
  have whole : symbols (Nat.toDigits 10 value.natAbs) ≠ [] := symbols_ne_nil numeral.digits
  have length : (symbols (Nat.toDigits 10 value.natAbs)).length =
      (Nat.toDigits 10 value.natAbs).length := List.length_map _
  rw [writeInt_eq, readValue_numeral format nested numeral, readNumber,
    readNumeral_symbols numeral rest closed]
  dsimp only
  rw [if_neg whole, if_pos ⟨rfl, rfl⟩, int_whole, length]

/-- A written integer is read again, unless it has too many digits. -/
theorem readValue_writeInt (value : ℤ) (short : (Nat.toDigits 10 value.natAbs).length ≤ maxDigits)
    (rest : PyText) (closed : Closed rest) :
    readValue format nested (symbols (writeInt value) ++ rest) = .ok (.int value, rest) := by
  rw [readValue_writeInt_eq format nested value rest closed, if_neg (not_lt.mpr short)]

/-- A written float is read again. -/
theorem readValue_writeFloat (value : φ) (rest : PyText) (closed : Closed rest) :
    readValue format nested (symbols (writeFloat format value) ++ rest) = .ok (.float value, rest) := by
  unfold writeFloat
  cases kind : format.special value with
  | some special =>
      have same := format.named_special value special kind
      rw [← same]
      rcases special with _ | (_ | _) <;> rfl
  | none =>
      obtain ⟨⟨sign, whole, fraction, exponent, text, numeral, parts⟩, float⟩ :=
        format.repr_float value kind
      have filled := symbols_ne_nil numeral.digits
      have long : ¬(symbols fraction = [] ∧ symbols exponent = []) := by
        rintro ⟨first, second⟩
        rcases parts with filled | filled
        · exact filled (List.map_eq_nil_iff.mp first)
        · exact filled (List.map_eq_nil_iff.mp second)
      dsimp only
      rw [text, readValue_numeral format nested numeral, readNumber,
        readNumeral_symbols numeral rest closed]
      dsimp only
      rw [if_neg filled, if_neg long, Numeral.text, ← symbols_append, ← symbols_append,
        ← symbols_append, charsOf_symbols, ← text, float]

end Reading

section WholeFloats

/-- A whole float is a numeral with the fraction zero. -/
theorem isNumeral_whole (value : ℤ) :
    IsNumeral (if value < 0 then ['-'] else []) (Nat.toDigits 10 value.natAbs) ['.', '0'] [] :=
  ⟨by split <;> simp, toDigits_whole _, .inr ⟨['0'], isDigits_zero, rfl⟩, .inl rfl⟩

theorem writeInt_whole (value : ℤ) : writeInt value ++ ".0".toList =
    (if value < 0 then ['-'] else []) ++ (Nat.toDigits 10 value.natAbs ++ (['.', '0'] ++ [])) := by
  unfold writeInt
  split <;> simp

/-- The floats with whole values and the named ones are written and read as the language does. -/
def wholeFloats : FloatFormat (Special ⊕ ℤ) where
  special := Sum.elim some fun _ => none
  named := .inl
  repr := Sum.elim Special.name fun value => writeInt value ++ ".0".toList
  float text := .inr (readNumeral (symbols text)).1.int
  named_special := by
    rintro (value | value) kind same
    · rw [Option.some.inj same]
    · exact nomatch same
  repr_float := by
    rintro (value | value) plain
    · exact nomatch plain
    · have numeral := isNumeral_whole value
      have read := readNumeral_symbols numeral [] fun symbol first => nomatch first
      refine ⟨⟨_, _, _, _, writeInt_whole value, numeral, .inl (by decide)⟩, ?_⟩
      rw [List.append_nil] at read
      simp only [Sum.elim_inr, writeInt_whole, read, int_whole]

end WholeFloats

end Library.JsonText
