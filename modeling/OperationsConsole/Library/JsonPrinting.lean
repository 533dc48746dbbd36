/-
This file proves that the JSON writer writes printable ASCII only.
-/

import OperationsConsole.Library.JsonRoundTrip

namespace Library.JsonText

section Printing

variable {φ : Type} (format : FloatFormat φ)

/-- A text of printable ASCII. -/
def Printable (text : List Char) : Prop := ∀ char ∈ text, isPrintable char = true

theorem printable_of_all {text : List Char} (all : text.all isPrintable = true) : Printable text :=
  List.all_eq_true.mp all

theorem Printable.append {first second : List Char} (one : Printable first) (two : Printable second) :
    Printable (first ++ second) := by
  intro char member
  rcases List.mem_append.mp member with inside | inside
  · exact one char inside
  · exact two char inside

theorem Printable.cons {first : Char} {rest : List Char} (one : isPrintable first = true)
    (two : Printable rest) : Printable (first :: rest) :=
  List.forall_mem_cons.mpr ⟨one, two⟩

theorem printable_nil : Printable [] := fun _ member => absurd member List.not_mem_nil

/-- Printable parts with commas between them are printable. -/
theorem Printable.intercalate {parts : List (List Char)} (all : ∀ part ∈ parts, Printable part) :
    Printable ([','].intercalate parts) := by
  induction parts with
  | nil => exact printable_nil
  | cons first rest ih =>
      have head := all first List.mem_cons_self
      have tail := ih fun part member => all part (List.mem_cons_of_mem first member)
      cases rest with
      | nil => simpa using head
      | cons next rest =>
          rw [List.intercalate_cons_cons]
          exact (head.append (printable_nil.cons (by decide))).append tail

/-- Digits are printable. -/
theorem printable_digits {text : List Char} (digits : ∀ char ∈ text, char.isDigit = true) :
    Printable text := by
  intro char member
  have digit := digits char member
  rw [Char.isDigit, Bool.and_eq_true, decide_eq_true_eq, decide_eq_true_eq] at digit
  rw [isPrintable, Bool.and_eq_true, decide_eq_true_eq, decide_eq_true_eq]
  exact ⟨Char.le_trans (by decide) digit.1, Char.le_trans digit.2 (by decide)⟩

theorem printable_lowerHexDigit : ∀ value < 16, isPrintable (lowerHexDigit value) = true := by
  decide

/-- An escape is printable. -/
theorem printable_escape (code : ℕ) (unit : code < 0x10000) : Printable (escape code) := by
  intro char member
  simp only [escape, List.mem_cons, List.not_mem_nil, or_false] at member
  rcases member with rfl | rfl | rfl | rfl | rfl | rfl
  · decide
  · decide
  · exact printable_lowerHexDigit _ (by omega)
  · exact printable_lowerHexDigit _ (by omega)
  · exact printable_lowerHexDigit _ (by omega)
  · exact printable_lowerHexDigit _ (by omega)

theorem printable_shortEscapes : ∀ pair ∈ shortEscapes, isPrintable pair.2 = true := by
  decide

/-- Every symbol is written in printable characters. -/
theorem printable_writeSymbol (symbol : Symbol) : Printable (writeSymbol symbol) := by
  cases symbol with
  | surrogate unit => exact printable_escape _ (by omega)
  | scalar char =>
      have bounds := scalar_bounds char
      cases found : shortEscapes.lookup char with
      | some name =>
          obtain ⟨before, after, split, _⟩ := List.lookup_eq_some_iff.mp found
          have member : (char, name) ∈ shortEscapes := by
            rw [split]
            exact List.mem_append_right before List.mem_cons_self
          have slash : isPrintable '\\' = true := rfl
          rw [writeSymbol, found]
          exact (printable_nil.cons (printable_shortEscapes _ member)).cons slash
      | none =>
          rw [writeSymbol, found]
          dsimp only
          split_ifs with plain small
          · exact printable_nil.cons plain
          · exact printable_escape _ small
          · have high : highUnit char < 0x10000 := by unfold highUnit; omega
            have low : lowUnit char < 0x10000 := by unfold lowUnit; omega
            exact (printable_escape _ high).append (printable_escape _ low)

/-- Every text is written in printable characters. -/
theorem printable_writeText (text : PyText) : Printable (writeText text) := by
  have inside : Printable (text.flatMap writeSymbol) := by
    intro char member
    obtain ⟨symbol, _, written⟩ := List.mem_flatMap.mp member
    exact printable_writeSymbol symbol char written
  exact (inside.append (printable_nil.cons (by decide))).cons (by decide)

/-- Every number is written in printable characters. -/
theorem printable_numeral {sign whole fraction exponent : List Char}
    (numeral : IsNumeral sign whole fraction exponent) :
    Printable (sign ++ (whole ++ (fraction ++ exponent))) := by
  have signed : Printable sign := by
    rcases numeral.sign with rfl | rfl
    · exact printable_nil
    · exact printable_nil.cons (by decide)
  have fractional : Printable fraction := by
    rcases numeral.fraction with rfl | ⟨digits, read, rfl⟩
    · exact printable_nil
    · exact (printable_digits read.2).cons (by decide)
  have scaled : Printable exponent := by
    rcases numeral.exponent with rfl | ⟨mark, sign, digits, marked, signed, read, rfl⟩
    · exact printable_nil
    · have plain : Printable sign := by
        rcases signed with rfl | rfl | rfl
        · exact printable_nil
        · exact printable_nil.cons (by decide)
        · exact printable_nil.cons (by decide)
      exact (plain.append (printable_digits read.2)).cons (by rcases marked with rfl | rfl <;> decide)
  exact signed.append ((printable_digits numeral.digits.2).append (fractional.append scaled))

/-- No other character than printable ASCII is written. -/
theorem printable_dumps (value : Value φ) : Printable (dumps format value) := by
  induction value using Value.parts_induction with
  | step value ih =>
      cases value with
      | null => exact printable_of_all rfl
      | bool value => cases value <;> exact printable_of_all rfl
      | int value =>
          rw [dumps, writeInt_eq]
          exact printable_numeral (isNumeral_writeInt _ (by split <;> simp) _)
      | float value =>
          rw [dumps, writeFloat]
          cases kind : format.special value with
          | some special =>
              rcases special with _ | (_ | _) <;> exact printable_of_all rfl
          | none =>
              obtain ⟨⟨_, _, _, _, text, numeral, _⟩, _⟩ := format.repr_float value kind
              dsimp only
              rw [text]
              exact printable_numeral numeral
      | text value => exact printable_writeText value
      | list items =>
          have inside : Printable ([','].intercalate (items.map (dumps format))) := by
            apply Printable.intercalate
            intro part member
            obtain ⟨item, listed, rfl⟩ := List.mem_map.mp member
            exact ih item listed
          rw [dumps, dumpsItems_eq_map]
          exact (inside.append (printable_nil.cons (by decide))).cons (by decide)
      | dict items =>
          have inside : Printable ([','].intercalate (items.map (dumpsMember format))) := by
            apply Printable.intercalate
            intro part member
            obtain ⟨⟨key, value⟩, listed, rfl⟩ := List.mem_map.mp member
            exact (printable_writeText key).append
              ((ih value (List.mem_map_of_mem listed)).cons (by decide))
          rw [dumps, dumpsMembers_eq_map]
          exact (inside.append (printable_nil.cons (by decide))).cons (by decide)

end Printing

end Library.JsonText
