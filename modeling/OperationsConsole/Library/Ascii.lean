/-
This file compares texts of ASCII characters with their bytes. A word is found in the bytes of a text
exactly if it is found in the text.
-/

import Mathlib.Data.List.Infix

namespace Library

/-- The letters and digits by their codes. -/
theorem isAlphanum_iff (symbol : Char) :
    symbol.isAlphanum = true ↔
      ((65 ≤ symbol.toNat ∧ symbol.toNat ≤ 90) ∨ (97 ≤ symbol.toNat ∧ symbol.toNat ≤ 122)) ∨
        (48 ≤ symbol.toNat ∧ symbol.toNat ≤ 57) := by
  change ((decide ('A'.val ≤ symbol.val ∧ symbol.val ≤ 'Z'.val) ||
    (decide ('a'.val ≤ symbol.val) && decide (symbol.val ≤ 'z'.val))) ||
      (decide ('0'.val ≤ symbol.val) && decide (symbol.val ≤ '9'.val))) = true ↔ _
  simp only [Bool.or_eq_true, Bool.and_eq_true, decide_eq_true_eq, UInt32.le_iff_toNat_le]
  exact Iff.rfl

/-- A property of listed symbols is checked one by one. -/
theorem forall_of_all (holds : Char → Prop) [DecidablePred holds] (symbols : List Char)
    (all : (symbols.all fun symbol => decide (holds symbol)) = true) :
    ∀ symbol ∈ symbols, holds symbol := by
  intro symbol member
  exact of_decide_eq_true (List.all_eq_true.mp all symbol member)

/-- The bytes of a text in UTF-8. -/
def utf8 (text : String) : List UInt8 := text.toUTF8.data.toList

def IsAscii (text : List Char) : Prop := ∀ symbol ∈ text, symbol.toNat < 128

def asciiByte (symbol : Char) : UInt8 := symbol.val.toUInt8

def asciiChar (byte : UInt8) : Char := Char.ofNat byte.toNat

theorem utf8_ofList (text : List Char) :
    utf8 (String.ofList text) = text.flatMap String.utf8EncodeChar := by
  unfold utf8
  simp [String.toUTF8, List.utf8Encode]

theorem utf8EncodeChar_ascii (symbol : Char) (ascii : symbol.toNat < 128) :
    String.utf8EncodeChar symbol = [asciiByte symbol] := by
  have small : symbol.val ≤ 127 := by
    rw [UInt32.le_iff_toNat_le]
    exact Nat.le_of_lt_succ ascii
  exact String.utf8EncodeChar_eq_singleton (Char.utf8Size_eq_one_iff.mpr small)

theorem utf8_ascii (text : List Char) (ascii : IsAscii text) :
    utf8 (String.ofList text) = text.map asciiByte := by
  rw [utf8_ofList]
  induction text with
  | nil => rfl
  | cons symbol text ih =>
      rw [List.flatMap_cons, utf8EncodeChar_ascii symbol (ascii symbol List.mem_cons_self),
        ih fun other member => ascii other (List.mem_cons_of_mem _ member)]
      rfl

theorem asciiChar_asciiByte (symbol : Char) (ascii : symbol.toNat < 128) :
    asciiChar (asciiByte symbol) = symbol := by
  unfold asciiChar asciiByte
  have same : symbol.val.toUInt8.toNat = symbol.toNat := by
    rw [UInt32.toNat_toUInt8]
    exact Nat.mod_eq_of_lt (lt_trans ascii (by decide))
  rw [same, Char.ofNat_toNat]

theorem map_asciiChar (text : List Char) (ascii : IsAscii text) :
    (text.map asciiByte).map asciiChar = text := by
  rw [List.map_map]
  conv_rhs => rw [← List.map_id text]
  exact List.map_congr_left fun symbol member => asciiChar_asciiByte symbol (ascii symbol member)

/-- A word of ASCII characters is found in the bytes exactly if it is found in the text. -/
theorem infix_utf8_iff (word text : List Char) (asciiWord : IsAscii word) (asciiText : IsAscii text) :
    utf8 (String.ofList word) <:+: utf8 (String.ofList text) ↔ word <:+: text := by
  rw [utf8_ascii word asciiWord, utf8_ascii text asciiText]
  constructor
  · intro found
    have back := found.map asciiChar
    rw [map_asciiChar word asciiWord, map_asciiChar text asciiText] at back
    exact back
  · intro found
    exact found.map asciiByte

end Library
