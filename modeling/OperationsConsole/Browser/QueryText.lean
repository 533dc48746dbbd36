/-
This file embeds the two ways in which the pages write a query: `URLSearchParams`, and a template
with `encodeURIComponent`. The console's server reads both with `parse_qsl`.
-/

import OperationsConsole.Redaction.QueryString

namespace OperationsConsole.Browser

open Library
open Redaction (Text parseQsl parseField unquotePlus unquoteToBytes quoteByte isAscii upperHexDigit)

section Codes

/-- A byte stands for its own character, or it is escaped. -/
def escapeByte (kept : Char → Bool) (byte : UInt8) : Text :=
  let symbol := Char.ofNat byte.toNat
  if kept symbol then [symbol]
  else ['%', upperHexDigit (byte.toNat / 16), upperHexDigit (byte.toNat % 16)]

/-- These characters stand for themselves in `encodeURIComponent`. -/
def keptByComponent (symbol : Char) : Bool :=
  symbol.isAlphanum || "-_.!~*'()".toList.contains symbol

/-- These characters stand for themselves in `URLSearchParams`. -/
def keptByForm (symbol : Char) : Bool := symbol.isAlphanum || "*-._".toList.contains symbol

def componentByte (byte : UInt8) : Text := escapeByte keptByComponent byte

/-- A form writes a plus sign for a space. -/
def formByte (byte : UInt8) : Text := if byte = 0x20 then ['+'] else escapeByte keptByForm byte

/-- A text is written byte by byte. -/
def codeText (code : UInt8 → Text) (text : Text) : Text :=
  (text.flatMap String.utf8EncodeChar).flatMap code

def encodeURIComponent (text : Text) : Text := codeText componentByte text

def queryText (code : UInt8 → Text) (query : List (Text × Text)) : Text :=
  ['&'].intercalate (query.map fun pair => codeText code pair.1 ++ '=' :: codeText code pair.2)

/-- This is the text of a `URLSearchParams`. -/
def searchParams (query : List (Text × Text)) : Text := queryText formByte query

/-- This is the text of names and values that are each passed through `encodeURIComponent`. -/
def componentQuery (query : List (Text × Text)) : Text := queryText componentByte query

/-- The reader of a query takes a plus sign for a space. -/
def plusToSpace (symbol : Char) : Char := if symbol = '+' then ' ' else symbol

/-- The reader of a query gets each byte back, and it sees no sign that ends a name or a field. -/
structure QueryCode (code : UInt8 → Text) : Prop where
  reads : ∀ byte rest,
    unquoteToBytes ((code byte).map plusToSpace ++ rest) = byte :: unquoteToBytes rest
  signs : ∀ byte, ∀ symbol ∈ code byte, isAscii symbol = true ∧ symbol ∉ ['&', '=']

end Codes

section Escapes

variable (kept : Char → Bool)

/-- A keeper of ASCII characters other than the signs of a query. -/
def KeepsPlain : Prop :=
  ∀ symbol, kept symbol = true → isAscii symbol = true ∧ symbol ∉ ['%', '+', '&', '=']

theorem keepsPlain_of_signs (signs : List Char)
    (plain : (signs.all fun symbol => isAscii symbol && !(['%', '+', '&', '='].contains symbol)) =
      true) :
    KeepsPlain fun symbol => symbol.isAlphanum || signs.contains symbol := by
  intro symbol holds
  rw [Bool.or_eq_true, List.contains_iff_mem] at holds
  rcases holds with alphanum | sign
  · refine ⟨Redaction.isAscii_of_isAlphanum symbol alphanum, ?_⟩
    intro sign
    simp only [List.mem_cons, List.not_mem_nil, or_false] at sign
    rcases sign with rfl | rfl | rfl | rfl <;> revert alphanum <;> decide
  · have holds := List.all_eq_true.mp plain symbol sign
    rw [Bool.and_eq_true, Bool.not_eq_true', ← Bool.not_eq_true, List.contains_iff_mem] at holds
    exact holds

theorem hexDigit_signs : ∀ value < 16, isAscii (upperHexDigit value) = true ∧
    upperHexDigit value ∉ ['%', '+', '&', '='] := by
  decide

/-- An escaped byte has none of the signs of a query. -/
theorem escapeByte_signs (plain : KeepsPlain kept) (byte : UInt8) :
    ∀ symbol ∈ escapeByte kept byte, isAscii symbol = true ∧ symbol ∉ ['+', '&', '='] := by
  have bound : byte.toNat < 256 := UInt8.toNat_lt_size byte
  intro symbol member
  unfold escapeByte at member
  dsimp only at member
  split at member
  · rename_i holds
    rw [← List.mem_singleton.mp member] at holds
    obtain ⟨ascii, free⟩ := plain symbol holds
    exact ⟨ascii, fun sign => free (List.mem_cons_of_mem _ sign)⟩
  · simp only [List.mem_cons, List.not_mem_nil, or_false] at member
    rcases member with percent | high | low
    · rw [percent]
      decide
    · rw [high]
      obtain ⟨ascii, free⟩ := hexDigit_signs (byte.toNat / 16) (by omega)
      exact ⟨ascii, fun sign => free (List.mem_cons_of_mem _ sign)⟩
    · rw [low]
      obtain ⟨ascii, free⟩ := hexDigit_signs (byte.toNat % 16) (by omega)
      exact ⟨ascii, fun sign => free (List.mem_cons_of_mem _ sign)⟩

/-- No plus sign is written, so the reader changes nothing. -/
theorem escapeByte_map (plain : KeepsPlain kept) (byte : UInt8) :
    (escapeByte kept byte).map plusToSpace = escapeByte kept byte := by
  refine (List.map_congr_left fun symbol member => ?_).trans (List.map_id _)
  have free := (escapeByte_signs kept plain byte symbol member).2
  rw [id, plusToSpace, if_neg]
  rintro rfl
  exact free List.mem_cons_self

/-- An escaped byte is unquoted to the byte. -/
theorem unquoteToBytes_escapeByte (plain : KeepsPlain kept) (byte : UInt8) (rest : Text) :
    unquoteToBytes (escapeByte kept byte ++ rest) = byte :: unquoteToBytes rest := by
  have digits : ∀ value < 16, Redaction.isHexDigit (upperHexDigit value) = true ∧
      Redaction.hexValue (upperHexDigit value) = value := by
    decide
  have small : byte.toNat < 256 := UInt8.toNat_lt_size byte
  unfold escapeByte
  dsimp only
  split
  · rename_i holds
    have sign : Char.ofNat byte.toNat ≠ '%' := fun same =>
      (plain _ holds).2 (same ▸ List.mem_cons_self)
    have number : (Char.ofNat byte.toNat).toNat.toUInt8 = byte := by
      rw [Redaction.toNat_ofNat_char byte.toNat small]
      exact UInt8.ofNat_toNat
    rw [List.cons_append, List.nil_append, Redaction.unquoteToBytes_plain _ _ sign, number]
  · obtain ⟨high, highValue⟩ := digits (byte.toNat / 16) (by omega)
    obtain ⟨low, lowValue⟩ := digits (byte.toNat % 16) (by omega)
    have number : (16 * (byte.toNat / 16) + byte.toNat % 16).toUInt8 = byte := by
      rw [Nat.div_add_mod]
      exact UInt8.ofNat_toNat
    rw [List.cons_append, List.cons_append, List.cons_append, List.nil_append, unquoteToBytes,
      high, low, if_pos (by decide), highValue, lowValue, number]

theorem keepsPlain_component : KeepsPlain keptByComponent :=
  keepsPlain_of_signs "-_.!~*'()".toList (by decide)

theorem keepsPlain_form : KeepsPlain keptByForm :=
  keepsPlain_of_signs "*-._".toList (by decide)

/-- The encoding of a component is a code of queries. -/
theorem queryCode_component : QueryCode componentByte where
  reads byte rest := by
    rw [componentByte, escapeByte_map keptByComponent keepsPlain_component,
      unquoteToBytes_escapeByte keptByComponent keepsPlain_component]
  signs byte symbol member := by
    obtain ⟨ascii, free⟩ := escapeByte_signs keptByComponent keepsPlain_component byte symbol member
    exact ⟨ascii, fun sign => free (List.mem_cons_of_mem _ sign)⟩

/-- The encoding of a form is a code of queries. -/
theorem queryCode_form : QueryCode formByte where
  reads byte rest := by
    unfold formByte
    split
    · rename_i space
      rw [space]
      exact Redaction.unquoteToBytes_plain ' ' rest (by decide)
    · rw [escapeByte_map keptByForm keepsPlain_form,
        unquoteToBytes_escapeByte keptByForm keepsPlain_form]
  signs byte symbol member := by
    unfold formByte at member
    split at member
    · rw [List.mem_singleton.mp member]
      decide
    · obtain ⟨ascii, free⟩ := escapeByte_signs keptByForm keepsPlain_form byte symbol member
      exact ⟨ascii, fun sign => free (List.mem_cons_of_mem _ sign)⟩

end Escapes

section Reading

variable (code : UInt8 → Text) (lawful : QueryCode code)

include lawful

theorem codeText_signs (text : Text) :
    ∀ symbol ∈ codeText code text, isAscii symbol = true ∧ symbol ∉ ['&', '='] := by
  intro symbol member
  obtain ⟨byte, _, inside⟩ := List.mem_flatMap.mp member
  exact lawful.signs byte symbol inside

/-- A text is read back from its code. -/
theorem unquotePlus_codeText (text : Text) : unquotePlus (codeText code text) = text := by
  have ascii : ((codeText code text).map plusToSpace).all isAscii = true := by
    rw [List.all_map, List.all_eq_true]
    intro symbol member
    show isAscii (plusToSpace symbol) = true
    unfold plusToSpace
    split
    · decide
    · exact (codeText_signs code lawful text symbol member).1
  have bytes : ∀ bytes : List UInt8,
      unquoteToBytes ((bytes.flatMap code).map plusToSpace) = bytes := by
    intro bytes
    induction bytes with
    | nil => rfl
    | cons byte rest ih => rw [List.flatMap_cons, List.map_append, lawful.reads, ih]
  change Redaction.unquote ((codeText code text).map plusToSpace) = text
  rw [Redaction.unquote_ascii _ ascii, codeText, bytes, Redaction.decodeFrom_utf8]

/-- A field is read back from the codes of its name and its value. -/
theorem parseField_codeText (pair : Text × Text) :
    parseField (codeText code pair.1 ++ '=' :: codeText code pair.2) = pair := by
  have free : ∀ symbol ∈ codeText code pair.1, (symbol == '=') = false := by
    intro symbol member
    have sign := (codeText_signs code lawful pair.1 symbol member).2
    rw [beq_eq_false_iff_ne]
    rintro rfl
    exact sign (by decide)
  unfold parseField afterFirst
  rw [before_append _ _ _ free, fromFirst_append _ _ _ free]
  show (unquotePlus (codeText code pair.1 ++ []), unquotePlus (codeText code pair.2)) = pair
  rw [List.append_nil, unquotePlus_codeText code lawful, unquotePlus_codeText code lawful]

/-- The fields of a query are written apart. -/
theorem splitOn_queryText (pair : Text × Text) (rest : List (Text × Text)) :
    (queryText code (pair :: rest)).splitOn '&' = (pair :: rest).map fun pair =>
      codeText code pair.1 ++ '=' :: codeText code pair.2 := by
  have separate : ∀ field ∈ (pair :: rest).map (fun pair : Text × Text =>
      codeText code pair.1 ++ '=' :: codeText code pair.2), '&' ∉ field := by
    intro field member
    obtain ⟨pair, _, same⟩ := List.mem_map.mp member
    rw [← same, List.mem_append, List.mem_cons, not_or, not_or]
    exact ⟨fun inside => (codeText_signs code lawful pair.1 _ inside).2 (by decide), by decide,
      fun inside => (codeText_signs code lawful pair.2 _ inside).2 (by decide)⟩
  exact List.splitOn_intercalate '&' separate (by simp)

/-- The parameters are read back from a query. -/
theorem parseQsl_queryText (query : List (Text × Text)) :
    parseQsl (queryText code query) = query := by
  cases query with
  | nil => rfl
  | cons pair rest =>
      have filled : ((pair :: rest).map fun pair : Text × Text =>
          codeText code pair.1 ++ '=' :: codeText code pair.2).filter (fun field => field ≠ []) =
            (pair :: rest).map fun pair => codeText code pair.1 ++ '=' :: codeText code pair.2 := by
        rw [List.filter_eq_self]
        intro field member
        obtain ⟨pair, _, same⟩ := List.mem_map.mp member
        rw [← same]
        simp
      rw [parseQsl, splitOn_queryText code lawful, filled, List.map_map]
      exact List.map_id'' (parseField_codeText code lawful) _

end Reading

end OperationsConsole.Browser
