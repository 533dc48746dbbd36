/-
This file embeds `parse_qsl` and `urlencode` of the language's library on lists of characters.
A query string that was encoded from parameters parses to the same parameters.
-/

import OperationsConsole.Library.Ascii
import OperationsConsole.Redaction.Quoting

namespace OperationsConsole.Redaction

open Library

/-- This is `quote` with the space as its only safe character. -/
def quoteSpaced (text : Text) : Text :=
  text.flatMap fun symbol => (String.utf8EncodeChar symbol).flatMap fun byte =>
    if byte = 0x20 then [' '] else quoteByte byte

def quotePlus (text : Text) : Text :=
  if text.contains ' ' then
    (quoteSpaced text).map fun symbol => if symbol = ' ' then '+' else symbol
  else quote text

def unquotePlus (text : Text) : Text :=
  unquote (text.map fun symbol => if symbol = '+' then ' ' else symbol)

def urlencode (query : List (Text × Text)) : Text :=
  ['&'].intercalate (query.map fun pair => quotePlus pair.1 ++ '=' :: quotePlus pair.2)

/-- The name of a field ends at its first equals sign. -/
def parseField (field : Text) : Text × Text :=
  (unquotePlus (before (· == '=') field), unquotePlus (afterFirst (· == '=') field))

/-- This is `parse_qsl` with blank values kept. -/
def parseQsl (text : Text) : List (Text × Text) :=
  ((text.splitOn '&').filter fun field => field ≠ []).map parseField

section Decoding

/-- A byte of ASCII is a character of its own. -/
theorem decodeOne_ascii (first : UInt8) (rest : List UInt8) (ascii : first.toNat < 128) :
    decodeOne first rest = (Char.ofNat first.toNat, 0) := by
  have small : first < 0x80 := UInt8.lt_iff_toNat_lt.mpr ascii
  unfold decodeOne
  rw [if_pos small]

theorem isSecond_iff (first second : UInt8) : isSecond first second = true ↔
    (128 ≤ second.toNat ∧ second.toNat ≤ 191) ∧ (first.toNat = 224 → 160 ≤ second.toNat) ∧
      (first.toNat = 237 → second.toNat ≤ 159) ∧ (first.toNat = 240 → 144 ≤ second.toNat) ∧
        (first.toNat = 244 → second.toNat ≤ 143) := by
  simp only [isSecond, isContinuation, Bool.and_eq_true, Bool.not_eq_true', Bool.and_eq_false_iff,
    decide_eq_true_eq, decide_eq_false_iff_not, beq_eq_false_iff_ne, ne_eq,
    UInt8.le_iff_toNat_le, UInt8.lt_iff_toNat_lt, ← UInt8.toNat_inj, UInt8.reduceToNat]
  omega

theorem isContinuation_iff (byte : UInt8) :
    isContinuation byte = true ↔ 128 ≤ byte.toNat ∧ byte.toNat ≤ 191 := by
  simp only [isContinuation, Bool.and_eq_true, decide_eq_true_eq, UInt8.le_iff_toNat_le,
    UInt8.reduceToNat]

/-- A lead byte of a longer sequence is neither ASCII nor out of bounds. -/
theorem lead_bounds (first : UInt8) (low : 194 ≤ first.toNat) (high : first.toNat ≤ 244) :
    ¬first < 0x80 ∧ ¬(first < 0xC2 || 0xF4 < first) = true := by
  simp only [Bool.or_eq_true, decide_eq_true_eq, UInt8.lt_iff_toNat_lt, UInt8.reduceToNat]
  omega

/-- Two valid bytes are one character. -/
theorem decodeOne_two (first second : UInt8) (rest : List UInt8) (low : 194 ≤ first.toNat)
    (high : first.toNat < 224) (valid : isSecond first second = true) :
    decodeOne first (second :: rest) = (joinBytes (first.toNat - 0xC0) [second], 1) := by
  obtain ⟨plain, bounded⟩ := lead_bounds first low (by omega)
  have short : first < 0xE0 := UInt8.lt_iff_toNat_lt.mpr high
  unfold decodeOne
  rw [if_neg plain, if_neg bounded]
  dsimp only
  rw [valid, if_neg (by decide), if_pos short]

/-- Three valid bytes are one character. -/
theorem decodeOne_three (first second third : UInt8) (rest : List UInt8)
    (low : 224 ≤ first.toNat) (high : first.toNat < 240) (valid : isSecond first second = true)
    (tail : isContinuation third = true) :
    decodeOne first (second :: third :: rest) =
      (joinBytes (first.toNat - 0xE0) [second, third], 2) := by
  obtain ⟨plain, bounded⟩ := lead_bounds first (by omega) (by omega)
  have long : ¬first < 0xE0 := fun short =>
    absurd (UInt8.lt_iff_toNat_lt.mp short) (Nat.not_lt.mpr low)
  have short : first < 0xF0 := UInt8.lt_iff_toNat_lt.mpr high
  unfold decodeOne
  rw [if_neg plain, if_neg bounded]
  dsimp only
  rw [valid, tail, if_neg (by decide), if_neg long, if_neg (by decide), if_pos short]

/-- Four valid bytes are one character. -/
theorem decodeOne_four (first second third fourth : UInt8) (rest : List UInt8)
    (low : 240 ≤ first.toNat) (high : first.toNat ≤ 244) (valid : isSecond first second = true)
    (tail : isContinuation third = true) (last : isContinuation fourth = true) :
    decodeOne first (second :: third :: fourth :: rest) =
      (joinBytes (first.toNat - 0xF0) [second, third, fourth], 3) := by
  obtain ⟨plain, bounded⟩ := lead_bounds first (by omega) high
  have long : ¬first < 0xE0 := fun short => by
    have less : first.toNat < 224 := UInt8.lt_iff_toNat_lt.mp short
    omega
  have longer : ¬first < 0xF0 := fun short => by
    have less : first.toNat < 240 := UInt8.lt_iff_toNat_lt.mp short
    omega
  unfold decodeOne
  rw [if_neg plain, if_neg bounded]
  dsimp only
  rw [valid, tail, last, if_neg (by decide), if_neg long, if_neg (by decide), if_neg longer,
    if_neg (by decide)]

theorem toNat_ofNat_byte (value : Nat) (small : value < 256) :
    (UInt8.ofNat value).toNat = value := by
  rw [UInt8.toNat_ofNat']
  exact Nat.mod_eq_of_lt small

theorem toNat_ofNat_char : ∀ value < 256, (Char.ofNat value).toNat = value := by
  decide +kernel

section Lengths

variable (value : Nat) (rest : List UInt8)

/-- The two bytes of a character are read as the character. -/
theorem decodeOne_of_two (low : 127 < value) (high : value ≤ 2047) :
    decodeOne (UInt8.ofNat (value / 64 % 32 + 192)) (UInt8.ofNat (value % 64 + 128) :: rest) =
      (Char.ofNat value, 1) := by
  have lead := toNat_ofNat_byte (value / 64 % 32 + 192) (by omega)
  have last := toNat_ofNat_byte (value % 64 + 128) (by omega)
  rw [decodeOne_two _ _ _ (by omega) (by omega) ((isSecond_iff _ _).mpr (by omega)), lead]
  unfold joinBytes
  simp only [List.foldl_cons, List.foldl_nil, last]
  exact congrArg (fun code => (Char.ofNat code, 1)) (by omega)

/-- The three bytes of a character are read as the character. -/
theorem decodeOne_of_three (low : 2047 < value) (high : value ≤ 65535)
    (scalar : value < 55296 ∨ 57343 < value) :
    decodeOne (UInt8.ofNat (value / 4096 % 16 + 224))
        (UInt8.ofNat (value / 64 % 64 + 128) :: UInt8.ofNat (value % 64 + 128) :: rest) =
      (Char.ofNat value, 2) := by
  have lead := toNat_ofNat_byte (value / 4096 % 16 + 224) (by omega)
  have second := toNat_ofNat_byte (value / 64 % 64 + 128) (by omega)
  have third := toNat_ofNat_byte (value % 64 + 128) (by omega)
  rw [decodeOne_three _ _ _ _ (by omega) (by omega) ((isSecond_iff _ _).mpr (by omega))
    ((isContinuation_iff _).mpr (by omega)), lead]
  unfold joinBytes
  simp only [List.foldl_cons, List.foldl_nil, second, third]
  exact congrArg (fun code => (Char.ofNat code, 2)) (by omega)

/-- The four bytes of a character are read as the character. -/
theorem decodeOne_of_four (low : 65535 < value) (high : value < 1114112) :
    decodeOne (UInt8.ofNat (value / 262144 % 8 + 240))
        (UInt8.ofNat (value / 4096 % 64 + 128) :: UInt8.ofNat (value / 64 % 64 + 128) ::
          UInt8.ofNat (value % 64 + 128) :: rest) =
      (Char.ofNat value, 3) := by
  have lead := toNat_ofNat_byte (value / 262144 % 8 + 240) (by omega)
  have second := toNat_ofNat_byte (value / 4096 % 64 + 128) (by omega)
  have third := toNat_ofNat_byte (value / 64 % 64 + 128) (by omega)
  have fourth := toNat_ofNat_byte (value % 64 + 128) (by omega)
  rw [decodeOne_four _ _ _ _ _ (by omega) (by omega) ((isSecond_iff _ _).mpr (by omega))
    ((isContinuation_iff _).mpr (by omega)) ((isContinuation_iff _).mpr (by omega)), lead]
  unfold joinBytes
  simp only [List.foldl_cons, List.foldl_nil, second, third, fourth]
  exact congrArg (fun code => (Char.ofNat code, 3)) (by omega)

end Lengths

/-- The bytes of a character decode to the character. -/
theorem decodeOne_utf8 (symbol : Char) : ∃ first tail,
    String.utf8EncodeChar symbol = first :: tail ∧
      ∀ rest, decodeOne first (tail ++ rest) = (symbol, tail.length) := by
  have code : Char.ofNat symbol.val.toNat = symbol := Char.ofNat_toNat symbol
  have valid : symbol.val.toNat < 55296 ∨ 57343 < symbol.val.toNat ∧ symbol.val.toNat < 1114112 :=
    symbol.valid
  unfold String.utf8EncodeChar
  dsimp only
  generalize symbol.val.toNat = value at code valid
  rw [← code]
  split
  · refine ⟨_, _, rfl, fun rest => ?_⟩
    have own := toNat_ofNat_byte value (by omega)
    rw [List.nil_append, decodeOne_ascii _ _ (by omega), own]
    rfl
  split
  · exact ⟨_, _, rfl, fun rest => decodeOne_of_two value rest (by omega) (by omega)⟩
  split
  · exact ⟨_, _, rfl, fun rest =>
      decodeOne_of_three value rest (by omega) (by omega) (by omega)⟩
  · exact ⟨_, _, rfl, fun rest => decodeOne_of_four value rest (by omega) (by omega)⟩

/-- Bytes that belong to a decoded character are passed over. -/
theorem decodeFrom_append (tail rest : List UInt8) :
    decodeFrom tail.length (tail ++ rest) = decodeFrom 0 rest := by
  induction tail with
  | nil => rfl
  | cons byte tail ih => exact ih

/-- The bytes of a text decode to the text. -/
theorem decodeFrom_utf8 (text : Text) :
    decodeFrom 0 (text.flatMap String.utf8EncodeChar) = text := by
  induction text with
  | nil => rfl
  | cons symbol rest ih =>
      obtain ⟨first, tail, bytes, decoded⟩ := decodeOne_utf8 symbol
      rw [List.flatMap_cons, bytes, List.cons_append, decodeFrom, decoded, decodeFrom_append, ih]

/-- A character that is no percent sign stands for its own byte. -/
theorem unquoteToBytes_plain (symbol : Char) (rest : Text) (plain : symbol ≠ '%') :
    unquoteToBytes (symbol :: rest) = symbol.toNat.toUInt8 :: unquoteToBytes rest := by
  match rest with
  | [] => rfl
  | [next] => rfl
  | high :: low :: rest =>
      rw [unquoteToBytes, if_neg]
      simp [plain]

/-- An ASCII text without escapes is its own decoding. -/
theorem decodeFrom_plain (text : Text) (ascii : text.all isAscii = true)
    (plain : '%' ∉ text) : decodeFrom 0 (unquoteToBytes text) = text := by
  induction text with
  | nil => rfl
  | cons symbol rest ih =>
      rw [List.all_cons, Bool.and_eq_true] at ascii
      rw [List.mem_cons, not_or] at plain
      have small : symbol.toNat < 128 := of_decide_eq_true ascii.1
      have byte : symbol.toNat.toUInt8.toNat = symbol.toNat :=
        toNat_ofNat_byte symbol.toNat (by omega)
      rw [unquoteToBytes_plain symbol rest (Ne.symm plain.1), decodeFrom,
        decodeOne_ascii _ _ (by omega), byte, Char.ofNat_toNat, ih ascii.2 plain.2]

/-- A text of ASCII characters is decoded as a whole. -/
theorem unquote_ascii (text : Text) (ascii : text.all isAscii = true) :
    unquote text = decodeFrom 0 (unquoteToBytes text) := by
  unfold unquote
  split
  · rename_i escaped
    have present : text ≠ [] := by
      rintro rfl
      cases escaped
    have whole : text.splitBy (fun first second => isAscii first == isAscii second) = [text] := by
      apply List.splitBy_of_isChain present
      rw [List.isChain_iff_getElem]
      intro index bound
      have first := List.all_eq_true.mp ascii _ (List.getElem_mem (by omega : index < text.length))
      have second := List.all_eq_true.mp ascii _ (List.getElem_mem bound)
      rw [first, second]
      rfl
    rw [whole, List.flatMap_singleton, if_pos ascii]
  · rename_i plain
    exact (decodeFrom_plain text ascii (by simpa using plain)).symm

end Decoding

section Encoding

/-- This is the code of one byte inside a query string. -/
def plusByte (byte : UInt8) : Text := if byte = 0x20 then ['+'] else quoteByte byte

theorem isAscii_of_isAlphanum (symbol : Char) (plain : symbol.isAlphanum = true) :
    isAscii symbol = true := by
  rw [Library.isAlphanum_iff] at plain
  have bound : symbol.toNat < 128 := by
    omega
  exact decide_eq_true bound

/-- A quoted byte is written in ASCII and without the signs that a query string reads. -/
theorem quoteByte_signs (byte : UInt8) :
    ∀ symbol ∈ quoteByte byte, isAscii symbol = true ∧ symbol ∉ [' ', '+', '&', '='] := by
  have digits : ∀ value < 16, isAscii (upperHexDigit value) = true ∧
      upperHexDigit value ∉ [' ', '+', '&', '='] := by
    decide
  have bound : byte.toNat < 256 := UInt8.toNat_lt_size byte
  intro symbol member
  unfold quoteByte at member
  dsimp only at member
  split at member
  · rename_i plain
    rw [← List.mem_singleton.mp member] at plain
    constructor
    · simp only [Bool.or_eq_true, beq_iff_eq] at plain
      rcases plain with (((alphanum | same) | same) | same) | same
      · exact isAscii_of_isAlphanum symbol alphanum
      all_goals rw [same]; decide
    · intro sign
      simp only [List.mem_cons, List.not_mem_nil, or_false] at sign
      rcases sign with rfl | rfl | rfl | rfl <;> revert plain <;> decide
  · simp only [List.mem_cons, List.not_mem_nil, or_false] at member
    rcases member with percent | high | low
    · rw [percent]
      decide
    · rw [high]
      exact digits _ (by omega)
    · rw [low]
      exact digits _ (by omega)

/-- A quoted byte has none of the signs of a query. -/
theorem plusByte_signs (byte : UInt8) :
    ∀ symbol ∈ plusByte byte, isAscii symbol = true ∧ symbol ∉ [' ', '&', '='] := by
  intro symbol member
  unfold plusByte at member
  split at member
  · rw [List.mem_singleton.mp member]
    decide
  · obtain ⟨ascii, free⟩ := quoteByte_signs byte symbol member
    refine ⟨ascii, fun sign => free ?_⟩
    rcases List.mem_cons.mp sign with same | later
    · exact same ▸ List.mem_cons_self
    · exact List.mem_cons_of_mem _ (List.mem_cons_of_mem _ later)

/-- Only a space has the byte of a space. -/
theorem space_of_byte (symbol : Char) (space : (0x20 : UInt8) ∈ String.utf8EncodeChar symbol) :
    symbol = ' ' := by
  have code : Char.ofNat symbol.val.toNat = symbol := Char.ofNat_toNat symbol
  have other : ∀ value, 32 < value → value < 256 → (0x20 : UInt8) ≠ UInt8.ofNat value := by
    intro value large small same
    have number := toNat_ofNat_byte value small
    rw [← same] at number
    change 32 = value at number
    omega
  unfold String.utf8EncodeChar at space
  dsimp only at space
  generalize symbol.val.toNat = value at code space
  split at space
  · have number := toNat_ofNat_byte value (by omega)
    rw [← List.mem_singleton.mp space] at number
    rw [← code, ← number]
    rfl
  split at space
  · simp only [List.mem_cons, List.not_mem_nil, or_false] at space
    rcases space with lead | last
    · exact absurd lead (other _ (by omega) (by omega))
    · exact absurd last (other _ (by omega) (by omega))
  split at space
  · simp only [List.mem_cons, List.not_mem_nil, or_false] at space
    rcases space with lead | second | last
    · exact absurd lead (other _ (by omega) (by omega))
    · exact absurd second (other _ (by omega) (by omega))
    · exact absurd last (other _ (by omega) (by omega))
  · simp only [List.mem_cons, List.not_mem_nil, or_false] at space
    rcases space with lead | second | third | last
    · exact absurd lead (other _ (by omega) (by omega))
    · exact absurd second (other _ (by omega) (by omega))
    · exact absurd third (other _ (by omega) (by omega))
    · exact absurd last (other _ (by omega) (by omega))

/-- The map of a plus sign for every space leaves a quoted byte alone. -/
theorem quoteByte_map (byte : UInt8) :
    (quoteByte byte).map (fun symbol => if symbol = ' ' then '+' else symbol) = quoteByte byte := by
  refine (List.map_congr_left fun symbol member => ?_).trans (List.map_id _)
  have free := (quoteByte_signs byte symbol member).2
  rw [id, if_neg]
  rintro rfl
  exact free List.mem_cons_self

/-- A quoted text writes its bytes one by one. -/
theorem quotePlus_eq (text : Text) :
    quotePlus text = (text.flatMap String.utf8EncodeChar).flatMap plusByte := by
  rw [List.flatMap_assoc]
  unfold quotePlus
  split
  · rw [quoteSpaced, List.map_flatMap]
    apply List.flatMap_congr
    intro symbol _
    rw [List.map_flatMap]
    apply List.flatMap_congr
    intro byte _
    unfold plusByte
    split
    · rfl
    · exact quoteByte_map byte
  · rename_i spaceless
    rw [quote]
    apply List.flatMap_congr
    intro symbol member
    apply List.flatMap_congr
    intro byte inside
    rw [plusByte, if_neg]
    rintro rfl
    have space := space_of_byte symbol inside
    rw [space] at member
    exact spaceless (List.contains_iff_mem.mpr member)

/-- An encoded byte reads back as the byte. -/
theorem unquoteToBytes_quoteByte (byte : UInt8) (rest : Text) :
    unquoteToBytes (quoteByte byte ++ rest) = byte :: unquoteToBytes rest := by
  have digits : ∀ value < 16, isHexDigit (upperHexDigit value) = true ∧
      hexValue (upperHexDigit value) = value := by
    decide
  have small : byte.toNat < 256 := UInt8.toNat_lt_size byte
  unfold quoteByte
  dsimp only
  split
  · rename_i plain
    have sign : Char.ofNat byte.toNat ≠ '%' := by
      intro same
      rw [same] at plain
      revert plain
      decide
    have number : (Char.ofNat byte.toNat).toNat.toUInt8 = byte := by
      rw [toNat_ofNat_char byte.toNat small]
      exact UInt8.ofNat_toNat
    rw [List.cons_append, List.nil_append, unquoteToBytes_plain _ _ sign, number]
  · obtain ⟨high, highValue⟩ := digits (byte.toNat / 16) (by omega)
    obtain ⟨low, lowValue⟩ := digits (byte.toNat % 16) (by omega)
    have number : (16 * (byte.toNat / 16) + byte.toNat % 16).toUInt8 = byte := by
      rw [Nat.div_add_mod]
      exact UInt8.ofNat_toNat
    rw [List.cons_append, List.cons_append, List.cons_append, List.nil_append, unquoteToBytes,
      high, low, if_pos (by decide), highValue, lowValue, number]

/-- A quoted byte is unquoted to the byte. -/
theorem unquoteToBytes_plusByte (byte : UInt8) (rest : Text) :
    unquoteToBytes ((plusByte byte).map (fun symbol => if symbol = '+' then ' ' else symbol) ++
      rest) = byte :: unquoteToBytes rest := by
  unfold plusByte
  split
  · rename_i space
    rw [space]
    exact unquoteToBytes_plain ' ' rest (by decide)
  · have same : (quoteByte byte).map (fun symbol => if symbol = '+' then ' ' else symbol) =
        quoteByte byte := by
      refine (List.map_congr_left fun symbol member => ?_).trans (List.map_id _)
      have free := (quoteByte_signs byte symbol member).2
      rw [id, if_neg]
      rintro rfl
      exact free (List.mem_cons_of_mem _ List.mem_cons_self)
    rw [same, unquoteToBytes_quoteByte]

/-- A quoted text is written in ASCII and without the signs that end a name or a field. -/
theorem quotePlus_signs (text : Text) :
    ∀ symbol ∈ quotePlus text, isAscii symbol = true ∧ symbol ∉ [' ', '&', '='] := by
  intro symbol member
  rw [quotePlus_eq, List.mem_flatMap] at member
  obtain ⟨byte, _, inside⟩ := member
  exact plusByte_signs byte symbol inside

/-- A text is read back from its encoding. -/
theorem unquotePlus_quotePlus (text : Text) : unquotePlus (quotePlus text) = text := by
  have ascii : ((quotePlus text).map fun symbol => if symbol = '+' then ' ' else symbol).all
      isAscii = true := by
    rw [List.all_map, List.all_eq_true]
    intro symbol member
    show isAscii (if symbol = '+' then ' ' else symbol) = true
    split
    · decide
    · exact (quotePlus_signs text symbol member).1
  have bytes : ∀ bytes : List UInt8, unquoteToBytes ((bytes.flatMap plusByte).map fun symbol =>
      if symbol = '+' then ' ' else symbol) = bytes := by
    intro bytes
    induction bytes with
    | nil => rfl
    | cons byte rest ih =>
        rw [List.flatMap_cons, List.map_append, unquoteToBytes_plusByte, ih]
  rw [unquotePlus, unquote_ascii _ ascii, quotePlus_eq, bytes, decodeFrom_utf8]

/-- A field is read back from its name and its value. -/
theorem parseField_encoded (pair : Text × Text) :
    parseField (quotePlus pair.1 ++ '=' :: quotePlus pair.2) = pair := by
  have free : ∀ symbol ∈ quotePlus pair.1, (symbol == '=') = false := by
    intro symbol member
    have sign := (quotePlus_signs pair.1 symbol member).2
    rw [beq_eq_false_iff_ne]
    rintro rfl
    exact sign (by decide)
  unfold parseField afterFirst
  rw [before_append _ _ _ free, fromFirst_append _ _ _ free]
  show (unquotePlus (quotePlus pair.1 ++ []), unquotePlus (quotePlus pair.2)) = pair
  rw [List.append_nil, unquotePlus_quotePlus, unquotePlus_quotePlus]

/-- Parameters are read back from their query string. -/
theorem parseQsl_urlencode (query : List (Text × Text)) : parseQsl (urlencode query) = query := by
  cases query with
  | nil => rfl
  | cons pair rest =>
      have separate : ∀ field ∈ (pair :: rest).map (fun pair : Text × Text =>
          quotePlus pair.1 ++ '=' :: quotePlus pair.2), '&' ∉ field := by
        intro field member
        obtain ⟨pair, _, same⟩ := List.mem_map.mp member
        rw [← same, List.mem_append, List.mem_cons, not_or, not_or]
        exact ⟨fun inside => (quotePlus_signs pair.1 _ inside).2 (by decide), by decide,
          fun inside => (quotePlus_signs pair.2 _ inside).2 (by decide)⟩
      have fields : ((pair :: rest).map fun pair : Text × Text =>
          quotePlus pair.1 ++ '=' :: quotePlus pair.2).filter (fun field => field ≠ []) =
            (pair :: rest).map fun pair => quotePlus pair.1 ++ '=' :: quotePlus pair.2 := by
        rw [List.filter_eq_self]
        intro field member
        obtain ⟨pair, _, same⟩ := List.mem_map.mp member
        rw [← same]
        simp
      rw [parseQsl, urlencode, List.splitOn_intercalate '&' separate (by simp), fields,
        List.map_map]
      exact List.map_id'' parseField_encoded _

/-- A query string is written in ASCII. -/
theorem urlencode_ascii (query : List (Text × Text)) : (urlencode query).all isAscii = true := by
  have fields : ∀ pair : Text × Text,
      (quotePlus pair.1 ++ '=' :: quotePlus pair.2).all isAscii = true := by
    intro pair
    rw [List.all_append, List.all_cons, Bool.and_eq_true, Bool.and_eq_true]
    exact ⟨List.all_eq_true.mpr fun symbol member => (quotePlus_signs pair.1 symbol member).1,
      by decide, List.all_eq_true.mpr fun symbol member => (quotePlus_signs pair.2 symbol member).1⟩
  unfold urlencode
  induction query with
  | nil => rfl
  | cons pair rest ih =>
      cases rest with
      | nil =>
          rw [List.map_singleton, List.intercalate_singleton]
          exact fields pair
      | cons next rest =>
          rw [List.map_cons] at ih
          rw [List.map_cons, List.map_cons, List.intercalate_cons_cons, List.all_append,
            List.all_append, fields, ih]
          decide

end Encoding

end OperationsConsole.Redaction
