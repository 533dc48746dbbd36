/-
This file embeds the JSON reader and writer of the language. The writer escapes every symbol outside
printable ASCII. The reader joins two escaped surrogates to one symbol, and it keeps the last value of
a repeated key.
-/

import Mathlib.Algebra.Order.Group.Nat
import OperationsConsole.Library.Dict
import OperationsConsole.Library.Json

namespace Library.JsonText

/-- The type of the floats is a parameter. A dictionary lists its items in order. -/
inductive Value (φ : Type) where
  | null
  | bool (value : Bool)
  | int (value : ℤ)
  | float (value : φ)
  | text (value : PyText)
  | list (items : List (Value φ))
  | dict (items : List (PyText × Value φ))

section Strings

def lowerHexDigit (value : ℕ) : Char :=
  if value < 10 then Char.ofNat ('0'.toNat + value) else Char.ofNat ('a'.toNat + value - 10)

/-- An escaped code unit has four digits. -/
def escape (code : ℕ) : List Char :=
  ['\\', 'u', lowerHexDigit (code / 4096), lowerHexDigit (code / 256 % 16),
    lowerHexDigit (code / 16 % 16), lowerHexDigit (code % 16)]

/-- These symbols have short escapes. -/
def shortEscapes : List (Char × Char) :=
  [('"', '"'), ('\\', '\\'), ('\n', 'n'), ('\r', 'r'), ('\t', 't'), ('\x0c', 'f'), ('\x08', 'b')]

def isPrintable (char : Char) : Bool := ' ' ≤ char && char ≤ '~'

def highUnit (char : Char) : ℕ := 0xd800 + (char.toNat - 0x10000) / 1024

def lowUnit (char : Char) : ℕ := 0xdc00 + (char.toNat - 0x10000) % 1024

def writeSymbol : Symbol → List Char
  | .scalar char =>
      match shortEscapes.lookup char with
      | some name => ['\\', name]
      | none =>
          if isPrintable char then [char]
          else if char.toNat < 0x10000 then escape char.toNat
          else escape (highUnit char) ++ escape (lowUnit char)
  | .surrogate unit => escape (0xd800 + unit)

def writeText (text : PyText) : List Char := '"' :: (text.flatMap writeSymbol ++ ['"'])

def hexDigitValue (char : Char) : Option ℕ :=
  if '0' ≤ char ∧ char ≤ '9' then some (char.toNat - '0'.toNat)
  else if 'a' ≤ char ∧ char ≤ 'f' then some (char.toNat - 'a'.toNat + 10)
  else if 'A' ≤ char ∧ char ≤ 'F' then some (char.toNat - 'A'.toNat + 10)
  else none

def readUnit (first second third fourth : Char) : Option ℕ := do
  let first ← hexDigitValue first
  let second ← hexDigitValue second
  let third ← hexDigitValue third
  let fourth ← hexDigitValue fourth
  some (first * 4096 + second * 256 + third * 16 + fourth)

/-- The reader accepts one more short escape than the writer uses. -/
def unescape (name : Char) : Option Char :=
  [('"', '"'), ('\\', '\\'), ('/', '/'), ('b', '\x08'), ('f', '\x0c'), ('n', '\n'), ('r', '\r'),
    ('t', '\t')].lookup name

/-- A string has symbols and escaped code units. -/
inductive Piece where
  | symbol (value : Symbol)
  | unit (code : ℕ)

/-- A string ends at its closing quote, and there is no control character in it. -/
def readPieces : PyText → Option (List Piece × PyText)
  | [] => none
  | .scalar '"' :: rest => some ([], rest)
  | .scalar '\\' :: .scalar 'u' :: .scalar first :: .scalar second :: .scalar third ::
      .scalar fourth :: rest =>
      match readUnit first second third fourth, readPieces rest with
      | some code, some (pieces, rest) => some (.unit code :: pieces, rest)
      | _, _ => none
  | .scalar '\\' :: .scalar name :: rest =>
      match unescape name, readPieces rest with
      | some char, some (pieces, rest) => some (.symbol (.scalar char) :: pieces, rest)
      | _, _ => none
  | .scalar char :: rest =>
      if char = '\\' ∨ char < ' ' then none
      else match readPieces rest with
        | some (pieces, rest) => some (.symbol (.scalar char) :: pieces, rest)
        | none => none
  | .surrogate unit :: rest =>
      match readPieces rest with
      | some (pieces, rest) => some (.symbol (.surrogate unit) :: pieces, rest)
      | none => none

def isHigh (code : ℕ) : Bool := 0xd800 ≤ code && code < 0xdc00

def isLow (code : ℕ) : Bool := 0xdc00 ≤ code && code < 0xe000

/-- The symbol of one code unit. -/
def unitSymbol (code : ℕ) : Symbol :=
  if surrogate : 0xd800 ≤ code ∧ code < 0xe000 then .surrogate ⟨code - 0xd800, by omega⟩
  else .scalar (Char.ofNat code)

def pairSymbol (high low : ℕ) : Symbol :=
  .scalar (Char.ofNat (0x10000 + (high - 0xd800) * 1024 + (low - 0xdc00)))

/-- A low unit right after a high one belongs to the same symbol. -/
def joinPieces : List Piece → PyText
  | [] => []
  | .symbol value :: rest => value :: joinPieces rest
  | .unit high :: .unit low :: rest =>
      if isHigh high && isLow low then pairSymbol high low :: joinPieces rest
      else unitSymbol high :: joinPieces (.unit low :: rest)
  | .unit code :: rest => unitSymbol code :: joinPieces rest

/-- The opening quote is read before. -/
def readText (text : PyText) : Option (PyText × PyText) :=
  (readPieces text).map fun read => (joinPieces read.1, read.2)

end Strings

section Numbers

def isDigitSymbol : Symbol → Bool
  | .scalar char => char.isDigit
  | .surrogate _ => false

/-- A part of a number and the text after it. -/
def digitsOf (text : PyText) : PyText × PyText :=
  (text.takeWhile isDigitSymbol, text.dropWhile isDigitSymbol)

def signOf : PyText → PyText × PyText
  | .scalar '-' :: rest => ([.scalar '-'], rest)
  | text => ([], text)

/-- No digit follows a leading zero. -/
def wholeOf : PyText → PyText × PyText
  | .scalar '0' :: rest => ([.scalar '0'], rest)
  | text => digitsOf text

def fractionOf : PyText → PyText × PyText
  | .scalar '.' :: rest =>
      if (digitsOf rest).1 = [] then ([], .scalar '.' :: rest)
      else (.scalar '.' :: (digitsOf rest).1, (digitsOf rest).2)
  | text => ([], text)

def exponentSignOf : PyText → PyText × PyText
  | .scalar '+' :: rest => ([.scalar '+'], rest)
  | text => signOf text

def exponentOf : PyText → PyText × PyText
  | .scalar mark :: rest =>
      let sign := exponentSignOf rest
      if (mark = 'e' ∨ mark = 'E') ∧ (digitsOf sign.2).1 ≠ [] then
        (.scalar mark :: (sign.1 ++ (digitsOf sign.2).1), (digitsOf sign.2).2)
      else ([], .scalar mark :: rest)
  | text => ([], text)

/-- The parts of a number, without its sign first. -/
structure Numeral where
  sign : PyText
  whole : PyText
  fraction : PyText
  exponent : PyText

def Numeral.text (numeral : Numeral) : PyText :=
  numeral.sign ++ (numeral.whole ++ (numeral.fraction ++ numeral.exponent))

def readNumeral (text : PyText) : Numeral × PyText :=
  let sign := signOf text
  let whole := wholeOf sign.2
  let fraction := fractionOf whole.2
  let exponent := exponentOf fraction.2
  (⟨sign.1, whole.1, fraction.1, exponent.1⟩, exponent.2)

def Symbol.char? : Symbol → Option Char
  | .scalar char => some char
  | .surrogate _ => none

def charsOf (text : PyText) : List Char := text.filterMap Symbol.char?

/-- A number without a fraction and an exponent is an integer. -/
def Numeral.int (numeral : Numeral) : ℤ :=
  let value : ℤ := Nat.ofDigitChars 10 (charsOf numeral.whole) 0
  if numeral.sign = [] then value else -value

/-- The language converts no decimal text with more digits. -/
def maxDigits : ℕ := 4300

def writeInt (value : ℤ) : List Char :=
  if value < 0 then '-' :: Nat.toDigits 10 value.natAbs else Nat.toDigits 10 value.natAbs

/-- These floats have names. -/
inductive Special where
  | nan
  | infinity (negative : Bool)
  deriving DecidableEq

def Special.name : Special → List Char
  | nan => "NaN".toList
  | infinity false => "Infinity".toList
  | infinity true => "-Infinity".toList

/-- The digits of a part, which are some. -/
def IsDigits (text : List Char) : Prop := text ≠ [] ∧ ∀ char ∈ text, char.isDigit = true

/-- The parts of a number fit the grammar. -/
structure IsNumeral (sign whole fraction exponent : List Char) : Prop where
  sign : sign = [] ∨ sign = ['-']
  whole : whole = ['0'] ∨ IsDigits whole ∧ whole.head? ≠ some '0'
  fraction : fraction = [] ∨ ∃ digits, IsDigits digits ∧ fraction = '.' :: digits
  exponent : exponent = [] ∨ ∃ mark sign digits, (mark = 'e' ∨ mark = 'E') ∧
    (sign = [] ∨ sign = ['+'] ∨ sign = ['-']) ∧ IsDigits digits ∧ exponent = mark :: (sign ++ digits)

/-- A text of a float has a fraction or an exponent. -/
def IsFloatText (text : List Char) : Prop :=
  ∃ sign whole fraction exponent, text = sign ++ (whole ++ (fraction ++ exponent)) ∧
    IsNumeral sign whole fraction exponent ∧ (fraction ≠ [] ∨ exponent ≠ [])

/-- The language writes a float so that the reader gives it back. -/
structure FloatFormat (φ : Type) where
  special : φ → Option Special
  named : Special → φ
  repr : φ → List Char
  float : List Char → φ
  named_special : ∀ value kind, special value = some kind → named kind = value
  repr_float : ∀ value, special value = none → IsFloatText (repr value) ∧ float (repr value) = value

end Numbers

section Values

variable {φ : Type} (format : FloatFormat φ)

def writeFloat (value : φ) : List Char :=
  match format.special value with
  | some kind => kind.name
  | none => format.repr value

mutual

/-- The separators have no blanks. -/
def dumps : Value φ → List Char
  | .null => "null".toList
  | .bool true => "true".toList
  | .bool false => "false".toList
  | .int value => writeInt value
  | .float value => writeFloat format value
  | .text value => writeText value
  | .list items => '[' :: ([','].intercalate (dumpsItems items) ++ [']'])
  | .dict items => '\x7b' :: ([','].intercalate (dumpsMembers items) ++ ['\x7d'])

def dumpsItems : List (Value φ) → List (List Char)
  | [] => []
  | item :: rest => dumps item :: dumpsItems rest

def dumpsMembers : List (PyText × Value φ) → List (List Char)
  | [] => []
  | member :: rest => dumpsMember member :: dumpsMembers rest

def dumpsMember : PyText × Value φ → List Char
  | (key, value) => writeText key ++ ':' :: dumps value

end

theorem dumpsItems_eq_map (items : List (Value φ)) :
    dumpsItems format items = items.map (dumps format) := by
  induction items with
  | nil => rfl
  | cons item rest ih => rw [dumpsItems, ih, List.map_cons]

theorem dumpsMembers_eq_map (members : List (PyText × Value φ)) :
    dumpsMembers format members = members.map (dumpsMember format) := by
  induction members with
  | nil => rfl
  | cons member rest ih => rw [dumpsMembers, ih, List.map_cons]

def isBlank (symbol : Symbol) : Bool :=
  symbol = .scalar ' ' || symbol = .scalar '\t' || symbol = .scalar '\n' || symbol = .scalar '\r'

def skip (text : PyText) : PyText := text.dropWhile isBlank

/-- The constants of the reader. -/
def constants : List (List Char × Value φ) :=
  [("null".toList, .null), ("true".toList, .bool true), ("false".toList, .bool false)] ++
    ([.nan, .infinity false, .infinity true] : List Special).map fun kind =>
      (kind.name, .float (format.named kind))

def readConstant (text : PyText) : Option (Value φ × PyText) :=
  (constants format).findSome? fun constant =>
    let name := constant.1.map Symbol.scalar
    if name.isPrefixOf text then some (constant.2, text.drop name.length) else none

def readNumber (text : PyText) : Except Raised (Value φ × PyText) :=
  let read := readNumeral text
  if read.1.whole = [] then .error .jsonDecodeError
  else if read.1.fraction = [] ∧ read.1.exponent = [] then
    if maxDigits < read.1.whole.length then .error .valueError
    else .ok (.int read.1.int, read.2)
  else .ok (.float (format.float (charsOf read.1.text)), read.2)

section Separated

variable {α : Type} (closing : Char) (scan : PyText → Except Raised (α × PyText))

-- Every item takes a symbol, so the count of the symbols suffices.
def readSeparated : ℕ → PyText → Except Raised (List α × PyText)
  | 0, _ => .error .jsonDecodeError
  | count + 1, text => do
      let (item, rest) ← scan text
      match skip rest with
      | .scalar sign :: rest =>
          if sign = closing then .ok ([item], rest)
          else if sign = ',' then do
            let (items, rest) ← readSeparated count (skip rest)
            .ok (item :: items, rest)
          else .error .jsonDecodeError
      | _ => .error .jsonDecodeError

/-- The opening sign is read before. -/
def readItems (text : PyText) : Except Raised (List α × PyText) :=
  let text := skip text
  if text.head? = some (.scalar closing) then .ok ([], text.tail)
  else readSeparated closing scan text.length text

end Separated

section Containers

variable (scan : PyText → Except Raised (Value φ × PyText))

def readKey : PyText → Except Raised (PyText × PyText)
  | .scalar '"' :: rest =>
      match readText rest with
      | some (key, rest) =>
          match skip rest with
          | .scalar ':' :: rest => .ok (key, skip rest)
          | _ => .error .jsonDecodeError
      | none => .error .jsonDecodeError
  | _ => .error .jsonDecodeError

def readMember (text : PyText) : Except Raised ((PyText × Value φ) × PyText) := do
  let (key, rest) ← readKey text
  let (value, rest) ← scan rest
  .ok ((key, value), rest)

/-- A later member of a key replaces its value. -/
def dictOf (members : List (PyText × Value φ)) : List (PyText × Value φ) :=
  members.foldl (fun items member => assignItem member.1 member.2 items) []

def readList (text : PyText) : Except Raised (Value φ × PyText) := do
  let (items, rest) ← readItems ']' scan text
  .ok (.list items, rest)

def readDict (text : PyText) : Except Raised (Value φ × PyText) := do
  let (members, rest) ← readItems '\x7d' (readMember scan) text
  .ok (.dict (dictOf members), rest)

variable (nested : Option (PyText → Except Raised (Value φ × PyText)))

/-- Without a nested scan there is no room for a container. -/
def readNested
    (read : (PyText → Except Raised (Value φ × PyText)) → PyText → Except Raised (Value φ × PyText))
    (text : PyText) : Except Raised (Value φ × PyText) :=
  match nested with
  | some scan => read scan text
  | none => .error .recursionError

def readValue : PyText → Except Raised (Value φ × PyText)
  | .scalar '"' :: rest =>
      match readText rest with
      | some (text, rest) => .ok (.text text, rest)
      | none => .error .jsonDecodeError
  | .scalar '\x7b' :: rest => readNested nested readDict rest
  | .scalar '[' :: rest => readNested nested readList rest
  | text =>
      match readConstant format text with
      | some read => .ok read
      | none => readNumber format text

end Containers

/-- Containers nest no deeper than the limit of the interpreter. -/
def scanOnce : ℕ → PyText → Except Raised (Value φ × PyText)
  | 0 => readValue format none
  | limit + 1 => readValue format (some (scanOnce limit))

/-- Only blanks surround the value. -/
def loads (limit : ℕ) (text : PyText) : Except Raised (Value φ) := do
  let (value, rest) ← scanOnce format limit (skip text)
  if skip rest = [] then .ok value else .error .jsonDecodeError

end Values

end Library.JsonText
