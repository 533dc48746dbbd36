/-
This file embeds `quote` and `unquote` of the language's library on lists of characters.
Bytes that are no valid UTF-8 decode to the replacement character.
-/

import Mathlib.Data.List.SplitBy
import OperationsConsole.Redaction.UrlSplit

namespace OperationsConsole.Redaction

open Library

def upperHexDigit (value : Nat) : Char :=
  if value < 10 then Char.ofNat (48 + value) else Char.ofNat (55 + value)

/-- Letters, digits, and four signs stand for themselves. -/
def quoteByte (byte : UInt8) : Text :=
  let symbol := Char.ofNat byte.toNat
  if symbol.isAlphanum || symbol == '_' || symbol == '.' || symbol == '-' || symbol == '~' then
    [symbol]
  else ['%', upperHexDigit (byte.toNat / 16), upperHexDigit (byte.toNat % 16)]

/-- This is `quote` without safe characters. -/
def quote (text : Text) : Text :=
  text.flatMap fun symbol => (String.utf8EncodeChar symbol).flatMap quoteByte

def hexValue (symbol : Char) : Nat :=
  if symbol.isDigit then symbol.toNat - 48
  else if 'a' ≤ symbol then symbol.toNat - 87
  else symbol.toNat - 55

/-- An escape is a percent sign with two hexadecimal digits. -/
def unquoteToBytes : Text → List UInt8
  | [] => []
  | [symbol] => [symbol.toNat.toUInt8]
  | [symbol, next] => [symbol.toNat.toUInt8, next.toNat.toUInt8]
  | symbol :: high :: low :: rest =>
      if symbol == '%' && isHexDigit high && isHexDigit low then
        (16 * hexValue high + hexValue low).toUInt8 :: unquoteToBytes rest
      else symbol.toNat.toUInt8 :: unquoteToBytes (high :: low :: rest)

def replacement : Char := Char.ofNat 0xFFFD

def isContinuation (byte : UInt8) : Bool := 0x80 ≤ byte && byte ≤ 0xBF

/-- The second byte of a sequence is bounded by the first one. -/
def isSecond (first second : UInt8) : Bool :=
  isContinuation second &&
    !(first == 0xE0 && second < 0xA0) && !(first == 0xED && 0x9F < second) &&
      !(first == 0xF0 && second < 0x90) && !(first == 0xF4 && 0x8F < second)

def joinBytes (lead : Nat) (tail : List UInt8) : Char :=
  Char.ofNat (tail.foldl (fun code byte => 64 * code + (byte.toNat - 0x80)) lead)

/-- A character and the number of bytes that it takes after its first one. -/
def decodeOne (first : UInt8) (rest : List UInt8) : Char × Nat :=
  if first < 0x80 then (Char.ofNat first.toNat, 0)
  else if first < 0xC2 || 0xF4 < first then (replacement, 0)
  else
    match rest with
    | [] => (replacement, 0)
    | second :: rest =>
        if !isSecond first second then (replacement, 0)
        else if first < 0xE0 then (joinBytes (first.toNat - 0xC0) [second], 1)
        else
          match rest with
          | [] => (replacement, 1)
          | third :: rest =>
              if !isContinuation third then (replacement, 1)
              else if first < 0xF0 then (joinBytes (first.toNat - 0xE0) [second, third], 2)
              else
                match rest with
                | [] => (replacement, 2)
                | fourth :: _ =>
                    if !isContinuation fourth then (replacement, 2)
                    else (joinBytes (first.toNat - 0xF0) [second, third, fourth], 3)

def decodeFrom : Nat → List UInt8 → Text
  | _, [] => []
  | taken + 1, _ :: rest => decodeFrom taken rest
  | 0, first :: rest => (decodeOne first rest).1 :: decodeFrom (decodeOne first rest).2 rest

def isAscii (symbol : Char) : Bool := symbol.toNat < 128

/-- Runs of ASCII characters are decoded, and the others are left alone. -/
def unquote (text : Text) : Text :=
  if text.contains '%' then
    (text.splitBy fun first second => isAscii first == isAscii second).flatMap fun run =>
      if run.all isAscii then decodeFrom 0 (unquoteToBytes run) else run
  else text

theorem length_unquoteToBytes (text : Text) : (unquoteToBytes text).length ≤ text.length := by
  induction text using unquoteToBytes.induct with
  | case1 => simp [unquoteToBytes]
  | case2 symbol => simp [unquoteToBytes]
  | case3 symbol next => simp [unquoteToBytes]
  | case4 symbol high low rest escape ih =>
      rw [unquoteToBytes, if_pos escape]
      simp only [List.length_cons]
      omega
  | case5 symbol high low rest plain ih =>
      rw [unquoteToBytes, if_neg plain]
      simp only [List.length_cons] at ih ⊢
      omega

theorem length_decodeFrom (bytes : List UInt8) (taken : Nat) :
    (decodeFrom taken bytes).length ≤ bytes.length := by
  induction bytes generalizing taken with
  | nil => cases taken <;> exact Nat.le_refl 0
  | cons first rest ih =>
      cases taken with
      | zero => exact Nat.succ_le_succ (ih _)
      | succ taken => exact Nat.le_succ_of_le (ih taken)

/-- Unquoting does not lengthen a text. -/
theorem length_unquote (text : Text) : (unquote text).length ≤ text.length := by
  unfold unquote
  split
  · have runs := List.flatten_splitBy (fun first second => isAscii first == isAscii second) text
    have counted : ∀ runs : List Text, (runs.flatMap fun run =>
        if run.all isAscii then decodeFrom 0 (unquoteToBytes run) else run).length ≤
          runs.flatten.length := by
      intro runs
      induction runs with
      | nil => exact Nat.le_refl 0
      | cons run rest ih =>
          have own : (if run.all isAscii then decodeFrom 0 (unquoteToBytes run) else run).length ≤
              run.length := by
            split
            · exact (length_decodeFrom _ 0).trans (length_unquoteToBytes run)
            · exact Nat.le_refl _
          rw [List.flatMap_cons, List.flatten_cons, List.length_append, List.length_append]
          omega
    have bound := counted (text.splitBy fun first second => isAscii first == isAscii second)
    rw [runs] at bound
    exact bound
  · exact Nat.le_refl _

theorem quoteByte_colon (byte : UInt8) : ':' ∉ quoteByte byte := by
  have digits : ∀ value < 16, upperHexDigit value ≠ ':' := by decide
  have bound : byte.toNat < 256 := UInt8.toNat_lt_size byte
  unfold quoteByte
  dsimp only
  split
  · rename_i plain
    intro member
    rw [← List.mem_singleton.mp member] at plain
    revert plain
    decide
  · simp only [List.mem_cons, List.not_mem_nil, or_false, not_or]
    exact ⟨by decide, (digits _ (by omega)).symm, (digits _ (by omega)).symm⟩

/-- A quoted text holds no colon. -/
theorem quote_colon (text : Text) : ':' ∉ quote text := by
  unfold quote
  simp only [List.mem_flatMap, not_exists, not_and]
  intro symbol _ byte _
  exact quoteByte_colon byte

end OperationsConsole.Redaction
