/-
This file embeds the values that the JSON reader of the language builds, and the operations that
raise an exception on a value of another shape.
-/

import Mathlib.Algebra.Order.Ring.Rat
import OperationsConsole.Library.Raising

namespace Library

/-- A text of the language may hold lone surrogates, which no encoding of a text can hold. -/
inductive Symbol where
  | scalar (char : Char)
  | surrogate (unit : Fin 2048)
  deriving DecidableEq

abbrev PyText := List Symbol

/-- These are the symbols of a literal. -/
def literal (text : String) : PyText := text.toList.map Symbol.scalar

def Symbol.isScalar : Symbol → Bool
  | scalar _ => true
  | surrogate _ => false

/-- A text without lone surrogates can be encoded. -/
def encodable (text : PyText) : Bool := text.all Symbol.isScalar

/-- A binary floating-point number is a rational, or it is out of range or no number. -/
inductive Double where
  | finite (value : ℚ)
  | infinite (negative : Bool)
  | nan
  deriving DecidableEq

def Double.isFinite : Double → Bool
  | finite _ => true
  | _ => false

/-- A dictionary lists its items, and each key once. -/
inductive Json where
  | null
  | bool (value : Bool)
  | int (value : ℤ)
  | float (value : Double)
  | text (value : PyText)
  | list (items : List Json)
  | dict (items : List (PyText × Json))

/-- The class of a raised exception. -/
inductive Raised where
  | attributeError
  | typeError
  | valueError
  | jsonDecodeError
  | keyError
  | indexError
  | overflowError
  | osError
  | recursionError
  | zeroDivisionError
  | unicodeEncodeError
  | invalidUrl
  deriving DecidableEq

/-- A request fails with an error of its transport, which has a name, or it raises another
exception. -/
inductive RequestFailure where
  | httpError (name : String)
  | raised (exception : Raised)
  deriving DecidableEq

namespace Json

def truthy : Json → Bool
  | null => false
  | bool value => value
  | int value => value ≠ 0
  | float value => value ≠ .finite 0
  | text value => value ≠ []
  | list items => !items.isEmpty
  | dict items => !items.isEmpty

/-- The first operand of `or` wins if it is truthy. -/
def orElse (value other : Json) : Json := if value.truthy then value else other

def isDict : Json → Bool
  | dict _ => true
  | _ => false

def isText : Json → Bool
  | text _ => true
  | _ => false

/-- This is the method `get` of a dictionary, which other values do not have. -/
def get (value : Json) (key : String) (default : Json) : Except Raised Json :=
  match value with
  | dict items => .ok ((items.lookup (literal key)).getD default)
  | _ => .error .attributeError

/-- The field of a dictionary, or else the default. -/
def field (value : Json) (key : String) (default : Json) : Json :=
  match value with
  | dict items => (items.lookup (literal key)).getD default
  | _ => default

/-- An iteration visits the items of a list, the symbols of a text and the keys of a dictionary. -/
def iterate : Json → Except Raised (List Json)
  | list items => .ok items
  | text value => .ok (value.map fun symbol => text [symbol])
  | dict items => .ok (items.map fun item => text item.1)
  | _ => .error .typeError

/-- Two targets take exactly two items. -/
def unpack (value : Json) : Except Raised (Json × Json) := do
  match ← value.iterate with
  | [first, second] => return (first, second)
  | _ => .error .valueError

/-- A sequence has items by their places, and a dictionary of texts has no integer key. -/
def item (value : Json) (index : Nat) : Except Raised Json :=
  match value with
  | list items => match items[index]? with
      | some found => .ok found
      | none => .error .indexError
  | text symbols => match symbols[index]? with
      | some found => .ok (text [found])
      | none => .error .indexError
  | dict _ => .error .keyError
  | _ => .error .typeError

def isTextOf (value : Json) (expected : String) : Bool :=
  match value with
  | text value => value = literal expected
  | _ => false

end Json

/-- The keys of a dictionary compare numbers by their values, whatever their types are. -/
inductive Label where
  | null
  | number (value : Double)
  | text (value : PyText)
  deriving DecidableEq

namespace Json

/-- Lists and dictionaries are no keys of a dictionary. -/
def hash : Json → Except Raised Label
  | null => .ok .null
  | bool value => .ok (.number (.finite (if value then 1 else 0)))
  | int value => .ok (.number (.finite value))
  | float value => .ok (.number value)
  | text value => .ok (.text value)
  | list _ => .error .typeError
  | dict _ => .error .typeError

/-- A dictionary gives its field, and another value raises an exception. -/
theorem get_eq_ok_iff (value : Json) (key : String) (default found : Json) :
    value.get key default = .ok found ↔ value.isDict = true ∧ value.field key default = found := by
  cases value <;> simp [get, field, isDict]

theorem orElse_cases (value other : Json) :
    value.orElse other = value ∧ value.truthy = true ∨ value.orElse other = other := by
  unfold orElse
  split
  · rename_i holds
    exact .inl ⟨rfl, holds⟩
  · exact .inr rfl

end Json

/-- The body of an answer is a JSON value, or it is no JSON for an error of some class, or it is
nested too deeply to read. -/
inductive JsonBody where
  | read (value : Json)
  | malformed (error : String)
  | tooDeep

/-- This is the method `json` of an answer. -/
def JsonBody.json : JsonBody → Except Raised Json
  | read value => .ok value
  | malformed _ => .error .valueError
  | tooDeep => .error .recursionError

end Library
